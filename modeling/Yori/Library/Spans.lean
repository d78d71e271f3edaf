import Mathlib.Order.Lattice

/-! Pieces of a stream of positions that follow each other without a gap. -/

variable {α β π : Type} [Preorder π]

/-- The pieces lead from one position to another: each begins where the one before it ends. -/
def Spans (first last : α → π) : π → List α → π → Prop
  | start, [], stop => start = stop
  | start, piece :: rest, stop => first piece = start ∧ start ≤ last piece ∧ Spans first last (last piece) rest stop

namespace Spans
open List

variable {first last : α → π} {start middle stop : π} {pieces later : List α} {piece : α}

theorem le (spans : Spans first last start pieces stop) : start ≤ stop := by
  induction pieces generalizing start with
  | nil => exact le_of_eq spans
  | cons _ _ ih => exact le_trans spans.2.1 (ih spans.2.2)

theorem append (before : Spans first last start pieces middle) (after : Spans first last middle later stop) :
    Spans first last start (pieces ++ later) stop := by
  induction pieces generalizing start with
  | nil =>
    have same : start = middle := before
    rw [same]
    exact after
  | cons _ _ ih => exact ⟨before.1, before.2.1, ih before.2.2⟩

/-- A span that is cut in two is two spans. -/
theorem split (whole : Spans first last start (pieces ++ later) stop) :
    ∃ middle, Spans first last start pieces middle ∧ Spans first last middle later stop := by
  induction pieces generalizing start with
  | nil => exact ⟨start, rfl, whole⟩
  | cons _ _ ih =>
    obtain ⟨middle, before, after⟩ := ih whole.2.2
    exact ⟨middle, ⟨whole.1, whole.2.1, before⟩, after⟩

theorem singleton (ordered : first piece ≤ last piece) : Spans first last (first piece) [piece] (last piece) :=
  ⟨rfl, ordered, rfl⟩

section

variable (spans : Spans first last start pieces stop)
include spans

theorem ordered : ∀ piece ∈ pieces, first piece ≤ last piece := by
  induction pieces generalizing start with
  | nil => simp
  | cons _ _ ih => exact forall_mem_cons.mpr ⟨spans.1.le.trans spans.2.1, ih spans.2.2⟩

theorem bounds :
    ∀ piece ∈ pieces, start ≤ first piece ∧ last piece ≤ stop := by
  induction pieces generalizing start with
  | nil => simp
  | cons _ _ ih =>
    refine forall_mem_cons.mpr ⟨⟨spans.1.ge, spans.2.2.le⟩, fun later member => ?_⟩
    obtain ⟨above, below⟩ := ih spans.2.2 later member
    exact ⟨spans.2.1.trans above, below⟩

/-- The last piece ends where the span ends. -/
theorem getLast : (pieces.getLast?.map last).getD start = stop := by
  induction pieces generalizing start with
  | nil => exact spans
  | cons _ rest ih =>
    have tail := ih spans.2.2
    cases rest with
    | nil => exact tail
    | cons =>
      rw [getLast?_cons_cons]
      rw [getLast?_cons] at tail ⊢
      exact tail

/-- Pieces without extent do not move. -/
theorem eq_of_forall_eq (empty : ∀ piece ∈ pieces, first piece = last piece) :
    start = stop := by
  induction pieces generalizing start with
  | nil => exact spans
  | cons _ _ ih =>
    obtain ⟨here, later⟩ := forall_mem_cons.mp empty
    exact (spans.1.symm.trans here).trans (ih spans.2.2 later)

/-- Another reading of the pieces with the same ends spans the same positions. -/
theorem map {f : α → β} {first' last' : β → π} (begins : ∀ piece ∈ pieces, first' (f piece) = first piece)
    (ends : ∀ piece ∈ pieces, last' (f piece) = last piece) :
    Spans first' last' start (pieces.map f) stop := by
  induction pieces generalizing start with
  | nil => exact spans
  | cons _ _ ih =>
    obtain ⟨beginHere, beginLater⟩ := forall_mem_cons.mp begins
    obtain ⟨endHere, endLater⟩ := forall_mem_cons.mp ends
    refine ⟨beginHere.trans spans.1, ?_, ?_⟩
    · rw [endHere]
      exact spans.2.1
    · rw [endHere]
      exact ih spans.2.2 beginLater endLater

end

/-- The pieces hold exactly the positions between the two ends. -/
theorem exists_holding_iff {κ : Type} [LinearOrder κ] {first last : α → κ} {start stop position : κ}
    (spans : Spans first last start pieces stop) :
    (∃ piece ∈ pieces, first piece ≤ position ∧ position < last piece) ↔ start ≤ position ∧ position < stop := by
  constructor
  · rintro ⟨piece, member, above, below⟩
    obtain ⟨lower, upper⟩ := spans.bounds piece member
    exact ⟨lower.trans above, below.trans_le upper⟩
  · rintro ⟨above, below⟩
    induction pieces generalizing start with
    | nil => exact absurd (above.trans_lt below) (lt_irrefl _ <| spans ▸ ·)
    | cons piece _ ih =>
      rcases lt_or_ge position (last piece) with inside | beyond
      · exact ⟨piece, mem_cons_self .., spans.1.le.trans above, inside⟩
      · obtain ⟨later, member, holds⟩ := ih spans.2.2 beyond
        exact ⟨later, mem_cons_of_mem _ member, holds⟩

end Spans
