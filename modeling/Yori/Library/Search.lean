import Mathlib.Data.List.Basic

/-! Linear searches in vectors. -/

namespace Search
open List

variable {α : Type} {items : List α} {item first : α}

/-- A search for something that occurs once finds it wherever it stands. -/
theorem find?_of_unique {test : α → Bool} (unique : ∀ a ∈ items, ∀ b ∈ items, test a = true → test b = true → a = b) :
    items.find? test = some item ↔ item ∈ items ∧ test item = true := by
  constructor
  · intro found
    exact ⟨mem_of_find?_eq_some found, find?_some found⟩
  · intro ⟨member, passes⟩
    cases result : items.find? test with
    | none => exact absurd passes (find?_eq_none.mp result item member)
    | some other =>
      rw [unique other (mem_of_find?_eq_some result) item member (find?_some result) passes]

/-- Tests that agree on the items of a list erase the same item of it. -/
theorem eraseP_of_agree {first second : α → Bool} (agree : ∀ item ∈ items, first item = second item) :
    items.eraseP first = items.eraseP second := by
  induction items with
  | nil => rfl
  | cons _ _ ih =>
    obtain ⟨atHead, atRest⟩ := forall_mem_cons.mp agree
    rw [eraseP_cons, eraseP_cons, atHead, ih atRest]

/-- Erasing one item brings at most one new item into a window at the front. -/
theorem mem_take_of_mem_take_erase [DecidableEq α] {erased : α} {window : Nat}
    (member : item ∈ (items.erase erased).take window) : item ∈ items.take (window + 1) := by
  induction items generalizing window with
  | nil => simp at member
  | cons _ _ ih =>
    rw [take_succ_cons, mem_cons]
    rw [erase_cons] at member
    split at member
    · exact .inr member
    · cases window with
      | zero => simp at member
      | succ =>
        rw [take_succ_cons, mem_cons] at member
        exact member.imp_right ih

/-- A list has one first item with a property. -/
theorem first_unique {p : α → Prop} {before after front back : List α} {other : α}
    (same : before ++ first :: after = front ++ other :: back) (noneBefore : ∀ item ∈ before, ¬p item)
    (atFirst : p first) (noneFront : ∀ item ∈ front, ¬p item) (atOther : p other) : before = front ∧ first = other := by
  induction before generalizing front with
  | nil =>
    cases front with
    | nil => exact ⟨rfl, (cons.inj same).1⟩
    | cons head =>
      have here : first = head := (cons.inj same).1
      exact absurd (here ▸ atFirst) (noneFront head (mem_cons_self ..))
  | cons head _ ih =>
    cases front with
    | nil =>
      have here : head = other := (cons.inj same).1
      exact absurd (here ▸ atOther) (noneBefore head (mem_cons_self ..))
    | cons =>
      obtain ⟨sameHead, sameRest⟩ := cons.inj same
      obtain ⟨equal, firsts⟩ := ih sameRest (fun item member => noneBefore item (mem_cons_of_mem _ member))
        (fun item member => noneFront item (mem_cons_of_mem _ member))
      exact ⟨by rw [sameHead, equal], firsts⟩

/-- A place in a list is its head, or a place behind it. -/
theorem exists_place_cons {p : List α → α → Prop} {rest : List α} :
    (∃ before item after, first :: rest = before ++ item :: after ∧ p before item) ↔
      p [] first ∨ ∃ before item after, rest = before ++ item :: after ∧ p (first :: before) item := by
  constructor
  · rintro ⟨before, item, after, cut, holds⟩
    cases before with
    | nil =>
      cases cut
      exact .inl holds
    | cons =>
      cases cut
      exact .inr ⟨_, item, after, rfl, holds⟩
  · rintro (holds | ⟨before, item, after, rfl, holds⟩)
    · exact ⟨[], first, rest, rfl, holds⟩
    · exact ⟨first :: before, item, after, rfl, holds⟩

end Search
