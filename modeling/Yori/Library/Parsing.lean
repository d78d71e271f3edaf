import Mathlib.Data.List.Forall2
import Yori.Library.Checked

/-! Readers that take values off the front of a list of symbols, and writers that may refuse a value. -/

namespace Parsing
open List

variable {ε β α γ : Type} {write : α → Option (List β)} {piece alternative : Option (List β)}
  {pieces : List (Option (List β))} {bad chosen : Prop} {values : List α} {error : ε} {result : γ} {value : α}

/-- What is left of the symbols is the state. A reader that fails says why. -/
abbrev Reader (ε β α : Type) := StateT (List β) (Except ε) α

namespace Reader

def failIf (bad : Prop) [Decidable bad] (error : ε) : Reader ε β Unit := fun symbols =>
  if bad then .error error else .ok ((), symbols)

theorem failIf_passed [Decidable bad] (good : ¬bad) : (failIf bad error : Reader ε β Unit) = pure () := by
  funext symbols
  exact if_neg good

theorem failIf_failed [Decidable bad] (fails : bad) : (failIf bad error : Reader ε β Unit) = fun _ => .error error := by
  funext symbols
  exact if_pos fails

def one (error : ε) : Reader ε β β
  | [] => .error error
  | symbol :: rest => .ok (symbol, rest)

def take (count : Nat) (error : ε) : Reader ε β (List β) := fun symbols =>
  if symbols.length < count then .error error else .ok (symbols.take count, symbols.drop count)

/-- Nothing may be left. -/
def exhausted (error : ε) : Reader ε β Unit
  | [] => .ok ((), [])
  | _ :: _ => .error error

def repeated (item : Reader ε β α) : Nat → Reader ε β (List α)
  | 0 => pure []
  | count + 1 => do
    let first ← item
    let rest ← repeated item count
    return first :: rest

end Reader

/-- The pieces one after the other, unless one of them was refused. -/
def inTurn : List (Option (List β)) → Option (List β)
  | [] => some []
  | piece :: pieces => do
    let first ← piece
    let others ← inTurn pieces
    return first ++ others

/-- A piece without symbols, refused when the check fails. -/
def refuseIf (bad : Prop) [Decidable bad] : Option (List β) := if bad then none else some []

theorem inTurn_cons_eq_some {written : List β} :
    inTurn (piece :: pieces) = some written ↔
      ∃ first others, piece = some first ∧ inTurn pieces = some others ∧ written = first ++ others := by
  constructor
  · intro done
    obtain ⟨first, atFirst, done⟩ := Option.bind_eq_some_iff.mp done
    obtain ⟨others, atOthers, done⟩ := Option.bind_eq_some_iff.mp done
    exact ⟨first, others, atFirst, atOthers, (Option.some.inj done).symm⟩
  · rintro ⟨_, _, rfl, atOthers, rfl⟩
    simp only [inTurn, Option.bind_eq_bind, Option.bind_some, atOthers, Option.pure_def]

theorem inTurn_append_eq_some {more : List (Option (List β))} {written : List β} :
    inTurn (pieces ++ more) = some written ↔
      ∃ front back, inTurn pieces = some front ∧ inTurn more = some back ∧ written = front ++ back := by
  induction pieces generalizing written with
  | nil =>
    constructor
    · intro done
      exact ⟨[], written, rfl, done, rfl⟩
    · rintro ⟨_, _, atFront, done, rfl⟩
      cases atFront
      exact done
  | cons _ _ ih =>
    rw [cons_append, inTurn_cons_eq_some]
    constructor
    · rintro ⟨first, _, atFirst, atOthers, rfl⟩
      obtain ⟨front, back, atFront, atBack, rfl⟩ := ih.mp atOthers
      have joined := inTurn_cons_eq_some.mpr ⟨first, front, atFirst, atFront, rfl⟩
      exact ⟨first ++ front, back, joined, atBack, (append_assoc ..).symm⟩
    · rintro ⟨_, back, atFront, atBack, rfl⟩
      obtain ⟨first, front, atFirst, atRest, rfl⟩ := inTurn_cons_eq_some.mp atFront
      exact ⟨first, front ++ back, atFirst, ih.mpr ⟨front, back, atRest, atBack, rfl⟩, append_assoc ..⟩

/-- The reader takes exactly these symbols and makes this value of them, whatever follows. -/
def Reads (reader : Reader ε β α) (written : List β) (value : α) : Prop :=
  ∀ rest, reader (written ++ rest) = .ok (value, rest)

theorem Reads.bind {reader : Reader ε β α} {written more : List β} {next : α → Reader ε β γ}
    (first : Reads reader written value) (second : Reads (next value) more result) :
    Reads (reader >>= next) (written ++ more) result := by
  intro rest
  have start := first (more ++ rest)
  show (reader (written ++ more ++ rest) >>= fun found => next found.1 found.2) = _
  rw [append_assoc, start]
  exact second rest

/-- Whatever is written, if it is not refused, the reader makes this value of it. -/
def Inverts (reader : Reader ε β α) (piece : Option (List β)) (value : α) : Prop :=
  ∀ written, piece = some written → Reads reader written value

namespace Inverts

variable {reader : Reader ε β α} {piece : Option (List β)} {pieces : List (Option (List β))} {value : α}

theorem pure (value : α) : Inverts (Pure.pure value : Reader ε β α) (inTurn []) value := by
  intro _ done _
  cases done
  rfl

theorem bind {next : α → Reader ε β γ} (first : Inverts reader piece value)
    (second : Inverts (next value) (inTurn pieces) result) :
    Inverts (reader >>= next) (inTurn (piece :: pieces)) result := by
  intro _ done
  obtain ⟨front, others, atFront, atOthers, rfl⟩ := inTurn_cons_eq_some.mp done
  exact (first front atFront).bind (second others atOthers)

/-- A single piece is a sequence of its own. -/
theorem single (only : Inverts reader piece value) : Inverts reader (inTurn [piece]) value := by
  intro _ done
  obtain ⟨front, _, atFront, atOthers, rfl⟩ := inTurn_cons_eq_some.mp done
  cases atOthers
  rw [append_nil]
  exact only front atFront

theorem of_single (only : Inverts reader (inTurn [piece]) value) : Inverts reader piece value := by
  intro written done
  have alone : inTurn [piece] = some (written ++ []) := inTurn_cons_eq_some.mpr ⟨written, [], done, rfl, rfl⟩
  rw [append_nil] at alone
  exact only written alone

/-- A value of a piece is reshaped. -/
theorem map {f : α → γ} (only : Inverts reader piece value) :
    Inverts (do return f (← reader)) piece (f value) :=
  of_single (only.bind (pure (f value)))

/-- A check of the writer is a fact for what follows. -/
theorem refuseIf [Decidable bad] (rest : ¬bad → Inverts reader (inTurn pieces) value) :
    Inverts reader (inTurn (refuseIf bad :: pieces)) value := by
  intro _ done
  obtain ⟨_, others, atFront, atOthers, rfl⟩ := inTurn_cons_eq_some.mp done
  by_cases fails : bad
  · rw [Parsing.refuseIf, if_pos fails] at atFront
    cases atFront
  · rw [Parsing.refuseIf, if_neg fails] at atFront
    cases atFront
    exact rest fails others atOthers

/-- A check of the reader that holds takes nothing. -/
theorem check [Decidable bad] {next : Unit → Reader ε β γ} (good : ¬bad) (rest : Inverts (next ()) piece result) :
    Inverts (Reader.failIf bad error >>= next) piece result := by
  rwa [Reader.failIf_passed good, pure_bind]

theorem one (symbol : β) : Inverts (Reader.one error) (some [symbol]) symbol := by
  intro _ done _
  cases done
  rfl

theorem take (symbols : List β) {count : Nat} (all : count = symbols.length) :
    Inverts (Reader.take count error) (some symbols) symbols := by
  intro written done rest
  cases done
  have enough : ¬(symbols ++ rest).length < count := by
    rw [length_append]
    omega
  rw [Reader.take, if_neg enough, all, take_left, drop_left]

/-- A list is read back if each of its values is. -/
theorem repeated {item : Reader ε β γ} {back : α → γ}
    (each : ∀ value ∈ values, Inverts item (write value) (back value)) :
    Inverts (Reader.repeated item values.length) (inTurn (values.map write)) (values.map back) := by
  induction values with
  | nil => exact pure []
  | cons value _ ih =>
    obtain ⟨first, later⟩ := forall_mem_cons.mp each
    have tail := (ih later).map (f := fun others => back value :: others)
    exact first.bind tail

/-- Alternatives that the writer and the reader choose alike. -/
theorem ite [Decidable chosen] {other : Reader ε β α} (yes : chosen → Inverts reader piece value)
    (no : ¬chosen → Inverts other alternative value) :
    Inverts (if chosen then reader else other) (if chosen then piece else alternative) value := by
  by_cases holds : chosen
  · rw [if_pos holds, if_pos holds]
    exact yes holds
  · rw [if_neg holds, if_neg holds]
    exact no holds

end Inverts

/-- The piece is not refused and has so many symbols. -/
def Sized (piece : Option (List β)) (size : Nat) : Prop := ∃ written, piece = some written ∧ written.length = size

namespace Sized

variable {piece : Option (List β)} {pieces more : List (Option (List β))} {size other : Nat} {sizes : List Nat}

theorem written (symbols : List β) : Sized (some symbols) symbols.length := ⟨symbols, rfl, rfl⟩

theorem of_length {symbols : List β} (length : symbols.length = size) : Sized (some symbols) size :=
  ⟨symbols, rfl, length⟩

theorem unrefused [Decidable bad] (good : ¬bad) : Sized (refuseIf bad : Option (List β)) 0 :=
  ⟨[], if_neg good, rfl⟩

theorem ite [Decidable chosen] (yes : chosen → Sized piece size) (no : ¬chosen → Sized alternative other) :
    Sized (if chosen then piece else alternative) (if chosen then size else other) := by
  by_cases holds : chosen
  · rw [if_pos holds, if_pos holds]
    exact yes holds
  · rw [if_neg holds, if_neg holds]
    exact no holds

/-- The sizes of pieces in turn add up. -/
theorem inTurn (all : Forall₂ Sized pieces sizes) : Sized (inTurn pieces) sizes.sum := by
  induction all with
  | nil => exact ⟨[], rfl, rfl⟩
  | cons first _ ih =>
    obtain ⟨front, rfl, rfl⟩ := first
    obtain ⟨others, atOthers, length⟩ := ih
    refine ⟨front ++ others, inTurn_cons_eq_some.mpr ⟨front, others, rfl, atOthers, rfl⟩, ?_⟩
    rw [length_append, length, sum_cons]

theorem inTurn_append (first : Sized (Parsing.inTurn pieces) size) (second : Sized (Parsing.inTurn more) other) :
    Sized (Parsing.inTurn (pieces ++ more)) (size + other) := by
  obtain ⟨front, atFront, rfl⟩ := first
  obtain ⟨back, atBack, rfl⟩ := second
  exact ⟨front ++ back, inTurn_append_eq_some.mpr ⟨front, back, atFront, atBack, rfl⟩, length_append⟩

theorem inTurn_map {length : α → Nat} (each : ∀ value ∈ values, Sized (write value) (length value)) :
    Sized (Parsing.inTurn (values.map write)) (values.map length).sum := by
  refine inTurn ?_
  rw [forall₂_map_left_iff, forall₂_map_right_iff, forall₂_same]
  exact each

end Sized

/-- The piece is not refused and has at most so many symbols. -/
def AtMost (piece : Option (List β)) (bound : Nat) : Prop := ∃ size, Sized piece size ∧ size ≤ bound

theorem Sized.fits {size : Nat} (sized : Sized piece size) : AtMost piece size :=
  ⟨size, sized, Nat.le_refl size⟩

namespace AtMost

variable {piece alternative : Option (List β)} {pieces more : List (Option (List β))} {bound other : Nat}
  {bounds : List Nat}

theorem mono (fits : AtMost piece bound) (larger : bound ≤ other) : AtMost piece other := by
  obtain ⟨size, sized, within⟩ := fits
  exact ⟨size, sized, Nat.le_trans within larger⟩

theorem ite [Decidable chosen] (yes : chosen → AtMost piece bound) (no : ¬chosen → AtMost alternative bound) :
    AtMost (if chosen then piece else alternative) bound := by
  by_cases holds : chosen
  · rw [if_pos holds]
    exact yes holds
  · rw [if_neg holds]
    exact no holds

/-- The bounds of pieces in turn add up. -/
theorem inTurn (all : Forall₂ AtMost pieces bounds) : AtMost (inTurn pieces) bounds.sum := by
  induction all with
  | nil => exact ⟨0, Sized.inTurn .nil, Nat.le_refl 0⟩
  | cons first _ ih =>
    obtain ⟨_, ⟨front, rfl, rfl⟩, frontWithin⟩ := first
    obtain ⟨_, ⟨others, atOthers, rfl⟩, othersWithin⟩ := ih
    refine ⟨_, ⟨front ++ others, inTurn_cons_eq_some.mpr ⟨front, others, rfl, atOthers, rfl⟩, rfl⟩, ?_⟩
    rw [length_append, sum_cons]
    exact Nat.add_le_add frontWithin othersWithin

theorem inTurn_append (first : AtMost (Parsing.inTurn pieces) bound) (second : AtMost (Parsing.inTurn more) other) :
    AtMost (Parsing.inTurn (pieces ++ more)) (bound + other) := by
  obtain ⟨size, sized, within⟩ := first
  obtain ⟨rest, restSized, restWithin⟩ := second
  exact ⟨size + rest, sized.inTurn_append restSized, Nat.add_le_add within restWithin⟩

theorem inTurn_map {limit : α → Nat} (each : ∀ value ∈ values, AtMost (write value) (limit value)) :
    AtMost (Parsing.inTurn (values.map write)) (values.map limit).sum := by
  refine inTurn ?_
  rw [forall₂_map_left_iff, forall₂_map_right_iff, forall₂_same]
  exact each

end AtMost

/-- Whatever the reader makes has the property. -/
def Yields (reader : Reader ε β α) (property : α → Prop) : Prop :=
  ∀ symbols value rest, reader symbols = .ok (value, rest) → property value

namespace Yields

variable {reader : Reader ε β α} {property : α → Prop} {next : α → Reader ε β γ} {after : γ → Prop}

theorem pure (holds : property value) : Yields (Pure.pure value : Reader ε β α) property := by
  intro _ _ _ done
  cases done
  exact holds

theorem bind (first : Yields reader property) (second : ∀ value, property value → Yields (next value) after) :
    Yields (reader >>= next) after := by
  intro symbols result left done
  obtain ⟨⟨value, rest⟩, read, later⟩ := Checked.bind_eq_ok.mp done
  exact second value (first symbols value rest read) rest result left later

theorem anything (reader : Reader ε β α) : Yields reader fun _ => True := fun _ _ _ _ => trivial

/-- What was read before does not matter. -/
theorem skip (each : ∀ value, Yields (next value) after) :
    Yields (reader >>= next) after := bind (anything reader) fun value _ => each value

theorem failIf [Decidable bad] : Yields (Reader.failIf bad error : Reader ε β Unit) fun _ => ¬bad := by
  intro _ _ _ done fails
  rw [Reader.failIf_failed fails] at done
  cases done

theorem ite [Decidable chosen] {other : Reader ε β α} (yes : Yields reader property) (no : Yields other property) :
    Yields (if chosen then reader else other) property := by
  split
  · exact yes
  · exact no

end Yields

end Parsing
