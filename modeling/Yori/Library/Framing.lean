import Mathlib.Algebra.Group.Nat.Defs
import Mathlib.Data.List.Basic

/-! Values that are written to and read off the front of a list of symbols. -/

/-- What is written for a value that fits can be read back, whatever follows. -/
structure PrefixCodec (β α : Type) where
  put : α → List β
  take : List β → Option (α × List β)
  Fits : α → Prop
  take_put : ∀ value, Fits value → ∀ rest, take (put value ++ rest) = some (value, rest)

namespace PrefixCodec
open List

variable {β α : Type} {values : List α} {size : PrefixCodec β Nat} {codec : PrefixCodec β α} {symbols : List β}
  {limit : Nat}

def takeMany (codec : PrefixCodec β α) : Nat → List β → Option (List α × List β)
  | 0, symbols => some ([], symbols)
  | count + 1, symbols => do
    let (value, rest) ← codec.take symbols
    let (values, rest) ← codec.takeMany count rest
    some (value :: values, rest)

theorem takeMany_put (codec : PrefixCodec β α) (fits : ∀ value ∈ values, codec.Fits value) (rest : List β) :
    codec.takeMany values.length (values.flatMap codec.put ++ rest) = some (values, rest) := by
  induction values with
  | nil => rfl
  | cons value values ih =>
    obtain ⟨first, later⟩ := List.forall_mem_cons.mp fits
    have split : (value :: values).flatMap codec.put ++ rest =
        codec.put value ++ (values.flatMap codec.put ++ rest) := by
      rw [List.flatMap_cons, append_assoc]
    rw [split, List.length_cons, takeMany, codec.take_put value first]
    simp only [Option.bind_eq_bind, Option.bind_some, ih later]

/-- Symbols with their number in front. -/
def block (size : PrefixCodec β Nat) : PrefixCodec β (List β) where
  put symbols := size.put symbols.length ++ symbols
  take symbols := do
    let (length, rest) ← size.take symbols
    if rest.length < length then none else some (rest.take length, rest.drop length)
  Fits symbols := size.Fits symbols.length
  take_put := by
    intro symbols fits rest
    rw [append_assoc, size.take_put _ fits]
    have enough : ¬(symbols ++ rest).length < symbols.length := by
      rw [List.length_append]
      omega
    simp only [Option.bind_eq_bind, Option.bind_some, if_neg enough, List.take_left, List.drop_left]

/-- Values with their number in front. -/
def encodeList (size : PrefixCodec β Nat) (codec : PrefixCodec β α) (values : List α) : List β :=
  size.put values.length ++ values.flatMap codec.put

/-- A list of at most `limit` values is read, and nothing may follow it. -/
def decodeList (size : PrefixCodec β Nat) (codec : PrefixCodec β α) (limit : Nat) (symbols : List β) :
    Option (List α) := do
  let (count, rest) ← size.take symbols
  if count > limit then none
  else
    let (values, rest) ← codec.takeMany count rest
    if rest.isEmpty then some values else none

theorem decodeList_encodeList (counted : size.Fits values.length) (few : values.length ≤ limit)
    (fits : ∀ value ∈ values, codec.Fits value) :
    decodeList size codec limit (encodeList size codec values) = some values := by
  have whole := codec.takeMany_put fits []
  rw [List.append_nil] at whole
  have bound : ¬values.length > limit := by omega
  rw [decodeList, encodeList, size.take_put _ counted]
  simp only [Option.bind_eq_bind, Option.bind_some, if_neg bound, whole, List.isEmpty_nil, if_true]

/-- What is read is what would be written. -/
def Canonical (codec : PrefixCodec β α) : Prop :=
  ∀ {symbols value rest}, codec.take symbols = some (value, rest) → codec.Fits value ∧ symbols = codec.put value ++ rest

theorem Canonical.takeMany (canonical : codec.Canonical) {count : Nat} {rest : List β}
    (taken : codec.takeMany count symbols = some (values, rest)) :
    values.length = count ∧ (∀ value ∈ values, codec.Fits value) ∧ symbols = values.flatMap codec.put ++ rest := by
  induction count generalizing symbols values with
  | zero =>
    cases taken
    exact ⟨rfl, List.forall_mem_nil _, rfl⟩
  | succ _ ih =>
    obtain ⟨⟨value, _⟩, first, taken⟩ := Option.bind_eq_some_iff.mp taken
    obtain ⟨⟨_, _⟩, later, done⟩ := Option.bind_eq_some_iff.mp taken
    cases done
    obtain ⟨fits, rfl⟩ := canonical first
    obtain ⟨rfl, all, rfl⟩ := ih later
    exact ⟨rfl, List.forall_mem_cons.mpr ⟨fits, all⟩, by rw [List.flatMap_cons, append_assoc]⟩

theorem Canonical.block (canonical : size.Canonical) : size.block.Canonical := by
  intro symbols value rest read
  obtain ⟨⟨length, left⟩, counted, taken⟩ := Option.bind_eq_some_iff.mp read
  obtain ⟨fits, rfl⟩ := canonical counted
  dsimp only at taken
  split at taken
  · cases taken
  · cases taken
    have same : (left.take length).length = length := by
      rw [List.length_take]
      omega
    show size.Fits (left.take length).length ∧
      _ = size.put (left.take length).length ++ left.take length ++ left.drop length
    rw [same, append_assoc, List.take_append_drop]
    exact ⟨fits, rfl⟩

/-- The decoder of lists accepts what the encoder makes of short lists of values that fit, and nothing else. -/
theorem decodeList_eq_some_iff (counts : ∀ count ≤ limit, size.Fits count) (sizes : size.Canonical)
    (items : codec.Canonical) :
    decodeList size codec limit symbols = some values ↔
      values.length ≤ limit ∧ (∀ value ∈ values, codec.Fits value) ∧ symbols = encodeList size codec values := by
  constructor
  · intro read
    obtain ⟨⟨count, _⟩, counted, decoded⟩ := Option.bind_eq_some_iff.mp read
    obtain ⟨_, rfl⟩ := sizes counted
    dsimp only at decoded
    split at decoded
    · cases decoded
    · rename_i few
      obtain ⟨⟨_, left⟩, taken, done⟩ := Option.bind_eq_some_iff.mp decoded
      obtain ⟨rfl, fits, rfl⟩ := items.takeMany taken
      cases left with
      | nil =>
        cases done
        exact ⟨Nat.le_of_not_lt few, fits, by rw [encodeList, List.append_nil]⟩
      | cons => cases done
  · rintro ⟨few, fits, rfl⟩
    exact decodeList_encodeList (counts _ few) few fits

end PrefixCodec

namespace LittleEndian

/-- The lowest bytes of a number, from the lowest on. -/
def bytes : Nat → Nat → List UInt8
  | 0, _ => []
  | width + 1, number => UInt8.ofNat number :: bytes width (number / 256)

def number : List UInt8 → Nat
  | [] => 0
  | byte :: rest => byte.toNat + 256 * number rest

theorem length_bytes (width value : Nat) : (bytes width value).length = width := by
  induction width generalizing value with
  | zero => rfl
  | succ _ ih => rw [bytes, List.length_cons, ih]

theorem number_bytes {width value : Nat} (fits : value < 256 ^ width) : number (bytes width value) = value := by
  induction width generalizing value with
  | zero =>
    rw [Nat.pow_zero] at fits
    have zero : value = 0 := by omega
    rw [zero]
    rfl
  | succ width ih =>
    have quotient : value / 256 < 256 ^ width := by
      rw [Nat.pow_succ] at fits
      omega
    have low : (UInt8.ofNat value).toNat = value % 256 := UInt8.toNat_ofNat'
    rw [bytes, number, ih quotient, low]
    omega

theorem number_lt (symbols : List UInt8) : number symbols < 256 ^ symbols.length := by
  induction symbols with
  | nil => exact Nat.one_pos
  | cons byte _ ih =>
    have low := byte.toNat_lt
    rw [number, List.length_cons, Nat.pow_succ]
    omega

theorem bytes_number {width : Nat} {symbols : List UInt8} (length : symbols.length = width) :
    bytes width (number symbols) = symbols := by
  induction symbols generalizing width with
  | nil =>
    subst length
    rfl
  | cons byte rest ih =>
    subst length
    have low := byte.toNat_lt
    have quotient : (byte.toNat + 256 * number rest) / 256 = number rest := by omega
    have head : UInt8.ofNat (byte.toNat + 256 * number rest) = byte := by
      rw [← UInt8.toNat_inj, UInt8.toNat_ofNat']
      omega
    rw [number, List.length_cons, bytes, quotient, head, ih rfl]

/-- Numbers of a fixed width. -/
def word (width : Nat) : PrefixCodec UInt8 Nat where
  put := bytes width
  take symbols := if symbols.length < width then none else some (number (symbols.take width), symbols.drop width)
  Fits value := value < 256 ^ width
  take_put := by
    intro value fits rest
    have enough : ¬(bytes width value ++ rest).length < width := by
      rw [List.length_append, length_bytes]
      omega
    have front : (bytes width value ++ rest).take width = bytes width value :=
      List.take_left' (length_bytes width value)
    have back : (bytes width value ++ rest).drop width = rest := List.drop_left' (length_bytes width value)
    rw [if_neg enough, front, back, number_bytes fits]

theorem word_canonical (width : Nat) : (word width).Canonical := by
  intro symbols value rest taken
  simp only [word] at taken
  split at taken
  · cases taken
  · cases taken
    have length : (symbols.take width).length = width := by
      rw [List.length_take]
      omega
    refine ⟨?_, ?_⟩
    · have bound := number_lt (symbols.take width)
      rwa [length] at bound
    · show symbols = bytes width (number (symbols.take width)) ++ symbols.drop width
      rw [bytes_number length, List.take_append_drop]

end LittleEndian

namespace Separated

variable {α : Type} {separator : α}

/-- A list whose items all come from somewhere comes from a list. -/
theorem exists_map_eq {β : Type} {f : α → β} {From : α → Prop} {list : List β}
    (each : ∀ item ∈ list, ∃ source, From source ∧ f source = item) :
    ∃ sources : List α, sources.map f = list ∧ ∀ source ∈ sources, From source := by
  induction list with
  | nil => exact ⟨[], rfl, by simp⟩
  | cons _ _ ih =>
    obtain ⟨first, later⟩ := List.forall_mem_cons.mp each
    obtain ⟨source, held, same⟩ := first
    obtain ⟨sources, mapped, all⟩ := ih later
    exact ⟨source :: sources, by rw [List.map_cons, same, mapped], List.forall_mem_cons.mpr ⟨held, all⟩⟩

/-- The pieces of a list that is cut at a separator are made of its other elements. -/
theorem of_mem_splitOn [DecidableEq α] {list piece : List α} (member : piece ∈ list.splitOn separator) :
    separator ∉ piece ∧ piece ⊆ list := by
  induction list generalizing piece with
  | nil =>
    rw [List.splitOn_nil, List.mem_singleton] at member
    simp [member]
  | cons head rest ih =>
    rw [List.splitOn_cons_eq_if_modifyHead] at member
    split at member
    · rcases List.mem_cons.mp member with here | later
      · simp [here]
      · exact (ih later).imp_right (List.subset_cons_of_subset head)
    · rename_i other
      obtain ⟨_, _, cut⟩ := List.exists_cons_of_ne_nil (List.splitOn_ne_nil separator rest)
      rw [cut] at member ih
      rcases List.mem_cons.mp member with here | later
      · obtain ⟨clean, within⟩ := ih (List.mem_cons_self ..)
        rw [here, List.mem_cons, not_or]
        exact ⟨⟨fun same => other (by simp [same]), clean⟩, List.cons_subset_cons head within⟩
      · exact (ih (List.mem_cons_of_mem _ later)).imp_right (List.subset_cons_of_subset head)

theorem length_intercalate {pieces : List (List α)} {most : Nat} (short : ∀ piece ∈ pieces, piece.length ≤ most) :
    ([separator].intercalate pieces).length ≤ pieces.length * (most + 1) - 1 := by
  induction pieces with
  | nil => simp
  | cons _ rest ih =>
    obtain ⟨first, later⟩ := List.forall_mem_cons.mp short
    by_cases last : rest = []
    · rw [last, List.intercalate_singleton, List.length_singleton]
      omega
    · have some : 1 ≤ rest.length := List.length_pos_of_ne_nil last
      have bound := ih later
      rw [List.intercalate_cons_of_ne_nil last, List.length_append, List.length_append, List.length_singleton,
        List.length_cons, Nat.succ_mul]
      have room : most + 1 ≤ rest.length * (most + 1) := Nat.le_mul_of_pos_left _ some
      omega

end Separated
