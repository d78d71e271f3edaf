import Mathlib.Algebra.Group.Int.Defs
import Mathlib.Algebra.Group.Nat.Defs
import Mathlib.Order.Lattice

/-- Unsigned words are ordered by their value, as the language orders them. -/
instance UInt64.linearOrder : LinearOrder UInt64 where
  le_refl := UInt64.le_refl
  le_trans := fun _ _ _ => UInt64.le_trans
  le_antisymm := fun _ _ => UInt64.le_antisymm
  le_total := UInt64.le_total
  lt_iff_le_not_ge := fun a b => by
    simp only [UInt64.le_iff_toNat_le, UInt64.lt_iff_toNat_lt]
    omega
  toDecidableLE := inferInstance
  toDecidableEq := inferInstance
  toDecidableLT := inferInstance

instance UInt8.linearOrder : LinearOrder UInt8 where
  le_refl := UInt8.le_refl
  le_trans := fun _ _ _ => UInt8.le_trans
  le_antisymm := fun _ _ => UInt8.le_antisymm
  le_total := UInt8.le_total
  lt_iff_le_not_ge := fun a b => by
    simp only [UInt8.le_iff_toNat_le, UInt8.lt_iff_toNat_lt]
    omega
  toDecidableLE := inferInstance
  toDecidableEq := inferInstance
  toDecidableLT := inferInstance

namespace MachineWord

variable {word : UInt64}

/-- The largest 64-bit word, the point where increments wrap around. -/
def max64 : UInt64 := 18446744073709551615

theorem toNat_max64 : max64.toNat = 2 ^ 64 - 1 := rfl

theorem ne_max64_iff : word ≠ max64 ↔ word.toNat < 2 ^ 64 - 1 := by
  have bound := word.toNat_lt
  rw [ne_eq, ← UInt64.toNat_inj, toNat_max64]
  omega

/-- Below the largest word an increment does not wrap. -/
theorem toNat_succ (below : word ≠ max64) : (word + 1).toNat = word.toNat + 1 := by
  have bound := ne_max64_iff.mp below
  rw [UInt64.toNat_add]
  have one : (1 : UInt64).toNat = 1 := rfl
  rw [one]
  omega

theorem succ_ne_zero (below : word ≠ max64) : word + 1 ≠ 0 := by
  intro zero
  have value := toNat_succ below
  rw [zero] at value
  change 0 = word.toNat + 1 at value
  omega

/-- The bits of a word read as a signed number. -/
def signed (word : UInt64) : Int :=
  if word.toNat < 2 ^ 63 then word.toNat else word.toNat - 2 ^ 64

/-- The word with the bits of a signed number. -/
def unsigned (number : Int) : UInt64 := UInt64.ofNat (number % 2 ^ 64).toNat

@[simp] theorem unsigned_signed (word : UInt64) : unsigned (signed word) = word := by
  have bound := word.toNat_lt
  have low : ((signed word) % 2 ^ 64).toNat = word.toNat := by
    unfold signed
    split <;> omega
  rw [unsigned, low, UInt64.ofNat_toNat]

theorem signed_injective : Function.Injective signed := Function.LeftInverse.injective unsigned_signed

theorem signed_nonneg : 0 ≤ signed word ↔ word.toNat < 2 ^ 63 := by
  have bound := word.toNat_lt
  unfold signed
  split <;> omega

end MachineWord
