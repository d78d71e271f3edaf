import Yori.Identifiers

/-! Numbers written out in decimal. -/

namespace Yori
open ByteString

def digit (byte : UInt8) : Bool := 48 ≤ byte && byte ≤ 57

def decimal (digits : ByteString) : Nat := digits.foldl (fun number byte => 10 * number + (byte.toNat - 48)) 0

theorem containsNul_append (first second : ByteString) :
    containsNul (first ++ second) = (containsNul first || containsNul second) := by
  simp [containsNul]

theorem digit_ne_nul {digit : Char} (isDigit : digit.isDigit = true) : UInt8.ofNat digit.toNat ≠ nul := by
  intro zero
  simp only [Char.isDigit, Bool.and_eq_true, decide_eq_true_eq, ge_iff_le, UInt32.le_iff_toNat_le] at isDigit
  have bounds : 48 ≤ digit.toNat ∧ digit.toNat ≤ 57 := isDigit
  have value : digit.toNat % 256 = 0 := by simpa [nul] using congrArg UInt8.toNat zero
  omega

theorem containsNul_decimal (number : Nat) : containsNul (ascii (toString number)) = false := by
  have digits : ∀ digit ∈ Nat.toDigits 10 number, UInt8.ofNat digit.toNat ≠ nul := fun digit member =>
    digit_ne_nul (Nat.isDigit_of_mem_toDigits (by omega) (by omega) member)
  rw [Nat.toString_eq_ofList_toDigits, ascii, String.toList_ofList]
  simpa [containsNul] using digits

theorem length_decimal {number width : Nat} (positive : 0 < width) (bound : number < 10 ^ width) :
    (ascii (toString number)).length ≤ width := by
  rw [Nat.toString_eq_ofList_toDigits, ascii, String.toList_ofList, List.length_map,
    Nat.length_toDigits_le_iff (by omega) positive]
  exact bound

theorem ascii_append (first second : String) : ascii (first ++ second) = ascii first ++ ascii second := by
  simp [ascii]

end Yori
