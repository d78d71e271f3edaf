import Mathlib.Data.List.Induction
import Mathlib.Data.List.Nodup

/-! Lists without repetitions: each item stands where it first occurs. -/

namespace FirstOccurrences
open List

variable {α : Type} [DecidableEq α]

theorem eraseDups_concat (items : List α) (item : α) :
    (items ++ [item]).eraseDups = if item ∈ items then items.eraseDups else items.eraseDups ++ [item] := by
  rw [eraseDups_append]
  by_cases known : item ∈ items
  · rw [if_pos known, removeAll, filter_cons_of_neg (by simpa using known)]
    simp
  · rw [if_neg known, removeAll, filter_cons_of_pos (by simpa using known)]
    simp [eraseDups_cons]

theorem nodup_eraseDups (items : List α) : items.eraseDups.Nodup := by
  induction items using reverseRecOn with
  | nil => simp
  | append_singleton _ _ ih =>
    rw [eraseDups_concat]
    split
    · exact ih
    · rename_i unknown
      rw [← concat_eq_append]
      exact ih.concat (by simpa using unknown)

theorem length_eraseDups_le (items : List α) : items.eraseDups.length ≤ items.length := by
  induction items using reverseRecOn with
  | nil => simp
  | append_singleton =>
    rw [eraseDups_concat, length_append]
    split
    · omega
    · rw [length_append]
      simp only [length_singleton]
      omega

theorem eraseDups_eq_nil {items : List α} : items.eraseDups = [] ↔ items = [] := by
  cases items with
  | nil => simp
  | cons => simp [eraseDups_cons]

end FirstOccurrences
