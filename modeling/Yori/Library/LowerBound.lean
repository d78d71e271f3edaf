import Mathlib.Data.List.Sort

/-! Strictly sorted vectors changed by a lower-bound insertion and by erasing.
The comparison is a program's own, `order` ties it to a linear order. -/

namespace LowerBound
open List

variable {α : Type}

theorem insertIdx_append_length (front back : List α) (item : α) :
    (front ++ back).insertIdx front.length item = front ++ item :: back := by
  induction front with
  | nil => rfl
  | cons _ _ ih =>
    simp only [cons_append, length_cons, insertIdx_succ_cons, ih]

section Operations

variable (less : α → α → Bool)

/-- The first position whose item is not below the given one. -/
def position (items : List α) (item : α) : Nat := (items.takeWhile (less · item)).length

/-- Insertion in front of the lower bound. -/
def insert (items : List α) (item : α) : List α := items.insertIdx (position less items item) item

def sort (items : List α) : List α := items.insertionSort fun a b => ¬less b a

theorem mem_sort {items : List α} {item : α} : item ∈ sort less items ↔ item ∈ items := mem_insertionSort _

theorem sort_perm (items : List α) : (sort less items).Perm items := perm_insertionSort _ items

/-- A comparison that only looks at images sorts the images. -/
theorem map_sort {β : Type} {below : β → β → Bool} {f : α → β} (agree : ∀ a b, less a b = below (f a) (f b))
    (items : List α) : (sort less items).map f = sort below (items.map f) :=
  map_insertionSort _ _ f items fun a _ b _ => by rw [agree]

end Operations

variable [LinearOrder α] {less : α → α → Bool} {items others : List α} {item : α}

/-- A weakly sorted list without repetitions is strictly sorted. -/
theorem strict_of_nodup (sorted : items.Pairwise (· ≤ ·)) (nodup : items.Nodup) : items.Pairwise (· < ·) :=
  (sorted.and nodup).imp fun ⟨below, different⟩ => lt_of_le_of_ne below different

theorem nodup_of_strict (sorted : items.Pairwise (· < ·)) : items.Nodup :=
  sorted.imp fun below => below.ne

/-- A strictly sorted list is determined by its members. -/
theorem eq_of_same_members (sorted : items.Pairwise (· < ·)) (othersSorted : others.Pairwise (· < ·))
    (same : ∀ item, item ∈ items ↔ item ∈ others) : items = others :=
  sorted.eq_of_mem_iff othersSorted same

section Ordered

variable (order : ∀ a b, less a b = true ↔ a < b)
include order

theorem insert_eq_orderedInsert : insert less items item = items.orderedInsert (· ≤ ·) item := by
  have below : (fun other : α => decide ¬item ≤ other) = fun other => less other item := by
    funext other
    rw [Bool.eq_iff_iff, decide_eq_true_iff, not_le, order]
  have front : items.takeWhile (less · item) ++ items.dropWhile (less · item) = items :=
    takeWhile_append_dropWhile
  rw [orderedInsert_eq_take_drop, below, insert, position, ← insertIdx_append_length, front]

theorem mem_insert {other : α} : other ∈ insert less items item ↔ other = item ∨ other ∈ items := by
  rw [insert_eq_orderedInsert order, mem_orderedInsert]

theorem insert_perm (items : List α) (item : α) : (insert less items item).Perm (item :: items) := by
  rw [insert_eq_orderedInsert order]
  exact perm_orderedInsert _ item items

theorem length_insert (items : List α) (item : α) : (insert less items item).length = items.length + 1 :=
  (insert_perm order items item).length_eq

theorem insert_sorted (sorted : items.Pairwise (· < ·)) (absent : item ∉ items) :
    (insert less items item).Pairwise (· < ·) := by
  apply strict_of_nodup
  · rw [insert_eq_orderedInsert order]
    exact Pairwise.orderedInsert item items (sorted.imp fun below => below.le)
  · exact (insert_perm order items item).nodup_iff.mpr (nodup_cons.mpr ⟨absent, nodup_of_strict sorted⟩)

/-- Taking an item out and putting it back restores the very same list. -/
theorem insert_erase (sorted : items.Pairwise (· < ·)) (present : item ∈ items) :
    insert less (items.erase item) item = items := by
  rw [insert_eq_orderedInsert order]
  exact orderedInsert_erase item items present (sorted.imp fun below => below.le)

theorem sort_sorted (nodup : items.Nodup) : (sort less items).Pairwise (· < ·) := by
  have relation : (fun a b : α => ¬less b a = true) = fun a b => a ≤ b := by
    funext a b
    rw [order, not_lt]
  have total : Std.Total fun a b : α => ¬less b a = true := relation ▸ inferInstance
  have transitive : IsTrans α fun a b : α => ¬less b a = true := relation ▸ inferInstance
  apply strict_of_nodup
  · exact (pairwise_insertionSort (fun a b : α => ¬less b a = true) items).imp
      fun {a b} step => not_lt.mp fun below => step ((order b a).mpr below)
  · exact (perm_insertionSort _ items).nodup_iff.mpr nodup

end Ordered

end LowerBound
