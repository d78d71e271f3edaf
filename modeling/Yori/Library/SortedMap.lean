import Mathlib.Algebra.Order.BigOperators.Group.List
import Mathlib.Algebra.Order.Group.Nat
import Mathlib.Algebra.GroupWithZero.Nat
import Mathlib.Data.List.Basic
import Mathlib.Data.List.Pairwise
import Mathlib.Data.List.Perm.Subperm

/-- A finite map kept in strictly increasing key order, as an ordered tree map
iterates it. Sortedness is a field, so every map value is well formed. -/
structure SortedMap (κ ν : Type) [LinearOrder κ] where
  entries : List (κ × ν)
  sorted : entries.Pairwise (fun a b => a.1 < b.1)

namespace SortedMap
open List

variable {κ ν : Type} [LinearOrder κ] {m n : SortedMap κ ν} {weight : ν → Nat} {key other : κ} {value old : ν}
  {entry : κ × ν}

instance [DecidableEq ν] : DecidableEq (SortedMap κ ν) := fun a b =>
  decidable_of_iff (a.entries = b.entries) ⟨fun same => by cases a; cases b; cases same; rfl, congrArg entries⟩

def empty : SortedMap κ ν := ⟨[], .nil⟩

def size (m : SortedMap κ ν) : Nat := m.entries.length

def values (m : SortedMap κ ν) : List ν := m.entries.map Prod.snd

def find? (m : SortedMap κ ν) (key : κ) : Option ν :=
  (m.entries.find? fun entry => entry.1 = key).map Prod.snd

def contains (m : SortedMap κ ν) (key : κ) : Bool := (m.find? key).isSome

/-- Single-pass insertion that replaces the value of a key already present. -/
def insertEntry (key : κ) (value : ν) : List (κ × ν) → List (κ × ν)
  | [] => [(key, value)]
  | entry :: rest =>
    if key < entry.1 then (key, value) :: entry :: rest
    else if key = entry.1 then (key, value) :: rest
    else entry :: insertEntry key value rest

theorem mem_insertEntry {entries : List (κ × ν)} (member : entry ∈ insertEntry key value entries) :
    entry = (key, value) ∨ entry ∈ entries := by
  induction entries with
  | nil => exact Or.inl (mem_singleton.mp member)
  | cons _ _ ih =>
    unfold insertEntry at member
    split at member
    · exact mem_cons.mp member
    · split at member
      · exact (mem_cons.mp member).imp_right (mem_cons_of_mem _)
      · rcases mem_cons.mp member with same | old
        · exact Or.inr (same ▸ mem_cons_self ..)
        · exact (ih old).imp_right (mem_cons_of_mem _)

theorem insertEntry_sorted {entries : List (κ × ν)} (sorted : entries.Pairwise (fun a b => a.1 < b.1)) :
    (insertEntry key value entries).Pairwise (fun a b => a.1 < b.1) := by
  induction entries with
  | nil => exact pairwise_singleton _ _
  | cons _ _ ih =>
    obtain ⟨first, tail⟩ := pairwise_cons.mp sorted
    unfold insertEntry
    split
    · rename_i before
      refine pairwise_cons.mpr ⟨?_, sorted⟩
      intro entry member
      rcases mem_cons.mp member with same | old
      · exact same ▸ before
      · exact before.trans (first entry old)
    · rename_i notBefore
      split
      · rename_i same
        exact pairwise_cons.mpr ⟨fun entry member => same ▸ first entry member, tail⟩
      · rename_i different
        refine pairwise_cons.mpr ⟨?_, ih tail⟩
        intro entry member
        rcases mem_insertEntry member with new | old
        · subst new
          exact lt_of_le_of_ne (not_lt.mp notBefore) (Ne.symm different)
        · exact first entry old

def insert (m : SortedMap κ ν) (key : κ) (value : ν) : SortedMap κ ν :=
  ⟨insertEntry key value m.entries, insertEntry_sorted m.sorted⟩

/-- Insertion that keeps the value of a key already present. -/
def emplace (m : SortedMap κ ν) (key : κ) (value : ν) : SortedMap κ ν :=
  if m.contains key then m else m.insert key value

/-- Insertion of a sequence of entries, the last one of a key winning. -/
def insertAll (m : SortedMap κ ν) (entries : List (κ × ν)) : SortedMap κ ν :=
  entries.foldl (fun filled entry => filled.insert entry.1 entry.2) m

def erase (m : SortedMap κ ν) (key : κ) : SortedMap κ ν :=
  ⟨m.entries.filter fun entry => entry.1 ≠ key, m.sorted.filter _⟩

theorem find?_eq_some_iff : m.find? key = some value ↔ (key, value) ∈ m.entries := by
  obtain ⟨entries, sorted⟩ := m
  simp only [find?]
  induction entries with
  | nil => simp
  | cons head _ ih =>
    obtain ⟨first, tail⟩ := pairwise_cons.mp sorted
    by_cases here : head.1 = key
    · simp only [find?_cons, here, decide_true, Option.map_some, Option.some.injEq, mem_cons]
      constructor
      · intro same
        exact Or.inl (Prod.ext here.symm same.symm)
      · rintro (same | later)
        · exact congrArg Prod.snd same.symm
        · exact absurd (first _ later) (by simp [here])
    · simp only [find?_cons, here, decide_false, ih tail, mem_cons]
      constructor
      · exact Or.inr
      · rintro (same | later)
        · exact absurd (congrArg Prod.fst same).symm here
        · exact later

theorem find?_eq_none_iff : m.find? key = none ↔ ∀ entry ∈ m.entries, entry.1 ≠ key := by
  constructor
  · intro absent entry member same
    have found : m.find? key = some entry.2 := find?_eq_some_iff.mpr (same ▸ member)
    simp [found] at absent
  · intro absent
    by_contra present
    obtain ⟨_, found⟩ := Option.ne_none_iff_exists'.mp present
    exact absent _ (find?_eq_some_iff.mp found) rfl

@[simp] theorem contains_eq_true :
    m.contains key = true ↔ ∃ value, m.find? key = some value := Option.isSome_iff_exists

theorem contains_eq_false : m.contains key = false ↔ m.find? key = none := by
  simp [contains]

/-- Maps with the same lookups are the same map: both list the same entries
in the same strict order. -/
theorem ext_find? (same : ∀ key, m.find? key = n.find? key) : m = n := by
  have members : ∀ entry, entry ∈ m.entries ↔ entry ∈ n.entries := by
    intro _
    rw [← find?_eq_some_iff (m := m), ← find?_eq_some_iff (m := n), same]
  have lists : m.entries = n.entries := by
    apply Perm.eq_of_pairwise (fun a b _ _ ab ba => absurd ab (lt_asymm ba)) m.sorted n.sorted
    exact (perm_ext_iff_of_nodup (m.sorted.imp fun less same => (same ▸ less).false)
      (n.sorted.imp fun less same => (same ▸ less).false)).mpr members
  cases m
  cases n
  cases lists
  rfl

@[simp] theorem find?_empty (key : κ) : (empty : SortedMap κ ν).find? key = none := rfl

theorem mem_values : value ∈ m.values ↔ ∃ key, m.find? key = some value := by
  simp only [values, mem_map, find?_eq_some_iff]
  constructor
  · rintro ⟨entry, member, same⟩
    exact ⟨entry.1, same ▸ member⟩
  · rintro ⟨key, member⟩
    exact ⟨(key, value), member, rfl⟩

theorem insertEntry_mem (entries : List (κ × ν)) : (key, value) ∈ insertEntry key value entries := by
  induction entries with
  | nil => exact mem_singleton.mpr rfl
  | cons _ _ ih =>
    unfold insertEntry
    split
    · exact mem_cons_self ..
    · split
      · exact mem_cons_self ..
      · exact mem_cons_of_mem _ ih

theorem insertEntry_keeps {entries : List (κ × ν)} (member : entry ∈ entries) (other : entry.1 ≠ key) :
    entry ∈ insertEntry key value entries := by
  induction entries with
  | nil => simp at member
  | cons _ _ ih =>
    unfold insertEntry
    split
    · exact mem_cons_of_mem _ member
    · rcases mem_cons.mp member with here | later
      · split
        · rename_i same
          exact absurd (here ▸ same.symm) other
        · exact here ▸ mem_cons_self ..
      · split
        · exact mem_cons_of_mem _ later
        · exact mem_cons_of_mem _ (ih later)

@[simp] theorem find?_insert_self (m : SortedMap κ ν) (key : κ) (value : ν) :
    (m.insert key value).find? key = some value :=
  find?_eq_some_iff.mpr (insertEntry_mem _)

theorem find?_insert_of_ne (m : SortedMap κ ν) (value : ν) (different : other ≠ key) :
    (m.insert key value).find? other = m.find? other := by
  ext found
  simp only [find?_eq_some_iff]
  constructor
  · intro member
    rcases mem_insertEntry member with new | old
    · exact absurd (congrArg Prod.fst new) different
    · exact old
  · exact fun member => insertEntry_keeps member different

/-- An entry for a new key hides none. -/
theorem find?_insert_of_absent (absent : m.find? key = none) (found : m.find? other = some old) :
    (m.insert key value).find? other = some old := by
  have different : other ≠ key := by
    rintro rfl
    cases absent.symm.trans found
  rw [find?_insert_of_ne m value different, found]

theorem find?_insert (m : SortedMap κ ν) (key other : κ) (value : ν) :
    (m.insert key value).find? other = if other = key then some value else m.find? other := by
  split
  · rename_i same
    rw [same, find?_insert_self]
  · rename_i different
    exact find?_insert_of_ne m value different

/-- What is found after an insertion is the new entry, or an old one. -/
theorem insert_cases (found : (m.insert key value).find? other = some old) :
    other = key ∧ value = old ∨ m.find? other = some old := by
  rw [find?_insert] at found
  split at found
  · rename_i same
    exact .inl ⟨same, Option.some.inj found⟩
  · exact .inr found

theorem contains_insert : (m.insert key value).contains other = true ↔ other = key ∨ m.contains other = true := by
  rw [contains_eq_true, contains_eq_true, find?_insert]
  split
  · rename_i here
    simp [here]
  · rename_i different
    simp [different]

theorem find?_emplace (m : SortedMap κ ν) (key other : κ) (value : ν) :
    (m.emplace key value).find? other = if other = key then (m.find? key).or (some value) else m.find? other := by
  unfold emplace
  cases found : m.find? key with
  | none =>
    have absent : ¬m.contains key = true := by simp [contains, found]
    rw [if_neg absent, find?_insert]
    rfl
  | some old =>
    have present : m.contains key = true := contains_eq_true.mpr ⟨old, found⟩
    rw [if_pos present]
    split
    · rename_i same
      rw [same, found]
      rfl
    · rfl

/-- Of the entries with one key the first is kept. -/
theorem find?_emplaceAll (entries : List (κ × ν)) :
    (entries.foldl (fun filled entry => filled.emplace entry.1 entry.2) m).find? key =
      (m.find? key).or ((entries.find? fun entry => entry.1 = key).map Prod.snd) := by
  induction entries generalizing m with
  | nil => simp
  | cons entry _ ih =>
    rw [foldl_cons, ih, find?_emplace]
    by_cases same : key = entry.1
    · subst same
      rw [if_pos rfl, find?_cons_of_pos (by simp), Option.or_assoc]
      rfl
    · rw [if_neg same, find?_cons_of_neg (by simpa using fun equal => same equal.symm)]

theorem emplaceAll_entries (m : SortedMap κ ν) :
    m.entries.foldl (fun filled entry => filled.emplace entry.1 entry.2) empty = m := by
  apply ext_find?
  intro _
  rw [find?_emplaceAll]
  rfl

/-- A list of the values of a map, in whatever order, fills it again. -/
theorem emplaceAll_of_members {list : List ν} {name : ν → κ}
    (named : ∀ key value, m.find? key = some value → name value = key)
    (members : ∀ value, value ∈ list ↔ ∃ key, m.find? key = some value) :
    list.foldl (fun filled value => filled.emplace (name value) value) empty = m := by
  have through : list.foldl (fun filled value => filled.emplace (name value) value) (empty : SortedMap κ ν) =
      (list.map fun value => (name value, value)).foldl (fun filled entry => filled.emplace entry.1 entry.2) empty := by
    rw [foldl_map]
  apply ext_find?
  intro key
  rw [through, find?_emplaceAll, find?_empty, Option.none_or]
  cases found : m.find? key with
  | none =>
    rw [Option.map_eq_none_iff, find?_eq_none]
    intro _ member
    obtain ⟨value, atValue, same⟩ := mem_map.mp member
    obtain ⟨other, atOther⟩ := (members value).mp atValue
    subst same
    simp only [decide_eq_true_eq]
    intro here
    rw [named other value atOther] at here
    rw [here, found] at atOther
    simp at atOther
  | some value =>
    have listed : ((list.map fun value => (name value, value)).find? fun entry => entry.1 = key).isSome = true := by
      rw [find?_isSome]
      exact ⟨(name value, value), mem_map_of_mem ((members value).mpr ⟨key, found⟩), by
        simpa using named key value found⟩
    obtain ⟨entry, atEntry⟩ := Option.isSome_iff_exists.mp listed
    obtain ⟨other, atOther, same⟩ := mem_map.mp (mem_of_find?_eq_some atEntry)
    have here : entry.1 = key := by simpa using find?_some atEntry
    obtain ⟨place, atPlace⟩ := (members other).mp atOther
    subst same
    have home : place = key := (named place other atPlace).symm.trans here
    rw [home, found] at atPlace
    rw [atEntry, Option.map_some, Option.some.inj atPlace]

theorem find?_erase (m : SortedMap κ ν) (key other : κ) :
    (m.erase key).find? other = if other = key then none else m.find? other := by
  ext found
  split
  · rename_i same
    simp [find?_eq_some_iff, erase, same]
  · rename_i different
    simp [find?_eq_some_iff, erase, different]

@[simp] theorem find?_erase_self (m : SortedMap κ ν) (key : κ) : (m.erase key).find? key = none := by
  rw [find?_erase, if_pos rfl]

theorem insertEntry_length_present {entries : List (κ × ν)} (sorted : entries.Pairwise (fun a b => a.1 < b.1))
    (present : entry ∈ entries) (same : entry.1 = key) : (insertEntry key value entries).length = entries.length := by
  induction entries with
  | nil => simp at present
  | cons _ _ ih =>
    obtain ⟨first, tail⟩ := pairwise_cons.mp sorted
    unfold insertEntry
    rcases mem_cons.mp present with here | later
    · rw [← here, same, if_neg (lt_irrefl _), if_pos rfl]
      rfl
    · have below := same ▸ first entry later
      rw [if_neg (lt_asymm below), if_neg (ne_of_gt below)]
      simp only [length_cons, ih tail later]

theorem size_insert_of_present (present : m.find? key = some old) : (m.insert key value).size = m.size :=
  insertEntry_length_present m.sorted (find?_eq_some_iff.mp present) rfl

theorem size_erase_le (m : SortedMap κ ν) (key : κ) : (m.erase key).size ≤ m.size :=
  length_filter_le _ _

theorem insertEntry_perm_absent {entries : List (κ × ν)} (absent : ∀ entry ∈ entries, entry.1 ≠ key) :
    (insertEntry key value entries).Perm ((key, value) :: entries) := by
  induction entries with
  | nil => exact .refl _
  | cons head _ ih =>
    have later := ih fun entry member => absent entry (mem_cons_of_mem _ member)
    unfold insertEntry
    split
    · exact .refl _
    · rw [if_neg (Ne.symm (absent head (mem_cons_self ..)))]
      exact (later.cons head).trans (.swap _ _ _)

/-- Entries with keys of their own come on top of those that are there. -/
theorem entries_insertAll_perm {list : List (κ × ν)} (nodup : (list.map Prod.fst).Nodup)
    (absent : ∀ entry ∈ list, m.find? entry.1 = none) : (m.insertAll list).entries.Perm (list ++ m.entries) := by
  induction list generalizing m with
  | nil => exact .refl _
  | cons entry rest ih =>
    rw [map_cons, nodup_cons] at nodup
    obtain ⟨here, later⟩ := forall_mem_cons.mp absent
    have still : ∀ other ∈ rest, (m.insert entry.1 entry.2).find? other.1 = none := by
      intro other member
      have different : other.1 ≠ entry.1 := fun same => nodup.1 (same ▸ mem_map_of_mem member)
      rw [find?_insert_of_ne _ _ different]
      exact later other member
    have rest_perm := ih nodup.2 still
    have here_perm : (m.insert entry.1 entry.2).entries.Perm (entry :: m.entries) :=
      insertEntry_perm_absent (find?_eq_none_iff.mp here)
    have head_perm := here_perm.append_left rest
    exact rest_perm.trans (head_perm.trans perm_middle)

theorem size_insert_of_absent (absent : m.find? key = none) : (m.insert key value).size = m.size + 1 :=
  (insertEntry_perm_absent (find?_eq_none_iff.mp absent)).length_eq

theorem values_insert_perm (absent : m.find? key = none) : (m.insert key value).values.Perm (value :: m.values) :=
  (insertEntry_perm_absent (find?_eq_none_iff.mp absent)).map Prod.snd

/-- Every value is replaced by one that may depend on its key. -/
def mapValues (f : κ → ν → ν) (m : SortedMap κ ν) : SortedMap κ ν where
  entries := m.entries.map fun entry => (entry.1, f entry.1 entry.2)
  sorted := pairwise_map.mpr m.sorted

/-- Maps that agree up to what is replaced. -/
theorem mapValues_eq {f : κ → ν → ν}
    (alike : Forall₂ (fun a b => a.1 = b.1 ∧ f a.1 a.2 = f b.1 b.2) m.entries n.entries) :
    m.mapValues f = n.mapValues f := by
  have same : m.entries.map (fun entry => (entry.1, f entry.1 entry.2)) =
      n.entries.map fun entry => (entry.1, f entry.1 entry.2) := by
    rw [← forall₂_eq_eq_eq, forall₂_map_left_iff, forall₂_map_right_iff]
    exact alike.imp fun _ _ both => Prod.ext both.1 both.2
  simp only [mapValues, same]

/-- A weight of the values, added up over the map. -/
def total (weight : ν → Nat) (m : SortedMap κ ν) : Nat := (m.values.map weight).sum

theorem total_insert_of_absent (absent : m.find? key = none) :
    (m.insert key value).total weight = weight value + m.total weight := by
  rw [total, ((values_insert_perm absent).map weight).sum_eq, map_cons, sum_cons]
  rfl

theorem insert_erase (m : SortedMap κ ν) (key : κ) (value : ν) :
    (m.erase key).insert key value = m.insert key value := by
  apply ext_find?
  intro _
  rw [find?_insert, find?_insert, find?_erase]
  split <;> rfl

theorem insert_eq_self (found : m.find? key = some value) : m.insert key value = m := by
  apply ext_find?
  intro _
  rw [find?_insert]
  split
  · rename_i here
    rw [here, found]
  · rfl

/-- An insertion over an old value exchanges its weight. -/
theorem total_insert_of_present (found : m.find? key = some old) :
    (m.insert key value).total weight + weight old = m.total weight + weight value := by
  have rest : (m.erase key).find? key = none := find?_erase_self m key
  have before : m.total weight = weight old + (m.erase key).total weight := by
    rw [← total_insert_of_absent rest, insert_erase, insert_eq_self found]
  have after : (m.insert key value).total weight = weight value + (m.erase key).total weight := by
    rw [← total_insert_of_absent rest, insert_erase]
  omega

theorem total_le {bound : Nat} (light : ∀ key value, m.find? key = some value → weight value ≤ bound) :
    m.total weight ≤ m.size * bound := by
  have length : (m.values.map weight).length = m.size := by
    rw [length_map, values, length_map]
    rfl
  have bounded := sum_le_card_nsmul (m.values.map weight) bound (by
    intro _ member
    obtain ⟨value, atValue, same⟩ := mem_map.mp member
    obtain ⟨key, found⟩ := mem_values.mp atValue
    exact same ▸ light key value found)
  rw [length] at bounded
  exact bounded

def keys (m : SortedMap κ ν) : List κ := m.entries.map Prod.fst

theorem mem_keys : key ∈ m.keys ↔ ∃ value, m.find? key = some value := by
  simp only [keys, mem_map, find?_eq_some_iff]
  constructor
  · intro ⟨entry, member, same⟩
    exact ⟨entry.2, same ▸ member⟩
  · intro ⟨value, member⟩
    exact ⟨(key, value), member, rfl⟩

theorem keys_nodup (m : SortedMap κ ν) : m.keys.Nodup :=
  pairwise_map.mpr (m.sorted.imp fun less => less.ne)

theorem length_keys : m.keys.length = m.size := length_map ..

/-- Maps with the same keys have the same size. -/
theorem size_eq_of_contains {ν' : Type} {n : SortedMap κ ν'} (same : ∀ key, m.contains key = n.contains key) :
    m.size = n.size := by
  have members : ∀ key, key ∈ m.keys ↔ key ∈ n.keys := by
    intro _
    rw [mem_keys, mem_keys, ← contains_eq_true, ← contains_eq_true, same]
  rw [← length_keys, ← length_keys]
  exact ((perm_ext_iff_of_nodup m.keys_nodup n.keys_nodup).mpr members).length_eq

theorem values_eq_nil_iff : m.values = [] ↔ ∀ key, m.find? key = none := by
  rw [eq_nil_iff_forall_not_mem]
  simp only [mem_values, not_exists]
  constructor
  · intro absent key
    by_contra present
    obtain ⟨value, found⟩ := Option.ne_none_iff_exists'.mp present
    exact absent value key found
  · intro absent _ key found
    simp [absent key] at found

/-- A duplicate-free list within the keys has the size of the map exactly when
it lists all of them. -/
theorem size_eq_length_iff {list : List κ} (nodup : list.Nodup) (within : ∀ key ∈ list, key ∈ m.keys) :
    m.size = list.length ↔ ∀ key ∈ m.keys, key ∈ list := by
  have sub : list.Subperm m.keys := nodup.subperm within
  rw [← length_keys]
  constructor
  · intro same _ member
    exact (sub.perm_of_length_le (Nat.le_of_eq same)).mem_iff.mpr member
  · intro all
    exact ((m.keys_nodup.subperm all).antisymm sub).length_eq

end SortedMap
