import Mathlib.Data.List.Nodup
import Yori.Library.Checked
import Yori.Library.Framing
import Yori.Library.SortedMap

namespace SortedMap
open Checked List

variable {κ κ' ν ν' : Type} [LinearOrder κ] [LinearOrder κ'] {key : κ → κ'} {row : ν → ν'} {rows : SortedMap κ' ν'}
  {m : SortedMap κ ν} {name : ν → κ}

/-- The rows are the entries of the map, each under its own key, and nothing
else. -/
structure Image (key : κ → κ') (row : ν → ν') (rows : SortedMap κ' ν') (m : SortedMap κ ν) : Prop where
  lookup : ∀ name, rows.find? (key name) = (m.find? name).map row
  keys : ∀ place entry, rows.find? place = some entry → ∃ name, place = key name

namespace Image

theorem contains (image : Image key row rows m) (name : κ) : rows.contains (key name) = m.contains name := by
  rw [SortedMap.contains, image.lookup, SortedMap.contains, Option.isSome_map]

section Injective

variable (injective : Function.Injective key)
include injective

section

variable (image : Image key row rows m)
include image

theorem insert (name : κ) (value : ν) :
    Image key row (rows.insert (key name) (row value)) (m.insert name value) := by
  constructor
  · intro other
    by_cases here : other = name
    · rw [here, find?_insert_self, find?_insert_self]
      rfl
    · rw [find?_insert_of_ne _ _ here, find?_insert_of_ne _ _ (injective.ne here), image.lookup]
  · intro place entry found
    rw [find?_insert] at found
    split at found
    · rename_i here
      exact ⟨name, here⟩
    · exact image.keys place entry found

theorem erase (name : κ) : Image key row (rows.erase (key name)) (m.erase name) := by
  constructor
  · intro other
    rw [find?_erase, find?_erase]
    by_cases here : other = name
    · rw [if_pos here, if_pos (congrArg key here)]
      rfl
    · rw [if_neg here, if_neg (injective.ne here), image.lookup]
  · intro place entry found
    rw [find?_erase] at found
    split at found
    · simp at found
    · exact image.keys place entry found

theorem emplace (name : κ) (value : ν) :
    Image key row (rows.emplace (key name) (row value)) (m.emplace name value) := by
  unfold SortedMap.emplace
  rw [image.contains]
  split
  · exact image
  · exact image.insert injective name value

theorem emplaceAll (name : ν → κ) (list : List ν) :
    Image key row (list.foldl (fun rows value => rows.emplace (key (name value)) (row value)) rows)
      (list.foldl (fun filled value => filled.emplace (name value) value) m) := by
  induction list generalizing rows m with
  | nil => exact image
  | cons value _ ih => exact ih (image.emplace injective (name value) value)

/-- The rows list the values of the map, in the order of their own keys. -/
theorem listed (named : ∀ place value, m.find? place = some value → name value = place) :
    ∃ list : List ν, rows.entries = list.map (fun value => (key (name value), row value)) ∧ (list.map name).Nodup ∧
      ∀ value, value ∈ list ↔ ∃ place, m.find? place = some value := by
  have each : ∀ entry ∈ rows.entries, ∃ value : ν, m.find? (name value) = some value ∧
      (key (name value), row value) = entry := by
    intro entry member
    have found : rows.find? entry.1 = some entry.2 := find?_eq_some_iff.mpr member
    obtain ⟨place, atPlace⟩ := image.keys entry.1 entry.2 found
    rw [atPlace, image.lookup] at found
    obtain ⟨value, atValue, same⟩ := Option.map_eq_some_iff.mp found
    have own := named place value atValue
    exact ⟨value, own ▸ atValue, Prod.ext (by rw [own, atPlace]) same⟩
  obtain ⟨list, entries, held⟩ := Separated.exists_map_eq each
  refine ⟨list, entries.symm, ?_, ?_⟩
  · have keys := rows.keys_nodup
    have through : list.map (Prod.fst ∘ fun value => (key (name value), row value)) = (list.map name).map key := by
      rw [map_map]
      rfl
    rw [SortedMap.keys, ← entries, map_map, through] at keys
    exact Nodup.of_map _ keys
  · intro value
    constructor
    · intro member
      exact ⟨name value, held value member⟩
    · rintro ⟨place, found⟩
      have atRow := image.lookup place
      rw [found] at atRow
      have member := find?_eq_some_iff.mp atRow
      rw [← entries] at member
      obtain ⟨other, atOther, same⟩ := mem_map.mp member
      have home : name other = place := injective (congrArg Prod.fst same)
      have stored := held other atOther
      rw [home, found] at stored
      rwa [Option.some.inj stored]

end

end Injective

end Image

/-- A loop that reads values with different names fills the map with them. -/
theorem foldlM_emplace {ε ρ : Type} {step : SortedMap κ ν → ρ → Except ε (SortedMap κ ν)} {encode : ν → ρ}
    {list : List ν}
    (turn : ∀ value ∈ list, ∀ filled : SortedMap κ ν, filled.find? (name value) = none →
      step filled (encode value) = .ok (filled.emplace (name value) value))
    (distinct : (list.map name).Nodup) (fresh : ∀ value ∈ list, m.find? (name value) = none) :
    (list.map encode).foldlM step m = .ok (list.foldl (fun filled value => filled.emplace (name value) value) m) := by
  induction list generalizing m with
  | nil => rfl
  | cons value _ ih =>
    obtain ⟨first, later⟩ := forall_mem_cons.mp turn
    obtain ⟨absent, freshLater⟩ := forall_mem_cons.mp fresh
    obtain ⟨new, distinctLater⟩ := nodup_cons.mp distinct
    rw [map_cons, foldlM_cons, first m absent]
    refine ih later distinctLater ?_
    intro other member
    have different : name other ≠ name value := fun same => new (mem_map.mpr ⟨other, member, same⟩)
    rw [find?_emplace, if_neg different]
    exact freshLater other member

end SortedMap
