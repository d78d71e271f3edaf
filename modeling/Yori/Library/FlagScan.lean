import Mathlib.Data.List.Basic

/-! Options that are searched for in a whole list of words and erased where they are found. -/

namespace FlagScan
open List

variable {α : Type} [DecidableEq α] {words rest : List α}

/-- The first occurrence of a name with a word behind it, which is its value. -/
def takeFlag (name : α) : List α → Option (α × List α)
  | first :: second :: rest =>
    if first = name then some (second, rest)
    else (takeFlag name (second :: rest)).map fun taken => (taken.1, first :: taken.2)
  | _ => none

/-- The search is repeated on what is left. -/
def takeFlags (name : α) : Nat → List α → List α × List α
  | 0, words => ([], words)
  | fuel + 1, words =>
    match takeFlag name words with
    | none => ([], words)
    | some (value, rest) => (value :: (takeFlags name fuel rest).1, (takeFlags name fuel rest).2)

/-- A word that is erased where it stands first, if it does. -/
def takeSwitch (name : α) (words : List α) : Bool × List α := (decide (name ∈ words), words.erase name)

/-- The values and the words that are left, in one pass. -/
def sweep (name : α) : List α → List α × List α
  | first :: second :: rest =>
    if first = name then (second :: (sweep name rest).1, (sweep name rest).2)
    else ((sweep name (second :: rest)).1, first :: (sweep name (second :: rest)).2)
  | short => ([], short)

section
variable {name separator : α} {first : List α}

theorem sweep_cons_of_ne {first : α} (other : first ≠ name) :
    sweep name (first :: rest) = ((sweep name rest).1, first :: (sweep name rest).2) := by
  cases rest with
  | nil => rfl
  | cons => rw [sweep, if_neg other]

theorem sweep_cons_name (value : α) :
    sweep name (name :: value :: rest) = (value :: (sweep name rest).1, (sweep name rest).2) := by
  rw [sweep, if_pos rfl]

theorem sweep_of_takeFlag_none (none : takeFlag name words = none) : sweep name words = ([], words) := by
  fun_induction takeFlag name words with
  | case1 => cases none
  | case2 _ _ _ other ih =>
    rw [sweep_cons_of_ne other, ih (Option.map_eq_none_iff.mp none)]
  | case3 words short =>
    match words with
    | [] => rfl
    | [_] => rfl
    | first :: second :: rest => exact absurd rfl (short first second rest)

theorem sweep_of_takeFlag {value : α} (taken : takeFlag name words = some (value, rest)) :
    sweep name words = (value :: (sweep name rest).1, (sweep name rest).2) ∧ rest.length + 2 = words.length := by
  fun_induction takeFlag name words generalizing rest with
  | case1 =>
    cases taken
    exact ⟨sweep_cons_name _, rfl⟩
  | case2 _ _ _ other ih =>
    obtain ⟨found, atFound, same⟩ := Option.map_eq_some_iff.mp taken
    cases same
    obtain ⟨swept, length⟩ := ih atFound
    rw [sweep_cons_of_ne other, sweep_cons_of_ne other, swept]
    refine ⟨rfl, ?_⟩
    simp only [length_cons] at length ⊢
    omega
  | case3 => cases taken

/-- The repeated search is one pass. -/
theorem takeFlags_eq_sweep {fuel : Nat} (enough : words.length ≤ fuel) :
    takeFlags name fuel words = sweep name words := by
  induction fuel generalizing words with
  | zero =>
    have empty : words = [] := length_eq_zero_iff.mp (by omega)
    rw [empty]
    rfl
  | succ fuel ih =>
    rw [takeFlags]
    cases found : takeFlag name words with
    | none => exact (sweep_of_takeFlag_none found).symm
    | some taken =>
      obtain ⟨swept, length⟩ := sweep_of_takeFlag found
      rw [swept, ← ih (by omega : taken.2.length ≤ fuel)]

theorem sweep_sublist : (sweep name words).2.Sublist words := by
  fun_induction sweep name words with
  | case1 _ _ ih => exact (ih.cons _).cons _
  | case2 _ _ _ _ ih => exact ih.cons_cons _
  | case3 => exact .refl _

/-- Words that hold the name at most at their end are left as they are. -/
theorem sweep_of_not_mem (absent : name ∉ words.dropLast) : sweep name words = ([], words) := by
  fun_induction sweep name words with
  | case1 => exact absurd (mem_cons_self ..) absent
  | case2 _ _ _ _ ih =>
    rw [dropLast_cons_cons, mem_cons, not_or] at absent
    rw [ih absent.2]
  | case3 => rfl

/-- A name with a word behind it is taken. -/
theorem sweep_length_lt (present : name ∈ words.dropLast) : (sweep name words).2.length < words.length := by
  fun_induction sweep name words with
  | case1 _ rest =>
    have short : (sweep name rest).2.length ≤ rest.length := sweep_sublist.length_le
    simp only [length_cons]
    omega
  | case2 _ _ _ other ih =>
    rw [dropLast_cons_cons, mem_cons] at present
    have later := ih (present.resolve_left fun same => other same.symm)
    simp only [length_cons] at later ⊢
    omega
  | case3 words short =>
    match words with
    | [] => cases present
    | [_] => cases present
    | first :: second :: rest => exact absurd rfl (short first second rest)

/-- Where the first words leave no name behind, the separator is passed over. -/
theorem sweep_append_of_closed (different : separator ≠ name) (closed : name ∉ (sweep name first).2) :
    sweep name (first ++ separator :: rest) =
      ((sweep name first).1 ++ (sweep name rest).1, (sweep name first).2 ++ separator :: (sweep name rest).2) := by
  fun_induction sweep name first with
  | case1 _ _ ih =>
    rw [cons_append, cons_append, sweep_cons_name, ih closed]
    rfl
  | case2 _ _ _ other ih =>
    rw [mem_cons, not_or] at closed
    rw [cons_append, sweep_cons_of_ne other, ih closed.2]
    rfl
  | case3 words short =>
    match words with
    | [] => exact sweep_cons_of_ne different
    | [word] =>
      rw [mem_singleton] at closed
      rw [singleton_append, sweep_cons_of_ne (Ne.symm closed), sweep_cons_of_ne different]
      rfl
    | word :: second :: more => exact absurd rfl (short word second more)

/-- A name left at the end of the first words takes the separator for its value. -/
theorem sweep_append_of_open (left : name ∈ (sweep name first).2) :
    (sweep name (first ++ separator :: rest)).2.Sublist (first ++ rest) := by
  fun_induction sweep name first with
  | case1 _ _ ih =>
    rw [cons_append, cons_append, sweep_cons_name]
    exact ((ih left).cons _).cons _
  | case2 _ _ _ other ih =>
    have later := (mem_cons.mp left).resolve_left fun same => other same.symm
    rw [cons_append, sweep_cons_of_ne other]
    exact (ih later).cons_cons _
  | case3 words short =>
    match words with
    | [] => cases left
    | [word] =>
      rw [mem_singleton] at left
      rw [singleton_append, ← left, sweep_cons_name]
      exact sweep_sublist.cons _
    | word :: second :: more => exact absurd rfl (short word second more)

end

/-- A step of the search: an option with a value, wherever it occurs, or a word that is erased once. -/
inductive Stage (α : Type)
  | value (name : α)
  | switch (name : α)

namespace Stage

def name : Stage α → α
  | value name => name
  | switch name => name

def scan (words : List α) : Stage α → List α × List α
  | value name => sweep name words
  | switch name => (if (takeSwitch name words).1 then [name] else [], (takeSwitch name words).2)

/-- The step takes nothing from further words, given what it found before them. -/
def Spares (found further : List α) : Stage α → Prop
  | value name => name ∉ further.dropLast
  | switch name => found ≠ [] ∨ name ∉ further

theorem scan_switch (name : α) :
    (switch name).scan words = (if name ∈ words then [name] else [], words.erase name) := by
  simp only [scan, takeSwitch, decide_eq_true_eq]

theorem scan_sublist (words : List α) (stage : Stage α) : (stage.scan words).2.Sublist words := by
  cases stage with
  | value => exact sweep_sublist
  | switch => exact erase_sublist

end Stage

/-- One step after the other on what is left. -/
def scanAll : List (Stage α) → List α → List (List α) × List α
  | [], words => ([], words)
  | stage :: stages, words =>
    ((stage.scan words).1 :: (scanAll stages (stage.scan words).2).1, (scanAll stages (stage.scan words).2).2)

theorem scanAll_sublist (stages : List (Stage α)) (words : List α) : (scanAll stages words).2.Sublist words := by
  induction stages generalizing words with
  | nil => exact .refl _
  | cons stage _ ih => exact (ih _).trans (stage.scan_sublist words)

section
variable {separator : α} {first further : List α} {stages : List (Stage α)}

/-- A step on words with a separator among them treats the words behind it by themselves, or has taken the separator. -/
theorem Stage.scan_append (stage : Stage α) (plain : stage.name ≠ separator)
    (first further : List α) :
    (∃ found left more rest, stage.scan (first ++ [separator]) = (found, left ++ [separator]) ∧
      stage.scan (first ++ separator :: further) = (found ++ more, left ++ separator :: rest) ∧
      left.Sublist first ∧ rest.Sublist further ∧ (stage.Spares found further ↔ rest = further) ∧
      (rest = further → more = [])) ∨
    ((stage.scan (first ++ [separator])).2.Sublist first ∧
      (stage.scan (first ++ separator :: further)).2.Sublist (first ++ further)) := by
  cases stage with
  | value name =>
    by_cases closed : name ∈ (sweep name first).2
    · refine .inr ⟨?_, sweep_append_of_open closed⟩
      have alone : (sweep name (first ++ [separator])).2.Sublist (first ++ []) := sweep_append_of_open closed
      rwa [append_nil] at alone
    · refine .inl ⟨(sweep name first).1, (sweep name first).2, (sweep name further).1, (sweep name further).2, ?_,
        sweep_append_of_closed plain.symm closed, sweep_sublist, sweep_sublist, ?_, ?_⟩
      · show sweep name (first ++ [separator]) = _
        have different : separator ≠ name := plain.symm
        rw [sweep_append_of_closed different closed]
        show ((sweep name first).1 ++ [], _) = _
        rw [append_nil]
        rfl
      · constructor
        · intro absent
          rw [sweep_of_not_mem absent]
        · intro same present
          have shorter := sweep_length_lt present
          rw [same] at shorter
          omega
      · intro same
        by_cases present : name ∈ further.dropLast
        · have shorter := sweep_length_lt present
          rw [same] at shorter
          omega
        · rw [sweep_of_not_mem present]
  | switch name =>
    have other : name ≠ separator := plain
    left
    by_cases inFirst : name ∈ first
    · refine ⟨[name], first.erase name, [], further, ?_, ?_, erase_sublist, .refl _, ?_, fun _ => rfl⟩
      · rw [scan_switch, if_pos (mem_append_left _ inFirst), erase_append_left _ inFirst]
      · rw [scan_switch, if_pos (mem_append_left _ inFirst), erase_append_left _ inFirst]
        rfl
      · show [name] ≠ [] ∨ name ∉ further ↔ _
        simp
    · refine ⟨[], first, if name ∈ further then [name] else [], further.erase name, ?_, ?_, .refl _,
        erase_sublist, ?_, ?_⟩
      · have absent : name ∉ first ++ [separator] := by simp [inFirst, other]
        rw [scan_switch, if_neg absent, erase_of_not_mem absent]
      · have same : (name ∈ first ++ separator :: further) = (name ∈ further) := by simp [inFirst, other]
        simp only [scan_switch, same, erase_append_right _ inFirst, nil_append]
        rw [erase_cons_tail (by simpa using Ne.symm other)]
      · show ([] : List α) ≠ [] ∨ name ∉ further ↔ _
        simp [erase_eq_self_iff]
      · intro same
        rw [if_neg (erase_eq_self_iff.mp same)]

omit [DecidableEq α] in
/-- Words that begin with the separator come from behind the words without it. -/
theorem sublist_of_clean (clean : separator ∉ first) (sublist : (separator :: words).Sublist (first ++ rest)) :
    (separator :: words).Sublist rest := by
  obtain ⟨front, _, joined, atFront, atBack⟩ := sublist_append_iff.mp sublist
  cases front with
  | nil =>
    rw [joined]
    exact atBack
  | cons word =>
    rw [cons_append] at joined
    have same : separator = word := (cons.inj joined).1
    exact absurd (atFront.subset (same ▸ mem_cons_self ..)) clean

/-- What is behind the separator at the end was behind it all the time. -/
theorem rest_eq_of_scanAll {left : List α} (clean : separator ∉ left) (within : rest.Sublist further)
    (kept : (scanAll stages (left ++ separator :: rest)).2 = separator :: further) : rest = further := by
  have sublist := scanAll_sublist stages (left ++ separator :: rest)
  rw [kept] at sublist
  exact within.antisymm (cons_sublist_cons.mp (sublist_of_clean clean sublist))

/-- A separator that was taken does not come back. -/
theorem not_kept_of_sublist (clean : separator ∉ first) (within : words.Sublist (first ++ further)) :
    (scanAll stages words).2 ≠ separator :: further := by
  intro kept
  have sublist := (scanAll_sublist stages words).trans within
  rw [kept] at sublist
  have length := (sublist_of_clean clean sublist).length_le
  rw [length_cons] at length
  omega

section

variable (plain : ∀ stage ∈ stages, stage.name ≠ separator) (clean : separator ∉ first)
include plain clean

/-- The words behind a separator come through all steps exactly when the words before it are used up
without the separator, and each step spares them. -/
theorem scanAll_append_iff :
    (scanAll stages (first ++ separator :: further)).2 = separator :: further ↔
      (scanAll stages (first ++ [separator])).2 = [separator] ∧
        ∀ step ∈ stages.zip (scanAll stages (first ++ [separator])).1, step.1.Spares step.2 further := by
  induction stages generalizing first with
  | nil =>
    show first ++ separator :: further = separator :: further ↔ first ++ [separator] = [separator] ∧ _
    have empty (words : List α) : first ++ separator :: words = separator :: words ↔ first = [] := by simp
    rw [empty, empty]
    simp
  | cons stage stages ih =>
    obtain ⟨here, later⟩ := forall_mem_cons.mp plain
    rcases stage.scan_append here first further with
      ⟨_, left, _, rest, alone, whole, inFirst, within, spares, _⟩ | ⟨alone, whole⟩
    · have cleanLeft : separator ∉ left := fun member => clean (inFirst.subset member)
      have split : (∀ step ∈ (stage :: stages).zip (scanAll (stage :: stages) (first ++ [separator])).1,
          step.1.Spares step.2 further) ↔ rest = further ∧
            ∀ step ∈ stages.zip (scanAll stages (left ++ [separator])).1, step.1.Spares step.2 further := by
        rw [scanAll, alone, zip_cons_cons, forall_mem_cons, spares]
      rw [split]
      simp only [scanAll, alone, whole]
      by_cases same : rest = further
      · rw [same, ih later cleanLeft]
        simp
      · constructor
        · intro kept
          exact absurd (rest_eq_of_scanAll cleanLeft within kept) same
        · intro spared
          exact absurd spared.2.1 same
    · have inside : (stage.scan (first ++ [separator])).2.Sublist (first ++ []) := by rwa [append_nil]
      simp only [scanAll]
      constructor
      · intro kept
        exact absurd kept (not_kept_of_sublist clean whole)
      · intro used
        exact absurd used.1 (not_kept_of_sublist clean inside)

/-- In that case each step finds what it finds before the separator. -/
theorem scanAll_found
    (kept : (scanAll stages (first ++ separator :: further)).2 = separator :: further) :
    (scanAll stages (first ++ separator :: further)).1 = (scanAll stages (first ++ [separator])).1 := by
  induction stages generalizing first with
  | nil => rfl
  | cons stage _ ih =>
    obtain ⟨here, later⟩ := forall_mem_cons.mp plain
    rcases stage.scan_append here first further with
      ⟨_, left, _, _, alone, whole, inFirst, within, _, nothing⟩ | ⟨_, whole⟩
    · have cleanLeft : separator ∉ left := fun member => clean (inFirst.subset member)
      simp only [scanAll, alone, whole] at kept ⊢
      have same := rest_eq_of_scanAll cleanLeft within kept
      rw [same] at kept ⊢
      rw [nothing same, append_nil, ih later cleanLeft kept]
    · simp only [scanAll] at kept
      exact absurd kept (not_kept_of_sublist clean whole)

end

end

end FlagScan
