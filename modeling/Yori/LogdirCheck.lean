import Yori.Job

/-! The check of a log directory, said by the components of the path. -/

namespace Yori
open ByteString List

variable {path : ByteString} {start found : Nat}

/-- A slash that is found ends the component, and the rest of the path follows it. -/
theorem findSlash_some (run : findSlash path start = some found) :
    (path.drop start).splitOn slash =
      (path.drop start).take (found - start) :: (path.drop (found + 1)).splitOn slash := by
  obtain ⟨offset, atOffset, rfl⟩ := Option.map_eq_some_iff.mp run
  obtain ⟨inside, here, before⟩ := findIdx?_eq_some_iff_getElem.mp atOffset
  have cut : path.drop start = (path.drop start).take offset ++ slash :: path.drop (start + (offset + 1)) := by
    rw [← drop_drop, ← beq_iff_eq.mp here, ← drop_eq_getElem_cons inside, take_append_drop]
  have plain : slash ∉ (path.drop start).take offset := by
    intro member
    obtain ⟨earlier, bound, same⟩ := mem_take_iff_getElem.mp member
    exact before earlier (by omega) (beq_iff_eq.mpr same)
  rw [Nat.add_sub_cancel_left, Nat.add_assoc]
  nth_rewrite 1 [cut]
  rw [splitOn_append_cons_self, splitOn_eq_singleton plain, singleton_append]

/-- Without one, what is left is the last component. -/
theorem findSlash_none (run : findSlash path start = none) : (path.drop start).splitOn slash = [path.drop start] := by
  have absent := findIdx?_eq_none_iff.mp (Option.map_eq_none_iff.mp run)
  exact splitOn_eq_singleton fun member => by simpa using absent slash member

/-- The loop compares the length of a component first, and then two bytes. -/
theorem parent_iff {rest : ByteString} {count : Nat} (inside : count ≤ rest.length) :
    count = 2 ∧ rest.take 2 = ascii ".." ↔ ascii ".." = rest.take count := by
  constructor
  · rintro ⟨rfl, same⟩
    exact same.symm
  · intro same
    have two := congrArg length same
    rw [length_take, Nat.min_eq_left inside] at two
    obtain rfl : 2 = count := two
    exact ⟨rfl, same.symm⟩

/-- One turn refuses the first component that is left, which a slash or the end of the path closes. -/
theorem component_refused_iff :
    ((findSlash path start).getD path.length - start = 2 ∧ (path.drop start).take 2 = ascii "..") ↔
      ((path.drop start).splitOn slash).head? = some (ascii "..") := by
  cases run : findSlash path start with
  | none =>
    rw [parent_iff (by simp), findSlash_none run, Option.getD_none, take_of_length_le (by simp), head?_cons,
      Option.some_inj, eq_comm]
  | some found =>
    have bounds := findSlash_bounds run
    rw [parent_iff (by simp; omega), findSlash_some run, Option.getD_some, head?_cons, Option.some_inj, eq_comm]

/-- The loop from any component on: it looks for the parent directory among those that are left. -/
theorem componentsAllowed_iff (inside : start ≤ path.length) :
    componentsAllowed path start = true ↔ ascii ".." ∉ (path.drop start).splitOn slash := by
  fun_induction componentsAllowed path start with
  | case1 start _ _ _ parent =>
    have first := mem_of_mem_head? (component_refused_iff.mp parent)
    simp [first]
  | case2 start _ _ _ other run =>
    have first := component_refused_iff.not.mp other
    rw [findSlash_none run] at first ⊢
    simpa [eq_comm] using first
  | case3 start _ _ _ other found run ih =>
    have first := component_refused_iff.not.mp other
    rw [findSlash_some run, head?_cons, Option.some_inj, eq_comm] at first
    rw [ih (findSlash_bounds run).2, findSlash_some run, mem_cons, not_or]
    exact ⟨fun others => ⟨first, others⟩, And.right⟩
  | case4 => contradiction

/-- The component loop with a bound on its turns, which ends without an answer when they are used up. -/
def componentTurns (path : ByteString) : Nat → Nat → Option Bool
  | 0, _ => none
  | turns + 1, componentBegin =>
    if componentBegin ≤ path.length then
      let componentEnd := findSlash path componentBegin
      if componentEnd.getD path.length - componentBegin = 2 ∧ (path.drop componentBegin).take 2 = ascii ".." then
        some false
      else match componentEnd with
        | none => some true
        | some found => componentTurns path turns (found + 1)
    else some true

/-- Each turn begins behind the slash that ended the one before. -/
theorem componentTurns_eq {turns : Nat} (inside : start ≤ path.length) (enough : path.length < start + turns) :
    componentTurns path turns start = some (componentsAllowed path start) := by
  induction turns generalizing start with
  | zero => omega
  | succ turns ih =>
    rw [componentTurns, componentsAllowed, if_pos inside, if_pos inside]
    by_cases parent : (findSlash path start).getD path.length - start = 2 ∧ (path.drop start).take 2 = ascii ".."
    · rw [if_pos parent, if_pos parent]
    · rw [if_neg parent, if_neg parent]
      cases run : findSlash path start with
      | none => rfl
      | some found =>
        have bounds := findSlash_bounds run
        exact ih (by omega) (by omega)

/-- Entering a component on the way of a lexical resolution. What `..` does to a
place differs between absolute and relative directories and is left to `up`. -/
def enterComponent (up : List ByteString → List ByteString) (place : List ByteString) (component : ByteString) :
    List ByteString :=
  if component = [] ∨ component = ascii "." then place
  else if component = ascii ".." then up place
  else place ++ [component]

/-- The place that a path names, resolved without looking at the file system. -/
def resolveLexically (up : List ByteString → List ByteString) (path : ByteString) : List ByteString :=
  (path.splitOn slash).foldl (enterComponent up) []

/-- Without a parent directory, every component stays where it is or goes further down. -/
theorem foldl_enterComponent {up : List ByteString → List ByteString} {components place : List ByteString}
    (plain : ascii ".." ∉ components) : place <+: components.foldl (enterComponent up) place := by
  induction components generalizing place with
  | nil => exact prefix_rfl
  | cons component rest ih =>
    obtain ⟨other, others⟩ := not_or.mp (mt mem_cons.mpr plain)
    have entered : place <+: enterComponent up place component := by
      unfold enterComponent
      rw [if_neg (Ne.symm other)]
      split
      · exact prefix_rfl
      · exact prefix_append ..
    exact entered.trans (ih others)

theorem isValidTensorboardLogdir_iff :
    isValidTensorboardLogdir path = true ↔
      1 ≤ path.length ∧ path.length ≤ 4096 ∧ nul ∉ path ∧ path.head? ≠ some slash ∧
        ascii ".." ∉ path.splitOn slash := by
  have components := componentsAllowed_iff (Nat.zero_le path.length)
  rw [drop_zero] at components
  rw [isValidTensorboardLogdir, ← components]
  simp only [Bool.if_false_left, Bool.and_eq_true, Bool.not_eq_true', decide_eq_false_iff_not, Bool.or_eq_true, not_or,
    List.isEmpty_iff, decide_eq_true_eq, Nat.not_lt, containsNul, absolute, contains_eq_mem, beq_iff_eq, and_assoc]
  rw [← ne_eq, ← length_pos_iff]
  rfl

/-- The check of a log directory accepts exactly the relative paths of 1 to 4096
bytes without a NUL byte and without a component that is the parent directory.
An accepted path, appended to any directory, never leads out of it, neither at
its end nor on the way, and the loop ends within a turn for each byte and one more. -/
theorem tensorboard_logdir_checked (path : ByteString) :
    (isValidTensorboardLogdir path = true ↔
      1 ≤ path.length ∧ path.length ≤ 4096 ∧ nul ∉ path ∧ path.head? ≠ some slash ∧
        ascii ".." ∉ path.splitOn slash) ∧
    (isValidTensorboardLogdir path = true → ∀ up directory,
      resolveLexically up directory <+: resolveLexically up (directory ++ slash :: path) ∧
      ∀ passed, passed <+: path.splitOn slash →
        resolveLexically up directory <+: passed.foldl (enterComponent up) (resolveLexically up directory)) ∧
    ∀ turns, path.length < turns → componentTurns path turns 0 = some (componentsAllowed path 0) := by
  refine ⟨isValidTensorboardLogdir_iff, fun accepted up directory => ?_, fun turns enough => ?_⟩
  · obtain ⟨_, _, _, _, plain⟩ := isValidTensorboardLogdir_iff.mp accepted
    refine ⟨?_, fun passed before => foldl_enterComponent fun member => plain (before.subset member)⟩
    rw [resolveLexically, resolveLexically, splitOn_append_cons_self, foldl_append]
    exact foldl_enterComponent plain
  · exact componentTurns_eq (Nat.zero_le _) (by omega)

theorem tensorboard_logdir_checked_runs :
    isValidTensorboardLogdir (ascii "runs/..a") = true ∧
      resolveLexically dropLast (ascii "/data") <+: resolveLexically dropLast (ascii "/data/runs/..a") := by
  obtain ⟨accepts, stays, _⟩ := tensorboard_logdir_checked (ascii "runs/..a")
  have accepted := accepts.mpr (by decide +kernel)
  exact ⟨accepted, (stays accepted dropLast (ascii "/data")).1⟩

end Yori
