import Yori.Launch.Launchable

/-! How the two checks of a command line and its environment add up their sizes. -/

namespace Yori
open Checked ByteString JobSpecLimits List

/-- The subtraction of two sizes, which has no answer where it would wrap around. -/
def sizeSub (first second : Nat) : Option Nat := if second ≤ first then some (first - second) else none

/-- The addition at submission, with its subtraction watched. -/
def addWithinLimitWatched (value total limit : Nat) : Option (Option Nat) := do
  let room ← sizeSub limit total
  return if value > room then none else some (total + value)

/-- The addition before a launch, which subtracts only when the first comparison fails. -/
def LaunchPlan.addWithinLimitWatched (bytes total limit : Nat) : Option (Option Nat) :=
  if bytes > limit then some none
  else do
    let room ← sizeSub limit bytes
    return if total > room then none else some (total + bytes)

def entryBytes (entry : ByteString × ByteString) : Nat := entry.1.length + entry.2.length

/-- Wherever the loop has come to, its total is the sum of what it passed, and within the limit. -/
def TotalsWithin {ε α : Type} (check : Nat → Nat → List α → Except ε Unit) (size : α → Nat) (limit : Nat)
    (items : List α) : Prop :=
  ∀ before rest, items = before ++ rest → check 0 0 before = .ok () →
    (before.map size).sum ≤ limit ∧ check 0 0 items = check before.length (before.map size).sum rest

/-- A specification on which the check at submission finds nothing wrong but
perhaps the sizes. The other fields are fine when a plain command would pass. -/
structure JobSpec.ItemsPass (spec : JobSpec) : Prop where
  present : spec.argv ≠ []
  few : spec.argv.length ≤ maxArgumentCount
  first : spec.argv.head? ≠ some []
  arguments : ∀ argument ∈ spec.argv, containsNul argument = false ∧ argument.length ≤ maxSingleArgumentBytes
  count : spec.env.size ≤ maxEnvironmentVariables
  environment : ∀ entry ∈ spec.env.entries, isValidEnvironmentName entry.1 = true ∧
    entry.1.length ≤ maxEnvironmentNameBytes ∧ entry.2.length ≤ maxEnvironmentValueBytes ∧ containsNul entry.2 = false
  others : validate { spec with argv := [ascii "a"], env := .empty } = .ok ()

/-- The same for a plan and the check before its launch. -/
structure LaunchPlan.ItemsPass (plan : LaunchPlan) : Prop where
  present : plan.argv ≠ []
  few : plan.argv.length ≤ maxArgumentCount
  arguments : ∀ argument ∈ plan.argv, (argument ≠ [] ∧ containsNul argument = false) ∧
    argument.length ≤ maxSingleArgumentBytes
  count : plan.env.length ≤ maxEnvironmentVariables
  environment : ∀ entry ∈ plan.env, isValidEnvironmentName entry.1 = true ∧
    entry.2.length ≤ maxEnvironmentValueBytes ∧ containsNul entry.2 = false
  others : validate { plan with argv := [ascii "a"], env := [] } = .ok ()

theorem TotalsWithin.of_budget {ε α : Type} {check : Nat → Nat → List α → Except ε Unit} {each good size limit refusal}
    (loop : Budget check each good size limit refusal) (items : List α) : TotalsWithin check size limit items := by
  rintro before rest rfl ran
  have sum := ((loop.eq_ok (Nat.zero_le _)).mp ran).2
  rw [Nat.zero_add] at sum
  exact ⟨sum, by rw [loop.passed (Nat.zero_le _) ran, Nat.zero_add, Nat.zero_add]⟩

theorem JobSpec.ItemsPass.validate_eq {spec : JobSpec} (pass : spec.ItemsPass) :
    validate spec = (checkArguments 0 0 spec.argv >>= fun _ => checkEnvironment 0 0 spec.env.entries) := by
  have others := pass.others
  rw [validate, guard_bind_eq_ok, guard_bind_eq_ok, guard_bind_eq_ok, unit_bind_eq_ok, guard_bind_eq_ok,
    guard_bind_eq_ok, guard_bind_eq_ok, unit_bind_eq_ok] at others
  obtain ⟨uid, _, _, _, _, cwd, _, _, others⟩ := others
  rw [validate, rejectIf_of_not uid, rejectIf_of_not pass.present, rejectIf_of_not (Nat.not_lt.mpr pass.few),
    rejectIf_of_not pass.first, rejectIf_of_not cwd, rejectIf_of_not (Nat.not_lt.mpr pass.count)]
  cases checkArguments 0 0 spec.argv with
  | error => rfl
  | ok =>
    cases checkEnvironment 0 0 spec.env.entries with
    | error => rfl
    | ok => exact others

theorem LaunchPlan.ItemsPass.validate_eq {plan : LaunchPlan} (pass : plan.ItemsPass) :
    plan.validate = (checkArguments 0 0 plan.argv >>= fun _ => checkEnvironment 0 0 plan.env) := by
  have others := pass.others
  rw [validate, guard_bind_eq_ok, guard_bind_eq_ok, unit_bind_eq_ok, guard_bind_eq_ok, guard_bind_eq_ok,
    guard_bind_eq_ok, guard_bind_eq_ok, unit_bind_eq_ok] at others
  obtain ⟨_, _, _, bytes, cwd, executable, _, _, others⟩ := others
  rw [validate, rejectIf_of_not pass.present, rejectIf_of_not (Nat.not_lt.mpr pass.few), rejectIf_of_not bytes,
    rejectIf_of_not cwd, rejectIf_of_not executable, rejectIf_of_not (Nat.not_lt.mpr pass.count)]
  cases checkArguments 0 0 plan.argv with
  | error => rfl
  | ok =>
    cases checkEnvironment 0 0 plan.env with
    | error => rfl
    | ok => exact others

/-- Every subtraction of the two checks is exact, their totals are the sums of
what they passed and stay within the limits, and when nothing but the sizes can
be wrong, both refuse the first item at which the exact sum passes its limit. -/
theorem size_totals_exact :
    (∀ value total limit, total ≤ limit →
      addWithinLimitWatched value total limit = some (addWithinLimit value total limit) ∧
        ∀ next ∈ addWithinLimit value total limit, next ≤ limit) ∧
    (∀ bytes total limit, LaunchPlan.addWithinLimitWatched bytes total limit =
        some (LaunchPlan.addWithinLimit bytes total limit) ∧
      ∀ next ∈ LaunchPlan.addWithinLimit bytes total limit, next ≤ limit) ∧
    (∀ spec : JobSpec, TotalsWithin checkArguments length maxArgumentBytes spec.argv ∧
      TotalsWithin checkEnvironment entryBytes maxEnvironmentBytes spec.env.entries) ∧
    (∀ plan : LaunchPlan, TotalsWithin LaunchPlan.checkArguments length maxArgumentBytes plan.argv ∧
      TotalsWithin LaunchPlan.checkEnvironment entryBytes maxEnvironmentBytes plan.env) ∧
    (∀ spec : JobSpec, spec.ItemsPass → validate spec = do
      refuseOver maxArgumentBytes length (fun index _ => ⟨.argumentsTooLarge, some index⟩) spec.argv
      refuseOver maxEnvironmentBytes entryBytes (fun index _ => ⟨.environmentTooLarge, some index⟩) spec.env.entries) ∧
    (∀ plan : LaunchPlan, plan.ItemsPass → plan.validate = do
      refuseOver maxArgumentBytes length (fun index _ => ⟨.argumentsTooLarge, some index, none⟩) plan.argv
      refuseOver maxEnvironmentBytes entryBytes
        (fun index entry => ⟨.environmentTooLarge, some index, some entry.1⟩) plan.env) ∧
    ∀ (ε α : Type) (limit : Nat) (size : α → Nat) (refusal : Nat → α → ε) (items : List α),
      refuseOver limit size refusal items = .ok () ↔ (items.map size).sum ≤ limit := by
  refine ⟨fun value total limit within => ?_, fun bytes total limit => ?_,
    fun spec => ⟨.of_budget checkArguments_budget _, .of_budget checkEnvironment_budget _⟩,
    fun plan => ⟨.of_budget LaunchPlan.checkArguments_budget _, .of_budget LaunchPlan.checkEnvironment_budget _⟩,
    fun spec pass => ?_, fun plan pass => ?_, fun _ _ _ _ _ _ => refuseOver_eq_ok⟩
  · constructor
    · simp [addWithinLimitWatched, sizeSub, addWithinLimit, within]
    · rw [addWithinLimit_eq within]
      split <;> simp_all
  · constructor
    · by_cases large : bytes > limit
      · simp [LaunchPlan.addWithinLimitWatched, LaunchPlan.addWithinLimit, large]
      · simp [LaunchPlan.addWithinLimitWatched, LaunchPlan.addWithinLimit, sizeSub, large, Nat.not_lt.mp large]
    · rw [LaunchPlan.addWithinLimit_eq]
      split <;> simp_all
  · rw [pass.validate_eq, checkArguments_budget.refuses pass.arguments,
      checkEnvironment_budget.refuses pass.environment]
    rfl
  · rw [pass.validate_eq, LaunchPlan.checkArguments_budget.refuses pass.arguments,
      LaunchPlan.checkEnvironment_budget.refuses pass.environment]
    rfl

/-- Eight variables, each with the longest value. -/
def heavyEnvironment : SortedMap ByteString ByteString :=
  ⟨["A", "B", "C", "D", "E", "F", "G", "H"].map fun name => (ascii name, replicate maxEnvironmentValueBytes 97),
    pairwise_map.mpr (by decide +kernel)⟩

def heavySpec (argv : List ByteString) : JobSpec := { JobSpec.minimal 1 {} with argv, env := heavyEnvironment }

def heavyPlan (argv : List ByteString) : LaunchPlan :=
  { argv, env := heavyEnvironment.entries, uid := 1000, gid := 1000, username := ascii "a" }

theorem heavyEnvironment_passes : ∀ entry ∈ heavyEnvironment.entries,
    isValidEnvironmentName entry.1 = true ∧ entry.1.length ≤ maxEnvironmentNameBytes ∧
      LaunchPlan.isValidEnvironmentName entry.1 = true ∧
      entry.2.length ≤ maxEnvironmentValueBytes ∧ containsNul entry.2 = false := by
  have names : ∀ name ∈ ["A", "B", "C", "D", "E", "F", "G", "H"], isValidEnvironmentName (ascii name) = true ∧
      (ascii name).length ≤ maxEnvironmentNameBytes ∧ LaunchPlan.isValidEnvironmentName (ascii name) = true := by
    decide +kernel
  refine forall_mem_map.mpr fun name member => ?_
  obtain ⟨valid, short, portable⟩ := names name member
  exact ⟨valid, short, portable, by simp, by simp [containsNul, nul]⟩

theorem heavySpec_passes : (heavySpec [ascii "a"]).ItemsPass := by
  refine ⟨by decide, by decide, by decide, by decide, by decide, fun entry member => ?_, by decide +kernel⟩
  obtain ⟨valid, short, _, value⟩ := heavyEnvironment_passes entry member
  exact ⟨valid, short, value⟩

theorem heavyPlan_passes : (heavyPlan [ascii "a"]).ItemsPass := by
  refine ⟨by decide, by decide, by decide, by decide, fun entry member => ?_, by decide +kernel⟩
  obtain ⟨_, _, valid, value⟩ := heavyEnvironment_passes entry member
  exact ⟨valid, value⟩

theorem size_totals_exact_heavy :
    validate (heavySpec [ascii "a"]) = .error ⟨.environmentTooLarge, some 7⟩ ∧
      (heavyPlan [ascii "a"]).validate = .error ⟨.environmentTooLarge, some 7, some (ascii "H")⟩ := by
  obtain ⟨_, _, _, _, submitted, launched, _⟩ := size_totals_exact
  rw [submitted _ heavySpec_passes, launched _ heavyPlan_passes]
  simp only [heavySpec, heavyPlan, heavyEnvironment, map_cons, map_nil, refuseOver_cons, entryBytes, length_replicate]
  decide +kernel

/-- With an empty command in the same place both checks stop before the environment, however large it is. -/
theorem empty_command_first :
    (heavySpec [ascii "a"]).ItemsPass ∧ (heavyPlan [ascii "a"]).ItemsPass ∧
      maxEnvironmentBytes < environmentBytes heavyEnvironment.entries ∧
      validate (heavySpec []) = .error ⟨.emptyArguments, none⟩ ∧
      (heavyPlan []).validate = .error { code := .emptyArguments } := by
  refine ⟨heavySpec_passes, heavyPlan_passes, ?_, rfl, rfl⟩
  simp only [environmentBytes, heavyEnvironment, map_map, Function.comp_def, length_replicate]
  decide +kernel

end Yori
