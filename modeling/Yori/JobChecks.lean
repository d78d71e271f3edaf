import Yori.Job

/-! What the checks of a specification accept, said without their loops. -/

namespace Yori
open Checked ByteString JobSpecLimits

variable {spec : JobSpec} {total index : Nat}

def argumentBytes (argv : List ByteString) : Nat := (argv.map List.length).sum

def environmentBytes (entries : List (ByteString × ByteString)) : Nat :=
  (entries.map fun entry => entry.1.length + entry.2.length).sum

theorem addWithinLimit_eq {value limit : Nat} (within : total ≤ limit) :
    addWithinLimit value total limit = if total + value ≤ limit then some (total + value) else none := by
  rw [addWithinLimit]
  by_cases fits : total + value ≤ limit
  · rw [if_pos fits, if_neg (by omega)]
  · rw [if_neg fits, if_pos (by omega)]

/-- The loop over the arguments at submission. -/
theorem checkArguments_budget :
    Budget checkArguments
      (fun index argument => do
        rejectIf (containsNul argument) ⟨.invalidArgument, some index⟩
        rejectIf (argument.length > maxSingleArgumentBytes) ⟨.argumentTooLong, some index⟩)
      (fun argument => containsNul argument = false ∧ argument.length ≤ maxSingleArgumentBytes)
      List.length maxArgumentBytes (fun index _ => ⟨.argumentsTooLarge, some index⟩) where
  empty _ _ := rfl
  accepts _ _ := by rw [guard_bind_eq_ok, rejectIf_eq_ok, Bool.not_eq_true, Nat.not_lt]
  turn index total argument rest within := by
    rw [checkArguments, addWithinLimit_eq within, bind_assoc]
    split_ifs <;> rfl

/-- The text of a variable that a specification may set. -/
theorem plainValue_iff {value : ByteString} :
    ¬(value.length > maxEnvironmentValueBytes ∨ containsNul value = true) ↔
      value.length ≤ maxEnvironmentValueBytes ∧ containsNul value = false := by
  rw [not_or, Nat.not_lt, Bool.not_eq_true]

theorem checkEnvironment_budget :
    Budget checkEnvironment
      (fun index entry => do
        rejectIf (!isValidEnvironmentName entry.1) ⟨.invalidEnvironmentName, some index⟩
        rejectIf (entry.1.length > maxEnvironmentNameBytes) ⟨.environmentNameTooLong, some index⟩
        rejectIf (entry.2.length > maxEnvironmentValueBytes ∨ containsNul entry.2)
          ⟨.environmentValueTooLong, some index⟩)
      (fun entry => isValidEnvironmentName entry.1 = true ∧ entry.1.length ≤ maxEnvironmentNameBytes ∧
        entry.2.length ≤ maxEnvironmentValueBytes ∧ containsNul entry.2 = false)
      (fun entry => entry.1.length + entry.2.length) maxEnvironmentBytes
      (fun index _ => ⟨.environmentTooLarge, some index⟩) where
  empty _ _ := rfl
  accepts _ _ := by
    rw [guard_bind_eq_ok, guard_bind_eq_ok, rejectIf_eq_ok, Nat.not_lt, plainValue_iff]
    simp
  turn index total entry rest within := by
    obtain ⟨name, value⟩ := entry
    simp only [checkEnvironment, addWithinLimit_eq within, bind_assoc]
    -- the name and the value are added one after the other
    by_cases room : total + name.length ≤ maxEnvironmentBytes
    · rw [if_pos room, Option.bind_some, addWithinLimit_eq room, Nat.add_assoc]
      split_ifs <;> rfl
    · rw [if_neg room, if_neg (by omega)]
      rfl

theorem checkPlacementDevices_ok {prior devices : List GpuUuid}
    (passed : checkPlacementDevices prior devices = .ok ()) : ∀ device ∈ devices, device.valid = true := by
  induction devices generalizing prior with
  | nil => simp
  | cons _ _ ih =>
    unfold checkPlacementDevices at passed
    obtain ⟨valid, passed⟩ := guard_bind_eq_ok.mp passed
    obtain ⟨_, passed⟩ := guard_bind_eq_ok.mp passed
    intro other member
    rcases List.mem_cons.mp member with here | later
    · rw [here]
      simpa using valid
    · exact ih passed other later

/-- The devices a placement may name. -/
def PlacementFits (placement : GpuPlacement) : Prop :=
  match placement.mode with
  | .any => placement.devices = []
  | .required => placement.devices ≠ [] ∧ placement.devices.length ≤ maxPlacementDevices ∧
      ∀ device ∈ placement.devices, device.valid = true
  | .preferred => ∃ device, placement.devices = [device] ∧ device.valid = true

theorem checkPlacement_ok {placement : GpuPlacement} {request : UInt32}
    (passed : checkPlacement placement request = .ok ()) : PlacementFits placement := by
  unfold checkPlacement at passed
  unfold PlacementFits
  cases mode : placement.mode with
  | any =>
    simp only [mode] at passed
    simpa using rejectIf_eq_ok.mp passed
  | required =>
    simp only [mode] at passed
    obtain ⟨count, passed⟩ := guard_bind_eq_ok.mp passed
    obtain ⟨devices, _⟩ := unit_bind_eq_ok.mp passed
    obtain ⟨present, few⟩ := not_or.mp count
    exact ⟨present, by omega, checkPlacementDevices_ok devices⟩
  | preferred =>
    simp only [mode] at passed
    obtain ⟨single, _⟩ := guard_bind_eq_ok.mp passed
    obtain ⟨one, valid⟩ := not_or.mp single
    obtain ⟨device, only⟩ := List.length_eq_one_iff.mp (not_not.mp one)
    exact ⟨device, only, by simpa [only] using valid⟩

/-- What the checks say of the parts of a specification that a launch uses. -/
structure JobSpec.Checked (spec : JobSpec) : Prop where
  present : spec.argv ≠ []
  few : spec.argv.length ≤ maxArgumentCount
  arguments : ∀ argument ∈ spec.argv, containsNul argument = false ∧
    argument.length ≤ maxSingleArgumentBytes
  total : argumentBytes spec.argv ≤ maxArgumentBytes
  cwd : spec.cwd.length ≤ maxWorkingDirectoryBytes ∧ containsNul spec.cwd = false ∧
    absolute spec.cwd = true
  count : spec.env.size ≤ maxEnvironmentVariables
  environment : ∀ entry ∈ spec.env.entries, isValidEnvironmentName entry.1 = true ∧
    entry.1.length ≤ maxEnvironmentNameBytes ∧
    entry.2.length ≤ maxEnvironmentValueBytes ∧ containsNul entry.2 = false
  placement : checkPlacement spec.gpuPlacement spec.gpuRequest = .ok ()
  executable : ∀ path, spec.executable = some path → path.length ≤ maxExecutableBytes ∧
    containsNul path = false ∧ absolute path = true
  environmentTotal : environmentBytes spec.env.entries ≤ maxEnvironmentBytes
  pythonVersion : ∀ version, spec.envMetadata.bind EnvMetadata.pythonVersion = some version →
    version.length ≤ maxPythonVersionBytes ∧ containsNul version = false
  tensorboardLogdir : ∀ path, spec.tensorboardLogdir = some path →
    path.length ≤ maxTensorboardLogdirBytes ∧ containsNul path = false

theorem JobSpec.Valid.parts (valid : spec.Valid) :
    spec.Checked ∧ ∀ profile, spec.launchProfile = some profile →
      profile.length ≤ maxLaunchProfileBytes ∧ containsNul profile = false := by
  unfold JobSpec.Valid validate at valid
  obtain ⟨_, valid⟩ := guard_bind_eq_ok.mp valid
  obtain ⟨present, valid⟩ := guard_bind_eq_ok.mp valid
  obtain ⟨few, valid⟩ := guard_bind_eq_ok.mp valid
  obtain ⟨arguments, valid⟩ := unit_bind_eq_ok.mp valid
  obtain ⟨_, valid⟩ := guard_bind_eq_ok.mp valid
  obtain ⟨directory, valid⟩ := guard_bind_eq_ok.mp valid
  obtain ⟨count, valid⟩ := guard_bind_eq_ok.mp valid
  obtain ⟨environment, valid⟩ := unit_bind_eq_ok.mp valid
  obtain ⟨placement, valid⟩ := unit_bind_eq_ok.mp valid
  obtain ⟨_, valid⟩ := guard_bind_eq_ok.mp valid
  obtain ⟨executable, valid⟩ := guard_bind_eq_ok.mp valid
  obtain ⟨python, valid⟩ := guard_bind_eq_ok.mp valid
  obtain ⟨profile, valid⟩ := guard_bind_eq_ok.mp valid
  obtain ⟨logdir, _⟩ := guard_bind_eq_ok.mp valid
  obtain ⟨eachArgument, allArguments⟩ := (checkArguments_budget.eq_ok (Nat.zero_le _)).mp arguments
  obtain ⟨eachVariable, allVariables⟩ := (checkEnvironment_budget.eq_ok (Nat.zero_le _)).mp environment
  rw [Nat.zero_add] at allArguments allVariables
  simp only [Bool.or_eq_true, not_or, decide_eq_true_eq, Bool.not_eq_true, Bool.not_eq_eq_eq_not,
    Bool.not_true] at directory
  refine ⟨⟨present, by omega, eachArgument, allArguments, ⟨by omega, directory.1.2, Bool.of_not_eq_false directory.2⟩,
    by omega, eachVariable, placement, ?_, allVariables, ?_, ?_⟩, ?_⟩
  · intro path found
    rw [found] at executable
    simp only [Option.any_some, Bool.or_eq_true, not_or, decide_eq_true_eq, Bool.not_eq_true, Bool.not_eq_eq_eq_not,
      Bool.not_true] at executable
    exact ⟨by omega, executable.1.2, Bool.of_not_eq_false executable.2⟩
  · intro version found
    rw [found] at python
    simp only [Option.any_some, Bool.or_eq_true, not_or, decide_eq_true_eq, Bool.not_eq_true] at python
    exact ⟨by omega, python.2⟩
  · intro path found
    rw [found] at logdir
    simp only [Option.any_some, isValidTensorboardLogdir] at logdir
    split at logdir
    · exact absurd rfl logdir
    · rename_i plain
      simp only [Bool.or_eq_true, not_or, decide_eq_true_eq, Bool.not_eq_true] at plain
      exact ⟨by omega, plain.1.2⟩
  · intro name found
    rw [found] at profile
    simp only [Option.any_some, Bool.or_eq_true, not_or, decide_eq_true_eq, Bool.not_eq_true] at profile
    exact ⟨by omega, profile.2⟩

theorem JobSpec.Valid.checked (valid : spec.Valid) : spec.Checked := valid.parts.1

end Yori
