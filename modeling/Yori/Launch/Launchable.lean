import Yori.Decimal
import Yori.JobChecks
import Yori.Launch.Adapter

/-! When a specification that was accepted at submission passes the check before its launch. -/

namespace Yori
open Checked ByteString JobSpecLimits IdentityInfo List

namespace LaunchPlan

theorem addWithinLimit_eq (bytes total limit : Nat) :
    addWithinLimit bytes total limit = if total + bytes ≤ limit then some (total + bytes) else none := by
  rw [addWithinLimit]
  by_cases fits : total + bytes ≤ limit
  · rw [if_pos fits, if_neg (by omega)]
  · rw [if_neg fits, if_pos (by omega)]

/-- The loop over the arguments before a launch. -/
theorem checkArguments_budget :
    Budget checkArguments
      (fun index argument => do
        rejectIf (argument.isEmpty || containsNul argument) ⟨.invalidArgument, some index, none⟩
        rejectIf (argument.length > maxSingleArgumentBytes) ⟨.argumentTooLong, some index, none⟩)
      (fun argument => (argument ≠ [] ∧ containsNul argument = false) ∧ argument.length ≤ maxSingleArgumentBytes)
      length maxArgumentBytes (fun index _ => ⟨.argumentsTooLarge, some index, none⟩) where
  empty _ _ := rfl
  accepts _ _ := by
    rw [guard_bind_eq_ok, rejectIf_eq_ok, Nat.not_lt]
    simp
  turn index total argument rest _ := by
    rw [checkArguments, addWithinLimit_eq, bind_assoc]
    split_ifs <;> rfl

theorem checkEnvironment_budget :
    Budget checkEnvironment
      (fun index entry => do
        rejectIf (!isValidEnvironmentName entry.1) ⟨.invalidEnvironmentName, some index, some entry.1⟩
        rejectIf (entry.2.length > maxEnvironmentValueBytes ∨ containsNul entry.2)
          ⟨.environmentValueTooLong, some index, some entry.1⟩)
      (fun entry => isValidEnvironmentName entry.1 = true ∧
        entry.2.length ≤ maxEnvironmentValueBytes ∧ containsNul entry.2 = false)
      (fun entry => entry.1.length + entry.2.length) maxEnvironmentBytes
      (fun index entry => ⟨.environmentTooLarge, some index, some entry.1⟩) where
  empty _ _ := rfl
  accepts _ _ := by
    rw [guard_bind_eq_ok, rejectIf_eq_ok, plainValue_iff]
    simp
  turn index total entry rest _ := by
    obtain ⟨name, value⟩ := entry
    rw [checkEnvironment, addWithinLimit_eq, bind_assoc]
    split_ifs <;> rfl

/-- The check before the spawn, as what it accepts. -/
theorem validate_eq_ok {plan : LaunchPlan} :
    plan.validate = .ok () ↔
      plan.argv ≠ [] ∧ plan.argv.length ≤ maxArgumentCount ∧
      checkArguments 0 0 plan.argv = .ok () ∧
      (plan.cwd.length ≤ maxWorkingDirectoryBytes ∧ containsNul plan.cwd = false) ∧
      (plan.cwd = [] ∨ absolute plan.cwd = true) ∧
      (plan.executable = [] ∨ absolute plan.executable = true ∧ containsNul plan.executable = false ∧
        plan.executable.length ≤ maxExecutableBytes) ∧
      plan.env.length ≤ maxEnvironmentVariables ∧ checkEnvironment 0 0 plan.env = .ok () ∧
      (plan.uid ≠ 0 ∧ plan.gid ≠ 0) ∧
      (plan.username ≠ [] ∧ containsNul plan.username = false ∧
        plan.username.length ≤ maxUsernameBytes) ∧
      plan.supplementaryGroups.length ≤ maxSupplementaryGroups := by
  have directory : ¬(!plan.cwd.isEmpty && !absolute plan.cwd) = true ↔ plan.cwd = [] ∨ absolute plan.cwd = true := by
    simp only [Bool.and_eq_true, Bool.not_eq_true', isEmpty_eq_false_iff, not_and_or, not_not, ne_eq,
      Bool.not_eq_false]
  have executable : ¬(!plan.executable.isEmpty && (!absolute plan.executable || containsNul plan.executable ||
      plan.executable.length > maxExecutableBytes)) = true ↔
      plan.executable = [] ∨ absolute plan.executable = true ∧ containsNul plan.executable = false ∧
        plan.executable.length ≤ maxExecutableBytes := by
    simp only [Bool.and_eq_true, Bool.or_eq_true, Bool.not_eq_true', isEmpty_eq_false_iff, not_and_or, not_or,
      not_not, ne_eq, Bool.not_eq_false, Bool.not_eq_true, decide_eq_true_eq, Nat.not_lt, and_assoc]
  have username : ¬(plan.username.isEmpty || containsNul plan.username ||
      plan.username.length > maxUsernameBytes) = true ↔
      plan.username ≠ [] ∧ containsNul plan.username = false ∧
        plan.username.length ≤ maxUsernameBytes := by
    simp only [Bool.or_eq_true, not_or, List.isEmpty_iff, Bool.not_eq_true, decide_eq_true_eq, Nat.not_lt, and_assoc,
      ne_eq]
  rw [validate, guard_bind_eq_ok, guard_bind_eq_ok, unit_bind_eq_ok, guard_bind_eq_ok, guard_bind_eq_ok,
    guard_bind_eq_ok, guard_bind_eq_ok, unit_bind_eq_ok, guard_bind_eq_ok, guard_bind_eq_ok, rejectIf_eq_ok, directory,
    executable, username, not_or, not_or, Nat.not_lt, Nat.not_lt, Nat.not_lt, Nat.not_lt, Bool.not_eq_true]

end LaunchPlan

/-- What the check of an account says of it. -/
structure IdentityInfo.Checked (identity : IdentityInfo) : Prop where
  uid : identity.uid ≠ 0
  gid : identity.gid ≠ 0
  username : identity.username ≠ [] ∧ containsNul identity.username = false ∧
    identity.username.length ≤ maxUsernameBytes
  home : containsNul identity.home = false ∧ identity.home.length ≤ maxPathBytes
  shell : containsNul identity.shell = false ∧ identity.shell.length ≤ maxPathBytes
  groups : identity.supplementaryGroups.length ≤ maxSupplementaryGroups

theorem IdentityInfo.path_of_not_bad {path : ByteString} (good : ¬badPath path = true) :
    containsNul path = false ∧ path.length ≤ maxPathBytes := by
  cases path with
  | nil => exact ⟨rfl, Nat.zero_le _⟩
  | cons =>
    simp only [badPath, isEmpty_cons, Bool.not_false, Bool.true_and, Bool.or_eq_true, not_or,
      Bool.not_eq_true, decide_eq_true_eq] at good
    exact ⟨good.1, by omega⟩

theorem IdentityInfo.checked {identity : IdentityInfo} (valid : identity.validate = .ok ()) : identity.Checked := by
  unfold validate at valid
  obtain ⟨uid, valid⟩ := guard_bind_eq_ok.mp valid
  obtain ⟨gid, valid⟩ := guard_bind_eq_ok.mp valid
  obtain ⟨username, valid⟩ := guard_bind_eq_ok.mp valid
  obtain ⟨short, valid⟩ := guard_bind_eq_ok.mp valid
  obtain ⟨home, valid⟩ := guard_bind_eq_ok.mp valid
  obtain ⟨shell, valid⟩ := guard_bind_eq_ok.mp valid
  have groups := rejectIf_eq_ok.mp valid
  simp only [Bool.or_eq_true, not_or, Bool.not_eq_true, List.isEmpty_iff] at username
  exact ⟨uid, gid, ⟨by simpa using username.1, username.2, by omega⟩, path_of_not_bad home, path_of_not_bad shell,
    by omega⟩

/-- The variables that the scheduler sets for a job. -/
def managedVariables (id : JobId) (assignment : GpuAssignment) : List EnvironmentEntry :=
  [(ascii "YORI_JOB_ID", ascii (toString id.value.toNat)), (ascii "YORI_GPU_UUID", assignment.uuid.value),
    (ascii "CUDA_VISIBLE_DEVICES", assignment.indexText), (ascii "CUDA_DEVICE_ORDER", ascii "PCI_BUS_ID")]

/-- Those that say who runs it. -/
def identityVariables (identity : IdentityInfo) : List EnvironmentEntry :=
  [(ascii "HOME", identity.home), (ascii "LOGNAME", identity.username), (ascii "SHELL", identity.shell),
    (ascii "USER", identity.username)]

/-- All that a launch adds to the environment of the job. -/
def addedVariables (id : JobId) (assignment : GpuAssignment) (identity : IdentityInfo) : List EnvironmentEntry :=
  managedVariables id assignment ++ identityVariables identity

/-- No variable of the job is one that the launch sets. -/
def JobSpec.Unreserved (spec : JobSpec) : Prop :=
  ∀ entry ∈ spec.env.entries, isReservedEnvironmentKey entry.1 = false

namespace DefaultLaunchAdapter

section Environment
variable {id : JobId} {spec : JobSpec} {assignment : GpuAssignment} {identity : IdentityInfo}
  {entry : EnvironmentEntry}

def addedNames : List ByteString :=
  [ascii "YORI_JOB_ID", ascii "YORI_GPU_UUID", ascii "CUDA_VISIBLE_DEVICES", ascii "CUDA_DEVICE_ORDER", ascii "HOME",
    ascii "LOGNAME", ascii "SHELL", ascii "USER"]

/-- The added names are reserved, and each is the name of a variable. -/
theorem addedVariables_name (member : entry ∈ addedVariables id assignment identity) :
    isReservedEnvironmentKey entry.1 = true ∧ LaunchPlan.isValidEnvironmentName entry.1 = true := by
  have names : ∀ name ∈ addedNames, isReservedEnvironmentKey name = true ∧
      LaunchPlan.isValidEnvironmentName name = true := by decide +kernel
  exact names entry.1 (mem_map_of_mem (f := Prod.fst) member)

/-- The environment of a launch is that of the job and what the launch adds. -/
theorem mergeEnvironment_perm (unreserved : spec.Unreserved) :
    (({} : DefaultLaunchAdapter).mergeEnvironment id spec assignment {} identity).entries.Perm
      (spec.env.entries ++ addedVariables id assignment identity) := by
  have same : ({} : DefaultLaunchAdapter).mergeEnvironment id spec assignment {} identity =
      (identityBlock identity).insertAll (spec.env.entries ++ managedVariables id assignment) := by
    rw [SortedMap.insertAll, foldl_append]
    rfl
  have reserved : ∀ entry ∈ managedVariables id assignment ++ identityVariables identity,
      isReservedEnvironmentKey entry.1 = true := fun entry member => (addedVariables_name member).1
  have apart : ∀ entry ∈ spec.env.entries, ∀ other ∈ managedVariables id assignment ++ identityVariables identity,
      entry.1 ≠ other.1 := by
    intro entry member other added equal
    have clash := unreserved entry member
    rw [equal, reserved other added] at clash
    cases clash
  have managedNodup : ((managedVariables id assignment).map Prod.fst).Nodup := by
    show [ascii "YORI_JOB_ID", ascii "YORI_GPU_UUID", ascii "CUDA_VISIBLE_DEVICES", ascii "CUDA_DEVICE_ORDER"].Nodup
    decide +kernel
  have foreign : ∀ name ∈ [ascii "YORI_JOB_ID", ascii "YORI_GPU_UUID", ascii "CUDA_VISIBLE_DEVICES",
      ascii "CUDA_DEVICE_ORDER"], ∀ other ∈ [ascii "HOME", ascii "LOGNAME", ascii "SHELL", ascii "USER"],
      other ≠ name := by decide +kernel
  have nodup : ((spec.env.entries ++ managedVariables id assignment).map Prod.fst).Nodup := by
    rw [map_append, nodup_append]
    refine ⟨spec.env.keys_nodup, managedNodup, ?_⟩
    intro _ inJob _ inManaged
    obtain ⟨entry, member, rfl⟩ := mem_map.mp inJob
    obtain ⟨added, member', rfl⟩ := mem_map.mp inManaged
    exact apart entry member added (mem_append_left _ member')
  have absent : ∀ entry ∈ spec.env.entries ++ managedVariables id assignment,
      (identityBlock identity).find? entry.1 = none := by
    intro entry member
    rw [SortedMap.find?_eq_none_iff]
    intro other inBlock
    rcases mem_append.mp member with ofJob | managed
    · exact (apart entry ofJob other (mem_append_right _ inBlock)).symm
    · exact foreign entry.1 (mem_map_of_mem (f := Prod.fst) managed) other.1
        (mem_map_of_mem (f := Prod.fst) inBlock)
  rw [same, addedVariables, ← append_assoc]
  exact SortedMap.entries_insertAll_perm nodup absent

/-- The added values are within the limits of a variable. -/
theorem addedVariables_value (known : identity.Checked) (device : assignment.valid = true)
    (member : entry ∈ addedVariables id assignment identity) :
    entry.2.length ≤ maxEnvironmentValueBytes ∧ containsNul entry.2 = false := by
  have jobText : (ascii (toString id.value.toNat)).length ≤ 20 :=
    length_decimal (by omega) (by have := id.value.toNat_lt; omega)
  have indexText : assignment.indexText.length ≤ 20 :=
    length_decimal (by omega) (by have := assignment.physicalIndex.toNat_lt; omega)
  have uuid : assignment.uuid.value.length ≤ GpuUuid.maxBytes ∧ containsNul assignment.uuid.value = false := by
    simp only [GpuAssignment.valid, GpuUuid.valid, Bool.and_eq_true, decide_eq_true_eq, Bool.not_eq_true'] at device
    exact ⟨device.1.2, device.2⟩
  simp only [addedVariables, managedVariables, identityVariables, cons_append, nil_append, mem_cons,
    not_mem_nil, or_false] at member
  rcases member with rfl | rfl | rfl | rfl | rfl | rfl | rfl | rfl
  · exact ⟨jobText.trans (by decide), containsNul_decimal _⟩
  · exact ⟨uuid.1.trans (by decide), uuid.2⟩
  · exact ⟨indexText.trans (by decide), containsNul_decimal _⟩
  · decide
  · exact ⟨known.home.2.trans (by decide), known.home.1⟩
  · exact ⟨known.username.2.2.trans (by decide), known.username.2.1⟩
  · exact ⟨known.shell.2.trans (by decide), known.shell.1⟩
  · exact ⟨known.username.2.2.trans (by decide), known.username.2.1⟩

end Environment

section Plan
variable {id : JobId} {spec : JobSpec} {assignment : GpuAssignment} {identity : IdentityInfo}

/-- The plan of an accepted specification passes its own check exactly when no argument is empty and the
environment has portable names and room for what the launch adds. -/
theorem launchPlan_validate_iff (checked : spec.Checked) (unreserved : spec.Unreserved) (known : identity.Checked)
    (device : assignment.valid = true) :
    (({} : DefaultLaunchAdapter).launchPlan id spec assignment {} identity).validate = .ok () ↔
      (∀ argument ∈ spec.argv, argument ≠ []) ∧
      (∀ entry ∈ spec.env.entries, LaunchPlan.isValidEnvironmentName entry.1 = true) ∧
      spec.env.size + 8 ≤ maxEnvironmentVariables ∧
      environmentBytes spec.env.entries + environmentBytes (addedVariables id assignment identity) ≤
        maxEnvironmentBytes := by
  have perm : (({} : DefaultLaunchAdapter).launchPlan id spec assignment {} identity).env.Perm
      (spec.env.entries ++ addedVariables id assignment identity) := mergeEnvironment_perm unreserved
  have count : (({} : DefaultLaunchAdapter).launchPlan id spec assignment {} identity).env.length =
      spec.env.size + 8 := by
    rw [perm.length_eq, length_append]
    rfl
  have bytes : environmentBytes (({} : DefaultLaunchAdapter).launchPlan id spec assignment {} identity).env =
      environmentBytes spec.env.entries + environmentBytes (addedVariables id assignment identity) := by
    rw [environmentBytes, (perm.map _).sum_eq, map_append, sum_append]
    rfl
  have arguments : LaunchPlan.checkArguments 0 0 spec.argv = .ok () ↔ ∀ argument ∈ spec.argv, argument ≠ [] := by
    rw [LaunchPlan.checkArguments_budget.eq_ok (Nat.zero_le _), Nat.zero_add]
    constructor
    · rintro ⟨each, _⟩ argument member
      exact (each argument member).1.1
    · intro some
      refine ⟨fun argument member => ?_, checked.total⟩
      obtain ⟨clean, short⟩ := checked.arguments argument member
      exact ⟨⟨some argument member, clean⟩, short⟩
  have environment : LaunchPlan.checkEnvironment 0 0
      (({} : DefaultLaunchAdapter).launchPlan id spec assignment {} identity).env = .ok () ↔
      (∀ entry ∈ spec.env.entries, LaunchPlan.isValidEnvironmentName entry.1 = true) ∧
      environmentBytes spec.env.entries + environmentBytes (addedVariables id assignment identity) ≤
        maxEnvironmentBytes := by
    rw [LaunchPlan.checkEnvironment_budget.eq_ok (Nat.zero_le _), Nat.zero_add, ← environmentBytes, bytes]
    constructor
    · rintro ⟨each, total⟩
      exact ⟨fun entry member => (each entry (perm.mem_iff.mpr (mem_append_left _ member))).1, total⟩
    · rintro ⟨names, total⟩
      refine ⟨fun entry member => ?_, total⟩
      rcases mem_append.mp (perm.mem_iff.mp member) with ofJob | added
      · exact ⟨names entry ofJob, (checked.environment entry ofJob).2.2⟩
      · exact ⟨(addedVariables_name added).2, addedVariables_value known device added⟩
  have executable : spec.executable.getD [] = [] ∨ absolute (spec.executable.getD []) = true ∧
      containsNul (spec.executable.getD []) = false ∧
      (spec.executable.getD []).length ≤ maxExecutableBytes := by
    cases found : spec.executable with
    | none => exact .inl rfl
    | some path =>
      obtain ⟨short, clean, rooted⟩ := checked.executable path found
      exact .inr ⟨rooted, clean, short⟩
  rw [LaunchPlan.validate_eq_ok, count, environment]
  constructor
  · rintro ⟨_, _, passed, _, _, _, few, ⟨names, total⟩, _⟩
    exact ⟨arguments.mp passed, names, few, total⟩
  · rintro ⟨some, names, few, total⟩
    exact ⟨checked.present, checked.few, arguments.mpr some, ⟨checked.cwd.1, checked.cwd.2.1⟩, .inr checked.cwd.2.2,
      executable, few, ⟨names, total⟩, ⟨known.uid, known.gid⟩, known.username, known.groups⟩

/-- The steps of a preparation before the plan is checked all pass. -/
theorem prepare_eq_ok_iff (named : id.valid = true) (valid : spec.Valid) (unreserved : spec.Unreserved)
    (account : identity.validate = .ok ()) (device : assignment.valid = true) :
    (∃ plan, ({} : DefaultLaunchAdapter).prepare id spec assignment {} identity = .ok plan) ↔
      (({} : DefaultLaunchAdapter).launchPlan id spec assignment {} identity).validate = .ok () := by
  have reserved : checkReserved spec.env = .ok () := by
    have none : (spec.env.entries.find? fun entry => isReservedEnvironmentKey entry.1) = none := by
      rw [find?_eq_none]
      intro entry member
      rw [unreserved entry member]
      decide
    rw [checkReserved, none]
  have accepted : Yori.validate spec = .ok () := valid
  have start : ({} : DefaultLaunchAdapter).prepare id spec assignment {} identity = do
      (({} : DefaultLaunchAdapter).launchPlan id spec assignment {} identity).validate.mapError fun error =>
        ⟨.invalidSpec, none, error.code.toString⟩
      return ({} : DefaultLaunchAdapter).launchPlan id spec assignment {} identity := by
    rw [prepare, named, accepted, account, device, reserved]
    rfl
  rw [start]
  constructor
  · rintro ⟨_, prepared⟩
    exact mapError_eq_ok.mp (unit_bind_eq_ok.mp prepared).1
  · intro passed
    refine ⟨({} : DefaultLaunchAdapter).launchPlan id spec assignment {} identity, ?_⟩
    exact unit_bind_eq_ok.mpr ⟨mapError_eq_ok.mpr passed, rfl⟩

end Plan

/-- A specification that was accepted can be launched exactly when it has no empty argument, the names of
its variables are portable, and its environment leaves room for the eight variables that the launch adds. -/
theorem accepted_spec_launchable_iff (id : JobId) (spec : JobSpec) (assignment : GpuAssignment)
    (identity : IdentityInfo) (named : id.valid = true) (valid : spec.Valid) (unreserved : spec.Unreserved)
    (account : identity.validate = .ok ()) (device : assignment.valid = true) :
    (∃ plan, ({} : DefaultLaunchAdapter).prepare id spec assignment {} identity = .ok plan) ↔
      (∀ argument ∈ spec.argv, argument ≠ []) ∧
      (∀ entry ∈ spec.env.entries, LaunchPlan.isValidEnvironmentName entry.1 = true) ∧
      spec.env.size + 8 ≤ JobSpecLimits.maxEnvironmentVariables ∧
      environmentBytes spec.env.entries + environmentBytes (addedVariables id assignment identity) ≤
        JobSpecLimits.maxEnvironmentBytes := by
  rw [prepare_eq_ok_iff named valid unreserved account device]
  exact launchPlan_validate_iff valid.checked unreserved (checked account) device

def plainAssignment : GpuAssignment := { uuid := ⟨ascii "GPU-0"⟩ }

def plainIdentity : IdentityInfo :=
  { uid := 1000, gid := 1000, username := ascii "ana", home := ascii "/home/ana", shell := ascii "/bin/sh" }

theorem training_spec_launchable :
    ∃ plan, ({} : DefaultLaunchAdapter).prepare ⟨1⟩ .training plainAssignment {} plainIdentity = .ok plan :=
  (accepted_spec_launchable_iff ⟨1⟩ .training plainAssignment plainIdentity (by decide)
    (by unfold JobSpec.Valid; decide +kernel) (by unfold JobSpec.Unreserved; decide +kernel) (by decide +kernel)
    (by decide +kernel)).mpr (by decide +kernel)

/-- An empty argument passes the check at submission and fails the one before the launch. -/
theorem empty_argument_not_launchable :
    let spec : JobSpec := { JobSpec.minimal 1 {} with argv := [ascii "train", ascii "--tag", []] }
    spec.Valid ∧ spec.launchProfile = none ∧ spec.Unreserved ∧
      ({} : DefaultLaunchAdapter).prepare ⟨1⟩ spec plainAssignment {} plainIdentity =
        .error ⟨.invalidSpec, none, ascii "invalid argument"⟩ := by
  refine ⟨by unfold JobSpec.Valid; decide +kernel, rfl, ?_, by decide +kernel⟩
  intro _ member
  cases member

end DefaultLaunchAdapter

end Yori
