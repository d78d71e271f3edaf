import Yori.Launch.Launchable

/-! The environment of a launch, name by name. -/

namespace SortedMap

variable {κ ν : Type} [LinearOrder κ] {entries : List (κ × ν)}

/-- The value of the last entry with the key. -/
def lastValue (key : κ) : List (κ × ν) → Option ν
  | [] => none
  | entry :: rest => (lastValue key rest).or (if key = entry.1 then some entry.2 else none)

theorem find?_insertAll (m : SortedMap κ ν) (key : κ) :
    (m.insertAll entries).find? key = (lastValue key entries).or (m.find? key) := by
  induction entries generalizing m with
  | nil => rfl
  | cons entry _ ih =>
    have next := ih (m.insert entry.1 entry.2)
    rw [find?_insert] at next
    rw [lastValue, Option.or_assoc]
    refine next.trans (congrArg _ ?_)
    split
    · rfl
    · rfl

theorem mem_of_lastValue {key : κ} {value : ν} (last : lastValue key entries = some value) :
    (key, value) ∈ entries := by
  induction entries with
  | nil => cases last
  | cons entry _ ih =>
    rcases Option.or_eq_some_iff.mp last with later | ⟨_, here⟩
    · exact List.mem_cons_of_mem _ (ih later)
    · split at here
      · rename_i same
        cases here
        rw [same]
        exact List.mem_cons_self ..
      · cases here

theorem lastValue_filter (key : κ) (test : κ → Bool) :
    lastValue key (entries.filter fun entry => test entry.1) = if test key then lastValue key entries else none := by
  induction entries with
  | nil => simp [lastValue]
  | cons entry _ ih =>
    rw [List.filter_cons, lastValue]
    by_cases same : key = entry.1
    · subst same
      by_cases kept : test entry.1 = true <;> simp [kept, lastValue, ih]
    · split <;> simp [lastValue, same, ih]

theorem lastValue_ne_none {entry : κ × ν} (member : entry ∈ entries) : lastValue entry.1 entries ≠ none := by
  induction entries with
  | nil => cases member
  | cons _ _ ih =>
    intro none
    obtain ⟨later, here⟩ := Option.or_eq_none_iff.mp none
    rcases List.mem_cons.mp member with rfl | elsewhere
    · rw [if_pos rfl] at here
      cases here
    · exact ih elsewhere later

/-- A map holds one entry for each key. -/
theorem lastValue_entries (m : SortedMap κ ν) (key : κ) : lastValue key m.entries = m.find? key := by
  cases last : lastValue key m.entries with
  | some value => exact (find?_eq_some_iff.mpr (mem_of_lastValue last)).symm
  | none => exact (find?_eq_none_iff.mpr fun entry member same => lastValue_ne_none member (same ▸ last)).symm

end SortedMap

namespace Yori
open Checked ByteString SortedMap DefaultLaunchAdapter

namespace DefaultLaunchAdapter

/-- What the scheduler itself sets. -/
def yoriValue (id : JobId) (assignment : GpuAssignment) (mode : GpuMappingMode) (name : ByteString) :
    Option ByteString :=
  if mode = .cudaVisibleDevices ∧ name = ascii "CUDA_DEVICE_ORDER" then some (ascii "PCI_BUS_ID")
  else if mode = .cudaVisibleDevices ∧ name = ascii "CUDA_VISIBLE_DEVICES" then some assignment.indexText
  else if name = ascii "YORI_GPU_UUID" then some assignment.uuid.value
  else if name = ascii "YORI_JOB_ID" then some (ascii (toString id.value.toNat))
  else none

/-- What the account says. -/
def identityValue (identity : IdentityInfo) (name : ByteString) : Option ByteString :=
  if name = ascii "HOME" then some identity.home
  else if name = ascii "USER" ∨ name = ascii "LOGNAME" then some identity.username
  else if name = ascii "SHELL" then some identity.shell
  else none

/-- The last value of the daemon, if a job may inherit the name. -/
def daemonValue (environment : List EnvironmentEntry) (name : ByteString) : Option ByteString :=
  if name = ascii "LANG" ∨ name = ascii "PATH" ∨ name = ascii "TERM" ∨ name = ascii "TZ" ∨ ascii "LC_" <+: name then
    SortedMap.lastValue name environment
  else none

variable {id : JobId} {spec : JobSpec} {assignment : GpuAssignment} {profile : LaunchProfile} {identity : IdentityInfo}

theorem find?_identityBlock (name : ByteString) :
    (identityBlock identity).find? name = identityValue identity name := by
  unfold identityValue
  split
  · rename_i home
    subst home
    rfl
  · rename_i home
    split
    · rename_i user
      rcases user with rfl | rfl
      · rfl
      · rfl
    · rename_i user
      obtain ⟨user, logname⟩ := not_or.mp user
      split
      · rename_i shell
        subst shell
        rfl
      · rename_i shell
        simp only [identityBlock, find?_emplace, if_neg home, if_neg user, if_neg logname, if_neg shell,
          find?_empty]

theorem daemonValue_eq (environment : List EnvironmentEntry) (name : ByteString) :
    daemonValue environment name =
      if ({} : EnvironmentPolicy).accepts name then lastValue name environment else none := by
  simp [daemonValue, EnvironmentPolicy.accepts, or_assoc]

/-- The variables that the account sets are of no other layer below the scheduler's. -/
theorem identity_alone (unreserved : ∀ entry ∈ spec.env.entries, isReservedEnvironmentKey entry.1 = false)
    {name value : ByteString} (found : identityValue identity name = some value) :
    spec.env.find? name = none ∧ ∀ environment, daemonValue environment name = none := by
  have reserved : isReservedEnvironmentKey name = true ∧ ({} : EnvironmentPolicy).accepts name = false := by
    unfold identityValue at found
    split at found
    · rename_i home
      subst home
      decide
    · split at found
      · rename_i user
        rcases user with rfl | rfl <;> decide
      · split at found
        · rename_i shell
          subst shell
          decide
        · cases found
  constructor
  · rw [find?_eq_none_iff]
    intro entry member same
    have free := unreserved entry member
    rw [same, reserved.1] at free
    cases free
  · intro environment
    rw [daemonValue_eq, reserved.2]
    rfl

/-- The lookup in the merged environment, in the order in which the layers are written. -/
theorem find?_mergeEnvironment (environment : List EnvironmentEntry) (name : ByteString) :
    ((mk {} environment).mergeEnvironment id spec assignment profile identity).find? name =
      (yoriValue id assignment profile.mode name).or ((spec.env.find? name).or
        ((daemonValue environment name).or (identityValue identity name))) := by
  have layers : ∀ name, (((identityBlock identity).insertAll (environment.filter fun entry =>
      ({} : EnvironmentPolicy).accepts entry.1)).insertAll spec.env.entries).find? name =
      (spec.env.find? name).or ((daemonValue environment name).or (identityValue identity name)) := by
    intro name
    rw [find?_insertAll, find?_insertAll, lastValue_entries, lastValue_filter,
      ← daemonValue_eq, find?_identityBlock]
  unfold mergeEnvironment yoriValue
  cases profile.mode with
  | cudaVisibleDevices =>
    simp only [find?_insert, layers, cudaVisibleDevices, true_and]
    repeat' split
    all_goals rfl
  | physicalArgument =>
    simp only [find?_insert, layers, reduceCtorEq, false_and, if_false]
    repeat' split
    all_goals rfl

/-- A prepared plan lists its variables in the order of their names, each once, with the value of the first layer that
sets it. -/
theorem prepared_environment (environment : List EnvironmentEntry) (id : JobId) (spec : JobSpec)
    (assignment : GpuAssignment) (profile : LaunchProfile) (identity : IdentityInfo) (plan : LaunchPlan)
    (prepared : (DefaultLaunchAdapter.mk {} environment).prepare id spec assignment profile identity = .ok plan) :
    plan.env.Pairwise (fun a b => a.1 < b.1) ∧
    (∀ name value, (name, value) ∈ plan.env ↔
      (yoriValue id assignment profile.mode name).or ((identityValue identity name).or
        ((spec.env.find? name).or (daemonValue environment name))) = some value) ∧
    plan.argv = spec.argv ++ (match profile.mode with
      | .physicalArgument => [profile.physicalArgument, ascii (toString assignment.physicalIndex.toNat)]
      | .cudaVisibleDevices => []) ∧
    plan.uid = identity.uid ∧ plan.gid = identity.gid ∧ plan.supplementaryGroups = identity.supplementaryGroups := by
  obtain ⟨reserved, rfl⟩ := prepare_eq_ok prepared
  have unreserved : ∀ entry ∈ spec.env.entries, isReservedEnvironmentKey entry.1 = false := by
    intro entry member
    rw [checkReserved] at reserved
    split at reserved
    · rename_i none
      exact Bool.eq_false_iff.mpr (List.find?_eq_none.mp none entry member)
    · cases reserved
  refine ⟨sorted _, ?_, ?_, rfl, rfl, rfl⟩
  · intro name value
    show (name, value) ∈ (mergeEnvironment _ id spec assignment profile identity).entries ↔ _
    rw [← find?_eq_some_iff, find?_mergeEnvironment]
    cases own : identityValue identity name with
    | none => rw [Option.none_or, Option.or_none]
    | some =>
      obtain ⟨job, daemon⟩ := identity_alone unreserved own
      simp only [job, daemon, Option.none_or, Option.or_none]
  · simp only [launchPlan, mappedArguments]
    cases profile.mode with
    | cudaVisibleDevices => exact (List.append_nil _).symm
    | physicalArgument => rfl

theorem prepared_environment_two_terms :
    let environment := [(ascii "TERM", ascii "vt100"), (ascii "TERM", ascii "xterm")]
    ∃ plan, (DefaultLaunchAdapter.mk {} environment).prepare ⟨1⟩ (JobSpec.minimal 1 {}) plainAssignment {}
      plainIdentity = .ok plan ∧ (ascii "TERM", ascii "xterm") ∈ plan.env := by
  intro environment
  have prepared : (DefaultLaunchAdapter.mk {} environment).prepare ⟨1⟩ (JobSpec.minimal 1 {}) plainAssignment {}
      plainIdentity = .ok ((DefaultLaunchAdapter.mk {} environment).launchPlan ⟨1⟩ (JobSpec.minimal 1 {})
        plainAssignment {} plainIdentity) := by decide +kernel
  refine ⟨_, prepared, ?_⟩
  exact ((prepared_environment environment ⟨1⟩ (JobSpec.minimal 1 {}) plainAssignment {} plainIdentity _ prepared).2.1
    _ _).mpr (by decide +kernel)

end DefaultLaunchAdapter

end Yori
