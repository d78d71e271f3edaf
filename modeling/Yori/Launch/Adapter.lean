import Yori.Launch.Profile

namespace Yori
open Checked ByteString JobSpecLimits

/-- The account of the submitting user, resolved before the fork. -/
structure IdentityInfo where
  uid : UInt32 := 0
  gid : UInt32 := 0
  username : ByteString := []
  home : ByteString := []
  shell : ByteString := []
  supplementaryGroups : List UInt32 := []
deriving Repr

namespace IdentityInfo

def maxUsernameBytes : Nat := 64
def maxPathBytes : Nat := 4096
def maxSupplementaryGroups : Nat := 64

inductive ErrorCode
  | rootIdentityNotAllowed | invalidUid | invalidGid | invalidUsername | usernameTooLong | invalidHome
  | homeTooLong | invalidShell | shellTooLong | tooManySupplementaryGroups
deriving DecidableEq, Repr

def ErrorCode.toString : ErrorCode → ByteString
  | .rootIdentityNotAllowed => .ascii "root identity is not allowed"
  | .invalidUid => .ascii "invalid uid"
  | .invalidGid => .ascii "invalid gid"
  | .invalidUsername => .ascii "invalid username"
  | .usernameTooLong => .ascii "username too long"
  | .invalidHome => .ascii "invalid home"
  | .homeTooLong => .ascii "home too long"
  | .invalidShell => .ascii "invalid shell"
  | .shellTooLong => .ascii "shell too long"
  | .tooManySupplementaryGroups => .ascii "too many supplementary groups"

/-- Home and shell share one check: either is empty or a bounded NUL-free text. -/
def badPath (path : ByteString) : Bool :=
  !path.isEmpty && (containsNul path || path.length > maxPathBytes)

def validate (identity : IdentityInfo) : Except ErrorCode Unit := do
  rejectIf (identity.uid = 0) .rootIdentityNotAllowed
  rejectIf (identity.gid = 0) .invalidGid
  rejectIf (identity.username.isEmpty || containsNul identity.username) .invalidUsername
  rejectIf (identity.username.length > maxUsernameBytes) .usernameTooLong
  rejectIf (badPath identity.home) .invalidHome
  rejectIf (badPath identity.shell) .invalidShell
  rejectIf (identity.supplementaryGroups.length > maxSupplementaryGroups) .tooManySupplementaryGroups

end IdentityInfo

abbrev EnvironmentEntry := ByteString × ByteString

/-- What a process is started with. An empty executable stands for a search of
the first argument in the path. -/
structure LaunchPlan where
  argv : List ByteString := []
  env : List EnvironmentEntry := []
  cwd : ByteString := []
  executable : ByteString := []
  uid : UInt32 := 0
  gid : UInt32 := 0
  username : ByteString := []
  supplementaryGroups : List UInt32 := []
deriving DecidableEq, Repr

inductive LaunchPlanErrorCode
  | emptyArguments | tooManyArguments | invalidArgument | argumentTooLong | argumentsTooLarge
  | invalidWorkingDirectory | workingDirectoryTooLong | tooManyEnvironmentVariables | invalidEnvironmentName
  | environmentNameTooLong | environmentValueTooLong | environmentTooLarge | invalidExecutable
  | invalidIdentity | invalidUsername | invalidJobId
deriving DecidableEq, Repr

def LaunchPlanErrorCode.toString : LaunchPlanErrorCode → ByteString
  | .emptyArguments => .ascii "empty arguments"
  | .tooManyArguments => .ascii "too many arguments"
  | .invalidArgument => .ascii "invalid argument"
  | .argumentTooLong => .ascii "argument too long"
  | .argumentsTooLarge => .ascii "arguments too large"
  | .invalidWorkingDirectory => .ascii "invalid working directory"
  | .workingDirectoryTooLong => .ascii "working directory too long"
  | .tooManyEnvironmentVariables => .ascii "too many environment variables"
  | .invalidEnvironmentName => .ascii "invalid environment name"
  | .environmentNameTooLong => .ascii "environment name too long"
  | .environmentValueTooLong => .ascii "environment value too long"
  | .environmentTooLarge => .ascii "environment too large"
  | .invalidExecutable => .ascii "invalid executable"
  | .invalidIdentity => .ascii "invalid identity"
  | .invalidUsername => .ascii "invalid username"
  | .invalidJobId => .ascii "invalid job id"

structure LaunchPlanError where
  code : LaunchPlanErrorCode
  itemIndex : Option Nat := none
  itemName : Option ByteString := none
deriving DecidableEq, Repr

namespace LaunchPlan

/-- Letters, digits and the underscore. -/
def nameByte (byte : UInt8) : Bool :=
  (65 ≤ byte && byte ≤ 90) || (97 ≤ byte && byte ≤ 122) || (48 ≤ byte && byte ≤ 57) || byte == 95

/-- Stricter than the check at submission: only letters, digits and underscores. -/
def isValidEnvironmentName (name : ByteString) : Bool :=
  if name.isEmpty || name.length > maxEnvironmentNameBytes || containsNul name then false
  else if name.head? == some equalsSign || name.contains equalsSign then false
  else name.all nameByte

def addWithinLimit (bytes total limit : Nat) : Option Nat :=
  if bytes > limit ∨ total > limit - bytes then none else some (total + bytes)

def checkArguments (index total : Nat) : List ByteString → Except LaunchPlanError Unit
  | [] => .ok ()
  | argument :: rest => do
    rejectIf (argument.isEmpty || containsNul argument) ⟨.invalidArgument, some index, none⟩
    rejectIf (argument.length > maxSingleArgumentBytes) ⟨.argumentTooLong, some index, none⟩
    match addWithinLimit argument.length total maxArgumentBytes with
    | none => .error ⟨.argumentsTooLarge, some index, none⟩
    | some total => checkArguments (index + 1) total rest

def checkEnvironment (index total : Nat) : List EnvironmentEntry → Except LaunchPlanError Unit
  | [] => .ok ()
  | (name, value) :: rest => do
    rejectIf (!isValidEnvironmentName name) ⟨.invalidEnvironmentName, some index, some name⟩
    rejectIf (value.length > maxEnvironmentValueBytes ∨ containsNul value)
      ⟨.environmentValueTooLong, some index, some name⟩
    match addWithinLimit (name.length + value.length) total maxEnvironmentBytes with
    | none => .error ⟨.environmentTooLarge, some index, some name⟩
    | some total => checkEnvironment (index + 1) total rest

/-- The last check before the spawn, independent of the one at submission. -/
def validate (plan : LaunchPlan) : Except LaunchPlanError Unit := do
  rejectIf (plan.argv = []) { code := .emptyArguments }
  rejectIf (plan.argv.length > maxArgumentCount) { code := .tooManyArguments }
  checkArguments 0 0 plan.argv
  rejectIf (plan.cwd.length > maxWorkingDirectoryBytes ∨ containsNul plan.cwd)
    { code := .invalidWorkingDirectory }
  rejectIf (!plan.cwd.isEmpty && !absolute plan.cwd) { code := .invalidWorkingDirectory }
  rejectIf (!plan.executable.isEmpty && (!absolute plan.executable || containsNul plan.executable ||
    plan.executable.length > maxExecutableBytes)) { code := .invalidExecutable }
  rejectIf (plan.env.length > maxEnvironmentVariables) { code := .tooManyEnvironmentVariables }
  checkEnvironment 0 0 plan.env
  rejectIf (plan.uid = 0 ∨ plan.gid = 0) { code := .invalidIdentity }
  rejectIf (plan.username.isEmpty || containsNul plan.username ||
    plan.username.length > IdentityInfo.maxUsernameBytes) { code := .invalidUsername }
  rejectIf (plan.supplementaryGroups.length > IdentityInfo.maxSupplementaryGroups) { code := .invalidIdentity }

end LaunchPlan

/-- Which variables of the daemon a job may inherit. -/
structure EnvironmentPolicy where
  exactKeys : List ByteString := [ascii "LANG", ascii "PATH", ascii "TERM", ascii "TZ"]
  prefixKeys : List ByteString := [ascii "LC_"]
deriving Repr

def EnvironmentPolicy.accepts (policy : EnvironmentPolicy) (name : ByteString) : Bool :=
  policy.exactKeys.contains name || policy.prefixKeys.any (·.isPrefixOf name)

def reservedKeys : List ByteString :=
  [ascii "CUDA_DEVICE_ORDER", ascii "CUDA_VISIBLE_DEVICES", ascii "HOME", ascii "LD_PRELOAD", ascii "LOGNAME",
    ascii "SHELL", ascii "USER"]

def isReservedEnvironmentKey (name : ByteString) : Bool :=
  reservedKeys.contains name || (ascii "YORI_").isPrefixOf name

inductive LaunchPrepareErrorCode
  | invalidSpec | invalidProfile | invalidIdentity | invalidGpuAssignment | reservedEnvironmentKey
deriving DecidableEq, Repr

structure LaunchPrepareError where
  code : LaunchPrepareErrorCode
  reservedKey : Option ByteString := none
  message : ByteString
deriving DecidableEq, Repr

def GpuAssignment.valid (assignment : GpuAssignment) : Bool := assignment.uuid.valid

/-- The physical index as the job sees it, in decimal. -/
def GpuAssignment.indexText (assignment : GpuAssignment) : ByteString :=
  ascii (toString assignment.physicalIndex.toNat)

structure DefaultLaunchAdapter where
  policy : EnvironmentPolicy := {}
  daemonEnvironment : List EnvironmentEntry := []
deriving Repr

namespace DefaultLaunchAdapter

def checkReserved (env : SortedMap ByteString ByteString) : Except LaunchPrepareError Unit :=
  match env.entries.find? fun entry => isReservedEnvironmentKey entry.1 with
  | none => .ok ()
  | some (name, _) =>
    .error ⟨.reservedEnvironmentKey, some name, ascii "job environment may not override reserved key"⟩

def identityBlock (identity : IdentityInfo) : SortedMap ByteString ByteString :=
  (((SortedMap.empty.emplace (ascii "HOME") identity.home).emplace (ascii "USER") identity.username).emplace
    (ascii "LOGNAME") identity.username).emplace (ascii "SHELL") identity.shell

def cudaVisibleDevices : ByteString := ascii "CUDA_VISIBLE_DEVICES"

/-- The four layers in the order they are written: the identity, the accepted
variables of the daemon, those of the job, and the scheduler's own. -/
def mergeEnvironment (adapter : DefaultLaunchAdapter) (id : JobId) (spec : JobSpec) (assignment : GpuAssignment)
    (profile : LaunchProfile) (identity : IdentityInfo) : SortedMap ByteString ByteString :=
  let inherited := (identityBlock identity).insertAll
    (adapter.daemonEnvironment.filter fun entry => adapter.policy.accepts entry.1)
  let captured := inherited.insertAll spec.env.entries
  let managed := (captured.insert (ascii "YORI_JOB_ID") (ascii (toString id.value.toNat))).insert
    (ascii "YORI_GPU_UUID") assignment.uuid.value
  match profile.mode with
  | .cudaVisibleDevices =>
    (managed.insert cudaVisibleDevices assignment.indexText).insert (ascii "CUDA_DEVICE_ORDER") (ascii "PCI_BUS_ID")
  | .physicalArgument => managed

def mappedArguments (assignment : GpuAssignment) (profile : LaunchProfile) (argv : List ByteString) : List ByteString :=
  match profile.mode with
  | .cudaVisibleDevices => argv
  | .physicalArgument => argv ++ [profile.physicalArgument, assignment.indexText]

def launchPlan (adapter : DefaultLaunchAdapter) (id : JobId) (spec : JobSpec) (assignment : GpuAssignment)
    (profile : LaunchProfile) (identity : IdentityInfo) : LaunchPlan where
  argv := mappedArguments assignment profile spec.argv
  env := (adapter.mergeEnvironment id spec assignment profile identity).entries
  cwd := spec.cwd
  executable := spec.executable.getD []
  uid := identity.uid
  gid := identity.gid
  username := identity.username
  supplementaryGroups := identity.supplementaryGroups

/-- Turns a scheduling decision into what the process is started with. -/
def prepare (adapter : DefaultLaunchAdapter) (id : JobId) (spec : JobSpec) (assignment : GpuAssignment)
    (profile : LaunchProfile) (identity : IdentityInfo) : Except LaunchPrepareError LaunchPlan := do
  rejectIf (!id.valid) ⟨.invalidSpec, none, ascii "invalid job id"⟩
  (Yori.validate spec).mapError fun error => ⟨.invalidSpec, none, error.code.toString⟩
  profile.validate.mapError fun code => ⟨.invalidProfile, none, code.toString⟩
  identity.validate.mapError fun code => ⟨.invalidIdentity, none, code.toString⟩
  rejectIf (!assignment.valid) ⟨.invalidGpuAssignment, none, ascii "invalid gpu assignment uuid"⟩
  checkReserved spec.env
  let plan := adapter.launchPlan id spec assignment profile identity
  plan.validate.mapError fun error => ⟨.invalidSpec, none, error.code.toString⟩
  return plan

end DefaultLaunchAdapter

/-- Where a plan shows the process its device: the variable of the runtime, or
the argument appended last. -/
def LaunchPlan.shownIndex (plan : LaunchPlan) : GpuMappingMode → Option ByteString
  | .cudaVisibleDevices =>
    (plan.env.find? fun entry => entry.1 = DefaultLaunchAdapter.cudaVisibleDevices).map Prod.snd
  | .physicalArgument => plan.argv.getLast?

namespace DefaultLaunchAdapter

variable {adapter : DefaultLaunchAdapter} {id : JobId} {spec : JobSpec} {assignment : GpuAssignment}
  {profile : LaunchProfile} {identity : IdentityInfo} {plan : LaunchPlan}

section

variable (prepared : adapter.prepare id spec assignment profile identity = .ok plan)
include prepared

theorem prepare_eq_ok :
    checkReserved spec.env = .ok () ∧ plan = adapter.launchPlan id spec assignment profile identity := by
  unfold prepare at prepared
  obtain ⟨_, prepared⟩ := guard_bind_eq_ok.mp prepared
  obtain ⟨_, prepared⟩ := unit_bind_eq_ok.mp prepared
  obtain ⟨_, prepared⟩ := unit_bind_eq_ok.mp prepared
  obtain ⟨_, prepared⟩ := unit_bind_eq_ok.mp prepared
  obtain ⟨_, prepared⟩ := guard_bind_eq_ok.mp prepared
  obtain ⟨reserved, prepared⟩ := unit_bind_eq_ok.mp prepared
  obtain ⟨_, prepared⟩ := unit_bind_eq_ok.mp prepared
  exact ⟨reserved, (Except.ok.inj prepared).symm⟩

/-- A plan that was prepared shows the index it was prepared for. -/
theorem prepare_shownIndex :
    plan.shownIndex profile.mode = some assignment.indexText := by
  obtain ⟨_, rfl⟩ := prepare_eq_ok prepared
  cases mode : profile.mode with
  | cudaVisibleDevices =>
    have lookup : (adapter.launchPlan id spec assignment profile identity).shownIndex .cudaVisibleDevices =
        (adapter.mergeEnvironment id spec assignment profile identity).find? cudaVisibleDevices := by
      unfold LaunchPlan.shownIndex SortedMap.find? launchPlan
      congr!
    simp only [lookup, mergeEnvironment, mode]
    rw [SortedMap.find?_insert_of_ne _ _ (by decide), SortedMap.find?_insert_self]
  | physicalArgument =>
    simp [LaunchPlan.shownIndex, launchPlan, mappedArguments, mode]

end

end DefaultLaunchAdapter

end Yori
