import Yori.Identifiers
import Yori.Library.Checked
import Yori.Library.SortedMap

namespace Yori
open Checked ByteString

namespace JobSpecLimits

def maxArgumentCount : Nat := 256
def maxArgumentBytes : Nat := 64 * 1024
def maxSingleArgumentBytes : Nat := 16 * 1024
def maxWorkingDirectoryBytes : Nat := 4096
def maxEnvironmentVariables : Nat := 256
def maxEnvironmentNameBytes : Nat := 255
def maxEnvironmentValueBytes : Nat := 32 * 1024
def maxEnvironmentBytes : Nat := 256 * 1024
def maxLaunchProfileBytes : Nat := 128
def maxPlacementDevices : Nat := 8
def maxTensorboardLogdirBytes : Nat := 4096
def maxExecutableBytes : Nat := 4096
def maxPythonVersionBytes : Nat := 64

end JobSpecLimits

inductive EnvSource
  | none | conda | venv
deriving DecidableEq, Repr

structure EnvMetadata where
  source : EnvSource := .none
  pythonVersion : Option ByteString := none
deriving DecidableEq

inductive GpuPlacementMode
  | any | required | preferred
deriving DecidableEq, Repr

structure GpuPlacement where
  mode : GpuPlacementMode := .any
  devices : List GpuUuid := []
deriving DecidableEq

structure JobSpec where
  ownerUid : UInt32 := 0
  ownerGid : UInt32 := 0
  argv : List ByteString := []
  cwd : ByteString := []
  env : SortedMap ByteString ByteString := .empty
  executable : Option ByteString := none
  envMetadata : Option EnvMetadata := none
  gpuRequest : UInt32 := 1
  gpuPlacement : GpuPlacement := {}
  launchProfile : Option ByteString := none
  tensorboardLogdir : Option ByteString := none
  submitTime : TimePoint := 0
deriving DecidableEq

inductive JobSpecErrorCode
  | rootOwnerNotAllowed | emptyArguments | tooManyArguments | invalidArgument | argumentTooLong
  | argumentsTooLarge | invalidWorkingDirectory | tooManyEnvironmentVariables | invalidEnvironmentName
  | environmentNameTooLong | environmentValueTooLong | environmentTooLarge | unsupportedGpuRequest
  | invalidGpuPlacement | placementGpuRequestConflict | launchProfileTooLong | invalidTensorboardLogdir
  | invalidSubmitTime | invalidExecutable | invalidPythonVersion
deriving DecidableEq, Repr

def JobSpecErrorCode.toString : JobSpecErrorCode → ByteString
  | .rootOwnerNotAllowed => .ascii "ROOT_OWNER_NOT_ALLOWED"
  | .emptyArguments => .ascii "EMPTY_ARGUMENTS"
  | .tooManyArguments => .ascii "TOO_MANY_ARGUMENTS"
  | .invalidArgument => .ascii "INVALID_ARGUMENT"
  | .argumentTooLong => .ascii "ARGUMENT_TOO_LONG"
  | .argumentsTooLarge => .ascii "ARGUMENTS_TOO_LARGE"
  | .invalidWorkingDirectory => .ascii "INVALID_WORKING_DIRECTORY"
  | .tooManyEnvironmentVariables => .ascii "TOO_MANY_ENVIRONMENT_VARIABLES"
  | .invalidEnvironmentName => .ascii "INVALID_ENVIRONMENT_NAME"
  | .environmentNameTooLong => .ascii "ENVIRONMENT_NAME_TOO_LONG"
  | .environmentValueTooLong => .ascii "ENVIRONMENT_VALUE_TOO_LONG"
  | .environmentTooLarge => .ascii "ENVIRONMENT_TOO_LARGE"
  | .unsupportedGpuRequest => .ascii "UNSUPPORTED_GPU_REQUEST"
  | .invalidGpuPlacement => .ascii "INVALID_GPU_PLACEMENT"
  | .placementGpuRequestConflict => .ascii "PLACEMENT_GPU_REQUEST_CONFLICT"
  | .launchProfileTooLong => .ascii "LAUNCH_PROFILE_TOO_LONG"
  | .invalidTensorboardLogdir => .ascii "INVALID_TENSORBOARD_LOGDIR"
  | .invalidSubmitTime => .ascii "INVALID_SUBMIT_TIME"
  | .invalidExecutable => .ascii "INVALID_EXECUTABLE"
  | .invalidPythonVersion => .ascii "INVALID_PYTHON_VERSION"

structure JobSpecError where
  code : JobSpecErrorCode
  itemIndex : Option Nat := none
deriving DecidableEq, Repr

def addWithinLimit (value total limit : Nat) : Option Nat :=
  if value > limit - total then none else some (total + value)

def isValidEnvironmentName (name : ByteString) : Bool :=
  !name.isEmpty && !containsNul name && !name.contains equalsSign

/-- Position of the next slash at or after `start`. -/
def findSlash (path : ByteString) (start : Nat) : Option Nat :=
  ((path.drop start).findIdx? (· == slash)).map (start + ·)

theorem findSlash_bounds {path : ByteString} {start found : Nat}
    (run : findSlash path start = some found) : start ≤ found ∧ found < path.length := by
  unfold findSlash at run
  obtain ⟨offset, atOffset, same⟩ := Option.map_eq_some_iff.mp run
  have bound := (List.findIdx?_eq_some_iff_getElem.mp atOffset).choose
  rw [List.length_drop] at bound
  omega

/-- The component loop: every piece between slashes is compared with `..`. -/
def componentsAllowed (path : ByteString) (componentBegin : Nat) : Bool :=
  if componentBegin ≤ path.length then
    let componentEnd := findSlash path componentBegin
    let componentLength := componentEnd.getD path.length - componentBegin
    if componentLength = 2 ∧ (path.drop componentBegin).take 2 = ascii ".." then false
    else match run : componentEnd with
      | none => true
      | some found => componentsAllowed path (found + 1)
  else true
termination_by path.length + 1 - componentBegin
decreasing_by
  have bounds := findSlash_bounds run
  omega

def isValidTensorboardLogdir (path : ByteString) : Bool :=
  if path.isEmpty || path.length > JobSpecLimits.maxTensorboardLogdirBytes || containsNul path ||
      absolute path then false
  else componentsAllowed path 0

def checkArguments (index total : Nat) : List ByteString → Except JobSpecError Unit
  | [] => .ok ()
  | argument :: rest => do
    rejectIf (containsNul argument) ⟨.invalidArgument, some index⟩
    rejectIf (argument.length > JobSpecLimits.maxSingleArgumentBytes) ⟨.argumentTooLong, some index⟩
    match addWithinLimit argument.length total JobSpecLimits.maxArgumentBytes with
    | none => .error ⟨.argumentsTooLarge, some index⟩
    | some total => checkArguments (index + 1) total rest

def checkEnvironment (index total : Nat) : List (ByteString × ByteString) → Except JobSpecError Unit
  | [] => .ok ()
  | (name, value) :: rest => do
    rejectIf (!isValidEnvironmentName name) ⟨.invalidEnvironmentName, some index⟩
    rejectIf (name.length > JobSpecLimits.maxEnvironmentNameBytes) ⟨.environmentNameTooLong, some index⟩
    rejectIf (value.length > JobSpecLimits.maxEnvironmentValueBytes ∨ containsNul value)
      ⟨.environmentValueTooLong, some index⟩
    match (addWithinLimit name.length total JobSpecLimits.maxEnvironmentBytes).bind
        (addWithinLimit value.length · JobSpecLimits.maxEnvironmentBytes) with
    | none => .error ⟨.environmentTooLarge, some index⟩
    | some total => checkEnvironment (index + 1) total rest

/-- Every device must be valid and differ from all devices listed before it. -/
def checkPlacementDevices (prior : List GpuUuid) : List GpuUuid → Except JobSpecError Unit
  | [] => .ok ()
  | device :: rest => do
    rejectIf (!device.valid) ⟨.invalidGpuPlacement, none⟩
    rejectIf (device ∈ prior) ⟨.invalidGpuPlacement, none⟩
    checkPlacementDevices (prior ++ [device]) rest

def checkPlacement (placement : GpuPlacement) (gpuRequest : UInt32) : Except JobSpecError Unit :=
  match placement.mode with
  | .any => rejectIf (placement.devices ≠ []) ⟨.invalidGpuPlacement, none⟩
  | .required => do
    rejectIf (placement.devices = [] ∨ placement.devices.length > JobSpecLimits.maxPlacementDevices)
      ⟨.invalidGpuPlacement, none⟩
    checkPlacementDevices [] placement.devices
    rejectIf (gpuRequest ≠ 1) ⟨.placementGpuRequestConflict, none⟩
  | .preferred => do
    rejectIf (placement.devices.length ≠ 1 ∨ placement.devices.any (!·.valid)) ⟨.invalidGpuPlacement, none⟩
    rejectIf (gpuRequest ≠ 1) ⟨.placementGpuRequestConflict, none⟩

/-- The submission-time validation of a specification. The first failing
check decides the error, and its item index when the check is a loop. -/
def validate (spec : JobSpec) : Except JobSpecError Unit := do
  rejectIf (spec.ownerUid = 0) ⟨.rootOwnerNotAllowed, none⟩
  rejectIf (spec.argv = []) ⟨.emptyArguments, none⟩
  rejectIf (spec.argv.length > JobSpecLimits.maxArgumentCount) ⟨.tooManyArguments, none⟩
  checkArguments 0 0 spec.argv
  rejectIf (spec.argv.head? = some []) ⟨.emptyArguments, some 0⟩
  rejectIf (spec.cwd.isEmpty || spec.cwd.length > JobSpecLimits.maxWorkingDirectoryBytes ||
    containsNul spec.cwd || !absolute spec.cwd) ⟨.invalidWorkingDirectory, none⟩
  rejectIf (spec.env.size > JobSpecLimits.maxEnvironmentVariables) ⟨.tooManyEnvironmentVariables, none⟩
  checkEnvironment 0 0 spec.env.entries
  checkPlacement spec.gpuPlacement spec.gpuRequest
  rejectIf (spec.gpuRequest ≠ 1) ⟨.unsupportedGpuRequest, none⟩
  rejectIf (spec.executable.any fun path => path.isEmpty ||
    path.length > JobSpecLimits.maxExecutableBytes || containsNul path || !absolute path)
    ⟨.invalidExecutable, none⟩
  rejectIf ((spec.envMetadata.bind EnvMetadata.pythonVersion).any fun version => version.isEmpty ||
    version.length > JobSpecLimits.maxPythonVersionBytes || containsNul version) ⟨.invalidPythonVersion, none⟩
  rejectIf (spec.launchProfile.any fun profile => profile.isEmpty ||
    profile.length > JobSpecLimits.maxLaunchProfileBytes || containsNul profile) ⟨.launchProfileTooLong, none⟩
  rejectIf (spec.tensorboardLogdir.any fun path => !isValidTensorboardLogdir path)
    ⟨.invalidTensorboardLogdir, none⟩
  rejectIf (spec.submitTime ≤ 0) ⟨.invalidSubmitTime, none⟩

/-- A specification with nothing beyond what a submission must carry. -/
def JobSpec.minimal (submitTime : TimePoint) (gpuPlacement : GpuPlacement) : JobSpec :=
  { ownerUid := 1000, argv := [ascii "train"], cwd := ascii "/", gpuPlacement, submitTime }

/-- The same with options and an environment. -/
def JobSpec.training : JobSpec :=
  { JobSpec.minimal 1 {} with
    argv := [ascii "train", ascii "--epochs", ascii "3"]
    env := ⟨[(ascii "LANG", ascii "C"), (ascii "OMP_NUM_THREADS", ascii "4")], by decide⟩ }

def JobSpec.Valid (spec : JobSpec) : Prop := validate spec = .ok ()

instance JobSpec.decidableValid (spec : JobSpec) : Decidable spec.Valid :=
  inferInstanceAs (Decidable (validate spec = .ok ()))

inductive JobState
  | queued | starting | running | stopping | finished | failed | cancelled | lost
deriving DecidableEq, Repr

namespace JobState

def isTerminal : JobState → Bool
  | finished | failed | cancelled | lost => true
  | queued | starting | running | stopping => false

def toString : JobState → ByteString
  | queued => .ascii "QUEUED"
  | starting => .ascii "STARTING"
  | running => .ascii "RUNNING"
  | stopping => .ascii "STOPPING"
  | finished => .ascii "FINISHED"
  | failed => .ascii "FAILED"
  | cancelled => .ascii "CANCELLED"
  | lost => .ascii "LOST"

/-- The number of a state on the wire. -/
def wire : JobState → UInt8
  | queued => 0
  | starting => 1
  | running => 2
  | stopping => 3
  | finished => 4
  | failed => 5
  | cancelled => 6
  | lost => 7

end JobState

open JobState in
def canTransition : JobState → JobState → Bool
  | queued, next => next == starting || next == cancelled
  | starting, next => next == running || next == stopping || next == failed || next == lost
  | running, next => next == stopping || next == finished || next == failed || next == lost
  | stopping, next => next == cancelled || next == failed || next == lost
  | finished, _ | failed, _ | cancelled, _ | lost, _ => false

theorem canTransition_ne_queued {source target : JobState} (allowed : canTransition source target = true) :
    target ≠ .queued := by
  rintro rfl
  cases source <;> simp [canTransition] at allowed

theorem canTransition_not_terminal {source target : JobState} (allowed : canTransition source target = true) :
    source.isTerminal = false := by
  cases source <;> simp_all [canTransition, JobState.isTerminal]

end Yori
