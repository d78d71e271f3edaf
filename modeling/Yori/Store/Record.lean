import Yori.Gpu
import Yori.Job
import Yori.Process

namespace Yori
open Checked ByteString

structure JobExecutionRecord where
  identity : ProcessIdentity := {}
  startTime : Option TimePoint := none
  endTime : Option TimePoint := none
  exit : Option ExitStatus := none
  failureReason : Option ByteString := none
  logPath : Option ByteString := none
deriving DecidableEq

def JobExecutionRecord.hasIdentity (execution : JobExecutionRecord) : Bool := execution.identity.valid

namespace JobExecutionLimits

def maxFailureReasonBytes : Nat := 4096
def maxLogPathBytes : Nat := 4096

end JobExecutionLimits

inductive JobExecutionValidationCode
  | invalidIdentity | identityNotAllowed | identityRequired | exitNotAllowed | startTimeNotAllowed
  | invalidStartTime | endTimeNotAllowed | invalidEndTime | failureReasonNotAllowed | invalidFailureReason
  | invalidLogPath | logPathNotAllowed
deriving DecidableEq, Repr

def checkStartTime (execution : JobExecutionRecord) (spec : JobSpec) : Except JobExecutionValidationCode Unit :=
  match execution.startTime with
  | none => .ok ()
  | some startTime => do
    rejectIf (!execution.hasIdentity) .startTimeNotAllowed
    rejectIf (startTime < spec.submitTime) .invalidStartTime

def checkEndTime (execution : JobExecutionRecord) (state : JobState) : Except JobExecutionValidationCode Unit :=
  match execution.endTime with
  | none => .ok ()
  | some endTime => do
    rejectIf (!state.isTerminal) .endTimeNotAllowed
    rejectIf (execution.startTime.any (endTime < ·)) .invalidEndTime

def checkFailureReason (execution : JobExecutionRecord) (state : JobState) :
    Except JobExecutionValidationCode Unit :=
  match execution.failureReason with
  | none => .ok ()
  | some reason => do
    rejectIf (!state.isTerminal) .failureReasonNotAllowed
    rejectIf (reason.isEmpty || reason.length > JobExecutionLimits.maxFailureReasonBytes || containsNul reason)
      .invalidFailureReason

def checkLogPath (execution : JobExecutionRecord) (state : JobState) : Except JobExecutionValidationCode Unit :=
  match execution.logPath with
  | none => .ok ()
  | some path => do
    rejectIf (state = .queued) .logPathNotAllowed
    rejectIf (path.isEmpty || path.length > JobExecutionLimits.maxLogPathBytes || containsNul path ||
      !absolute path) .invalidLogPath

/-- Which run-time facts a record may carry depends on its state. -/
def validateExecution (execution : JobExecutionRecord) (state : JobState) (spec : JobSpec) :
    Except JobExecutionValidationCode Unit := do
  rejectIf (!execution.identity.isBlank && !execution.identity.valid) .invalidIdentity
  rejectIf (execution.hasIdentity ∧ state = .queued) .identityNotAllowed
  rejectIf (!execution.hasIdentity ∧ (state = .running ∨ state = .stopping)) .identityRequired
  rejectIf (execution.exit.isSome && !state.isTerminal) .exitNotAllowed
  checkStartTime execution spec
  checkEndTime execution state
  checkFailureReason execution state
  checkLogPath execution state

structure StoredJob where
  id : JobId
  spec : JobSpec
  state : JobState := .queued
  revision : UInt64 := 0
  execution : JobExecutionRecord := {}
deriving DecidableEq

namespace StoredJob

def ExecutionValid (record : StoredJob) : Prop :=
  validateExecution record.execution record.state record.spec = .ok ()

instance decidableExecutionValid (record : StoredJob) : Decidable record.ExecutionValid :=
  inferInstanceAs (Decidable (validateExecution record.execution record.state record.spec = .ok ()))

end StoredJob

structure StateSnapshot where
  revision : UInt64 := 0
  jobs : List StoredJob := []
  leases : List GpuLease := []
deriving DecidableEq

structure StateMutation where
  expectedRevision : UInt64 := 0
  createJobs : List StoredJob := []
  updateJobs : List StoredJob := []
  acquireLeases : List GpuLease := []
  releaseLeases : List GpuUuid := []

namespace StateMutation

def maxEntries : Nat := 64

/-- The number of entries, saturating one above the limit so that no sum of
list sizes can wrap around. -/
def entryCount (mutation : StateMutation) : Nat :=
  if mutation.createJobs.length > maxEntries then maxEntries + 1
  else
    let total := mutation.createJobs.length
    if mutation.updateJobs.length > maxEntries - total then maxEntries + 1
    else
      let total := total + mutation.updateJobs.length
      if mutation.acquireLeases.length > maxEntries - total then maxEntries + 1
      else
        let total := total + mutation.acquireLeases.length
        if mutation.releaseLeases.length > maxEntries - total then maxEntries + 1
        else total + mutation.releaseLeases.length

theorem entryCount_eq (mutation : StateMutation) :
    mutation.entryCount = min (maxEntries + 1) (mutation.createJobs.length + mutation.updateJobs.length +
      mutation.acquireLeases.length + mutation.releaseLeases.length) := by
  unfold entryCount
  simp only
  repeat' split
  all_goals omega

end StateMutation

inductive StateStoreErrorCode
  | backendUnavailable | revisionConflict | invalidMutation | capacityExceeded | invalidJob
  | invalidExecutionRecord | jobAlreadyExists | jobNotFound | invalidJobRevision | jobSpecChanged
  | invalidJobTransition | invalidLease | gpuAlreadyLeased | jobAlreadyLeased | leaseNotFound
deriving DecidableEq, Repr

def StateStoreErrorCode.toString : StateStoreErrorCode → ByteString
  | .backendUnavailable => .ascii "BACKEND_UNAVAILABLE"
  | .revisionConflict => .ascii "REVISION_CONFLICT"
  | .invalidMutation => .ascii "INVALID_MUTATION"
  | .capacityExceeded => .ascii "CAPACITY_EXCEEDED"
  | .invalidJob => .ascii "INVALID_JOB"
  | .invalidExecutionRecord => .ascii "INVALID_EXECUTION_RECORD"
  | .jobAlreadyExists => .ascii "JOB_ALREADY_EXISTS"
  | .jobNotFound => .ascii "JOB_NOT_FOUND"
  | .invalidJobRevision => .ascii "INVALID_JOB_REVISION"
  | .jobSpecChanged => .ascii "JOB_SPEC_CHANGED"
  | .invalidJobTransition => .ascii "INVALID_JOB_TRANSITION"
  | .invalidLease => .ascii "INVALID_LEASE"
  | .gpuAlreadyLeased => .ascii "GPU_ALREADY_LEASED"
  | .jobAlreadyLeased => .ascii "JOB_ALREADY_LEASED"
  | .leaseNotFound => .ascii "LEASE_NOT_FOUND"

/-- A write reports the store revision also when it fails. -/
structure StateStoreWriteResult where
  code : Option StateStoreErrorCode := none
  revision : UInt64 := 0
deriving Repr

def StateStoreWriteResult.ok (result : StateStoreWriteResult) : Bool := result.code.isNone

/-- The storage interface over a backend state. A backend may answer as it
likes; what a well-behaved one guarantees is stated where it is used. -/
structure StateStore (σ : Type) where
  load : σ → Except StateStoreErrorCode StateSnapshot × σ
  apply : σ → StateMutation → StateStoreWriteResult × σ

end Yori
