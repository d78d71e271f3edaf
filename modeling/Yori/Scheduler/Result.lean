import Yori.Queue.JobQueue

namespace Yori

inductive SchedulerTrigger
  | jobSubmitted | jobExited | jobCancelled | gpuStateChanged | recoveryCompleted | adminStateChanged
deriving DecidableEq, Repr

structure SchedulerConfig where
  scanWindow : UInt32 := 32
deriving Repr

namespace SchedulerConfig

def maxScanWindow : UInt32 := UInt32.ofNat QueueConfig.maxCapacity

def valid (config : SchedulerConfig) : Bool := config.scanWindow ≥ 1 && config.scanWindow ≤ maxScanWindow

end SchedulerConfig

/-- Why a queued job was passed over by the latest evaluation. -/
inductive WaitReason
  | noFreeGpu | affinityGpuAllocated | affinityGpuExternal | affinityGpuState
deriving DecidableEq, Repr

/-- Why a choice departs from the first free device in index order. -/
inductive GpuSelectionReason
  | default | avoidRequiredAffinity | affinityFallback | preferredFallback
deriving DecidableEq, Repr

structure ScheduleSkip where
  job : JobId
  reason : WaitReason
  target : Option GpuUuid := none
deriving DecidableEq, Repr

structure ScheduleEvaluation where
  skipped : List ScheduleSkip := []
  windowTruncated : Bool := false
deriving Repr

inductive ScheduleResultCode
  | scheduled | queueEmpty | noCandidate | cancelled | invalidGpuSnapshot | stateLoadFailed
  | queueStateDiverged | stateWriteFailed | queueRollbackFailed
deriving DecidableEq, Repr

structure SchedulerEvent where
  trigger : SchedulerTrigger
  code : ScheduleResultCode
  jobId : Option JobId := none
  gpuUuid : Option GpuUuid := none
  selectionReason : GpuSelectionReason := .default
  gpuValidation : Option GpuObservationError := none
  storeError : Option StateStoreErrorCode := none
  queueError : Option QueueErrorCode := none
  storeRevision : UInt64 := 0
deriving Repr

structure ScheduleResult where
  code : ScheduleResultCode
  event : SchedulerEvent
  evaluation : ScheduleEvaluation := {}
deriving Repr

namespace ScheduleResult

/-- A result repeats the code of its event. -/
def ofEvent (event : SchedulerEvent) (evaluation : ScheduleEvaluation := {}) : ScheduleResult :=
  ⟨event.code, event, evaluation⟩

def scheduled (result : ScheduleResult) : Bool := result.code == .scheduled

end ScheduleResult

end Yori
