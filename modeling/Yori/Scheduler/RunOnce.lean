import Yori.Scheduler.Selection

namespace Yori
open Checked

/-- The queued records of a snapshot by id. A later record of the same id does
not replace an earlier one. -/
def queuedRecords (snapshot : StateSnapshot) : SortedMap JobId StoredJob :=
  snapshot.jobs.foldl (fun records record =>
    if record.state = .queued ∧ !records.contains record.id then records.insert record.id record else records) .empty

def recordBefore (record other : StoredJob) : Bool :=
  record.spec.submitTime < other.spec.submitTime ||
    (record.spec.submitTime == other.spec.submitTime && record.id < other.id)

/-- The earliest queued record that the queue lacks. -/
def earliestMissing (queue : GlobalJobQueue) (records : SortedMap JobId StoredJob) : Option StoredJob :=
  records.values.foldl (fun earliest record =>
    if !queue.contains record.id && earliest.all (recordBefore record) then some record else earliest) none

/-- What a diverged queue reports: the job and the queue error. -/
structure QueueDivergence where
  jobId : Option JobId
  queueError : QueueErrorCode
deriving Repr

/-- Membership is checked for every entry, the fields only inside the window. -/
def checkEntries (records : SortedMap JobId StoredJob) (window index : Nat) :
    List QueueEntry → Except QueueDivergence Unit
  | [] => .ok ()
  | entry :: rest =>
    match records.find? entry.jobId with
    | none => .error ⟨some entry.jobId, .jobNotFound⟩
    | some record => do
      rejectIf (index < window ∧ record.spec.submitTime ≠ entry.submitTime) ⟨some entry.jobId, .invalidJobSpec⟩
      rejectIf (index < window ∧ record.revision ≠ 0) ⟨some entry.jobId, .invalidJobRevision⟩
      checkEntries records window (index + 1) rest

def scanWindow (config : SchedulerConfig) (queue : GlobalJobQueue) : Nat :=
  min config.scanWindow.toNat queue.entries.length

/-- The comparison of the derived queue with the stored queued jobs. -/
def checkConsistency (config : SchedulerConfig) (queue : GlobalJobQueue) (snapshot : StateSnapshot) :
    Except QueueDivergence Unit := do
  let records := queuedRecords snapshot
  let reported := ((earliestMissing queue records).map (·.id)).or (queue.front.map (·.jobId))
  rejectIf (records.size ≠ queue.size) ⟨reported, .jobNotFound⟩
  checkEntries records (scanWindow config queue) 0 queue.entries

/-- How the scan over the window ends. -/
inductive ScanOutcome
  | selected (record : StoredJob) (device : GpuObservation) (reason : GpuSelectionReason)
      (skipped : List ScheduleSkip)
  | exhausted (skipped : List ScheduleSkip)
deriving DecidableEq

/-- The first job of the window with a device is taken; those before it are
skipped and keep their places. -/
def scan (gpuSnapshot : GpuObservationSnapshot) (snapshot : StateSnapshot) (records : SortedMap JobId StoredJob)
    (anyChoice : Option GpuObservation × GpuSelectionReason) (skipped : List ScheduleSkip) :
    List QueueEntry → ScanOutcome
  | [] => .exhausted skipped
  | entry :: rest =>
    match records.find? entry.jobId with
    | none => scan gpuSnapshot snapshot records anyChoice skipped rest
    | some record =>
      match selectGpu gpuSnapshot snapshot anyChoice record.spec.gpuPlacement with
      | (some device, reason) => .selected record device reason skipped
      | (none, _) =>
        let skip := skipReason gpuSnapshot snapshot entry.jobId record.spec.gpuPlacement
        scan gpuSnapshot snapshot records anyChoice (skipped ++ [skip]) rest

/-- The scan that one evaluation makes. -/
def evaluate (config : SchedulerConfig) (gpuSnapshot : GpuObservationSnapshot) (queue : GlobalJobQueue)
    (snapshot : StateSnapshot) : ScanOutcome :=
  let window := scanWindow config queue
  let records := queuedRecords snapshot
  let targets := collectAffinityTargets queue.entries window records
  scan gpuSnapshot snapshot records (selectAnyGpu gpuSnapshot snapshot targets) [] (queue.entries.take window)

/-- The one write of a scheduling step: the job starts and takes its lease. -/
def startMutation (snapshot : StateSnapshot) (record : StoredJob) (uuid : GpuUuid) : StateMutation where
  expectedRevision := snapshot.revision
  updateJobs := [{ record with state := .starting, revision := record.revision + 1 }]
  acquireLeases := [⟨uuid, record.id⟩]

structure RunOnceOutcome (σ : Type) where
  result : ScheduleResult
  queue : GlobalJobQueue
  backend : σ

variable {σ : Type}

/-- The job leaves the queue before the write, and returns when it fails. -/
def commit (store : StateStore σ) (trigger : SchedulerTrigger) (queue : GlobalJobQueue) (snapshot : StateSnapshot)
    (backend : σ) (record : StoredJob) (device : GpuObservation) (reason : GpuSelectionReason)
    (evaluation : ScheduleEvaluation) : RunOnceOutcome σ :=
  let event (code : ScheduleResultCode) : SchedulerEvent :=
    { trigger, code, jobId := some record.id, gpuUuid := some device.uuid }
  let (removal, remaining) := queue.remove record.id
  match removal.code with
  | some queueError =>
    ⟨.ofEvent { event .queueStateDiverged with
      queueError := some queueError, storeRevision := snapshot.revision }, remaining, backend⟩
  | none =>
    let (written, backend) := store.apply backend (startMutation snapshot record device.uuid)
    match written.code with
    | some storeError =>
      let (rollback, readmitted) := remaining.admitJob record
      match rollback.code with
      | some queueError =>
        ⟨.ofEvent { event .queueRollbackFailed with
          storeError := some storeError, queueError := some queueError, storeRevision := written.revision },
          readmitted, backend⟩
      | none =>
        ⟨.ofEvent { event .stateWriteFailed with
          storeError := some storeError, storeRevision := written.revision }, readmitted, backend⟩
    | none =>
      ⟨.ofEvent { event .scheduled with selectionReason := reason, storeRevision := written.revision } evaluation,
        remaining, backend⟩

/-- One evaluation: at most one job leaves the queue with one device. -/
def runOnce (store : StateStore σ) (config : SchedulerConfig) (trigger : SchedulerTrigger)
    (gpuSnapshot : GpuObservationSnapshot) (queue : GlobalJobQueue) (backend : σ) : RunOnceOutcome σ :=
  match validateSnapshot gpuSnapshot with
  | .error error => ⟨.ofEvent { trigger, code := .invalidGpuSnapshot, gpuValidation := some error }, queue, backend⟩
  | .ok () =>
    let (loaded, backend) := store.load backend
    match loaded with
    | .error storeError =>
      let front := queue.front.map (·.jobId)
      ⟨.ofEvent { trigger, code := .stateLoadFailed, jobId := front, storeError := some storeError }, queue, backend⟩
    | .ok snapshot =>
      match checkConsistency config queue snapshot with
      | .error divergence =>
        let event : SchedulerEvent := { trigger, code := .queueStateDiverged, jobId := divergence.jobId }
        ⟨.ofEvent { event with
          queueError := some divergence.queueError, storeRevision := snapshot.revision }, queue, backend⟩
      | .ok () =>
        if queue.entries = [] then
          ⟨.ofEvent { trigger, code := .queueEmpty, storeRevision := snapshot.revision }, queue, backend⟩
        else
          let truncated := decide (queue.entries.length > scanWindow config queue)
          match evaluate config gpuSnapshot queue snapshot with
          | .selected record device reason skipped =>
            commit store trigger queue snapshot backend record device reason ⟨skipped, truncated⟩
          | .exhausted skipped =>
            ⟨.ofEvent { trigger, code := .noCandidate, storeRevision := snapshot.revision } ⟨skipped, truncated⟩,
              queue, backend⟩

end Yori
