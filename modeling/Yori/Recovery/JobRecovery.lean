import Yori.Queue.Restore
import Yori.Store.MutationCore

namespace Yori

inductive RecoveryDecisionCode
  | adoptedRunning | adoptedPromotedToRunning | adoptedStoppingNeedsRecancel | queuedRestored
  | lostProcessGone | lostIdentityMismatch | lostIdentityMissing | terminalUntouched
deriving DecidableEq, Repr

def recoveryFailureReason : RecoveryDecisionCode → ByteString
  | .lostProcessGone => .ascii "recovery: process gone before or during daemon restart"
  | .lostIdentityMismatch => .ascii "recovery: pid reused by another process (pgid/start ticks mismatch)"
  | .lostIdentityMissing => .ascii "recovery: active job without recorded process identity"
  | _ => []

structure RecoveryJobOutcome where
  jobId : JobId
  previousState : JobState
  decision : RecoveryDecisionCode
  releasedGpu : Option GpuUuid := none
deriving DecidableEq, Repr

/-- The recorded process is still there, is gone, or its pid belongs to
another one. -/
inductive IdentityVerification
  | verified | processGone | mismatch
deriving DecidableEq, Repr

abbrev IdentityVerifier := ProcessIdentity → IdentityVerification

structure RecoveryMutationEntry where
  updateJob : StoredJob
  releaseGpu : Option GpuUuid := none

structure RecoveryPlan where
  outcomes : List RecoveryJobOutcome := []
  mutations : List RecoveryMutationEntry := []

inductive RecoveryErrorCode
  | storeLoadFailed | storeWriteFailed | queueRestoreFailed
deriving DecidableEq, Repr

def RecoveryErrorCode.toString : RecoveryErrorCode → ByteString
  | .storeLoadFailed => .ascii "STORE_LOAD_FAILED"
  | .storeWriteFailed => .ascii "STORE_WRITE_FAILED"
  | .queueRestoreFailed => .ascii "QUEUE_RESTORE_FAILED"

structure RecoveryResult where
  code : Option RecoveryErrorCode := none
  outcomes : List RecoveryJobOutcome := []
  storeError : Option StateStoreErrorCode := none
  queueError : Option QueueErrorCode := none
  storeRevision : UInt64 := 0
deriving Repr

def RecoveryResult.ok (result : RecoveryResult) : Bool := result.code.isNone

namespace JobRecovery

def isActive : JobState → Bool
  | .starting | .running | .stopping => true
  | .queued | .finished | .failed | .cancelled | .lost => false

def findLeaseGpu (snapshot : StateSnapshot) (id : JobId) : Option GpuUuid :=
  (snapshot.leases.find? (·.jobId == id)).map (·.gpuUuid)

/-- An active job without an identity was caught between its lease and its
spawn. It is neither restarted nor taken over. -/
def activeDecision (verifier : IdentityVerifier) (record : StoredJob) : RecoveryDecisionCode :=
  if !record.execution.hasIdentity then .lostIdentityMissing
  else match verifier record.execution.identity, record.state with
    | .verified, .starting => .adoptedPromotedToRunning
    | .verified, .stopping => .adoptedStoppingNeedsRecancel
    | .verified, _ => .adoptedRunning
    | .processGone, _ => .lostProcessGone
    | .mismatch, _ => .lostIdentityMismatch

def promotedRecord (record : StoredJob) : StoredJob :=
  { record with state := .running, revision := record.revision + 1 }

def lostRecord (decision : RecoveryDecisionCode) (now : TimePoint) (record : StoredJob) : StoredJob :=
  { record with
    state := .lost
    revision := record.revision + 1
    execution := { record.execution with
      failureReason := some (recoveryFailureReason decision)
      endTime := some now } }

/-- The decision for one record, with the write it calls for. A lost job gives
up its lease in the same write. -/
def planJob (verifier : IdentityVerifier) (now : TimePoint) (snapshot : StateSnapshot) (record : StoredJob) :
    RecoveryJobOutcome × Option RecoveryMutationEntry :=
  if !isActive record.state then
    ({ jobId := record.id, previousState := record.state,
       decision := if record.state = .queued then .queuedRestored else .terminalUntouched }, none)
  else
    let decision := activeDecision verifier record
    match decision with
    | .adoptedPromotedToRunning =>
      ({ jobId := record.id, previousState := record.state, decision }, some ⟨promotedRecord record, none⟩)
    | .lostProcessGone | .lostIdentityMismatch | .lostIdentityMissing =>
      let released := findLeaseGpu snapshot record.id
      ({ jobId := record.id, previousState := record.state, decision, releasedGpu := released },
        some ⟨lostRecord decision now record, released⟩)
    | _ => ({ jobId := record.id, previousState := record.state, decision }, none)

def plan (verifier : IdentityVerifier) (now : TimePoint) (snapshot : StateSnapshot) : RecoveryPlan :=
  let planned := snapshot.jobs.map (planJob verifier now snapshot)
  ⟨planned.map Prod.fst, planned.filterMap Prod.snd⟩

section Writing

variable {σ : Type} (store : StateStore σ)

/-- An empty chunk is not written. -/
def flushChunk (chunk : StateMutation) (expectedRevision : UInt64) (backend : σ) :
    Except StateStoreWriteResult UInt64 × σ :=
  if chunk.entryCount = 0 then (.ok expectedRevision, backend)
  else
    let (written, after) := store.apply backend { chunk with expectedRevision }
    if written.ok then (.ok written.revision, after) else (.error written, after)

def addEntry (entry : RecoveryMutationEntry) (chunk : StateMutation) : StateMutation :=
  { chunk with
    updateJobs := chunk.updateJobs ++ [entry.updateJob]
    releaseLeases := chunk.releaseLeases ++ entry.releaseGpu.toList }

/-- Entries are collected until the next one would overfill the chunk; the
revision of one write is what the next one expects. -/
def writeChunks : List RecoveryMutationEntry → StateMutation → UInt64 → σ → Except StateStoreWriteResult UInt64 × σ
  | [], chunk, expectedRevision, backend => flushChunk store chunk expectedRevision backend
  | entry :: rest, chunk, expectedRevision, backend =>
    let entriesNeeded := if entry.releaseGpu.isSome then 2 else 1
    if chunk.entryCount + entriesNeeded > StateMutation.maxEntries then
      match flushChunk store chunk expectedRevision backend with
      | (.error written, after) => (.error written, after)
      | (.ok revision, after) => writeChunks rest (addEntry entry {}) revision after
    else writeChunks rest (addEntry entry chunk) expectedRevision backend

/-- The queue is rebuilt from the snapshot that was loaded before the writes. -/
def recover (verifier : IdentityVerifier) (now : TimePoint) (queue : GlobalJobQueue) (backend : σ) :
    RecoveryResult × GlobalJobQueue × σ :=
  match store.load backend with
  | (.error code, loaded) => ({ code := some .storeLoadFailed, storeError := some code }, queue, loaded)
  | (.ok snapshot, loaded) =>
    let planned := plan verifier now snapshot
    match writeChunks store planned.mutations {} snapshot.revision loaded with
    | (.error written, after) =>
      ({ code := some .storeWriteFailed, outcomes := planned.outcomes, storeError := written.code,
         storeRevision := written.revision }, queue, after)
    | (.ok revision, after) =>
      let (restored, rebuilt) := queue.restore snapshot
      match restored.code with
      | some code =>
        ({ code := some .queueRestoreFailed, outcomes := planned.outcomes, queueError := some code }, rebuilt, after)
      | none => ({ outcomes := planned.outcomes, storeRevision := revision }, rebuilt, after)

end Writing

end JobRecovery

end Yori
