import Yori.Runtime.JobManager

namespace Yori.JobManager

section Requests

variable {σ : Type} (store : StateStore σ)

/-- The write that takes back a submission the queue has refused. -/
def compensation (record : StoredJob) (expectedRevision : UInt64) : StateMutation :=
  { expectedRevision, updateJobs := [{ record with state := .cancelled, revision := 1 }] }

def rejectionDetail (code : QueueErrorCode) (rollback : StateStoreWriteResult) : ByteString :=
  match rollback.code with
  | none => code.toString
  | some failure => code.toString ++ .ascii "; rollback failed: " ++ failure.toString

/-- The job is written first and queued after that. A job the queue refuses is
cancelled in the store. -/
def processSubmit (spec : JobSpec) (manager : JobManager σ) : JobManager σ :=
  match store.load manager.backend with
  | (.error code, loaded) =>
    { manager with backend := loaded }.emit [.submitAck { code := .storeFailed, detail := code.toString }]
  | (.ok snapshot, loaded) =>
    let record := submissionRecord snapshot spec
    let (write, written) := store.apply loaded (submissionMutation snapshot spec)
    match write.code with
    | some code =>
      { manager with backend := written }.emit [.submitAck { code := .storeFailed, detail := code.toString }]
    | none =>
      let (admission, queue) := manager.queue.admitJob record
      match admission.code with
      | none =>
        { manager with backend := written, queue }.emit [.submitAck { code := .submitted, jobId := record.id.value }]
      | some code =>
        let (rollback, compensated) := store.apply written (compensation record write.revision)
        { manager with backend := compensated, queue }.emit
          [.submitAck { code := .queueRejected, detail := rejectionDetail code rollback }]

/-- A move to `state` with nothing else changed. -/
def moveTo (state : JobState) (_ : Nat) (current : StoredJob) : Rewrite :=
  { record := { current with state, revision := current.revision + 1 } }

/-- Signals the process and arms the escalation. Later requests for a job that
is already being cancelled leave the timer alone unless they come from the
recovery. -/
def beginCancellation (input : CancelInput) (id : JobId) (fromRecovery : Bool) (manager : JobManager σ) :
    JobManager σ :=
  match manager.supervised.find? id with
  | none => manager
  | some job =>
    match job.supervisor with
    | none => manager
    | some supervisor =>
      let (outcome, calls, cancelled) := supervisor.requestCancel input.kill.group input.kill.leader input.now
      if outcome = .notRunning ∨ outcome = .alreadyExited then manager
      else
        let grace := job.grace.getD {}
        let armed := if !job.cancelling ∨ fromRecovery then grace.arm cancelled.phase input.timerAccepted else grace
        let cancelling := { job with supervisor := some cancelled, grace := some armed, cancelling := true }
        { manager with supervised := manager.supervised.insert id cancelling }.sendSignals calls input.kill.between

def removalDetail (removal : QueueOperationResult) : ByteString :=
  match removal.code with
  | none | some .jobNotFound => []
  | some code => .ascii "cancelled but queue removal failed: " ++ code.toString

def processCancel (input : CancelInput) (id : JobId) (manager : JobManager σ) : JobManager σ :=
  match store.load manager.backend with
  | (.error code, loaded) =>
    { manager with backend := loaded }.emit [.cancelAck { code := .storeFailed, detail := code.toString }]
  | (.ok snapshot, loaded) =>
    match findStored snapshot id with
    | none =>
      { manager with backend := loaded }.emit [.cancelAck { code := .notFound, detail := .ascii "job not found" }]
    | some record =>
      match record.state with
      | .queued =>
        let (write, written) := rewriteJob store id (moveTo .cancelled) loaded
        match write.code with
        | some code =>
          { manager with backend := written }.emit [.cancelAck { code := .storeFailed, detail := code.toString }]
        | none =>
          let (removal, queue) := manager.queue.remove id
          { manager with backend := written, queue }.emit
            [.cancelAck ⟨.cancelled, JobState.cancelled.wire, removalDetail removal⟩]
      | .starting | .running =>
        let (write, written) := rewriteJob store id (moveTo .stopping) loaded
        match write.code with
        | some code =>
          { manager with backend := written }.emit [.cancelAck { code := .storeFailed, detail := code.toString }]
        | none =>
          ({ manager with backend := written }.beginCancellation input id false).emit
            [.cancelAck ⟨.stopping, JobState.stopping.wire, []⟩]
      | .stopping =>
        ({ manager with backend := loaded }.beginCancellation input id false).emit
          [.cancelAck ⟨.stopping, JobState.stopping.wire, []⟩]
      | .cancelled =>
        { manager with backend := loaded }.emit [.cancelAck ⟨.cancelled, JobState.cancelled.wire, []⟩]
      | state =>
        { manager with backend := loaded }.emit [.cancelAck ⟨.invalidState, state.wire, state.toString⟩]

end Requests

section Launch

variable {σ : Type} (config : JobManagerConfig) (store : StateStore σ)

def failedRecord (uuid : GpuUuid) (reason : ByteString) (clock : Nat → TimePoint) (attempt : Nat)
    (current : StoredJob) : Rewrite :=
  if current.state.isTerminal then { record := current }
  else
    { record := { current with
        state := .failed
        revision := current.revision + 1
        execution := { current.execution with
          failureReason := some (reason.take JobExecutionLimits.maxFailureReasonBytes)
          endTime := some (clock attempt) } }
      release := some uuid }

/-- The job fails and its lease is released in one write. No new scheduling
turn is asked for. -/
def failLaunch (input : LaunchInput) (id : JobId) (uuid : GpuUuid) (reason : ByteString) (manager : JobManager σ) :
    JobManager σ :=
  let (_, written) := rewriteJob store id (failedRecord uuid reason input.endClock) manager.backend
  { manager with backend := written }.emit [.streamFinished id JobState.failed.wire none]

def jobDirectory (id : JobId) : ByteString :=
  config.logRoot ++ .ascii "/" ++ .ascii (toString id.value.toNat)

/-- The steps before the process exists, in their order. -/
def prepareLaunch (input : LaunchInput) (spec : JobSpec) : Except ByteString Unit := do
  input.identity.mapError (.ascii "identity resolve failed: " ++ ·)
  (LaunchProfile.profileFromSpec spec).validate.mapError (.ascii "invalid launch profile: " ++ ·.toString)
  input.plan.mapError (.ascii "launch plan rejected: " ++ ·)
  input.directory
  input.sink.mapError (.ascii "log sink open failed: " ++ ·)
  input.streamer.mapError (.ascii "log streamer register failed: " ++ ·)

def runningRecord (identity : ProcessIdentity) (directory : ByteString) (clock : Nat → TimePoint) (attempt : Nat)
    (current : StoredJob) : Rewrite :=
  { record := { current with
      state := .running
      revision := current.revision + 1
      execution := { current.execution with
        identity
        startTime := some (clock attempt)
        logPath := some directory } } }

/-- Takes a spawned process back: its supervisor is destroyed, which kills it,
and the job fails. -/
def rollBack (input : LaunchInput) (id : JobId) (uuid : GpuUuid) (supervisor : ProcessSupervisor)
    (reason : ByteString) (manager : JobManager σ) : JobManager σ :=
  (manager.sendSignals supervisor.destroy input.destroying).failLaunch store input id uuid reason

/-- From the spawned process to the supervised job. -/
def startSpawned (input : LaunchInput) (id : JobId) (uuid : GpuUuid) (identity : ProcessIdentity)
    (manager : JobManager σ) : JobManager σ :=
  let supervisor := ProcessSupervisor.spawned ⟨config.cancelGrace⟩ identity
  let directory := jobDirectory config id
  let (write, written) := rewriteJob store id (runningRecord identity directory input.startClock) manager.backend
  let saved := { manager with backend := written }
  match write.code with
  | some code =>
    (saved.emit [.streamDropped id]).rollBack store input id uuid supervisor
      (.ascii "running state persist failed: " ++ code.toString)
  | none =>
    let (answer, registered) := saved.registerProcess identity input.registering
    if answer ≠ .registered then
      (registered.emit [.streamDropped id]).rollBack store input id uuid supervisor
        (.ascii "exit monitor registration failed")
    else
      let attaching := registered.runReaper input.attaching
      if !input.attached then
        ((attaching.emit [.streamDropped id]).unregisterProcess identity.pid input.unregistering).rollBack store
          input id uuid supervisor (.ascii "log pump attach failed")
      else
        { attaching with
          pump := { attaching.pump with attached := attaching.pump.attached ++ [id] }
          supervised := attaching.supervised.insert id { id, leasedGpu := uuid, supervisor := some supervisor }
          byPid := attaching.byPid.insert identity.pid id }

def spawnReason (failure : SpawnFailure) : ByteString :=
  .ascii "spawn failed: " ++ failure.code.toString ++
    if failure.message.isEmpty then [] else .ascii ": " ++ failure.message

def physicalIndex (observed : Option GpuObservationSnapshot) (uuid : GpuUuid) : UInt32 :=
  ((observed.bind fun snapshot => findDevice snapshot uuid).map (·.index)).getD 0

/-- Carries out a scheduling decision. The record must still be starting. -/
def launchScheduled (input : LaunchInput) (id : JobId) (uuid : GpuUuid) (manager : JobManager σ) : JobManager σ :=
  match store.load manager.backend with
  | (.error _, loaded) => { manager with backend := loaded }
  | (.ok snapshot, loaded) =>
    let loading := { manager with backend := loaded }
    match findStored snapshot id with
    | none => loading
    | some record =>
      if record.state ≠ .starting then loading
      else match prepareLaunch input record.spec with
        | .error reason => loading.failLaunch store input id uuid reason
        | .ok () =>
          let opened := loading.emit [.streamOpened id]
          match input.spawn with
          | .error failure =>
            let killed := failure.child.toList.map fun pid => .signal ⟨pid, .kill⟩
            (opened.emit (killed ++ [.streamDropped id])).failLaunch store input id uuid (spawnReason failure)
          | .ok identity =>
            (opened.emit [.spawned id ⟨uuid, physicalIndex input.observed uuid, 0⟩ identity]).startSpawned config store
              input id uuid identity

/-- One run of the scheduler, and the launch it leads to. -/
def scheduleNow (input : ScheduleInput) (trigger : SchedulerTrigger) (manager : JobManager σ) : JobManager σ :=
  if !manager.gateOpen ∨ !input.readable then manager
  else match manager.gpu.tryGetSnapshot with
    | none => manager
    | some snapshot =>
      if !input.completed then manager
      else
        let outcome := runOnce store ⟨config.schedulerScanWindow⟩ trigger snapshot manager.queue manager.backend
        let evaluation := if outcome.result.scheduled ∨ outcome.result.code = .noCandidate then
          some outcome.result.evaluation else manager.evaluation
        let decided := { manager with queue := outcome.queue, backend := outcome.backend, evaluation }
        match outcome.result.scheduled, outcome.result.event.jobId, outcome.result.event.gpuUuid with
        | true, some id, some uuid => decided.launchScheduled config store input.launch id uuid
        | _, _, _ => decided

end Launch

section Events

variable {σ : Type} (config : JobManagerConfig) (store : StateStore σ)

/-- The state an exit gives its job, with the reason of a failure. -/
def exitVerdict (cancelling : Bool) (event : ExitEvent) : JobState × Option ByteString :=
  if cancelling then (.cancelled, none)
  else if !event.identityVerified then
    (.failed, some (.ascii "exit status unavailable (identity verification failed or adopted process)"))
  else if event.status.isSuccess then (.finished, none)
  else if event.status.exited then
    (.failed, some (.ascii "exited with code " ++ .ascii (toString event.status.exitCode)))
  else (.failed, some (.ascii "terminated by signal " ++ .ascii (toString event.status.signalNumber)))

def exitRecord (event : ExitEvent) (verdict : JobState × Option ByteString) (uuid : GpuUuid) (clock : Nat → TimePoint)
    (attempt : Nat) (current : StoredJob) : Rewrite :=
  if current.state.isTerminal then { record := current }
  else
    { record := { current with
        state := verdict.1
        revision := current.revision + 1
        execution := { current.execution with
          exit := if event.identityVerified then some event.status else current.execution.exit
          endTime := some (clock attempt)
          failureReason := verdict.2 } }
      release := some uuid }

/-- Publishes the end of the log stream and destroys the entry. -/
def finishJob (id : JobId) (job : SupervisedJob) (state : UInt8) (exit : Option IpcExitStatus)
    (between : List ReaperAction) (manager : JobManager σ) : JobManager σ :=
  ({ manager with supervised := manager.supervised.erase id }.emit [.streamFinished id state exit]).sendSignals
    job.destroy between

/-- The job is found by the pid of the event alone. -/
def processExit (input : ExitInput) (event : ExitEvent) (manager : JobManager σ) : JobManager σ :=
  match manager.byPid.find? event.pid with
  | none => manager
  | some id =>
    match manager.supervised.find? id with
    | none => { manager with byPid := manager.byPid.erase event.pid }
    | some job =>
      let verdict := exitVerdict job.cancelling event
      let (_, written) := rewriteJob store id (exitRecord event verdict job.leasedGpu input.endClock) manager.backend
      let exitInfo := if event.identityVerified then some (exitWire event.status) else none
      let unmapped := { manager with backend := written, byPid := manager.byPid.erase event.pid }
      let settled :=
        if job.adopted ∨ job.pumpDone then unmapped.finishJob id job verdict.1.wire exitInfo input.destroying
        else
          let exited := { job with
            grace := job.grace.map fun _ => {}
            exited := true
            terminalState := verdict.1.wire
            terminalExit := exitInfo }
          { unmapped with supervised := unmapped.supervised.insert id exited }
      settled.postWake config .jobExited

def processPumpDone (between : List ReaperAction) (id : JobId) (manager : JobManager σ) : JobManager σ :=
  match manager.supervised.find? id with
  | none => manager
  | some job =>
    if job.exited then manager.finishJob id job job.terminalState job.terminalExit between
    else { manager with supervised := manager.supervised.insert id { job with pumpDone := true } }

/-- The executor runs the escalation task of a job. -/
def runEscalation (kill : KillInput) (now : TimePoint) (id : JobId) (manager : JobManager σ) : JobManager σ :=
  match manager.supervised.find? id with
  | none => manager
  | some job =>
    match job.grace, job.supervisor with
    | some ⟨armed, true⟩, some supervisor =>
      { manager with
        supervised := manager.supervised.insert id { job with grace := some ⟨armed, false⟩ } }.sendSignals
        (supervisor.escalate kill.group kill.leader now).2 kill.between
    | _, _ => manager

end Events

end Yori.JobManager
