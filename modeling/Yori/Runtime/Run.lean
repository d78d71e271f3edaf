import Yori.Recovery.JobRecovery
import Yori.Runtime.Handlers

namespace Yori
open Checked

def JobManagerConfig.maxDirectoryBytes : Nat := 4096

def JobManagerConfig.valid (config : JobManagerConfig) : Except ByteString Unit := do
  rejectIf (!ByteString.absolute config.logRoot) (.ascii "log root must be an absolute path")
  rejectIf (config.logRoot.length > maxDirectoryBytes) (.ascii "log root too long")
  rejectIf (!(CancelPolicy.mk config.cancelGrace).valid) (.ascii "cancel grace out of range")
  rejectIf (config.commandCapacity = 0) (.ascii "command capacity must be positive")
  rejectIf (config.ackTimeout ≤ 0) (.ascii "ack timeout must be positive")
  rejectIf (!(SchedulerConfig.mk config.schedulerScanWindow).valid)
    (.ascii "scheduler scan window must be within [1, 4096]")

inductive JobManagerStartCode
  | started | alreadyStarted | invalidConfig | logRootInvalid | workersRejected
deriving DecidableEq, Repr

def JobManagerStartCode.toString : JobManagerStartCode → ByteString
  | .started => .ascii "started"
  | .alreadyStarted => .ascii "already started"
  | .invalidConfig => .ascii "invalid config"
  | .logRootInvalid => .ascii "log root rejected"
  | .workersRejected => .ascii "executor rejected a worker"

structure JobManagerStartResult where
  code : JobManagerStartCode
  message : ByteString := []
deriving Repr

/-- What the adoption of one recovered job meets: the comparison with `/proc`,
the turns of the reaper while the registration is waited for, and those
between the signals of a supervisor that is destroyed. -/
structure AdoptionInput where
  verified : Bool := true
  registering : List ReaperAction := []
  destroying : List ReaperAction := []
  cancel : CancelInput := {}

/-- What a start meets. The outcomes of the components are given in the order
they are asked. -/
structure StartInput where
  logRoot : Except ByteString Unit := .ok ()
  monitor : Except ByteString Unit := .ok ()
  pump : Except ByteString Unit := .ok ()
  wakePipe : Bool := true
  adoption : JobId → AdoptionInput := fun _ => {}
  workerStarted : Bool := true
  destroying : JobId → List ReaperAction := fun _ => []

namespace JobManager

section Start

variable {σ : Type} (config : JobManagerConfig) (store : StateStore σ)

def adopts : RecoveryDecisionCode → Bool
  | .adoptedRunning | .adoptedPromotedToRunning | .adoptedStoppingNeedsRecancel => true
  | _ => false

def adoptedJob (snapshot : StateSnapshot) (outcome : RecoveryJobOutcome) (supervisor : ProcessSupervisor) :
    SupervisedJob :=
  { id := outcome.jobId
    leasedGpu := (JobRecovery.findLeaseGpu snapshot outcome.jobId).getD ⟨[]⟩
    supervisor := some supervisor
    grace := if outcome.decision = .adoptedStoppingNeedsRecancel then some {} else none
    cancelling := outcome.decision = .adoptedStoppingNeedsRecancel
    adopted := true }

/-- An entry of the same id is replaced, which destroys the old one. -/
def supervise (id : JobId) (pid : Int) (job : SupervisedJob) (between : List ReaperAction) (manager : JobManager σ) :
    JobManager σ :=
  let calls := ((manager.supervised.find? id).map (·.destroy)).getD []
  { manager with
    supervised := manager.supervised.insert id job
    byPid := manager.byPid.insert pid id }.sendSignals calls between

/-- The adoption of one recovered job. The supervisor of a job that cannot be
registered is destroyed on the way out. -/
def armOutcome (input : AdoptionInput) (outcome : RecoveryJobOutcome) (manager : JobManager σ) : JobManager σ :=
  if !adopts outcome.decision then manager
  else match store.load manager.backend with
    | (.error _, loaded) => { manager with backend := loaded }
    | (.ok snapshot, loaded) =>
      let loading := { manager with backend := loaded }
      match findStored snapshot outcome.jobId with
      | none => loading
      | some record =>
        if !record.execution.hasIdentity then loading
        else match ({ policy := ⟨config.cancelGrace⟩ } : ProcessSupervisor).adopt record.execution.identity
            input.verified with
          | .error _ => loading
          | .ok supervisor =>
            let (answer, registered) := loading.registerProcess record.execution.identity input.registering
            if answer ≠ .registered then registered.sendSignals supervisor.destroy input.destroying
            else
              let adopted := registered.supervise outcome.jobId record.execution.identity.pid
                (adoptedJob snapshot outcome supervisor) input.destroying
              if outcome.decision = .adoptedStoppingNeedsRecancel then
                adopted.beginCancellation input.cancel outcome.jobId true
              else adopted

def armRecovery (input : JobId → AdoptionInput) (outcomes : List RecoveryJobOutcome) (manager : JobManager σ) :
    JobManager σ :=
  outcomes.foldl (fun manager outcome => manager.armOutcome config store (input outcome.jobId) outcome) manager

/-- The worker is destroyed with all its entries. -/
def destroyWorker (between : JobId → List ReaperAction) (manager : JobManager σ) : JobManager σ :=
  manager.supervised.entries.foldl (fun manager entry => manager.sendSignals entry.2.destroy (between entry.1))
    { manager with supervised := .empty, byPid := .empty }

def stopMonitor (manager : JobManager σ) : JobManager σ :=
  { manager with monitor := { manager.monitor with started := false } }

def start (input : StartInput) (recovery : Option RecoveryResult) (manager : JobManager σ) :
    JobManagerStartResult × JobManager σ :=
  if manager.running then (⟨.alreadyStarted, .ascii "job manager already started"⟩, manager)
  else if manager.stopRequested then
    (⟨.invalidConfig, .ascii "job manager was stopped and cannot restart"⟩, manager)
  else match config.valid, input.logRoot, input.monitor, input.pump with
    | .error error, _, _, _ => (⟨.invalidConfig, error⟩, manager)
    | _, .error error, _, _ => (⟨.logRootInvalid, error⟩, manager)
    | _, _, .error error, _ =>
      (⟨.workersRejected, .ascii "exit monitor start failed: " ++ error⟩, manager)
    | _, _, _, .error error =>
      (⟨.workersRejected, .ascii "log pump start failed: " ++ error⟩, manager)
    | .ok (), .ok (), .ok (), .ok () =>
      if !input.wakePipe then (⟨.workersRejected, .ascii "wake pipe creation failed"⟩, manager)
      else
        let watching := { manager with monitor := { manager.monitor with started := true } }
        let outcomes := ((recovery.filter (·.ok)).map (·.outcomes)).getD []
        let armed := watching.armRecovery config store input.adoption outcomes
        if !input.workerStarted then
          (⟨.workersRejected, .ascii "executor rejected the blocking worker"⟩,
            (armed.destroyWorker input.destroying).stopMonitor)
        else (⟨.started, []⟩, { armed with running := true }.postWake config .recoveryCompleted)

end Start

section Stop

variable {σ : Type}

def rejectPending (commands : List Command) : List Effect :=
  commands.filterMap fun
    | .submit _ => some (.submitAck { code := .unavailable, detail := .ascii "job manager is stopping" })
    | .cancel _ => some (.cancelAck { code := .unavailable, detail := .ascii "job manager is stopping" })
    | .wake _ => none

/-- Each process is forgotten before its entry is destroyed. -/
def abandonSupervised (manager : JobManager σ) : JobManager σ :=
  let calls := manager.supervised.values.flatMap fun job => (job.supervisor.map (·.abandon.2.destroy)).getD []
  { manager with supervised := .empty, byPid := .empty }.emit (calls.map .signal)

def stop (manager : JobManager σ) : JobManager σ :=
  ({ manager with running := false, stopRequested := true, commands := [] }.emit
    (rejectPending manager.commands)).abandonSupervised.stopMonitor

end Stop

/-- A request as a client thread posts it. -/
inductive ClientRequest
  | submit (spec : JobSpec)
  | cancel (id : JobId)

def ClientRequest.command : ClientRequest → Command
  | submit spec => .submit spec
  | cancel id => .cancel id

structure CommandInput where
  cancel : CancelInput := {}
  schedule : ScheduleInput

/-- What can happen to a started manager: the worker handles its next command,
exit event, pump event or the waiting device events, or another thread acts. -/
inductive Step
  | command (input : CommandInput)
  | exit (input : ExitInput)
  | pumpDone (between : List ReaperAction)
  | gpuEvents (input : ScheduleInput)
  | post (request : ClientRequest)
  | reaper (action : ReaperAction)
  | pumpFinished (id : JobId)
  | escalation (id : JobId) (kill : KillInput) (now : TimePoint)
  | sample (input : GpuManager.SampleInput)
  | openGate
  | stop

section Steps

variable {σ : Type} (config : JobManagerConfig) (store : StateStore σ) {manager : JobManager σ}

def handleCommand (input : CommandInput) (manager : JobManager σ) : JobManager σ :=
  match manager.commands with
  | [] => manager
  | .submit spec :: rest => ({ manager with commands := rest }.processSubmit store spec).postWake config .jobSubmitted
  | .cancel id :: rest =>
    ({ manager with commands := rest }.processCancel store input.cancel id).postWake config .jobCancelled
  | .wake trigger :: rest => { manager with commands := rest }.scheduleNow config store input.schedule trigger

def handleExit (input : ExitInput) (manager : JobManager σ) : JobManager σ :=
  match manager.monitor.events with
  | [] => manager
  | event :: rest =>
    { manager with monitor := { manager.monitor with events := rest } }.processExit config store input event

def handlePumpDone (between : List ReaperAction) (manager : JobManager σ) : JobManager σ :=
  match manager.pump.done with
  | [] => manager
  | id :: rest => { manager with pump := { manager.pump with done := rest } }.processPumpDone between id

def handleGpuEvents (input : ScheduleInput) (manager : JobManager σ) : JobManager σ :=
  let (stateChanged, gpu) := manager.gpu.drainEvents
  if stateChanged then { manager with gpu }.scheduleNow config store input .gpuStateChanged else { manager with gpu }

def post (request : ClientRequest) (manager : JobManager σ) : JobManager σ :=
  if manager.commands.length < config.commandCapacity then
    { manager with commands := manager.commands ++ [request.command] }
  else manager

def pumpFinished (id : JobId) (manager : JobManager σ) : JobManager σ :=
  if id ∈ manager.pump.attached then
    { manager with pump := ⟨manager.pump.attached.erase id, manager.pump.done ++ [id]⟩ }
  else manager

def perform (manager : JobManager σ) : Step → JobManager σ
  | .command input => manager.handleCommand config store input
  | .exit input => manager.handleExit config store input
  | .pumpDone between => manager.handlePumpDone between
  | .gpuEvents input => manager.handleGpuEvents config store input
  | .post request => manager.post config request
  | .reaper action => manager.runReaper [action]
  | .pumpFinished id => manager.pumpFinished id
  | .escalation id kill now => manager.runEscalation kill now id
  | .sample input => { manager with gpu := manager.gpu.sampleOnce input }
  | .openGate => { manager with gateOpen := true }
  | .stop => manager.stop

/-- Nothing happens before the start and after the stop. -/
def step (manager : JobManager σ) (step : Step) : JobManager σ :=
  if manager.running then manager.perform config store step else manager

theorem step_of_running {config : JobManagerConfig} {store : StateStore σ} (running : manager.running = true)
    (step : Step) :
    manager.step config store step = manager.perform config store step := if_pos running

theorem step_of_stopped {config : JobManagerConfig} {store : StateStore σ} (stopped : manager.running = false)
    (step : Step) : manager.step config store step = manager :=
  if_neg (by simp [stopped])

/-- The worker looks for its next command. -/
def Step.takes : Step → Bool
  | .command _ => true
  | _ => false

/-- What a step that may schedule meets when it launches a job. -/
def launching? (manager : JobManager σ) : Step → Option LaunchInput
  | .command input =>
    match manager.commands with
    | .wake _ :: _ => some input.schedule.launch
    | _ => none
  | .gpuEvents input => some input.launch
  | _ => none

/-- What a step comes to. Only buffers and the gate move, or a handler runs with
its input taken out of the channel. -/
inductive Took (manager : JobManager σ) : Step → JobManager σ → Prop
  | aside (step : Step) (pump : LogPump) (gpu : GpuManager) (gateOpen : Bool)
      (idle : manager.running = true → step.takes = false ∨ manager.commands = []) :
      Took manager step { manager with pump, gpu, gateOpen }
  | posted (request : ClientRequest) :
      Took manager (.post request) { manager with commands := manager.commands ++ [request.command] }
  | submitted (input : CommandInput) (spec : JobSpec) (rest : List Command)
      (next : manager.commands = .submit spec :: rest) : Took manager (.command input)
        (({ manager with commands := rest }.processSubmit store spec).postWake config .jobSubmitted)
  | cancelled (input : CommandInput) (id : JobId) (rest : List Command) (next : manager.commands = .cancel id :: rest) :
      Took manager (.command input)
        (({ manager with commands := rest }.processCancel store input.cancel id).postWake config .jobCancelled)
  | woken (input : CommandInput) (trigger : SchedulerTrigger) (rest : List Command)
      (next : manager.commands = .wake trigger :: rest) :
      Took manager (.command input) ({ manager with commands := rest }.scheduleNow config store input.schedule trigger)
  | observed (input : ScheduleInput) : Took manager (.gpuEvents input)
      ({ manager with gpu := manager.gpu.drainEvents.2 }.scheduleNow config store input .gpuStateChanged)
  | exited (input : ExitInput) (event : ExitEvent) (rest : List ExitEvent)
      (next : manager.monitor.events = event :: rest) : Took manager (.exit input)
        ({ manager with monitor := { manager.monitor with events := rest } }.processExit config store input event)
  | pumped (between : List ReaperAction) (id : JobId) (rest : List JobId) (next : manager.pump.done = id :: rest) :
      Took manager (.pumpDone between)
        ({ manager with pump := { manager.pump with done := rest } }.processPumpDone between id)
  | escalated (id : JobId) (kill : KillInput) (now : TimePoint) :
      Took manager (.escalation id kill now) (manager.runEscalation kill now id)
  | reaped (action : ReaperAction) : Took manager (.reaper action) (manager.runReaper [action])
  | stopped : Took manager .stop manager.stop

theorem step_took (manager : JobManager σ) (step : Step) :
    Took config store manager step (manager.step config store step) := by
  cases running : manager.running with
  | false =>
    rw [step_of_stopped running]
    exact .aside step manager.pump manager.gpu manager.gateOpen (by simp [running])
  | true =>
    rw [step_of_running running]
    have unread {step : Step} (other : step.takes = false) (pump : LogPump) (gpu : GpuManager) (gateOpen : Bool) :
        Took config store manager step { manager with pump, gpu, gateOpen } :=
      .aside step pump gpu gateOpen fun _ => .inl other
    cases step with
    | command input =>
      simp only [perform, handleCommand]
      split
      · rename_i empty
        exact .aside _ manager.pump manager.gpu manager.gateOpen fun _ => .inr empty
      · exact .submitted input _ _ ‹_›
      · exact .cancelled input _ _ ‹_›
      · exact .woken input _ _ ‹_›
    | exit input =>
      simp only [perform, handleExit]
      split
      · exact unread rfl manager.pump manager.gpu manager.gateOpen
      · exact .exited input _ _ ‹_›
    | pumpDone between =>
      simp only [perform, handlePumpDone]
      split
      · exact unread rfl manager.pump manager.gpu manager.gateOpen
      · exact .pumped between _ _ ‹_›
    | gpuEvents input =>
      simp only [perform, handleGpuEvents]
      split
      · exact .observed input
      · exact unread rfl manager.pump _ manager.gateOpen
    | post request =>
      simp only [perform, post]
      split
      · exact .posted request
      · exact unread rfl manager.pump manager.gpu manager.gateOpen
    | pumpFinished =>
      simp only [perform, pumpFinished]
      split
      · exact unread rfl _ manager.gpu manager.gateOpen
      · exact unread rfl manager.pump manager.gpu manager.gateOpen
    | escalation id kill now => exact .escalated id kill now
    | reaper action => exact .reaped action
    | sample => exact unread rfl manager.pump _ manager.gateOpen
    | openGate => exact unread rfl manager.pump manager.gpu true
    | stop => exact .stopped

def run (manager : JobManager σ) (steps : List Step) : JobManager σ := steps.foldl (step config store) manager

end Steps

end JobManager

end Yori
