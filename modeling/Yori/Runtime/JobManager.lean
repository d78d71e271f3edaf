import Yori.Ipc.JobControl
import Yori.Launch.Profile
import Yori.Runtime.ExitMonitor
import Yori.Runtime.GpuManager
import Yori.Runtime.Rewrite

namespace Yori
open Checked

structure JobManagerConfig where
  cancelGrace : Int := 10000
  logRoot : ByteString := .ascii "/var/lib/yori/jobs"
  commandCapacity : Nat := 256
  ackTimeout : Int := 5000
  schedulerScanWindow : UInt32 := 32

/-- The delayed escalation of one job. `pending` says that the executor still
holds the task; an armed one whose task has run stays armed until disarmed. -/
structure GraceEscalation where
  armed : Bool := false
  pending : Bool := false
deriving DecidableEq, Repr

namespace GraceEscalation

/-- `accepted` is the answer of the executor to the delayed task. -/
def arm (phase : SupervisorPhase) (accepted : Bool) (grace : GraceEscalation) : GraceEscalation :=
  if grace.armed ∨ phase ≠ .terminating ∨ !accepted then grace else ⟨true, true⟩

end GraceEscalation

/-- A job under supervision. An exited one waits for its log pump. -/
structure SupervisedJob where
  id : JobId
  leasedGpu : GpuUuid := ⟨[]⟩
  supervisor : Option ProcessSupervisor := none
  grace : Option GraceEscalation := none
  cancelling : Bool := false
  adopted : Bool := false
  exited : Bool := false
  pumpDone : Bool := false
  terminalState : UInt8 := 0
  terminalExit : Option IpcExitStatus := none
deriving DecidableEq, Repr

namespace SupervisedJob

/-- The signals sent when an entry is destroyed. -/
def destroy (job : SupervisedJob) : List KillCall := (job.supervisor.map (·.destroy)).getD []

end SupervisedJob

inductive Command
  | submit (spec : JobSpec)
  | cancel (id : JobId)
  | wake (trigger : SchedulerTrigger)
deriving DecidableEq

/-- What can be seen of the daemon from outside, in the order it happens. -/
inductive Effect
  | signal (call : KillCall)
  | exitReported (event : ExitEvent)
  | spawned (id : JobId) (assignment : GpuAssignment) (identity : ProcessIdentity)
  | streamOpened (id : JobId)
  | streamDropped (id : JobId)
  | streamFinished (id : JobId) (state : UInt8) (exit : Option IpcExitStatus)
  | submitAck (outcome : JobSubmitOutcome)
  | cancelAck (outcome : JobCancelOutcome)
deriving DecidableEq

/-- The pipes the log pump still drains, and the jobs whose pipes ended. -/
structure LogPump where
  attached : List JobId := []
  done : List JobId := []
deriving Repr

/-- The job manager with the components it owns or talks to. `log` is the
history of what it did; the program does not read it. -/
structure JobManager (σ : Type) where
  backend : σ
  queue : GlobalJobQueue
  gpu : GpuManager := {}
  gateOpen : Bool := false
  running : Bool := false
  stopRequested : Bool := false
  commands : List Command := []
  monitor : ProcessExitMonitor := {}
  pump : LogPump := {}
  supervised : SortedMap JobId SupervisedJob := .empty
  byPid : SortedMap Int JobId := .empty
  evaluation : Option ScheduleEvaluation := none
  log : List Effect := []

/-- How the kernel answers the two calls of `kill` one operation can make, and
what the reaper does between them. -/
structure KillInput where
  group : KillResult := .delivered
  leader : KillResult := .delivered
  between : List ReaperAction := []
deriving Repr

structure CancelInput where
  kill : KillInput := {}
  now : TimePoint := 0
  timerAccepted : Bool := true
deriving Repr

/-- A failed spawn. A child that was already forked is killed by its pid. -/
structure SpawnFailure where
  code : SpawnErrorCode
  message : ByteString := []
  child : Option Int := none
deriving Repr

/-- What a launch meets: the second look at the devices, the answers of the
components it calls in turn, the wall clock at each attempt of its two writes,
and the turns of the reaper while it waits for the monitor or the pump and
between the two signals of a rollback. -/
structure LaunchInput where
  observed : Option GpuObservationSnapshot := none
  identity : Except ByteString Unit := .ok ()
  plan : Except ByteString Unit := .ok ()
  directory : Except ByteString Unit := .ok ()
  sink : Except ByteString Unit := .ok ()
  streamer : Except ByteString Unit := .ok ()
  spawn : Except SpawnFailure ProcessIdentity
  startClock : Nat → TimePoint := fun _ => 0
  endClock : Nat → TimePoint := fun _ => 0
  registering : List ReaperAction := []
  attaching : List ReaperAction := []
  attached : Bool := true
  unregistering : List ReaperAction := []
  destroying : List ReaperAction := []

/-- What a scheduling turn meets: whether the snapshot can be read, whether the
task runner completes the run, and the launch if there is one. -/
structure ScheduleInput where
  readable : Bool := true
  completed : Bool := true
  launch : LaunchInput

structure ExitInput where
  endClock : Nat → TimePoint := fun _ => 0
  destroying : List ReaperAction := []

namespace JobManager

variable {σ : Type}

def emit (effects : List Effect) (manager : JobManager σ) : JobManager σ :=
  { manager with log := manager.log ++ effects }

def reports (outputs : List MonitorOutput) : List Effect :=
  outputs.filterMap fun
    | .produced event => some (.exitReported event)
    | _ => none

/-- What the monitor lets out enters the history. -/
def watch (turn : List MonitorOutput × ProcessExitMonitor) (manager : JobManager σ) : JobManager σ :=
  { manager with monitor := turn.2, log := manager.log ++ reports turn.1 }

/-- The reaper takes turns while the worker waits or computes. -/
def runReaper (turns : List ReaperAction) (manager : JobManager σ) : JobManager σ :=
  manager.watch (manager.monitor.runActions turns)

def registerProcess (identity : ProcessIdentity) (turns : List ReaperAction) (manager : JobManager σ) :
    ExitRegisterCode × JobManager σ :=
  let answer := manager.monitor.registerProcess identity turns
  (answer.1, manager.watch answer.2)

def unregisterProcess (pid : Int) (turns : List ReaperAction) (manager : JobManager σ) : JobManager σ :=
  manager.watch (manager.monitor.unregisterProcess pid turns).2

/-- The calls of one operation; the reaper may take turns after the first. -/
def signalEffects (calls : List KillCall) (between : List ReaperAction) (monitor : ProcessExitMonitor) :
    List Effect × ProcessExitMonitor :=
  match calls with
  | [] => ([], monitor)
  | first :: rest =>
    let turn := monitor.runActions between
    (.signal first :: (reports turn.1 ++ rest.map .signal), turn.2)

def sendSignals (calls : List KillCall) (between : List ReaperAction) (manager : JobManager σ) : JobManager σ :=
  let sent := signalEffects calls between manager.monitor
  { manager with monitor := sent.2, log := manager.log ++ sent.1 }

/-- A full channel refuses the wake-up. -/
def postWake (config : JobManagerConfig) (trigger : SchedulerTrigger) (manager : JobManager σ) : JobManager σ :=
  { manager with
    commands := if manager.commands.length < config.commandCapacity then manager.commands ++ [.wake trigger]
      else manager.commands }

end JobManager

end Yori
