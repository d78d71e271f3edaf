import Yori.Runtime.Run

namespace Yori
open Checked

inductive DaemonStartCode
  | started | alreadyStarted | invalidConfig | recoveryFailed | gpuFailed | jobManagerFailed | ipcFailed
deriving Repr

structure DaemonStartResult where
  code : DaemonStartCode
  message : ByteString := []
  recovery : Option RecoveryResult := none
deriving Repr

def startFailure (code : DaemonStartCode) (message : ByteString) : DaemonStartResult := { code, message }

inductive DaemonStopCode
  | stopped | notRunning | alreadyStopped
deriving Repr

/-- The configuration of the daemon. The IPC service, its server and the log
streamer are given by what the checks of their own parts say. -/
structure DaemonConfig where
  queue : QueueConfig := {}
  jobManager : JobManagerConfig := {}
  service : Bool := true
  ipc : Except ByteString Unit := .ok ()
  logStreamer : Except ByteString Unit := .ok ()

def DaemonConfig.valid (config : DaemonConfig) : Except ByteString Unit := do
  rejectIf (!config.service) (.ascii "invalid ipc service config")
  config.ipc
  config.jobManager.valid.mapError fun error => .ascii "invalid job manager config: " ++ error

/-- What a start meets, in the order the components are asked: the processes
the recovery compares with, the GPU manager after its first observation, the
start of the job manager, the turns its worker takes from then on, and the two
services that come last. A component that fails gives its text. -/
structure DaemonInput where
  verifier : IdentityVerifier
  now : TimePoint
  gpu : Except ByteString GpuManager := .ok {}
  jobManager : StartInput := {}
  meanwhile : List JobManager.Step := []
  logFollow : Except ByteString Unit := .ok ()
  ipcServer : Except ByteString Unit := .ok ()

/-- The daemon of one process and the store it works on. -/
inductive Daemon (σ : Type)
  | idle (backend : σ)
  | up (manager : JobManager σ)
  | stopped (backend : σ)

namespace Daemon

variable {σ : Type} (config : DaemonConfig) (store : StateStore σ)

def backend : Daemon σ → σ
  | .idle backend => backend
  | .up manager => manager.backend
  | .stopped backend => backend

/-- The last part of a start. The job manager works from its own start on, so a
service that fails after it finds a worker to stop. -/
def startServices (input : DaemonInput) (recovery : RecoveryResult) (manager : JobManager σ) :
    DaemonStartResult × Daemon σ :=
  let (result, started) := manager.start config.jobManager store input.jobManager (some recovery)
  if result.code ≠ .started then
    let detail := if result.message = [] then [] else .ascii ": " ++ result.message
    (startFailure .jobManagerFailed (.ascii "job manager start failed: " ++ result.code.toString ++ detail),
      .idle started.backend)
  else
    let working := started.run config.jobManager store input.meanwhile
    match input.logFollow, input.ipcServer with
    | .error error, _ =>
      (startFailure .ipcFailed (.ascii "log follow service start failed: " ++ error), .idle working.stop.backend)
    | _, .error error => (startFailure .ipcFailed (.ascii "ipc server start failed: " ++ error),
        .idle working.stop.backend)
    | .ok (), .ok () => ({ code := .started, recovery := some recovery }, .up working)

/-- The order of a start: the queue, the recovery, the GPU manager, and only
then the worker, with the gate open. A start that failed may be repeated. -/
def start (input : DaemonInput) : Daemon σ → DaemonStartResult × Daemon σ
  | .up manager => (startFailure .alreadyStarted (.ascii "daemon already started"), .up manager)
  | .stopped backend =>
    (startFailure .invalidConfig (.ascii "daemon was stopped and cannot restart"), .stopped backend)
  | .idle backend =>
    match config.valid with
    | .error message => (startFailure .invalidConfig message, .idle backend)
    | .ok () =>
      match GlobalJobQueue.create config.queue with
      | .error code => (startFailure .invalidConfig (.ascii "queue creation failed: " ++ code.toString), .idle backend)
      | .ok queue =>
        let (recovery, rebuilt, recovered) := JobRecovery.recover store input.verifier input.now queue backend
        match recovery.code with
        | some code =>
          ({ code := .recoveryFailed, message := .ascii "recovery failed: " ++ code.toString,
             recovery := some recovery }, .idle recovered)
        | none =>
          match input.gpu, config.logStreamer with
          | .error error, _ =>
            (startFailure .gpuFailed (.ascii "gpu manager start failed: " ++ error), .idle recovered)
          | _, .error error =>
            (startFailure .invalidConfig (.ascii "log streamer config invalid: " ++ error), .idle recovered)
          | .ok gpu, .ok () =>
            startServices config store input recovery { backend := recovered, queue := rebuilt, gpu, gateOpen := true }

def stop : Daemon σ → DaemonStopCode × Daemon σ
  | .idle backend => (.notRunning, .stopped backend)
  | .up manager => (.stopped, .stopped manager.stop.backend)
  | .stopped backend => (.alreadyStopped, .stopped backend)

end Daemon

/-- What can happen to a daemon. The process may end at any moment, whatever
state it is in, and another one then opens the same store. -/
inductive DaemonEvent
  | start (input : DaemonInput)
  | work (step : JobManager.Step)
  | stop
  | replaced

namespace Daemon

variable {σ : Type} (config : DaemonConfig) (store : StateStore σ)

def next (daemon : Daemon σ) : DaemonEvent → Daemon σ
  | .start input => (daemon.start config store input).2
  | .work step =>
    match daemon with
    | .up manager => .up (manager.step config.jobManager store step)
    | other => other
  | .stop => daemon.stop.2
  | .replaced => .idle daemon.backend

def run (daemon : Daemon σ) (events : List DaemonEvent) : Daemon σ := events.foldl (next config store) daemon

end Daemon

end Yori
