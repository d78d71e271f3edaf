import Yori.Runtime.Run

namespace Yori
open JobManager

/-! Calls of `submit_job` by client threads, and the handling of a submission by the worker. Both are
taken apart where another thread can come in between. -/

/-- Where a client thread is in `submit_job`. -/
inductive CallPhase
  | checked | waiting | returned (outcome : JobSubmitOutcome)
deriving DecidableEq, Repr

/-- A call of `submit_job`. `ack` is the state that the promise in the command shares with the future of
the caller. -/
structure SubmitCall where
  spec : JobSpec
  phase : CallPhase
  ack : Option JobSubmitOutcome := none

/-- Where the worker is in a submission: the command has left the channel, or its job is stored and not
queued yet. -/
inductive SubmitPhase
  | idle
  | received (call : Nat) (spec : JobSpec)
  | created (call : Nat) (record : StoredJob) (revision : UInt64)
deriving DecidableEq

/-- The job manager with the calls that were made. `pending` names the calls whose commands are in the
channel, in the order of the channel. `created` is the history of the stored jobs, each with its call;
the program does not read it. -/
structure Submissions (σ : Type) where
  manager : JobManager σ
  calls : List SubmitCall := []
  pending : List Nat := []
  phase : SubmitPhase := .idle
  created : List (Nat × JobId) := []

def JobSubmitOutcome.unavailable (detail : String) : JobSubmitOutcome :=
  { code := .unavailable, detail := .ascii detail }

inductive SubmitStep
  | enter (spec : JobSpec)
  | send (call : Nat)
  | timeOut (call : Nat)
  | collect (call : Nat)
  | receive
  | create
  | enqueue
  | requestStop
  | other (step : Step)

namespace Submissions

variable {σ : Type} (config : JobManagerConfig) (store : StateStore σ)

section Caller

/-- The check of the flags. -/
def enter (spec : JobSpec) (state : Submissions σ) : Submissions σ :=
  let phase : CallPhase := if state.manager.stopRequested || !state.manager.running then
    .returned (.unavailable "job manager is not running") else .checked
  { state with calls := state.calls ++ [{ spec, phase }] }

def setPhase (call : Nat) (phase : CallPhase) (state : Submissions σ) : Submissions σ :=
  { state with calls := state.calls.modify call ({ · with phase }) }

/-- The command enters the channel, also after the worker has ended. -/
def send (call : Nat) (state : Submissions σ) : Submissions σ :=
  match state.calls[call]? with
  | some ⟨spec, .checked, _⟩ =>
    if state.manager.commands.length < config.commandCapacity then
      { state with
        manager := state.manager.post config (.submit spec)
        pending := state.pending ++ [call] }.setPhase call .waiting
    else state.setPhase call (.returned (.unavailable "job manager command channel is full"))
  | _ => state

/-- `wait_for` comes back without an answer. -/
def timeOut (call : Nat) (state : Submissions σ) : Submissions σ :=
  match state.calls[call]? with
  | some ⟨_, .waiting, none⟩ =>
    state.setPhase call (.returned (.unavailable "job manager did not acknowledge submission"))
  | _ => state

def collect (call : Nat) (state : Submissions σ) : Submissions σ :=
  match state.calls[call]? with
  | some ⟨_, .waiting, some outcome⟩ => state.setPhase call (.returned outcome)
  | _ => state

end Caller

section Worker

def receive (state : Submissions σ) : Submissions σ :=
  match state.manager.running, state.phase, state.manager.commands, state.pending with
  | true, .idle, .submit spec :: rest, call :: others =>
    { state with
      manager := { state.manager with commands := rest }
      pending := others
      phase := .received call spec }
  | _, _, _, _ => state

/-- The promise is fulfilled, and the worker asks itself for a scheduling turn. -/
def answer (call : Nat) (outcome : JobSubmitOutcome) (state : Submissions σ) : Submissions σ :=
  { state with
    manager := (state.manager.emit [.submitAck outcome]).postWake config .jobSubmitted
    calls := state.calls.modify call ({ · with ack := some outcome })
    phase := .idle }

def setBackend (backend : σ) (state : Submissions σ) : Submissions σ :=
  { state with manager := { state.manager with backend } }

/-- The job of a call is stored. -/
def stored (call : Nat) (record : StoredJob) (revision : UInt64) (backend : σ) (state : Submissions σ) :
    Submissions σ :=
  { state.setBackend backend with
    phase := .created call record revision
    created := state.created ++ [(call, record.id)] }

/-- `process_submit` up to the write that creates the job. -/
def create (state : Submissions σ) : Submissions σ :=
  match state.phase with
  | .received call spec =>
    match store.load state.manager.backend with
    | (.error code, loaded) =>
      (state.setBackend loaded).answer config call { code := .storeFailed, detail := code.toString }
    | (.ok snapshot, loaded) =>
      let record := submissionRecord snapshot spec
      let (write, written) := store.apply loaded (submissionMutation snapshot spec)
      match write.code with
      | some code =>
        (state.setBackend written).answer config call { code := .storeFailed, detail := code.toString }
      | none => state.stored call record write.revision written
  | _ => state

/-- The rest of `process_submit`. -/
def enqueue (state : Submissions σ) : Submissions σ :=
  match state.phase with
  | .created call record revision =>
    let (admission, queue) := state.manager.queue.admitJob record
    let queued := { state with manager := { state.manager with queue } }
    match admission.code with
    | none => queued.answer config call { code := .submitted, jobId := record.id.value }
    | some code =>
      let (rollback, compensated) := store.apply state.manager.backend (compensation record revision)
      (queued.setBackend compensated).answer config call
        { code := .queueRejected, detail := rejectionDetail code rollback }
  | _ => state

/-- The end of the worker: what is left in the channel is refused. -/
def stop (state : Submissions σ) : Submissions σ :=
  if state.manager.running ∧ state.phase = .idle then
    { state with
      manager := state.manager.stop
      calls := state.calls.mapIdx fun call entry =>
        if call ∈ state.pending then { entry with ack := some (.unavailable "job manager is stopping") } else entry
      pending := [] }
  else state

def work (step : Step) (state : Submissions σ) : Submissions σ :=
  { state with manager := state.manager.step config store step }

/-- Everything else. What the worker does itself waits until the submission in its hands is answered. -/
def other (state : Submissions σ) : Step → Submissions σ
  | .post (.submit _) => state
  | .stop => state.stop
  | .command input =>
    match state.phase, state.manager.commands with
    | .idle, .submit _ :: _ => state
    | .idle, _ => state.work config store (.command input)
    | _, _ => state
  | .exit input => if state.phase = .idle then state.work config store (.exit input) else state
  | .pumpDone between => if state.phase = .idle then state.work config store (.pumpDone between) else state
  | .gpuEvents input => if state.phase = .idle then state.work config store (.gpuEvents input) else state
  | step => state.work config store step

end Worker

/-- `stop` first raises the flag that later calls see, and the worker goes on until it notices. -/
def step (state : Submissions σ) : SubmitStep → Submissions σ
  | .enter spec => state.enter spec
  | .send call => state.send config call
  | .timeOut call => state.timeOut call
  | .collect call => state.collect call
  | .receive => state.receive
  | .create => state.create config store
  | .enqueue => state.enqueue config store
  | .requestStop => { state with manager := { state.manager with stopRequested := true } }
  | .other step => state.other config store step

def run (state : Submissions σ) (steps : List SubmitStep) : Submissions σ := steps.foldl (step config store) state

/-- Without a step of another thread in between, the three steps of the worker are the handling of one
command. -/
theorem receive_create_enqueue {state : Submissions σ} {spec : JobSpec} {rest : List Command} {call : Nat}
    {others : List Nat} (running : state.manager.running = true) (idle : state.phase = .idle)
    (next : state.manager.commands = .submit spec :: rest) (first : state.pending = call :: others)
    (input : CommandInput) :
    ((state.receive.create config store).enqueue config store).manager =
      state.manager.perform config store (.command input) := by
  have received : state.receive = { state with
      manager := { state.manager with commands := rest }
      pending := others
      phase := .received call spec } := by
    simp only [receive, running, idle, next, first]
  rw [received, perform, handleCommand, next]
  simp only [create, processSubmit]
  rcases store.load state.manager.backend with ⟨loading, loaded⟩
  cases loading with
  | error => rfl
  | ok snapshot =>
    simp only
    cases (store.apply loaded (submissionMutation snapshot spec)).1.code with
    | some => rfl
    | none =>
      simp only [enqueue, stored, setBackend]
      cases (state.manager.queue.admitJob (submissionRecord snapshot spec)).1.code with
      | none | some => rfl

end Submissions

end Yori
