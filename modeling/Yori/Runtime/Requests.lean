import Yori.Ipc.Privacy
import Yori.Runtime.Additions
import Yori.Runtime.Channel
import Yori.Runtime.StartSignals
import Yori.Runtime.Watched

/-! Requests of many peers beside the worker of the job manager. The service checks a request against what the
store held at some moment, and the request takes effect when the worker comes to it. -/

namespace Yori
open Checked MutationCore JobManager IpcService List InMemoryStateStore InMemoryStateStore

variable {job : SupervisedJob} {record : StoredJob}

/-- Owners and administrators. -/
def IpcServiceConfig.Allows (access : IpcServiceConfig) (peer : PeerCredentials) (spec : JobSpec) : Prop :=
  spec.ownerUid = peer.uid ∨ peer.gid ∈ access.adminGids ∨ peer.uid ∈ access.adminUids

/-- The peer is allowed to cancel the job as the table has it. -/
def MayCancel (access : IpcServiceConfig) (jobs : JobTable) (peer : PeerCredentials) (id : JobId) : Prop :=
  ∃ record, jobs.find? id = some record ∧ access.Allows peer record.spec

/-- The job belongs to the peer, who is not root. -/
def JobSpec.OwnedBy (peer : PeerCredentials) (spec : JobSpec) : Prop :=
  spec.ownerUid = peer.uid ∧ spec.ownerGid = peer.gid ∧ spec.ownerUid ≠ 0

namespace IpcService

variable (service : IpcService) {peer : PeerCredentials}

/-- What a request asks of the job manager, if anything. -/
def handsOver (peer : PeerCredentials) (request : IpcRequest) : Option ClientRequest :=
  match request.kind with
  | .submit => (service.admitSubmit peer request.submit).toOption.map .submit
  | .cancel => (service.admitCancel peer request.cancel.jobId).toOption.map fun jobId => .cancel ⟨jobId⟩
  | _ => none

/-- The job manager is asked for nothing but what is handed over. -/
theorem handle_eq (control : JobControl) (peer : PeerCredentials) (request : IpcRequest) :
    service.handle control peer request =
      match service.handsOver peer request with
      | some (.submit spec) => submitResponse (control.submitJob spec)
      | some (.cancel id) => cancelResponse (control.cancelJob id.value)
      | none => service.handle stoppedControl peer request := by
  cases kind : request.kind with
  | submit =>
    simp only [handle, handsOver, kind, handleSubmit]
    cases service.admitSubmit peer request.submit with
    | error | ok => rfl
  | cancel =>
    simp only [handle, handsOver, kind, handleCancel]
    cases service.admitCancel peer request.cancel.jobId with
    | error | ok => rfl
  | ps | queue | gpu | logs | logsFollow | tensorboard | inspect => simp only [handle, handsOver, kind]

variable {service}

theorem admitSubmit_owned {request : IpcSubmitRequest} {spec : JobSpec}
    (admitted : service.admitSubmit peer request = .ok spec) : spec.OwnedBy peer := by
  obtain ⟨placement, _, rest⟩ := bind_eq_ok.mp admitted
  obtain ⟨checked, same⟩ := unit_bind_eq_ok.mp rest
  have valid := mapError_eq_ok.mp checked
  have common : (service.submittedSpec peer request placement).ownerUid ≠ 0 := (guard_bind_eq_ok.mp valid).1
  cases same
  exact ⟨rfl, rfl, common⟩

theorem admitCancel_allowed {snapshot : StateSnapshot} {jobId delegated : UInt64} (load : service.load = .ok snapshot)
    (admitted : service.admitCancel peer jobId = .ok delegated) :
    ∃ record ∈ snapshot.jobs, record.id = ⟨delegated⟩ ∧ service.config.Allows peer record.spec := by
  have same : service.loading snapshot = service := by rw [loading, ← load]
  rw [← same] at admitted
  obtain ⟨same, record, member, id, permitted⟩ := admitCancel_ok admitted
  exact ⟨record, member, same ▸ id, by simpa [permits, isAdmin, IpcServiceConfig.Allows] using permitted⟩

end IpcService

/-- A request that the service has let pass, with the peer it came from. -/
structure PeerRequest where
  peer : PeerCredentials
  request : ClientRequest

namespace PeerRequest

/-- The request is within the rights of its peer, as the jobs are stored now. -/
def Rightful (access : IpcServiceConfig) (jobs : JobTable) : PeerRequest → Prop
  | ⟨peer, .submit spec⟩ => spec.OwnedBy peer
  | ⟨peer, .cancel id⟩ => MayCancel access jobs peer id

theorem Rightful.carry {access : IpcServiceConfig} {jobs later : JobTable} {entry : PeerRequest}
    (rightful : entry.Rightful access jobs) (kept : Kept jobs later) : entry.Rightful access later := by
  obtain ⟨_, request⟩ := entry
  cases request with
  | submit => exact rightful
  | cancel id =>
    -- stored jobs stay and their specifications never change
    obtain ⟨record, found, allowed⟩ := rightful
    obtain ⟨now, atNow, spec, _⟩ := kept id record found
    exact ⟨now, atNow, spec ▸ allowed⟩

end PeerRequest

/-- The job manager with the requests that passed the service. `admitted` are on their way to the channel, `pending`
are those in the channel, in its order, and `handled` are those the worker has taken. The program does not
remember who sent a request. -/
structure Requests (σ : Type) where
  manager : JobManager σ
  admitted : List PeerRequest := []
  pending : List PeerRequest := []
  handled : List PeerRequest := []

/-- What can happen: a request reaches the service, a client thread puts one that passed into the channel, or
anything else that can happen to the manager. The channel may have more room than the commands in it tell while
the worker is busy with one. -/
inductive RequestStep
  | arrive (service : IpcService) (peer : PeerCredentials) (request : IpcRequest)
  | send (index : Nat) (room : Bool)
  | work (step : Step)

/-- What the escalation of a job and the verdict on its exit go by. -/
def SupervisedJob.UnderCancel (job : SupervisedJob) : Prop := job.cancelling = true ∨ job.grace ≠ none

namespace JobManager

variable {σ : Type} {store : StateStore σ} {limits : ValidationConfig} {content : σ → StoreState}
  {config : JobManagerConfig} {manager before after : JobManager σ} {step : Step} {id : JobId} {input : CancelInput}

/-- A job comes under cancellation when the worker handles a request to cancel it. -/
theorem step_underCancel (found : (manager.step config store step).supervised.find? id = some job)
    (cancelled : job.UnderCancel) :
    (∃ old, manager.supervised.find? id = some old ∧ old.UnderCancel) ∨
      ∃ input rest, step = .command input ∧ manager.commands = .cancel id :: rest := by
  cases step_entry found with
  | kept same => exact .inl ⟨job, same, cancelled⟩
  | launched _ _ _ _ _ _ same =>
    subst same
    rcases cancelled with flag | timer
    · cases flag
    · exact absurd rfl timer
  | cancelled input rest _ handled command => exact .inr ⟨input, rest, handled, command⟩
  | exited old _ _ was same =>
    subst same
    refine .inl ⟨old, was, cancelled.imp_right ?_⟩
    intro timer none
    exact timer (by simp [none])
  | pumped old was same =>
    subst same
    exact .inl ⟨old, was, cancelled⟩
  | escalated old _ was pending => exact .inl ⟨old, was, .inr (by simp [pending])⟩

/-- The signals sent by a step name the process in the entry of the given job. -/
def SignalsOnly (id : JobId) (before after : JobManager σ) : Prop :=
  ∃ calls, after.signalled = before.signalled ++ calls ∧ ∀ call ∈ calls, ∃ job supervisor,
    before.supervised.find? id = some job ∧ job.supervisor = some supervisor ∧ call.Names supervisor.identity

/-- A step touches the row and the entry of one job only, and signals what that
entry takes for its process. -/
structure Confined (content : σ → StoreState) (id : JobId) (before after : JobManager σ) : Prop where
  stored : OnlyJob id (content before.backend) (content after.backend)
  entries : ∀ other, other ≠ id → after.supervised.find? other = before.supervised.find? other
  signals : SignalsOnly id before after

/-- The signals sent by a step for one job name the process of no other. -/
def SparesOthers (id : JobId) (before after : JobManager σ) : Prop :=
  ∀ call ∈ after.signalled.drop before.signalled.length, ∀ other identity, other ≠ id →
    before.Supervises False other identity → ¬call.Names identity

/-- No two entries have processes with a pid or a group in common. -/
def Apart (manager : JobManager σ) : Prop :=
  ∀ id other own identity, manager.Supervises False id own → manager.Supervises False other identity → other ≠ id →
    ¬own.Touches identity

/-- A process that is spawned shares no pid and no group with one in an entry. -/
def SpawnsApart (manager : JobManager σ) (step : Step) : Prop :=
  ∀ launch ∈ manager.launching? step, ∀ identity ∈ launch.spawn.toOption, ∀ entry ∈ manager.supervised.entries,
    ∀ supervisor ∈ entry.2.supervisor, ¬supervisor.identity.Touches identity

theorem SpawnsApart.untouched {launch : LaunchInput} {own identity : ProcessIdentity}
    (spawns : manager.SpawnsApart step)
    (turn : manager.launching? step = some launch) (spawned : launch.spawn = .ok identity)
    (supervised : manager.Supervises False id own) : ¬own.Touches identity := by
  obtain ⟨job, supervisor, found, _, process, rfl⟩ := supervised
  exact spawns launch turn identity (by rw [spawned]; rfl) (id, job) (SortedMap.find?_eq_some_iff.mp found) supervisor
    process

theorem step_apart (apart : manager.Apart) (spawns : manager.SpawnsApart step) :
    (manager.step config store step).Apart := by
  intro id other own identity atId atOther different
  rcases step_supervises atId with atId | ⟨launch, turn, spawned, mapped⟩
  · rcases step_supervises atOther with atOther | ⟨launch, turn, spawned, _⟩
    · exact apart id other own identity atId atOther different
    · exact spawns.untouched turn spawned atId
  · rcases step_supervises atOther with atOther | ⟨_, again, same, elsewhere⟩
    · rintro ⟨target, here, there⟩
      exact spawns.untouched turn spawned atOther ⟨target, there, here⟩
    · cases turn.symm.trans again
      cases spawned.symm.trans same
      exact absurd (Option.some.inj (elsewhere.symm.trans mapped)) different

theorem SignalsOnly.spares (only : SignalsOnly id before after) (apart : before.Apart) :
    SparesOthers id before after := by
  obtain ⟨calls, signals, names⟩ := only
  intro call sent other identity different supervised named
  rw [signals, drop_left] at sent
  obtain ⟨job, supervisor, found, own, here⟩ := names call sent
  exact apart id other supervisor.identity identity ⟨job, supervisor, found, nofun, own, rfl⟩ supervised different
    ⟨call.target, here, named⟩

theorem Begun.signalsOnly (begun : Begun input id before after) : SignalsOnly id before after := by
  cases begun with
  | ignored same => exact ⟨[], by rw [same, append_nil], nofun⟩
  | signalled job _ supervisor found own _ _ same =>
    refine ⟨(supervisor.requestCancel input.kill.group input.kill.leader input.now).2.1, ?_, ?_⟩
    · rw [same, sendSignals_signalled]
      rfl
    · intro _ sent
      exact ⟨job, supervisor, found, own, ProcessSupervisor.names_of_mem_requestCancel sent⟩

theorem Begun.entries (begun : Begun input id before after) :
    ∀ other, other ≠ id → after.supervised.find? other = before.supervised.find? other := by
  intro _ different
  cases begun with
  | ignored same => rw [same]
  | signalled _ _ _ _ _ _ _ same =>
    rw [same]
    exact SortedMap.find?_insert_of_ne _ _ different

theorem processCancel_confined (faithful : Faithful limits store content) (input : CancelInput) (id : JobId)
    (manager : JobManager σ) (inv : StoreInvariant limits (content manager.backend)) :
    Confined content id manager (manager.processCancel store input id) := by
  obtain ⟨backend, _, _, middle, same, writes, begun⟩ := processCancel_cases faithful input id inv
  have silent : (manager.processCancel store input id).signalled = middle.signalled := by
    rw [same]
    simp [signalled, emit, Effect.signal?]
  obtain ⟨calls, signals, named⟩ := begun.signalsOnly
  refine ⟨?_, ?_, calls, silent.trans signals, named⟩
  · rw [same]
    change OnlyJob id (content manager.backend) (content middle.backend)
    rw [begun.backend]
    exact writes.onlyJob inv
  · intro other different
    rw [same]
    exact begun.entries other different

/-- The escalation signals the process of a job that is under cancellation, or nobody. -/
theorem runEscalation_signals {kill : KillInput} {now : TimePoint} (manager : JobManager σ) :
    let after := manager.runEscalation kill now id
    SignalsOnly id manager after ∧ (after.signalled ≠ manager.signalled →
      ∃ job, manager.supervised.find? id = some job ∧ job.UnderCancel) := by
  have idle : SignalsOnly id manager manager := ⟨[], (append_nil _).symm, nofun⟩
  unfold runEscalation
  split
  · exact ⟨idle, fun sent => absurd rfl sent⟩
  · rename_i job found
    split
    · rename_i supervisor pending own
      refine ⟨⟨(supervisor.escalate kill.group kill.leader now).2, ?_, ?_⟩, fun _ => ⟨job, found, .inr ?_⟩⟩
      · rw [sendSignals_signalled]
        rfl
      · intro _ sent
        exact ⟨job, supervisor, found, own, ProcessSupervisor.names_of_mem_escalate sent⟩
      · rw [pending]
        exact Option.some_ne_none _
    · exact ⟨idle, fun sent => absurd rfl sent⟩

theorem exitVerdict_cancelled {cancelling : Bool} {event : ExitEvent}
    (cancelled : (exitVerdict cancelling event).1 = .cancelled) : cancelling = true := by
  by_contra other
  unfold exitVerdict at cancelled
  rw [if_neg other] at cancelled
  split at cancelled
  · cases cancelled
  · split at cancelled
    · cases cancelled
    · split at cancelled
      · cases cancelled
      · cases cancelled

/-- An exit cancels a job that is under cancellation. -/
theorem handleExit_cancelled (faithful : Faithful limits store content) {input : ExitInput} {later : StoredJob}
    (inv : StoreInvariant limits (content manager.backend))
    (before : (content manager.backend).jobs.find? id = some record) (other : record.state ≠ .cancelled)
    (after : (content (manager.handleExit config store input).backend).jobs.find? id = some later)
    (cancelled : later.state = .cancelled) : ∃ job, manager.supervised.find? id = some job ∧ job.UnderCancel := by
  have unchanged : (content manager.backend).jobs.find? id ≠ some later := by
    rw [before]
    intro same
    exact other (Option.some.inj same ▸ cancelled)
  unfold handleExit at after
  split at after
  · exact absurd after unchanged
  · rename_i event rest _
    let drained := { manager with monitor := { manager.monitor with events := rest } }
    have handled : ExitHandled store input event drained (drained.processExit config store input event) :=
      processExit_handled config input event drained
    cases handled with
    | unmapped _ same | unsupervised _ _ _ same =>
      rw [same] at after
      exact absurd after unchanged
    | closed target job _ found backend =>
      rw [backend] at after
      have outcome := rewriteJob_outcome faithful inv target
        (exitRecord event (exitVerdict job.cancelling event) job.leasedGpu input.endClock)
      cases outcome with
      | refused _ same =>
        rw [same] at after
        exact absurd after unchanged
      | accepted attempt current _ atCurrent run =>
        have moved := (exitRecord event (exitVerdict job.cancelling event) job.leasedGpu input.endClock attempt
          current).rewritten run
        rw [moved.jobs, SortedMap.find?_insert, exitRecord_id, inv.jobKeys target current atCurrent] at after
        split at after
        · rename_i here
          subst here
          have own : current = record := Option.some.inj (atCurrent.symm.trans before)
          have same := Option.some.inj after
          by_cases ended : current.state.isTerminal = true
          · rw [exitRecord, if_pos ended] at same
            rw [← same] at cancelled
            exact absurd cancelled (own ▸ other)
          · rw [exitRecord, if_neg ended] at same
            rw [← same] at cancelled
            exact ⟨job, found, .inl (exitVerdict_cancelled cancelled)⟩
        · exact absurd after unchanged

end JobManager

namespace Requests

variable {rest : List Command}

section Steps

variable {σ : Type} (config : JobManagerConfig) (store : StateStore σ)

def arrive (service : IpcService) (peer : PeerCredentials) (request : IpcRequest) (state : Requests σ) : Requests σ :=
  match service.handsOver peer request with
  | some passed => { state with admitted := state.admitted ++ [⟨peer, passed⟩] }
  | none => state

def send (index : Nat) (room : Bool) (state : Requests σ) : Requests σ :=
  match state.admitted[index]? with
  | none => state
  | some entry =>
    let left := { state with admitted := state.admitted.eraseIdx index }
    if room then
      { left with
        manager := { state.manager with commands := state.manager.commands ++ [entry.request.command] }
        pending := state.pending ++ [entry] }
    else left

/-- Requests come from peers only. The first request of the channel is taken when the worker handles it, and
those that are left are refused at the stop. -/
def work (step : Step) (state : Requests σ) : Requests σ :=
  if !state.manager.running then state
  else
    let next := { state with manager := state.manager.step config store step }
    match step, state.manager.commands with
    | .post _, _ => state
    | .stop, _ => { next with pending := [] }
    | .command _, .submit _ :: _ | .command _, .cancel _ :: _ =>
      { next with pending := state.pending.tail, handled := state.handled ++ state.pending.head?.toList }
    | _, _ => next

def step (state : Requests σ) : RequestStep → Requests σ
  | .arrive service peer request => state.arrive service peer request
  | .send index room => state.send index room
  | .work step => state.work config store step

def run (state : Requests σ) (steps : List RequestStep) : Requests σ := steps.foldl (step config store) state

end Steps

section Channel

variable {σ : Type} {store : StateStore σ} {limits : ValidationConfig} {content : σ → StoreState}
  {config : JobManagerConfig} {state : Requests σ} {step : Step} {request : ClientRequest}

/-- The requests of clients in a channel. -/
def clients (commands : List Command) : List ClientRequest :=
  commands.filterMap fun
    | .submit spec => some (.submit spec)
    | .cancel id => some (.cancel id)
    | .wake _ => none

theorem clients_append (first second : List Command) : clients (first ++ second) = clients first ++ clients second :=
  filterMap_append

theorem clients_wakes {wakes : List SchedulerTrigger} : clients (wakes.map .wake) = [] := by
  rw [clients, filterMap_map]
  exact filterMap_eq_nil_iff.mpr fun _ _ => rfl

theorem clients_command : clients (request.command :: rest) = request :: clients rest := by
  cases request with
  | submit | cancel => rfl

/-- The first request of the channel is the first of those that are remembered. -/
theorem pending_head (channel : clients state.manager.commands = state.pending.map (·.request))
    (command : state.manager.commands = request.command :: rest) :
    ∃ peer others, state.pending = ⟨peer, request⟩ :: others := by
  rw [command, clients_command] at channel
  cases pending : state.pending with
  | nil =>
    rw [pending] at channel
    cases channel
  | cons entry others =>
    rw [pending, map_cons] at channel
    have own : request = entry.request := (cons.inj channel).1
    exact ⟨entry.peer, others, by rw [own]⟩

end Channel

section Runs

variable {σ : Type} {store : StateStore σ} {limits : ValidationConfig} {content : σ → StoreState}
  {config : JobManagerConfig} {access : IpcServiceConfig} {first : JobManager σ} {state next : Requests σ} {id : JobId}
  {peer : PeerCredentials} {service : IpcService} {request : IpcRequest}

/-- The service has the given rules of access, and what it reads is what the store held at some moment since the
start. -/
def Timely (limits : ValidationConfig) (content : σ → StoreState) (access : IpcServiceConfig) (first : JobManager σ)
    (state : Requests σ) : RequestStep → Prop
  | .arrive service _ _ => service.config = access ∧ ∀ snapshot, service.load = .ok snapshot →
      ∃ seen, Journal limits (content first.backend) seen ∧ Journal limits seen (content state.manager.backend) ∧
        snapshot = seen.snapshot
  | _ => True

def Known (state : Requests σ) (entry : PeerRequest) : Prop :=
  entry ∈ state.admitted ∨ entry ∈ state.pending ∨ entry ∈ state.handled

/-- The job was under cancellation at the start, or a request to cancel it was handled since. -/
def Asked (first : JobManager σ) (state : Requests σ) (id : JobId) : Prop :=
  (∃ peer, ⟨peer, .cancel id⟩ ∈ state.handled) ∨
    ∃ job, first.supervised.find? id = some job ∧ job.UnderCancel

structure Sound (limits : ValidationConfig) (content : σ → StoreState) (access : IpcServiceConfig)
    (first : JobManager σ) (state : Requests σ) : Prop where
  grounded : Grounded limits content state.manager
  journal : Journal limits (content first.backend) (content state.manager.backend)
  channel : clients state.manager.commands = state.pending.map (·.request)
  rightful : ∀ entry, state.Known entry → entry.Rightful access (content state.manager.backend).jobs
  asked : ∀ id job, state.manager.supervised.find? id = some job → job.UnderCancel → Asked first state id

theorem Asked.mono (asked : Asked first state id) (handled : ∀ entry ∈ state.handled, entry ∈ next.handled) :
    Asked first next id := by
  rcases asked with ⟨peer, member⟩ | early
  · exact .inl ⟨peer, handled _ member⟩
  · exact .inr early

/-- What a request hands over is within the rights of its peer. -/
theorem handsOver_rightful {passed : ClientRequest} (inv : StoreInvariant limits (content first.backend))
    (timely : Timely limits content access first state (.arrive service peer request))
    (handed : service.handsOver peer request = some passed) :
    PeerRequest.Rightful access (content state.manager.backend).jobs ⟨peer, passed⟩ := by
  obtain ⟨rules, reads⟩ := timely
  unfold handsOver at handed
  split at handed
  · cases admitted : service.admitSubmit peer request.submit with
    | error =>
      rw [admitted] at handed
      cases handed
    | ok =>
      rw [admitted] at handed
      cases handed
      exact admitSubmit_owned admitted
  · cases admitted : service.admitCancel peer request.cancel.jobId with
    | error =>
      rw [admitted] at handed
      cases handed
    | ok jobId =>
      rw [admitted] at handed
      cases handed
      cases load : service.load with
      | error =>
        rw [admitCancel, load] at admitted
        cases admitted
      | ok snapshot =>
        obtain ⟨seen, early, late, same⟩ := reads snapshot load
        obtain ⟨record, member, id, allowed⟩ := admitCancel_allowed load admitted
        rw [same] at member
        have found := (early.invariant inv).mem_snapshot.mp member
        rw [id] at found
        have then' : PeerRequest.Rightful access seen.jobs ⟨peer, .cancel ⟨jobId⟩⟩ :=
          ⟨record, found, rules ▸ allowed⟩
        exact then'.carry late.kept
  · cases handed

/-- A step of the manager keeps the rights of the requests that are still known. -/
theorem Sound.worked (faithful : Faithful limits store content) (sound : Sound limits content access first state)
    (config : JobManagerConfig) (step : Step)
    (manager : next.manager = state.manager.step config store step)
    (channel : clients next.manager.commands = next.pending.map (·.request))
    (known : ∀ entry, next.Known entry → state.Known entry)
    (handled : ∀ entry ∈ state.handled, entry ∈ next.handled)
    (cancel : ∀ input id rest, step = .command input → state.manager.commands = .cancel id :: rest →
      Asked first next id) : Sound limits content access first next := by
  have moves := (step_moves faithful config step sound.grounded).journal
  refine ⟨?_, ?_, channel, ?_, ?_⟩
  · rw [manager]
    exact step_grounded faithful config step sound.grounded
  · rw [manager]
    exact sound.journal.trans moves
  · intro entry here
    rw [manager]
    exact (sound.rightful entry (known entry here)).carry moves.kept
  · intro id _ found cancelled
    rw [manager] at found
    rcases step_underCancel found cancelled with ⟨old, was, already⟩ | ⟨input, rest, turn, command⟩
    · exact (sound.asked id old was already).mono handled
    · exact cancel input id rest turn command

section Work

variable (faithful : Faithful limits store content) (sound : Sound limits content access first state)
  (config : JobManagerConfig)
include faithful sound

theorem Sound.quiet (step : Step)
    (kept : clients (state.manager.step config store step).commands = clients state.manager.commands)
    (unasked : ∀ input id rest, step = .command input → state.manager.commands ≠ .cancel id :: rest) :
    Sound limits content access first { state with manager := state.manager.step config store step } := by
  refine sound.worked faithful config step rfl (kept.trans sound.channel) (fun _ known => known)
    (fun _ member => member) ?_
  intro input id rest turn command
  exact absurd command (unasked input id rest turn)

/-- The request at the head of the channel goes over to the handled ones. -/
theorem Sound.took (input : CommandInput) (running : state.manager.running = true) (request : ClientRequest)
    (was : state.manager.commands = request.command :: rest) :
    Sound limits content access first { state with
      manager := state.manager.step config store (.command input)
      pending := state.pending.tail
      handled := state.handled ++ state.pending.head?.toList } := by
  obtain ⟨wakes, left⟩ : ∃ wakes : List SchedulerTrigger,
      (state.manager.step config store (.command input)).commands = rest ++ wakes.map .wake := by
    cases step_channel faithful config (.command input) sound.grounded.stored running with
    | kept _ idle => simp [Step.takes, was] at idle
    | taken _ _ _ wakes _ now left =>
      cases was.symm.trans now
      exact ⟨wakes, left⟩
    | posted _ turn | emptied turn => cases turn
  obtain ⟨peer, others, head⟩ := pending_head sound.channel was
  rw [head]
  refine sound.worked faithful config _ rfl ?_ ?_ (fun _ member => mem_append_left _ member) ?_
  · have whole := sound.channel
    rw [was, clients_command, head, map_cons] at whole
    rw [left, clients_append, clients_wakes, append_nil]
    exact (cons.inj whole).2
  · rintro _ (admitted | pending | handled)
    · exact .inl admitted
    · exact .inr (.inl (by rw [head]; exact mem_cons_of_mem _ pending))
    · rcases mem_append.mp handled with earlier | now
      · exact .inr (.inr earlier)
      · exact .inr (.inl (by rw [head, mem_singleton.mp now]; exact mem_cons_self ..))
  · intro _ id _ _ cancel
    have own : request = .cancel id := by
      rw [was] at cancel
      cases request with
      | submit => cases cancel
      | cancel => cases cancel; rfl
    exact .inl ⟨peer, mem_append_right _ (by rw [own]; exact mem_singleton_self _)⟩

theorem Sound.work (step : Step) : Sound limits content access first (state.work config store step) := by
  unfold Requests.work
  split
  · exact sound
  · rename_i runs
    have running : state.manager.running = true := by simpa using runs
    simp only
    split
    · exact sound
    · refine sound.worked faithful config .stop rfl ?_ ?_ (fun _ member => member) ?_
      · rw [step_of_running running]
        rfl
      · rintro _ (admitted | pending | handled)
        · exact .inl admitted
        · cases pending
        · exact .inr (.inr handled)
      · intro _ _ _ turn
        cases turn
    · rename_i input spec _ was
      exact sound.took faithful config input running (.submit spec) was
    · rename_i input id _ was
      exact sound.took faithful config input running (.cancel id) was
    · rename_i unposted unstopped unsubmitted uncancelled
      refine sound.quiet faithful config _ ?_ uncancelled
      cases step_channel faithful config _ sound.grounded.stored running with
      | kept _ _ posted => rw [posted, clients_append, clients_wakes, append_nil]
      | taken input command rest _ turn was left =>
        cases command with
        | submit spec => exact (unsubmitted input spec rest turn was).elim
        | cancel id => exact (uncancelled input id rest turn was).elim
        | wake =>
          rw [left, was, clients_append, clients_wakes, append_nil]
          rfl
      | posted request turn => exact (unposted request turn).elim
      | emptied turn => exact (unstopped turn).elim

end Work

theorem Sound.arrive (sound : Sound limits content access first state)
    (inv : StoreInvariant limits (content first.backend))
    (timely : Timely limits content access first state (.arrive service peer request)) :
    Sound limits content access first (state.arrive service peer request) := by
  unfold Requests.arrive
  split
  · rename_i handed
    have rightful := handsOver_rightful inv timely handed
    refine ⟨sound.grounded, sound.journal, sound.channel, ?_, sound.asked⟩
    rintro entry (admitted | later)
    · rcases mem_append.mp admitted with earlier | now
      · exact sound.rightful entry (.inl earlier)
      · rw [mem_singleton.mp now]
        exact rightful
    · exact sound.rightful entry (.inr later)
  · exact sound

theorem Sound.send (sound : Sound limits content access first state) (index : Nat) (room : Bool) :
    Sound limits content access first (state.send index room) := by
  unfold Requests.send
  split
  · exact sound
  · rename_i entry found
    have member : entry ∈ state.admitted := mem_of_getElem? found
    split
    · refine ⟨⟨sound.grounded.stored, sound.grounded.busy⟩, sound.journal, ?_, ?_, sound.asked⟩
      · rw [clients_append, sound.channel, map_append]
        exact congrArg _ clients_command
      · rintro other (admitted | pending | handled)
        · exact sound.rightful other (.inl (mem_of_mem_eraseIdx admitted))
        · rcases mem_append.mp pending with earlier | now
          · exact sound.rightful other (.inr (.inl earlier))
          · exact sound.rightful other (.inl (by rw [mem_singleton.mp now]; exact member))
        · exact sound.rightful other (.inr (.inr handled))
    · refine ⟨sound.grounded, sound.journal, sound.channel, ?_, sound.asked⟩
      rintro other (admitted | later)
      · exact sound.rightful other (.inl (mem_of_mem_eraseIdx admitted))
      · exact sound.rightful other (.inr later)

theorem Sound.step (faithful : Faithful limits store content) (sound : Sound limits content access first state)
    (config : JobManagerConfig) (inv : StoreInvariant limits (content first.backend)) {step : RequestStep}
    (timely : Timely limits content access first state step) :
    Sound limits content access first (state.step config store step) := by
  cases step with
  | arrive => exact sound.arrive inv timely
  | send index room => exact sound.send index room
  | work step => exact sound.work faithful config step

theorem Sound.initial (grounded : Grounded limits content first) (unused : clients first.commands = []) :
    Sound limits content access first { manager := first } := by
  refine ⟨grounded, .refl, unused, ?_, ?_⟩
  · rintro _ (admitted | pending | handled)
    · cases admitted
    · cases pending
    · cases handled
  · intro _ job found cancelled
    exact .inr ⟨job, found, cancelled⟩

/-- A peer that may cancel the job now has asked for it, or its cancellation is older than the run. -/
def Authorized (content : σ → StoreState) (access : IpcServiceConfig) (first : JobManager σ) (state : Requests σ)
    (id : JobId) : Prop :=
  (∃ peer, ⟨peer, .cancel id⟩ ∈ state.handled ∧ MayCancel access (content state.manager.backend).jobs peer id) ∨
    ∃ job, first.supervised.find? id = some job ∧ job.UnderCancel

/-- What requests can bring about in a state. A request to cancel a job takes effect when the worker handles it,
when its escalation is due and when the process exits. -/
structure Justified (config : JobManagerConfig) (store : StateStore σ) (content : σ → StoreState)
    (access : IpcServiceConfig) (first : JobManager σ) (state : Requests σ) : Prop where
  cancel : ∀ input id rest, state.manager.commands = .cancel id :: rest →
    (∃ peer others, state.pending = ⟨peer, .cancel id⟩ :: others ∧
      MayCancel access (content state.manager.backend).jobs peer id) ∧
    Confined content id state.manager (state.step config store (.work (.command input))).manager
  escalation : ∀ id kill now,
    let after := (state.step config store (.work (.escalation id kill now))).manager
    SignalsOnly id state.manager after ∧
      (after.signalled ≠ state.manager.signalled → Authorized content access first state id)
  exit : ∀ input id record later,
    (content state.manager.backend).jobs.find? id = some record → record.state ≠ .cancelled →
    (content (state.step config store (.work (.exit input))).manager.backend).jobs.find? id = some later →
    later.state = .cancelled → Authorized content access first state id
  creation : ∀ step id record, (content state.manager.backend).jobs.find? id = none →
    (content (state.step config store step).manager.backend).jobs.find? id = some record →
    ∃ input spec rest peer others, step = .work (.command input) ∧ state.manager.commands = .submit spec :: rest ∧
      state.pending = ⟨peer, .submit spec⟩ :: others ∧ record.spec.OwnedBy peer
  others : ∀ (service : IpcService) peer request, request.kind ≠ .submit → request.kind ≠ .cancel →
    state.step config store (.arrive service peer request) = state ∧
      ∀ control other, service.handle control peer request = service.handle other peer request

theorem Sound.authorized (sound : Sound limits content access first state)
    (found : state.manager.supervised.find? id = some job) (cancelled : job.UnderCancel) :
    Authorized content access first state id := by
  rcases sound.asked id job found cancelled with ⟨peer, member⟩ | early
  · exact .inl ⟨peer, member, sound.rightful _ (.inr (.inr member))⟩
  · exact .inr early

theorem arrive_manager : (state.arrive service peer request).manager = state.manager := by
  unfold Requests.arrive
  split <;> rfl

theorem send_backend (index : Nat) (room : Bool) : (state.send index room).manager.backend = state.manager.backend := by
  unfold Requests.send
  split
  · rfl
  · split <;> rfl

/-- The manager after a step of one of its own threads. -/
theorem work_manager {step : Step} (own : ∀ request, step ≠ .post request) :
    (state.work config store step).manager = state.manager.step config store step := by
  unfold work
  split
  · rename_i stopped
    exact (step_of_stopped (by simpa using stopped) step).symm
  · split
    · exact absurd rfl (own _)
    · rfl
    · rfl
    · rfl
    · rfl

section

variable (faithful : Faithful limits store content) (sound : Sound limits content access first state)
include faithful sound

theorem Sound.cancel (config : JobManagerConfig) (input : CommandInput)
    (command : state.manager.commands = .cancel id :: rest) :
    (∃ peer others, state.pending = ⟨peer, .cancel id⟩ :: others ∧
      MayCancel access (content state.manager.backend).jobs peer id) ∧
    Confined content id state.manager (state.step config store (.work (.command input))).manager := by
  have request : state.manager.commands = (ClientRequest.cancel id).command :: rest := command
  obtain ⟨peer, others, head⟩ := pending_head sound.channel request
  have allowed := sound.rightful ⟨peer, .cancel id⟩ (.inr (.inl (by rw [head]; exact mem_cons_self ..)))
  refine ⟨⟨peer, others, head, allowed⟩, ?_⟩
  rw [Requests.step, work_manager (by simp)]
  cases running : state.manager.running with
  | false =>
    rw [step_of_stopped running]
    exact ⟨.refl id _, fun _ _ => rfl, [], (append_nil _).symm, nofun⟩
  | true =>
    rw [step_of_running running, perform, handleCommand, command]
    obtain ⟨stored, entries, signals⟩ := processCancel_confined faithful input.cancel id
      { state.manager with commands := rest } sound.grounded.stored
    exact ⟨stored, entries, signals⟩

theorem Sound.creation (config : JobManagerConfig) (step : RequestStep)
    (absent : (content state.manager.backend).jobs.find? id = none)
    (found : (content (state.step config store step).manager.backend).jobs.find? id = some record) :
    ∃ input spec rest peer others, step = .work (.command input) ∧ state.manager.commands = .submit spec :: rest ∧
      state.pending = ⟨peer, .submit spec⟩ :: others ∧ record.spec.OwnedBy peer := by
  have unchanged : (content state.manager.backend).jobs.find? id ≠ some record := by
    rw [absent]
    exact nofun
  cases step with
  | arrive =>
    rw [Requests.step, arrive_manager] at found
    exact absurd found unchanged
  | send =>
    rw [Requests.step, send_backend] at found
    exact absurd found unchanged
  | work step =>
    have wrote : (content (state.manager.step config store step).backend).jobs.find? id = some record := by
      by_cases posted : ∃ request, step = .post request
      · obtain ⟨request, same⟩ := posted
        subst same
        have idle : state.work config store (.post request) = state := by simp [Requests.work]
        rw [Requests.step, idle] at found
        exact absurd found unchanged
      · rwa [Requests.step, work_manager (not_exists.mp posted)] at found
    obtain ⟨input, rest, turn, command⟩ := step_adds faithful config step sound.grounded id record absent wrote
    have request : state.manager.commands = (ClientRequest.submit record.spec).command :: rest := command
    obtain ⟨peer, others, head⟩ := pending_head sound.channel request
    refine ⟨input, record.spec, rest, peer, others, by rw [turn], command, head, ?_⟩
    exact sound.rightful ⟨peer, .submit record.spec⟩ (.inr (.inl (by rw [head]; exact mem_cons_self ..)))

theorem Sound.justified (config : JobManagerConfig) : Justified config store content access first state := by
  refine ⟨?_, ?_, ?_, ?_, ?_⟩
  · intro input _ _ command
    exact sound.cancel faithful config input command
  · intro id kill now
    rw [Requests.step, work_manager (by simp)]
    cases running : state.manager.running with
    | false =>
      rw [step_of_stopped running]
      exact ⟨⟨[], (append_nil _).symm, nofun⟩, fun sent => absurd rfl sent⟩
    | true =>
      rw [step_of_running running]
      obtain ⟨only, due⟩ := runEscalation_signals state.manager
      refine ⟨only, ?_⟩
      intro sent
      obtain ⟨_, found, cancelled⟩ := due sent
      exact sound.authorized found cancelled
  · intro input _ _ _ before other after cancelled
    rw [Requests.step, work_manager (by simp)] at after
    cases running : state.manager.running with
    | false =>
      rw [step_of_stopped running, before] at after
      exact absurd (Option.some.inj after ▸ cancelled) other
    | true =>
      rw [step_of_running running] at after
      obtain ⟨_, found, under⟩ := handleExit_cancelled faithful sound.grounded.stored before
        other after cancelled
      exact sound.authorized found under
  · intro step _ _ absent found
    exact sound.creation faithful config step absent found
  · intro service peer request submits cancels
    have nothing : service.handsOver peer request = none := by
      unfold handsOver
      split
      · rename_i kind
        exact absurd kind submits
      · rename_i kind
        exact absurd kind cancels
      · rfl
    refine ⟨?_, ?_⟩
    · rw [Requests.step, Requests.arrive, nothing]
    · intro control other
      rw [service.handle_eq control, service.handle_eq other, nothing]

end

/-- The step carries on a cancellation of the job that was asked for. -/
def Cancels (state : Requests σ) (id : JobId) (step : Step) : Prop :=
  (∃ input rest, step = .command input ∧ state.manager.commands = .cancel id :: rest) ∨
    ∃ kill now, step = .escalation id kill now

/-- What is asked of the processes that the manager starts. -/
def SpawnsApart (state : Requests σ) : RequestStep → Prop
  | .work step => state.manager.SpawnsApart step
  | _ => True

instance decidableSpawnsApart (state : Requests σ) (step : RequestStep) : Decidable (state.SpawnsApart step) := by
  delta SpawnsApart JobManager.SpawnsApart
  rcases step with _ | _ | _ <;> infer_instance

theorem apart_step {step : RequestStep} (spawns : state.SpawnsApart step) (apart : state.manager.Apart) :
    (state.step config store step).manager.Apart := by
  cases step with
  | arrive =>
    rw [Requests.step, arrive_manager]
    exact apart
  | send =>
    simp only [Requests.step, Requests.send]
    split
    · exact apart
    · split
      · exact apart
      · exact apart
  | work step =>
    by_cases posted : ∃ request, step = .post request
    · obtain ⟨request, rfl⟩ := posted
      simpa [Requests.step, Requests.work] using apart
    · rw [Requests.step, work_manager (not_exists.mp posted)]
      exact step_apart apart spawns

theorem Justified.spares {step : Step} (justified : Justified config store content access first state)
    (apart : state.manager.Apart) (cancels : state.Cancels id step) :
    SparesOthers id state.manager (state.step config store (.work step)).manager := by
  rcases cancels with ⟨input, rest, rfl, command⟩ | ⟨kill, now, rfl⟩
  · exact (justified.cancel input id rest command).2.signals.spares apart
  · exact (justified.escalation id kill now).1.spares apart

/-- Whatever the order in which requests arrive, enter the channel and are handled, nothing is done on behalf of a
peer that it has no right to when it is done. As long as no process is given the numbers of one in an entry, no
other job's process is signalled for a request either. -/
theorem requests_justified (faithful : Faithful limits store content) (config : JobManagerConfig)
    (access : IpcServiceConfig) (manager : JobManager σ) (inv : StoreInvariant limits (content manager.backend))
    (unsupervised : manager.supervised = .empty) (unused : manager.commands = []) (input : StartInput)
    (recovery : Option RecoveryResult) (steps : List RequestStep) :
    let first := (manager.start config store input recovery).2
    let started : Requests σ := { manager := first }
    let reached := started.run config store steps
    Guarded.Along (step config store) (Timely limits content access first) started steps →
      Justified config store content access first reached ∧
      (first.Apart → Guarded.Along (step config store) SpawnsApart started steps →
        ∀ id step, reached.Cancels id step →
          SparesOthers id reached.manager (reached.step config store (.work step)).manager) := by
  intro first started reached timely
  have base := Grounded.of_unsupervised inv unsupervised
  have grounded : Grounded limits content first :=
    start_grounded faithful config input recovery base
  obtain ⟨wakes, commands⟩ := start_commands faithful config input recovery base unused
  have quiet : clients first.commands = [] := by
    rw [show first.commands = _ from commands]
    exact clients_wakes
  have sound := Guarded.foldl_invariant (Sound limits content access first)
    (fun _ _ timely sound => sound.step faithful config grounded.stored timely) timely (.initial grounded quiet)
  have justified : Justified config store content access first reached := sound.justified faithful config
  refine ⟨justified, fun apart spawns id step cancels => justified.spares ?_ cancels⟩
  exact Guarded.foldl_invariant (·.manager.Apart) (fun _ _ spawns apart => apart_step spawns apart) spawns apart

end Runs

/-- The service as it reads the two queued jobs, of the users 1000 and 1001. -/
def twoQueuedService : IpcService := { load := .ok twoQueuedStarted.backend.state.snapshot, now := 2 }

def owner : PeerCredentials := ⟨1000, 1000, 1⟩

def idle : Step := .command { schedule := { launch := { spawn := .error { code := .forkFailed } } } }

/-- The owner of the first job asks to cancel it and submits another one. Before
the first request enters the channel the first job is launched and exits, and
the second is launched. -/
def lateCancel (second : ProcessIdentity) : List RequestStep :=
  [.arrive twoQueuedService owner { kind := .cancel, cancel := ⟨1⟩ },
    .arrive twoQueuedService owner { submit := { argv := [.ascii "train"], cwd := .ascii "/" } }, .send 1 true,
    .work (.command (launching ⟨100, 100, 7⟩)), .work idle,
    .work (.reaper (.scan 100 (some 7) (.reaped ⟨.exited, 0, 0⟩))), .work (.reaper .send),
    .work (.command (launching second)), .send 0 true]

/-- The pid of the first job, which is signalled for its owner, is by then the
one of the second, of another user. -/
theorem cancel_signals_other_job :
    let store := store {}
    let reached := Requests.run {} store { manager := twoQueuedStarted } (lateCancel ⟨100, 100, 8⟩)
    reached.Cancels ⟨1⟩ idle ∧ reached.pending.map (·.peer.uid) = [1000] ∧
      (reached.manager.backend.state.jobs.find? ⟨2⟩).map (fun job => (job.spec.ownerUid, job.state)) =
        some (1001, .running) ∧
      ¬SparesOthers ⟨1⟩ reached.manager (reached.step {} store (.work idle)).manager := by
  refine ⟨.inl ⟨_, [], rfl, by decide⟩, by decide, by decide, ?_⟩
  intro spares
  exact spares ⟨-100, .term⟩ (by decide) ⟨2⟩ ⟨100, 100, 8⟩ (by decide) ⟨_, _, rfl, nofun, rfl, rfl⟩ (by decide)

theorem requests_justified_owner :
    let store := store {}
    let reached := Requests.run {} store { manager := twoQueuedStarted } (lateCancel ⟨200, 200, 8⟩)
    let after := (reached.step {} store (.work idle)).manager
    after.signalled = [⟨-100, .term⟩] ∧ Justified {} store state {} twoQueuedStarted reached ∧
      SparesOthers ⟨1⟩ reached.manager after := by
  have timely : Guarded.Along (step {} (store {}))
      (Timely {} state {} twoQueuedStarted) { manager := twoQueuedStarted }
      (lateCancel ⟨200, 200, 8⟩) := by
    have reads : ∀ snapshot, twoQueuedService.load = .ok snapshot → ∃ seen, Journal {}
        twoQueuedStarted.backend.state seen ∧ Journal {} seen twoQueuedStarted.backend.state ∧
        snapshot = seen.snapshot := fun _ load => ⟨_, .refl, .refl, (Except.ok.inj load).symm⟩
    refine ⟨⟨rfl, reads⟩, ⟨rfl, ?_⟩, trivial, trivial, trivial, trivial, trivial, trivial, trivial, trivial⟩
    rw [Requests.step, arrive_manager]
    exact reads
  have apart : twoQueuedStarted.Apart := by
    rintro _ _ _ _ ⟨_, _, found, _⟩
    cases found
  obtain ⟨justified, spares⟩ := requests_justified (faithful {}) {} {} twoQueuedManager
    twoQueuedManager_grounded.stored rfl rfl {} (some twoQueuedRecovery.1) (lateCancel ⟨200, 200, 8⟩) timely
  exact ⟨by decide, justified, spares apart (by decide) ⟨1⟩ idle (.inl ⟨_, [], rfl, by decide⟩)⟩

end Requests

end Yori
