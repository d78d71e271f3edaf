import Yori.Runtime.Aligned
import Yori.Runtime.Clock
import Yori.Runtime.Journal
import Yori.Runtime.LaunchSuccess

namespace Yori
open MachineWord MutationCore JobRecovery InMemoryStateStore SortedMap ProcessSupervisor

namespace JobManager

section Worker

variable {σ : Type} {store : StateStore σ} {limits : ValidationConfig} {content : σ → StoreState}
  {config : JobManagerConfig} {id : JobId} {manager : JobManager σ} {job : SupervisedJob} {record : StoredJob}
  {event : ExitEvent}

section Exit

variable {input : ExitInput}

/-- The state an exit leads to is one that its job can reach. -/
theorem exitVerdict_reachable (cancelling : Bool) (event : ExitEvent) :
    canTransition (if cancelling then .stopping else .running) (exitVerdict cancelling event).1 = true ∧
      leaseable (exitVerdict cancelling event).1 = false := by
  unfold exitVerdict
  cases cancelling with
  | true => exact ⟨rfl, rfl⟩
  | false =>
    simp only [Bool.false_eq_true, if_false]
    repeat' split
    all_goals exact ⟨rfl, rfl⟩

theorem exitVerdict_state (cancelling : Bool) (event : ExitEvent) :
    if cancelling then (exitVerdict cancelling event).1 = .cancelled
    else (exitVerdict cancelling event).1 = .finished ∨ (exitVerdict cancelling event).1 = .failed := by
  unfold exitVerdict
  cases cancelling with
  | true => rfl
  | false =>
    simp only [Bool.false_eq_true, if_false]
    repeat' split
    all_goals simp

/-- The write about the exit of an aligned job suits the tables. -/
theorem EntryAligned.exit_suits {state : StoreState} (aligned : EntryAligned state id job)
    (inv : StoreInvariant limits state) (unspent : Unspent state.jobs) (found : state.jobs.find? id = some record)
    (range : event.status.InRange) {clock : Nat → TimePoint} {attempt : Nat}
    (later : ∀ start ∈ record.execution.startTime, start ≤ clock attempt) :
    (exitRecord event (exitVerdict job.cancelling event) job.leasedGpu clock attempt record).Suits state record := by
  obtain ⟨row, atRow, live⟩ := aligned.row
  cases found.symm.trans atRow
  have key := inv.jobKeys id record found
  have alive : record.state.isTerminal = false := by
    rw [live]
    cases job.cancelling <;> rfl
  obtain ⟨allowed, idle⟩ := exitVerdict_reachable job.cancelling event
  have facts := StoredJob.executionValid_iff.mp (inv.jobsValid id record found).2.execution
  have valid := (facts.close_iff (exitVerdict_terminal job.cancelling event)
    (if event.identityVerified then some event.status else record.execution.exit)
    (exitVerdict job.cancelling event).2 (clock attempt)).mpr ⟨exitVerdict_reason range job.cancelling, later⟩
  simp only [exitRecord, alive, Bool.false_eq_true, if_false]
  refine ⟨by rw [key]; exact found, rfl, rfl, unspent.below found, rfl, by rw [live]; exact allowed,
    StoredJob.executionValid_iff.mpr valid, by simp, ?_⟩
  intro _ given
  cases given
  exact ⟨idle, by rw [key]; exact aligned.lease⟩

theorem processExit_backend (mapped : manager.byPid.find? event.pid = some id)
    (found : manager.supervised.find? id = some job) :
    (manager.processExit config store input event).backend = (rewriteJob store id
      (exitRecord event (exitVerdict job.cancelling event) job.leasedGpu input.endClock) manager.backend).2 := by
  simp only [processExit, mapped, found]
  split <;> rfl

/-- What an exit of the job leaves in the store: its record is closed, its
device is given up, and that is all. -/
def Closes (job : SupervisedJob) (record : StoredJob) (before after : StoreState) : Prop :=
  ∃ closed, after = ⟨before.jobs.insert record.id closed, before.leases.erase job.leasedGpu, before.revision + 1⟩ ∧
    closed.id = record.id ∧ closed.spec = record.spec ∧
    if record.state = .stopping then closed.state = .cancelled else closed.state = .finished ∨ closed.state = .failed

theorem EntryAligned.closes (reliable : Reliable limits store content)
    (aligned : EntryAligned (content manager.backend) id job) (inv : StoreInvariant limits (content manager.backend))
    (unspent : Unspent (content manager.backend).jobs) (found : (content manager.backend).jobs.find? id = some record)
    (below : (content manager.backend).revision ≠ max64) (atJob : manager.supervised.find? id = some job)
    (mapped : manager.byPid.find? event.pid = some id) (range : event.status.InRange)
    (later : ∀ start ∈ record.execution.startTime, start ≤ input.endClock 0) :
    Closes job record (content manager.backend) (content (manager.processExit config store input event).backend) := by
  let rewrite := exitRecord event (exitVerdict job.cancelling event) job.leasedGpu input.endClock 0 record
  have suits : rewrite.Suits (content manager.backend) record := aligned.exit_suits inv unspent found range later
  obtain ⟨_, tables⟩ := rewriteJob_accepted reliable inv found (suits.accepted inv below)
  obtain ⟨row, atRow, live⟩ := aligned.row
  cases found.symm.trans atRow
  have alive : record.state.isTerminal = false := by
    rw [live]
    cases job.cancelling <;> rfl
  have verdict := exitVerdict_state job.cancelling event
  rw [processExit_backend mapped atJob, tables]
  obtain ⟨target, release⟩ : rewrite.record.state = (exitVerdict job.cancelling event).1 ∧
    rewrite.release = some job.leasedGpu := by simp [rewrite, exitRecord, alive]
  refine ⟨rewrite.record, ?_, suits.id, suits.spec, ?_⟩
  · simp only [Rewrite.applied, release, suits.id]
  · rw [target, live]
    cases marked : job.cancelling with
    | true | false => simpa [marked] using verdict

end Exit

section Pids

variable {before after : JobManager σ} {step : Step}

/-- What a step can do to the map that leads from pids to jobs. A pid is
forgotten when the exit of its job is handled. -/
inductive PidChange (step : Step) (before after : JobManager σ) : Prop
  | kept (same : after.byPid = before.byPid)
  | launched (launch : LaunchInput) (identity : ProcessIdentity) (id : JobId)
      (turn : before.launching? step = some launch) (spawned : launch.spawn = .ok identity)
      (same : after.byPid = before.byPid.insert identity.pid id)
  | forgotten (pid : Int) (same : after.byPid = before.byPid.erase pid)
      (closed : ∀ id job, before.byPid.find? pid = some id → after.supervised.find? id = some job → job.exited = true)
  | emptied (unsupervised : after.supervised = .empty)

theorem PidChange.scheduled {ready : JobManager σ} {input : ScheduleInput} {trigger : SchedulerTrigger}
    (same : ready.byPid = before.byPid) (turn : before.launching? step = some input.launch) :
    PidChange step before (ready.scheduleNow config store input trigger) := by
  rcases scheduleNow_supervised ready with unchanged | ⟨id, _, identity, spawned, _, inserted⟩
  · exact .kept (unchanged.2.trans same)
  · exact .launched input.launch identity id turn spawned (by rw [inserted, same])

/-- Says once what a step does to the map of pids. -/
theorem step_pids (faithful : Faithful limits store content) (config : JobManagerConfig) (step : Step)
    (inv : StoreInvariant limits (content manager.backend)) :
    PidChange step manager (manager.step config store step) := by
  have took := step_took config store manager step
  generalize manager.step config store step = next at took ⊢
  cases took with
  | aside | posted | reaped => exact .kept rfl
  | submitted _ spec rest =>
    obtain ⟨_, _, _, frame⟩ := processSubmit_frame store spec { manager with commands := rest }
    exact .kept (by rw [frame]; rfl)
  | cancelled input id rest =>
    obtain ⟨_, _, _, _, same, _, begun⟩ :=
      @processCancel_cases _ _ _ _ { manager with commands := rest } faithful input.cancel id inv
    exact .kept (by rw [same]; exact begun.turns.1)
  | woken _ _ _ command => exact .scheduled rfl (by rw [launching?, command])
  | observed => exact .scheduled rfl rfl
  | exited _ event =>
    unfold processExit
    split
    · exact .kept rfl
    · rename_i target mapped
      split
      · rename_i missing
        refine .forgotten event.pid rfl ?_
        intro _ _ atPid found
        cases mapped.symm.trans atPid
        rw [missing] at found
        cases found
      · simp only
        split
        · refine .forgotten event.pid rfl ?_
          intro _ job atPid found
          cases mapped.symm.trans atPid
          change (manager.supervised.erase target).find? target = some job at found
          simp at found
        · refine .forgotten event.pid rfl ?_
          intro _ job atPid found
          cases mapped.symm.trans atPid
          change (manager.supervised.insert target _).find? target = some job at found
          rw [find?_insert_self] at found
          cases found
          rfl
  | pumped | escalated =>
    refine .kept ?_
    simp only [processPumpDone, runEscalation]
    repeat' split
    all_goals rfl
  | stopped => exact .emptied rfl

/-- Every process that is waited for leads to its job. -/
def Mapped (manager : JobManager σ) : Prop :=
  ∀ id identity, manager.Supervises True id identity → manager.byPid.find? identity.pid = some id

theorem step_mapped (faithful : Faithful limits store content) (inv : StoreInvariant limits (content manager.backend))
    (mapped : manager.Mapped) (fresh : manager.StepFresh step) : (manager.step config store step).Mapped := by
  intro id identity awaited
  rcases step_supervises awaited with was | ⟨_, _, _, atPid⟩
  · obtain ⟨job, _, found, alive, _⟩ := awaited
    have old := mapped id identity was
    cases step_pids faithful config step inv with
    | kept same => rwa [same]
    | launched launch _ _ turn spawned same =>
      rw [same]
      exact find?_insert_of_absent ((fresh launch turn).spawned spawned).1 old
    | forgotten target same closed =>
      have other : identity.pid ≠ target := by
        intro here
        exact Bool.noConfusion ((closed id job (here ▸ old) found).symm.trans (alive trivial))
      rw [same, find?_erase, if_neg other, old]
    | emptied unsupervised =>
      rw [unsupervised] at found
      cases found
  · exact atPid

theorem Armed.mapped {input : AdoptionInput} {outcome : RecoveryJobOutcome}
    (armed : Armed content config store input outcome before after) (fresh : AdoptsFresh content before outcome)
    (mapped : before.Mapped) : after.Mapped := by
  intro id identity awaited
  have origin := armed.supervises awaited
  cases armed with
  | skipped _ _ _ same | destroyed _ _ _ _ _ _ _ _ same =>
    rw [same] at awaited ⊢
    exact mapped id identity awaited
  | adopted backend record job _ adopted found _ taken _ _ _ same =>
    rw [same, enter_begun.turns.1]
    change (before.byPid.insert record.execution.identity.pid outcome.jobId).find? identity.pid = some id
    rcases origin with was | ⟨here, _, atRecord, rfl⟩
    · exact find?_insert_of_absent (fresh adopted record found).1 (mapped id identity was)
    · cases taken.symm.trans atRecord
      rw [here]
      exact find?_insert_self ..

theorem start_mapped (faithful : Faithful limits store content) {input : StartInput} {recovery : Option RecoveryResult}
    (inv : StoreInvariant limits (content manager.backend)) (unsupervised : manager.supervised = .empty)
    (fresh : StartFresh content config store input recovery manager) :
    (manager.start config store input recovery).2.Mapped := by
  have nothing : ∀ other : JobManager σ, other.supervised = .empty → other.Mapped := by
    intro _ empty _ _ ⟨_, _, found, _⟩
    simp [empty] at found
  refine start_rule (nothing manager unsupervised) ?_ (fun other empty _ => nothing other empty) fun _ mapped => mapped
  refine (Guarded.foldl_invariant (fun manager => StoreInvariant limits (content manager.backend) ∧ manager.Mapped) ?_
    fresh ⟨inv, nothing _ unsupervised⟩).2
  intro _ outcome fresh ⟨inv, mapped⟩
  have armed := armOutcome_armed faithful config (input.adoption outcome.jobId) outcome inv
  exact ⟨by rw [armed.backend]; exact inv, armed.mapped fresh mapped⟩

end Pids

/-- How a worker comes up: with the result of a recovery over a store with any
history, or without one. -/
inductive Boots (limits : ValidationConfig) (store : StateStore σ) (content : σ → StoreState) :
    JobManager σ → Option RecoveryResult → Prop
  | recovered (mutations : List StateMutation) (verifier : IdentityVerifier) (now : TimePoint) (queue : GlobalJobQueue)
      (backend : σ) (manager : JobManager σ) (stored : content backend = runMutations limits .initial mutations)
      (unsupervised : manager.supervised = .empty) :
      Boots limits store content
        { manager with
          backend := (recover store verifier now queue backend).2.2
          queue := (recover store verifier now queue backend).2.1 }
        (some (recover store verifier now queue backend).1)
  | unrecovered (mutations : List StateMutation) (manager : JobManager σ)
      (stored : content manager.backend = runMutations limits .initial mutations)
      (unsupervised : manager.supervised = .empty) : Boots limits store content manager none

theorem Boots.ready {recovery : Option RecoveryResult} (boots : Boots limits store content manager recovery)
    (faithful : Faithful limits store content) :
    manager.supervised = .empty ∧ StoreInvariant limits (content manager.backend) ∧
      Unspent (content manager.backend).jobs ∧
      ∀ outcome ∈ recoveredOutcomes recovery, AdoptionFits (content manager.backend) outcome := by
  cases boots with
  | unrecovered _ _ stored unsupervised =>
    rw [stored]
    exact ⟨unsupervised, runMutations_invariant _ _, runMutations_unspent _ _, by simp [recoveredOutcomes]⟩
  | recovered _ verifier now queue backend _ stored unsupervised =>
    have inv : StoreInvariant limits (content backend) := by
      rw [stored]
      exact runMutations_invariant _ _
    have unspent : Unspent (content backend).jobs := by
      rw [stored]
      exact runMutations_unspent _ _
    refine ⟨unsupervised, recover_invariant faithful inv,
      (recover_journal faithful verifier now queue backend).unspent unspent, ?_⟩
    intro outcome member
    cases code : (recover store verifier now queue backend).1.code with
    | none =>
      simp only [recoveredOutcomes, RecoveryResult.ok, code, Option.filter_some, Option.isNone_none, if_true,
        Option.map_some, Option.getD_some] at member
      exact recover_adoptionFits faithful inv code outcome member
    | some => simp [recoveredOutcomes, RecoveryResult.ok, Option.filter_some, code] at member

/-- In every state of a worker, whatever writes have failed on the way, a job
that awaits its exit runs or, exactly if it is marked so, is being stopped, and
its one lease is on the device of its entry. If no process was given a pid that
was still in use here, then the exit of its process, once handled over a store
that takes valid writes and with a clock that is not behind the start, closes the
job and gives up that device, and changes nothing else. -/
theorem exit_closes_job (faithful : Faithful limits store content) (config : JobManagerConfig)
    (recovery : Option RecoveryResult) (boots : Boots limits store content manager recovery) (input : StartInput)
    (steps : List Step) :
    let started := (manager.start config store input recovery).2
    let reached := started.run config store steps
    let state := content reached.backend
    ∀ id job, reached.supervised.find? id = some job → job.exited = false →
      ∃ record, state.jobs.find? id = some record ∧ (record.state = .running ∨ record.state = .stopping) ∧
        (record.state = .stopping ↔ job.cancelling = true) ∧
        (∀ uuid lease, state.leases.find? uuid = some lease → (lease.jobId = id ↔ uuid = job.leasedGpu)) ∧
        state.leases.find? job.leasedGpu = some ⟨job.leasedGpu, id⟩ ∧
        (StartFresh content config store input recovery manager →
          Guarded.Along (step config store) StepFresh started steps →
          ∀ (sound : StateStore σ) (event : ExitEvent) (exit : ExitInput), Reliable limits sound content →
            state.revision ≠ max64 → event.identity = record.execution.identity → event.pid = event.identity.pid →
            event.status.InRange → (∀ start ∈ record.execution.startTime, start ≤ exit.endClock 0) →
              Closes job record state (content (reached.processExit config sound exit event).backend)) := by
  intro started reached _ id job found alive
  obtain ⟨unsupervised, stored, unspent, fits⟩ := boots.ready faithful
  have grounded : Grounded limits content manager := .of_unsupervised stored unsupervised
  obtain ⟨sameContent, _⟩ := start_keeps faithful config input recovery grounded
  have begun := start_grounded faithful config input recovery grounded
  -- the invariant of the run: the store is sound, and what is supervised is aligned with it
  have kept : Grounded limits content reached ∧ Unspent (content reached.backend).jobs ∧ Aligned content reached := by
    refine List.foldlRecOn steps _ (motive := fun manager => Grounded limits content manager ∧
      Unspent (content manager.backend).jobs ∧ Aligned content manager) ?_ ?_
    · exact ⟨begun, by rw [sameContent]; exact unspent, start_aligned faithful stored fits unsupervised⟩
    · intro _ ⟨grounded, unspent, aligned⟩ step _
      exact ⟨step_grounded faithful config step grounded,
        (step_moves faithful config step grounded).journal.unspent unspent,
        step_aligned faithful config step grounded.stored aligned⟩
  obtain ⟨grounded, unspent, aligned⟩ := kept
  have here := aligned id job found alive
  obtain ⟨record, atRecord, live⟩ := here.row
  refine ⟨record, atRecord, here.not_queued atRecord, ?_, ?_, here.lease, ?_⟩
  · rw [live]
    cases job.cancelling <;> simp
  · intro uuid lease held
    constructor
    · intro own
      exact grounded.stored.leasesValid.exclusive uuid lease _ _ held here.lease own
    · intro same
      subst same
      cases held.symm.trans here.lease
      rfl
  · intro adopted launched _ event _ reliable below own pid range later
    -- the pid of the process on record leads to this job, as its pid was never given away
    obtain ⟨_, mapped⟩ : Grounded limits content reached ∧ reached.Mapped := by
      refine Guarded.foldl_invariant (fun manager => Grounded limits content manager ∧ manager.Mapped) ?_ launched
        ⟨begun, start_mapped faithful stored unsupervised adopted⟩
      intro _ step fresh ⟨grounded, mapped⟩
      exact ⟨step_grounded faithful config step grounded, step_mapped faithful grounded.stored mapped fresh⟩
    obtain ⟨supervisor, process, _⟩ := here.managed
    have atPid := mapped id _ ⟨job, supervisor, found, fun _ => alive, process, rfl⟩
    rw [here.recorded record atRecord supervisor process, ← own, ← pid] at atPid
    exact here.closes reliable grounded.stored unspent atRecord below found atPid range later

/-- The exit of a first process is the only one that waits to be handled, and it
closes the job of a second process that has its pid. The job of the first one
keeps its device. -/
theorem exit_closes_other_job :
    let memory := InMemoryStateStore.store {}
    let reached := twoQueuedStarted.run {} memory reusedPidSteps
    let after := (reached.step {} memory (.exit { endClock := fun _ => 30 })).backend.state
    (∃ record, reached.backend.state.jobs.find? ⟨1⟩ = some record ∧
      reached.monitor.events.map (·.identity) = [record.execution.identity]) ∧
      (after.jobs.find? ⟨1⟩).map (·.state) = some .running ∧
      (after.leases.find? ⟨.ascii "GPU-0"⟩).map (·.jobId) = some ⟨1⟩ ∧
      (after.jobs.find? ⟨2⟩).map (·.state) = some .finished := by
  intro memory reached _
  refine ⟨?_, by decide, by decide, by decide⟩
  have own : (reached.backend.state.jobs.find? ⟨1⟩).map (·.execution.identity) = some ⟨100, 100, 7⟩ := by decide
  obtain ⟨record, found, same⟩ := Option.map_eq_some_iff.mp own
  exact ⟨record, found, by rw [same]; decide⟩

end Worker

section Crashed

/-- The recovery of the store left by a crash, with the running process found. -/
def crashedRecovery : RecoveryResult × GlobalJobQueue × StoreState :=
  recover (plainStore {}) (fun _ => .verified) 30 (.empty 8) crashed

def crashedManager : JobManager StoreState where
  backend := crashedRecovery.2.2
  queue := crashedRecovery.2.1

def crashedStart : StartInput where
  adoption := fun _ => { registering := [.applyCommand .noChild (some 7) .noChild] }

/-- The adopted job is cancelled. -/
def cancelAdopted : List Step :=
  [.command (launching ⟨200, 200, 8⟩), .post (.cancel ⟨1⟩), .command (launching ⟨200, 200, 8⟩)]

def cancelledAdopted : JobManager StoreState :=
  (crashedManager.start {} (plainStore {}) crashedStart (some crashedRecovery.1)).2.run {} (plainStore {}) cancelAdopted

theorem cancelledAdopted_waits :
    ((cancelledAdopted.supervised.find? ⟨1⟩).any fun job => !job.exited && job.cancelling) = true ∧
      cancelledAdopted.backend.revision ≠ max64 ∧ ∀ record ∈ cancelledAdopted.backend.jobs.find? ⟨1⟩,
        record.execution.identity = ⟨100, 100, 7⟩ ∧ ∀ start ∈ record.execution.startTime, start ≤ 40 := by
  decide

theorem exit_closes_job_cancelled :
    let plain := InMemoryStateStore.plainStore {}
    let event : ExitEvent := { pid := 100, identity := ⟨100, 100, 7⟩, identityVerified := false }
    ∃ job record, cancelledAdopted.supervised.find? ⟨1⟩ = some job ∧ record.state = .stopping ∧
      Closes job record (id cancelledAdopted.backend)
        (id (cancelledAdopted.processExit {} plain { endClock := fun _ => 40 } event).backend) := by
  intro plain event
  obtain ⟨waits, below, recorded⟩ := cancelledAdopted_waits
  obtain ⟨job, found, flags⟩ := (Option.any_eq_true _ _).mp waits
  simp only [Bool.and_eq_true, Bool.not_eq_true'] at flags
  obtain ⟨record, stored, _, marked, _, _, closes⟩ := exit_closes_job
    (InMemoryStateStore.plainStore_reliable {}).toFaithful {} (some crashedRecovery.1)
    (.recovered _ (fun _ => .verified) 30 (.empty 8) JobRecovery.crashed crashedManager rfl rfl) crashedStart
    cancelAdopted ⟨1⟩ job found flags.1
  exact ⟨job, record, found, marked.mpr flags.2, closes (by decide) (by decide) plain event { endClock := fun _ => 40 }
    (InMemoryStateStore.plainStore_reliable {}) below (recorded record stored).1.symm rfl ⟨by decide, by decide⟩
    (recorded record stored).2⟩

end Crashed

end JobManager

end Yori
