import Yori.Runtime.Acceptance
import Yori.Runtime.Daemon
import Yori.Runtime.Journal
import Yori.Runtime.QueueAgreement
import Yori.Store.ExecutionSpec

namespace Yori
open Checked MachineWord MutationCore SortedMap InMemoryStateStore JobRecovery GlobalJobQueue

variable {limits : ValidationConfig} {state next : StoreState} {queue : GlobalJobQueue} {spec : JobSpec}

/-- A 64-bit counter of the store has reached its end: the revision, or the ids
of the jobs. -/
def CountersSpent (state : StoreState) : Prop := state.revision = max64 ∨ maxJobId state.snapshot = max64

theorem Counted.size_of_spent (counted : Counted state) (inv : StoreInvariant limits state)
    (spent : CountersSpent state) : 2 ^ 64 - 1 ≤ 5 * state.jobs.size := by
  rcases spent with revision | ids
  · have bound := counted.revision_le
    rw [revision, toNat_max64] at bound
    exact bound
  · have bound := counted.maxJobId_le_size inv
    rw [ids, toNat_max64] at bound
    omega

section Submission

variable {record : StoredJob}

/-- The next id is above every id in use. -/
theorem StoreInvariant.nextId_absent (inv : StoreInvariant limits state) (below : maxJobId state.snapshot ≠ max64) :
    state.jobs.find? ⟨maxJobId state.snapshot + 1⟩ = none := by
  by_contra present
  obtain ⟨record, found⟩ := Option.ne_none_iff_exists'.mp present
  have own := inv.jobKeys _ record found
  have bound : record.id.value ≤ maxJobId state.snapshot := le_maxJobId (inv.mem_snapshot.mpr (own ▸ found))
  rw [own, UInt64.le_iff_toNat_le, toNat_succ below] at bound
  omega

theorem nextId_valid : (JobId.mk (maxJobId state.snapshot + 1)).valid = true ↔ maxJobId state.snapshot ≠ max64 := by
  rw [JobId.valid, bne_iff_ne, ne_eq, ne_eq, not_iff_not]
  constructor
  · intro zero
    by_contra below
    have value := toNat_succ below
    change maxJobId state.snapshot + 1 = 0 at zero
    rw [zero] at value
    simp at value
  · intro last
    rw [last]
    rfl

/-- A job that has run nowhere carries no facts of a run. -/
theorem executionValid_of_blank (blank : record.execution = {})
    (idle : ¬(record.state = .running ∨ record.state = .stopping)) : record.ExecutionValid := by
  have unidentified : ({} : JobExecutionRecord).hasIdentity = false := rfl
  rw [StoredJob.executionValid_iff, blank]
  exact ⟨.inl rfl, by simp [unidentified], fun alive => absurd alive idle, by simp, by simp, by simp, by simp, by simp⟩

section

variable (inv : StoreInvariant limits state)
include inv

/-- A new queued job needs no lease, and no lease waits for it. -/
theorem StoreInvariant.inserted_matrix
    (absent : state.jobs.find? record.id = none) (queued : record.state = .queued) :
    ∀ id row, (state.jobs.insert record.id record).find? id = some row →
      leaseCount state.leases id = if leaseable row.state then 1 else 0 := by
  intro id row found
  obtain ⟨here, rfl⟩ | found := insert_cases found
  · have none : leaseCount state.leases id = 0 := by
      refine leaseCount_eq_zero.mpr fun lease member own => ?_
      obtain ⟨_, atOwner⟩ := inv.leaseOwners lease member
      rw [own, here, absent] at atOwner
      simp at atOwner
    rw [none, queued]
    rfl
  · exact inv.leaseMatrix id row found

theorem StoreInvariant.inserted_owners
    (absent : state.jobs.find? record.id = none) :
    ∀ uuid lease, state.leases.find? uuid = some lease →
      ownerLeaseable (state.jobs.insert record.id record) lease.jobId = true := by
  intro uuid lease found
  obtain ⟨owner, atOwner, active⟩ :=
    ownerLeaseable_iff.mp (inv.owner_leaseable (mem_values.mpr ⟨uuid, found⟩))
  exact ownerLeaseable_iff.mpr ⟨owner, find?_insert_of_absent absent atOwner, active⟩

/-- The store takes a valid submission exactly while it has room for one more
job, whatever the states of those it has. -/
theorem submission_accepted_iff (valid : spec.Valid) :
    (∃ next, applyMutation limits state (submissionMutation state.snapshot spec) = .ok next) ↔
      state.jobs.size < limits.maxJobs ∧ ¬CountersSpent state := by
  rw [CountersSpent, not_or]
  constructor
  · intro ⟨_, run⟩
    have submitted := submitted_of_accepted run
    have bound := (inv.step run).jobsBound
    rw [submitted.jobs, size_insert_of_absent submitted.absent] at bound
    obtain ⟨_, ⟨_, _, below⟩, _⟩ := applyMutation_eq_ok.mp run
    exact ⟨bound, below, nextId_valid.mp submitted.valid.1⟩
  · intro ⟨room, below, ids⟩
    have absent := inv.nextId_absent ids
    let record := submissionRecord state.snapshot spec
    have one : (submissionMutation state.snapshot spec).entryCount = 1 := rfl
    have created : createJob limits state.jobs record = .ok (state.jobs.insert record.id record) :=
      createJob_eq_ok.mpr ⟨⟨nextId_valid.mpr ids, valid, rfl, rfl⟩, executionValid_of_blank rfl
        (by simp [record, submissionRecord]), absent, room, rfl⟩
    refine ⟨⟨state.jobs.insert record.id record, state.leases, state.revision + 1⟩, applyMutation_eq_ok.mpr
      ⟨rfl, ⟨by rw [one]; decide, by rw [one]; decide, below⟩, _, _, _, _, ?_, rfl, rfl, rfl,
        inv.inserted_owners absent, inv.inserted_matrix absent rfl, rfl⟩⟩
    rw [submissionMutation, List.foldlM_cons, created]
    rfl

end

end Submission

section Admission

theorem QueueAgrees.length_eq (agrees : QueueAgrees queue state) :
    queue.entries.length = state.jobs.values.countP (·.state = .queued) := by
  rw [agrees, sortedQueued, (LowerBound.sort_perm _ _).length_eq, queuedEntries, List.length_map,
    List.countP_eq_length_filter]
  rfl

/-- A queue that agrees with the store refuses a new job only when it is full. -/
theorem QueueAgrees.admits_iff (agrees : QueueAgrees queue state) (inv : StoreInvariant limits state)
    (valid : spec.Valid) (ids : maxJobId state.snapshot ≠ max64) :
    (queue.admitJob (submissionRecord state.snapshot spec)).1.code = none ↔
      state.jobs.values.countP (·.state = .queued) < queue.capacity := by
  have absent := inv.nextId_absent ids
  have new : ∀ entry ∈ queue.entries, entry.jobId ≠ (submissionRecord state.snapshot spec).id := by
    intro entry member same
    obtain ⟨_, found, _⟩ := (agrees.mem_iff inv).mp member
    have here : entry.jobId = ⟨maxJobId state.snapshot + 1⟩ := same
    rw [here, absent] at found
    simp at found
  rw [← agrees.length_eq]
  constructor
  · intro admitted
    cases checked : queue.checkAdmission (submissionRecord state.snapshot spec) with
    | ok => exact (checkAdmission_eq_ok.mp checked).2.2.2.2.2
    | error => simp [(admitJob_rejected checked).1] at admitted
  · intro room
    have accepted := checkAdmission_eq_ok.mpr ⟨nextId_valid.mpr ids, valid, rfl, rfl, new, room⟩
    exact (admitJob_accepted accepted).1

end Admission

theorem DaemonWrite.not_spent (write : DaemonWrite limits state next) : state.revision ≠ max64 := by
  cases write with
  | created _ run | moved _ _ _ run => exact (applyMutation_eq_ok.mp run).2.1.2.2

/-- Nothing is written any more once the revision has reached its end. -/
theorem Journal.eq_of_spent (journal : Journal limits state next) (spent : state.revision = max64) : next = state := by
  induction journal using Relation.ReflTransGen.head_induction_on with
  | refl => rfl
  | head write => exact absurd spent write.not_spent

namespace GlobalJobQueue

theorem create_capacity {config : QueueConfig} (created : create config = .ok queue) :
    queue.capacity = config.capacity := by
  obtain ⟨_, same⟩ := unit_bind_eq_ok.mp created
  cases same
  rfl

theorem admitJob_capacity (queue : GlobalJobQueue) (record : StoredJob) :
    (queue.admitJob record).2.capacity = queue.capacity := by
  cases checked : queue.checkAdmission record with
  | ok => exact (admitJob_accepted checked).2.1
  | error => rw [(admitJob_rejected checked).2]

theorem remove_capacity (queue : GlobalJobQueue) (id : JobId) : (queue.remove id).2.capacity = queue.capacity := by
  by_cases listed : ∃ entry ∈ queue.entries, entry.jobId = id
  · obtain ⟨_, present, same⟩ := listed
    subst same
    exact (remove_present present).2.1
  · unfold remove
    split
    · rfl
    · split
      · rfl
      · rfl

end GlobalJobQueue

theorem JobRecovery.recover_capacity {σ : Type} {store : StateStore σ} {content : σ → StoreState}
    (faithful : Faithful limits store content) {verifier : IdentityVerifier} {now : TimePoint} {backend : σ} :
    (recover store verifier now queue backend).2.1.capacity = queue.capacity := by
  have run := recover_run faithful verifier now queue backend
  generalize recover store verifier now queue backend = result at run ⊢
  cases run with
  | unread | interrupted => rfl
  | unqueued _ _ _ _ _ _ refused =>
    rw [restore_rejected (by rw [refused]; simp)]
  | finished _ _ _ _ _ restored => exact (restore_applied restored).2

namespace JobManager

variable {σ : Type} {store : StateStore σ} {content : σ → StoreState} {config : JobManagerConfig}
  {manager : JobManager σ} {capacity : Nat} {step : Step}

theorem TableMove.queue_capacity {left : Prop} {asked : JobSpec → Prop} {after : GlobalJobQueue}
    (move : TableMove limits left asked queue state after next) : after.capacity = queue.capacity := by
  cases move with
  | idle | rewritten => rfl
  | submitted _ _ move =>
    cases move with
    | idle | takenBack | leftBehind => rfl
    | submitted => exact queue.admitJob_capacity _
  | cancelled | started => exact queue.remove_capacity _

/-- The write that takes a new job back suits the job while it is stored as it was created. -/
theorem takenBack_suits {snapshot : StateSnapshot}
    (row : state.jobs.find? (submissionRecord snapshot spec).id = some (submissionRecord snapshot spec)) :
    Rewrite.Suits { record := takenBackRecord (submissionRecord snapshot spec) } state
      (submissionRecord snapshot spec) := by
  have zero : (submissionRecord snapshot spec).revision ≠ max64 := by
    change (0 : UInt64) ≠ max64
    decide
  exact ⟨row, rfl, rfl, zero, rfl, rfl, executionValid_of_blank rfl (by simp [takenBackRecord]), fun _ => rfl, nofun⟩

section Reliable

variable (reliable : Reliable limits store content)
include reliable

theorem apply_code_iff (backend : σ) (mutation : StateMutation) :
    (store.apply backend mutation).1.code = none ↔
      ∃ next, applyMutation limits (content backend) mutation = .ok next := by
  constructor
  · intro accepted
    exact ⟨_, reliable.apply_accepted backend mutation accepted⟩
  · intro ⟨next, run⟩
    exact reliable.apply_ok backend mutation next run

/-- The one answer to a submission. -/
theorem processSubmit_answer :
    ∃ answer, (manager.processSubmit store spec).log = manager.log ++ [.submitAck answer] ∧
      (answer.code = .submitted ↔
        (∃ next, applyMutation limits (content manager.backend)
          (submissionMutation (content manager.backend).snapshot spec) = .ok next) ∧
        (manager.queue.admitJob (submissionRecord (content manager.backend).snapshot spec)).1.code = none) := by
  have reads := reliable.load_content manager.backend
  have taken := apply_code_iff reliable (store.load manager.backend).2
    (submissionMutation (content manager.backend).snapshot spec)
  rw [reads] at taken
  unfold processSubmit
  rw [reliable.load_eq, ← taken]
  simp only
  split
  · rename_i refused
    exact ⟨_, rfl, iff_of_false nofun (by simp [refused])⟩
  · rename_i accepted
    split
    · rename_i admitted
      exact ⟨_, rfl, iff_of_true rfl ⟨accepted, admitted⟩⟩
    · rename_i rejected
      exact ⟨_, rfl, iff_of_false nofun (by simp [rejected])⟩

/-- The write that takes a submission back is refused only when the submission
itself has used up the revision. -/
theorem processSubmit_uncompensated (inv : StoreInvariant limits (content manager.backend))
    (refused : ¬manager.Compensates store spec) :
    (content (manager.processSubmit store spec).backend).revision = max64 := by
  have reads := reliable.load_content manager.backend
  unfold Compensates at refused
  unfold processSubmit
  rw [reliable.load_eq] at refused ⊢
  simp only [Classical.not_imp] at refused ⊢
  obtain ⟨accepted, rejected, failed⟩ := refused
  obtain ⟨_, atCode⟩ := Option.ne_none_iff_exists'.mp rejected
  obtain ⟨error, atError⟩ := Option.ne_none_iff_exists'.mp failed
  have run := reliable.apply_accepted _ _ accepted
  have revision := reliable.apply_revision _ _ accepted
  rw [accepted, atCode]
  simp only [emit]
  rw [reliable.apply_refused _ _ error atError]
  rw [reads] at run
  by_contra below
  have submitted := submitted_of_accepted run
  have back := (takenBack_suits submitted.row).accepted (inv.step run) below
  rw [← revision] at back
  exact failed (reliable.apply_ok _ _ _ back)

end Reliable

/-- What holds of a worker in every state of a daemon over a store without
failures of its own. The queue and the store may only part at the very end of
the revisions. -/
structure Working (limits : ValidationConfig) (content : σ → StoreState) (capacity : Nat) (manager : JobManager σ) :
    Prop where
  journal : Journal limits .initial (content manager.backend)
  busy : SupervisedBusy content manager
  capacity : manager.queue.capacity = capacity
  agrees : (content manager.backend).revision = max64 ∨ QueueAgrees manager.queue (content manager.backend)

theorem Working.grounded (working : Working limits content capacity manager) : Grounded limits content manager :=
  ⟨working.journal.invariant (.initial limits), working.busy⟩

theorem Working.counted (working : Working limits content capacity manager) : Counted (content manager.backend) :=
  working.journal.counted (.initial limits) .initial

section

variable (reliable : Reliable limits store content)
include reliable

/-- A submission that is not taken back ends with a used-up revision. -/
theorem step_uncompensated
    (inv : StoreInvariant limits (content manager.backend)) (running : manager.running = true)
    (refused : ¬StepCompensates store manager step) :
    (content (manager.step config store step).backend).revision = max64 := by
  rw [step_of_running running]
  cases step with
  | command =>
    unfold StepCompensates at refused
    cases next : manager.commands with
    | nil => simp [next] at refused
    | cons command rest =>
      cases command with
      | submit spec =>
        simp only [next] at refused
        let waiting := { manager with commands := rest }
        have spent : (content (waiting.processSubmit store spec).backend).revision = max64 :=
          processSubmit_uncompensated reliable inv refused
        simp only [perform, handleCommand, next]
        exact spent
      | cancel | wake => simp [next] at refused
  | exit | pumpDone | gpuEvents | post | reaper | pumpFinished | escalation | sample | openGate | stop =>
    exact absurd trivial refused

theorem step_working (working : Working limits content capacity manager) :
    Working limits content capacity (manager.step config store step) := by
  have faithful := reliable.toFaithful
  have grounded := working.grounded
  have move := step_moves faithful config step grounded
  refine ⟨working.journal.trans move.journal, (step_grounded faithful config step grounded).busy,
    move.queue_capacity.trans working.capacity, ?_⟩
  rcases working.agrees with spent | agrees
  · rw [move.journal.eq_of_spent spent]
    exact .inl spent
  · cases running : manager.running with
    | false =>
      rw [step_of_stopped running]
      exact .inr agrees
    | true =>
      by_cases compensates : StepCompensates store manager step
      · exact .inr (step_agrees faithful config step grounded agrees compensates)
      · exact .inl (step_uncompensated reliable grounded.stored running compensates)

theorem run_working (config : JobManagerConfig) (steps : List Step)
    (working : Working limits content capacity manager) :
    Working limits content capacity (manager.run config store steps) := by
  induction steps generalizing manager with
  | nil => exact working
  | cons step _ ih => exact ih (step_working reliable working)

end

theorem start_working (faithful : Faithful limits store content) (config : JobManagerConfig) (input : StartInput)
    (recovery : Option RecoveryResult) (working : Working limits content capacity manager) :
    Working limits content capacity (manager.start config store input recovery).2 := by
  obtain ⟨sameContent, sameQueue, busy⟩ := start_keeps faithful config input recovery working.grounded
  refine ⟨?_, busy, ?_, ?_⟩
  · rw [sameContent]
    exact working.journal
  · rw [sameQueue]
    exact working.capacity
  · rw [sameContent, sameQueue]
    exact working.agrees

end JobManager

namespace Daemon
open JobManager

variable {σ : Type} {store : StateStore σ} {content : σ → StoreState} {config : DaemonConfig} {daemon : Daemon σ}
  {manager : JobManager σ}

/-- What holds in every state of a daemon, from the first process on. -/
structure Sound (limits : ValidationConfig) (content : σ → StoreState) (config : DaemonConfig) (daemon : Daemon σ) :
    Prop where
  journal : Journal limits .initial (content daemon.backend)
  working : ∀ manager, daemon = .up manager → Working limits content config.queue.capacity manager

theorem Sound.idle {backend : σ} (journal : Journal limits .initial (content backend)) :
    Sound limits content config (.idle backend) := by
  refine ⟨journal, ?_⟩
  intro _ same
  cases same

theorem Sound.up (working : Working limits content config.queue.capacity manager) :
    Sound limits content config (.up manager) := by
  refine ⟨working.journal, ?_⟩
  intro _ same
  cases same
  exact working

section

variable (reliable : Reliable limits store content)
include reliable

theorem startServices_sound (input : DaemonInput)
    (recovery : RecoveryResult) (working : Working limits content config.queue.capacity manager) :
    Sound limits content config (startServices config store input recovery manager).2 := by
  have started := start_working reliable.toFaithful config.jobManager input.jobManager (some recovery) working
  have later := run_working reliable config.jobManager input.meanwhile started
  unfold startServices
  simp only
  split
  · exact .idle started.journal
  · split
    · exact .idle later.journal
    · exact .idle later.journal
    · exact .up later

section

variable (sound : Sound limits content config daemon)
include sound

theorem start_sound {input : DaemonInput} : Sound limits content config (daemon.start config store input).2 := by
  have faithful := reliable.toFaithful
  cases daemon with
  | up | stopped => exact sound
  | idle backend =>
    simp only [start]
    split
    · exact sound
    · split
      · exact sound
      · rename_i queue created
        have journal := sound.journal.trans
          (recover_journal faithful input.verifier input.now queue backend)
        split
        · exact .idle journal
        · rename_i recovered
          split
          · exact .idle journal
          · exact .idle journal
          · refine startServices_sound reliable input _ ⟨journal, ?_, ?_, .inr ?_⟩
            · intro _ _ found
              simp at found
            · rw [recover_capacity faithful, create_capacity created]
            · exact (recover_agrees faithful (sound.journal.invariant (.initial limits)) recovered).2

theorem next_sound {event : DaemonEvent} : Sound limits content config (daemon.next config store event) := by
  cases event with
  | start input => exact start_sound reliable sound
  | work step =>
    cases daemon with
    | idle | stopped => exact sound
    | up manager => exact .up (step_working reliable (sound.working manager rfl))
  | stop =>
    refine ⟨?_, ?_⟩
    · cases daemon <;> exact sound.journal
    · intro _ same
      cases daemon <;> cases same
  | replaced => exact .idle sound.journal

theorem run_sound {events : List DaemonEvent} : Sound limits content config (daemon.run config store events) := by
  induction events generalizing daemon with
  | nil => exact sound
  | cons event _ ih => exact ih (next_sound reliable sound)

end

end

/-- In every state of a daemon over a store without failures of its own, and
after any number of restarts, a valid submission is refused exactly if the
store is full with jobs of whatever state, the queue is full with those that
wait, or a counter of the store is used up. The last takes a fifth of 2^64
stored jobs. -/
theorem submission_refused_iff (reliable : Reliable limits store content) (config : DaemonConfig) {backend : σ}
    (fresh : content backend = .initial) (events : List DaemonEvent) {manager : JobManager σ}
    (up : run config store (.idle backend) events = .up manager) (spec : JobSpec) (valid : spec.Valid) :
    let state := content manager.backend
    ∃ answer, (manager.processSubmit store spec).log = manager.log ++ [.submitAck answer] ∧
      (answer.code ≠ .submitted ↔ limits.maxJobs ≤ state.jobs.size ∨
        config.queue.capacity ≤ state.jobs.values.countP (·.state = .queued) ∨ CountersSpent state) ∧
      (CountersSpent state → 2 ^ 64 - 1 ≤ 5 * state.jobs.size) := by
  intro state
  have journal : Journal limits .initial (content backend) := by
    rw [fresh]
    exact .refl
  have sound : Sound limits content config (run config store (.idle backend) events) :=
    run_sound reliable (.idle journal)
  have working := sound.working manager up
  have inv : StoreInvariant limits state := working.grounded.stored
  obtain ⟨answer, log, submitted⟩ := processSubmit_answer reliable
  rw [submission_accepted_iff inv valid] at submitted
  refine ⟨answer, log, ?_, working.counted.size_of_spent inv⟩
  rw [ne_eq, submitted]
  by_cases spent : CountersSpent state
  · exact iff_of_true (fun taken => taken.1.2 spent) (.inr (.inr spent))
  · -- The counters go on, so the queue still agrees with the store.
    have agrees : QueueAgrees manager.queue state := working.agrees.resolve_left fun last => spent (.inl last)
    rw [agrees.admits_iff inv valid fun last => spent (.inr last), working.capacity]
    simp only [spent, not_false_eq_true, and_true, or_false, not_and_or, not_lt]

/-- One job is submitted and cancelled before it runs; then the daemon is
started again. -/
def cancelledEvents : List DaemonEvent :=
  let boot : DaemonInput := { verifier := fun _ => .verified, now := 1 }
  let turn : JobManager.Step := .command { schedule := { launch := { spawn := .error { code := .forkFailed } } } }
  [.start boot, .work (.post (.submit (.minimal 1 {}))), .work (.post (.cancel ⟨1⟩)), .work turn,
    .work turn, .work turn,
    .replaced, .start boot]

/-- A store for one job, under the daemon after these events. -/
def cancelledManager : JobManager StoreState :=
  match run {} (plainStore { maxJobs := 1 }) (.idle .initial) cancelledEvents with
  | .up manager => manager
  | .idle backend | .stopped backend => { backend, queue := .empty 0 }

theorem cancelledManager_up :
    run {} (plainStore { maxJobs := 1 }) (.idle .initial) cancelledEvents = .up cancelledManager := by
  rfl

/-- No stored job is alive, and still no further one is taken. -/
theorem cancelled_job_fills_store :
    let limits : ValidationConfig := { maxJobs := 1 }
    let config : DaemonConfig := {}
    let store := plainStore limits
    run config store (.idle .initial) cancelledEvents = .up cancelledManager ∧
      validate (.minimal 2 {}) = .ok () ∧
      cancelledManager.backend.jobs.values.countP (!·.state.isTerminal) < min limits.maxJobs config.queue.capacity ∧
      (cancelledManager.processSubmit store (.minimal 2 {})).log =
        cancelledManager.log ++ [.submitAck { code := .storeFailed, detail := .ascii "CAPACITY_EXCEEDED" }] :=
  ⟨cancelledManager_up, by decide, by decide, by decide⟩

theorem submission_refused_iff_cancelled :
    ∃ answer, (cancelledManager.processSubmit (InMemoryStateStore.plainStore { maxJobs := 1 }) (.minimal 2 {})).log =
      cancelledManager.log ++ [.submitAck answer] ∧ answer.code ≠ .submitted := by
  obtain ⟨answer, log, refused, _⟩ := submission_refused_iff (plainStore_reliable { maxJobs := 1 }) {}
    rfl cancelledEvents cancelledManager_up (.minimal 2 {}) (by decide)
  exact ⟨answer, log, refused.mpr (.inl (by decide))⟩

end Daemon

end Yori
