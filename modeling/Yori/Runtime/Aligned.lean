import Yori.Recovery.Result
import Yori.Runtime.Entries

namespace Yori
open MutationCore SortedMap JobRecovery

section Tables

variable {limits : ValidationConfig} {id : JobId} {before after : StoreState}

/-- The writes about one job only give devices up. -/
theorem Rewrites.leases_left (writes : Rewrites limits id before after) {uuid : GpuUuid} {lease : GpuLease}
    (left : after.leases.find? uuid = some lease) : before.leases.find? uuid = some lease := by
  induction writes with
  | none => exact left
  | more _ rewrite _ run ih =>
    have tables := (rewrite.rewritten run).leases
    cases given : rewrite.release with
    | none =>
      rw [given] at tables
      rw [tables] at left
      exact ih left
    | some =>
      rw [given] at tables
      rw [tables, find?_erase] at left
      split at left
      · simp at left
      · exact ih left

end Tables

namespace JobManager

variable {σ : Type} {store : StateStore σ} {limits : ValidationConfig} {content : σ → StoreState}
  {config : JobManagerConfig} {id target : JobId} {manager : JobManager σ} {job next : SupervisedJob}
  {state after : StoreState} {input : CancelInput} {now : TimePoint}

/-- What the entry of a job says about the store: the job runs or is being
stopped as its mark says, the device on the entry is leased to it, and its
process is taken to be alive and is the one on record. -/
structure EntryAligned (state : StoreState) (id : JobId) (job : SupervisedJob) : Prop where
  row : ∃ record, state.jobs.find? id = some record ∧ record.state = if job.cancelling then .stopping else .running
  lease : state.leases.find? job.leasedGpu = some ⟨job.leasedGpu, id⟩
  managed : ∃ supervisor, job.supervisor = some supervisor ∧ supervisor.manages = true
  recorded : ∀ record ∈ state.jobs.find? id, ∀ supervisor ∈ job.supervisor,
    supervisor.identity = record.execution.identity

/-- Every entry that awaits its exit is aligned with the store. -/
def Aligned (content : σ → StoreState) (manager : JobManager σ) : Prop :=
  ∀ id job, manager.supervised.find? id = some job → job.exited = false →
    EntryAligned (content manager.backend) id job

theorem EntryAligned.of_onlyJob (aligned : EntryAligned state id job) (only : OnlyJob target state after)
    (different : id ≠ target) : EntryAligned after id job := by
  refine ⟨?_, (only.leases job.leasedGpu ⟨job.leasedGpu, id⟩ different).mpr aligned.lease, aligned.managed, ?_⟩
  · rw [only.rows id different]
    exact aligned.row
  · rw [only.rows id different]
    exact aligned.recorded

theorem EntryAligned.not_queued (aligned : EntryAligned state id job) {record : StoredJob}
    (found : state.jobs.find? id = some record) : record.state = .running ∨ record.state = .stopping := by
  obtain ⟨_, atOther, atState⟩ := aligned.row
  cases found.symm.trans atOther
  rw [atState]
  cases job.cancelling with
  | true => exact .inr rfl
  | false => exact .inl rfl

/-- The handlers that leave the rows of all supervised jobs alone. -/
theorem Aligned.of_tables {next : JobManager σ} (aligned : Aligned content manager)
    (entries : ∀ id job, next.supervised.find? id = some job → job.exited = false →
      ∃ old, manager.supervised.find? id = some old ∧ old.exited = false ∧ job.cancelling = old.cancelling ∧
        job.leasedGpu = old.leasedGpu ∧ job.supervisor = old.supervisor)
    (same : content next.backend = content manager.backend) : Aligned content next := by
  intro id job found alive
  obtain ⟨old, atOld, oldAlive, cancelling, device, supervisor⟩ := entries id job found alive
  obtain ⟨row, lease, managed, recorded⟩ := aligned id old atOld oldAlive
  rw [same]
  exact ⟨by rw [cancelling]; exact row, by rw [device]; exact lease, by rw [supervisor]; exact managed,
    by rw [supervisor]; exact recorded⟩

section Cancel

/-- After a cancellation of a job that is stored as being stopped everything is
aligned, if all other entries were. -/
theorem beginCancellation_aligned {fromRecovery : Bool}
    (others : ∀ id job, manager.supervised.find? id = some job → job.exited = false → id ≠ target →
      EntryAligned (content manager.backend) id job)
    (stopping : ∀ job, manager.supervised.find? target = some job → job.exited = false →
      EntryAligned (content manager.backend) target { job with cancelling := true }) :
    Aligned content (manager.beginCancellation input target fromRecovery) := by
  have backend := (beginCancellation_begun input target fromRecovery manager).backend
  intro id next found alive
  rw [backend]
  rw [beginCancellation_supervised] at found
  cases atTarget : manager.supervised.find? target with
  | none =>
    simp only [atTarget, Option.bind_none] at found
    have different : id ≠ target := by
      intro here
      rw [here, atTarget] at found
      simp at found
    exact others id next found alive different
  | some job =>
    simp only [atTarget, Option.bind_some] at found
    by_cases here : id = target
    · subst here
      cases entered : cancelledEntry input fromRecovery job with
      | none =>
        simp only [entered] at found
        have same : job = next := Option.some.inj (atTarget.symm.trans found)
        obtain ⟨_, own, managed⟩ := (stopping job atTarget (same ▸ alive)).managed
        obtain ⟨entry, atEntry⟩ : ∃ entry, cancelledEntry input fromRecovery job = some entry :=
          cancelledEntry_managed own managed
        rw [entered] at atEntry
        simp at atEntry
      | some entry =>
        simp only [entered, find?_insert_self] at found
        have same : entry = next := Option.some.inj found
        subst same
        obtain ⟨marked, exited, device, _, own, later⟩ := cancelledEntry_frame entered
        have aligned := stopping job atTarget (exited ▸ alive)
        obtain ⟨_, atOther, managed⟩ := aligned.managed
        cases own.symm.trans atOther
        refine ⟨by rw [marked]; exact aligned.row, by rw [device]; exact aligned.lease,
          ⟨_, later, ProcessSupervisor.requestCancel_manages managed⟩, ?_⟩
        intro record atRecord supervisor atSupervisor
        cases later.symm.trans atSupervisor
        exact ProcessSupervisor.requestCancel_identity.trans (aligned.recorded record atRecord _ own)
    · cases entered : cancelledEntry input fromRecovery job with
      | none =>
        simp only [entered] at found
        exact others id next found alive here
      | some =>
        simp only [entered] at found
        rw [find?_insert_of_ne _ _ here] at found
        exact others id next found alive here

end Cancel

section Entries

/-- An entry that a handler rewrites without touching what is aligned. -/
theorem Aligned.of_insert {next : JobManager σ} {entry : SupervisedJob} (aligned : Aligned content manager)
    (found : manager.supervised.find? target = some job)
    (supervised : next.supervised = manager.supervised.insert target entry)
    (same : entry.exited = job.exited ∧ entry.cancelling = job.cancelling ∧ entry.leasedGpu = job.leasedGpu ∧
      entry.supervisor = job.supervisor)
    (backend : content next.backend = content manager.backend) : Aligned content next := by
  refine aligned.of_tables ?_ backend
  intro _ other atOther alive
  rw [supervised] at atOther
  obtain ⟨here, rfl⟩ | atOther := insert_cases atOther
  · exact ⟨job, here ▸ found, same.1 ▸ alive, same.2⟩
  · exact ⟨other, atOther, alive, rfl, rfl, rfl⟩

theorem Aligned.of_erase {next : JobManager σ} (aligned : Aligned content manager)
    (supervised : next.supervised = manager.supervised.erase target)
    (backend : content next.backend = content manager.backend) : Aligned content next := by
  refine aligned.of_tables ?_ backend
  intro _ other atOther alive
  rw [supervised, find?_erase] at atOther
  split at atOther
  · simp at atOther
  · exact ⟨other, atOther, alive, rfl, rfl, rfl⟩

theorem processPumpDone_aligned {between : List ReaperAction} (aligned : Aligned content manager) :
    Aligned content (manager.processPumpDone between target) := by
  unfold processPumpDone
  split
  · exact aligned
  · rename_i found
    split
    · exact aligned.of_erase rfl rfl
    · exact aligned.of_insert found rfl ⟨rfl, rfl, rfl, rfl⟩ rfl

theorem runEscalation_aligned {kill : KillInput} (aligned : Aligned content manager) :
    Aligned content (manager.runEscalation kill now target) := by
  unfold runEscalation
  split
  · exact aligned
  · rename_i found
    split
    · exact aligned.of_insert found rfl ⟨rfl, rfl, rfl, rfl⟩ rfl
    · exact aligned

end Entries

section Handlers

variable (faithful : Faithful limits store content)
include faithful

theorem processSubmit_aligned {spec : JobSpec} (aligned : Aligned content manager) :
    Aligned content (manager.processSubmit store spec) := by
  intro id job found alive
  rw [processSubmit_supervised] at found
  obtain ⟨⟨record, stored, atState⟩, lease, managed, recorded⟩ := aligned id job found alive
  have move := processSubmit_submits faithful spec manager
  refine ⟨⟨record, move.stays stored, atState⟩, by rw [move.leases]; exact lease, managed, ?_⟩
  rw [move.stays stored, ← stored]
  exact recorded

theorem processCancel_aligned (inv : StoreInvariant limits (content manager.backend))
    (aligned : Aligned content manager) : Aligned content (manager.processCancel store input target) := by
  cases processCancel_handled faithful input target inv with
  | answered _ _ unchanged same =>
    rw [same]
    exact aligned.of_tables (fun _ job found alive => ⟨job, found, alive, rfl, rfl, rfl⟩) unchanged
  | dequeued _ _ record attempt found queued run same =>
    have key : (moveTo .cancelled attempt record).record.id = target := inv.jobKeys target record found
    have only := ((moveTo .cancelled attempt record).rewritten run).onlyJob inv (inv.step run)
    rw [same]
    intro id job atJob alive
    have here := aligned id job atJob alive
    refine here.of_onlyJob (key ▸ only) ?_
    -- a queued job has no entry that awaits an exit
    rintro rfl
    rcases here.not_queued found with running | stopping
    · simp [running] at queued
    · simp [stopping] at queued
  | stopped backend _ record attempt found _ run same =>
    have key : (moveTo .stopping attempt record).record.id = target := inv.jobKeys target record found
    have moved := (moveTo .stopping attempt record).rewritten run
    have stopped : Aligned content ({ manager with backend }.beginCancellation input target false) := by
      refine beginCancellation_aligned ?_ ?_
      · intro id job atJob alive different
        exact (aligned id job atJob alive).of_onlyJob (key ▸ moved.onlyJob inv (inv.step run)) different
      · intro job atJob alive
        have here := aligned target job atJob alive
        have row : (content backend).jobs.find? target = some (moveTo .stopping attempt record).record := by
          rw [moved.jobs, key, find?_insert_self]
        refine ⟨⟨_, row, rfl⟩, by rw [moved.leases]; exact here.lease, here.managed, ?_⟩
        intro later atLater
        cases row.symm.trans atLater
        exact here.recorded record found
    rw [same]
    exact stopped
  | again backend _ record found stopping unchanged same =>
    have begun : Aligned content ({ manager with backend }.beginCancellation input target false) := by
      have still : ∀ id job, manager.supervised.find? id = some job → job.exited = false →
          EntryAligned (content backend) id job := by
        rw [unchanged]
        exact aligned
      refine beginCancellation_aligned (fun id job atJob alive _ => still id job atJob alive) ?_
      intro job atJob alive
      have here := still target job atJob alive
      exact ⟨⟨record, by rw [unchanged]; exact found, stopping⟩, here.lease, here.managed, here.recorded⟩
    rw [same]
    exact begun

theorem scheduleNow_aligned {input : ScheduleInput} {trigger : SchedulerTrigger}
    (inv : StoreInvariant limits (content manager.backend)) (aligned : Aligned content manager) :
    Aligned content (manager.scheduleNow config store input trigger) := by
  cases scheduleNow_scheduled faithful config input trigger inv with
  | idle _ _ same unchanged =>
    rw [same]
    exact aligned.of_tables (fun id job found alive => ⟨job, found, alive, rfl, rfl, rfl⟩) unchanged
  | launched _ record device _ _ backend evaluation _ _ _ found queued _ _ run tables launched same =>
    let decided := { manager with queue := (manager.queue.remove record.id).2, backend, evaluation }
    have invStarted := inv.step run
    have only : OnlyJob record.id (content manager.backend) (content backend) := by
      rw [tables] at run ⊢
      exact started_onlyJob run
    have own : (content backend).leases.find? device.uuid = some ⟨device.uuid, record.id⟩ := by
      rw [tables]
      exact find?_insert_self ..
    -- what was under supervision before concerns other jobs
    have kept : ∀ id job, manager.supervised.find? id = some job → job.exited = false →
        EntryAligned (content (manager.scheduleNow config store input trigger).backend) id job := by
      intro id job atJob alive
      have here := aligned id job atJob alive
      refine here.of_onlyJob (only.trans (launched.rewrites.onlyJob invStarted)) ?_
      intro equal
      subst equal
      rcases here.not_queued found with running | stopping
      · simp [running] at queued
      · simp [stopping] at queued
    intro id job atJob alive
    cases launched with
    | dropped _ _ _ supervised =>
      rw [supervised] at atJob
      exact kept id job atJob alive
    | supervised _ _ row rewrites _ _ spawned atRow running recorded =>
      rcases same ▸ launchScheduled_supervised input.launch record.id device.uuid decided with
        unsupervised | ⟨_, again, entered, _⟩
      · rw [unsupervised.1] at atJob
        exact kept id job atJob alive
      · rw [entered] at atJob
        obtain ⟨here, rfl⟩ | atJob := insert_cases atJob
        · subst here
          refine ⟨⟨row, atRow, running⟩, ?_, ⟨_, rfl, rfl⟩, ?_⟩
          · obtain ⟨place, lease, held, same⟩ := (rewrites.invariant invStarted).held atRow (by rw [running]; rfl)
            have earlier := rewrites.leases_left held
            cases invStarted.leasesValid.exclusive place lease device.uuid _ earlier own same
            exact held.trans (earlier.symm.trans own)
          · intro later atLater supervisor own
            cases atRow.symm.trans atLater
            cases own
            exact (Except.ok.inj (again.symm.trans spawned)).trans recorded.symm
        · exact kept id job atJob alive

theorem processExit_aligned {input : ExitInput} {event : ExitEvent}
    (inv : StoreInvariant limits (content manager.backend)) (aligned : Aligned content manager) :
    Aligned content (manager.processExit config store input event) := by
  unfold processExit
  split
  · exact aligned
  · rename_i target _
    split
    · exact aligned
    · rename_i closing _
      let compose := exitRecord event (exitVerdict closing.cancelling event) closing.leasedGpu input.endClock
      have outcome := rewriteJob_outcome faithful inv target compose
      have only := (outcome.rewrites inv fun _ _ => exitRecord_id ..).onlyJob inv
      have others := fun id job atJob alive different => (aligned id job atJob alive).of_onlyJob only different
      simp only
      split
      · intro id job atJob alive
        change (manager.supervised.erase target).find? id = some job at atJob
        rw [find?_erase] at atJob
        split at atJob
        · simp at atJob
        · rename_i different
          exact others id job atJob alive different
      · intro id job atJob alive
        change (manager.supervised.insert target _).find? id = some job at atJob
        rw [find?_insert] at atJob
        split at atJob
        · cases atJob
          simp at alive
        · rename_i different
          exact others id job atJob alive different

theorem step_aligned (config : JobManagerConfig) (step : Step) (inv : StoreInvariant limits (content manager.backend))
    (aligned : Aligned content manager) : Aligned content (manager.step config store step) := by
  have took := step_took config store manager step
  generalize manager.step config store step = next at took ⊢
  cases took with
  | aside | posted | reaped => exact aligned
  | submitted _ spec rest =>
    have handled : Aligned content ({ manager with commands := rest }.processSubmit store spec) :=
      processSubmit_aligned faithful aligned
    exact handled
  | cancelled input target rest =>
    have handled : Aligned content ({ manager with commands := rest }.processCancel store input.cancel target) :=
      processCancel_aligned faithful inv aligned
    exact handled
  | woken input trigger => exact scheduleNow_aligned faithful inv aligned
  | observed input => exact scheduleNow_aligned faithful inv aligned
  | exited input event => exact processExit_aligned faithful inv aligned
  | pumped between target => exact processPumpDone_aligned aligned
  | escalated target kill now => exact runEscalation_aligned aligned
  | stopped =>
    intro _ _ found
    simp [stop, stopMonitor, abandonSupervised, emit] at found

end Handlers

section Start

/-- The decision to take a job over is in line with the store. -/
def AdoptionFits (state : StoreState) (outcome : RecoveryJobOutcome) : Prop :=
  adopts outcome.decision = true → ∃ record, state.jobs.find? outcome.jobId = some record ∧
    record.state = if outcome.decision = .adoptedStoppingNeedsRecancel then .stopping else .running

section

variable (faithful : Faithful limits store content)
include faithful

/-- What a successful recovery decides to take over runs, or is being stopped
and has to be cancelled again. -/
theorem recover_adoptionFits {verifier : IdentityVerifier}
    {queue : GlobalJobQueue} {backend : σ} (inv : StoreInvariant limits (content backend))
    (recovered : (recover store verifier now queue backend).1.code = none) :
    ∀ outcome ∈ (recover store verifier now queue backend).1.outcomes,
      AdoptionFits (content (recover store verifier now queue backend).2.2) outcome := by
  have settled := (recover_outcome faithful inv).of_success recovered
  rw [recover_outcomes faithful recovered]
  intro _ member adopted
  simp only [plan, List.map_map, List.mem_map, Function.comp_apply] at member
  obtain ⟨record, atRecord, same⟩ := member
  subst same
  have found := inv.mem_snapshot.mp atRecord
  rw [planJob_decision] at adopted ⊢
  rw [planJob_jobId]
  refine ⟨recoveredRecord verifier now record, by rw [settled.rows, found]; rfl, ?_⟩
  cases active : isActive record.state with
  | false =>
    simp only [active, Bool.false_eq_true, if_false] at adopted
    split at adopted <;> simp [adopts] at adopted
  | true =>
    simp only [active, if_true] at adopted ⊢
    cases holds : confirmed verifier record with
    | false =>
      have decision := activeDecision_of_unconfirmed holds
      simp only [List.mem_cons, List.not_mem_nil, or_false] at decision
      rcases decision with gone | mismatch | missing
      · simp [gone, adopts] at adopted
      · simp [mismatch, adopts] at adopted
      · simp [missing, adopts] at adopted
    | true =>
      rw [activeDecision_of_confirmed holds]
      have kept : abandoned verifier record = false := by simp [abandoned, holds]
      cases atState : record.state with
      | starting => simp [recoveredRecord, kept, promoted, holds, atState, promotedRecord]
      | running | stopping => simp [recoveredRecord, kept, promoted, atState]
      | queued | finished | failed | cancelled | lost => simp [atState, isActive] at active

theorem armOutcome_aligned {input : AdoptionInput}
    {outcome : RecoveryJobOutcome} (inv : StoreInvariant limits (content manager.backend))
    (fits : AdoptionFits (content manager.backend) outcome) (aligned : Aligned content manager) :
    Aligned content (manager.armOutcome config store input outcome) := by
  have backend := (armOutcome_armed faithful config input outcome inv).backend
  intro id next found alive
  rw [backend]
  cases adopted : adopts outcome.decision with
  | false =>
    simp only [armOutcome, adopted, Bool.not_false, if_true] at found
    exact aligned id next found alive
  | true =>
    rcases armOutcome_entry found with old | ⟨here, ⟨snapshot, _, load, atRecord, _, origin⟩⟩
    · exact aligned id next old alive
    · subst here
      have same := faithful.load_snapshot manager.backend snapshot load
      subst same
      rw [inv.findStored_eq] at atRecord
      obtain ⟨row, atRow, state⟩ := fits adopted
      have active : leaseable row.state = true := by
        rw [state]
        split <;> rfl
      have key := inv.jobKeys _ row atRow
      obtain ⟨_, atUuid, held⟩ := findLeaseGpu_held inv (by rw [key]; exact atRow) active
      rw [key] at atUuid held
      simp only at origin
      split at origin
      · rename_i stopping
        rw [if_pos stopping] at state
        obtain ⟨marked, _, device, _, own, later⟩ := cancelledEntry_frame origin
        cases own
        refine ⟨⟨row, atRow, by rw [marked]; exact state⟩, ?_,
          ⟨_, later, ProcessSupervisor.requestCancel_manages rfl⟩, ?_⟩
        · rw [device]
          simpa [adoptedJob, atUuid] using held
        · intro record found supervisor atSupervisor
          cases later.symm.trans atSupervisor
          cases atRecord.symm.trans found
          exact ProcessSupervisor.requestCancel_identity
      · rename_i running
        rw [if_neg running] at state
        subst origin
        refine ⟨⟨row, atRow, by simpa [adoptedJob, running] using state⟩, ?_, ⟨_, rfl, rfl⟩, ?_⟩
        · simpa [adoptedJob, atUuid] using held
        · intro record found supervisor atSupervisor
          cases atRecord.symm.trans found
          cases atSupervisor
          rfl

end

theorem Aligned.of_unsupervised (unsupervised : manager.supervised = .empty) : Aligned content manager := by
  intro _ _ found
  simp [unsupervised] at found

theorem start_aligned (faithful : Faithful limits store content) {input : StartInput}
    {recovery : Option RecoveryResult} (inv : StoreInvariant limits (content manager.backend))
    (fits : ∀ outcome ∈ recoveredOutcomes recovery, AdoptionFits (content manager.backend) outcome)
    (unsupervised : manager.supervised = .empty) :
    Aligned content (manager.start config store input recovery).2 := by
  refine start_rule (.of_unsupervised unsupervised) ?_ (fun _ none _ => .of_unsupervised none) fun _ aligned => aligned
  unfold armedManager armRecovery
  refine (List.foldlRecOn _ _ (motive := fun reached : JobManager σ =>
    content reached.backend = content manager.backend ∧ Aligned content reached) ?_ ?_).2
  · exact ⟨rfl, .of_unsupervised unsupervised⟩
  · intro reached ⟨same, aligned⟩ outcome member
    have stored : StoreInvariant limits (content reached.backend) := same ▸ inv
    have armed := armOutcome_armed faithful config (input.adoption outcome.jobId) outcome stored
    exact ⟨armed.backend.trans same, armOutcome_aligned faithful stored (same ▸ fits outcome member) aligned⟩

end Start

end JobManager

end Yori
