import Yori.Runtime.Launching
import Yori.Scheduler.Atomic

namespace Yori
open Checked MutationCore SortedMap GlobalJobQueue

variable {limits : ValidationConfig} {state middle next : StoreState} {queue : GlobalJobQueue} {record : StoredJob}
  {id : JobId} {uuid : GpuUuid}

/-- What an accepted submission has done to the tables. -/
structure Submitted (state : StoreState) (record : StoredJob) (next : StoreState) : Prop where
  jobs : next.jobs = state.jobs.insert record.id record
  leases : next.leases = state.leases
  absent : state.jobs.find? record.id = none
  valid : record.id.valid = true ∧ record.spec.Valid

theorem submitted_of_accepted {spec : JobSpec}
    (run : applyMutation limits state (submissionMutation state.snapshot spec) = .ok next) :
    Submitted state (submissionRecord state.snapshot spec) next := by
  obtain ⟨_, _, _, _, _, _, atCreated, atJobs, atReleased, atLeases, _, _, rfl⟩ :=
    applyMutation_eq_ok.mp run
  simp only [submissionMutation, List.foldlM_cons, List.foldlM_nil] at atCreated atJobs atReleased atLeases
  cases atJobs
  cases atReleased
  cases atLeases
  obtain ⟨_, turn, same⟩ := bind_eq_ok.mp atCreated
  cases same
  obtain ⟨⟨id, spec, _⟩, _, absent, _, rfl⟩ := createJob_eq_ok.mp turn
  exact ⟨rfl, rfl, absent, id, spec⟩

/-- What an accepted scheduling step has done to the tables. -/
theorem started_of_accepted (zero : record.revision = 0)
    (run : applyMutation limits state (startMutation state.snapshot record uuid) = .ok next) :
    next = started state record uuid := by
  obtain ⟨_, _, _, _, _, _, atCreated, atJobs, atReleased, atLeases, _, _, rfl⟩ :=
    applyMutation_eq_ok.mp run
  simp only [startMutation, List.foldlM_cons, List.foldlM_nil, zero] at atCreated atJobs atReleased atLeases
  cases atCreated
  cases atReleased
  obtain ⟨_, turn, same⟩ := bind_eq_ok.mp atJobs
  cases same
  obtain ⟨_, _, _, _, _, _, _, rfl⟩ := updateJob_eq_ok.mp turn
  obtain ⟨_, turn, same⟩ := bind_eq_ok.mp atLeases
  cases same
  obtain ⟨_, _, _, _, _, rfl⟩ := acquireLease_eq_ok.mp turn
  rfl

/-- A scheduling step leases a device that was free. -/
theorem started_onlyJob
    (run : applyMutation limits state (startMutation state.snapshot record uuid) = .ok (started state record uuid)) :
    OnlyJob record.id state (started state record uuid) := by
  obtain ⟨_, _, _, _, _, _, _, _, atReleased, atLeases, _⟩ := applyMutation_eq_ok.mp run
  simp only [startMutation, List.foldlM_cons, List.foldlM_nil] at atReleased atLeases
  cases atReleased
  obtain ⟨_, turn, _⟩ := bind_eq_ok.mp atLeases
  obtain ⟨_, free, _⟩ := acquireLease_eq_ok.mp turn
  refine ⟨fun other different => find?_insert_of_ne _ _ different, ?_⟩
  intro _ _ different
  rw [started, find?_insert]
  split
  · rename_i here
    rw [here, free]
    refine iff_of_false ?_ (by simp)
    intro same
    cases same
    exact different rfl
  · exact Iff.rfl

theorem started_busy : ∀ row, (started state record uuid).jobs.find? record.id = some row → row.state ≠ .queued := by
  intro _ found
  rw [started, find?_insert_self] at found
  cases found
  simp

/-- A job that has left the queue is stored for good and never queued again. -/
def NeverRequeued (before after : JobTable) : Prop :=
  ∀ id record, before.find? id = some record → record.state ≠ .queued →
    ∃ later, after.find? id = some later ∧ later.state ≠ .queued

theorem NeverRequeued.refl (jobs : JobTable) : NeverRequeued jobs jobs :=
  fun _ record found busy => ⟨record, found, busy⟩

theorem NeverRequeued.trans {first second third : JobTable} (early : NeverRequeued first second)
    (late : NeverRequeued second third) : NeverRequeued first third := by
  intro id record found busy
  obtain ⟨middle, atMiddle, stillBusy⟩ := early id record found busy
  exact late id middle atMiddle stillBusy

section

variable (moved : Submitted state record next)
include moved

theorem Submitted.other {old : StoredJob} (found : state.jobs.find? id = some old) : id ≠ record.id := by
  intro same
  rw [same, moved.absent] at found
  simp at found

theorem Submitted.stays {old : StoredJob} (found : state.jobs.find? id = some old) :
    next.jobs.find? id = some old := by
  rw [moved.jobs, find?_insert_of_absent moved.absent found]

theorem Submitted.row : next.jobs.find? record.id = some record := by
  rw [moved.jobs]
  exact find?_insert_self ..

end

/-- An insertion of a row that is not queued requeues nothing. -/
theorem NeverRequeued.of_insert {jobs : JobTable} (record : StoredJob) (busy : record.state ≠ .queued) :
    NeverRequeued jobs (jobs.insert record.id record) := by
  intro _ old found oldBusy
  rw [find?_insert]
  split
  · exact ⟨record, rfl, busy⟩
  · exact ⟨old, found, oldBusy⟩

theorem Rewritten.neverRequeued {rewrite : Rewrite} (moved : Rewritten state rewrite next) :
    NeverRequeued state.jobs next.jobs := by
  obtain ⟨_, _, allowed, _⟩ := moved.previous
  rw [moved.jobs]
  exact .of_insert rewrite.record (canTransition_ne_queued allowed)

theorem Rewrites.neverRequeued (writes : Rewrites limits id state next) : NeverRequeued state.jobs next.jobs := by
  induction writes with
  | none => exact .refl _
  | more _ rewrite _ run ih => exact ih.trans (rewrite.rewritten run).neverRequeued

section Agreement

section

variable (agrees : QueueAgrees queue state) (inv : StoreInvariant limits state) (after : StoreInvariant limits next)
include agrees inv after

theorem QueueAgrees.submitted (moved : Submitted state record next) (queued : record.state = .queued)
    (admitted : (queue.admitJob record).1.code = none) : QueueAgrees (queue.admitJob record).2 next := by
  have accepted : queue.checkAdmission record = .ok () := by
    cases checked : queue.checkAdmission record with
    | ok => rfl
    | error => simp [(admitJob_rejected checked).1] at admitted
  obtain ⟨_, _, entries⟩ := admitJob_accepted accepted
  refine .of_members after fun entry => ?_
  rw [entries, LowerBound.mem_insert entryLess_iff, agrees.mem_iff inv, moved.jobs]
  constructor
  · rintro (new | ⟨old, found, wasQueued, same⟩)
    · subst new
      exact ⟨record, find?_insert_self .., queued, rfl⟩
    · exact ⟨old, find?_insert_of_absent moved.absent found, wasQueued, same⟩
  · intro ⟨row, found, rowQueued, same⟩
    rw [find?_insert] at found
    split at found
    · cases found
      exact .inl same.symm
    · exact .inr ⟨row, found, rowQueued, same⟩

/-- One job leaves the queue in both places. -/
theorem QueueAgrees.left (rows : ∀ other, other ≠ id → next.jobs.find? other = state.jobs.find? other)
    (gone : ∀ row, next.jobs.find? id = some row → row.state ≠ .queued) : QueueAgrees (queue.remove id).2 next := by
  refine .of_members after fun entry => ?_
  rw [remove_entries, List.mem_filter, agrees.mem_iff inv]
  constructor
  · intro ⟨⟨row, found, queued, same⟩, other⟩
    exact ⟨row, (rows _ (by simpa using other)).trans found, queued, same⟩
  · intro ⟨row, found, queued, same⟩
    have other : entry.jobId ≠ id := by
      intro here
      exact gone row (here ▸ found) queued
    exact ⟨⟨row, (rows _ other).symm.trans found, queued, same⟩, by simpa using other⟩

end

end Agreement

namespace JobManager

def takenBackRecord (record : StoredJob) : StoredJob := { record with state := .cancelled, revision := 1 }

theorem compensation_rewritten {revision : UInt64}
    (run : applyMutation limits state (compensation record revision) = .ok next) :
    Rewritten state { record := takenBackRecord record } next :=
  Rewrite.rewritten run

/-- A submission that is taken back leaves no queued row behind. -/
theorem takenBack_queuedSame (created : Submitted state record middle)
    (moved : Rewritten middle { record := takenBackRecord record } next) : QueuedSame state.jobs next.jobs := by
  have jobs : next.jobs = (state.jobs.insert record.id record).insert record.id (takenBackRecord record) :=
    moved.jobs.trans (by rw [created.jobs]; rfl)
  intro _ _ queued
  rw [jobs, find?_insert, find?_insert]
  split
  · rename_i here
    subst here
    rw [created.absent]
    refine iff_of_false ?_ (by simp)
    intro same
    cases same
    simp [takenBackRecord] at queued
  · exact Iff.rfl

/-- The ways a submission changes the queue and the store. A refused one stays
behind as a queued job when the write that takes it back fails as well; `left`
says whether that may happen. -/
inductive SubmitMove (limits : ValidationConfig) (left : Prop) (spec : JobSpec) (queue : GlobalJobQueue)
    (state : StoreState) : GlobalJobQueue → StoreState → Prop
  | idle : SubmitMove limits left spec queue state queue state
  | submitted {next : StoreState}
      (run : applyMutation limits state (submissionMutation state.snapshot spec) = .ok next)
      (admitted : (queue.admitJob (submissionRecord state.snapshot spec)).1.code = none) :
      SubmitMove limits left spec queue state (queue.admitJob (submissionRecord state.snapshot spec)).2 next
  | takenBack {middle next : StoreState}
      (run : applyMutation limits state (submissionMutation state.snapshot spec) = .ok middle)
      (back : applyMutation limits middle (compensation (submissionRecord state.snapshot spec) middle.revision) =
        .ok next) : SubmitMove limits left spec queue state queue next
  | leftBehind {next : StoreState} (allowed : left)
      (run : applyMutation limits state (submissionMutation state.snapshot spec) = .ok next) :
      SubmitMove limits left spec queue state queue next

/-- The ways a handler of the worker changes the queue and the store. `asked`
says which jobs may be submitted. -/
inductive TableMove (limits : ValidationConfig) (left : Prop) (asked : JobSpec → Prop) (queue : GlobalJobQueue)
    (state : StoreState) : GlobalJobQueue → StoreState → Prop
  | idle : TableMove limits left asked queue state queue state
  | submitted (spec : JobSpec) (given : asked spec) {after : GlobalJobQueue} {next : StoreState}
      (move : SubmitMove limits left spec queue state after next) : TableMove limits left asked queue state after next
  | cancelled (id : JobId) (current : StoredJob) (rewrite : Rewrite) {next : StoreState}
      (found : state.jobs.find? id = some current) (queued : current.state = .queued) (own : rewrite.record.id = id)
      (run : applyMutation limits state (rewrite.mutation state.revision) = .ok next) :
      TableMove limits left asked queue state (queue.remove id).2 next
  | rewritten (id : JobId) (current : StoredJob) (rewrite : Rewrite) {next : StoreState}
      (found : state.jobs.find? id = some current) (busy : current.state ≠ .queued) (own : rewrite.record.id = id)
      (identity : rewrite.record.execution.identity = current.execution.identity)
      (run : applyMutation limits state (rewrite.mutation state.revision) = .ok next) :
      TableMove limits left asked queue state queue next
  | started (record : StoredJob) (uuid : GpuUuid) {next : StoreState}
      (found : state.jobs.find? record.id = some record) (queued : record.state = .queued)
      (run : applyMutation limits state (startMutation state.snapshot record uuid) = .ok (started state record uuid))
      (rewrites : Rewrites limits record.id (started state record uuid) next) :
      TableMove limits left asked queue state (queue.remove record.id).2 next

namespace SubmitMove

variable {left : Prop} {spec : JobSpec} {after : GlobalJobQueue}

theorem of_same (same : next = state) (sameQueue : after = queue) :
    SubmitMove limits left spec queue state after next := by
  rw [same, sameQueue]
  exact .idle

section

variable (move : SubmitMove limits left spec queue state after next)
include move

/-- A submission leaves every stored job alone. -/
theorem stays (found : state.jobs.find? id = some record) : next.jobs.find? id = some record := by
  cases move with
  | idle => exact found
  | submitted run | leftBehind _ run => exact (submitted_of_accepted run).stays found
  | takenBack run back =>
    have created := submitted_of_accepted run
    rw [(compensation_rewritten back).jobs]
    exact (find?_insert_of_ne _ _ (created.other found)).trans (created.stays found)

theorem leases : next.leases = state.leases := by
  cases move with
  | idle => rfl
  | submitted run | leftBehind _ run => exact (submitted_of_accepted run).leases
  | takenBack run back => exact (compensation_rewritten back).leases.trans (submitted_of_accepted run).leases

theorem invariant (inv : StoreInvariant limits state) : StoreInvariant limits next := by
  cases move with
  | idle => exact inv
  | submitted run | leftBehind _ run => exact inv.step run
  | takenBack run back => exact (inv.step run).step back

/-- Queue and store still agree after a submission that is not left behind. -/
theorem agrees (certain : ¬left) (inv : StoreInvariant limits state) (agrees : QueueAgrees queue state) :
    QueueAgrees after next := by
  have invNext := move.invariant inv
  cases move with
  | idle => exact agrees
  | submitted run admitted => exact agrees.submitted inv invNext (submitted_of_accepted run) rfl admitted
  | takenBack run back =>
    exact agrees.of_queuedSame inv invNext
      (takenBack_queuedSame (submitted_of_accepted run) (compensation_rewritten back))
  | leftBehind allowed => exact absurd allowed certain

end

end SubmitMove

namespace TableMove

variable {left : Prop} {asked : JobSpec → Prop} {after : GlobalJobQueue}
  (move : TableMove limits left asked queue state after next)
include move

theorem invariant (inv : StoreInvariant limits state) : StoreInvariant limits next := by
  cases move with
  | idle => exact inv
  | submitted _ _ move => exact move.invariant inv
  | cancelled _ _ _ _ _ _ run | rewritten _ _ _ _ _ _ _ run => exact inv.step run
  | started _ _ _ _ run rewrites => exact rewrites.invariant (inv.step run)

theorem neverRequeued : NeverRequeued state.jobs next.jobs := by
  cases move with
  | idle => exact .refl _
  | submitted _ _ move => exact fun _ record found busy => ⟨record, move.stays found, busy⟩
  | cancelled _ _ rewrite _ _ _ run | rewritten _ _ rewrite _ _ _ _ run => exact (rewrite.rewritten run).neverRequeued
  | started record uuid _ _ _ rewrites =>
    have taken : NeverRequeued state.jobs (Yori.started state record uuid).jobs :=
      .of_insert { record with state := .starting, revision := 1 } (by simp)
    exact taken.trans rewrites.neverRequeued

/-- A job that has left the queue keeps the process it is recorded with. -/
theorem identity_kept (inv : StoreInvariant limits state) (found : state.jobs.find? id = some record)
    (busy : record.state ≠ .queued) :
    ∃ later, next.jobs.find? id = some later ∧ later.state ≠ .queued ∧
      later.execution.identity = record.execution.identity := by
  cases move with
  | idle => exact ⟨record, found, busy, rfl⟩
  | submitted _ _ move => exact ⟨record, move.stays found, busy, rfl⟩
  | cancelled _ _ rewrite atKey queued own run =>
    have other : id ≠ rewrite.record.id := by
      intro same
      rw [same, own, atKey] at found
      cases found
      exact busy queued
    have rows := ((rewrite.rewritten run).onlyJob inv (inv.step run)).rows id other
    exact ⟨record, rows.trans found, busy, rfl⟩
  | rewritten _ _ rewrite atKey _ own identity run =>
    have moved := rewrite.rewritten run
    by_cases here : id = rewrite.record.id
    · rw [here, own, atKey] at found
      cases found
      obtain ⟨_, _, allowed, _⟩ := moved.previous
      refine ⟨rewrite.record, ?_, canTransition_ne_queued allowed, identity⟩
      rw [moved.jobs, here, find?_insert_self]
    · exact ⟨record, ((moved.onlyJob inv (inv.step run)).rows id here).trans found, busy, rfl⟩
  | started row uuid atRow queued run rewrites =>
    have other : id ≠ row.id := by
      intro same
      rw [same, atRow] at found
      cases found
      exact busy queued
    have first : (Yori.started state row uuid).jobs.find? id = some record :=
      (find?_insert_of_ne _ _ other).trans found
    exact ⟨record, ((rewrites.onlyJob (inv.step run)).rows id other).trans first, busy, rfl⟩

/-- Queue and store agree after a move if they did before, unless a refused
submission was left behind. -/
theorem agrees (certain : ¬left) (inv : StoreInvariant limits state) (agrees : QueueAgrees queue state) :
    QueueAgrees after next := by
  have invNext := move.invariant inv
  cases move with
  | idle => exact agrees
  | submitted _ _ move => exact move.agrees certain inv agrees
  | cancelled _ _ rewrite found _ own run =>
    subst own
    have moved := rewrite.rewritten run
    obtain ⟨_, _, allowed, _⟩ := moved.previous
    refine agrees.left inv invNext (moved.onlyJob inv invNext).rows ?_
    intro _ found
    rw [moved.jobs, find?_insert_self] at found
    cases found
    exact canTransition_ne_queued allowed
  | rewritten _ _ _ found busy own _ run =>
    refine agrees.of_queuedSame inv invNext (applyMutation_queuedSame run rfl ?_)
    intro _ member _ atRecord
    rw [List.mem_singleton.mp member, own] at atRecord
    cases atRecord.symm.trans found
    exact busy
  | started record uuid _ _ run rewrites =>
    have invMiddle := inv.step run
    have taken := agrees.left inv invMiddle (fun other different => find?_insert_of_ne _ _ different)
      started_busy
    exact taken.of_queuedSame invMiddle invNext (rewrites.queuedSame started_busy)

end TableMove

end JobManager

end Yori
