import Yori.Runtime.Run
import Yori.Runtime.TableMove

namespace Yori.JobManager
open MutationCore

variable {σ : Type} {store : StateStore σ} {limits : ValidationConfig} {content : σ → StoreState}
  {config : JobManagerConfig} {id : JobId} {manager before after : JobManager σ} {input : CancelInput} {left : Prop}
  {asked : JobSpec → Prop}

/-- Handling a submission the queue refuses ends with the write that takes the
job back; this write is accepted. -/
def Compensates (store : StateStore σ) (spec : JobSpec) (manager : JobManager σ) : Prop :=
  match store.load manager.backend with
  | (.error _, _) => True
  | (.ok snapshot, loaded) =>
    let write := store.apply loaded (submissionMutation snapshot spec)
    let record := submissionRecord snapshot spec
    write.1.code = none → (manager.queue.admitJob record).1.code ≠ none →
      (store.apply write.2 (compensation record write.1.revision)).1.code = none

/-- The same for the step of a run, if it handles a submission at all. -/
def StepCompensates (store : StateStore σ) (manager : JobManager σ) : Step → Prop
  | .command _ =>
    match manager.commands with
    | .submit spec :: _ => manager.Compensates store spec
    | _ => True
  | _ => True

instance decidableCompensates (store : StateStore σ) (spec : JobSpec) (manager : JobManager σ) :
    Decidable (manager.Compensates store spec) := by
  unfold Compensates
  split <;> infer_instance

instance decidableStepCompensates (store : StateStore σ) (manager : JobManager σ) (step : Step) :
    Decidable (StepCompensates store manager step) := by
  delta StepCompensates
  rcases step with _ | _ | _ | _ | _ | _ | _ | _ | _ | _ | _
  · rcases manager.commands with _ | ⟨_ | _ | _, _⟩ <;> infer_instance
  all_goals infer_instance

/-- The step handles a submission of this job. -/
def Submits (manager : JobManager σ) (step : Step) (spec : JobSpec) : Prop :=
  ∃ input rest, step = .command input ∧ manager.commands = .submit spec :: rest

/-- The two managers hold queues and stores that differ by one move. -/
def Moves (limits : ValidationConfig) (content : σ → StoreState) (left : Prop) (asked : JobSpec → Prop)
    (before after : JobManager σ) : Prop :=
  TableMove limits left asked before.queue (content before.backend) after.queue (content after.backend)

theorem Moves.of_same (same : content after.backend = content before.backend) (sameQueue : after.queue = before.queue) :
    Moves limits content left asked before after := by
  rw [Moves, same, sameQueue]
  exact .idle

theorem Moves.of_frame {middle : JobManager σ} (move : Moves limits content left asked before middle)
    (backend : after.backend = middle.backend) (sameQueue : after.queue = middle.queue) :
    Moves limits content left asked before after := by
  rw [Moves, sameQueue, backend]
  exact move

/-- Every job under supervision is stored and has left the queue. -/
def SupervisedBusy (content : σ → StoreState) (manager : JobManager σ) : Prop :=
  ∀ id job, manager.supervised.find? id = some job →
    ∃ record, (content manager.backend).jobs.find? id = some record ∧ record.state ≠ .queued

/-- What the start of a cancellation can do. -/
inductive Begun (input : CancelInput) (id : JobId) (before after : JobManager σ) : Prop
  | ignored (same : after = before)
  | signalled (job next : SupervisedJob) (supervisor : ProcessSupervisor)
      (found : before.supervised.find? id = some job) (own : job.supervisor = some supervisor)
      (cancelled : next.supervisor = some (supervisor.requestCancel input.kill.group input.kill.leader input.now).2.2)
      (frame : next.id = job.id ∧ next.leasedGpu = job.leasedGpu ∧ next.adopted = job.adopted ∧
        next.exited = job.exited ∧ next.pumpDone = job.pumpDone)
      (same : after = { before with supervised := before.supervised.insert id next }.sendSignals
        (supervisor.requestCancel input.kill.group input.kill.leader input.now).2.1 input.kill.between)

theorem beginCancellation_begun (input : CancelInput) (id : JobId) (fromRecovery : Bool) (manager : JobManager σ) :
    Begun input id manager (manager.beginCancellation input id fromRecovery) := by
  unfold beginCancellation
  split
  · exact .ignored rfl
  · rename_i job found
    split
    · exact .ignored rfl
    · rename_i supervisor own
      simp only
      split
      · exact .ignored rfl
      · refine .signalled job _ supervisor found own ?_ ?_ rfl
        · rfl
        · exact ⟨rfl, rfl, rfl, rfl, rfl⟩

theorem Begun.front (begun : Begun input id before after) : after.front = before.front := by
  cases begun with
  | ignored same => rw [same]
  | signalled _ _ _ _ _ _ _ same => rw [same]; rfl

theorem Begun.backend (begun : Begun input id before after) : after.backend = before.backend := by
  cases begun with
  | ignored same => rw [same]
  | signalled _ _ _ _ _ _ _ same => rw [same]; rfl

theorem sendSignals_turns (calls : List KillCall) (between : List ReaperAction) (manager : JobManager σ) :
    ∃ turns, (manager.sendSignals calls between).monitor = (manager.monitor.runActions turns).2 := by
  cases calls with
  | nil => exact ⟨[], rfl⟩
  | cons => exact ⟨between, rfl⟩

theorem Begun.turns (begun : Begun input id before after) :
    after.byPid = before.byPid ∧ ∃ turns, after.monitor = (before.monitor.runActions turns).2 := by
  cases begun with
  | ignored same =>
    rw [same]
    exact ⟨rfl, [], rfl⟩
  | signalled _ next _ _ _ _ _ same =>
    rw [same]
    exact ⟨rfl, sendSignals_turns _ _ { before with supervised := before.supervised.insert id next }⟩

/-- What a cancellation can do: answer and change nothing, take the job out of the queue, or stop its process,
for the first time or again. -/
inductive CancelHandled (limits : ValidationConfig) (content : σ → StoreState) (input : CancelInput) (id : JobId)
    (before after : JobManager σ) : Prop
  | answered (backend : σ) (outcome : JobCancelOutcome) (unchanged : content backend = content before.backend)
      (same : after = { before with backend }.emit [.cancelAck outcome])
  | dequeued (backend : σ) (outcome : JobCancelOutcome) (record : StoredJob) (attempt : Nat)
      (found : (content before.backend).jobs.find? id = some record) (queued : record.state = .queued)
      (run : applyMutation limits (content before.backend)
        ((moveTo .cancelled attempt record).mutation (content before.backend).revision) = .ok (content backend))
      (same : after = { before with backend, queue := (before.queue.remove id).2 }.emit [.cancelAck outcome])
  | stopped (backend : σ) (outcome : JobCancelOutcome) (record : StoredJob) (attempt : Nat)
      (found : (content before.backend).jobs.find? id = some record) (active : leaseable record.state = true)
      (run : applyMutation limits (content before.backend)
        ((moveTo .stopping attempt record).mutation (content before.backend).revision) = .ok (content backend))
      (same : after = ({ before with backend }.beginCancellation input id false).emit [.cancelAck outcome])
  | again (backend : σ) (outcome : JobCancelOutcome) (record : StoredJob)
      (found : (content before.backend).jobs.find? id = some record) (stopping : record.state = .stopping)
      (unchanged : content backend = content before.backend)
      (same : after = ({ before with backend }.beginCancellation input id false).emit [.cancelAck outcome])

/-- What a scheduling turn can do: the tables stay as they are, or a job leaves
the queue with a lease and is launched. -/
inductive Scheduled (limits : ValidationConfig) (content : σ → StoreState) (config : JobManagerConfig)
    (store : StateStore σ) (input : ScheduleInput) (trigger : SchedulerTrigger) (before after : JobManager σ) : Prop
  | idle (backend : σ) (evaluation : Option ScheduleEvaluation) (same : after = { before with backend, evaluation })
      (unchanged : content backend = content before.backend)
      (ran : before.gateOpen = true → input.readable = true → input.completed = true → ∀ snapshot,
        before.gpu.tryGetSnapshot = some snapshot →
          (runOnce store ⟨config.schedulerScanWindow⟩ trigger snapshot before.queue before.backend).result.code ≠
            .scheduled)
  | launched (snapshot : GpuObservationSnapshot) (record : StoredJob) (device : GpuObservation)
      (reason : GpuSelectionReason) (skips : List ScheduleSkip) (backend : σ) (evaluation : Option ScheduleEvaluation)
      (gate : before.gateOpen = true) (latest : before.gpu.tryGetSnapshot = some snapshot) (valid : snapshot.Valid)
      (found : (content before.backend).jobs.find? record.id = some record) (queued : record.state = .queued)
      (zero : record.revision = 0)
      (selected : evaluate ⟨config.schedulerScanWindow⟩ snapshot before.queue (content before.backend).snapshot =
        .selected record device reason skips)
      (run : applyMutation limits (content before.backend)
        (startMutation (content before.backend).snapshot record device.uuid) = .ok (content backend))
      (tables : content backend = started (content before.backend) record device.uuid)
      (launched : Launched limits content input.launch record.id
        { before with queue := (before.queue.remove record.id).2, backend, evaluation } after)
      (same : after = { before with queue := (before.queue.remove record.id).2, backend, evaluation }.launchScheduled
        config store input.launch record.id device.uuid)

section ExitRecord

variable (event : ExitEvent) (verdict : JobState × Option ByteString) (uuid : GpuUuid) (clock : Nat → TimePoint)
  (attempt : Nat) (current : StoredJob)

theorem exitRecord_id : (exitRecord event verdict uuid clock attempt current).record.id = current.id := by
  unfold exitRecord
  split <;> rfl

end ExitRecord

section Faithful

variable (faithful : Faithful limits store content)
include faithful

theorem processSubmit_submits (spec : JobSpec) (manager : JobManager σ) :
    SubmitMove limits (¬manager.Compensates store spec) spec manager.queue (content manager.backend)
      (manager.processSubmit store spec).queue (content (manager.processSubmit store spec).backend) := by
  unfold processSubmit
  rcases faithful.load_cases manager.backend with ⟨_, _, load, reads⟩ | ⟨loaded, load, reads⟩
  · rw [load]
    exact .of_same reads rfl
  · rw [load]
    simp only
    split
    · rename_i code refused
      exact .of_same ((faithful.apply_refused _ _ code refused).trans reads) rfl
    · rename_i accepted
      have run := faithful.apply_accepted _ _ accepted
      rw [reads] at run
      split
      · rename_i admitted
        exact .submitted run admitted
      · rename_i code rejected
        have sameQueue := GlobalJobQueue.admitJob_refused (by rw [rejected]; simp)
        have revision := faithful.apply_revision _ _ accepted
        simp only [emit, sameQueue]
        cases rollback : (store.apply
            (store.apply loaded (submissionMutation (content manager.backend).snapshot spec)).2
            (compensation (submissionRecord (content manager.backend).snapshot spec)
              (store.apply loaded (submissionMutation (content manager.backend).snapshot spec)).1.revision)).1.code with
        | none =>
          have back := faithful.apply_accepted _ _ rollback
          rw [revision] at back ⊢
          exact .takenBack run back
        | some error =>
          rw [faithful.apply_refused _ _ error rollback]
          refine .leftBehind ?_ run
          simp [Compensates, load, accepted, rejected, rollback]

theorem processCancel_handled (input : CancelInput) (id : JobId)
    (inv : StoreInvariant limits (content manager.backend)) :
    CancelHandled limits content input id manager (manager.processCancel store input id) := by
  unfold processCancel
  rcases faithful.load_cases manager.backend with ⟨_, _, load, reads⟩ | ⟨loaded, load, reads⟩
  · rw [load]
    exact .answered _ _ reads rfl
  · rw [load]
    have outcome (state : JobState) : RewriteOutcome limits id (moveTo state) (content manager.backend)
        (content (rewriteJob store id (moveTo state) loaded).2) (rewriteJob store id (moveTo state) loaded).1.code := by
      rw [← reads]
      exact rewriteJob_outcome faithful (by rwa [reads]) id (moveTo state)
    simp only
    rw [inv.findStored_eq]
    split
    · exact .answered _ _ reads rfl
    · rename_i record found
      cases state : record.state with
      | queued =>
        simp only
        split
        · rename_i refused
          exact .answered _ _ ((outcome .cancelled).refused_same (by simp [refused])) rfl
        · rename_i accepted
          obtain ⟨attempt, _, atCurrent, run⟩ := (outcome .cancelled).accepted_run accepted
          cases atCurrent.symm.trans found
          exact .dequeued _ _ record attempt found state run rfl
      | starting | running =>
        simp only
        split
        · rename_i refused
          exact .answered _ _ ((outcome .stopping).refused_same (by simp [refused])) rfl
        · rename_i accepted
          obtain ⟨attempt, _, atCurrent, run⟩ := (outcome .stopping).accepted_run accepted
          cases atCurrent.symm.trans found
          exact .stopped _ _ record attempt found (by rw [state]; rfl) run rfl
      | stopping => exact .again _ _ record found state reads rfl
      | cancelled | finished | failed | lost => exact .answered _ _ reads rfl

theorem processCancel_moves (input : CancelInput) (id : JobId) (inv : StoreInvariant limits (content manager.backend)) :
    Moves limits content left asked manager (manager.processCancel store input id) := by
  have frame (backend : σ) := beginCancellation_begun input id false { manager with backend }
  cases processCancel_handled faithful input id inv with
  | answered _ _ unchanged same =>
    rw [same]
    exact .of_same unchanged rfl
  | dequeued _ _ record attempt found queued run same =>
    rw [same]
    exact .cancelled id record (moveTo .cancelled attempt record) found queued (inv.jobKeys id record found) run
  | stopped backend _ record attempt found active run same =>
    have busy : record.state ≠ .queued := fun queued => by simp [queued, leaseable] at active
    have moved : Moves limits content left asked manager { manager with backend } :=
      .rewritten id record (moveTo .stopping attempt record) found busy (inv.jobKeys id record found) rfl run
    rw [same]
    exact moved.of_frame (frame backend).backend (congrArg Front.queue (frame backend).front)
  | again backend _ _ _ _ unchanged same =>
    rw [same]
    exact .of_same ((congrArg content (frame backend).backend).trans unchanged)
      (congrArg Front.queue (frame backend).front)

/-- A cancellation writes at most about its own job, and may signal its process. -/
theorem processCancel_cases (input : CancelInput) (target : JobId)
    (inv : StoreInvariant limits (content manager.backend)) :
    ∃ backend queue outcome middle, manager.processCancel store input target = middle.emit [.cancelAck outcome] ∧
      Rewrites limits target (content manager.backend) (content backend) ∧
      Begun input target { manager with backend, queue } middle := by
  cases processCancel_handled faithful input target inv with
  | answered backend outcome unchanged same =>
    exact ⟨backend, manager.queue, outcome, _, same, unchanged ▸ .none, .ignored rfl⟩
  | dequeued backend outcome record _ found _ run same =>
    exact ⟨backend, (manager.queue.remove target).2, outcome, _, same,
      .more .none _ (inv.jobKeys target record found) run, .ignored rfl⟩
  | stopped backend outcome record _ found _ run same =>
    exact ⟨backend, manager.queue, outcome, _, same, .more .none _ (inv.jobKeys target record found) run,
      beginCancellation_begun ..⟩
  | again backend outcome _ _ _ unchanged same =>
    exact ⟨backend, manager.queue, outcome, _, same, unchanged ▸ .none, beginCancellation_begun ..⟩

theorem scheduleNow_scheduled (config : JobManagerConfig) (input : ScheduleInput) (trigger : SchedulerTrigger)
    (inv : StoreInvariant limits (content manager.backend)) :
    Scheduled limits content config store input trigger manager (manager.scheduleNow config store input trigger) := by
  unfold scheduleNow
  split
  · rename_i blocked
    refine .idle manager.backend manager.evaluation rfl rfl ?_
    intro gate readable
    simp [gate, readable] at blocked
  · rename_i passed
    split
    · rename_i missing
      refine .idle manager.backend manager.evaluation rfl rfl ?_
      intro _ _ _ _ latest
      simp [missing] at latest
    · rename_i snapshot latest
      split
      · rename_i stopped
        refine .idle manager.backend manager.evaluation rfl rfl ?_
        intro _ _ completed
        simp [completed] at stopped
      · have records : ∀ loaded, (store.load manager.backend).1 = .ok loaded →
            DistinctIds loaded ∧ ∀ record ∈ loaded.jobs, record.spec.Valid := by
          intro loaded load
          cases faithful.load_snapshot manager.backend loaded load
          exact ⟨inv.distinctIds, fun record member => inv.specs record member⟩
        have reads := faithful.load_content manager.backend
        obtain ⟨outcome, atOutcome⟩ : ∃ outcome,
          runOnce store ⟨config.schedulerScanWindow⟩ trigger snapshot manager.queue manager.backend = outcome :=
        ⟨_, rfl⟩
        have turn := atOutcome ▸ runOnce_step records
        have ran : outcome.result.code ≠ .scheduled → ∀ other, manager.gpu.tryGetSnapshot = some other →
            (runOnce store ⟨config.schedulerScanWindow⟩ trigger other manager.queue manager.backend).result.code ≠
              .scheduled := by
          intro _ _ atOther
          cases latest.symm.trans atOther
          rwa [atOutcome]
        rw [atOutcome]
        cases turn with
        | idle sameQueue read code =>
          have unscheduled : outcome.result.scheduled = false := by simp [ScheduleResult.scheduled, code.1]
          have unchanged : content outcome.backend = content manager.backend := by
            rcases read with same | loaded
            · rw [same]
            · rw [loaded, reads]
          simp only [unscheduled, sameQueue]
          exact .idle outcome.backend _ rfl unchanged fun _ _ _ => ran code.1
        | refused _ _ _ _ _ written sameQueue after code =>
          have unscheduled : outcome.result.scheduled = false := by simp [ScheduleResult.scheduled, code]
          obtain ⟨error, refused⟩ := Option.ne_none_iff_exists'.mp written
          have unchanged : content outcome.backend = content manager.backend := by
            rw [after, faithful.apply_refused _ _ error refused, reads]
          simp only [unscheduled, sameQueue]
          exact .idle outcome.backend _ rfl unchanged fun _ _ _ => ran (by simp [code])
        | scheduled loaded record device reason skips valid load startable selected written removed after code job
            gpu =>
          have scheduled : outcome.result.scheduled = true := by simp [ScheduleResult.scheduled, code]
          have same := faithful.load_snapshot manager.backend loaded load
          subst same
          have run := faithful.apply_accepted _ _ written
          rw [reads, ← after] at run
          simp only [scheduled, job, gpu, removed]
          have gate : manager.gateOpen = true := by simpa using (not_or.mp passed).1
          exact .launched snapshot record device reason skips outcome.backend _ gate latest valid
            (inv.mem_snapshot.mp startable.stored) startable.queued startable.zero selected run
            (started_of_accepted startable.zero run)
            (launchScheduled_launched faithful config input.launch record.id device.uuid _ (inv.step run)) rfl

theorem scheduleNow_moves (config : JobManagerConfig) (input : ScheduleInput) (trigger : SchedulerTrigger)
    (inv : StoreInvariant limits (content manager.backend)) :
    Moves limits content left asked manager (manager.scheduleNow config store input trigger) := by
  cases scheduleNow_scheduled faithful config input trigger inv with
  | idle _ _ same unchanged =>
    rw [same]
    exact .of_same unchanged rfl
  | launched _ record device _ _ _ _ _ _ _ found queued _ _ run tables launched =>
    have rewrites := launched.rewrites
    have sameQueue : (manager.scheduleNow config store input trigger).queue = (manager.queue.remove record.id).2 :=
      congrArg Front.queue launched.front
    rw [Moves, sameQueue]
    exact .started record device.uuid found queued (tables ▸ run) (tables ▸ rewrites)

theorem processExit_moves (config : JobManagerConfig) (input : ExitInput) (event : ExitEvent)
    (inv : StoreInvariant limits (content manager.backend)) (busy : SupervisedBusy content manager) :
    Moves limits content left asked manager (manager.processExit config store input event) := by
  unfold processExit
  split
  · exact .of_same rfl rfl
  · rename_i id _
    split
    · exact .of_same rfl rfl
    · rename_i job found
      let compose := exitRecord event (exitVerdict job.cancelling event) job.leasedGpu input.endClock
      obtain ⟨record, stored, launched⟩ := busy id job found
      have outcome := rewriteJob_outcome faithful inv id compose
      have moved : Moves limits content left asked manager
          { manager with backend := (rewriteJob store id compose manager.backend).2 } := by
        cases outcome with
        | refused _ same => exact .of_same same rfl
        | accepted attempt _ _ atCurrent run =>
          cases atCurrent.symm.trans stored
          exact .rewritten id record (compose attempt record) stored launched
            ((exitRecord_id ..).trans (inv.jobKeys id record stored))
            (by simp only [compose, exitRecord]; split <;> rfl) run
      simp only
      split
      · exact moved.of_frame rfl rfl
      · exact moved.of_frame rfl rfl

end Faithful

section Supervised

/-- No job has come under supervision. -/
def SupervisedWithin (before after : JobManager σ) : Prop :=
  ∀ id job, after.supervised.find? id = some job → ∃ old, before.supervised.find? id = some old

theorem SupervisedWithin.of_eq (same : after.supervised = before.supervised) : SupervisedWithin before after :=
  fun _ job found => ⟨job, same ▸ found⟩

theorem SupervisedWithin.of_insert {job next : SupervisedJob} (found : before.supervised.find? id = some job)
    (same : after.supervised = before.supervised.insert id next) : SupervisedWithin before after := by
  intro _ entry atOther
  rw [same] at atOther
  obtain ⟨here, -⟩ | atOther := SortedMap.insert_cases atOther
  · exact ⟨job, here ▸ found⟩
  · exact ⟨entry, atOther⟩

theorem SupervisedWithin.of_erase (same : after.supervised = before.supervised.erase id) :
    SupervisedWithin before after := by
  intro _ entry atOther
  rw [same, SortedMap.find?_erase] at atOther
  split at atOther
  · simp at atOther
  · exact ⟨entry, atOther⟩

theorem SupervisedBusy.of_within (busy : SupervisedBusy content before) (within : SupervisedWithin before after)
    (never : NeverRequeued (content before.backend).jobs (content after.backend).jobs) :
    SupervisedBusy content after := by
  intro id job found
  obtain ⟨old, atOld⟩ := within id job found
  obtain ⟨record, stored, left⟩ := busy id old atOld
  exact never id record stored left

theorem Begun.within (begun : Begun input id before after) : SupervisedWithin before after := by
  cases begun with
  | ignored same => exact .of_eq (by rw [same])
  | signalled _ _ _ found _ _ _ same => exact .of_insert found (by rw [same]; rfl)

theorem processSubmit_frame (store : StateStore σ) (spec : JobSpec) (manager : JobManager σ) :
    ∃ backend queue outcome,
      manager.processSubmit store spec = { manager with backend, queue }.emit [.submitAck outcome] := by
  unfold processSubmit
  split
  · exact ⟨_, _, _, rfl⟩
  · simp only
    split
    · exact ⟨_, _, _, rfl⟩
    · split <;> exact ⟨_, _, _, rfl⟩

theorem processSubmit_supervised (spec : JobSpec) (manager : JobManager σ) :
    (manager.processSubmit store spec).supervised = manager.supervised := by
  obtain ⟨_, _, _, frame⟩ := processSubmit_frame store spec manager
  rw [frame]
  rfl

theorem processExit_within (input : ExitInput) (event : ExitEvent) (manager : JobManager σ) :
    SupervisedWithin manager (manager.processExit config store input event) := by
  unfold processExit
  split
  · exact .of_eq rfl
  · split
    · exact .of_eq rfl
    · rename_i found
      simp only
      split
      · exact .of_erase rfl
      · exact .of_insert found rfl

end Supervised

end Yori.JobManager
