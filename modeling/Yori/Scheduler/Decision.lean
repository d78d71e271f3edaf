import Yori.Queue.Restore
import Yori.Runtime.Submission
import Yori.Scheduler.Agreement
import Yori.Scheduler.Outcome
import Yori.Scheduler.Scan
import Yori.Scheduler.StartMutation
import Yori.Store.Backend

namespace Yori
open MutationCore List

/-- The job of an entry can be given a device now. -/
def EntrySatisfiable (gpuSnapshot : GpuObservationSnapshot) (state : StoreState) (entry : QueueEntry) : Prop :=
  ∃ record, state.jobs.find? entry.jobId = some record ∧
    Satisfiable gpuSnapshot state.snapshot record.spec.gpuPlacement

instance decidableEntrySatisfiable (gpuSnapshot : GpuObservationSnapshot) (state : StoreState) (entry : QueueEntry) :
    Decidable (EntrySatisfiable gpuSnapshot state entry) :=
  decidable_of_iff (∃ record ∈ state.jobs.find? entry.jobId,
    Satisfiable gpuSnapshot state.snapshot record.spec.gpuPlacement) Iff.rfl

/-- Some required job among the entries has the device in its set. -/
def NamedByRequired (state : StoreState) (entries : List QueueEntry) (uuid : GpuUuid) : Prop :=
  ∃ entry ∈ entries, ∃ record, state.jobs.find? entry.jobId = some record ∧
    record.spec.gpuPlacement.mode = .required ∧ uuid ∈ record.spec.gpuPlacement.devices

/-- The entries one evaluation looks at. -/
def windowEntries (config : SchedulerConfig) (queue : GlobalJobQueue) : List QueueEntry :=
  queue.entries.take config.scanWindow.toNat

variable {σ : Type} {store : StateStore σ} {limits : ValidationConfig} {config : SchedulerConfig}
  {trigger : SchedulerTrigger} {gpuSnapshot : GpuObservationSnapshot} {queue : GlobalJobQueue}
  {state : StoreState} {snapshot : StateSnapshot} {backend loaded : σ} {device : GpuObservation}
  {before : List QueueEntry} {record : StoredJob} {entry : QueueEntry}

theorem take_scanWindow : queue.entries.take (scanWindow config queue) = windowEntries config queue := by
  rw [scanWindow, windowEntries, ← take_take, take_length]

theorem evaluate_eq :
    evaluate config gpuSnapshot queue snapshot =
      scan gpuSnapshot snapshot (queuedRecords snapshot)
        (selectAnyGpu gpuSnapshot snapshot
          (collectAffinityTargets queue.entries (scanWindow config queue) (queuedRecords snapshot)))
        [] (windowEntries config queue) := by
  rw [← take_scanWindow]
  rfl

theorem namedByRequired_iff (agrees : QueueAgrees queue state) (inv : StoreInvariant limits state) {uuid : GpuUuid} :
    uuid ∈ collectAffinityTargets queue.entries (scanWindow config queue) (queuedRecords state.snapshot) ↔
      NamedByRequired state (windowEntries config queue) uuid := by
  rw [mem_collectAffinityTargets, take_scanWindow]
  refine exists_congr fun entry => and_congr_right fun member => exists_congr fun record => ?_
  rw [inv.queuedRecords_eq_some]
  constructor
  · intro ⟨⟨found, _⟩, rest⟩
    exact ⟨found, rest⟩
  · intro ⟨found, rest⟩
    obtain ⟨_, _, atOther, queued, _⟩ := agrees.stored inv (mem_of_mem_take member)
    cases found.symm.trans atOther
    exact ⟨⟨found, queued⟩, rest⟩

/-- An entry is passed over exactly because its job cannot be satisfied. -/
theorem not_satisfiable_of_passedOver {targets : List GpuUuid} (valid : gpuSnapshot.Valid)
    (agrees : QueueAgrees queue state) (inv : StoreInvariant limits state) (member : entry ∈ queue.entries)
    (passed : PassedOver gpuSnapshot state.snapshot (queuedRecords state.snapshot)
      (selectAnyGpu gpuSnapshot state.snapshot targets) entry) :
    ¬EntrySatisfiable gpuSnapshot state entry := by
  intro ⟨record, found, satisfiable⟩
  obtain ⟨_, atRecords, atOther, _⟩ := agrees.stored inv member
  cases found.symm.trans atOther
  exact selectGpu_none valid (passed record atRecords) satisfiable

/-- What a selection means in terms of the store. -/
structure Selected (config : SchedulerConfig) (gpuSnapshot : GpuObservationSnapshot) (queue : GlobalJobQueue)
    (state : StoreState) (before : List QueueEntry) (record : StoredJob) (device : GpuObservation) : Prop where
  inWindow : ∃ after, windowEntries config queue = before ++ QueueEntry.ofRecord record :: after
  found : state.jobs.find? record.id = some record
  queued : record.state = .queued
  revision : record.revision = 0
  usable : Usable gpuSnapshot state.snapshot device
  choice : Choice gpuSnapshot state.snapshot (NamedByRequired state (windowEntries config queue))
    record.spec.gpuPlacement device
  earlier : ∀ entry ∈ before, ¬EntrySatisfiable gpuSnapshot state entry

section

variable (valid : gpuSnapshot.Valid) (agrees : QueueAgrees queue state) (inv : StoreInvariant limits state)
  {skips : List ScheduleSkip}
include agrees inv

theorem windowEntries_stored : ∀ entry ∈ windowEntries config queue, ∃ record,
    (queuedRecords state.snapshot).find? entry.jobId = some record :=
  fun _ member => (agrees.stored inv (mem_of_mem_take member)).imp fun _ facts => facts.1

include valid

theorem evaluate_selected {reason : GpuSelectionReason}
    (run : evaluate config gpuSnapshot queue state.snapshot = .selected record device reason skips) :
    ∃ before, Selected config gpuSnapshot queue state before record device ∧
      skips.map (·.job) = before.map (·.jobId) := by
  rw [evaluate_eq] at run
  obtain ⟨before, entry, after, split, atEntry, selected, passed, jobs⟩ :=
    scan_selected (windowEntries_stored agrees inv) run
  have member : entry ∈ queue.entries := mem_of_mem_take (split ▸ by simp : entry ∈ windowEntries config queue)
  obtain ⟨_, atOther, found, queued, zero, same⟩ := agrees.stored inv member
  cases atEntry.symm.trans atOther
  obtain ⟨usable, choice⟩ := selectGpu_choice valid selected
  have named : (· ∈ collectAffinityTargets queue.entries (scanWindow config queue) (queuedRecords state.snapshot)) =
      NamedByRequired state (windowEntries config queue) :=
    funext fun uuid => propext (namedByRequired_iff agrees inv)
  rw [named] at choice
  subst same
  refine ⟨before, ⟨⟨after, split⟩, found, queued, zero, usable, choice, ?_⟩, by simpa using jobs⟩
  intro earlier atEarlier
  have inQueue : earlier ∈ queue.entries :=
    mem_of_mem_take (split ▸ mem_append_left _ atEarlier : earlier ∈ windowEntries config queue)
  exact not_satisfiable_of_passedOver valid agrees inv inQueue (passed earlier atEarlier)

theorem evaluate_exhausted (run : evaluate config gpuSnapshot queue state.snapshot = .exhausted skips) :
    (∀ entry ∈ windowEntries config queue, ¬EntrySatisfiable gpuSnapshot state entry) ∧
      skips.map (·.job) = (windowEntries config queue).map (·.jobId) := by
  rw [evaluate_eq] at run
  obtain ⟨passed, jobs⟩ := scan_exhausted (windowEntries_stored agrees inv) run
  refine ⟨?_, by simpa using jobs⟩
  intro entry member
  exact not_satisfiable_of_passedOver valid agrees inv (mem_of_mem_take member) (passed entry member)

end

section

variable (selected : Selected config gpuSnapshot queue state before record device)
include selected

theorem Selected.satisfiable :
    EntrySatisfiable gpuSnapshot state (.ofRecord record) :=
  ⟨record, selected.found, satisfiable_iff_fits.mpr ⟨device, fits_of_choice selected.usable selected.choice⟩⟩

theorem Selected.mem_queue :
    QueueEntry.ofRecord record ∈ queue.entries := by
  obtain ⟨_, split⟩ := selected.inWindow
  exact mem_of_mem_take (split ▸ by simp : _ ∈ windowEntries config queue)

/-- The first satisfiable entry is determined by the window. -/
theorem Selected.unique {front back : List QueueEntry}
    (split : windowEntries config queue = front ++ entry :: back)
    (earlier : ∀ other ∈ front, ¬EntrySatisfiable gpuSnapshot state other)
    (satisfiable : EntrySatisfiable gpuSnapshot state entry) : before = front ∧ QueueEntry.ofRecord record = entry := by
  obtain ⟨_, inWindow⟩ := selected.inWindow
  exact Search.first_unique (inWindow.symm.trans split) selected.earlier selected.satisfiable earlier satisfiable

end

/-- The decision of one call against a store that takes the write. The first
satisfiable entry of the window is scheduled on the device its placement calls
for, the entries before it are reported as skipped, and nothing is scheduled
exactly when no entry of the window is satisfiable. -/
theorem runOnce_decision {σ : Type} (store : StateStore σ) (limits : ValidationConfig) (config : SchedulerConfig)
    (trigger : SchedulerTrigger) (gpuSnapshot : GpuObservationSnapshot) (queue : GlobalJobQueue)
    (state : StoreState) (backend loaded : σ) (valid : gpuSnapshot.Valid) (inv : StoreInvariant limits state)
    (agrees : QueueAgrees queue state) (load : store.load backend = (.ok state.snapshot, loaded))
    (accepts : ∀ record device, state.jobs.find? record.id = some record → record.state = .queued →
      Usable gpuSnapshot state.snapshot device →
      (store.apply loaded (startMutation state.snapshot record device.uuid)).1.ok = true) :
    let outcome := runOnce store config trigger gpuSnapshot queue backend
    let window := windowEntries config queue
    (∀ before entry after, window = before ++ entry :: after →
      (∀ earlier ∈ before, ¬EntrySatisfiable gpuSnapshot state earlier) →
      EntrySatisfiable gpuSnapshot state entry →
        outcome.result.code = .scheduled ∧ outcome.result.event.jobId = some entry.jobId ∧
        (∃ record device, state.jobs.find? entry.jobId = some record ∧
          outcome.result.event.gpuUuid = some device.uuid ∧ Usable gpuSnapshot state.snapshot device ∧
          Choice gpuSnapshot state.snapshot (NamedByRequired state window) record.spec.gpuPlacement device) ∧
        outcome.result.evaluation.skipped.map (·.job) = before.map (·.jobId)) ∧
    (outcome.result.code = .noCandidate ↔
      queue.entries ≠ [] ∧ ∀ entry ∈ window, ¬EntrySatisfiable gpuSnapshot state entry) ∧
    (outcome.result.code = .noCandidate →
      outcome.result.evaluation.skipped.map (·.job) = window.map (·.jobId)) ∧
    (outcome.result.code = .scheduled ↔ ∃ entry ∈ window, EntrySatisfiable gpuSnapshot state entry) := by
  intro outcome window
  have consistent : checkConsistency config queue state.snapshot = .ok () := agrees.consistent inv
  by_cases empty : queue.entries = []
  · have same : outcome = _ := runOnce_empty valid load consistent empty
    have nothing : window = [] := by simp [window, windowEntries, empty]
    simp [same, nothing, empty, ScheduleResult.ofEvent]
  · have same : outcome = _ := runOnce_evaluated valid load consistent empty
    cases run : evaluate config gpuSnapshot queue state.snapshot with
    | exhausted skips =>
      obtain ⟨unsatisfiable, jobs⟩ := evaluate_exhausted valid agrees inv run
      simp only [run] at same
      have code : outcome.result.code = .noCandidate := by rw [same]; rfl
      have skipped : outcome.result.evaluation.skipped = skips := by rw [same]; rfl
      refine ⟨?_, ?_, ?_, ?_⟩
      · intro _ entry _ split _ satisfiable
        have member : entry ∈ window := by simp [split]
        exact absurd satisfiable (unsatisfiable entry member)
      · exact ⟨fun _ => ⟨empty, unsatisfiable⟩, fun _ => code⟩
      · intro _
        rw [skipped, jobs]
      · refine ⟨fun scheduled => by simp [code] at scheduled, ?_⟩
        rintro ⟨entry, member, satisfiable⟩
        exact absurd satisfiable (unsatisfiable entry member)
    | selected record device =>
      obtain ⟨_, selected, jobs⟩ := evaluate_selected valid agrees inv run
      simp only [run] at same
      have accepted : (store.apply loaded (startMutation state.snapshot record device.uuid)).1.code = none := by
        simpa [StateStoreWriteResult.ok] using accepts record device selected.found selected.queued selected.usable
      obtain ⟨result, _⟩ := commit_accepted selected.mem_queue accepted
      rw [← same] at result
      have code : outcome.result.code = .scheduled := by rw [result]; rfl
      obtain ⟨_, inWindow⟩ := selected.inWindow
      have member : QueueEntry.ofRecord record ∈ window := by simp [window, inWindow]
      refine ⟨?_, ?_, ?_, ?_⟩
      · intro _ _ _ split earlier satisfiable
        obtain ⟨sameFront, sameEntry⟩ := selected.unique split earlier satisfiable
        subst sameFront
        subst sameEntry
        refine ⟨code, by rw [result]; rfl, ?_, by rw [result]; exact jobs⟩
        exact ⟨record, device, selected.found, by rw [result]; rfl, selected.usable, selected.choice⟩
      · refine ⟨fun none => by simp [code] at none, ?_⟩
        rintro ⟨_, unsatisfiable⟩
        exact absurd selected.satisfiable (unsatisfiable _ member)
      · intro none
        simp [code] at none
      · exact ⟨fun _ => ⟨_, member, selected.satisfiable⟩, fun _ => code⟩

/-- Two submissions, of which the first asks for a device that is not there. -/
def twoJobs : InMemoryStateStore :=
  { state := submitAll {} [.minimal 1 ⟨.required, [⟨.ascii "GPU-1"⟩]⟩, .minimal 2 {}] }

def twoJobsQueue : GlobalJobQueue := ((GlobalJobQueue.empty 8).restore twoJobs.state.snapshot).2

theorem twoJobs_agree : QueueAgrees twoJobsQueue twoJobs.state :=
  (GlobalJobQueue.restore_applied (by decide)).1

theorem twoJobs_accept : ∀ mutation next, applyMutation {} twoJobs.state mutation = .ok next →
    ((InMemoryStateStore.store {}).apply twoJobs mutation).1.ok = true := by
  intro _ _ accepted
  have healthy : twoJobs.failure = none ∧ twoJobs.nextApplyFailure = none := ⟨rfl, rfl⟩
  simp [InMemoryStateStore.store, InMemoryStateStore.apply, healthy, accepted, StateStoreWriteResult.ok]

theorem runOnce_decision_second_job :
    let outcome := runOnce (InMemoryStateStore.store {}) {} .jobSubmitted (.allFree [⟨.ascii "GPU-0"⟩]) twoJobsQueue
      twoJobs
    outcome.result.code = .scheduled ∧ outcome.result.event.jobId = some ⟨2⟩ ∧
      outcome.result.evaluation.skipped.map (·.job) = [⟨1⟩] := by
  intro _
  have inv : StoreInvariant {} twoJobs.state := submitAll_invariant _ _
  have valid : (GpuObservationSnapshot.allFree [⟨.ascii "GPU-0"⟩]).Valid := by decide
  have decision := (runOnce_decision (InMemoryStateStore.store {}) {} {} .jobSubmitted (.allFree [⟨.ascii "GPU-0"⟩])
    twoJobsQueue twoJobs.state twoJobs twoJobs valid inv twoJobs_agree rfl (by
      intro _ _ found queued usable
      exact twoJobs_accept _ _ (startMutation_accepted inv valid found queued usable (by decide) (by decide)))).1
    [⟨⟨1⟩, 1⟩] ⟨⟨2⟩, 2⟩ [] (by decide) (by decide) (by decide)
  exact ⟨decision.1, decision.2.1, decision.2.2.2⟩

end Yori
