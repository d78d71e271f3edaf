import Yori.Scheduler.Decision

namespace Yori
open InMemoryStateStore ScheduleResult QueueEntry

/-- The queue and the stored queued jobs disagree: they name different jobs, or
an entry of the window does not carry the fields of its record. -/
def Diverges (config : SchedulerConfig) (queue : GlobalJobQueue) (snapshot : StateSnapshot) : Prop :=
  (∃ id, ¬((∃ entry ∈ queue.entries, entry.jobId = id) ↔
    ∃ record ∈ snapshot.jobs, record.state = .queued ∧ record.id = id)) ∨
  ∃ entry ∈ windowEntries config queue, ∃ record ∈ snapshot.jobs, record.state = .queued ∧
    record.id = entry.jobId ∧ (record.spec.submitTime ≠ entry.submitTime ∨ record.revision ≠ 0)

section Runs

variable {σ γ : Type} {store : StateStore σ} {content : σ → γ} {config : SchedulerConfig}
  {trigger : SchedulerTrigger} {gpuSnapshot : GpuObservationSnapshot} {queue : GlobalJobQueue}
  {snapshot : StateSnapshot} {backend loaded : σ}

theorem Diverges.not_consistent (distinct : DistinctIds snapshot) (diverges : Diverges config queue snapshot) :
    checkConsistency config queue snapshot ≠ .ok () := by
  intro consistent
  obtain ⟨sameIds, fields⟩ := checkConsistency_eq_ok.mp consistent
  have stored : ∀ id, (∃ record, (queuedRecords snapshot).find? id = some record) ↔
      ∃ record ∈ snapshot.jobs, record.state = .queued ∧ record.id = id := fun id =>
    exists_congr fun record => queuedRecords_eq_some distinct
  rcases diverges with ⟨id, different⟩ | ⟨entry, member, record, atRecord, queued, same, disagree⟩
  · exact different ((sameIds id).trans (stored id))
  · rw [take_scanWindow] at fields
    obtain ⟨time, zero⟩ := fields entry member record ((queuedRecords_eq_some distinct).mpr ⟨atRecord, queued, same⟩)
    rcases disagree with time' | revision
    · exact time' time
    · exact revision zero

/-- A selected record is the stored one of its entry. -/
theorem evaluate_selected_stored {record : StoredJob} {device : GpuObservation} {reason : GpuSelectionReason}
    {skips : List ScheduleSkip} (distinct : DistinctIds snapshot)
    (consistent : checkConsistency config queue snapshot = .ok ())
    (run : evaluate config gpuSnapshot queue snapshot = .selected record device reason skips) :
    ofRecord record ∈ queue.entries ∧ record ∈ snapshot.jobs ∧ record.state = .queued ∧
      record.revision = 0 := by
  obtain ⟨sameIds, fields⟩ := checkConsistency_eq_ok.mp consistent
  rw [take_scanWindow] at fields
  rw [evaluate_eq] at run
  have stored : ∀ entry ∈ windowEntries config queue, ∃ record,
      (queuedRecords snapshot).find? entry.jobId = some record := fun entry member =>
    (sameIds entry.jobId).mp ⟨entry, List.mem_of_mem_take member, rfl⟩
  obtain ⟨_, entry, _, split, atEntry, _⟩ := scan_selected stored run
  have member : entry ∈ windowEntries config queue := split ▸ by simp
  obtain ⟨time, zero⟩ := fields entry member record atEntry
  obtain ⟨atRecord, queued, same⟩ := (queuedRecords_eq_some distinct).mp atEntry
  have whole : ofRecord record = entry := by
    cases entry
    simp only [ofRecord, QueueEntry.mk.injEq]
    exact ⟨same, time⟩
  exact ⟨whole ▸ List.mem_of_mem_take member, atRecord, queued, zero⟩

/-- A record the scheduler may start: it is stored, queued and in the queue. -/
structure Startable (queue : GlobalJobQueue) (snapshot : StateSnapshot) (record : StoredJob) : Prop where
  present : ofRecord record ∈ queue.entries
  stored : record ∈ snapshot.jobs
  queued : record.state = .queued
  zero : record.revision = 0

/-- The three ways a call can end, as far as the queue and the store go. -/
inductive RunOnceStep (store : StateStore σ) (config : SchedulerConfig) (gpuSnapshot : GpuObservationSnapshot)
    (queue : GlobalJobQueue) (backend : σ) (outcome : RunOnceOutcome σ) : Prop
  | idle (sameQueue : outcome.queue = queue)
      (read : outcome.backend = backend ∨ outcome.backend = (store.load backend).2)
      (code : outcome.result.code ≠ .scheduled ∧ outcome.result.code ≠ .queueRollbackFailed)
  | refused (snapshot : StateSnapshot) (record : StoredJob) (device : GpuObservation)
      (load : (store.load backend).1 = .ok snapshot) (startable : Startable queue snapshot record)
      (written : (store.apply (store.load backend).2 (startMutation snapshot record device.uuid)).1.code ≠ none)
      (sameQueue : outcome.queue = queue)
      (after : outcome.backend = (store.apply (store.load backend).2 (startMutation snapshot record device.uuid)).2)
      (code : outcome.result.code = .stateWriteFailed)
  | scheduled (snapshot : StateSnapshot) (record : StoredJob) (device : GpuObservation)
      (reason : GpuSelectionReason) (skips : List ScheduleSkip) (valid : gpuSnapshot.Valid)
      (load : (store.load backend).1 = .ok snapshot) (startable : Startable queue snapshot record)
      (selected : evaluate config gpuSnapshot queue snapshot = .selected record device reason skips)
      (written : (store.apply (store.load backend).2 (startMutation snapshot record device.uuid)).1.code = none)
      (removed : outcome.queue = (queue.remove record.id).2)
      (after : outcome.backend = (store.apply (store.load backend).2 (startMutation snapshot record device.uuid)).2)
      (code : outcome.result.code = .scheduled) (job : outcome.result.event.jobId = some record.id)
      (gpu : outcome.result.event.gpuUuid = some device.uuid)

theorem runOnce_step
    (records : ∀ snapshot, (store.load backend).1 = .ok snapshot →
      DistinctIds snapshot ∧ ∀ record ∈ snapshot.jobs, record.spec.Valid) :
    RunOnceStep store config gpuSnapshot queue backend (runOnce store config trigger gpuSnapshot queue backend) := by
  cases checked : validateSnapshot gpuSnapshot with
  | error =>
    simp only [runOnce, checked]
    exact .idle rfl (.inl rfl) (by simp [ofEvent])
  | ok =>
    have valid : gpuSnapshot.Valid := checked
    cases load : (store.load backend).1 with
    | error =>
      simp only [runOnce, checked, load]
      exact .idle rfl (.inr rfl) (by simp [ofEvent])
    | ok snapshot =>
      have whole : store.load backend = (.ok snapshot, (store.load backend).2) := Prod.ext load rfl
      obtain ⟨distinct, specs⟩ := records snapshot load
      cases consistent : checkConsistency config queue snapshot with
      | error =>
        obtain ⟨code, sameQueue, sameBackend⟩ := runOnce_diverged valid whole consistent
        exact .idle sameQueue (.inr sameBackend) (by simp [code])
      | ok =>
        by_cases empty : queue.entries = []
        · rw [runOnce_empty valid whole consistent empty]
          exact .idle rfl (.inr rfl) (by simp [ofEvent])
        · rw [runOnce_evaluated valid whole consistent empty]
          cases selected : evaluate config gpuSnapshot queue snapshot with
          | exhausted => exact .idle rfl (.inr rfl) (by simp [ofEvent])
          | selected record device reason skips =>
            obtain ⟨present, stored, queued, zero⟩ := evaluate_selected_stored distinct consistent selected
            have startable : Startable queue snapshot record := ⟨present, stored, queued, zero⟩
            cases written : (store.apply (store.load backend).2 (startMutation snapshot record device.uuid)).1.code with
            | none =>
              obtain ⟨result, removed, after⟩ := commit_accepted present written
              exact .scheduled snapshot record device reason skips valid load startable selected written removed after
                (by rw [result]; rfl) (by rw [result]; rfl) (by rw [result]; rfl)
            | some =>
              have removed : (queue.remove record.id).1.code = none := (GlobalJobQueue.remove_present present).1
              -- the job is back at its old place
              obtain ⟨admitted, restored⟩ := GlobalJobQueue.admitJob_remove (specs record stored) queued zero present
              refine .refused snapshot record device load startable (by simp [written]) ?_ ?_ ?_ <;>
                simp only [commit, removed, written, admitted, restored, ofEvent]

end Runs

/-- A call that does not schedule leaves the queue and the store as they were,
the way back into the queue never fails, and a queue that disagrees with the
store is reported and not used. -/
theorem runOnce_atomic {σ γ : Type} (store : StateStore σ) (content : σ → γ) (config : SchedulerConfig)
    (trigger : SchedulerTrigger) (gpuSnapshot : GpuObservationSnapshot) (queue : GlobalJobQueue) (backend : σ)
    (reads : ∀ backend, content (store.load backend).2 = content backend)
    (refusals : ∀ backend mutation, (store.apply backend mutation).1.ok = false →
      content (store.apply backend mutation).2 = content backend)
    (records : ∀ snapshot, (store.load backend).1 = .ok snapshot →
      DistinctIds snapshot ∧ ∀ record ∈ snapshot.jobs, record.spec.Valid) :
    let outcome := runOnce store config trigger gpuSnapshot queue backend
    (outcome.result.code ≠ .scheduled → outcome.queue = queue ∧ content outcome.backend = content backend) ∧
      outcome.result.code ≠ .queueRollbackFailed ∧
      (∀ snapshot, gpuSnapshot.Valid → (store.load backend).1 = .ok snapshot → Diverges config queue snapshot →
        outcome.result.code = .queueStateDiverged ∧ outcome.queue = queue ∧
          content outcome.backend = content backend) := by
  intro outcome
  have step : RunOnceStep store config gpuSnapshot queue backend outcome := runOnce_step records
  have unscheduled : outcome.result.code ≠ .scheduled →
      outcome.queue = queue ∧ content outcome.backend = content backend := by
    intro notScheduled
    cases step with
    | idle sameQueue read =>
      rcases read with same | loaded
      · exact ⟨sameQueue, congrArg content same⟩
      · exact ⟨sameQueue, by rw [loaded, reads]⟩
    | refused snapshot record device load _ written sameQueue after =>
      refine ⟨sameQueue, ?_⟩
      have failed : (store.apply (store.load backend).2 (startMutation snapshot record device.uuid)).1.ok = false := by
        simpa [StateStoreWriteResult.ok, Option.isSome_iff_ne_none] using written
      rw [after, refusals _ _ failed, reads]
    | scheduled _ _ _ _ _ _ _ _ _ _ _ _ code => exact absurd code notScheduled
  refine ⟨unscheduled, ?_, ?_⟩
  · cases step with
    | idle _ _ code => exact code.2
    | refused _ _ _ _ _ _ _ _ code | scheduled _ _ _ _ _ _ _ _ _ _ _ _ code => simp [code]
  · intro snapshot valid load diverges
    have distinct := (records snapshot load).1
    cases consistent : checkConsistency config queue snapshot with
    | ok => exact absurd consistent (diverges.not_consistent distinct)
    | error =>
      have whole : store.load backend = (.ok snapshot, (store.load backend).2) := Prod.ext load rfl
      have code : outcome.result.code = .queueStateDiverged := (runOnce_diverged valid whole consistent).1
      exact ⟨code, unscheduled (by simp [code])⟩

theorem runOnce_atomic_refused_write :
    let memory : InMemoryStateStore := { twoJobs with nextApplyFailure := some .backendUnavailable }
    let outcome := runOnce (store {}) {} .jobSubmitted (.allFree [⟨.ascii "GPU-0"⟩]) twoJobsQueue
      memory
    outcome.queue = twoJobsQueue ∧ outcome.backend.state = twoJobs.state := by
  have inv : StoreInvariant {} twoJobs.state := submitAll_invariant _ _
  have faithful := faithful {}
  refine (runOnce_atomic (store {}) state {} .jobSubmitted
    (.allFree [⟨.ascii "GPU-0"⟩]) twoJobsQueue { twoJobs with nextApplyFailure := some .backendUnavailable }
    faithful.load_content ?_ ?_).1 (by decide)
  · intro backend mutation failed
    obtain ⟨error, code⟩ := Option.isSome_iff_exists.mp (by simpa [StateStoreWriteResult.ok] using failed)
    exact faithful.apply_refused backend mutation error code
  · intro snapshot loaded
    cases faithful.load_snapshot _ snapshot loaded
    exact ⟨inv.distinctIds, fun record member => inv.specs record member⟩

end Yori
