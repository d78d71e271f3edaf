import Yori.Scheduler.Decision

namespace Yori
open MachineWord MutationCore

/-- The scheduler's own write is never the reason for a failed step. Against a
store that decides as the mutation core does, a selected job starts with one
new lease, nothing else changes, and the job alone leaves the queue. -/
theorem runOnce_write_accepted {σ : Type} (store : StateStore σ) (limits : ValidationConfig)
    (config : SchedulerConfig) (trigger : SchedulerTrigger) (gpuSnapshot : GpuObservationSnapshot)
    (queue : GlobalJobQueue) (state : StoreState) (backend loaded : σ) (valid : gpuSnapshot.Valid)
    (inv : StoreInvariant limits state) (agrees : QueueAgrees queue state)
    (load : store.load backend = (.ok state.snapshot, loaded))
    (unchanged : ∀ mutation next, applyMutation limits state mutation = .ok next →
      (store.apply loaded mutation).1.ok = true)
    (below : state.revision ≠ max64) (room : state.leases.size < limits.maxLeases) :
    let outcome := runOnce store config trigger gpuSnapshot queue backend
    (∀ record device reason skips,
      evaluate config gpuSnapshot queue state.snapshot = .selected record device reason skips →
        state.jobs.find? record.id = some record ∧ record.state = .queued ∧
        state.leases.find? device.uuid = none ∧
        applyMutation limits state (startMutation state.snapshot record device.uuid) =
          .ok ⟨state.jobs.insert record.id { record with state := .starting, revision := 1 },
            state.leases.insert device.uuid ⟨device.uuid, record.id⟩, state.revision + 1⟩ ∧
        outcome.result.code = .scheduled ∧ outcome.result.event.jobId = some record.id ∧
        outcome.result.event.gpuUuid = some device.uuid ∧
        outcome.backend = (store.apply loaded (startMutation state.snapshot record device.uuid)).2 ∧
        outcome.queue.entries = queue.entries.filter (·.jobId ≠ record.id)) ∧
    outcome.result.code ≠ .stateWriteFailed := by
  intro outcome
  have consistent : checkConsistency config queue state.snapshot = .ok () := agrees.consistent inv
  by_cases empty : queue.entries = []
  · have same : outcome = _ := runOnce_empty valid load consistent empty
    refine ⟨?_, by simp [same, ScheduleResult.ofEvent]⟩
    intro _ _ _ _ run
    obtain ⟨_, selected, _⟩ := evaluate_selected valid agrees inv run
    have present := selected.mem_queue
    simp [empty] at present
  · have same : outcome = _ := runOnce_evaluated valid load consistent empty
    cases run : evaluate config gpuSnapshot queue state.snapshot with
    | exhausted =>
      simp only [run] at same
      exact ⟨by simp, by simp [same, ScheduleResult.ofEvent]⟩
    | selected record device =>
      obtain ⟨_, selected, _⟩ := evaluate_selected valid agrees inv run
      have next := startMutation_accepted inv valid selected.found selected.queued selected.usable below room
      have accepted : (store.apply loaded (startMutation state.snapshot record device.uuid)).1.code = none := by
        simpa [StateStoreWriteResult.ok] using unchanged _ _ next
      obtain ⟨result, removed, after⟩ := commit_accepted selected.mem_queue accepted
      simp only [run] at same
      rw [← same] at result removed after
      have code : outcome.result.code = .scheduled := by rw [result]; rfl
      refine ⟨?_, by simp [code]⟩
      intro _ _ _ _ equal
      cases equal
      exact ⟨selected.found, selected.queued, inv.unleased selected.usable, next, code, by rw [result]; rfl,
        by rw [result]; rfl, after, by rw [removed, GlobalJobQueue.remove_entries]⟩

theorem runOnce_write_accepted_second_job :
    (runOnce (InMemoryStateStore.store {}) {} .jobSubmitted (.allFree [⟨.ascii "GPU-0"⟩]) twoJobsQueue
      twoJobs).queue.entries = twoJobsQueue.entries.filter (·.jobId ≠ ⟨2⟩) :=
  ((runOnce_write_accepted (InMemoryStateStore.store {}) {} {} .jobSubmitted (.allFree [⟨.ascii "GPU-0"⟩])
    twoJobsQueue twoJobs.state twoJobs twoJobs (by decide) (submitAll_invariant _ _) twoJobs_agree rfl twoJobs_accept
    (by decide) (by decide)).1 { id := ⟨2⟩, spec := .minimal 2 {} } { uuid := ⟨.ascii "GPU-0"⟩, state := .free }
    .default [⟨⟨1⟩, .affinityGpuState, none⟩] (by decide)).2.2.2.2.2.2.2.2

end Yori
