import Yori.Scheduler.Consistency

namespace Yori

variable {σ γ : Type} {store : StateStore σ} {config : SchedulerConfig} {trigger : SchedulerTrigger}
  {gpuSnapshot : GpuObservationSnapshot} {queue : GlobalJobQueue} {snapshot : StateSnapshot} {backend loaded : σ}
  {record : StoredJob} {device : GpuObservation} {reason : GpuSelectionReason} {evaluation : ScheduleEvaluation}

/-- An accepted write: the job has left the queue with its device. -/
theorem commit_accepted (present : QueueEntry.ofRecord record ∈ queue.entries)
    (accepted : (store.apply backend (startMutation snapshot record device.uuid)).1.code = none) :
    (commit store trigger queue snapshot backend record device reason evaluation).result =
        .ofEvent { trigger, code := .scheduled, jobId := some record.id, gpuUuid := some device.uuid,
                   selectionReason := reason,
                   storeRevision := (store.apply backend (startMutation snapshot record device.uuid)).1.revision }
          evaluation ∧
      (commit store trigger queue snapshot backend record device reason evaluation).queue =
        (queue.remove record.id).2 ∧
      (commit store trigger queue snapshot backend record device reason evaluation).backend =
        (store.apply backend (startMutation snapshot record device.uuid)).2 := by
  have removed : (queue.remove record.id).1.code = none := (GlobalJobQueue.remove_present present).1
  simp only [commit, removed, accepted, and_self]

section

variable (valid : gpuSnapshot.Valid) (load : store.load backend = (.ok snapshot, loaded))
include valid load

/-- The evaluation of a consistent, non-empty queue. -/
theorem runOnce_evaluated (consistent : checkConsistency config queue snapshot = .ok ())
    (nonempty : queue.entries ≠ []) :
    runOnce store config trigger gpuSnapshot queue backend =
      match evaluate config gpuSnapshot queue snapshot with
      | .selected record device reason skipped =>
        commit store trigger queue snapshot loaded record device reason
          ⟨skipped, decide (queue.entries.length > scanWindow config queue)⟩
      | .exhausted skipped =>
        ⟨.ofEvent { trigger, code := .noCandidate, storeRevision := snapshot.revision }
          ⟨skipped, decide (queue.entries.length > scanWindow config queue)⟩, queue, loaded⟩ := by
  have passed : validateSnapshot gpuSnapshot = .ok () := valid
  unfold runOnce
  cases scanned : evaluate config gpuSnapshot queue snapshot with
  | selected | exhausted => simp only [passed, load, consistent, nonempty, if_false, scanned]

theorem runOnce_empty (consistent : checkConsistency config queue snapshot = .ok ()) (empty : queue.entries = []) :
    runOnce store config trigger gpuSnapshot queue backend =
      ⟨.ofEvent { trigger, code := .queueEmpty, storeRevision := snapshot.revision }, queue, loaded⟩ := by
  have passed : validateSnapshot gpuSnapshot = .ok () := valid
  unfold runOnce
  simp only [passed, load, consistent, empty, if_true]

theorem runOnce_diverged {divergence : QueueDivergence}
    (diverged : checkConsistency config queue snapshot = .error divergence) :
    let outcome := runOnce store config trigger gpuSnapshot queue backend
    outcome.result.code = .queueStateDiverged ∧ outcome.queue = queue ∧ outcome.backend = loaded := by
  have passed : validateSnapshot gpuSnapshot = .ok () := valid
  unfold runOnce
  simp only [passed, load, diverged, ScheduleResult.ofEvent, and_self]

end

end Yori
