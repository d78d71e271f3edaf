import Yori.Ipc.Server
import Yori.Runtime.Handlers
import Yori.Scheduler.WaitReasons

/-! What the components of the daemon give to the service: valid observations, evaluations that name observed devices,
and answers that a response can carry. -/

namespace Yori
open Checked ByteString JobState

/-- Only observations that pass their check are published. -/
theorem GpuManager.sampleOnce_valid {manager : GpuManager} (input : SampleInput)
    (valid : ∀ snapshot, manager.snapshot = some snapshot → snapshot.Valid) :
    ∀ snapshot, (manager.sampleOnce input).snapshot = some snapshot → snapshot.Valid := by
  have sent (event : GpuManagerEvent) (manager : GpuManager) :
      (manager.sendEvent event).2.snapshot = manager.snapshot := by
    unfold sendEvent
    split <;> rfl
  have failed (error : GpuProviderErrorCode) : (manager.recordFailure error).snapshot = manager.snapshot := by
    unfold recordFailure
    simp only
    split
    · rw [sent]
    · rfl
  have succeeded (revision : UInt64) (manager : GpuManager) :
      (manager.recordSuccess revision).snapshot = manager.snapshot := by
    unfold recordSuccess
    split
    · rw [sent]
    · rfl
  have announced (revision : UInt64) (states : StateMap) (manager : GpuManager) :
      (manager.announce revision states).snapshot = manager.snapshot := by
    unfold announce
    split
    · rfl
    · simp only
      split
      · rfl
      · split
        · exact sent _ manager
        · exact sent _ manager
  intro snapshot found
  unfold sampleOnce at found
  split at found
  · rw [failed] at found
    exact valid snapshot found
  · split at found
    · rw [failed] at found
      exact valid snapshot found
    · rename_i observed _ _ passed
      split at found
      · exact valid snapshot found
      · simp only at found
        have published : some observed = some snapshot := by
          split at found
          · rwa [succeeded] at found
          · rwa [announced, succeeded] at found
        cases published
        exact passed

/-- The targets that an evaluation names are devices that were observed. -/
theorem runOnce_targets {σ : Type} {store : StateStore σ} {config : SchedulerConfig} {trigger : SchedulerTrigger}
    {gpuSnapshot : GpuObservationSnapshot} {snapshot : StateSnapshot} {queue : GlobalJobQueue} {backend loaded : σ}
    (valid : gpuSnapshot.Valid) (load : store.load backend = (.ok snapshot, loaded))
    (consistent : checkConsistency config queue snapshot = .ok ()) :
    ∀ skip ∈ (runOnce store config trigger gpuSnapshot queue backend).result.evaluation.skipped,
      ∀ target, skip.target = some target → target.valid = true := by
  intro _ member target found
  have passed := runOnce_skips valid load consistent member
  rw [evaluate_eq] at passed
  rcases scan_skips passed with nothing | ⟨entry, _, record, _, missing, rfl⟩
  · cases nothing
  · have truthful := skipReason_truthful valid entry.jobId missing
    by_cases required : record.spec.gpuPlacement.mode = .required
    · rw [TruthfulSkip, required] at truthful
      obtain ⟨device, rfl, ⟨observed, _⟩, _⟩ := (truthful.target target).mp found
      exact valid.devices_ok.1 device observed
    · rw [skipReason, if_neg required] at found
      cases found

theorem QueueErrorCode.writable_toString (code : QueueErrorCode) : Wire.Writable code.toString := by
  cases code <;> decide

namespace JobManager

variable {σ : Type} {store : StateStore σ} {manager : JobManager σ}

theorem rejectionDetail_writable (code : QueueErrorCode) (rollback : StateStoreWriteResult) :
    Wire.Writable (rejectionDetail code rollback) := by
  rw [rejectionDetail]
  split
  · exact code.writable_toString
  · rename_i failure _
    cases code <;> cases failure <;> decide

theorem removalDetail_writable (removal : QueueOperationResult) : Wire.Writable (removalDetail removal) := by
  rw [removalDetail]
  split
  · decide
  · decide
  · rename_i code _ _
    cases code <;> decide

/-- A submission is answered with a text that a response can carry. -/
theorem processSubmit_answers (spec : JobSpec) : ∃ before answer,
    (manager.processSubmit store spec).log = before ++ [.submitAck answer] ∧ Wire.Writable answer.detail := by
  unfold processSubmit
  split
  · rename_i code _ _
    exact ⟨_, _, rfl, code.writable_toString⟩
  · simp only
    split
    · rename_i code _
      exact ⟨_, _, rfl, code.writable_toString⟩
    · split
      · exact ⟨_, _, rfl, show Wire.Writable [] by decide⟩
      · exact ⟨_, _, rfl, rejectionDetail_writable _ _⟩

/-- So is a cancellation, with a state that the protocol knows. -/
theorem processCancel_answers (input : CancelInput) (id : JobId) : ∃ before answer,
    (manager.processCancel store input id).log = before ++ [.cancelAck answer] ∧ Wire.Writable answer.detail ∧
      answer.state ≤ underlyingJobStateMax := by
  have nothing : Wire.Writable [] := by decide
  unfold processCancel
  split
  · rename_i code _ _
    exact ⟨_, _, rfl, code.writable_toString, UInt8.zero_le⟩
  · split
    · exact ⟨_, _, rfl, show Wire.Writable (ascii "job not found") by decide, UInt8.zero_le⟩
    · rename_i record _
      cases state : record.state with
      | queued =>
        simp only
        split
        · rename_i code _
          exact ⟨_, _, rfl, code.writable_toString, UInt8.zero_le⟩
        · exact ⟨_, _, rfl, removalDetail_writable _, cancelled.wire_le⟩
      | starting | running =>
        simp only
        split
        · rename_i code _
          exact ⟨_, _, rfl, code.writable_toString, UInt8.zero_le⟩
        · exact ⟨_, _, rfl, nothing, stopping.wire_le⟩
      | stopping => exact ⟨_, _, rfl, nothing, stopping.wire_le⟩
      | cancelled => exact ⟨_, _, rfl, nothing, cancelled.wire_le⟩
      | finished => exact ⟨_, _, rfl, finished.writable_toString, finished.wire_le⟩
      | failed => exact ⟨_, _, rfl, failed.writable_toString, failed.wire_le⟩
      | lost => exact ⟨_, _, rfl, lost.writable_toString, lost.wire_le⟩

end JobManager

end Yori
