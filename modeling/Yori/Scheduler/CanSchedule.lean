import Yori.Runtime.GpuManager
import Yori.Scheduler.Atomic

namespace Yori
open Checked MachineWord MutationCore

variable {σ : Type} {store : StateStore σ} {content : σ → StoreState} {limits : ValidationConfig}
  {config : SchedulerConfig} {trigger : SchedulerTrigger} {gpuSnapshot other : GpuObservationSnapshot}
  {queue : GlobalJobQueue} {state : StoreState} {snapshot : StateSnapshot} {backend : σ}

/-- A job of the window can be given a device, and the store has room for the
write. -/
structure CanSchedule (limits : ValidationConfig) (config : SchedulerConfig) (gpuSnapshot : GpuObservationSnapshot)
    (queue : GlobalJobQueue) (state : StoreState) : Prop where
  below : state.revision ≠ max64
  room : state.leases.size < limits.maxLeases
  satisfiable : ∃ entry ∈ windowEntries config queue, EntrySatisfiable gpuSnapshot state entry

theorem startMutation_room {record : StoredJob} {uuid : GpuUuid} {next : StoreState}
    (run : applyMutation limits state (startMutation snapshot record uuid) = .ok next) :
    state.revision ≠ max64 ∧ state.leases.size < limits.maxLeases := by
  obtain ⟨_, ⟨_, _, below⟩, _, _, _, _, _, _, atReleased, atLeases, _⟩ := applyMutation_eq_ok.mp run
  simp only [startMutation, List.foldlM_cons, List.foldlM_nil] at atReleased atLeases
  cases atReleased
  obtain ⟨_, turn, _⟩ := bind_eq_ok.mp atLeases
  obtain ⟨_, _, _, _, room, _⟩ := acquireLease_eq_ok.mp turn
  exact ⟨below, room⟩

/-- Over a store without failures of its own, a run of the scheduler starts a
job exactly when one can be started. -/
theorem runOnce_scheduled_iff (reliable : Reliable limits store content) (valid : gpuSnapshot.Valid)
    (inv : StoreInvariant limits (content backend)) (agrees : QueueAgrees queue (content backend)) :
    (runOnce store config trigger gpuSnapshot queue backend).result.code = .scheduled ↔
      CanSchedule limits config gpuSnapshot queue (content backend) := by
  have load := reliable.load_eq backend
  have reads := reliable.load_content backend
  constructor
  · intro code
    have records : ∀ loaded, (store.load backend).1 = .ok loaded →
        DistinctIds loaded ∧ ∀ record ∈ loaded.jobs, record.spec.Valid := by
      intro loaded atLoaded
      cases reliable.load_snapshot backend loaded atLoaded
      exact ⟨inv.distinctIds, fun record member => inv.specs record member⟩
    cases (runOnce_step records : RunOnceStep store config gpuSnapshot queue backend
      (runOnce store config trigger gpuSnapshot queue backend)) with
    | idle _ _ unscheduled => exact absurd code unscheduled.1
    | refused _ _ _ _ _ _ _ _ failed => simp [failed] at code
    | scheduled loaded record device reason skips _ atLoaded _ selected written =>
      cases reliable.load_snapshot backend loaded atLoaded
      obtain ⟨_, choice, _⟩ := evaluate_selected valid agrees inv selected
      obtain ⟨_, inWindow⟩ := choice.inWindow
      have run := reliable.apply_accepted _ _ written
      rw [reads] at run
      obtain ⟨below, room⟩ := startMutation_room run
      exact ⟨below, room, .ofRecord record, inWindow ▸ by simp, choice.satisfiable⟩
  · intro ⟨below, room, entry, member, satisfiable⟩
    have consistent : checkConsistency config queue (content backend).snapshot = .ok () := agrees.consistent inv
    have nonempty : queue.entries ≠ [] := List.ne_nil_of_mem (List.mem_of_mem_take member)
    rw [runOnce_evaluated valid load consistent nonempty]
    cases run : evaluate config gpuSnapshot queue (content backend).snapshot with
    | exhausted => exact absurd satisfiable ((evaluate_exhausted valid agrees inv run).1 entry member)
    | selected record device =>
      obtain ⟨_, choice, _⟩ := evaluate_selected valid agrees inv run
      have next := startMutation_accepted inv valid choice.found choice.queued choice.usable below room
      have accepted := reliable.apply_ok _ _ _ (by rw [reads]; exact next)
      rw [(commit_accepted choice.mem_queue accepted).1]
      rfl

section Observations

section

variable (valid : gpuSnapshot.Valid) (otherValid : other.Valid)
  (same : buildStateMap gpuSnapshot = buildStateMap other)
include valid otherValid same

/-- A device is used by its name and its state alone. -/
theorem Usable.of_states {device : GpuObservation}
    (usable : Usable gpuSnapshot snapshot device) :
    ∃ twin, Usable other snapshot twin ∧ twin.uuid = device.uuid := by
  have listed : (buildStateMap gpuSnapshot).find? device.uuid = some .free :=
    (find?_buildStateMap valid).mpr ⟨device, usable.observed, rfl, usable.free⟩
  rw [same] at listed
  obtain ⟨twin, observed, sameUuid, free⟩ := (find?_buildStateMap otherValid).mp listed
  exact ⟨twin, ⟨observed, free, by rw [sameUuid]; exact usable.unleased⟩, sameUuid⟩

theorem EntrySatisfiable.of_states {entry : QueueEntry}
    (satisfiable : EntrySatisfiable gpuSnapshot state entry) : EntrySatisfiable other state entry := by
  obtain ⟨record, found, placed⟩ := satisfiable
  obtain ⟨_, fits⟩ := satisfiable_iff_fits.mp placed
  obtain ⟨twin, usable, sameUuid⟩ := fits.usable.of_states valid otherValid same
  refine ⟨record, found, satisfiable_iff_fits.mpr ⟨twin, usable, ?_⟩⟩
  rw [sameUuid]
  exact fits.named

/-- Telemetry and the order of the devices do not decide whether a job can be
started. -/
theorem CanSchedule.of_states (can : CanSchedule limits config gpuSnapshot queue state) :
    CanSchedule limits config other queue state := by
  obtain ⟨below, room, entry, member, satisfiable⟩ := can
  exact ⟨below, room, entry, member, satisfiable.of_states valid otherValid same⟩

end

end Observations

end Yori
