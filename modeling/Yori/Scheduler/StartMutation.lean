import Yori.Scheduler.RunOnce
import Yori.Scheduler.SelectionSpec
import Yori.Store.Invariant

namespace Yori
open Checked MachineWord MutationCore SortedMap

variable {limits : ValidationConfig} {state : StoreState} {record : StoredJob} {device : GpuObservation}
  {gpuSnapshot : GpuObservationSnapshot} {leases : LeaseTable} {uuid : GpuUuid} {id : JobId}

/-- What a queued job may carry, a starting one may carry as well. -/
theorem executionValid_starting {execution : JobExecutionRecord} {spec : JobSpec}
    (queued : validateExecution execution .queued spec = .ok ()) :
    validateExecution execution .starting spec = .ok () := by
  simp only [validateExecution, unit_bind_eq_ok, rejectIf_eq_ok] at queued ⊢
  obtain ⟨identity, _, _, noExit, startTime, endTime, failureReason, logPath⟩ := queued
  refine ⟨identity, by simp, by simp, by simpa [JobState.isTerminal] using noExit, startTime, ?_, ?_, ?_⟩
  · unfold checkEndTime at endTime ⊢
    cases atEnd : execution.endTime with
    | none => rfl
    | some => simp [atEnd, unit_bind_eq_ok, JobState.isTerminal] at endTime
  · unfold checkFailureReason at failureReason ⊢
    cases atReason : execution.failureReason with
    | none => rfl
    | some => simp [atReason, unit_bind_eq_ok, JobState.isTerminal] at failureReason
  · unfold checkLogPath at logPath ⊢
    cases atPath : execution.logPath with
    | none => rfl
    | some => simp [atPath, unit_bind_eq_ok] at logPath

theorem leaseCount_eq_zero : leaseCount leases id = 0 ↔ ∀ lease ∈ leases.values, lease.jobId ≠ id := by
  simp [leaseCount, List.countP_eq_zero]

theorem leaseCount_insert {owner : JobId} (absent : leases.find? uuid = none) :
    leaseCount (leases.insert uuid ⟨uuid, owner⟩) id = leaseCount leases id + if owner = id then 1 else 0 := by
  unfold leaseCount
  rw [(values_insert_perm absent).countP_eq, List.countP_cons]
  simp only [beq_iff_eq]

section

variable (inv : StoreInvariant limits state)
include inv

theorem StoreInvariant.owner_leaseable {lease : GpuLease}
    (member : lease ∈ state.leases.values) : ownerLeaseable state.jobs lease.jobId = true := by
  obtain ⟨owner, found⟩ := inv.leaseOwners lease member
  refine ownerLeaseable_iff.mpr ⟨owner, found, ?_⟩
  by_contra idle
  have none : leaseCount state.leases lease.jobId = 0 := by simpa [idle] using inv.leaseMatrix _ owner found
  exact leaseCount_eq_zero.mp none lease member rfl

theorem StoreInvariant.queued_leaseCount
    (found : state.jobs.find? record.id = some record) (queued : record.state = .queued) :
    leaseCount state.leases record.id = 0 := by
  have counted := inv.leaseMatrix _ record found
  simpa [queued, leaseable] using counted

theorem StoreInvariant.unleased
    (usable : Usable gpuSnapshot state.snapshot device) :
    state.leases.find? device.uuid = none := by
  by_contra held
  obtain ⟨lease, found⟩ := Option.ne_none_iff_exists'.mp held
  exact usable.unleased lease (mem_values.mpr ⟨_, found⟩) (inv.leaseKeys _ lease found)

end

/-- The store after a scheduling step. -/
def started (state : StoreState) (record : StoredJob) (uuid : GpuUuid) : StoreState where
  jobs := state.jobs.insert record.id { record with state := .starting, revision := 1 }
  leases := state.leases.insert uuid ⟨uuid, record.id⟩
  revision := state.revision + 1

section

variable (inv : StoreInvariant limits state) (found : state.jobs.find? record.id = some record)
  (queued : record.state = .queued)
include inv found queued

theorem started_owners :
    ∀ key lease, (started state record uuid).leases.find? key = some lease →
      ownerLeaseable (started state record uuid).jobs lease.jobId = true := by
  intro key lease atKey
  have ownCount := inv.queued_leaseCount found queued
  simp only [started] at atKey ⊢
  rw [find?_insert] at atKey
  split at atKey
  · cases atKey
    exact ownerLeaseable_iff.mpr ⟨_, find?_insert_self .., rfl⟩
  · have member : lease ∈ state.leases.values := mem_values.mpr ⟨key, atKey⟩
    have other := leaseCount_eq_zero.mp ownCount lease member
    obtain ⟨owner, atOwner, active⟩ := ownerLeaseable_iff.mp (inv.owner_leaseable member)
    exact ownerLeaseable_iff.mpr ⟨owner, by rw [find?_insert_of_ne _ _ other, atOwner], active⟩

theorem started_matrix (free : state.leases.find? uuid = none) :
    ∀ id row, (started state record uuid).jobs.find? id = some row →
      leaseCount (started state record uuid).leases id = if leaseable row.state then 1 else 0 := by
  intro id row atId
  have ownCount := inv.queued_leaseCount found queued
  simp only [started] at atId ⊢
  rw [find?_insert] at atId
  rw [leaseCount_insert free]
  split at atId
  · rename_i same
    cases atId
    rw [same, ownCount]
    simp [leaseable]
  · rename_i other
    rw [inv.leaseMatrix id row atId, if_neg (Ne.symm other), Nat.add_zero]

end

/-- The write of a scheduling step passes every check of the mutation core. -/
theorem startMutation_accepted (inv : StoreInvariant limits state) (valid : gpuSnapshot.Valid)
    (found : state.jobs.find? record.id = some record) (queued : record.state = .queued)
    (usable : Usable gpuSnapshot state.snapshot device) (below : state.revision ≠ max64)
    (room : state.leases.size < limits.maxLeases) :
    applyMutation limits state (startMutation state.snapshot record device.uuid) =
      .ok (started state record device.uuid) := by
  have member : record ∈ state.jobs.values := mem_values.mpr ⟨_, found⟩
  have zero : record.revision = 0 := (inv.queuedIff record member).mp queued
  have free := inv.unleased usable
  have ownCount := inv.queued_leaseCount found queued
  have update : updateJob state.jobs { record with state := .starting, revision := record.revision + 1 } =
      .ok (started state record device.uuid).jobs := by
    refine updateJob_eq_ok.mpr ⟨⟨inv.jobIds record member, inv.specs record member⟩, ?_, record, found, ?_, rfl, ?_, ?_⟩
    · have old := inv.executions record member
      rw [StoredJob.ExecutionValid, queued] at old
      exact executionValid_starting old
    · rw [zero]
      exact ⟨by decide, rfl⟩
    · rw [queued]
      rfl
    · rw [zero]
      rfl
  have acquire : acquireLease limits (started state record device.uuid).jobs state.leases ⟨device.uuid, record.id⟩ =
      .ok (started state record device.uuid).leases := by
    refine acquireLease_eq_ok.mpr ⟨⟨valid.devices_ok.1 device usable.observed, inv.jobIds record member⟩, free, ?_, ?_,
      room, rfl⟩
    · exact ownerLeaseable_iff.mpr ⟨_, find?_insert_self .., rfl⟩
    · intro uuid lease held
      exact leaseCount_eq_zero.mp ownCount lease (mem_values.mpr ⟨uuid, held⟩)
  have entries : (startMutation state.snapshot record device.uuid).entryCount = 2 := rfl
  have bounds : (startMutation state.snapshot record device.uuid).entryCount ≠ 0 ∧
      (startMutation state.snapshot record device.uuid).entryCount ≤ StateMutation.maxEntries ∧
      state.revision ≠ max64 := by
    rw [entries]
    exact ⟨by decide, by decide, below⟩
  refine applyMutation_eq_ok.mpr ⟨rfl, bounds, state.jobs, _, state.leases, _, rfl, ?_, rfl, ?_,
    started_owners inv found queued, started_matrix inv found queued free, rfl⟩
  · simp only [startMutation, List.foldlM_cons, List.foldlM_nil, update]
    rfl
  · simp only [startMutation, List.foldlM_cons, List.foldlM_nil, acquire]
    rfl

end Yori
