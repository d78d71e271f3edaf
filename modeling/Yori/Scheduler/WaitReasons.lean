import Yori.Scheduler.Decision

/-! What an evaluation reports about the jobs that it passes over. -/

namespace Yori
open MutationCore

/-- The report about a required job: no device of its set can be had, and the reason and the target say why. -/
structure RequiredSkip (gpuSnapshot : GpuObservationSnapshot) (snapshot : StateSnapshot) (devices : List GpuUuid)
    (skip : ScheduleSkip) : Prop where
  unusable : ∀ device, Usable gpuSnapshot snapshot device → device.uuid ∉ devices
  allocated : skip.reason = .affinityGpuAllocated ↔ ∃ lease ∈ snapshot.leases, lease.gpuUuid ∈ devices
  external : skip.reason = .affinityGpuExternal ↔ (∀ lease ∈ snapshot.leases, lease.gpuUuid ∉ devices) ∧
    ∃ device ∈ gpuSnapshot.devices, device.uuid ∈ devices ∧ device.state = .externalBusy
  state : skip.reason = .affinityGpuState ↔ (∀ lease ∈ snapshot.leases, lease.gpuUuid ∉ devices) ∧
    ∀ device ∈ gpuSnapshot.devices, device.uuid ∈ devices → device.state = .unavailable
  target : ∀ uuid, skip.target = some uuid ↔ ∃ device, device.uuid = uuid ∧
    Lowest (fun device => device ∈ gpuSnapshot.devices ∧ device.uuid ∈ devices) device
  targetUnusable : ∀ device, skip.target = some device.uuid → ¬Usable gpuSnapshot snapshot device
  unobserved : skip.target = none ↔ ∀ device ∈ gpuSnapshot.devices, device.uuid ∉ devices

/-- The report about a job of any placement. -/
def TruthfulSkip (gpuSnapshot : GpuObservationSnapshot) (snapshot : StateSnapshot) (placement : GpuPlacement)
    (skip : ScheduleSkip) : Prop :=
  match placement.mode with
  | .required => RequiredSkip gpuSnapshot snapshot placement.devices skip
  | .preferred | .any => skip.reason = .noFreeGpu ∧ ∀ device, ¬Usable gpuSnapshot snapshot device

variable {gpuSnapshot : GpuObservationSnapshot} {snapshot : StateSnapshot} {devices : List GpuUuid}
  {skip : ScheduleSkip}

/-- The devices of a set that were observed. -/
def observedOf (gpuSnapshot : GpuObservationSnapshot) (devices : List GpuUuid) : List GpuObservation :=
  devices.filterMap (findDevice gpuSnapshot)

theorem mem_observedOf (valid : gpuSnapshot.Valid) {device : GpuObservation} :
    device ∈ observedOf gpuSnapshot devices ↔ device ∈ gpuSnapshot.devices ∧ device.uuid ∈ devices := by
  simp only [observedOf, List.mem_filterMap, findDevice_eq_some valid]
  constructor
  · rintro ⟨_, member, observed, rfl⟩
    exact ⟨observed, member⟩
  · rintro ⟨observed, member⟩
    exact ⟨device.uuid, member, observed, rfl⟩

theorem any_leased_iff : devices.any (leased snapshot) = true ↔ ∃ lease ∈ snapshot.leases, lease.gpuUuid ∈ devices := by
  simp only [List.any_eq_true, leased, beq_iff_eq]
  constructor
  · rintro ⟨_, member, lease, atLease, rfl⟩
    exact ⟨lease, atLease, member⟩
  · rintro ⟨lease, atLease, member⟩
    exact ⟨lease.gpuUuid, member, lease, atLease, rfl⟩

theorem any_external_iff (valid : gpuSnapshot.Valid) :
    (observedOf gpuSnapshot devices).any (·.state == .externalBusy) = true ↔
      ∃ device ∈ gpuSnapshot.devices, device.uuid ∈ devices ∧ device.state = .externalBusy := by
  simp only [List.any_eq_true, beq_iff_eq, mem_observedOf valid, and_assoc]

/-- The summary of a set in which nothing can be had is truthful. -/
theorem requiredWaitReason_truthful (valid : gpuSnapshot.Valid) {job : JobId}
    (unusable : ∀ device, Usable gpuSnapshot snapshot device → device.uuid ∉ devices) :
    RequiredSkip gpuSnapshot snapshot devices
      ⟨job, (requiredWaitReason gpuSnapshot snapshot devices).1,
        (requiredWaitReason gpuSnapshot snapshot devices).2⟩ := by
  have reason : (requiredWaitReason gpuSnapshot snapshot devices).1 =
      if devices.any (leased snapshot) then .affinityGpuAllocated
      else if (observedOf gpuSnapshot devices).any (·.state == .externalBusy) then .affinityGpuExternal
      else .affinityGpuState := rfl
  have target : (requiredWaitReason gpuSnapshot snapshot devices).2 =
      ((observedOf gpuSnapshot devices).foldl lowerIndex none).map (·.uuid) := rfl
  -- Without a lease in the set, a device that is not in foreign use is unavailable: a free one could be had.
  have rest : (∀ lease ∈ snapshot.leases, lease.gpuUuid ∉ devices) →
      ((¬∃ device ∈ gpuSnapshot.devices, device.uuid ∈ devices ∧ device.state = .externalBusy) ↔
        ∀ device ∈ gpuSnapshot.devices, device.uuid ∈ devices → device.state = .unavailable) := by
    intro unleased
    constructor
    · intro none device observed member
      cases state : device.state with
      | free =>
        have free : Usable gpuSnapshot snapshot device :=
          ⟨observed, state, fun lease atLease same => unleased lease atLease (same ▸ member)⟩
        exact absurd member (unusable device free)
      | externalBusy => exact absurd ⟨device, observed, member, state⟩ none
      | unavailable => rfl
    · rintro all ⟨device, observed, member, state⟩
      rw [all device observed member] at state
      cases state
  have lowest : ∀ uuid, (requiredWaitReason gpuSnapshot snapshot devices).2 = some uuid ↔ ∃ device,
      device.uuid = uuid ∧ Lowest (fun device => device ∈ gpuSnapshot.devices ∧ device.uuid ∈ devices) device := by
    intro _
    rw [target, Option.map_eq_some_iff]
    constructor
    · rintro ⟨device, found, same⟩
      exact ⟨device, same, (lowest_of_eq_some found).congr fun _ => mem_observedOf valid⟩
    · rintro ⟨_, same, least⟩
      cases found : (observedOf gpuSnapshot devices).foldl lowerIndex none with
      | none =>
        have member := (mem_observedOf valid).mpr least.1
        rw [lowest_eq_none.mp found] at member
        cases member
      | some other =>
        have also := (lowest_of_eq_some found).congr fun _ => mem_observedOf valid
        exact ⟨other, rfl, (also.unique valid (fun _ facts => facts.1) least) ▸ same⟩
  have unleased_iff : ¬devices.any (leased snapshot) = true ↔ ∀ lease ∈ snapshot.leases, lease.gpuUuid ∉ devices := by
    rw [any_leased_iff]
    simp
  refine ⟨unusable, ?_, ?_, ?_, lowest, ?_, ?_⟩
  · rw [reason, ← any_leased_iff]
    split
    · simp_all
    · split <;> simp_all
  · rw [reason, ← unleased_iff, ← any_external_iff valid]
    split
    · simp_all
    · split <;> simp_all
  · rw [reason, ← unleased_iff]
    split
    · simp_all
    · rename_i unleased
      rw [← rest (unleased_iff.mp unleased), ← any_external_iff valid]
      split <;> simp_all
  · intro device atTarget usable
    obtain ⟨_, same, ⟨_, member⟩, _⟩ := (lowest device.uuid).mp atTarget
    exact unusable device usable (same ▸ member)
  · rw [target, Option.map_eq_none_iff, lowest_eq_none, List.eq_nil_iff_forall_not_mem]
    simp only [mem_observedOf valid, not_and]

/-- The report about a job that no device could be selected for. -/
theorem skipReason_truthful {targets : List GpuUuid} {placement : GpuPlacement} (valid : gpuSnapshot.Valid)
    (job : JobId)
    (missing : (selectGpu gpuSnapshot snapshot (selectAnyGpu gpuSnapshot snapshot targets) placement).1 = none) :
    TruthfulSkip gpuSnapshot snapshot placement (skipReason gpuSnapshot snapshot job placement) := by
  have unsatisfiable := selectGpu_none valid missing
  unfold Satisfiable at unsatisfiable
  unfold TruthfulSkip skipReason
  cases mode : placement.mode with
  | required =>
    rw [mode] at unsatisfiable
    refine requiredWaitReason_truthful valid fun device usable member => ?_
    exact unsatisfiable ⟨device, usable, member⟩
  | preferred | any =>
    rw [mode] at unsatisfiable
    exact ⟨rfl, fun device usable => unsatisfiable ⟨device, usable⟩⟩

def ScanOutcome.skips : ScanOutcome → List ScheduleSkip
  | selected _ _ _ skipped => skipped
  | exhausted skipped => skipped

/-- Every report of a scan is about an entry whose job found no device. -/
theorem scan_skips {records : SortedMap JobId StoredJob} {anyChoice : Option GpuObservation × GpuSelectionReason}
    {entries : List QueueEntry} {skipped : List ScheduleSkip}
    (member : skip ∈ (scan gpuSnapshot snapshot records anyChoice skipped entries).skips) :
    skip ∈ skipped ∨ ∃ entry ∈ entries, ∃ record, records.find? entry.jobId = some record ∧
      (selectGpu gpuSnapshot snapshot anyChoice record.spec.gpuPlacement).1 = none ∧
      skip = skipReason gpuSnapshot snapshot entry.jobId record.spec.gpuPlacement := by
  induction entries generalizing skipped with
  | nil => exact .inl member
  | cons entry rest ih =>
    have later : (∃ other ∈ rest, ∃ record, records.find? other.jobId = some record ∧
        (selectGpu gpuSnapshot snapshot anyChoice record.spec.gpuPlacement).1 = none ∧
        skip = skipReason gpuSnapshot snapshot other.jobId record.spec.gpuPlacement) →
        ∃ other ∈ entry :: rest, ∃ record, records.find? other.jobId = some record ∧
          (selectGpu gpuSnapshot snapshot anyChoice record.spec.gpuPlacement).1 = none ∧
          skip = skipReason gpuSnapshot snapshot other.jobId record.spec.gpuPlacement :=
      fun ⟨other, inside, facts⟩ => ⟨other, List.mem_cons_of_mem _ inside, facts⟩
    cases found : records.find? entry.jobId with
    | none =>
      simp only [scan, found] at member
      exact (ih member).imp_right later
    | some record =>
      simp only [scan, found] at member
      split at member
      · exact .inl member
      · rename_i missing
        rcases ih member with old | new
        · rcases List.mem_append.mp old with before | here
          · exact .inl before
          · refine .inr ⟨entry, List.mem_cons_self .., record, found, ?_, List.mem_singleton.mp here⟩
            rw [missing]
        · exact .inr (later new)

variable {σ : Type} {store : StateStore σ} {config : SchedulerConfig} {trigger : SchedulerTrigger}
  {queue : GlobalJobQueue} {backend loaded : σ}

/-- A run reports what its scan passed over, or nothing. -/
theorem runOnce_skips (valid : gpuSnapshot.Valid) (load : store.load backend = (.ok snapshot, loaded))
    (consistent : checkConsistency config queue snapshot = .ok ())
    (member : skip ∈ (runOnce store config trigger gpuSnapshot queue backend).result.evaluation.skipped) :
    skip ∈ (evaluate config gpuSnapshot queue snapshot).skips := by
  by_cases empty : queue.entries = []
  · rw [runOnce_empty valid load consistent empty] at member
    cases member
  · rw [runOnce_evaluated valid load consistent empty] at member
    cases run : evaluate config gpuSnapshot queue snapshot with
    | exhausted =>
      rw [run] at member
      exact member
    | selected =>
      simp only [run] at member
      unfold commit at member
      simp only at member
      split at member
      · cases member
      · split at member
        · split at member
          · cases member
          · cases member
        · exact member

/-- Whatever an evaluation says about a job that it passed over is so. -/
theorem wait_reasons_truthful {σ : Type} (store : StateStore σ) (limits : ValidationConfig) (config : SchedulerConfig)
    (trigger : SchedulerTrigger) (gpuSnapshot : GpuObservationSnapshot) (queue : GlobalJobQueue) (state : StoreState)
    (backend loaded : σ) (valid : gpuSnapshot.Valid) (inv : StoreInvariant limits state)
    (agrees : QueueAgrees queue state) (load : store.load backend = (.ok state.snapshot, loaded)) :
    ∀ skip ∈ (runOnce store config trigger gpuSnapshot queue backend).result.evaluation.skipped,
      ∃ record, state.jobs.find? skip.job = some record ∧ record.state = .queued ∧
        TruthfulSkip gpuSnapshot state.snapshot record.spec.gpuPlacement skip := by
  intro _ member
  have passed := runOnce_skips valid load (agrees.consistent inv) member
  rw [evaluate_eq] at passed
  rcases scan_skips passed with nothing | ⟨entry, _, record, found, missing, rfl⟩
  · cases nothing
  · obtain ⟨stored, queued⟩ := inv.queuedRecords_eq_some.mp found
    rw [skipReason_job]
    exact ⟨record, stored, queued, skipReason_truthful valid entry.jobId missing⟩

theorem wait_reasons_truthful_missing_device :
    ∃ record, twoJobs.state.jobs.find? ⟨1⟩ = some record ∧ record.state = .queued ∧
      TruthfulSkip (.allFree [⟨.ascii "GPU-0"⟩]) twoJobs.state.snapshot record.spec.gpuPlacement
        ⟨⟨1⟩, .affinityGpuState, none⟩ :=
  wait_reasons_truthful (InMemoryStateStore.store {}) {} {} .jobSubmitted (.allFree [⟨.ascii "GPU-0"⟩]) twoJobsQueue
    twoJobs.state twoJobs twoJobs (by decide) (submitAll_invariant _ _) twoJobs_agree rfl
    ⟨⟨1⟩, .affinityGpuState, none⟩ (by decide +kernel)

end Yori
