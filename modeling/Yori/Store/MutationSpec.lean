import Yori.Store.MutationCore

namespace Yori.MutationCore
open Checked MachineWord SortedMap

variable {config : ValidationConfig} {jobs : JobTable} {leases next : LeaseTable} {record : StoredJob}

/-- What a record of the store always satisfies on its own. -/
structure RecordValid (record : StoredJob) : Prop where
  id : record.id.valid = true
  spec : record.spec.Valid
  execution : record.ExecutionValid
  queued : record.state = .queued ↔ record.revision = 0

theorem createJob_eq_ok {next : JobTable} :
    createJob config jobs record = .ok next ↔
      (record.id.valid = true ∧ record.spec.Valid ∧ record.state = .queued ∧ record.revision = 0) ∧
        record.ExecutionValid ∧ jobs.find? record.id = none ∧ jobs.size < config.maxJobs ∧
        jobs.insert record.id record = next := by
  unfold createJob
  simp only [guard_bind_eq_ok, not_or, not_not, Bool.not_eq_true', Bool.not_eq_false, ne_eq,
    Bool.not_eq_true, contains_eq_false, ge_iff_le, not_le, Except.ok.injEq]

theorem updateJob_eq_ok {next : JobTable} :
    updateJob jobs record = .ok next ↔
      (record.id.valid = true ∧ record.spec.Valid) ∧ record.ExecutionValid ∧
        ∃ existing, jobs.find? record.id = some existing ∧
          (existing.revision ≠ max64 ∧ record.revision = existing.revision + 1) ∧
          existing.spec = record.spec ∧ canTransition existing.state record.state = true ∧
          jobs.insert record.id record = next := by
  unfold updateJob
  simp only [guard_bind_eq_ok, not_or, not_not, Bool.not_eq_true', Bool.not_eq_false, ne_eq]
  cases found : jobs.find? record.id with
  | none => simp
  | some =>
    simp only [guard_bind_eq_ok, not_or, not_not, Bool.not_eq_false,
      Option.some.injEq, exists_eq_left', sameSpec_iff, Except.ok.injEq]

theorem releaseLease_eq_ok {uuid : GpuUuid} :
    releaseLease leases uuid = .ok next ↔
      uuid.valid = true ∧ (∃ lease, leases.find? uuid = some lease) ∧ leases.erase uuid = next := by
  unfold releaseLease
  simp only [guard_bind_eq_ok, Bool.not_eq_true', Bool.not_eq_false, contains_eq_true, Except.ok.injEq]

theorem acquireLease_eq_ok {lease : GpuLease} :
    acquireLease config jobs leases lease = .ok next ↔
      (lease.gpuUuid.valid = true ∧ lease.jobId.valid = true) ∧ leases.find? lease.gpuUuid = none ∧
        ownerLeaseable jobs lease.jobId = true ∧
        (∀ uuid other, leases.find? uuid = some other → other.jobId ≠ lease.jobId) ∧
        leases.size < config.maxLeases ∧ leases.insert lease.gpuUuid lease = next := by
  have holders : ¬(leases.values.any (·.jobId == lease.jobId)) = true ↔
      ∀ uuid other, leases.find? uuid = some other → other.jobId ≠ lease.jobId := by
    simp only [List.any_eq_true, mem_values, beq_iff_eq, not_exists, not_and, ne_eq]
    exact ⟨fun all uuid other found => all other ⟨uuid, found⟩, fun all other ⟨uuid, found⟩ => all uuid other found⟩
  unfold acquireLease
  simp only [guard_bind_eq_ok, holders, not_or, Bool.not_eq_true', Bool.not_eq_false, Bool.not_eq_true,
    contains_eq_false, ge_iff_le, not_le, Except.ok.injEq]

theorem ownerLeaseable_iff {id : JobId} :
    ownerLeaseable jobs id = true ↔ ∃ record, jobs.find? id = some record ∧ leaseable record.state = true := by
  unfold ownerLeaseable
  cases jobs.find? id <;> simp

/-- The closing checks in the terms of the tables they scan. -/
theorem owners_checked :
    ¬(leases.values.any fun lease => !ownerLeaseable jobs lease.jobId) = true ↔
      ∀ uuid lease, leases.find? uuid = some lease → ownerLeaseable jobs lease.jobId = true := by
  simp only [List.any_eq_true, mem_values, Bool.not_eq_true', not_exists, not_and, Bool.not_eq_false]
  exact ⟨fun all uuid lease found => all lease ⟨uuid, found⟩, fun all lease ⟨uuid, found⟩ => all uuid lease found⟩

theorem matrix_checked :
    ¬(jobs.entries.any fun entry => !leaseCountFits leases entry.1 entry.2.state) = true ↔
      ∀ id record, jobs.find? id = some record →
        leaseCount leases id = if leaseable record.state then 1 else 0 := by
  simp only [List.any_eq_true, Bool.not_eq_true', not_exists, not_and, Bool.not_eq_false, leaseCountFits,
    beq_iff_eq, find?_eq_some_iff]
  exact ⟨fun all id record member => all (id, record) member, fun all entry member => all entry.1 entry.2 member⟩

/-- An accepted mutation in the terms of its four loops and closing checks. -/
theorem applyMutation_eq_ok {state next : StoreState} {mutation : StateMutation} :
    applyMutation config state mutation = .ok next ↔
      mutation.expectedRevision = state.revision ∧
      (mutation.entryCount ≠ 0 ∧ mutation.entryCount ≤ StateMutation.maxEntries ∧ state.revision ≠ max64) ∧
      ∃ created jobs released leases,
        mutation.createJobs.foldlM (createJob config) state.jobs = .ok created ∧
        mutation.updateJobs.foldlM updateJob created = .ok jobs ∧
        mutation.releaseLeases.foldlM releaseLease state.leases = .ok released ∧
        mutation.acquireLeases.foldlM (acquireLease config jobs) released = .ok leases ∧
        (∀ uuid lease, leases.find? uuid = some lease → ownerLeaseable jobs lease.jobId = true) ∧
        (∀ id record, jobs.find? id = some record →
          leaseCount leases id = if leaseable record.state then 1 else 0) ∧
        ⟨jobs, leases, state.revision + 1⟩ = next := by
  unfold applyMutation
  rw [guard_bind_eq_ok, guard_bind_eq_ok]
  simp only [bind_eq_ok, rejectIf_eq_ok, owners_checked, matrix_checked, exists_const, not_or, not_not, ne_eq,
    gt_iff_lt, not_lt, Except.ok.injEq]
  constructor
  · rintro ⟨expected, entries, created, atCreated, jobs, atJobs, released, atReleased, leases, atLeases, rest⟩
    exact ⟨expected, entries, created, jobs, released, leases, atCreated, atJobs, atReleased, atLeases, rest⟩
  · rintro ⟨expected, entries, created, jobs, released, leases, atCreated, atJobs, atReleased, atLeases, rest⟩
    exact ⟨expected, entries, created, atCreated, jobs, atJobs, released, atReleased, leases, atLeases, rest⟩

end Yori.MutationCore
