import Yori.Library.Rejecting
import Yori.Store.MutationSpec

namespace Yori
open Checked MachineWord MutationCore SortedMap

variable {record : StoredJob}

namespace MutationCore

variable {config : ValidationConfig} {jobs : JobTable} {leases next : LeaseTable} {lease : GpuLease} {uuid : GpuUuid}

/-- Every row of the job table sits under its own id and is valid. -/
def JobsValid (jobs : JobTable) : Prop :=
  ∀ id record, jobs.find? id = some record → record.id = id ∧ RecordValid record

/-- Every row of the lease table sits under its own device, and no two rows
name the same job. -/
structure LeasesValid (leases : LeaseTable) : Prop where
  keys : ∀ uuid lease, leases.find? uuid = some lease → lease.gpuUuid = uuid ∧ uuid.valid = true
  exclusive : ∀ uuid lease other held, leases.find? uuid = some lease → leases.find? other = some held →
    lease.jobId = held.jobId → uuid = other

theorem JobsValid.insert (valid : JobsValid jobs) (new : RecordValid record) :
    JobsValid (jobs.insert record.id record) := by
  intro id found atId
  obtain ⟨same, rfl⟩ | atId := insert_cases atId
  · exact ⟨same.symm, new⟩
  · exact valid id found atId

theorem createJob_keeps_valid {next : JobTable} (run : createJob config jobs record = .ok next)
    (valid : JobsValid jobs) : JobsValid next := by
  obtain ⟨⟨id, spec, queued, zero⟩, execution, _, _, rfl⟩ := createJob_eq_ok.mp run
  exact valid.insert ⟨id, spec, execution, by simp [queued, zero]⟩

theorem updateJob_keeps_valid {next : JobTable} (run : updateJob jobs record = .ok next) (valid : JobsValid jobs) :
    JobsValid next := by
  obtain ⟨⟨id, spec⟩, execution, _, _, ⟨below, revision⟩, _, allowed, rfl⟩ := updateJob_eq_ok.mp run
  have notQueued := canTransition_ne_queued allowed
  have notZero : record.revision ≠ 0 := revision ▸ succ_ne_zero below
  exact valid.insert ⟨id, spec, execution, iff_of_false notQueued notZero⟩

theorem createJob_keeps_bound {next : JobTable} (run : createJob config jobs record = .ok next) :
    next.size ≤ config.maxJobs := by
  obtain ⟨_, _, absent, room, rfl⟩ := createJob_eq_ok.mp run
  rw [size_insert_of_absent absent]
  omega

theorem updateJob_size {next : JobTable} (run : updateJob jobs record = .ok next) : next.size = jobs.size := by
  obtain ⟨_, _, _, found, _, _, _, rfl⟩ := updateJob_eq_ok.mp run
  exact size_insert_of_present found

theorem releaseLease_keeps_valid (run : releaseLease leases uuid = .ok next) (valid : LeasesValid leases) :
    LeasesValid next := by
  obtain ⟨_, _, rfl⟩ := releaseLease_eq_ok.mp run
  have old : ∀ other lease, (leases.erase uuid).find? other = some lease → leases.find? other = some lease := by
    intro _ _ found
    rw [find?_erase] at found
    split at found
    · simp at found
    · exact found
  exact ⟨fun other lease found => valid.keys other lease (old other lease found),
    fun a lease b held atA atB same => valid.exclusive a lease b held (old a lease atA) (old b held atB) same⟩

theorem acquireLease_keeps_valid (run : acquireLease config jobs leases lease = .ok next) (valid : LeasesValid leases) :
    LeasesValid next := by
  obtain ⟨⟨uuid, _⟩, _, _, unheld, _, rfl⟩ := acquireLease_eq_ok.mp run
  constructor
  · intro other found atOther
    obtain ⟨same, rfl⟩ | atOther := insert_cases atOther
    · exact ⟨same.symm, same ▸ uuid⟩
    · exact valid.keys other found atOther
  · intro a first b second atA atB same
    rw [find?_insert] at atA atB
    split at atA <;> split at atB
    · rename_i sameA sameB
      exact sameA.trans sameB.symm
    · cases atA
      exact absurd same.symm (unheld b second atB)
    · cases atB
      exact absurd same (unheld a first atA)
    · exact valid.exclusive a first b second atA atB same

theorem acquireLease_keeps_bound (run : acquireLease config jobs leases lease = .ok next) :
    next.size ≤ config.maxLeases := by
  obtain ⟨_, absent, _, _, room, rfl⟩ := acquireLease_eq_ok.mp run
  rw [size_insert_of_absent absent]
  omega

theorem releaseLease_size (run : releaseLease leases uuid = .ok next) : next.size ≤ leases.size := by
  obtain ⟨_, _, rfl⟩ := releaseLease_eq_ok.mp run
  exact size_erase_le _ _

end MutationCore

/-- What holds of the two tables between mutations. -/
structure StoreInvariant (config : ValidationConfig) (state : StoreState) : Prop where
  jobKeys : ∀ id record, state.jobs.find? id = some record → record.id = id
  leaseKeys : ∀ uuid lease, state.leases.find? uuid = some lease → lease.gpuUuid = uuid
  gpuExclusive : ∀ lease ∈ state.leases.values, ∀ other ∈ state.leases.values,
    lease.gpuUuid = other.gpuUuid → lease.jobId = other.jobId
  jobExclusive : ∀ lease ∈ state.leases.values, ∀ other ∈ state.leases.values,
    lease.jobId = other.jobId → lease = other
  leaseMatrix : ∀ id record, state.jobs.find? id = some record →
    leaseCount state.leases id = if leaseable record.state then 1 else 0
  leaseOwners : ∀ lease ∈ state.leases.values, ∃ record, state.jobs.find? lease.jobId = some record
  specs : ∀ record ∈ state.jobs.values, record.spec.Valid
  executions : ∀ record ∈ state.jobs.values, record.ExecutionValid
  queuedIff : ∀ record ∈ state.jobs.values, record.state = .queued ↔ record.revision = 0
  jobIds : ∀ record ∈ state.jobs.values, record.id.valid = true
  leaseUuids : ∀ lease ∈ state.leases.values, lease.gpuUuid.valid = true
  jobsBound : state.jobs.size ≤ config.maxJobs
  leasesBound : state.leases.size ≤ config.maxLeases

namespace StoreInvariant

variable {config : ValidationConfig} {state next : StoreState} {mutation : StateMutation}

theorem of_tables (jobs : JobsValid state.jobs) (leases : LeasesValid state.leases)
    (owners : ∀ uuid lease, state.leases.find? uuid = some lease → ownerLeaseable state.jobs lease.jobId = true)
    (matrix : ∀ id record, state.jobs.find? id = some record →
      leaseCount state.leases id = if leaseable record.state then 1 else 0)
    (jobsBound : state.jobs.size ≤ config.maxJobs) (leasesBound : state.leases.size ≤ config.maxLeases) :
    StoreInvariant config state := by
  have row : ∀ record ∈ state.jobs.values, RecordValid record := by
    intro record member
    obtain ⟨id, found⟩ := mem_values.mp member
    exact (jobs id record found).2
  have exclusive : ∀ lease ∈ state.leases.values, ∀ other ∈ state.leases.values,
      lease.jobId = other.jobId → lease = other := by
    intro lease member other otherMember same
    obtain ⟨a, atA⟩ := mem_values.mp member
    obtain ⟨b, atB⟩ := mem_values.mp otherMember
    cases leases.exclusive a lease b other atA atB same
    exact Option.some.inj (atA.symm.trans atB)
  exact {
    jobKeys := fun id record found => (jobs id record found).1
    leaseKeys := fun uuid lease found => (leases.keys uuid lease found).1
    gpuExclusive := by
      intro lease member other otherMember same
      obtain ⟨a, atA⟩ := mem_values.mp member
      obtain ⟨b, atB⟩ := mem_values.mp otherMember
      have keyA := (leases.keys a lease atA).1
      have keyB := (leases.keys b other atB).1
      have sameKey : a = b := keyA.symm.trans (same.trans keyB)
      subst sameKey
      rw [Option.some.inj (atA.symm.trans atB)]
    jobExclusive := exclusive
    leaseMatrix := matrix
    leaseOwners := by
      intro lease member
      obtain ⟨uuid, found⟩ := mem_values.mp member
      obtain ⟨record, atRecord, _⟩ := ownerLeaseable_iff.mp (owners uuid lease found)
      exact ⟨record, atRecord⟩
    specs := fun record member => (row record member).spec
    executions := fun record member => (row record member).execution
    queuedIff := fun record member => (row record member).queued
    jobIds := fun record member => (row record member).id
    leaseUuids := by
      intro lease member
      obtain ⟨uuid, found⟩ := mem_values.mp member
      obtain ⟨key, valid⟩ := leases.keys uuid lease found
      exact key ▸ valid
    jobsBound := jobsBound
    leasesBound := leasesBound }

theorem jobsValid (inv : StoreInvariant config state) : JobsValid state.jobs := by
  intro id record found
  have member : record ∈ state.jobs.values := mem_values.mpr ⟨id, found⟩
  exact ⟨inv.jobKeys id record found, inv.jobIds record member, inv.specs record member,
    inv.executions record member, inv.queuedIff record member⟩

theorem leasesValid (inv : StoreInvariant config state) : LeasesValid state.leases := by
  constructor
  · intro uuid lease found
    have member : lease ∈ state.leases.values := mem_values.mpr ⟨uuid, found⟩
    have key := inv.leaseKeys uuid lease found
    exact ⟨key, key ▸ inv.leaseUuids lease member⟩
  · intro a lease b other atA atB same
    have equal := inv.jobExclusive lease (mem_values.mpr ⟨a, atA⟩) other
      (mem_values.mpr ⟨b, atB⟩) same
    rw [← inv.leaseKeys a lease atA, ← inv.leaseKeys b other atB, equal]

theorem initial (config : ValidationConfig) : StoreInvariant config .initial := by
  apply of_tables
  · intro _ _ found
    simp [StoreState.initial] at found
  · constructor
    · intro _ _ found
      simp [StoreState.initial] at found
    · intro _ _ _ _ found
      simp [StoreState.initial] at found
  · intro _ _ found
    simp [StoreState.initial] at found
  · intro _ _ found
    simp [StoreState.initial] at found
  · exact Nat.zero_le _
  · exact Nat.zero_le _

/-- The invariant is carried through the four loops, and the two closing
checks supply the rest. -/
theorem step (run : applyMutation config state mutation = .ok next) (inv : StoreInvariant config state) :
    StoreInvariant config next := by
  obtain ⟨_, _, _, jobs, _, leases, atCreated, atJobs, atReleased, atLeases, owners, matrix, rfl⟩ :=
    applyMutation_eq_ok.mp run
  have createdOk := foldlM_invariant (fun jobs => JobsValid jobs ∧ jobs.size ≤ config.maxJobs)
    (fun _ _ _ _ turn old => ⟨createJob_keeps_valid turn old.1, createJob_keeps_bound turn⟩)
    atCreated ⟨inv.jobsValid, inv.jobsBound⟩
  have jobsOk := foldlM_invariant (fun jobs => JobsValid jobs ∧ jobs.size ≤ config.maxJobs)
    (fun _ _ _ _ turn old => ⟨updateJob_keeps_valid turn old.1, (updateJob_size turn).le.trans old.2⟩)
    atJobs createdOk
  have releasedOk := foldlM_invariant (fun leases => LeasesValid leases ∧ leases.size ≤ config.maxLeases)
    (fun _ _ _ _ turn old => ⟨releaseLease_keeps_valid turn old.1, (releaseLease_size turn).trans old.2⟩)
    atReleased ⟨inv.leasesValid, inv.leasesBound⟩
  have leasesOk := foldlM_invariant (fun leases => LeasesValid leases ∧ leases.size ≤ config.maxLeases)
    (fun _ _ _ _ turn old => ⟨acquireLease_keeps_valid turn old.1, acquireLease_keeps_bound turn⟩)
    atLeases releasedOk
  exact of_tables jobsOk.1 leasesOk.1 owners matrix jobsOk.2 leasesOk.2

/-- A record with the identity of a process has left the queue. -/
theorem identified_busy {id : JobId} (inv : StoreInvariant config state) (found : state.jobs.find? id = some record)
    (identified : record.execution.hasIdentity = true) : record.state ≠ .queued := by
  intro queued
  have valid := inv.executions record (mem_values.mpr ⟨id, found⟩)
  simp only [StoredJob.ExecutionValid, validateExecution, unit_bind_eq_ok, rejectIf_eq_ok] at valid
  exact valid.2.1 ⟨identified, queued⟩

end StoreInvariant

/-- The store after a sequence of mutations, a rejected one changing nothing. -/
def runMutations (config : ValidationConfig) (start : StoreState) (mutations : List StateMutation) : StoreState :=
  Rejecting.run (applyMutation config) start mutations

/-- Every state reached from the empty store satisfies the invariant. -/
theorem runMutations_invariant (config : ValidationConfig) (mutations : List StateMutation) :
    StoreInvariant config (runMutations config .initial mutations) :=
  Rejecting.run_invariant (StoreInvariant config) (fun _ _ _ run inv => inv.step run) (.initial config)

end Yori
