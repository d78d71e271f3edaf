import Yori.Library.TableImage
import Yori.Store.Invariant
import Yori.Store.SqliteCodec
import Yori.Store.SqliteStore

namespace Yori
open Checked MachineWord MutationCore SortedMap

/-- The row of a record is read back as that record. -/
def RowFaithful (record : StoredJob) : Prop := decodeJobRow (writeJobRow record) = .ok record

instance decidableRowFaithful (record : StoredJob) : Decidable (RowFaithful record) :=
  inferInstanceAs (Decidable (decodeJobRow (writeJobRow record) = .ok record))

/-- The rows are those of the records, under the keys of their jobs. -/
structure JobsStored (table : SortedMap Int JobRow) (jobs : JobTable) : Prop where
  rows : ∀ id : JobId, table.find? (signed id.value) = (jobs.find? id).map writeJobRow
  keys : ∀ key row, table.find? key = some row → ∃ id : JobId, key = signed id.value

def LeasesStored (table : SortedMap ByteString Int) (leases : LeaseTable) : Prop :=
  ∀ uuid : GpuUuid, table.find? uuid.value = (leases.find? uuid).map fun lease => signed lease.jobId.value

/-- The tables hold a state, row by row, and nothing else. -/
structure Stores (database : Database) (state : StoreState) : Prop where
  jobs : JobsStored database.jobs state.jobs
  leases : LeasesStored database.leases state.leases
  revision : database.revision = signed state.revision

theorem Stores.initial : Stores {} .initial :=
  ⟨⟨fun _ => rfl, by simp⟩, fun _ => rfl, rfl⟩

section Tables

variable {jobs : JobTable} {leases : LeaseTable}

theorem signedId_injective : Function.Injective fun id : JobId => signed id.value := by
  intro _ _ same
  exact JobId.value_injective (signed_injective same)

theorem jobsStored_iff {rows : SortedMap Int JobRow} :
    JobsStored rows jobs ↔ rows.Image (fun id : JobId => signed id.value) writeJobRow jobs :=
  ⟨fun stored => ⟨stored.rows, stored.keys⟩, fun image => ⟨image.lookup, image.keys⟩⟩

/-- Every text is the key of some device. -/
theorem leasesStored_iff {rows : SortedMap ByteString Int} :
    LeasesStored rows leases ↔ rows.Image GpuUuid.value (fun lease => signed lease.jobId.value) leases :=
  ⟨fun stored => ⟨stored, fun place _ _ => ⟨⟨place⟩, rfl⟩⟩, fun image => image.lookup⟩

end Tables

/-- The tables of a state. -/
def Database.ofState (state : StoreState) : Database where
  jobs := state.jobs.values.foldl
    (fun rows record => rows.emplace (signed record.id.value) (writeJobRow record)) .empty
  leases := state.leases.values.foldl
    (fun rows lease => rows.emplace lease.gpuUuid.value (signed lease.jobId.value)) .empty
  revision := signed state.revision

/-- Every sound state can be held. -/
theorem Stores.ofState {config : ValidationConfig} {state : StoreState} (inv : StoreInvariant config state) :
    Stores (.ofState state) state := by
  refine ⟨jobsStored_iff.mpr ?_, leasesStored_iff.mpr ?_, rfl⟩
  · have held := (jobsStored_iff.mp Stores.initial.jobs).emplaceAll signedId_injective (·.id) state.jobs.values
    change Image _ _ _ (state.jobs.values.foldl (fun jobs record => jobs.emplace record.id record) .empty) at held
    rwa [emplaceAll_of_members inv.jobKeys fun _ => mem_values] at held
  · have held := (leasesStored_iff.mp Stores.initial.leases).emplaceAll GpuUuid.value_injective (·.gpuUuid)
      state.leases.values
    change Image _ _ _
      (state.leases.values.foldl (fun leases lease => leases.emplace lease.gpuUuid lease) .empty) at held
    rwa [emplaceAll_of_members inv.leaseKeys fun _ => mem_values] at held

namespace SqliteStateStore

variable {config : ValidationConfig} {database : Database} {state next : StoreState} {mutation : StateMutation}
  {jobs : JobTable} {leases : LeaseTable} {lease : GpuLease}

theorem executeAll_plain (index : Nat) (database : Database) (list : List Statement) :
    executeAll (fun _ => false) index database list = list.foldlM Database.execute database := by
  induction list generalizing index database with
  | nil => rfl
  | cons _ _ ih =>
    rw [executeAll, List.foldlM_cons]
    simp only [Bool.false_eq_true, if_false, ih]

section Writes

variable {after : LeaseTable}

/-- The rows of the two tables that the statements write. -/
def Holds (database : Database) (jobs : JobTable) (leases : LeaseTable) : Prop :=
  JobsStored database.jobs jobs ∧ LeasesStored database.leases leases

/-- A loop of the core that enters its records one by one is followed by the job
rows. -/
theorem writeJobRows {step : JobTable → StoredJob → Except StateStoreErrorCode JobTable} {records : List StoredJob}
    {after : JobTable}
    (enters : ∀ jobs record after, step jobs record = .ok after → jobs.insert record.id record = after)
    (run : records.foldlM step jobs = .ok after) (stored : Holds database jobs leases) :
    ∃ last, (records.map fun record => Statement.writeJobRow (writeJobRow record)).foldlM Database.execute database =
      some last ∧ Holds last after leases := by
  refine foldlM_follows (Holds · · leases) ?_ run stored
  intro _ before record after turn stored
  refine ⟨_, rfl, ?_, stored.2⟩
  rw [← enters before record after turn, jobsStored_iff]
  exact (jobsStored_iff.mp stored.1).insert signedId_injective record.id record

theorem deleteLeaseRows {uuids : List GpuUuid} (run : uuids.foldlM releaseLease leases = .ok after)
    (stored : Holds database jobs leases) :
    ∃ last, (uuids.map fun uuid => Statement.deleteLeaseRow uuid.value).foldlM Database.execute database =
      some last ∧ Holds last jobs after := by
  refine foldlM_follows (Holds · jobs ·) ?_ run stored
  intro _ _ uuid _ turn stored
  obtain ⟨_, _, same⟩ := releaseLease_eq_ok.mp turn
  refine ⟨_, rfl, stored.1, ?_⟩
  rw [← same, leasesStored_iff]
  exact (leasesStored_iff.mp stored.2).erase GpuUuid.value_injective uuid

/-- A lease that the core acquires violates neither of the two keys. -/
theorem insertLeaseRow_executes (turn : acquireLease config jobs leases lease = .ok after)
    (stored : LeasesStored database.leases leases) :
    database.execute (.insertLeaseRow lease.gpuUuid.value (signed lease.jobId.value)) =
      some { database with leases := database.leases.insert lease.gpuUuid.value (signed lease.jobId.value) } := by
  obtain ⟨_, absent, _, unheld, _⟩ := acquireLease_eq_ok.mp turn
  have free : database.leases.contains lease.gpuUuid.value = false := by
    rw [contains_eq_false, stored, absent]
    rfl
  have single : database.leases.values.contains (signed lease.jobId.value) = false := by
    rw [List.contains_eq_mem, decide_eq_false_iff_not]
    intro member
    obtain ⟨uuid, found⟩ := mem_values.mp member
    have row := stored ⟨uuid⟩
    rw [found] at row
    obtain ⟨held, atHeld, same⟩ := Option.map_eq_some_iff.mp row.symm
    exact unheld ⟨uuid⟩ held atHeld (JobId.value_injective (signed_injective same))
  rw [Database.execute, free, single]
  rfl

theorem insertLeaseRows {list : List GpuLease} (run : list.foldlM (acquireLease config jobs) leases = .ok after)
    (stored : Holds database jobs leases) :
    ∃ last, (list.map fun lease => Statement.insertLeaseRow lease.gpuUuid.value (signed lease.jobId.value)).foldlM
        Database.execute database = some last ∧ Holds last jobs after := by
  refine foldlM_follows (Holds · jobs ·) ?_ run stored
  intro _ _ lease _ turn stored
  obtain ⟨_, _, _, _, _, same⟩ := acquireLease_eq_ok.mp turn
  refine ⟨_, insertLeaseRow_executes turn stored.2, stored.1, ?_⟩
  rw [← same, leasesStored_iff]
  exact (leasesStored_iff.mp stored.2).insert GpuUuid.value_injective lease.gpuUuid lease

/-- The statements of a mutation that the core accepts can all be executed, and
lead to the tables of its next state. -/
theorem statements_stored (stores : Stores database state) (run : applyMutation config state mutation = .ok next) :
    ∃ after, (statements mutation next.revision).foldlM Database.execute database = some after ∧ Stores after next := by
  obtain ⟨_, _, _, jobs, _, leases, atCreated, atJobs, atReleased, atLeases, _, _, rfl⟩ :=
    applyMutation_eq_ok.mp run
  obtain ⟨_, createdRun, stored⟩ := writeJobRows
    (fun _ _ _ turn => (createJob_eq_ok.mp turn).2.2.2.2) atCreated ⟨stores.jobs, stores.leases⟩
  obtain ⟨_, jobRun, stored⟩ := writeJobRows
    (fun _ _ _ turn => by obtain ⟨_, _, _, _, _, _, _, same⟩ := updateJob_eq_ok.mp turn; exact same) atJobs stored
  obtain ⟨_, releasedRun, stored⟩ := deleteLeaseRows atReleased stored
  obtain ⟨last, leaseRun, stored⟩ := insertLeaseRows atLeases stored
  refine ⟨{ last with revision := signed (state.revision + 1) }, ?_, stored.1, stored.2, rfl⟩
  simp only [statements, List.foldlM_append, createdRun, Option.bind_eq_bind, Option.bind_some]
  simp only [jobRun, releasedRun, leaseRun, Option.bind_some]
  rfl

end Writes

section Reads

theorem emplaceJob_turn {record : StoredJob} (faithful : RowFaithful record) (absent : jobs.find? record.id = none) :
    emplaceJob jobs (writeJobRow record) = .ok (jobs.emplace record.id record) := by
  have free : ¬jobs.contains record.id = true := by
    rw [contains_eq_true]
    simp [absent]
  rw [emplaceJob, faithful]
  change (rejectIf (jobs.contains record.id) _ >>= _) = _
  rw [rejectIf_of_not free]
  rfl

theorem decodeJobs_stored (stored : JobsStored database.jobs jobs)
    (named : ∀ id record, jobs.find? id = some record → record.id = id)
    (faithful : ∀ record ∈ jobs.values, RowFaithful record) : decodeJobs {} database = .ok jobs := by
  obtain ⟨records, entries, distinct, members⟩ := (jobsStored_iff.mp stored).listed signedId_injective named
  have rows : database.jobs.values = records.map writeJobRow := by
    rw [values, entries, List.map_map]
    rfl
  have filled := emplaceAll_of_members named members
  have run : (records.map writeJobRow).foldlM emplaceJob .empty =
      .ok (records.foldl (fun filled record => filled.emplace record.id record) .empty) := by
    refine foldlM_emplace ?_ distinct fun _ _ => rfl
    intro record member _ absent
    exact emplaceJob_turn (faithful record (mem_values.mpr ((members record).mp member))) absent
  rw [filled, ← rows] at run
  exact run

theorem emplaceLease_turn (uuid : lease.gpuUuid.valid = true) (id : lease.jobId.valid = true)
    (owned : jobs.contains lease.jobId = true) (absent : leases.find? lease.gpuUuid = none) :
    emplaceLease jobs leases (lease.gpuUuid.value, signed lease.jobId.value) =
      .ok (leases.emplace lease.gpuUuid lease) := by
  have same : (⟨⟨lease.gpuUuid.value⟩, ⟨unsigned (signed lease.jobId.value)⟩⟩ : GpuLease) = lease := by
    rw [unsigned_signed]
  have free : ¬leases.contains lease.gpuUuid = true := by
    rw [contains_eq_true]
    simp [absent]
  unfold emplaceLease
  simp only [same]
  rw [rejectIf_of_not (by simp [uuid, id]), rejectIf_of_not (by simp [owned]), rejectIf_of_not free]
  rfl

theorem decodeLeases_stored (stored : LeasesStored database.leases state.leases) (inv : StoreInvariant config state) :
    decodeLeases {} database state.jobs = .ok state.leases := by
  obtain ⟨list, rows, distinct, members⟩ :=
    (leasesStored_iff.mp stored).listed GpuUuid.value_injective inv.leaseKeys
  have filled := emplaceAll_of_members inv.leaseKeys members
  have run : (list.map fun lease => (lease.gpuUuid.value, signed lease.jobId.value)).foldlM
      (emplaceLease state.jobs) .empty =
        .ok (list.foldl (fun filled lease => filled.emplace lease.gpuUuid lease) .empty) := by
    refine foldlM_emplace ?_ distinct fun _ _ => rfl
    intro lease member leases absent
    have held : lease ∈ state.leases.values := mem_values.mpr ((members lease).mp member)
    obtain ⟨record, owner⟩ := inv.leaseOwners lease held
    have id := inv.jobIds record (mem_values.mpr ⟨_, owner⟩)
    rw [inv.jobKeys _ record owner] at id
    exact emplaceLease_turn (inv.leaseUuids lease held) id (contains_eq_true.mpr ⟨record, owner⟩) absent
  rw [filled, ← rows] at run
  have matrix := matrix_checked.mpr inv.leaseMatrix
  rw [decodeLeases, run]
  change (rejectIf (state.jobs.entries.any fun entry => !leaseCountFits state.leases entry.1 entry.2.state) _ >>= _) = _
  rw [rejectIf_of_not matrix]
  rfl

/-- Tables that hold a sound state of records with faithful rows are read back
as that state. -/
theorem decodeState_stored (stores : Stores database state) (inv : StoreInvariant config state)
    (faithful : ∀ record ∈ state.jobs.values, RowFaithful record) (below : state.revision.toNat < 2 ^ 63) :
    decodeState {} database = .ok state := by
  have revision : readRevision {} database = some state.revision := by
    have sign := signed_nonneg.mpr below
    simp [readRevision, stores.revision, sign]
  have jobs : decodeJobs {} database = .ok state.jobs := decodeJobs_stored stores.jobs inv.jobKeys faithful
  have leases := decodeLeases_stored stores.leases inv
  rw [decodeState, revision, jobs]
  change (decodeLeases {} database state.jobs >>= _) = _
  rw [leases]
  rfl

end Reads

end SqliteStateStore

end Yori
