import Mathlib.Data.Int.Order.Basic
import Yori.Store.MutationCore
import Yori.Store.SqliteRow

namespace Yori
open Checked MachineWord MutationCore

/-- The tables of the store, each with its primary key, and the revision. A lease
row is the device with the number of its job. -/
structure Database where
  jobs : SortedMap Int JobRow := .empty
  leases : SortedMap ByteString Int := .empty
  revision : Int := 0

/-- A statement of a write transaction. -/
inductive Statement
  | writeJobRow (row : JobRow)
  | deleteLeaseRow (uuid : ByteString)
  | insertLeaseRow (uuid : ByteString) (jobId : Int)
  | writeRevision (revision : Int)

/-- A job row replaces the one with its key. A lease row is refused when its
device or its job is in the table already. -/
def Database.execute (database : Database) : Statement → Option Database
  | .writeJobRow row => some { database with jobs := database.jobs.insert row.jobId row }
  | .deleteLeaseRow uuid => some { database with leases := database.leases.erase uuid }
  | .insertLeaseRow uuid jobId =>
    if database.leases.contains uuid || database.leases.values.contains jobId then none
    else some { database with leases := database.leases.insert uuid jobId }
  | .writeRevision revision => some { database with revision }

/-- What the backend fails to do during one call. -/
structure SqliteFaults where
  beginImmediate : Bool := false
  readRevision : Bool := false
  readJobs : Bool := false
  readLeases : Bool := false
  statement : Nat → Bool := fun _ => false
  commit : Bool := false

namespace SqliteStateStore

def int64Max : Nat := 2 ^ 63 - 1

section Reading

variable (faults : SqliteFaults) (database : Database)

def readRevision : Option UInt64 :=
  if faults.readRevision || database.revision < 0 then none else some (unsigned database.revision)

def emplaceJob (jobs : JobTable) (row : JobRow) : Except StateStoreErrorCode JobTable := do
  let record ← decodeJobRow row
  rejectIf (jobs.contains record.id) .invalidJob
  .ok (jobs.emplace record.id record)

def decodeJobs : Except StateStoreErrorCode JobTable := do
  rejectIf faults.readJobs .backendUnavailable
  database.jobs.values.foldlM emplaceJob .empty

def emplaceLease (jobs : JobTable) (leases : LeaseTable) (row : ByteString × Int) :
    Except StateStoreErrorCode LeaseTable := do
  let lease : GpuLease := ⟨⟨row.1⟩, ⟨unsigned row.2⟩⟩
  rejectIf (!lease.gpuUuid.valid ∨ !lease.jobId.valid) .invalidLease
  rejectIf (!jobs.contains lease.jobId) .invalidLease
  rejectIf (leases.contains lease.gpuUuid) .invalidLease
  .ok (leases.emplace lease.gpuUuid lease)

/-- The lease matrix is checked as a whole once all rows are read. -/
def decodeLeases (jobs : JobTable) : Except StateStoreErrorCode LeaseTable := do
  rejectIf faults.readLeases .backendUnavailable
  let leases ← database.leases.entries.foldlM (emplaceLease jobs) .empty
  rejectIf (jobs.entries.any fun entry => !leaseCountFits leases entry.1 entry.2.state) .invalidLease
  .ok leases

def decodeState : Except StateStoreErrorCode StoreState := do
  let revision ← require (readRevision faults database) .backendUnavailable
  let jobs ← decodeJobs faults database
  let leases ← decodeLeases faults database jobs
  .ok ⟨jobs, leases, revision⟩

def load : Except StateStoreErrorCode StateSnapshot := (decodeState faults database).map StoreState.snapshot

end Reading

section Writing

/-- The row statements of a mutation in their order. -/
def statements (mutation : StateMutation) (revision : UInt64) : List Statement :=
  mutation.createJobs.map (fun record => .writeJobRow (writeJobRow record)) ++
    mutation.updateJobs.map (fun record => .writeJobRow (writeJobRow record)) ++
    mutation.releaseLeases.map (fun uuid => .deleteLeaseRow uuid.value) ++
    mutation.acquireLeases.map (fun lease => .insertLeaseRow lease.gpuUuid.value (signed lease.jobId.value)) ++
    [.writeRevision (signed revision)]

/-- The statements are run one after the other, until one fails. -/
def executeAll (fails : Nat → Bool) : Nat → Database → List Statement → Option Database
  | _, database, [] => some database
  | index, database, statement :: rest => do
    let next ← if fails index then none else database.execute statement
    executeAll fails (index + 1) next rest

/-- A write transaction. What it did is undone whenever it does not get to its
end. -/
def apply (config : ValidationConfig) (faults : SqliteFaults) (database : Database) (mutation : StateMutation) :
    StateStoreWriteResult × Database :=
  if faults.beginImmediate then (⟨some .backendUnavailable, 0⟩, database)
  else match decodeState faults database with
    | .error error => (⟨some error, (readRevision faults database).getD 0⟩, database)
    | .ok state =>
      match applyMutation config state mutation with
      | .error error => (⟨some error, state.revision⟩, database)
      | .ok next =>
        if next.revision.toNat > int64Max then (⟨some .invalidMutation, state.revision⟩, database)
        else match executeAll faults.statement 0 database (statements mutation next.revision) with
          | none => (⟨some .backendUnavailable, state.revision⟩, database)
          | some written =>
            if faults.commit then (⟨some .backendUnavailable, state.revision⟩, database)
            else (⟨none, next.revision⟩, written)

end Writing

/-- The database after a sequence of writes, starting from an empty one. -/
def run (config : ValidationConfig) (mutations : List StateMutation) : Database :=
  mutations.foldl (fun database mutation => (apply config {} database mutation).2) {}

end SqliteStateStore

end Yori
