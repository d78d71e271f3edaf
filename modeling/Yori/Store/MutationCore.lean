import Yori.Store.Record

namespace Yori
open Checked MachineWord

abbrev JobTable := SortedMap JobId StoredJob
abbrev LeaseTable := SortedMap GpuUuid GpuLease

structure StoreState where
  jobs : JobTable := .empty
  leases : LeaseTable := .empty
  revision : UInt64 := 0

namespace StoreState

def initial : StoreState := {}

/-- The consistent read of both tables, in key order. -/
def snapshot (state : StoreState) : StateSnapshot :=
  ⟨state.revision, state.jobs.values, state.leases.values⟩

end StoreState

namespace MutationCore

structure ValidationConfig where
  maxJobs : Nat := 1024
  maxLeases : Nat := 128

def sameSpec (lhs rhs : JobSpec) : Bool :=
  lhs.ownerUid == rhs.ownerUid && lhs.ownerGid == rhs.ownerGid && lhs.argv == rhs.argv &&
    lhs.cwd == rhs.cwd && lhs.env == rhs.env && lhs.executable == rhs.executable &&
    lhs.envMetadata == rhs.envMetadata && lhs.gpuRequest == rhs.gpuRequest &&
    lhs.gpuPlacement == rhs.gpuPlacement && lhs.launchProfile == rhs.launchProfile &&
    lhs.tensorboardLogdir == rhs.tensorboardLogdir && lhs.submitTime == rhs.submitTime

/-- The comparison leaves no field of a specification out. -/
theorem sameSpec_iff {lhs rhs : JobSpec} : sameSpec lhs rhs = true ↔ lhs = rhs := by
  cases lhs
  cases rhs
  simp only [sameSpec, Bool.and_eq_true, beq_iff_eq, JobSpec.mk.injEq, and_assoc]

def leaseable : JobState → Bool
  | .starting | .running | .stopping => true
  | .queued | .finished | .failed | .cancelled | .lost => false

def createJob (config : ValidationConfig) (jobs : JobTable) (record : StoredJob) :
    Except StateStoreErrorCode JobTable := do
  rejectIf (!record.id.valid ∨ ¬record.spec.Valid ∨ record.state ≠ .queued ∨ record.revision ≠ 0) .invalidJob
  rejectIf (¬record.ExecutionValid) .invalidExecutionRecord
  rejectIf (jobs.contains record.id) .jobAlreadyExists
  rejectIf (jobs.size ≥ config.maxJobs) .capacityExceeded
  .ok (jobs.insert record.id record)

def updateJob (jobs : JobTable) (record : StoredJob) : Except StateStoreErrorCode JobTable := do
  rejectIf (!record.id.valid ∨ ¬record.spec.Valid) .invalidJob
  rejectIf (¬record.ExecutionValid) .invalidExecutionRecord
  match jobs.find? record.id with
  | none => .error .jobNotFound
  | some existing => do
    rejectIf (existing.revision = max64 ∨ record.revision ≠ existing.revision + 1) .invalidJobRevision
    rejectIf (!sameSpec existing.spec record.spec) .jobSpecChanged
    rejectIf (!canTransition existing.state record.state) .invalidJobTransition
    .ok (jobs.insert record.id record)

def releaseLease (leases : LeaseTable) (uuid : GpuUuid) : Except StateStoreErrorCode LeaseTable := do
  rejectIf (!uuid.valid) .invalidLease
  rejectIf (!leases.contains uuid) .leaseNotFound
  .ok (leases.erase uuid)

/-- The job named by a lease exists and is in a state that holds a device. -/
def ownerLeaseable (jobs : JobTable) (id : JobId) : Bool := (jobs.find? id).any (leaseable ·.state)

def acquireLease (config : ValidationConfig) (jobs : JobTable) (leases : LeaseTable) (lease : GpuLease) :
    Except StateStoreErrorCode LeaseTable := do
  rejectIf (!lease.gpuUuid.valid ∨ !lease.jobId.valid) .invalidLease
  rejectIf (leases.contains lease.gpuUuid) .gpuAlreadyLeased
  rejectIf (!ownerLeaseable jobs lease.jobId) .invalidLease
  rejectIf (leases.values.any (·.jobId == lease.jobId)) .jobAlreadyLeased
  rejectIf (leases.size ≥ config.maxLeases) .capacityExceeded
  .ok (leases.insert lease.gpuUuid lease)

def leaseCount (leases : LeaseTable) (id : JobId) : Nat := leases.values.countP (·.jobId == id)

/-- One row of the closing matrix check: active jobs hold exactly one lease,
all others none. -/
def leaseCountFits (leases : LeaseTable) (id : JobId) (state : JobState) : Bool :=
  leaseCount leases id == if leaseable state then 1 else 0

/-- Every entry is checked against working copies of both tables, which are
handed over as a whole with the next revision or not at all. -/
def applyMutation (config : ValidationConfig) (state : StoreState) (mutation : StateMutation) :
    Except StateStoreErrorCode StoreState := do
  rejectIf (mutation.expectedRevision ≠ state.revision) .revisionConflict
  rejectIf (mutation.entryCount = 0 ∨ mutation.entryCount > StateMutation.maxEntries ∨
    state.revision = max64) .invalidMutation
  let created ← mutation.createJobs.foldlM (createJob config) state.jobs
  let jobs ← mutation.updateJobs.foldlM updateJob created
  let released ← mutation.releaseLeases.foldlM releaseLease state.leases
  let leases ← mutation.acquireLeases.foldlM (acquireLease config jobs) released
  rejectIf (leases.values.any fun lease => !ownerLeaseable jobs lease.jobId) .invalidLease
  rejectIf (jobs.entries.any fun entry => !leaseCountFits leases entry.1 entry.2.state) .invalidLease
  .ok ⟨jobs, leases, state.revision + 1⟩

end MutationCore

end Yori
