import Yori.Library.Search
import Yori.Queue.Entry

namespace Yori
open Checked LowerBound List

variable {record : StoredJob}

structure QueueConfig where
  capacity : Nat := 1024

def QueueConfig.maxCapacity : Nat := 4096

inductive QueueErrorCode
  | invalidCapacity | invalidSnapshotRevision | invalidJobId | invalidJobSpec | invalidJobState
  | invalidJobRevision | jobNotQueued | duplicateJob | capacityExceeded | jobNotFound
deriving Repr

def QueueErrorCode.toString : QueueErrorCode → ByteString
  | .invalidCapacity => .ascii "INVALID_CAPACITY"
  | .invalidSnapshotRevision => .ascii "INVALID_SNAPSHOT_REVISION"
  | .invalidJobId => .ascii "INVALID_JOB_ID"
  | .invalidJobSpec => .ascii "INVALID_JOB_SPEC"
  | .invalidJobState => .ascii "INVALID_JOB_STATE"
  | .invalidJobRevision => .ascii "INVALID_JOB_REVISION"
  | .jobNotQueued => .ascii "JOB_NOT_QUEUED"
  | .duplicateJob => .ascii "DUPLICATE_JOB"
  | .capacityExceeded => .ascii "CAPACITY_EXCEEDED"
  | .jobNotFound => .ascii "JOB_NOT_FOUND"

inductive QueueEventKind
  | admissionAccepted | admissionRejected | removalApplied | removalRejected | restoreApplied
  | restoreRejected
deriving Repr

structure QueueEvent where
  kind : QueueEventKind
  code : Option QueueErrorCode := none
  jobId : Option JobId := none
  sizeBefore : Nat := 0
  sizeAfter : Nat := 0
  capacity : Nat := 0
deriving Repr

structure QueueOperationResult where
  code : Option QueueErrorCode
  event : QueueEvent
  position : Option Nat := none
  itemIndex : Option Nat := none
  specValidation : Option JobSpecError := none
deriving Repr

def QueueOperationResult.ok (result : QueueOperationResult) : Bool := result.code.isNone

/-- The derived queue of the server. The order of service, the uniqueness of
ids and the capacity bound are part of the value. -/
structure GlobalJobQueue where
  capacity : Nat
  entries : List QueueEntry
  sorted : entries.Pairwise (· < ·)
  distinct : (entries.map (·.jobId)).Nodup
  validIds : ∀ entry ∈ entries, entry.jobId.valid = true
  fits : entries.length ≤ capacity

/-- What a rejected operation reports about its cause. -/
structure QueueRejection where
  code : QueueErrorCode
  jobId : Option JobId := none
  itemIndex : Option Nat := none
  specValidation : Option JobSpecError := none
deriving Repr

/-- An id is only reported when it is a valid one. -/
def reportedId (record : StoredJob) : Option JobId := if record.id.valid then some record.id else none

def checkSpec (record : StoredJob) (itemIndex : Option Nat) : Except QueueRejection Unit :=
  match validate record.spec with
  | .ok () => .ok ()
  | .error error => .error ⟨.invalidJobSpec, reportedId record, itemIndex, some error⟩

theorem checkSpec_eq_ok {itemIndex : Option Nat} : checkSpec record itemIndex = .ok () ↔ record.spec.Valid := by
  unfold checkSpec JobSpec.Valid
  cases validate record.spec <;> simp

namespace GlobalJobQueue

variable {queue : GlobalJobQueue} {entry : QueueEntry} {id : JobId}

@[ext] theorem ext {other : GlobalJobQueue} (capacity : queue.capacity = other.capacity)
    (entries : queue.entries = other.entries) : queue = other := by
  cases queue
  cases other
  cases capacity
  cases entries
  rfl

instance : DecidableEq GlobalJobQueue := fun queue other =>
  decidable_of_iff (queue.capacity = other.capacity ∧ queue.entries = other.entries)
    ⟨fun same => ext same.1 same.2, fun same => same ▸ ⟨rfl, rfl⟩⟩

def size (queue : GlobalJobQueue) : Nat := queue.entries.length

def front (queue : GlobalJobQueue) : Option QueueEntry := queue.entries.head?

def contains (queue : GlobalJobQueue) (id : JobId) : Bool := queue.entries.any (·.jobId == id)

theorem contains_eq_true : queue.contains id = true ↔ ∃ entry ∈ queue.entries, entry.jobId = id := by
  simp [contains]

def empty (capacity : Nat) : GlobalJobQueue := ⟨capacity, [], .nil, .nil, by simp, Nat.zero_le _⟩

def create (config : QueueConfig) : Except QueueErrorCode GlobalJobQueue := do
  rejectIf (config.capacity = 0 ∨ config.capacity > QueueConfig.maxCapacity) .invalidCapacity
  .ok (empty config.capacity)

def checkAdmission (queue : GlobalJobQueue) (record : StoredJob) : Except QueueRejection Unit := do
  let rejected (code : QueueErrorCode) : QueueRejection := { code, jobId := reportedId record }
  rejectIf (!record.id.valid) (rejected .invalidJobId)
  checkSpec record none
  rejectIf (record.state ≠ .queued) (rejected .jobNotQueued)
  rejectIf (record.revision ≠ 0) (rejected .invalidJobRevision)
  rejectIf (queue.contains record.id) (rejected .duplicateJob)
  rejectIf (queue.size ≥ queue.capacity) (rejected .capacityExceeded)

theorem checkAdmission_eq_ok :
    queue.checkAdmission record = .ok () ↔
      record.id.valid = true ∧ record.spec.Valid ∧ record.state = .queued ∧ record.revision = 0 ∧
        (∀ entry ∈ queue.entries, entry.jobId ≠ record.id) ∧ queue.entries.length < queue.capacity := by
  have absent : ¬queue.contains record.id = true ↔ ∀ entry ∈ queue.entries, entry.jobId ≠ record.id := by
    rw [contains_eq_true]
    simp
  unfold checkAdmission
  simp only [unit_bind_eq_ok, checkSpec_eq_ok, rejectIf_eq_ok, absent, not_not, ne_eq,
    Bool.not_eq_true', Bool.not_eq_false, size, ge_iff_le, not_le]

/-- The sorted insertion of a new entry, with what keeps the queue well formed. -/
def insertEntry (queue : GlobalJobQueue) (entry : QueueEntry) (valid : entry.jobId.valid = true)
    (absent : ∀ other ∈ queue.entries, other.jobId ≠ entry.jobId) (room : queue.entries.length < queue.capacity) :
    GlobalJobQueue where
  capacity := queue.capacity
  entries := insert entryLess queue.entries entry
  sorted := insert_sorted entryLess_iff queue.sorted fun member => absent entry member rfl
  distinct := by
    have moved := (insert_perm entryLess_iff queue.entries entry).map QueueEntry.jobId
    refine moved.nodup_iff.mpr (List.nodup_cons.mpr ⟨?_, queue.distinct⟩)
    intro member
    obtain ⟨other, atOther, same⟩ := List.mem_map.mp member
    exact absent other atOther same
  validIds := by
    intro other member
    rcases (mem_insert entryLess_iff).mp member with same | old
    · exact same ▸ valid
    · exact queue.validIds other old
  fits := by
    rw [length_insert entryLess_iff]
    omega

/-- Only valid queued jobs of revision zero are admitted, at the lower bound
of their entry. -/
def admitJob (queue : GlobalJobQueue) (record : StoredJob) : QueueOperationResult × GlobalJobQueue :=
  match run : queue.checkAdmission record with
  | .error rejection =>
    (⟨some rejection.code,
      ⟨.admissionRejected, some rejection.code, rejection.jobId, queue.size, queue.size, queue.capacity⟩,
      none, none, rejection.specValidation⟩, queue)
  | .ok () =>
    let entry := QueueEntry.ofRecord record
    have accepted := checkAdmission_eq_ok.mp run
    let admitted := queue.insertEntry entry accepted.1 accepted.2.2.2.2.1 accepted.2.2.2.2.2
    (⟨none, ⟨.admissionAccepted, none, some record.id, queue.size, admitted.size, queue.capacity⟩,
      some (position entryLess queue.entries entry), none, none⟩, admitted)

theorem admitJob_accepted (accepted : queue.checkAdmission record = .ok ()) :
    (queue.admitJob record).1.code = none ∧
      (queue.admitJob record).2.capacity = queue.capacity ∧
      (queue.admitJob record).2.entries = insert entryLess queue.entries (.ofRecord record) := by
  unfold admitJob
  split
  · rename_i rejected
    simp [accepted] at rejected
  · exact ⟨rfl, rfl, rfl⟩

theorem admitJob_rejected {rejection : QueueRejection} (rejected : queue.checkAdmission record = .error rejection) :
    (queue.admitJob record).1.code = some rejection.code ∧ (queue.admitJob record).2 = queue := by
  unfold admitJob
  split
  · rename_i same
    cases Except.error.inj (rejected.symm.trans same)
    exact ⟨rfl, rfl⟩
  · rename_i accepted
    simp [rejected] at accepted

def eraseAt (queue : GlobalJobQueue) (position : Nat) : GlobalJobQueue where
  capacity := queue.capacity
  entries := queue.entries.eraseIdx position
  sorted := queue.sorted.sublist (List.eraseIdx_sublist _ _)
  distinct := queue.distinct.sublist ((List.eraseIdx_sublist _ _).map _)
  validIds := fun entry member => queue.validIds entry ((List.eraseIdx_sublist _ _).subset member)
  fits := (List.eraseIdx_sublist queue.entries position).length_le.trans queue.fits

def remove (queue : GlobalJobQueue) (id : JobId) : QueueOperationResult × GlobalJobQueue :=
  let rejected (code : QueueErrorCode) (reported : Option JobId) : QueueOperationResult :=
    { code := some code,
      event := ⟨.removalRejected, some code, reported, queue.size, queue.size, queue.capacity⟩ }
  if !id.valid then (rejected .invalidJobId none, queue)
  else match queue.entries.findIdx? (·.jobId == id) with
    | none => (rejected .jobNotFound (some id), queue)
    | some position =>
      let removed := queue.eraseAt position
      ({ code := none,
         event := ⟨.removalApplied, none, some id, queue.size, removed.size, queue.capacity⟩,
         position := some position }, removed)

/-- An admission that is not reported as applied changes nothing. -/
theorem admitJob_refused (failed : (queue.admitJob record).1.code ≠ none) : (queue.admitJob record).2 = queue := by
  cases checked : queue.checkAdmission record with
  | ok => exact absurd (admitJob_accepted checked).1 failed
  | error => exact (admitJob_rejected checked).2

/-- A removal that is not reported as applied changes nothing. -/
theorem remove_rejected (failed : (queue.remove id).1.code ≠ none) : (queue.remove id).2 = queue := by
  unfold remove at failed ⊢
  split
  · rfl
  · split
    · rfl
    · simp_all

theorem entry_unique {other : QueueEntry} (atEntry : entry ∈ queue.entries) (atOther : other ∈ queue.entries)
    (same : entry.jobId = other.jobId) : entry = other :=
  inj_on_of_nodup_map queue.distinct atEntry atOther same

/-- Removing the id of an entry takes out that entry and no other. -/
theorem remove_present (present : entry ∈ queue.entries) :
    (queue.remove entry.jobId).1.code = none ∧
      (queue.remove entry.jobId).2.capacity = queue.capacity ∧
      (queue.remove entry.jobId).2.entries = queue.entries.erase entry := by
  have valid := queue.validIds entry present
  have sameTest : queue.entries.eraseP (·.jobId == entry.jobId) = queue.entries.erase entry := by
    rw [erase_eq_eraseP]
    refine Search.eraseP_of_agree fun other member => ?_
    rw [Bool.eq_iff_iff, beq_iff_eq, beq_iff_eq]
    exact ⟨fun same => entry_unique present member same.symm, fun same => same ▸ rfl⟩
  rw [eraseP_eq_eraseIdx] at sameTest
  unfold remove
  rw [if_neg (by simp [valid])]
  cases found : queue.entries.findIdx? (·.jobId == entry.jobId) with
  | none =>
    have missing := findIdx?_eq_none_iff.mp found entry present
    simp at missing
  | some =>
    rw [found] at sameTest
    exact ⟨rfl, rfl, sameTest⟩

/-- Whatever the id, what remains are the entries of the other jobs. -/
theorem remove_entries (queue : GlobalJobQueue) (id : JobId) :
    (queue.remove id).2.entries = queue.entries.filter (·.jobId ≠ id) := by
  by_cases listed : ∃ entry ∈ queue.entries, entry.jobId = id
  · obtain ⟨_, present, same⟩ := listed
    subst same
    rw [(remove_present present).2.2, (nodup_of_strict queue.sorted).erase_eq_filter]
    refine filter_congr fun other member => ?_
    rw [Bool.eq_iff_iff, bne_iff_ne, decide_eq_true_iff]
    exact not_congr ⟨fun equal => equal ▸ rfl, fun sameId => entry_unique member present sameId⟩
  · have unlisted : ∀ entry ∈ queue.entries, ¬entry.jobId = id := fun entry member same => listed ⟨entry, member, same⟩
    have whole : queue.entries.filter (·.jobId ≠ id) = queue.entries := by
      rw [filter_eq_self]
      simpa using unlisted
    have missing : queue.entries.findIdx? (·.jobId == id) = none := by
      rw [findIdx?_eq_none_iff]
      simpa using unlisted
    rw [whole]
    unfold remove
    rw [missing]
    split <;> rfl

/-- The scheduler's way back: a queued job that was just removed is admitted
again at its old position. -/
theorem admitJob_remove (spec : record.spec.Valid) (queued : record.state = .queued) (zero : record.revision = 0)
    (present : QueueEntry.ofRecord record ∈ queue.entries) :
    ((queue.remove record.id).2.admitJob record).1.code = none ∧
      ((queue.remove record.id).2.admitJob record).2 = queue := by
  obtain ⟨_, capacity, entries⟩ : _ ∧ (queue.remove record.id).2.capacity = queue.capacity ∧
    (queue.remove record.id).2.entries = queue.entries.erase (.ofRecord record) := remove_present present
  have valid : record.id.valid = true := queue.validIds _ present
  have nodup := nodup_of_strict queue.sorted
  have accepted : (queue.remove record.id).2.checkAdmission record = .ok () := by
    refine checkAdmission_eq_ok.mpr ⟨valid, spec, queued, zero, ?_, ?_⟩
    · rw [entries]
      intro _ member same
      obtain ⟨different, old⟩ := (Nodup.mem_erase_iff nodup).mp member
      exact different (entry_unique old present same)
    · rw [entries, capacity]
      have shorter := length_erase_of_mem present
      have nonempty := length_pos_of_mem present
      have bound := queue.fits
      omega
  obtain ⟨ok, sameCapacity, inserted⟩ := admitJob_accepted accepted
  refine ⟨ok, GlobalJobQueue.ext (sameCapacity.trans capacity) ?_⟩
  rw [inserted, entries, insert_erase entryLess_iff queue.sorted present]

end GlobalJobQueue

end Yori
