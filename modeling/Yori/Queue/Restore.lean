import Yori.Queue.JobQueue

namespace Yori.GlobalJobQueue
open Checked List QueueEntry LowerBound

variable {before restored : List QueueEntry} {records : List StoredJob} {queue : GlobalJobQueue}
  {snapshot : StateSnapshot} {seen : List JobId} {capacity index : Nat}

/-- The rebuilding loop: every record of the snapshot is checked, and the
queued ones are collected up to the capacity. -/
def restoreLoop (capacity index : Nat) (seen : List JobId) (restored : List QueueEntry) :
    List StoredJob → Except QueueRejection (List QueueEntry)
  | [] => .ok restored
  | record :: rest => do
    let rejected (code : QueueErrorCode) : QueueRejection :=
      { code, jobId := reportedId record, itemIndex := some index }
    rejectIf (!record.id.valid) (rejected .invalidJobId)
    checkSpec record (some index)
    rejectIf ((record.state = .queued ∧ record.revision ≠ 0) ∨ (record.state ≠ .queued ∧ record.revision = 0))
      (rejected .invalidJobRevision)
    rejectIf (record.id ∈ seen) (rejected .duplicateJob)
    if record.state ≠ .queued then restoreLoop capacity (index + 1) (record.id :: seen) restored rest
    else do
      rejectIf (restored.length ≥ capacity) (rejected .capacityExceeded)
      restoreLoop capacity (index + 1) (record.id :: seen) (restored ++ [ofRecord record]) rest

/-- What the loop has established when it ends: the new entries are those of
the queued jobs, and all records passed the checks. -/
structure Restored (capacity : Nat) (seen : List JobId) (before : List QueueEntry) (records : List StoredJob)
    (restored : List QueueEntry) : Prop where
  entries : restored = before ++ queuedEntries records
  fits : restored.length ≤ capacity
  validIds : ∀ record ∈ records, record.id.valid = true
  specs : ∀ record ∈ records, record.spec.Valid
  queuedIff : ∀ record ∈ records, record.state = .queued ↔ record.revision = 0
  distinct : (records.map (·.id)).Nodup
  unseen : ∀ record ∈ records, record.id ∉ seen

theorem Restored.cons {middle : List QueueEntry} {record : StoredJob} {rest : List StoredJob}
    (tail : Restored capacity (record.id :: seen) middle rest restored)
    (head : middle = before ++ queuedEntries [record]) (valid : record.id.valid = true) (spec : record.spec.Valid)
    (queued : record.state = .queued ↔ record.revision = 0) (unseen : record.id ∉ seen) :
    Restored capacity seen before (record :: rest) restored where
  entries := by
    rw [tail.entries, head, append_assoc, queuedEntries, queuedEntries, ← map_append,
      ← filter_append, singleton_append, queuedEntries]
  fits := tail.fits
  validIds := forall_mem_cons.mpr ⟨valid, tail.validIds⟩
  specs := forall_mem_cons.mpr ⟨spec, tail.specs⟩
  queuedIff := forall_mem_cons.mpr ⟨queued, tail.queuedIff⟩
  distinct := by
    refine nodup_cons.mpr ⟨?_, tail.distinct⟩
    intro member
    obtain ⟨other, atOther, same⟩ := mem_map.mp member
    exact tail.unseen other atOther (same ▸ mem_cons_self ..)
  unseen := forall_mem_cons.mpr
    ⟨unseen, fun other member seen => tail.unseen other member (mem_cons_of_mem _ seen)⟩

theorem Restored.distinctEntries (checked : Restored capacity [] [] records restored) :
    (restored.map jobId).Nodup := by
  rw [checked.entries, nil_append, queuedEntries, map_map]
  exact checked.distinct.sublist (filter_sublist.map _)

theorem restoreLoop_restored (run : restoreLoop capacity index seen before records = .ok restored)
    (fits : before.length ≤ capacity) : Restored capacity seen before records restored := by
  induction records generalizing index seen before with
  | nil =>
    cases run
    exact ⟨by simp [queuedEntries], fits, by simp, by simp, by simp, .nil, by simp⟩
  | cons record _ ih =>
    unfold restoreLoop at run
    simp only [unit_bind_eq_ok, checkSpec_eq_ok, rejectIf_eq_ok, Bool.not_eq_true', Bool.not_eq_false] at run
    obtain ⟨valid, spec, revision, unseen, run⟩ := run
    have queued : record.state = .queued ↔ record.revision = 0 := by
      constructor
      · intro isQueued
        by_contra nonzero
        exact revision (.inl ⟨isQueued, nonzero⟩)
      · intro zero
        by_contra other
        exact revision (.inr ⟨other, zero⟩)
    split at run
    · rename_i other
      exact (ih run fits).cons (by simp [queuedEntries, other]) valid spec queued unseen
    · rename_i isQueued
      obtain ⟨room, run⟩ := unit_bind_eq_ok.mp run
      have more : (before ++ [ofRecord record]).length ≤ capacity := by
        have := rejectIf_eq_ok.mp room
        simp only [length_append, length_singleton]
        omega
      exact (ih run more).cons (by simp [queuedEntries, not_not.mp isQueued]) valid spec queued unseen

/-- The queue made of collected entries, sorted into the order of service. -/
def rebuild (capacity : Nat) (records : List StoredJob) (restored : List QueueEntry)
    (checked : Restored capacity [] [] records restored) : GlobalJobQueue where
  capacity := capacity
  entries := sort entryLess restored
  sorted := by
    apply sort_sorted entryLess_iff
    exact .of_map jobId (checked.distinctEntries)
  distinct := ((sort_perm entryLess restored).map jobId).nodup_iff.mpr checked.distinctEntries
  validIds := by
    intro _ member
    have collected := (mem_sort entryLess).mp member
    rw [checked.entries, nil_append, mem_queuedEntries] at collected
    obtain ⟨record, atRecord, _, same⟩ := collected
    exact same ▸ checked.validIds record atRecord
  fits := (sort_perm entryLess restored).length_eq.le.trans checked.fits

/-- Rebuilds the queue from one consistent snapshot; a rejected snapshot
leaves the old queue. -/
def restore (queue : GlobalJobQueue) (snapshot : StateSnapshot) : QueueOperationResult × GlobalJobQueue :=
  let rejected (rejection : QueueRejection) : QueueOperationResult :=
    ⟨some rejection.code,
      ⟨.restoreRejected, some rejection.code, rejection.jobId, queue.size, queue.size, queue.capacity⟩,
      none, rejection.itemIndex, rejection.specValidation⟩
  if snapshot.revision = 0 ∧ (snapshot.jobs ≠ [] ∨ snapshot.leases ≠ []) then
    (rejected { code := .invalidSnapshotRevision }, queue)
  else match run : restoreLoop queue.capacity 0 [] [] snapshot.jobs with
    | .error rejection => (rejected rejection, queue)
    | .ok restored =>
      let rebuilt := rebuild queue.capacity snapshot.jobs restored (restoreLoop_restored run (Nat.zero_le _))
      ({ code := none,
         event := ⟨.restoreApplied, none, none, queue.size, rebuilt.size, queue.capacity⟩ }, rebuilt)

/-- A restored queue is the one the snapshot calls for. -/
theorem restore_applied (applied : (queue.restore snapshot).1.code = none) :
    (queue.restore snapshot).2.entries = sortedQueued snapshot.jobs ∧
      (queue.restore snapshot).2.capacity = queue.capacity := by
  unfold restore at applied ⊢
  split at applied
  · simp at applied
  · rename_i readable
    rw [if_neg readable]
    split at applied
    · simp at applied
    · rename_i run
      have collected := (restoreLoop_restored run (Nat.zero_le _)).entries
      rw [nil_append] at collected
      refine ⟨?_, rfl⟩
      rw [sortedQueued, ← collected]
      rfl

/-- The checks of the loop are exactly those. -/
theorem restoreLoop_succeeds (checked : Restored capacity seen before records (before ++ queuedEntries records)) :
    ∃ restored, restoreLoop capacity index seen before records = .ok restored := by
  induction records generalizing index seen before with
  | nil => exact ⟨before, rfl⟩
  | cons record rest ih =>
    obtain ⟨valid, validLater⟩ := forall_mem_cons.mp checked.validIds
    obtain ⟨spec, specLater⟩ := forall_mem_cons.mp checked.specs
    obtain ⟨queued, queuedLater⟩ := forall_mem_cons.mp checked.queuedIff
    obtain ⟨unseen, unseenLater⟩ := forall_mem_cons.mp checked.unseen
    obtain ⟨fresh, distinctLater⟩ := nodup_cons.mp checked.distinct
    have revision : ¬((record.state = .queued ∧ record.revision ≠ 0) ∨
        (record.state ≠ .queued ∧ record.revision = 0)) := by
      rintro (⟨isQueued, nonzero⟩ | ⟨other, zero⟩)
      · exact nonzero (queued.mp isQueued)
      · exact other (queued.mpr zero)
    have unseenNext : ∀ other ∈ rest, other.id ∉ record.id :: seen := by
      intro other member seenNow
      rcases mem_cons.mp seenNow with same | old
      · exact fresh (mem_map.mpr ⟨other, member, same⟩)
      · exact unseenLater other member old
    have room := checked.fits
    unfold restoreLoop
    simp only [unit_bind_eq_ok, checkSpec_eq_ok, rejectIf_eq_ok]
    by_cases isQueued : record.state = .queued
    · have more : before ++ queuedEntries (record :: rest) =
          (before ++ [ofRecord record]) ++ queuedEntries rest := by
        simp [queuedEntries, isQueued]
      rw [more] at room
      have space : ¬before.length ≥ capacity := by
        simp only [length_append, length_singleton] at room
        omega
      obtain ⟨restored, run⟩ := ih ⟨rfl, room, validLater, specLater, queuedLater, distinctLater, unseenNext⟩
      refine ⟨restored, by simpa using valid, spec, revision, unseen, ?_⟩
      rw [if_neg (not_not.mpr isQueued), unit_bind_eq_ok, rejectIf_eq_ok]
      exact ⟨space, run⟩
    · have same : queuedEntries (record :: rest) = queuedEntries rest := by simp [queuedEntries, isQueued]
      rw [same] at room
      obtain ⟨restored, run⟩ := ih ⟨rfl, room, validLater, specLater, queuedLater, distinctLater, unseenNext⟩
      exact ⟨restored, by simpa using valid, spec, revision, unseen, by rw [if_pos isQueued]; exact run⟩

/-- Of a snapshot with valid records only the capacity decides. -/
theorem restore_code_iff (readable : ¬(snapshot.revision = 0 ∧ (snapshot.jobs ≠ [] ∨ snapshot.leases ≠ [])))
    (validIds : ∀ record ∈ snapshot.jobs, record.id.valid = true)
    (specs : ∀ record ∈ snapshot.jobs, record.spec.Valid)
    (queuedIff : ∀ record ∈ snapshot.jobs, record.state = .queued ↔ record.revision = 0)
    (distinct : (snapshot.jobs.map (·.id)).Nodup) :
    (queue.restore snapshot).1.code = none ↔ (queuedEntries snapshot.jobs).length ≤ queue.capacity := by
  unfold restore
  rw [if_neg readable]
  constructor
  · intro applied
    split at applied
    · simp at applied
    · rename_i run
      have checked := restoreLoop_restored run (Nat.zero_le _)
      have fits := checked.fits
      rw [checked.entries, nil_append] at fits
      exact fits
  · intro _
    have checked : Restored queue.capacity [] [] snapshot.jobs ([] ++ queuedEntries snapshot.jobs) :=
      ⟨rfl, by rwa [nil_append], validIds, specs, queuedIff, distinct, by simp⟩
    obtain ⟨restored, run⟩ : ∃ restored, restoreLoop queue.capacity 0 [] [] snapshot.jobs = .ok restored :=
      restoreLoop_succeeds checked
    split
    · rename_i failed
      rw [run] at failed
      simp at failed
    · rfl

theorem restore_rejected (rejected : (queue.restore snapshot).1.code ≠ none) : (queue.restore snapshot).2 = queue := by
  unfold restore at rejected ⊢
  split at rejected
  · rename_i unreadable
    rw [if_pos unreadable]
  · rename_i readable
    rw [if_neg readable]
    split at rejected
    · rfl
    · simp at rejected

end Yori.GlobalJobQueue
