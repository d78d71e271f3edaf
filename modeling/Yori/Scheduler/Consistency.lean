import Yori.Scheduler.RunOnce

namespace Yori
open Checked SortedMap

/-- No two records of a snapshot share an id. -/
def DistinctIds (snapshot : StateSnapshot) : Prop := (snapshot.jobs.map (·.id)).Nodup

variable {snapshot : StateSnapshot} {queue : GlobalJobQueue} {config : SchedulerConfig}

theorem queuedRecords_find? (id : JobId) :
    (queuedRecords snapshot).find? id = snapshot.jobs.find? fun record => record.state = .queued ∧ record.id = id := by
  have loop : ∀ (jobs : List StoredJob) (records : SortedMap JobId StoredJob),
      (jobs.foldl (fun records record =>
        if record.state = .queued ∧ !records.contains record.id then records.insert record.id record
        else records) records).find? id =
      (records.find? id).or (jobs.find? fun record => record.state = .queued ∧ record.id = id) := by
    intro jobs
    induction jobs with
    | nil => simp
    | cons record _ ih =>
      intro records
      rw [List.foldl_cons, ih]
      by_cases queued : record.state = .queued
      · cases present : records.find? record.id with
        | some =>
          rw [if_neg (by simp [contains, present])]
          by_cases same : record.id = id
          · subst same
            simp [present]
          · simp [queued, same]
        | none =>
          rw [if_pos ⟨queued, by simp [contains, present]⟩, find?_insert]
          by_cases same : record.id = id
          · subst same
            simp [present, queued]
          · simp [queued, same, Ne.symm same]
      · simp [queued]
  rw [queuedRecords, loop, find?_empty, Option.none_or]

theorem queuedRecords_eq_some {id : JobId} {record : StoredJob} (distinct : DistinctIds snapshot) :
    (queuedRecords snapshot).find? id = some record ↔
      record ∈ snapshot.jobs ∧ record.state = .queued ∧ record.id = id := by
  rw [queuedRecords_find?, Search.find?_of_unique, decide_eq_true_iff]
  intro _ atA _ atB sameA sameB
  have ids := (of_decide_eq_true sameA).2.trans (of_decide_eq_true sameB).2.symm
  exact List.inj_on_of_nodup_map distinct atA atB ids

theorem checkEntries_eq_ok {records : SortedMap JobId StoredJob} {window index : Nat} {entries : List QueueEntry} :
    checkEntries records window index entries = .ok () ↔
      (∀ entry ∈ entries, ∃ record, records.find? entry.jobId = some record) ∧
        ∀ entry ∈ entries.take (window - index), ∀ record, records.find? entry.jobId = some record →
          record.spec.submitTime = entry.submitTime ∧ record.revision = 0 := by
  induction entries generalizing index with
  | nil => simp [checkEntries]
  | cons entry _ ih =>
    unfold checkEntries
    cases found : records.find? entry.jobId with
    | none => simp [found]
    | some =>
      simp only [guard_bind_eq_ok, ih, List.forall_mem_cons, found, Option.some.injEq, exists_eq', true_and, not_and,
        not_not]
      by_cases inside : index < window
      · obtain ⟨left, remaining⟩ : ∃ left, window - index = left + 1 := ⟨window - index - 1, by omega⟩
        have next : window - (index + 1) = left := by omega
        simp only [inside, remaining, next, true_implies, List.take_succ_cons, List.forall_mem_cons, found,
          Option.some.injEq, forall_eq', and_assoc]
        constructor
        · intro ⟨time, revision, members, fields⟩
          exact ⟨members, time, revision, fields⟩
        · intro ⟨members, time, revision, fields⟩
          exact ⟨time, revision, members, fields⟩
      · have none : window - index = 0 := by omega
        have next : window - (index + 1) = 0 := by omega
        simp [inside, none, next]

/-- The comparison passes exactly when queue and store name the same jobs and
the entries of the window carry the stored fields. -/
theorem checkConsistency_eq_ok :
    checkConsistency config queue snapshot = .ok () ↔
      (∀ id, (∃ entry ∈ queue.entries, entry.jobId = id) ↔ ∃ record, (queuedRecords snapshot).find? id = some record) ∧
        ∀ entry ∈ queue.entries.take (scanWindow config queue), ∀ record,
          (queuedRecords snapshot).find? entry.jobId = some record →
            record.spec.submitTime = entry.submitTime ∧ record.revision = 0 := by
  unfold checkConsistency
  rw [guard_bind_eq_ok, checkEntries_eq_ok, not_not, Nat.sub_zero, ← and_assoc]
  apply and_congr_left
  intro _
  have ids : ∀ id, id ∈ queue.entries.map (·.jobId) ↔ ∃ entry ∈ queue.entries, entry.jobId = id := by simp
  have sizes : queue.size = (queue.entries.map (·.jobId)).length := (List.length_map ..).symm
  rw [sizes]
  constructor
  · intro ⟨same, members⟩ id
    have within : ∀ key ∈ queue.entries.map (·.jobId), key ∈ (queuedRecords snapshot).keys := by
      intro key listed
      obtain ⟨entry, atEntry, sameKey⟩ := (ids key).mp listed
      exact mem_keys.mpr (sameKey ▸ members entry atEntry)
    have all := (size_eq_length_iff queue.distinct within).mp same
    rw [← ids, ← mem_keys]
    exact ⟨within id, all id⟩
  · intro same
    have within : ∀ key ∈ queue.entries.map (·.jobId), key ∈ (queuedRecords snapshot).keys := by
      intro key listed
      exact mem_keys.mpr ((same key).mp ((ids key).mp listed))
    refine ⟨(size_eq_length_iff queue.distinct within).mpr ?_, ?_⟩
    · intro key stored
      exact (ids key).mpr ((same key).mpr (mem_keys.mp stored))
    · intro entry member
      exact (same entry.jobId).mp ⟨entry, member, rfl⟩

end Yori
