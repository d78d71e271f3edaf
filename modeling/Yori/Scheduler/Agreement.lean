import Yori.Scheduler.Consistency
import Yori.Store.Invariant

namespace Yori
open MutationCore SortedMap QueueEntry

variable {limits : ValidationConfig} {state : StoreState} {queue : GlobalJobQueue} {config : SchedulerConfig}
  {entry : QueueEntry}

section

variable (inv : StoreInvariant limits state) {record : StoredJob}
include inv

theorem StoreInvariant.mem_snapshot : record ∈ state.snapshot.jobs ↔ state.jobs.find? record.id = some record := by
  change record ∈ state.jobs.values ↔ _
  rw [mem_values]
  constructor
  · intro ⟨id, found⟩
    have key := inv.jobKeys id record found
    exact key ▸ found
  · intro found
    exact ⟨record.id, found⟩

theorem StoreInvariant.distinctIds : DistinctIds state.snapshot := by
  have keys : state.jobs.values.map (·.id) = state.jobs.keys := by
    rw [values, keys, List.map_map]
    refine List.map_congr_left fun entry member => ?_
    exact inv.jobKeys entry.1 entry.2 (find?_eq_some_iff.mpr member)
  change (state.jobs.values.map (·.id)).Nodup
  rw [keys]
  exact state.jobs.keys_nodup

theorem StoreInvariant.queuedRecords_eq_some {id : JobId} :
    (queuedRecords state.snapshot).find? id = some record ↔
      state.jobs.find? id = some record ∧ record.state = .queued := by
  rw [Yori.queuedRecords_eq_some inv.distinctIds, inv.mem_snapshot]
  constructor
  · intro ⟨found, queued, same⟩
    exact ⟨same ▸ found, queued⟩
  · intro ⟨found, queued⟩
    have key := inv.jobKeys id record found
    exact ⟨key ▸ found, queued, key⟩

theorem StoreInvariant.mem_sortedQueued :
    entry ∈ sortedQueued state.snapshot.jobs ↔ ∃ record, state.jobs.find? entry.jobId = some record ∧
      record.state = .queued ∧ ofRecord record = entry := by
  rw [Yori.mem_sortedQueued]
  constructor
  · intro ⟨record, member, queued, same⟩
    exact ⟨record, same ▸ inv.mem_snapshot.mp member, queued, same⟩
  · intro ⟨record, found, queued, same⟩
    have key := inv.jobKeys _ record found
    exact ⟨record, inv.mem_snapshot.mpr (key ▸ found), queued, same⟩

theorem StoreInvariant.sortedQueued_sorted :
    (sortedQueued state.snapshot.jobs).Pairwise (· < ·) := by
  refine LowerBound.sort_sorted entryLess_iff (List.Nodup.of_map jobId ?_)
  rw [queuedEntries, List.map_map]
  exact inv.distinctIds.sublist (List.filter_sublist.map _)

end

/-- The queue holds the stored queued jobs in the order of service. -/
def QueueAgrees (queue : GlobalJobQueue) (state : StoreState) : Prop :=
  queue.entries = sortedQueued state.snapshot.jobs

theorem QueueAgrees.mem_iff (agrees : QueueAgrees queue state) (inv : StoreInvariant limits state) :
    entry ∈ queue.entries ↔ ∃ record, state.jobs.find? entry.jobId = some record ∧ record.state = .queued ∧
      ofRecord record = entry := by
  rw [agrees, inv.mem_sortedQueued]

/-- Agreement only has to be checked entry by entry: both lists are strictly
sorted. -/
theorem QueueAgrees.of_members (inv : StoreInvariant limits state)
    (same : ∀ entry, entry ∈ queue.entries ↔ ∃ record, state.jobs.find? entry.jobId = some record ∧
      record.state = .queued ∧ ofRecord record = entry) : QueueAgrees queue state := by
  refine LowerBound.eq_of_same_members queue.sorted inv.sortedQueued_sorted fun entry => ?_
  rw [same, inv.mem_sortedQueued]

/-- The record behind an entry of an agreeing queue. -/
theorem QueueAgrees.stored (agrees : QueueAgrees queue state) (inv : StoreInvariant limits state)
    (member : entry ∈ queue.entries) :
    ∃ record, (queuedRecords state.snapshot).find? entry.jobId = some record ∧
      state.jobs.find? entry.jobId = some record ∧ record.state = .queued ∧ record.revision = 0 ∧
      ofRecord record = entry := by
  obtain ⟨record, found, queued, same⟩ := (agrees.mem_iff inv).mp member
  have zero := (inv.queuedIff record (mem_values.mpr ⟨_, found⟩)).mp queued
  exact ⟨record, inv.queuedRecords_eq_some.mpr ⟨found, queued⟩, found, queued, zero, same⟩

theorem QueueAgrees.consistent (agrees : QueueAgrees queue state) (inv : StoreInvariant limits state) :
    checkConsistency config queue state.snapshot = .ok () := by
  refine checkConsistency_eq_ok.mpr ⟨?_, ?_⟩
  · intro id
    constructor
    · intro ⟨_, member, same⟩
      obtain ⟨record, found, _⟩ := agrees.stored inv member
      exact ⟨record, same ▸ found⟩
    · intro ⟨record, found⟩
      obtain ⟨stored, queued⟩ := inv.queuedRecords_eq_some.mp found
      have key := inv.jobKeys id record stored
      subst key
      exact ⟨.ofRecord record, (agrees.mem_iff inv).mpr ⟨record, stored, queued, rfl⟩, rfl⟩
  · intro _ member _ found
    obtain ⟨_, atOther, _, _, zero, same⟩ := agrees.stored inv (List.mem_of_mem_take member)
    cases found.symm.trans atOther
    exact ⟨congrArg submitTime same, zero⟩

end Yori
