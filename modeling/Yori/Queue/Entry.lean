import Mathlib.Data.Prod.Lex
import Yori.Library.LowerBound
import Yori.Store.Record

namespace Yori

variable {records : List StoredJob} {entry : QueueEntry}

structure QueueEntry where
  jobId : JobId
  submitTime : TimePoint := 0
deriving Repr

namespace QueueEntry

def ofRecord (record : StoredJob) : QueueEntry := ⟨record.id, record.spec.submitTime⟩

/-- The fixed order of service: submission time, then id. -/
def key (entry : QueueEntry) : TimePoint ×ₗ JobId := toLex (entry.submitTime, entry.jobId)

theorem key_injective : Function.Injective key := fun a b same => by
  cases a
  cases b
  cases same
  rfl

instance : LinearOrder QueueEntry := LinearOrder.lift' key key_injective

end QueueEntry

def entryLess (lhs rhs : QueueEntry) : Bool :=
  if lhs.submitTime ≠ rhs.submitTime then lhs.submitTime < rhs.submitTime else lhs.jobId < rhs.jobId

theorem entryLess_iff (lhs rhs : QueueEntry) : entryLess lhs rhs = true ↔ lhs < rhs := by
  change entryLess lhs rhs = true ↔ lhs.key < rhs.key
  rw [QueueEntry.key, QueueEntry.key, Prod.Lex.toLex_lt_toLex]
  unfold entryLess
  by_cases same : lhs.submitTime = rhs.submitTime
  · simp [same]
  · simp [same]

/-- The entries of the queued jobs of a table, in the order of the table. -/
def queuedEntries (records : List StoredJob) : List QueueEntry :=
  (records.filter (·.state = .queued)).map QueueEntry.ofRecord

/-- The queue a table calls for: its queued jobs in the order of service. -/
def sortedQueued (records : List StoredJob) : List QueueEntry := LowerBound.sort entryLess (queuedEntries records)

theorem mem_queuedEntries :
    entry ∈ queuedEntries records ↔
      ∃ record ∈ records, record.state = .queued ∧ QueueEntry.ofRecord record = entry := by
  simp [queuedEntries, and_assoc]

theorem mem_sortedQueued :
    entry ∈ sortedQueued records ↔
      ∃ record ∈ records, record.state = .queued ∧ QueueEntry.ofRecord record = entry := by
  rw [sortedQueued, LowerBound.mem_sort, mem_queuedEntries]

end Yori
