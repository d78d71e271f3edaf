import Yori.Scheduler.Consistency
import Yori.Scheduler.SelectionSpec

namespace Yori
open List

variable {gpuSnapshot : GpuObservationSnapshot} {snapshot : StateSnapshot} {records : SortedMap JobId StoredJob}
  {anyChoice : Option GpuObservation × GpuSelectionReason} {skipped skips : List ScheduleSkip}
  {entries : List QueueEntry}

/-- The scan passes over an entry whose job finds no device. -/
def PassedOver (gpuSnapshot : GpuObservationSnapshot) (snapshot : StateSnapshot)
    (records : SortedMap JobId StoredJob) (anyChoice : Option GpuObservation × GpuSelectionReason)
    (entry : QueueEntry) : Prop :=
  ∀ record, records.find? entry.jobId = some record →
    (selectGpu gpuSnapshot snapshot anyChoice record.spec.gpuPlacement).1 = none

theorem skipReason_job (job : JobId) (placement : GpuPlacement) :
    (skipReason gpuSnapshot snapshot job placement).job = job := by
  unfold skipReason
  split <;> rfl

section

variable (stored : ∀ entry ∈ entries, ∃ record, records.find? entry.jobId = some record)
include stored

/-- A scan that selects has passed over everything before its choice. -/
theorem scan_selected {record : StoredJob} {device : GpuObservation} {reason : GpuSelectionReason}
    (run : scan gpuSnapshot snapshot records anyChoice skipped entries = .selected record device reason skips) :
    ∃ before entry after, entries = before ++ entry :: after ∧ records.find? entry.jobId = some record ∧
      (selectGpu gpuSnapshot snapshot anyChoice record.spec.gpuPlacement).1 = some device ∧
      (∀ earlier ∈ before, PassedOver gpuSnapshot snapshot records anyChoice earlier) ∧
      skips.map (·.job) = skipped.map (·.job) ++ before.map (·.jobId) := by
  induction entries generalizing skipped with
  | nil => simp [scan] at run
  | cons entry rest ih =>
    obtain ⟨⟨stored, atEntry⟩, storedRest⟩ := forall_mem_cons.mp stored
    simp only [scan, atEntry] at run
    split at run
    · rename_i selected
      cases run
      exact ⟨[], entry, rest, rfl, atEntry, congrArg Prod.fst selected, by simp, by simp⟩
    · rename_i none
      obtain ⟨before, chosen, after, split, atChosen, selected, passed, jobs⟩ := ih storedRest run
      refine ⟨entry :: before, chosen, after, by rw [split, cons_append], atChosen, selected, ?_, ?_⟩
      · refine forall_mem_cons.mpr ⟨?_, passed⟩
        intro _ atSame
        cases atEntry.symm.trans atSame
        exact congrArg Prod.fst none
      · rw [jobs, map_append, append_assoc, map_singleton, skipReason_job]
        rfl

theorem scan_exhausted
    (run : scan gpuSnapshot snapshot records anyChoice skipped entries = .exhausted skips) :
    (∀ entry ∈ entries, PassedOver gpuSnapshot snapshot records anyChoice entry) ∧
      skips.map (·.job) = skipped.map (·.job) ++ entries.map (·.jobId) := by
  induction entries generalizing skipped with
  | nil =>
    cases run
    simp
  | cons _ _ ih =>
    obtain ⟨⟨stored, atEntry⟩, storedRest⟩ := forall_mem_cons.mp stored
    simp only [scan, atEntry] at run
    split at run
    · simp at run
    · rename_i none
      obtain ⟨passed, jobs⟩ := ih storedRest run
      refine ⟨forall_mem_cons.mpr ⟨?_, passed⟩, ?_⟩
      · intro _ atSame
        cases atEntry.symm.trans atSame
        exact congrArg Prod.fst none
      · rw [jobs, map_append, append_assoc, map_singleton, skipReason_job]
        rfl

end

theorem mem_collectAffinityTargets {window : Nat} {uuid : GpuUuid} :
    uuid ∈ collectAffinityTargets entries window records ↔
      ∃ entry ∈ entries.take window, ∃ record, records.find? entry.jobId = some record ∧
        record.spec.gpuPlacement.mode = .required ∧ uuid ∈ record.spec.gpuPlacement.devices := by
  simp only [collectAffinityTargets, mem_flatMap]
  refine exists_congr fun entry => and_congr_right fun _ => ?_
  cases records.find? entry.jobId with
  | none => simp
  | some record => by_cases required : record.spec.gpuPlacement.mode = .required <;> simp [required]

end Yori
