import Yori.Store.Invariant

namespace Yori
open MutationCore

variable {snapshot : StateSnapshot}

/-- The largest id of a loaded snapshot. Terminal jobs stay in the store, so
their ids count as well. -/
def maxJobId (snapshot : StateSnapshot) : UInt64 :=
  snapshot.jobs.foldl (fun maxId record => max maxId record.id.value) 0

/-- The record a submission creates: the next id, queued, revision zero. -/
def submissionRecord (snapshot : StateSnapshot) (spec : JobSpec) : StoredJob :=
  { id := ⟨maxJobId snapshot + 1⟩, spec }

def submissionMutation (snapshot : StateSnapshot) (spec : JobSpec) : StateMutation :=
  { expectedRevision := snapshot.revision, createJobs := [submissionRecord snapshot spec] }

theorem le_maxJobId {record : StoredJob} (member : record ∈ snapshot.jobs) : record.id.value ≤ maxJobId snapshot := by
  have grows : ∀ (records : List StoredJob) (start : UInt64),
      start ≤ records.foldl (fun maxId record => max maxId record.id.value) start ∧
        ∀ record ∈ records,
          record.id.value ≤ records.foldl (fun maxId record => max maxId record.id.value) start := by
    intro records
    induction records with
    | nil => simp
    | cons head _ ih =>
      intro start
      obtain ⟨above, later⟩ := ih (max start head.id.value)
      refine ⟨(le_max_left _ _).trans above, ?_⟩
      intro record member
      rcases List.mem_cons.mp member with here | after
      · subst here
        exact (le_max_right _ _).trans above
      · exact later record after
  exact (grows snapshot.jobs 0).2 record member

theorem maxJobId_le {bound : Nat} (below : ∀ record ∈ snapshot.jobs, record.id.value.toNat ≤ bound) :
    (maxJobId snapshot).toNat ≤ bound := by
  unfold maxJobId
  refine List.foldlRecOn snapshot.jobs _ (motive := fun (maxId : UInt64) => maxId.toNat ≤ bound) (Nat.zero_le _) ?_
  intro maxId small record member
  have own := below record member
  rcases max_choice maxId record.id.value with same | same
  · rw [same]
    exact small
  · rw [same]
    exact own

/-- The store after a sequence of submissions, refused ones dropped. -/
def submitAll (config : ValidationConfig) (specs : List JobSpec) : StoreState :=
  Rejecting.run (fun state spec => applyMutation config state (submissionMutation state.snapshot spec)) .initial specs

theorem submitAll_invariant (config : ValidationConfig) (specs : List JobSpec) :
    StoreInvariant config (submitAll config specs) :=
  Rejecting.run_invariant (StoreInvariant config) (fun _ _ _ run inv => inv.step run) (.initial config)

end Yori
