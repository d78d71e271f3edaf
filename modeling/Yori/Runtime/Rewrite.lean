import Yori.Scheduler.Agreement
import Yori.Store.Backend
import Yori.Store.History

namespace Yori
open Checked MutationCore

def findStored (snapshot : StateSnapshot) (id : JobId) : Option StoredJob := snapshot.jobs.find? (·.id == id)

/-- The write for one job: its new record, and the device it gives up. -/
structure Rewrite where
  record : StoredJob
  release : Option GpuUuid := none

def Rewrite.mutation (rewrite : Rewrite) (expectedRevision : UInt64) : StateMutation :=
  { expectedRevision, updateJobs := [rewrite.record], releaseLeases := rewrite.release.toList }

section Writing

variable {σ : Type} (store : StateStore σ)

/-- Loads, composes and writes, again when the revision has moved. The clock
may be read in each attempt, so the composition is told which one it is. -/
def rewriteAttempts (id : JobId) (compose : Nat → StoredJob → Rewrite) :
    (remaining attempt : Nat) → σ → StateStoreWriteResult × σ
  | 0, _, backend => (⟨some .revisionConflict, 0⟩, backend)
  | remaining + 1, attempt, backend =>
    match store.load backend with
    | (.error code, loaded) => (⟨some code, 0⟩, loaded)
    | (.ok snapshot, loaded) =>
      match findStored snapshot id with
      | none => (⟨some .jobNotFound, 0⟩, loaded)
      | some current =>
        let (write, after) := store.apply loaded ((compose attempt current).mutation snapshot.revision)
        if write.code = some .revisionConflict then rewriteAttempts id compose remaining (attempt + 1) after
        else (write, after)

def rewriteJob (id : JobId) (compose : Nat → StoredJob → Rewrite) (backend : σ) : StateStoreWriteResult × σ :=
  rewriteAttempts store id compose 3 0 backend

end Writing

variable {limits : ValidationConfig} {state next : StoreState} {rewrite : Rewrite}

theorem StoreInvariant.findStored_eq (inv : StoreInvariant limits state) (id : JobId) :
    findStored state.snapshot id = state.jobs.find? id := by
  ext record
  have unique : ∀ a ∈ state.snapshot.jobs, ∀ b ∈ state.snapshot.jobs, (a.id == id) = true → (b.id == id) = true →
      a = b := by
    intro _ atA _ atB sameA sameB
    rw [inv.mem_snapshot] at atA atB
    rw [beq_iff_eq] at sameA sameB
    rw [sameA] at atA
    rw [sameB] at atB
    exact Option.some.inj (atA.symm.trans atB)
  rw [findStored, Search.find?_of_unique unique, inv.mem_snapshot, beq_iff_eq]
  constructor
  · intro ⟨found, same⟩
    exact same ▸ found
  · intro found
    have key := inv.jobKeys id record found
    exact ⟨key ▸ found, key⟩

/-- What an accepted write for one job has done to the tables. -/
structure Rewritten (state : StoreState) (rewrite : Rewrite) (next : StoreState) : Prop where
  jobs : next.jobs = state.jobs.insert rewrite.record.id rewrite.record
  leases : next.leases = match rewrite.release with
    | none => state.leases
    | some uuid => state.leases.erase uuid
  valid : RecordValid rewrite.record
  previous : ∃ existing, state.jobs.find? rewrite.record.id = some existing ∧
    canTransition existing.state rewrite.record.state = true ∧ existing.spec = rewrite.record.spec

theorem Rewrite.rewritten {revision : UInt64}
    (run : applyMutation limits state (rewrite.mutation revision) = .ok next) :
    Rewritten state rewrite next := by
  obtain ⟨_, _, _, _, _, _, atCreated, atJobs, atReleased, atLeases, _, _, rfl⟩ :=
    applyMutation_eq_ok.mp run
  simp only [Rewrite.mutation, List.foldlM_nil, List.foldlM_cons] at atCreated atJobs atReleased atLeases
  cases atCreated
  cases atLeases
  obtain ⟨table, turn, same⟩ := bind_eq_ok.mp atJobs
  cases same
  obtain ⟨⟨id, spec⟩, execution, existing, found, ⟨below, revised⟩, sameSpec, allowed, rfl⟩ := updateJob_eq_ok.mp turn
  have queued := iff_of_false (canTransition_ne_queued allowed) (revised ▸ MachineWord.succ_ne_zero below)
  refine ⟨rfl, ?_, ⟨id, spec, execution, queued⟩, existing, found, allowed, sameSpec⟩
  cases release : rewrite.release with
  | none =>
    simp only [release, Option.toList_none, List.foldlM_nil] at atReleased
    cases atReleased
    rfl
  | some =>
    simp only [release, Option.toList_some, List.foldlM_cons, List.foldlM_nil] at atReleased
    obtain ⟨_, turn, same⟩ := bind_eq_ok.mp atReleased
    cases same
    exact (releaseLease_eq_ok.mp turn).2.2.symm

/-- The queued rows of the two tables are the same. -/
def QueuedSame (before after : JobTable) : Prop :=
  ∀ id record, record.state = .queued → (after.find? id = some record ↔ before.find? id = some record)

theorem QueuedSame.refl (jobs : JobTable) : QueuedSame jobs jobs := fun _ _ _ => Iff.rfl

theorem QueuedSame.trans {first second third : JobTable} (early : QueuedSame first second)
    (late : QueuedSame second third) : QueuedSame first third :=
  fun id record queued => (late id record queued).trans (early id record queued)

/-- An update neither takes a row out of the queued ones, if it was not one of
them, nor adds one. -/
theorem updateJob_queuedSame {jobs after : JobTable} {record : StoredJob} (run : updateJob jobs record = .ok after)
    (busy : ∀ existing, jobs.find? record.id = some existing → existing.state ≠ .queued) : QueuedSame jobs after := by
  obtain ⟨_, _, _, _, _, _, allowed, rfl⟩ := updateJob_eq_ok.mp run
  intro _ row queued
  rw [SortedMap.find?_insert]
  split
  · rename_i here
    subst here
    refine iff_of_false ?_ ?_
    · intro same
      cases same
      exact canTransition_ne_queued allowed queued
    · intro old
      exact busy row old queued
  · exact Iff.rfl

theorem applyMutation_queuedSame {mutation : StateMutation} (run : applyMutation limits state mutation = .ok next)
    (createsNothing : mutation.createJobs = [])
    (busy : ∀ record ∈ mutation.updateJobs, ∀ existing, state.jobs.find? record.id = some existing →
      existing.state ≠ .queued) : QueuedSame state.jobs next.jobs := by
  obtain ⟨_, _, _, jobs, _, _, atCreated, atJobs, _, _, _, _, rfl⟩ := applyMutation_eq_ok.mp run
  rw [createsNothing, List.foldlM_nil] at atCreated
  cases atCreated
  refine foldlM_invariant (QueuedSame state.jobs) ?_ atJobs (.refl _)
  intro _ record _ member turn same
  refine same.trans (updateJob_queuedSame turn ?_)
  intro existing found queued
  exact busy record member existing ((same record.id existing queued).mp found) queued

/-- Tables with the same queued rows call for the same queue. -/
theorem QueuedSame.sortedQueued_eq (same : QueuedSame state.jobs next.jobs) (inv : StoreInvariant limits state)
    (after : StoreInvariant limits next) : sortedQueued next.snapshot.jobs = sortedQueued state.snapshot.jobs := by
  refine LowerBound.eq_of_same_members after.sortedQueued_sorted inv.sortedQueued_sorted fun entry => ?_
  rw [after.mem_sortedQueued, inv.mem_sortedQueued]
  refine exists_congr fun record => ?_
  constructor
  · intro ⟨found, queued, entryOf⟩
    exact ⟨(same _ record queued).mp found, queued, entryOf⟩
  · intro ⟨found, queued, entryOf⟩
    exact ⟨(same _ record queued).mpr found, queued, entryOf⟩

theorem QueueAgrees.of_queuedSame {queue : GlobalJobQueue} (agrees : QueueAgrees queue state)
    (inv : StoreInvariant limits state) (after : StoreInvariant limits next)
    (same : QueuedSame state.jobs next.jobs) : QueueAgrees queue next :=
  agrees.trans (same.sortedQueued_eq inv after).symm

section Faithful

variable {σ : Type} {store : StateStore σ} {content : σ → StoreState} {id : JobId}
  {compose : Nat → StoredJob → Rewrite} {backend : σ} {code : Option StateStoreErrorCode}

/-- How a rewrite ends, as far as the tables go: refused, and they are as
before, or accepted in one of the attempts. -/
inductive RewriteOutcome (limits : ValidationConfig) (id : JobId) (compose : Nat → StoredJob → Rewrite)
    (before after : StoreState) (code : Option StateStoreErrorCode) : Prop
  | refused (failed : code ≠ none) (same : after = before)
  | accepted (attempt : Nat) (current : StoredJob) (ok : code = none) (found : before.jobs.find? id = some current)
      (run : applyMutation limits before ((compose attempt current).mutation before.revision) = .ok after)

theorem RewriteOutcome.refused_same {before after : StoreState}
    (outcome : RewriteOutcome limits id compose before after code) (failed : code ≠ none) : after = before := by
  cases outcome with
  | refused _ same => exact same
  | accepted _ _ ok => exact absurd ok failed

theorem RewriteOutcome.accepted_run {before after : StoreState}
    (outcome : RewriteOutcome limits id compose before after code) (ok : code = none) :
    ∃ attempt current, before.jobs.find? id = some current ∧
      applyMutation limits before ((compose attempt current).mutation before.revision) = .ok after := by
  cases outcome with
  | refused failed => exact absurd ok failed
  | accepted attempt current _ found run => exact ⟨attempt, current, found, run⟩

theorem rewriteJob_outcome (faithful : Faithful limits store content) (inv : StoreInvariant limits (content backend))
    (id : JobId) (compose : Nat → StoredJob → Rewrite) :
    RewriteOutcome limits id compose (content backend) (content (rewriteJob store id compose backend).2)
      (rewriteJob store id compose backend).1.code := by
  have attempts : ∀ remaining attempt (backend : σ), StoreInvariant limits (content backend) →
      RewriteOutcome limits id compose (content backend)
        (content (rewriteAttempts store id compose remaining attempt backend).2)
        (rewriteAttempts store id compose remaining attempt backend).1.code := by
    intro remaining
    induction remaining with
    | zero => exact fun _ _ _ => .refused (by simp [rewriteAttempts]) rfl
    | succ _ ih =>
      intro attempt backend inv
      unfold rewriteAttempts
      rcases faithful.load_cases backend with ⟨_, _, load, reads⟩ | ⟨loaded, load, reads⟩
      · rw [load]
        exact .refused (by simp) reads
      · rw [load]
        simp only [inv.findStored_eq]
        split
        · exact .refused (by simp) reads
        · rename_i current found
          let mutation := (compose attempt current).mutation (content backend).snapshot.revision
          split
          · rename_i conflict
            have kept := faithful.apply_refused loaded mutation _ conflict
            have again := ih (attempt + 1) (store.apply loaded mutation).2 (by rw [kept, reads]; exact inv)
            rw [kept, reads] at again
            exact again
          · cases code : (store.apply loaded mutation).1.code with
            | none =>
              have run := faithful.apply_accepted loaded mutation code
              rw [reads] at run
              exact .accepted attempt current rfl found run
            | some error =>
              have kept := faithful.apply_refused loaded mutation error code
              exact .refused (by simp) (kept.trans reads)
  exact attempts 3 0 backend inv

end Faithful

end Yori
