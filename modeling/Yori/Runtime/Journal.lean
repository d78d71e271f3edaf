import Mathlib.Logic.Relation
import Yori.Recovery.Recovered
import Yori.Runtime.TableMove

namespace Yori
open Checked MachineWord MutationCore SortedMap StoredJob

variable {limits : ValidationConfig} {state next : StoreState} {queue after : GlobalJobQueue}

/-- The writes of the daemon: the job after all stored ones is created, or
stored jobs move on. No write takes a job away. -/
inductive DaemonWrite (limits : ValidationConfig) (state next : StoreState) : Prop
  | created (spec : JobSpec) (run : applyMutation limits state (submissionMutation state.snapshot spec) = .ok next)
  | moved (mutation : StateMutation) (none : mutation.createJobs = []) (some : mutation.updateJobs ≠ [])
      (run : applyMutation limits state mutation = .ok next)

/-- Any number of writes of the daemon. -/
def Journal (limits : ValidationConfig) : StoreState → StoreState → Prop := Relation.ReflTransGen (DaemonWrite limits)

theorem DaemonWrite.of_rewrite {rewrite : Rewrite} {revision : UInt64}
    (run : applyMutation limits state (rewrite.mutation revision) = .ok next) : DaemonWrite limits state next :=
  .moved _ rfl (by simp [Rewrite.mutation]) run

theorem Rewrites.journal {id : JobId} (writes : Rewrites limits id state next) : Journal limits state next := by
  induction writes with
  | none => exact .refl
  | more _ _ _ run ih => exact .tail ih (.of_rewrite run)

theorem JobManager.SubmitMove.journal {left : Prop} {spec : JobSpec}
    (move : SubmitMove limits left spec queue state after next) : Journal limits state next := by
  cases move with
  | idle => exact .refl
  | submitted run | leftBehind _ run => exact .single (.created spec run)
  | takenBack run back => exact .tail (.single (.created spec run)) (.moved _ rfl (by simp [compensation]) back)

theorem JobManager.TableMove.journal {left : Prop} {asked : JobSpec → Prop}
    (move : TableMove limits left asked queue state after next) : Journal limits state next := by
  cases move with
  | idle => exact .refl
  | submitted _ _ move => exact move.journal
  | cancelled _ _ _ _ _ _ run | rewritten _ _ _ _ _ _ _ run => exact .single (.of_rewrite run)
  | started _ _ _ _ run rewrites =>
    exact .head (.moved _ rfl (by simp [startMutation]) run) rewrites.journal

/-- The chunks of a recovery only move stored jobs on. -/
theorem JobRecovery.recover_journal {σ : Type} {store : StateStore σ} {content : σ → StoreState}
    (faithful : Faithful limits store content) (verifier : IdentityVerifier) (now : TimePoint) (queue : GlobalJobQueue)
    (backend : σ) : Journal limits (content backend) (content (recover store verifier now queue backend).2.2) := by
  rcases (recover_run faithful verifier now queue backend).written with same | ⟨_, reads, same⟩
  · rw [same]
    exact .refl
  · rw [same]
    let updates (chunk : StateMutation) : Prop :=
      chunk.createJobs = [] ∧ (chunk.entryCount ≠ 0 → chunk.updateJobs ≠ [])
    have empty : updates {} := ⟨rfl, by simp [StateMutation.entryCount]⟩
    refine writeChunks_rule faithful empty ?_ ?_ empty (by rw [reads]; exact .refl)
    · intro _ _ _ fits
      exact ⟨fits.1, fun _ => by simp [addEntry]⟩
    · intro chunk revision _ _ fits filled run journal
      exact .tail journal (.moved { chunk with expectedRevision := revision } fits.1 (fits.2 filled) run)

/-- How often a job was written: once when it was created, and then once for
each of its revisions. -/
def StoredJob.writes (record : StoredJob) : Nat := record.revision.toNat + 1

/-- What the counters of a store tell that only the daemon writes: ids are
given without gaps, and every revision of the store wrote some job. -/
structure Counted (state : StoreState) : Prop where
  unspent : Unspent state.jobs
  dense : ∀ id record, state.jobs.find? id = some record → id.value.toNat ≤ state.jobs.size
  revised : state.revision.toNat ≤ state.jobs.total writes

theorem Counted.initial : Counted .initial := by
  refine ⟨?_, ?_, Nat.zero_le _⟩
  · intro _ _ found
    simp [StoreState.initial] at found
  · intro _ _ found
    simp [StoreState.initial] at found

/-- A job is written five times at most, so the revision of the store stays
below five times the number of its jobs. -/
theorem Counted.revision_le (counted : Counted state) : state.revision.toNat ≤ 5 * state.jobs.size := by
  have light : ∀ id record, state.jobs.find? id = some record → record.writes ≤ 5 := by
    intro id record found
    have bound := counted.unspent id record found
    have last : record.state.stage ≤ 4 := by cases record.state <;> decide
    rw [writes]
    omega
  have total := total_le light
  have revised := counted.revised
  omega

/-- The largest id of a store is the number of its jobs at most. -/
theorem Counted.maxJobId_le_size (counted : Counted state) (inv : StoreInvariant limits state) :
    (maxJobId state.snapshot).toNat ≤ state.jobs.size := by
  apply maxJobId_le
  intro record member
  exact counted.dense record.id record (inv.mem_snapshot.mp member)

/-- The loop over the updates of a mutation: no job comes or goes, and each
turn writes one job once more. -/
theorem updateJobs_writes {records : List StoredJob} {jobs later : JobTable}
    (run : records.foldlM updateJob jobs = .ok later) :
    later.total writes = jobs.total writes + records.length ∧ later.size = jobs.size ∧
      ∀ id, later.contains id = jobs.contains id := by
  induction records generalizing jobs with
  | nil =>
    cases run
    exact ⟨rfl, rfl, fun _ => rfl⟩
  | cons record _ ih =>
    obtain ⟨middle, turn, others⟩ := bind_eq_ok.mp run
    obtain ⟨_, _, existing, found, ⟨below, revision⟩, _, _, rfl⟩ := updateJob_eq_ok.mp turn
    obtain ⟨total, size, keys⟩ := ih others
    have exchanged : (jobs.insert record.id record).total writes + existing.writes =
        jobs.total writes + record.writes := total_insert_of_present found
    have again : record.writes = existing.writes + 1 := by
      rw [writes, writes, revision, toNat_succ below]
    refine ⟨?_, size.trans (size_insert_of_present found), ?_⟩
    · rw [List.length_cons]
      omega
    · intro id
      rw [keys id, contains, contains, find?_insert]
      split
      · rename_i here
        rw [here, found]
        rfl
      · rfl

namespace DaemonWrite

section

variable (write : DaemonWrite limits state next)
include write

theorem invariant (inv : StoreInvariant limits state) :
    StoreInvariant limits next := by
  cases write with
  | created _ run | moved _ _ _ run => exact inv.step run

theorem counted (inv : StoreInvariant limits state) (counted : Counted state) :
    Counted next := by
  cases write with
  | created spec run =>
    have submitted := submitted_of_accepted run
    have revision := applyMutation_revision run
    have largest := counted.maxJobId_le_size inv
    have size : (state.jobs.insert (submissionRecord state.snapshot spec).id
      (submissionRecord state.snapshot spec)).size =
        state.jobs.size + 1 := size_insert_of_absent submitted.absent
    refine ⟨applyMutation_unspent run counted.unspent, ?_, ?_⟩
    · intro id record found
      rw [submitted.jobs] at found ⊢
      rw [size]
      obtain ⟨here, -⟩ | found := insert_cases found
      · have number : id.value.toNat ≤ (maxJobId state.snapshot).toNat + 1 := by
          rw [here]
          change (maxJobId state.snapshot + 1).toNat ≤ _
          rw [UInt64.toNat_add]
          exact Nat.mod_le _ _
        omega
      · have old := counted.dense id record found
        omega
    · have old := counted.revised
      have fresh : (submissionRecord state.snapshot spec).writes = 1 := rfl
      rw [submitted.jobs, total_insert_of_absent submitted.absent, fresh]
      omega
  | moved mutation none some run =>
    have revision := applyMutation_revision run
    obtain ⟨_, _, created, jobs, _, _, atCreated, atJobs, _, _, _, _, same⟩ := applyMutation_eq_ok.mp run
    rw [none] at atCreated
    cases atCreated
    obtain ⟨total, size, keys⟩ := updateJobs_writes atJobs
    have tables : next.jobs = jobs := by rw [← same]
    have grown : 0 < mutation.updateJobs.length := List.length_pos_iff.mpr some
    refine ⟨applyMutation_unspent run counted.unspent, ?_, ?_⟩
    · intro id record found
      rw [tables] at found ⊢
      have listed : state.jobs.contains id = true := by
        rw [← keys id]
        exact contains_eq_true.mpr ⟨record, found⟩
      obtain ⟨old, atOld⟩ := contains_eq_true.mp listed
      rw [size]
      exact counted.dense id old atOld
    · have old := counted.revised
      rw [tables, total]
      omega

theorem kept : Kept state.jobs next.jobs := by
  cases write with
  | created _ run | moved _ _ _ run => exact applyMutation_kept run

end

end DaemonWrite

namespace Journal

theorem trans {middle : StoreState} (early : Journal limits state middle) (late : Journal limits middle next) :
    Journal limits state next := Relation.ReflTransGen.trans early late

section

variable (journal : Journal limits state next)
include journal

theorem invariant (inv : StoreInvariant limits state) :
    StoreInvariant limits next := by
  induction journal with
  | refl => exact inv
  | tail _ write ih => exact write.invariant ih

theorem counted (inv : StoreInvariant limits state) (counted : Counted state) :
    Counted next := by
  induction journal with
  | refl => exact counted
  | tail early write ih => exact write.counted (Journal.invariant early inv) ih

theorem unspent (unspent : Unspent state.jobs) : Unspent next.jobs := by
  induction journal with
  | refl => exact unspent
  | tail _ write ih =>
    cases write with
    | created _ run | moved _ _ _ run => exact applyMutation_unspent run ih

theorem kept : Kept state.jobs next.jobs := by
  induction journal with
  | refl => exact .refl _
  | tail _ write ih => exact ih.trans write.kept

end

end Journal

end Yori
