import Yori.Recovery.JobRecovery
import Yori.Runtime.Rewrite

namespace Yori.JobRecovery
open MutationCore

variable {σ : Type} {store : StateStore σ} {limits : ValidationConfig} {content : σ → StoreState}
  {initial : StoreState} {backend : σ} {entries : List RecoveryMutationEntry} {verifier : IdentityVerifier}
  {queue : GlobalJobQueue} {chunk : StateMutation} {now : TimePoint}

/-- A chunk creates no job and updates only jobs that were not queued when the
plan was made. -/
structure ChunkFits (initial : StoreState) (chunk : StateMutation) : Prop where
  creates : chunk.createJobs = []
  busy : ∀ record ∈ chunk.updateJobs, ∀ existing, initial.jobs.find? record.id = some existing →
    existing.state ≠ .queued

def EntryFits (initial : StoreState) (entry : RecoveryMutationEntry) : Prop :=
  ∀ existing, initial.jobs.find? entry.updateJob.id = some existing → existing.state ≠ .queued

theorem ChunkFits.empty (initial : StoreState) : ChunkFits initial {} := ⟨rfl, by simp⟩

theorem ChunkFits.add {entry : RecoveryMutationEntry} (fits : ChunkFits initial chunk) (new : EntryFits initial entry) :
    ChunkFits initial (addEntry entry chunk) := by
  refine ⟨fits.creates, ?_⟩
  intro record member
  rcases List.mem_append.mp member with old | added
  · exact fits.busy record old
  · exact List.mem_singleton.mp added ▸ new

/-- What the writes of a recovery keep. -/
structure Progress (limits : ValidationConfig) (initial state : StoreState) : Prop where
  stored : StoreInvariant limits state
  queued : QueuedSame initial.jobs state.jobs

section Rules

variable (faithful : Faithful limits store content) {kept : StoreState → Prop} {chunk : StateMutation}
  {revision : UInt64}
include faithful

/-- A chunk is written as one mutation, not at all, or without effect. -/
theorem flushChunk_rule (before : kept (content backend))
    (step : chunk.entryCount ≠ 0 → ∀ next,
      applyMutation limits (content backend) { chunk with expectedRevision := revision } = .ok next → kept next) :
    kept (content (flushChunk store chunk revision backend).2) := by
  unfold flushChunk
  split
  · exact before
  · rename_i filled
    cases code : (store.apply backend { chunk with expectedRevision := revision }).1.code with
    | some error =>
      have same := faithful.apply_refused backend _ error code
      simp only [StateStoreWriteResult.ok, code]
      exact same ▸ before
    | none =>
      have run := faithful.apply_accepted backend _ code
      simp only [StateStoreWriteResult.ok, code]
      exact step filled _ run

/-- What every written chunk keeps is kept by the whole sequence of writes,
wherever it stops. -/
theorem writeChunks_rule {fits : StateMutation → Prop} (empty : fits {})
    (added : ∀ entry ∈ entries, ∀ chunk, fits chunk → fits (addEntry entry chunk))
    (step : ∀ chunk revision state next, fits chunk → chunk.entryCount ≠ 0 →
      applyMutation limits state { chunk with expectedRevision := revision } = .ok next → kept state → kept next)
    (buffered : fits chunk) (before : kept (content backend)) :
    kept (content (writeChunks store entries chunk revision backend).2) := by
  have written : ∀ {chunk : StateMutation} {revision : UInt64} {backend : σ}, fits chunk → kept (content backend) →
      kept (content (flushChunk store chunk revision backend).2) := by
    intro _ _ _ buffered before
    exact flushChunk_rule faithful before fun filled next run => step _ _ _ _ buffered filled run before
  induction entries generalizing chunk revision backend with
  | nil => exact written buffered before
  | cons entry rest ih =>
    have here := added entry (List.mem_cons_self ..)
    have later : ∀ entry ∈ rest, ∀ chunk, fits chunk → fits (addEntry entry chunk) := fun entry member =>
      added entry (List.mem_cons_of_mem _ member)
    have flushed : kept (content (flushChunk store chunk revision backend).2) := written buffered before
    unfold writeChunks
    generalize (if entry.releaseGpu.isSome then 2 else 1) = entriesNeeded
    simp only
    split
    · split
      · rename_i flush
        rw [flush] at flushed
        exact flushed
      · rename_i flush
        rw [flush] at flushed
        exact ih later (here _ empty) flushed
    · exact ih later (here _ buffered) before

end Rules

theorem writeChunks_progress (faithful : Faithful limits store content)
    (planned : ∀ entry ∈ entries, EntryFits initial entry) {revision : UInt64} (fits : ChunkFits initial chunk)
    (progress : Progress limits initial (content backend)) :
    Progress limits initial (content (writeChunks store entries chunk revision backend).2) := by
  refine writeChunks_rule faithful (.empty initial) (fun entry member chunk fits => fits.add (planned entry member)) ?_
    fits progress
  intro _ _ _ _ fits _ run progress
  refine ⟨progress.stored.step run, progress.queued.trans (applyMutation_queuedSame run fits.creates ?_)⟩
  intro record member existing found queued
  exact fits.busy record member existing ((progress.queued record.id existing queued).mp found) queued

/-- Only active jobs are written. -/
theorem plan_fits (inv : StoreInvariant limits initial) :
    ∀ entry ∈ (plan verifier now initial.snapshot).mutations, EntryFits initial entry := by
  intro entry member _ found
  simp only [plan, List.mem_filterMap, List.mem_map] at member
  obtain ⟨_, ⟨record, atRecord, rfl⟩, atEntry⟩ := member
  have stored := inv.mem_snapshot.mp atRecord
  have written : isActive record.state = true ∧ entry.updateJob.id = record.id := by
    unfold planJob at atEntry
    split at atEntry
    · simp at atEntry
    · rename_i active
      refine ⟨by simpa using active, ?_⟩
      simp only at atEntry
      split at atEntry
      · cases atEntry
        rfl
      · cases atEntry
        rfl
      · cases atEntry
        rfl
      · cases atEntry
        rfl
      · simp at atEntry
  obtain ⟨active, same⟩ := written
  rw [same] at found
  cases stored.symm.trans found
  intro queued
  simp [queued, isActive] at active

/-- The ways a recovery ends, with the writes it made until then. -/
inductive RecoverRun (store : StateStore σ) (content : σ → StoreState) (verifier : IdentityVerifier) (now : TimePoint)
    (queue : GlobalJobQueue) (backend : σ) : RecoveryResult × GlobalJobQueue × σ → Prop
  | unread (code : StateStoreErrorCode) (loaded : σ) (reads : content loaded = content backend) :
      RecoverRun store content verifier now queue backend
        ({ code := some .storeLoadFailed, storeError := some code }, queue, loaded)
  | interrupted (loaded after : σ) (refusal : StateStoreWriteResult) (reads : content loaded = content backend)
      (written : writeChunks store (plan verifier now (content backend).snapshot).mutations {}
        (content backend).revision loaded = (.error refusal, after)) :
      RecoverRun store content verifier now queue backend
        ({ code := some .storeWriteFailed, outcomes := (plan verifier now (content backend).snapshot).outcomes,
           storeError := refusal.code, storeRevision := refusal.revision }, queue, after)
  | unqueued (loaded after : σ) (revision : UInt64) (code : QueueErrorCode) (reads : content loaded = content backend)
      (written : writeChunks store (plan verifier now (content backend).snapshot).mutations {}
        (content backend).revision loaded = (.ok revision, after))
      (refused : (queue.restore (content backend).snapshot).1.code = some code) :
      RecoverRun store content verifier now queue backend
        ({ code := some .queueRestoreFailed, outcomes := (plan verifier now (content backend).snapshot).outcomes,
           queueError := some code }, (queue.restore (content backend).snapshot).2, after)
  | finished (loaded after : σ) (revision : UInt64) (reads : content loaded = content backend)
      (written : writeChunks store (plan verifier now (content backend).snapshot).mutations {}
        (content backend).revision loaded = (.ok revision, after))
      (restored : (queue.restore (content backend).snapshot).1.code = none) :
      RecoverRun store content verifier now queue backend
        ({ outcomes := (plan verifier now (content backend).snapshot).outcomes, storeRevision := revision },
          (queue.restore (content backend).snapshot).2, after)

theorem recover_run (faithful : Faithful limits store content) (verifier : IdentityVerifier) (now : TimePoint)
    (queue : GlobalJobQueue) (backend : σ) :
    RecoverRun store content verifier now queue backend (recover store verifier now queue backend) := by
  unfold recover
  rcases faithful.load_cases backend with ⟨code, loaded, load, reads⟩ | ⟨loaded, load, reads⟩
  · rw [load]
    exact .unread code loaded reads
  · rw [load]
    simp only
    split
    · rename_i refusal after written
      exact .interrupted loaded after refusal reads written
    · rename_i revision after written
      split
      · rename_i code refused
        exact .unqueued loaded after revision code reads written refused
      · rename_i restored
        exact .finished loaded after revision reads written restored

/-- The writes of a recovery all happen in one sequence over the loaded store. -/
theorem RecoverRun.written {result : RecoveryResult × GlobalJobQueue × σ}
    (run : RecoverRun store content verifier now queue backend result) :
    content result.2.2 = content backend ∨ ∃ loaded, content loaded = content backend ∧
      result.2.2 = (writeChunks store (plan verifier now (content backend).snapshot).mutations {}
        (content backend).revision loaded).2 := by
  cases run with
  | unread _ _ reads => exact .inl reads
  | interrupted loaded _ _ reads written | unqueued loaded _ _ _ reads written | finished loaded _ _ reads written =>
    exact .inr ⟨loaded, reads, by rw [written]⟩

section

variable (faithful : Faithful limits store content) (inv : StoreInvariant limits (content backend))
include faithful inv

theorem recover_progress
    (verifier : IdentityVerifier) (now : TimePoint) (queue : GlobalJobQueue) :
    Progress limits (content backend) (content (recover store verifier now queue backend).2.2) := by
  rcases (recover_run faithful verifier now queue backend).written with same | ⟨_, reads, same⟩
  · rw [same]
    exact ⟨inv, .refl _⟩
  · rw [same]
    exact writeChunks_progress faithful (plan_fits inv) (.empty _) (by rw [reads]; exact ⟨inv, .refl _⟩)

/-- A successful recovery leaves a queue that agrees with the store, although
it is rebuilt from the snapshot read before the writes. -/
theorem recover_agrees
    (done : (recover store verifier now queue backend).1.code = none) :
    StoreInvariant limits (content (recover store verifier now queue backend).2.2) ∧
      QueueAgrees (recover store verifier now queue backend).2.1
        (content (recover store verifier now queue backend).2.2) := by
  have progress := recover_progress faithful inv verifier now queue
  have run := recover_run faithful verifier now queue backend
  refine ⟨progress.stored, ?_⟩
  generalize recover store verifier now queue backend = result at run done progress ⊢
  cases run with
  | unread | interrupted | unqueued => simp at done
  | finished _ _ _ _ _ restored =>
    have agreed : QueueAgrees (queue.restore (content backend).snapshot).2 (content backend) :=
      (GlobalJobQueue.restore_applied restored).1
    exact agreed.of_queuedSame inv progress.stored progress.queued

end

end Yori.JobRecovery
