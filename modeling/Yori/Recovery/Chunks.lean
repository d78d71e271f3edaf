import Yori.Recovery.Recovered
import Yori.Recovery.Settled
import Yori.Store.Recording

namespace Yori.JobRecovery
open MachineWord MutationCore StateMutation List StateStoreWriteResult

variable {σ : Type} {store : StateStore σ} {limits : ValidationConfig} {content : σ → StoreState} {backend : σ}
  {entries : List RecoveryMutationEntry} {buffered : List Rewrite} {revision : UInt64}

theorem addEntry_batch (entry : RecoveryMutationEntry) (buffered : List Rewrite) (revision : UInt64) :
    addEntry entry (batch buffered revision) = batch (buffered ++ [entry.rewrite]) revision := by
  simp [addEntry, batch, RecoveryMutationEntry.rewrite]

theorem addEntry_empty (entry : RecoveryMutationEntry) : addEntry entry {} = batch [entry.rewrite] 0 :=
  addEntry_batch entry [] 0

theorem batch_entryCount_eq_zero : (batch buffered revision).entryCount = 0 ↔ buffered = [] := by
  rw [entryCount_eq]
  cases buffered with
  | nil => simp [batch]
  | cons =>
    simp only [batch, map_cons, length_cons, reduceCtorEq, iff_false]
    omega

/-- The number of entries a planned write takes up in its chunk. -/
def entriesNeeded (entry : RecoveryMutationEntry) : Nat := if entry.releaseGpu.isSome then 2 else 1

theorem writeChunks_cons (entry : RecoveryMutationEntry) (rest : List RecoveryMutationEntry) (chunk : StateMutation) :
    writeChunks store (entry :: rest) chunk revision backend =
      if chunk.entryCount + entriesNeeded entry > maxEntries then
        match flushChunk store chunk revision backend with
        | (.error written, after) => (.error written, after)
        | (.ok next, after) => writeChunks store rest (addEntry entry {}) next after
      else writeChunks store rest (addEntry entry chunk) revision backend := rfl

/-- A greedy chunk never outgrows a mutation. -/
theorem addEntry_fits {entry : RecoveryMutationEntry} {chunk : StateMutation}
    (room : chunk.entryCount + entriesNeeded entry ≤ maxEntries) :
    (addEntry entry chunk).entryCount ≤ maxEntries := by
  have limit : maxEntries = 64 := rfl
  have needed : entriesNeeded entry = 1 + entry.releaseGpu.toList.length := by
    unfold entriesNeeded
    cases entry.releaseGpu <;> rfl
  rw [needed, entryCount_eq] at room
  rw [entryCount_eq]
  simp only [addEntry, length_append, length_singleton]
  omega

theorem addEntry_empty_fits (entry : RecoveryMutationEntry) :
    (addEntry entry {}).entryCount ≤ maxEntries := by
  refine addEntry_fits ?_
  unfold entriesNeeded
  split <;> decide

/-- The two states differ at most in their revisions. -/
def SameTables (first second : StoreState) : Prop := first.jobs = second.jobs ∧ first.leases = second.leases

theorem SameTables.appliedAll {first second : StoreState} (same : SameTables first second) (rewrites : List Rewrite) :
    SameTables (appliedAll rewrites first) (appliedAll rewrites second) := by
  induction rewrites generalizing first second with
  | nil => exact same
  | cons _ _ ih =>
    obtain ⟨jobs, leases⟩ := same
    refine ih ⟨?_, ?_⟩
    · simp only [Rewrite.applied, jobs]
    · simp only [Rewrite.applied, leases]

/-- The revision has grown, by at most this much. -/
def RevisedBy (bound : Nat) (before after : StoreState) : Prop :=
  before.revision.toNat ≤ after.revision.toNat ∧ after.revision.toNat ≤ before.revision.toNat + bound

section Faithful

/-- A chunk is carried out as a whole or not at all. -/
theorem flushChunk_applied (faithful : Faithful limits store content) :
    (∃ next, (flushChunk store (batch buffered 0) revision backend).1 = .ok next ∧
      SameTables (content (flushChunk store (batch buffered 0) revision backend).2)
        (appliedAll buffered (content backend)) ∧
      RevisedBy buffered.length (content backend)
        (content (flushChunk store (batch buffered 0) revision backend).2)) ∨
    (∃ written, (flushChunk store (batch buffered 0) revision backend).1 = .error written ∧
      content (flushChunk store (batch buffered 0) revision backend).2 = content backend) := by
  unfold flushChunk
  split
  · rename_i none
    rw [batch_entryCount_eq_zero.mp none]
    exact .inl ⟨revision, rfl, ⟨rfl, rfl⟩, Nat.le_refl _, Nat.le_add_right ..⟩
  · have chunk : { batch buffered 0 with expectedRevision := revision } = batch buffered revision := rfl
    simp only [chunk]
    cases code : (store.apply backend (batch buffered revision)).1.code with
    | some error =>
      have kept := faithful.apply_refused backend _ error code
      simp only [ok, code]
      exact .inr ⟨_, rfl, kept⟩
    | none =>
      have run := faithful.apply_accepted backend _ code
      have next := batch_applied run
      have below := (applyMutation_eq_ok.mp run).2.1.2.2
      have present : 0 < buffered.length := by
        rename_i some
        exact length_pos_iff.mpr fun none => some (batch_entryCount_eq_zero.mpr none)
      have tables : SameTables (content (store.apply backend (batch buffered revision)).2)
          (appliedAll buffered (content backend)) := by
        rw [next]
        exact ⟨rfl, rfl⟩
      have revised : RevisedBy buffered.length (content backend)
          (content (store.apply backend (batch buffered revision)).2) := by
        have value := toNat_succ below
        rw [RevisedBy, next]
        simp only
        omega
      simp only [ok, code]
      exact .inl ⟨_, rfl, tables, revised⟩

/-- However the writing ends, some first part of the planned writes has been
carried out, and all of them if it succeeds. -/
theorem writeChunks_applied (faithful : Faithful limits store content) :
    ∃ done rest, buffered ++ entries.map (·.rewrite) = done ++ rest ∧
      SameTables (content (writeChunks store entries (batch buffered 0) revision backend).2)
        (appliedAll done (content backend)) ∧
      RevisedBy (buffered.length + entries.length) (content backend)
        (content (writeChunks store entries (batch buffered 0) revision backend).2) ∧
      ∀ next, (writeChunks store entries (batch buffered 0) revision backend).1 = .ok next → rest = [] := by
  induction entries generalizing buffered revision backend with
  | nil =>
    unfold writeChunks
    rcases flushChunk_applied faithful with ⟨next, ok, same, revised⟩ | ⟨_, failed, same⟩
    · exact ⟨buffered, [], rfl, same, revised, fun _ _ => rfl⟩
    · refine ⟨[], buffered, by simp, ⟨by rw [same]; rfl, by rw [same]; rfl⟩, ?_, ?_⟩
      · rw [same]
        exact ⟨Nat.le_refl _, Nat.le_add_right ..⟩
      · intro _ ok
        rw [failed] at ok
        simp at ok
  | cons entry rest ih =>
    rw [writeChunks_cons]
    split
    · rcases flushChunk_applied faithful with ⟨next, ok, same, early⟩ | ⟨written, failed, same⟩
      · split
        · rename_i flush
          rw [flush] at ok
          simp at ok
        · rename_i next after flush
          rw [flush] at same early
          rw [addEntry_empty]
          obtain ⟨done, left, whole, tables, late, all⟩ : ∃ done left,
              [entry.rewrite] ++ rest.map (·.rewrite) = done ++ left ∧
              SameTables (content (writeChunks store rest (batch [entry.rewrite] 0) next after).2)
                (appliedAll done (content after)) ∧
              RevisedBy ([entry.rewrite].length + rest.length) (content after)
                (content (writeChunks store rest (batch [entry.rewrite] 0) next after).2) ∧
              ∀ last, (writeChunks store rest (batch [entry.rewrite] 0) next after).1 = .ok last → left = [] := ih
          refine ⟨buffered ++ done, left, ?_, ?_, ?_, all⟩
          · rw [append_assoc, ← whole]
            rfl
          · rw [appliedAll_append]
            have together := same.appliedAll done
            exact ⟨tables.1.trans together.1, tables.2.trans together.2⟩
          · simp only [RevisedBy, length_cons, length_nil] at early late ⊢
            omega
      · split
        · rename_i flush
          rw [flush] at same
          refine ⟨[], _, rfl, ⟨congrArg _ same, congrArg _ same⟩, ?_, ?_⟩
          · rw [same]
            exact ⟨Nat.le_refl _, Nat.le_add_right ..⟩
          · intro _ ok
            simp at ok
        · rename_i flush
          rw [flush] at failed
          simp at failed
    · rw [addEntry_batch]
      obtain ⟨done, left, whole, tables, revised, all⟩ := ih
      refine ⟨done, left, ?_, tables, ?_, all⟩
      · rw [← whole, append_assoc]
        rfl
      · simp only [RevisedBy, length_append, length_cons, length_nil] at revised ⊢
        omega

end Faithful

section Reliable

section

variable (reliable : Reliable limits store content) (inv : StoreInvariant limits (content backend))
include reliable inv

/-- A chunk of suiting writes is accepted, and its revision is what the next one
has to expect. -/
theorem flushChunk_accepted
    (suit : SuitAll buffered (content backend)) (expected : revision = (content backend).revision)
    (few : (batch buffered revision).entryCount ≤ maxEntries)
    (room : revision.toNat + buffered.length < 2 ^ 64) :
    ∃ next after, flushChunk store (batch buffered 0) revision backend = (.ok next, after) ∧
      content after = { appliedAll buffered (content backend) with revision := next } ∧
      next.toNat ≤ revision.toNat + buffered.length := by
  unfold flushChunk
  split
  · rename_i none
    rw [batch_entryCount_eq_zero.mp none]
    exact ⟨revision, backend, rfl, by rw [expected]; rfl, Nat.le_add_right ..⟩
  · rename_i present
    have nonempty : buffered ≠ [] := fun empty => present (batch_entryCount_eq_zero.mpr empty)
    have length : 0 < buffered.length := length_pos_iff.mpr nonempty
    have below : revision ≠ max64 := ne_max64_iff.mpr (by omega)
    subst expected
    have accepted := suit.accepted inv nonempty few below
    have code := reliable.apply_ok backend _ _ accepted
    have next := (reliable.apply_accepted backend _ code).symm.trans accepted
    have same := Except.ok.inj next
    have chunk : { batch buffered 0 with expectedRevision := (content backend).revision } =
        batch buffered (content backend).revision := rfl
    have answer : (store.apply backend (batch buffered (content backend).revision)).1.revision =
        (content backend).revision + 1 := by rw [reliable.apply_revision backend _ code, same]
    simp only [chunk, ok, code, answer]
    refine ⟨_, _, rfl, same, ?_⟩
    rw [toNat_succ below]
    omega

/-- The planned writes of any number are taken, chunk by chunk: the invariant of
the loop is that all that is left suits the tables reached so far. -/
theorem writeChunks_accepted
    (suit : SuitAll (buffered ++ entries.map (·.rewrite)) (content backend))
    (expected : revision = (content backend).revision)
    (few : (batch buffered revision).entryCount ≤ maxEntries)
    (room : revision.toNat + buffered.length + entries.length < 2 ^ 64) :
    ∃ next, (writeChunks store entries (batch buffered 0) revision backend).1 = .ok next := by
  induction entries generalizing buffered revision backend with
  | nil =>
    rw [map_nil, append_nil] at suit
    obtain ⟨next, _, flush, _⟩ := flushChunk_accepted reliable inv suit expected few (by simpa using room)
    exact ⟨next, by rw [writeChunks, flush]⟩
  | cons entry _ ih =>
    rw [length_cons] at room
    rw [writeChunks_cons]
    split
    · obtain ⟨early, late⟩ := SuitAll.append.mp suit
      obtain ⟨next, after, flush, tables, grown⟩ := flushChunk_accepted reliable inv early expected few (by omega)
      have fits := addEntry_empty_fits entry
      rw [addEntry_empty] at fits
      rw [flush, addEntry_empty]
      refine ih ?_ ?_ ?_ fits ?_
      · rw [tables]
        exact (early.invariant inv).of_revision next
      · rw [tables]
        exact late.of_revision next
      · rw [tables]
      · have one : [entry.rewrite].length = 1 := rfl
        omega
    · rename_i fits
      have small := addEntry_fits (not_lt.mp fits)
      rw [addEntry_batch] at small ⊢
      refine ih inv ?_ expected small ?_
      · rw [append_assoc]
        exact suit
      · simp only [length_append, length_singleton]
        omega

end

end Reliable

section Recording

/-- The log of the writes: none is too large, and none was refused if the writing
succeeded. -/
structure Logged (writes : List (StateMutation × StateStoreWriteResult))
    (result : Except StateStoreWriteResult UInt64) : Prop where
  small : ∀ write ∈ writes, write.1.entryCount ≤ maxEntries
  accepted : ∀ next, result = .ok next → ∀ write ∈ writes, write.2.code = none

variable {log : List (StateMutation × StateStoreWriteResult)} {chunk : StateMutation}

theorem flushChunk_recording (few : chunk.entryCount ≤ maxEntries) :
    ∃ writes, flushChunk (recording store) chunk revision (backend, log) =
        ((flushChunk store chunk revision backend).1, (flushChunk store chunk revision backend).2, log ++ writes) ∧
      Logged writes (flushChunk store chunk revision backend).1 := by
  have same : { chunk with expectedRevision := revision }.entryCount ≤ maxEntries := few
  unfold flushChunk
  split
  · exact ⟨[], by simp, by simp, by simp⟩
  · simp only [recording]
    cases code : (store.apply backend { chunk with expectedRevision := revision }).1.code with
    | some =>
      simp only [ok, code]
      exact ⟨_, rfl, by simpa using same, by simp⟩
    | none =>
      simp only [ok, code]
      refine ⟨_, rfl, by simpa using same, ?_⟩
      intro _ _ _ member
      rw [mem_singleton.mp member]
      exact code

/-- The log only watches: the writes are those of the plain store. -/
theorem writeChunks_recording (few : chunk.entryCount ≤ maxEntries) :
    ∃ writes, writeChunks (recording store) entries chunk revision (backend, log) =
        ((writeChunks store entries chunk revision backend).1, (writeChunks store entries chunk revision backend).2,
          log ++ writes) ∧
      Logged writes (writeChunks store entries chunk revision backend).1 := by
  induction entries generalizing chunk revision backend log with
  | nil => exact flushChunk_recording few
  | cons entry rest ih =>
    rw [writeChunks_cons, writeChunks_cons]
    split
    · obtain ⟨early, flush, earlyLog⟩ := flushChunk_recording few
      rw [flush]
      rcases flushed : flushChunk store chunk revision backend with ⟨result, after⟩
      rw [flushed] at earlyLog
      cases result with
      | error => exact ⟨early, rfl, earlyLog.small, nofun⟩
      | ok next =>
        obtain ⟨late, run, lateLog⟩ : ∃ writes, writeChunks (recording store) rest (addEntry entry {}) next
            (after, log ++ early) = ((writeChunks store rest (addEntry entry {}) next after).1,
              (writeChunks store rest (addEntry entry {}) next after).2, log ++ early ++ writes) ∧
            Logged writes (writeChunks store rest (addEntry entry {}) next after).1 := ih (addEntry_empty_fits entry)
        rw [append_assoc] at run
        refine ⟨early ++ late, run, ?_, ?_⟩
        · exact forall_mem_append.mpr ⟨earlyLog.small, lateLog.small⟩
        · intro last ok
          exact forall_mem_append.mpr ⟨earlyLog.accepted next rfl, lateLog.accepted last ok⟩
    · rename_i fits
      exact ih (addEntry_fits (not_lt.mp fits))

/-- The same for the whole of a recovery. One with nothing to write leaves no
trace in the log. -/
theorem recover_recording {verifier : IdentityVerifier} {now : TimePoint} {queue : GlobalJobQueue} :
    ∃ writes, recover (recording store) verifier now queue (backend, []) =
        ((recover store verifier now queue backend).1, (recover store verifier now queue backend).2.1,
          (recover store verifier now queue backend).2.2, writes) ∧
      (∀ write ∈ writes, write.1.entryCount ≤ maxEntries) ∧
      ((recover store verifier now queue backend).1.code = none → ∀ write ∈ writes, write.2.code = none) ∧
      ((∀ snapshot, (store.load backend).1 = .ok snapshot → (plan verifier now snapshot).mutations = []) →
        writes = []) := by
  rcases load : store.load backend with ⟨loaded, after⟩
  have watched : (recording store).load (backend, []) = (loaded, after, []) := by simp [recording, load]
  unfold recover
  rw [watched, load]
  cases loaded with
  | error => exact ⟨[], rfl, by simp, by simp, fun _ => rfl⟩
  | ok snapshot =>
    obtain ⟨writes, run, logged⟩ : ∃ writes, writeChunks (recording store) (plan verifier now snapshot).mutations {}
        snapshot.revision (after, []) =
          ((writeChunks store (plan verifier now snapshot).mutations {} snapshot.revision after).1,
            (writeChunks store (plan verifier now snapshot).mutations {} snapshot.revision after).2, [] ++ writes) ∧
        Logged writes (writeChunks store (plan verifier now snapshot).mutations {} snapshot.revision after).1 :=
      writeChunks_recording (by decide)
    have idle : (plan verifier now snapshot).mutations = [] → writes = [] := by
      intro none
      rw [none] at run
      have log := congrArg (fun result => result.2.2) run
      exact log.symm
    rw [nil_append] at run
    simp only [run]
    refine ⟨writes, ?_, logged.small, ?_, fun none => idle (none snapshot rfl)⟩
    · rcases writeChunks store (plan verifier now snapshot).mutations {} snapshot.revision after with ⟨result, _⟩
      cases result with
      | error => rfl
      | ok => cases (queue.restore snapshot).1.code <;> rfl
    · intro done
      rcases written : writeChunks store (plan verifier now snapshot).mutations {} snapshot.revision after with
        ⟨result, _⟩
      rw [written] at logged done
      cases result with
      | error => simp at done
      | ok revision => exact logged.accepted revision rfl

end Recording

end Yori.JobRecovery
