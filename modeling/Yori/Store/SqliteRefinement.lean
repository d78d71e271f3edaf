import Yori.Store.Backend
import Yori.Store.History
import Yori.Store.SqliteTables

namespace Yori.SqliteStateStore
open Checked MachineWord MutationCore

variable {config : ValidationConfig} {database : Database} {state next : StoreState} {mutation : StateMutation}

/-- The records that a mutation writes. -/
def written (mutation : StateMutation) : List StoredJob := mutation.createJobs ++ mutation.updateJobs

section Steps

/-- What a write without failures of the backend does, in terms of the state that
the tables hold. -/
theorem apply_eq (mutation : StateMutation) (stores : Stores database state) (inv : StoreInvariant config state)
    (faithful : ∀ record ∈ state.jobs.values, RowFaithful record) (below : state.revision.toNat < 2 ^ 63) :
    (∃ error, applyMutation config state mutation = .error error ∧
      apply config {} database mutation = (⟨some error, state.revision⟩, database)) ∨
    (∃ next, applyMutation config state mutation = .ok next ∧
      ((next.revision.toNat > int64Max ∧
        apply config {} database mutation = (⟨some .invalidMutation, state.revision⟩, database)) ∨
      (next.revision.toNat ≤ int64Max ∧ ∃ after,
        (statements mutation next.revision).foldlM Database.execute database = some after ∧ Stores after next ∧
        apply config {} database mutation = (⟨none, next.revision⟩, after)))) := by
  have decoded := decodeState_stored stores inv faithful below
  unfold apply
  rw [decoded]
  simp only [Bool.false_eq_true, if_false]
  cases run : applyMutation config state mutation with
  | error error => exact .inl ⟨error, rfl, rfl⟩
  | ok next =>
    refine .inr ⟨next, rfl, ?_⟩
    by_cases past : next.revision.toNat > int64Max
    · exact .inl ⟨past, by simp [past]⟩
    · obtain ⟨after, executed, stored⟩ := statements_stored stores run
      refine .inr ⟨by omega, after, executed, stored, ?_⟩
      simp only [if_neg past, executeAll_plain, executed]

/-- A record of the next state was there before, or is one that was written. -/
theorem next_written (run : applyMutation config state mutation = .ok next) :
    ∀ record ∈ next.jobs.values, record ∈ state.jobs.values ∨ record ∈ written mutation := by
  obtain ⟨_, _, created, jobs, _, _, atCreated, atJobs, _, _, _, _, rfl⟩ := applyMutation_eq_ok.mp run
  let Known (jobs : JobTable) : Prop :=
    ∀ id record, jobs.find? id = some record → record ∈ state.jobs.values ∨ record ∈ written mutation
  have enters : ∀ (table : JobTable) (new : StoredJob), new ∈ written mutation → Known table →
      Known (table.insert new.id new) := by
    intro _ _ member known id record found
    rw [SortedMap.find?_insert] at found
    split at found
    · rw [← Option.some.inj found]
      exact .inr member
    · exact known id record found
  have initial : Known state.jobs := fun id record found => .inl (SortedMap.mem_values.mpr ⟨id, found⟩)
  have afterCreates : Known created := by
    refine foldlM_invariant Known ?_ atCreated initial
    intro before record _ member turn known
    rw [← (createJob_eq_ok.mp turn).2.2.2.2]
    exact enters before record (List.mem_append_left _ member) known
  have afterUpdates : Known jobs := by
    refine foldlM_invariant Known ?_ atJobs afterCreates
    intro before record _ member turn known
    obtain ⟨_, _, _, _, _, _, _, same⟩ := updateJob_eq_ok.mp turn
    rw [← same]
    exact enters before record (List.mem_append_right _ member) known
  intro record member
  obtain ⟨id, found⟩ := SortedMap.mem_values.mp member
  exact afterUpdates id record found

end Steps

section Faults

theorem decodeState_faults {faults : SqliteFaults} (database : Database) :
    FailsOr (decodeState faults database) (decodeState {} database) := by
  have revision : FailsOr (require (readRevision faults database) StateStoreErrorCode.backendUnavailable)
      (require (readRevision {} database) .backendUnavailable) := by
    unfold readRevision
    cases faults.readRevision with
    | true => exact .inl ⟨.backendUnavailable, rfl⟩
    | false => exact .refl _
  refine revision.bind fun _ => FailsOr.bind ((FailsOr.rejectIf ..).bind fun _ => .refl _) fun jobs => ?_
  exact FailsOr.bind ((FailsOr.rejectIf ..).bind fun _ => .refl _) fun _ => .refl _

theorem executeAll_faults (fails : Nat → Bool) (index : Nat) (database : Database) (list : List Statement) :
    executeAll fails index database list = none ∨
      executeAll fails index database list = list.foldlM Database.execute database := by
  induction list generalizing index database with
  | nil => exact .inr rfl
  | cons statement _ ih =>
    rw [executeAll, List.foldlM_cons]
    cases failed : fails index with
    | true => exact .inl rfl
    | false =>
      cases outcome : database.execute statement with
      | none => exact .inl rfl
      | some middle => exact ih (index + 1) middle

/-- Whatever fails during a write, it is either the write that would have been
made anyway or one that is refused. -/
theorem apply_faults (faults : SqliteFaults) :
    apply config faults database mutation = apply config {} database mutation ∨
      (apply config faults database mutation).1.code ≠ none := by
  unfold apply
  cases begun : faults.beginImmediate with
  | true => exact .inr nofun
  | false =>
    simp only [Bool.false_eq_true, if_false]
    rcases decodeState_faults database with ⟨error, unread⟩ | same
    · rw [unread]
      exact .inr nofun
    · rw [same]
      cases decodeState {} database with
      | error => exact .inr nofun
      | ok state =>
        simp only
        cases applyMutation config state mutation with
        | error => exact .inl rfl
        | ok next =>
          simp only
          split
          · exact .inl rfl
          · rcases executeAll_faults faults.statement 0 database (statements mutation next.revision) with
              stopped | whole
            · rw [stopped]
              exact .inr nofun
            · rw [whole, executeAll_plain]
              cases (statements mutation next.revision).foldlM Database.execute database with
              | none => exact .inl rfl
              | some =>
                cases committed : faults.commit with
                | true => exact .inr (by simp)
                | false => exact .inl (by simp)

theorem apply_refused {faults : SqliteFaults} (refused : (apply config faults database mutation).1.code ≠ none) :
    (apply config faults database mutation).2 = database := by
  unfold apply at refused ⊢
  repeat' split
  all_goals simp_all

end Faults

/-- Over a sound state whose rows are faithful, and as long as the revision can
be counted on, the write answers what the write in memory answers. If it is
accepted, none of its statements fails, and the tables hold the next state of the
memory; if not, they are left as they were. -/
theorem sqlite_refines_memory (stores : Stores database state) (inv : StoreInvariant config state)
    (below : state.revision.toNat < 2 ^ 63 - 1) (faithful : ∀ record ∈ state.jobs.values, RowFaithful record)
    (faithfulNew : ∀ record ∈ written mutation, RecordValid record → RowFaithful record) :
    let sqlite := apply config {} database mutation
    let memory := InMemoryStateStore.apply config { state } mutation
    sqlite.1 = memory.1 ∧
      (sqlite.1.code = none →
        (statements mutation sqlite.1.revision).foldlM Database.execute database = some sqlite.2 ∧
          Stores sqlite.2 memory.2.state ∧ decodeState {} sqlite.2 = .ok memory.2.state) ∧
      (sqlite.1.code ≠ none → sqlite.2 = database ∧ memory.2.state = state) := by
  intro sqlite memory
  rcases apply_eq mutation stores inv faithful (by omega) with ⟨error, refused, same⟩ | ⟨next, accepted, room⟩
  · have answer : memory = (⟨some error, state.revision⟩, { state }) := by
      simp only [memory, InMemoryStateStore.apply, refused]
    refine ⟨by rw [answer]; exact congrArg Prod.fst same, ?_, ?_⟩
    · intro ok
      change (apply config {} database mutation).1.code = none at ok
      simp [same] at ok
    · intro _
      exact ⟨congrArg Prod.snd same, by rw [answer]⟩
  · have answer : memory = (⟨none, next.revision⟩, { state := next }) := by
      simp only [memory, InMemoryStateStore.apply, accepted]
    have revision : next.revision.toNat = state.revision.toNat + 1 := by
      obtain ⟨_, ⟨_, _, last⟩, _, _, _, _, _, _, _, _, _, _, rfl⟩ := applyMutation_eq_ok.mp accepted
      exact toNat_succ last
    rcases room with ⟨past, _⟩ | ⟨_, after, executed, stored, same⟩
    · rw [int64Max] at past
      omega
    · have here : sqlite = (⟨none, next.revision⟩, after) := same
      have nextFaithful : ∀ record ∈ next.jobs.values, RowFaithful record := by
        intro record member
        rcases next_written accepted record member with old | new
        · exact faithful record old
        · obtain ⟨id, found⟩ := SortedMap.mem_values.mp member
          exact faithfulNew record new ((inv.step accepted).jobsValid id record found).2
      have small : next.revision.toNat < 2 ^ 63 := by omega
      refine ⟨by rw [here, answer], ?_, ?_⟩
      · intro _
        rw [here, answer]
        exact ⟨executed, stored, decodeState_stored stored (inv.step accepted) nextFaithful small⟩
      · intro failed
        simp [here] at failed

section Example

/-- A job that may only run on some devices. -/
def placedJob (devices : List GpuUuid) : StoredJob where
  id := ⟨1⟩
  spec := { JobSpec.minimal 1 ⟨.required, devices⟩ with env := SortedMap.empty.insert (.ascii "SEED") (.ascii "7") }

def placedState : StoreState :=
  runMutations {} .initial [{ expectedRevision := 0, createJobs := [placedJob [⟨.ascii "GPU-0"⟩, ⟨.ascii "GPU-1"⟩]] }]

/-- The job is started on the second of its devices. -/
def placedStart : StateMutation where
  expectedRevision := 1
  updateJobs := [{ placedJob [⟨.ascii "GPU-0"⟩, ⟨.ascii "GPU-1"⟩] with state := .starting, revision := 1 }]
  acquireLeases := [⟨⟨.ascii "GPU-1"⟩, ⟨1⟩⟩]

theorem sqlite_refines_memory_started :
    let sqlite := apply {} {} (.ofState placedState) placedStart
    sqlite.1 = (InMemoryStateStore.apply {} { state := placedState } placedStart).1 ∧ sqlite.1.code = none ∧
      decodeState {} sqlite.2 = .ok (InMemoryStateStore.apply {} { state := placedState } placedStart).2.state := by
  intro sqlite
  have inv : StoreInvariant {} placedState := runMutations_invariant _ _
  have old : ∀ record ∈ placedState.jobs.values, RowFaithful record := by decide
  have new : ∀ record ∈ written placedStart, RowFaithful record := by decide
  obtain ⟨same, accepted, _⟩ := sqlite_refines_memory (Stores.ofState inv) inv (by decide) old
    fun record member _ => new record member
  have ok : (InMemoryStateStore.apply {} { state := placedState } placedStart).1.code = none := by decide
  have done : sqlite.1.code = none := by rw [same, ok]
  exact ⟨same, done, (accepted done).2.2⟩

end Example

end Yori.SqliteStateStore
