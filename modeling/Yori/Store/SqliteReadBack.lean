import Yori.Store.SqliteRefinement

namespace Yori.SqliteStateStore
open Checked MachineWord MutationCore SortedMap

section ReadBack

variable {config : ValidationConfig} {database after : Database} {state next : StoreState} {mutation : StateMutation}
  {jobs : JobTable}

/-- Each row that was read is in the table under its own key. -/
theorem emplaceJob_members {rows : List JobRow} {start : JobTable} (run : rows.foldlM emplaceJob start = .ok jobs) :
    ∀ row ∈ rows, ∃ record, decodeJobRow row = .ok record ∧ jobs.find? record.id = some record := by
  induction rows generalizing start with
  | nil => simp
  | cons _ _ ih =>
    rw [List.foldlM_cons] at run
    obtain ⟨middle, turn, run⟩ := bind_eq_ok.mp run
    obtain ⟨record, decoded, entered⟩ := bind_eq_ok.mp turn
    obtain ⟨free, same⟩ := guard_bind_eq_ok.mp entered
    have absent : start.find? record.id = none := contains_eq_false.mp (eq_false_of_ne_true free)
    have placed : middle.find? record.id = some record := by
      rw [← Except.ok.inj same, find?_emplace, if_pos rfl, absent]
      rfl
    -- the rows that follow leave the entry alone
    have kept : jobs.find? record.id = some record := by
      refine foldlM_invariant (fun table => table.find? record.id = some record) ?_ run placed
      intro _ _ _ _ turn held
      obtain ⟨_, _, entered⟩ := bind_eq_ok.mp turn
      obtain ⟨_, same⟩ := guard_bind_eq_ok.mp entered
      rw [← Except.ok.inj same, find?_emplace]
      split
      · rename_i here
        rw [← here, held]
        rfl
      · exact held
    intro other member
    rcases List.mem_cons.mp member with here | later
    · exact ⟨record, here ▸ decoded, kept⟩
    · exact ih run other later

/-- A state can be loaded from its tables exactly when all its records are
storable. -/
theorem load_iff_storable (stores : Stores database state) (inv : StoreInvariant config state)
    (below : state.revision.toNat < 2 ^ 63) :
    load {} database = .ok state.snapshot ↔ ∀ record ∈ state.jobs.values, Storable record := by
  have valid : ∀ record ∈ state.jobs.values, RecordValid record := by
    intro record member
    obtain ⟨id, found⟩ := mem_values.mp member
    exact (inv.jobsValid id record found).2
  constructor
  · intro loaded record member
    refine (decodeJobRow_writeJobRow (valid record member)).mp ?_
    obtain ⟨id, found⟩ := mem_values.mp member
    have own := inv.jobKeys id record found
    rw [load] at loaded
    cases decoded : decodeState {} database with
    | error => simp [decoded, Except.map] at loaded
    | ok read =>
      rw [decoded] at loaded
      have sameJobs : read.jobs.values = state.jobs.values := congrArg StateSnapshot.jobs (Except.ok.inj loaded)
      obtain ⟨_, _, decoded⟩ := bind_eq_ok.mp decoded
      obtain ⟨table, jobsRun, decoded⟩ := bind_eq_ok.mp decoded
      obtain ⟨_, _, decoded⟩ := bind_eq_ok.mp decoded
      have sameTable : read.jobs = table := by rw [← Except.ok.inj decoded]
      have row : writeJobRow record ∈ database.jobs.values := by
        refine mem_values.mpr ⟨signed id.value, ?_⟩
        rw [stores.jobs.rows, found]
        rfl
      obtain ⟨_, rowsRun⟩ := guard_bind_eq_ok.mp jobsRun
      obtain ⟨back, read, atBack⟩ := emplaceJob_members rowsRun _ row
      have sameId : back.id = record.id := by
        rw [(decodeJobRow_eq_ok.mp read).id]
        change (⟨unsigned (signed record.id.value)⟩ : JobId) = record.id
        rw [unsigned_signed]
      have listed : back ∈ state.jobs.values := by
        rw [← sameJobs, sameTable]
        exact mem_values.mpr ⟨_, atBack⟩
      obtain ⟨place, atPlace⟩ := mem_values.mp listed
      have home : place = id := by rw [← inv.jobKeys place back atPlace, sameId, own]
      rw [home, found] at atPlace
      rw [read, ← Option.some.inj atPlace]
  · intro storable
    have faithful : ∀ record ∈ state.jobs.values, RowFaithful record := by
      intro record member
      exact (decodeJobRow_writeJobRow (valid record member)).mpr (storable record member)
    rw [load, decodeState_stored stores inv faithful below]
    rfl

/-- What holds between writes of storable records. -/
structure Held (config : ValidationConfig) (database : Database) (state : StoreState) : Prop where
  stores : Stores database state
  inv : StoreInvariant config state
  storable : ∀ record ∈ state.jobs.values, Storable record
  below : state.revision.toNat < 2 ^ 63

section

variable (held : Held config database state)
include held

theorem Held.faithful : ∀ record ∈ state.jobs.values, RowFaithful record := by
  intro record member
  obtain ⟨id, found⟩ := mem_values.mp member
  exact (decodeJobRow_writeJobRow (held.inv.jobsValid id record found).2).mpr (held.storable record member)

theorem Held.accepted
    (accepted : (apply config {} database mutation).1.code = none) :
    ∃ next, applyMutation config state mutation = .ok next ∧ next.revision.toNat < 2 ^ 63 ∧
      Stores (apply config {} database mutation).2 next := by
  rcases apply_eq mutation held.stores held.inv held.faithful held.below with ⟨error, _, same⟩ | ⟨next, run, room⟩
  · simp [same] at accepted
  · rcases room with ⟨_, same⟩ | ⟨small, after, _, stored, same⟩
    · simp [same] at accepted
    · rw [int64Max] at small
      refine ⟨next, run, by omega, ?_⟩
      rw [same]
      exact stored

theorem Held.taken (new : ∀ record ∈ written mutation, Storable record)
    (accepted : (apply config {} database mutation).1.code = none) :
    ∃ next, applyMutation config state mutation = .ok next ∧
      Held config (apply config {} database mutation).2 next := by
  obtain ⟨next, run, below, stored⟩ := held.accepted accepted
  refine ⟨next, run, stored, held.inv.step run, fun record member => ?_, below⟩
  rcases next_written run record member with old | fresh
  · exact held.storable record old
  · exact new record fresh

theorem Held.step (new : ∀ record ∈ written mutation, Storable record) :
    ∃ next, Held config (apply config {} database mutation).2 next := by
  by_cases accepted : (apply config {} database mutation).1.code = none
  · obtain ⟨next, _, kept⟩ := held.taken new accepted
    exact ⟨next, kept⟩
  · rw [apply_refused accepted]
    exact ⟨state, held⟩

end

theorem Held.initial (config : ValidationConfig) : Held config {} .initial := by
  refine ⟨.initial, .initial config, fun _ member => ?_, by decide⟩
  simp [StoreState.initial, values, empty] at member

theorem run_held (config : ValidationConfig) (mutations : List StateMutation)
    (storable : ∀ mutation ∈ mutations, ∀ record ∈ written mutation, Storable record) :
    ∃ state, Held config (run config mutations) state := by
  refine List.foldlRecOn mutations _ (motive := fun database => ∃ state, Held config database state)
    ⟨.initial, .initial config⟩ ?_
  rintro _ ⟨_, held⟩ mutation member
  exact held.step (storable mutation member)

/-- A write in which anything may fail, after the writes answered with success. -/
def attempt (config : ValidationConfig) (past : List StateMutation × Database) (write : SqliteFaults × StateMutation) :
    List StateMutation × Database :=
  let (result, database) := apply config write.1 past.2 write.2
  (if result.ok then past.1 ++ [write.2] else past.1, database)

/-- The tables hold what the writes answered with success come to. -/
def Kept (config : ValidationConfig) (past : List StateMutation × Database) : Prop :=
  Held config past.2 (runMutations config .initial past.1)

theorem Kept.attempt {past : List StateMutation × Database} {write : SqliteFaults × StateMutation}
    (held : Kept config past) (new : ∀ record ∈ written write.2, Storable record) :
    Kept config (attempt config past write) := by
  simp only [Kept, SqliteStateStore.attempt, StateStoreWriteResult.ok]
  by_cases answer : (apply config write.1 past.2 write.2).1.code = none
  · -- a write that is answered with success met no failure
    have plain := (apply_faults write.1).resolve_right (not_not_intro answer)
    rw [plain] at answer ⊢
    obtain ⟨next, run, kept⟩ := held.taken new answer
    have reached : runMutations config .initial (past.1 ++ [write.2]) = next :=
      (Rejecting.run_append ..).trans (Rejecting.next_accepted run)
    simpa [answer, reached] using kept
  · rw [apply_refused answer]
    simpa [answer, Kept] using held

end ReadBack

/-- As long as only storable records are written, what the store has accepted can
be loaded. A write that is accepted then can be read back exactly when all records
it leaves behind are storable. -/
theorem accepted_reads_back (config : ValidationConfig) (mutations : List StateMutation)
    (storable : ∀ mutation ∈ mutations, ∀ record ∈ written mutation, Storable record) :
    ∃ state, Stores (run config mutations) state ∧ StoreInvariant config state ∧
      load {} (run config mutations) = .ok state.snapshot ∧
      ∀ mutation, (apply config {} (run config mutations) mutation).1.code = none →
        ∃ next, applyMutation config state mutation = .ok next ∧
          (load {} (apply config {} (run config mutations) mutation).2 = .ok next.snapshot ↔
            ∀ record ∈ next.jobs.values, Storable record) := by
  obtain ⟨state, held⟩ := run_held config mutations storable
  refine ⟨state, held.stores, held.inv, (load_iff_storable held.stores held.inv held.below).mpr held.storable, ?_⟩
  intro _ accepted
  obtain ⟨next, run, below, stored⟩ := held.accepted accepted
  exact ⟨next, run, load_iff_storable stored (held.inv.step run) below⟩

/-- A device name with a comma passes every check and is written, but the store
cannot be loaded any more. -/
theorem comma_unreadable :
    let accepted := apply {} {} {} { expectedRevision := 0, createJobs := [placedJob [⟨.ascii "GPU-0,1"⟩]] }
    accepted.1.code = none ∧ load {} accepted.2 = .error .invalidJob := by
  decide

theorem accepted_reads_back_two_devices :
    let mutations : List StateMutation :=
      [{ expectedRevision := 0, createJobs := [placedJob [⟨.ascii "GPU-0"⟩, ⟨.ascii "GPU-1"⟩]] }]
    ∃ state, Stores (run {} mutations) state ∧ load {} (run {} mutations) = .ok state.snapshot := by
  intro mutations
  have storable : Storable (placedJob [⟨.ascii "GPU-0"⟩, ⟨.ascii "GPU-1"⟩]) :=
    ⟨by decide, by decide, by decide, by decide⟩
  obtain ⟨state, stores, _, loaded, _⟩ := accepted_reads_back {} mutations (by
    intro _ member _ written
    have first := List.mem_singleton.mp member
    subst first
    have only := List.mem_singleton.mp written
    subst only
    exact storable)
  exact ⟨state, stores, loaded⟩

/-- Whatever fails in which write, what is loaded in the end is what the writes answered with success make of an empty
store in memory. -/
theorem acknowledged_writes_survive (config : ValidationConfig) (writes : List (SqliteFaults × StateMutation))
    (storable : ∀ write ∈ writes, ∀ record ∈ written write.2, Storable record) :
    let reached := writes.foldl (attempt config) ([], {})
    load {} reached.2 = .ok (runMutations config .initial reached.1).snapshot := by
  intro reached
  have held : Kept config reached := by
    refine List.foldlRecOn writes _ (motive := Kept config) (.initial config) ?_
    exact fun _ held write member => held.attempt (storable write member)
  exact (load_iff_storable held.stores held.inv held.below).mpr held.storable

theorem acknowledged_writes_survive_commit :
    let create : StateMutation := { createJobs := [placedJob [⟨.ascii "GPU-0"⟩]] }
    let reached := [({ commit := true }, create), ({}, create), ({}, create)].foldl (attempt {}) ([], {})
    reached.1.length = 1 ∧ load {} reached.2 = .ok (runMutations {} .initial reached.1).snapshot := by
  intro create reached
  refine ⟨by decide, acknowledged_writes_survive {} _ ?_⟩
  have storable : ∀ record ∈ written create, Storable record :=
    List.forall_mem_singleton.mpr ⟨by decide, by decide, by decide, by decide⟩
  simpa using storable

end Yori.SqliteStateStore
