import Yori.Runtime.Submission

namespace Yori
open Checked MachineWord MutationCore SortedMap List
open Rejecting hiding next

/-- `states` are the successive states of a job that starts in the first
argument and ends in the last one, by allowed transitions only. -/
def Follows : JobState → List JobState → JobState → Prop
  | source, [], target => source = target
  | source, next :: rest, target => canTransition source next = true ∧ Follows next rest target

theorem Follows.snoc {source middle target : JobState} {states : List JobState}
    (path : Follows source states middle) (allowed : canTransition middle target = true) :
    Follows source (states ++ [target]) target := by
  induction states generalizing source with
  | nil =>
    cases path
    exact ⟨allowed, rfl⟩
  | cons _ _ ih => exact ⟨path.1, ih path.2⟩

/-- The states a list of updates gives one job, in the order of the list. -/
def updateStates (updates : List StoredJob) (id : JobId) : List JobState :=
  (updates.filter (·.id = id)).map (·.state)

/-- The transitions one job makes along a run. Updates of rejected mutations
do not count. -/
def transitions (config : ValidationConfig) (id : JobId) : StoreState → List StateMutation → List JobState
  | _, [] => []
  | state, mutation :: rest =>
    match applyMutation config state mutation with
    | .ok next => updateStates mutation.updateJobs id ++ transitions config id next rest
    | .error _ => transitions config id state rest

/-- The table after the transitions recorded in `history`: a job that is not
stored has made none, and the revision of a stored one counts its own. -/
structure HistoryMatches (history : JobId → List JobState) (jobs : JobTable) : Prop where
  absent : ∀ id, jobs.find? id = none → history id = []
  revision : ∀ id record, jobs.find? id = some record → record.revision.toNat = (history id).length
  path : ∀ id record, jobs.find? id = some record → Follows .queued (history id) record.state

/-- No row of the first table is lost in the second; specifications stay, and
terminal rows stay as they are. -/
def Kept (before after : JobTable) : Prop :=
  ∀ id record, before.find? id = some record →
    ∃ kept, after.find? id = some kept ∧ kept.spec = record.spec ∧ (record.state.isTerminal = true → kept = record)

theorem Kept.refl (jobs : JobTable) : Kept jobs jobs :=
  fun _ record found => ⟨record, found, rfl, fun _ => rfl⟩

theorem Kept.trans {first second third : JobTable} (early : Kept first second) (late : Kept second third) :
    Kept first third := by
  intro id record found
  obtain ⟨middle, atMiddle, sameSpec, frozen⟩ := early id record found
  obtain ⟨kept, atKept, laterSpec, laterFrozen⟩ := late id middle atMiddle
  refine ⟨kept, atKept, laterSpec.trans sameSpec, ?_⟩
  intro terminal
  have same := frozen terminal
  subst same
  exact laterFrozen terminal

namespace MutationCore

variable {config : ValidationConfig} {jobs next : JobTable} {record : StoredJob}
  {history : JobId → List JobState}

theorem createJob_kept (run : createJob config jobs record = .ok next) : Kept jobs next := by
  obtain ⟨_, _, absent, _, rfl⟩ := createJob_eq_ok.mp run
  intro id old found
  exact ⟨old, find?_insert_of_absent absent found, rfl, fun _ => rfl⟩

theorem updateJob_kept (run : updateJob jobs record = .ok next) : Kept jobs next := by
  obtain ⟨_, _, _, atExisting, _, sameSpec, allowed, rfl⟩ := updateJob_eq_ok.mp run
  intro id old found
  by_cases same : id = record.id
  · subst same
    cases atExisting.symm.trans found
    have live := canTransition_not_terminal allowed
    exact ⟨record, find?_insert_self .., sameSpec.symm, fun terminal => by simp [live] at terminal⟩
  · exact ⟨old, by rw [find?_insert_of_ne _ _ same, found], rfl, fun _ => rfl⟩

theorem createJob_history (run : createJob config jobs record = .ok next)
    (matching : HistoryMatches history jobs) : HistoryMatches history next := by
  obtain ⟨⟨_, _, queued, zero⟩, _, absent, _, rfl⟩ := createJob_eq_ok.mp run
  have none := matching.absent record.id absent
  refine ⟨?_, ?_, ?_⟩
  · intro id atId
    rw [find?_insert] at atId
    split at atId
    · simp at atId
    · exact matching.absent id atId
  · intro id found atId
    obtain ⟨same, rfl⟩ | atId := insert_cases atId
    · rw [same, none, zero]
      rfl
    · exact matching.revision id found atId
  · intro id found atId
    obtain ⟨same, rfl⟩ | atId := insert_cases atId
    · rw [same, none]
      exact queued.symm
    · exact matching.path id found atId

theorem updateJob_history (run : updateJob jobs record = .ok next) (matching : HistoryMatches history jobs) :
    HistoryMatches (fun id => history id ++ updateStates [record] id) next := by
  obtain ⟨_, _, existing, atExisting, ⟨below, revision⟩, _, allowed, rfl⟩ := updateJob_eq_ok.mp run
  have own : updateStates [record] record.id = [record.state] := by simp [updateStates]
  have others : ∀ id, id ≠ record.id → updateStates [record] id = [] := by
    intro _ other
    simp [updateStates, Ne.symm other]
  refine ⟨?_, ?_, ?_⟩
  · intro id atId
    rw [find?_insert] at atId
    split at atId
    · simp at atId
    · rename_i other
      rw [others id other, matching.absent id atId, append_nil]
  · intro id found atId
    rw [find?_insert] at atId
    split at atId
    · rename_i same
      cases atId
      have counted := matching.revision record.id existing atExisting
      rw [same, own, length_append, ← counted, revision, toNat_succ below]
      rfl
    · rename_i other
      rw [others id other, append_nil]
      exact matching.revision id found atId
  · intro id found atId
    rw [find?_insert] at atId
    split at atId
    · rename_i same
      cases atId
      rw [same, own]
      exact (matching.path record.id existing atExisting).snoc allowed
    · rename_i other
      rw [others id other, append_nil]
      exact matching.path id found atId

theorem updateStates_cons (updates : List StoredJob) (id : JobId) :
    updateStates (record :: updates) id = updateStates [record] id ++ updateStates updates id := by
  unfold updateStates
  rw [← map_append, ← filter_append, singleton_append]

/-- Several updates of one job in a batch are followed one by one. -/
theorem updateJobs_history {updates : List StoredJob} (run : updates.foldlM updateJob jobs = .ok next)
    (matching : HistoryMatches history jobs) :
    HistoryMatches (fun id => history id ++ updateStates updates id) next := by
  induction updates generalizing jobs history with
  | nil =>
    cases run
    simpa [updateStates] using matching
  | cons _ rest ih =>
    rw [foldlM_cons] at run
    obtain ⟨_, turn, run⟩ := bind_eq_ok.mp run
    have stepped := ih run (updateJob_history turn matching)
    simpa only [updateStates_cons rest, append_assoc] using stepped

end MutationCore

section Mutations

variable {config : ValidationConfig} {state next : StoreState} {mutation : StateMutation}
  {history : JobId → List JobState}

section

variable (run : applyMutation config state mutation = .ok next)
include run

theorem applyMutation_revision :
    next.revision.toNat = state.revision.toNat + 1 := by
  obtain ⟨_, ⟨_, _, below⟩, _, _, _, _, _, _, _, _, _, _, rfl⟩ := applyMutation_eq_ok.mp run
  exact toNat_succ below

theorem applyMutation_kept : Kept state.jobs next.jobs := by
  obtain ⟨_, _, _, jobs, _, _, atCreated, atJobs, _, _, _, _, rfl⟩ := applyMutation_eq_ok.mp run
  have early := foldlM_invariant (Kept state.jobs) (fun _ _ _ _ turn old => old.trans (createJob_kept turn))
    atCreated (.refl _)
  exact foldlM_invariant (Kept state.jobs) (fun _ _ _ _ turn old => old.trans (updateJob_kept turn)) atJobs early

theorem applyMutation_history (matching : HistoryMatches history state.jobs) :
    HistoryMatches (fun id => history id ++ updateStates mutation.updateJobs id) next.jobs := by
  obtain ⟨_, _, _, _, _, _, atCreated, atJobs, _, _, _, _, rfl⟩ := applyMutation_eq_ok.mp run
  have early := foldlM_invariant (HistoryMatches history) (fun _ _ _ _ turn old => createJob_history turn old)
    atCreated matching
  exact updateJobs_history atJobs early

end

theorem runMutations_history {mutations : List StateMutation} (matching : HistoryMatches history state.jobs) :
    HistoryMatches (fun id => history id ++ transitions config id state mutations)
      (runMutations config state mutations).jobs := by
  induction mutations generalizing state history with
  | nil =>
    simp only [transitions, append_nil]
    exact matching
  | cons mutation rest ih =>
    have unfolded : runMutations config state (mutation :: rest) =
        runMutations config (Rejecting.next (applyMutation config) state mutation) rest := run_cons ..
    rw [unfolded]
    cases turn : applyMutation config state mutation with
    | error =>
      rw [next_rejected turn]
      simpa only [transitions, turn] using ih matching
    | ok =>
      rw [next_accepted turn]
      simpa only [transitions, turn, append_assoc] using ih (applyMutation_history turn matching)

end Mutations

/-- A write of the daemon: a submission, which takes the next id, or any
mutation that creates no job. -/
inductive StoreRequest
  | submit (spec : JobSpec)
  | rewrite (mutation : StateMutation) (createsNothing : mutation.createJobs = [])

namespace StoreRequest

def mutation (state : StoreState) : StoreRequest → StateMutation
  | submit spec => submissionMutation state.snapshot spec
  | rewrite mutation _ => mutation

def apply (config : ValidationConfig) (state : StoreState) (request : StoreRequest) :
    Except StateStoreErrorCode StoreState :=
  applyMutation config state (request.mutation state)

/-- The ids given to new jobs along a run, in the order they are given. -/
def createdIds (config : ValidationConfig) : StoreState → List StoreRequest → List JobId
  | _, [] => []
  | state, request :: rest =>
    match request.apply config state with
    | .ok next => (request.mutation state).createJobs.map (·.id) ++ createdIds config next rest
    | .error _ => createdIds config state rest

variable {config : ValidationConfig} {state next : StoreState}

/-- An accepted submission takes an id above every stored one: were the
largest id the largest word, the increment would give the invalid id zero. -/
theorem submit_above {spec : JobSpec} (run : (submit spec).apply config state = .ok next)
    (inv : StoreInvariant config state) :
    (∀ id record, state.jobs.find? id = some record → id < (submissionRecord state.snapshot spec).id) ∧
      ∃ record, next.jobs.find? (submissionRecord state.snapshot spec).id = some record := by
  obtain ⟨_, _, created, jobs, _, _, atCreated, atJobs, _, _, _, _, rfl⟩ := applyMutation_eq_ok.mp run
  simp only [mutation, submissionMutation, foldlM_cons, foldlM_nil] at atCreated atJobs
  cases atJobs
  obtain ⟨table, turn, same⟩ := bind_eq_ok.mp atCreated
  cases same
  obtain ⟨⟨valid, _⟩, _, _, _, rfl⟩ := createJob_eq_ok.mp turn
  refine ⟨?_, _, find?_insert_self ..⟩
  intro id record found
  have stored : record.id.value ≤ maxJobId state.snapshot :=
    le_maxJobId (mem_values.mpr ⟨id, found⟩)
  have below : maxJobId state.snapshot ≠ max64 := by
    intro largest
    refine JobId.valid_iff.mp valid ?_
    change maxJobId state.snapshot + 1 = 0
    rw [largest]
    rfl
  have key := inv.jobKeys id record found
  subst key
  have bound := UInt64.le_iff_toNat_le.mp stored
  rw [JobId.lt_iff, UInt64.lt_iff_toNat_lt]
  change record.id.value.toNat < (maxJobId state.snapshot + 1).toNat
  rw [toNat_succ below]
  omega

theorem createdIds_above {requests : List StoreRequest} (inv : StoreInvariant config state) :
    (∀ created ∈ createdIds config state requests, ∀ id record,
      state.jobs.find? id = some record → id < created) ∧
      (createdIds config state requests).Pairwise (· < ·) := by
  induction requests generalizing state with
  | nil => simp [createdIds]
  | cons request rest ih =>
    cases turn : request.apply config state with
    | error => simpa only [createdIds, turn] using ih inv
    | ok next =>
      obtain ⟨later, increasing⟩ := ih (inv.step turn)
      have oldBelow : ∀ created ∈ createdIds config next rest, ∀ id record,
          state.jobs.find? id = some record → id < created := by
        intro created member id record found
        obtain ⟨kept, atKept, _⟩ := applyMutation_kept turn id record found
        exact later created member id kept atKept
      cases request with
      | rewrite mutation createsNothing =>
        simp only [createdIds, turn, StoreRequest.mutation, createsNothing, map_nil, nil_append]
        exact ⟨oldBelow, increasing⟩
      | submit =>
        obtain ⟨above, record, present⟩ := submit_above turn inv
        simp only [createdIds, turn, StoreRequest.mutation, submissionMutation, map_cons, map_nil,
          singleton_append]
        refine ⟨?_, pairwise_cons.mpr ⟨?_, increasing⟩⟩
        · intro created member
          rcases mem_cons.mp member with here | after
          · exact here ▸ above
          · exact oldBelow created after
        · exact fun created member => later created member _ record present

end StoreRequest

section Unspent

variable {config : ValidationConfig} {state next : StoreState} {mutation : StateMutation} {record : StoredJob}
  {jobs : JobTable}

/-- How far a job in this state can have come. -/
def JobState.stage : JobState → Nat
  | queued => 0
  | starting => 1
  | running => 2
  | stopping => 3
  | finished | failed | cancelled | lost => 4

/-- No transition goes back. -/
theorem canTransition_stage {source target : JobState} (allowed : canTransition source target = true) :
    source.stage < target.stage := by
  revert allowed
  cases source <;> cases target <;> decide

/-- The revision of a job is at most its stage, so that it never runs out. -/
def Unspent (jobs : JobTable) : Prop :=
  ∀ id record, jobs.find? id = some record → record.revision.toNat ≤ record.state.stage

theorem Unspent.below (unspent : Unspent jobs) {id : JobId} (found : jobs.find? id = some record) :
    record.revision ≠ max64 := by
  have bound := unspent id record found
  have last : record.state.stage ≤ 4 := by cases record.state <;> decide
  exact ne_max64_iff.mpr (by omega)

theorem Unspent.insert (unspent : Unspent jobs) (new : record.revision.toNat ≤ record.state.stage) :
    Unspent (jobs.insert record.id record) := by
  intro id found atId
  rw [find?_insert] at atId
  split at atId
  · cases atId
    exact new
  · exact unspent id found atId

theorem applyMutation_unspent (run : applyMutation config state mutation = .ok next) (unspent : Unspent state.jobs) :
    Unspent next.jobs := by
  obtain ⟨_, _, created, jobs, _, _, atCreated, atJobs, _, _, _, _, rfl⟩ := applyMutation_eq_ok.mp run
  have early : Unspent created := by
    refine foldlM_invariant Unspent ?_ atCreated unspent
    intro _ _ _ _ turn old
    obtain ⟨⟨_, _, _, zero⟩, _, _, _, rfl⟩ := createJob_eq_ok.mp turn
    exact old.insert (by simp [zero])
  refine foldlM_invariant Unspent ?_ atJobs early
  intro before record after _ turn old
  obtain ⟨_, _, existing, found, ⟨below, revision⟩, _, allowed, rfl⟩ := updateJob_eq_ok.mp turn
  have bound := old record.id existing found
  have forward := canTransition_stage allowed
  have value := toNat_succ below
  exact old.insert (by rw [revision]; omega)

theorem runMutations_unspent (config : ValidationConfig) (mutations : List StateMutation) :
    Unspent (runMutations config .initial mutations).jobs := by
  refine run_invariant (fun state => Unspent state.jobs) (fun _ _ _ run old => applyMutation_unspent run old) ?_
  intro _ _ found
  simp [StoreState.initial] at found

end Unspent

/-- What any run of mutations leaves behind: the revision counts the accepted
ones, jobs and their specifications stay, revisions count transitions,
terminal records are frozen, and ids are never given twice. -/
theorem runMutations_store_history (config : ValidationConfig) (mutations later : List StateMutation)
    (requests : List StoreRequest) :
    let state := runMutations config .initial mutations
    let after := runMutations config .initial (mutations ++ later)
    (∀ mutation next, applyMutation config state mutation = .ok next →
      (runMutations config .initial (mutations ++ [mutation])).revision.toNat = state.revision.toNat + 1) ∧
    (∀ mutation error, applyMutation config state mutation = .error error →
      runMutations config .initial (mutations ++ [mutation]) = state) ∧
    (∀ id record, state.jobs.find? id = some record →
      (∃ kept, after.jobs.find? id = some kept ∧ kept.spec = record.spec) ∧
      record.revision.toNat = (transitions config id .initial mutations).length ∧
      Follows .queued (transitions config id .initial mutations) record.state ∧
      (record.state.isTerminal = true → after.jobs.find? id = some record)) ∧
    (StoreRequest.createdIds config .initial requests).Pairwise (· < ·) := by
  intro state after
  have split : after = runMutations config state later := run_append ..
  have single : ∀ mutation, runMutations config .initial (mutations ++ [mutation]) =
      Rejecting.next (applyMutation config) state mutation := fun mutation => run_append ..
  have kept : Kept state.jobs after.jobs := split ▸
    run_invariant (fun reached => Kept state.jobs reached.jobs)
      (fun _ _ _ run old => old.trans (applyMutation_kept run)) (.refl _)
  have empty : HistoryMatches (fun _ => []) StoreState.initial.jobs :=
    ⟨fun _ _ => rfl, fun id record found => by simp [StoreState.initial] at found,
      fun id record found => by simp [StoreState.initial] at found⟩
  have matching : HistoryMatches (fun id => transitions config id .initial mutations) state.jobs := by
    simpa only [nil_append] using runMutations_history empty
  refine ⟨?_, ?_, ?_, (StoreRequest.createdIds_above (.initial config)).2⟩
  · intro _ _ run
    rw [single, next_accepted run, applyMutation_revision run]
  · intro _ _ run
    rw [single, next_rejected run]
  · intro id record found
    obtain ⟨row, atRow, sameSpec, frozen⟩ := kept id record found
    refine ⟨⟨row, atRow, sameSpec⟩, matching.revision id record found, matching.path id record found, ?_⟩
    intro terminal
    rw [atRow, frozen terminal]

end Yori
