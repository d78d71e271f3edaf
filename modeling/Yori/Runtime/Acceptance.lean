import Yori.Runtime.OnlyJob

namespace Yori
open Checked MachineWord MutationCore SortedMap StateMutation List Rewrite

variable {limits : ValidationConfig} {state : StoreState} {id : JobId} {current : StoredJob} {rewrite : Rewrite}
  {leases : LeaseTable} {lease : GpuLease} {uuid : GpuUuid}

theorem StoreInvariant.of_revision (inv : StoreInvariant limits state) (revision : UInt64) :
    StoreInvariant limits { state with revision } :=
  { inv with }

theorem leaseCount_erase (held : leases.find? uuid = some lease) (id : JobId) :
    leaseCount leases id = leaseCount (leases.erase uuid) id + if lease.jobId = id then 1 else 0 := by
  have whole : leases = (leases.erase uuid).insert uuid lease := by
    apply ext_find?
    intro _
    rw [find?_insert, find?_erase]
    split
    · rename_i here
      rw [here, held]
    · rfl
  have absent : (leases.erase uuid).find? uuid = none := find?_erase_self ..
  unfold leaseCount
  conv_lhs => rw [whole]
  rw [(values_insert_perm absent).countP_eq, countP_cons]
  simp only [beq_iff_eq]

/-- The tables that the write for one job leads to. -/
def Rewrite.applied (rewrite : Rewrite) (state : StoreState) : StoreState where
  jobs := state.jobs.insert rewrite.record.id rewrite.record
  leases := match rewrite.release with
    | none => state.leases
    | some uuid => state.leases.erase uuid
  revision := state.revision

/-- The write suits the record of its job that is stored: it is an allowed
change, and it gives up the device of the job exactly if the new state holds
none. -/
structure Rewrite.Suits (rewrite : Rewrite) (state : StoreState) (current : StoredJob) : Prop where
  found : state.jobs.find? current.id = some current
  id : rewrite.record.id = current.id
  spec : rewrite.record.spec = current.spec
  below : current.revision ≠ max64
  revision : rewrite.record.revision = current.revision + 1
  allowed : canTransition current.state rewrite.record.state = true
  execution : rewrite.record.ExecutionValid
  keeps : rewrite.release = none → leaseable rewrite.record.state = leaseable current.state
  gives : ∀ uuid ∈ rewrite.release,
    leaseable rewrite.record.state = false ∧ state.leases.find? uuid = some ⟨uuid, current.id⟩

namespace Rewrite.Suits

section

variable (suits : rewrite.Suits state current) (inv : StoreInvariant limits state)
include suits inv

theorem update :
    updateJob state.jobs rewrite.record = .ok (rewrite.applied state).jobs := by
  have member : current ∈ state.jobs.values := mem_values.mpr ⟨_, suits.found⟩
  have valid : rewrite.record.id.valid = true := by
    rw [suits.id]
    exact inv.jobIds current member
  have spec : rewrite.record.spec.Valid := by
    rw [suits.spec]
    exact inv.specs current member
  have found : state.jobs.find? rewrite.record.id = some current := by
    rw [suits.id]
    exact suits.found
  exact updateJob_eq_ok.mpr ⟨⟨valid, spec⟩, suits.execution, current, found, ⟨suits.below, suits.revision⟩,
    suits.spec.symm, suits.allowed, rfl⟩

theorem release :
    rewrite.release.toList.foldlM releaseLease state.leases = .ok (rewrite.applied state).leases := by
  unfold applied
  cases given : rewrite.release with
  | none => rfl
  | some uuid =>
    have held := (suits.gives uuid given).2
    have valid := (inv.leasesValid.keys uuid _ held).2
    have turn := releaseLease_eq_ok.mpr ⟨valid, ⟨_, held⟩, rfl⟩
    simp only [Option.toList_some, foldlM_cons, turn, foldlM_nil]
    rfl

/-- The leases that are left name other jobs, or the same job in a state that
holds a device. -/
theorem owners :
    ∀ uuid lease, (rewrite.applied state).leases.find? uuid = some lease →
      ownerLeaseable (rewrite.applied state).jobs lease.jobId = true := by
  intro uuid lease left
  have held : state.leases.find? uuid = some lease ∧ (lease.jobId = current.id → rewrite.release = none) := by
    unfold applied at left
    cases given : rewrite.release with
    | none =>
      simp only [given] at left
      exact ⟨left, fun _ => rfl⟩
    | some other =>
      simp only [given, find?_erase] at left
      split at left
      · simp at left
      · rename_i elsewhere
        refine ⟨left, fun own => absurd ?_ elsewhere⟩
        exact inv.leasesValid.exclusive uuid lease other _ left (suits.gives other given).2 own
  obtain ⟨owner, atOwner, active⟩ :=
    ownerLeaseable_iff.mp (inv.owner_leaseable (mem_values.mpr ⟨uuid, held.1⟩))
  rw [ownerLeaseable_iff, applied, suits.id]
  by_cases own : lease.jobId = current.id
  · rw [own, suits.found] at atOwner
    cases atOwner
    refine ⟨rewrite.record, by rw [own, find?_insert_self], ?_⟩
    rw [suits.keeps (held.2 own), active]
  · exact ⟨owner, by rw [find?_insert_of_ne _ _ own, atOwner], active⟩

theorem matrix :
    ∀ id record, (rewrite.applied state).jobs.find? id = some record →
      leaseCount (rewrite.applied state).leases id = if leaseable record.state then 1 else 0 := by
  intro id record found
  have before := inv.leaseMatrix current.id current suits.found
  rw [applied, suits.id, find?_insert] at found
  unfold applied
  cases given : rewrite.release with
  | none =>
    split at found
    · rename_i here
      cases found
      rw [here, suits.keeps given]
      exact before
    · exact inv.leaseMatrix id record found
  | some uuid =>
    obtain ⟨idle, held⟩ := suits.gives uuid given
    have count := leaseCount_erase held id
    split at found
    · rename_i here
      cases found
      subst here
      simp only [if_true] at count
      simp only [idle, Bool.false_eq_true, if_false]
      split at before
      · omega
      · omega
    · rename_i other
      rw [if_neg (Ne.symm other), Nat.add_zero] at count
      exact count.symm.trans (inv.leaseMatrix id record found)

theorem invariant :
    StoreInvariant limits (rewrite.applied state) := by
  have update := suits.update inv
  have leases := foldlM_invariant (fun leases => LeasesValid leases ∧ leases.size ≤ limits.maxLeases)
    (fun _ _ _ _ turn old => ⟨releaseLease_keeps_valid turn old.1, (releaseLease_size turn).trans old.2⟩)
    (suits.release inv) ⟨inv.leasesValid, inv.leasesBound⟩
  exact .of_tables (updateJob_keeps_valid update inv.jobsValid) leases.1 (suits.owners inv) (suits.matrix inv)
    ((updateJob_size update).le.trans inv.jobsBound) leases.2

end

end Rewrite.Suits

section Batch

/-- Several writes put into one mutation. -/
def batch (rewrites : List Rewrite) (expectedRevision : UInt64) : StateMutation where
  expectedRevision := expectedRevision
  updateJobs := rewrites.map (·.record)
  releaseLeases := rewrites.flatMap (·.release.toList)

def appliedAll (rewrites : List Rewrite) (state : StoreState) : StoreState :=
  rewrites.foldl (fun state rewrite => rewrite.applied state) state

/-- Each write suits the tables that the earlier ones lead to. -/
def SuitAll : List Rewrite → StoreState → Prop
  | [], _ => True
  | rewrite :: rest, state => (∃ current, rewrite.Suits state current) ∧ SuitAll rest (rewrite.applied state)

variable {rewrites : List Rewrite}

theorem appliedAll_row_other (other : ∀ rewrite ∈ rewrites, rewrite.record.id ≠ id) :
    (appliedAll rewrites state).jobs.find? id = state.jobs.find? id := by
  induction rewrites generalizing state with
  | nil => rfl
  | cons _ _ ih =>
    obtain ⟨here, later⟩ := forall_mem_cons.mp other
    refine (ih later).trans ?_
    exact find?_insert_of_ne _ _ (Ne.symm here)

theorem appliedAll_row_own (distinct : (rewrites.map (·.record.id)).Nodup) (member : rewrite ∈ rewrites) :
    (appliedAll rewrites state).jobs.find? rewrite.record.id = some rewrite.record := by
  induction rewrites generalizing state with
  | nil => simp at member
  | cons _ rest ih =>
    rw [map_cons, nodup_cons] at distinct
    rcases mem_cons.mp member with here | later
    · subst here
      have untouched : ∀ other ∈ rest, other.record.id ≠ rewrite.record.id := by
        intro other atOther same
        exact distinct.1 (mem_map.mpr ⟨other, atOther, same⟩)
      have kept : (appliedAll rest (rewrite.applied state)).jobs.find? rewrite.record.id =
          (rewrite.applied state).jobs.find? rewrite.record.id := appliedAll_row_other untouched
      exact kept.trans (find?_insert_self ..)
    · exact ih distinct.2 later

/-- Writes of this kind only give devices up. -/
theorem appliedAll_leases (left : (appliedAll rewrites state).leases.find? uuid = some lease) :
    state.leases.find? uuid = some lease := by
  induction rewrites generalizing state with
  | nil => exact left
  | cons rewrite _ ih =>
    have kept := ih left
    unfold applied at kept
    cases given : rewrite.release with
    | none => simpa only [given] using kept
    | some =>
      simp only [given, find?_erase] at kept
      split at kept
      · simp at kept
      · exact kept

theorem appliedAll_append (first second : List Rewrite) (state : StoreState) :
    appliedAll (first ++ second) state = appliedAll second (appliedAll first state) :=
  foldl_append

theorem updates_applied {jobs : JobTable} (run : (rewrites.map (·.record)).foldlM updateJob state.jobs = .ok jobs) :
    jobs = (appliedAll rewrites state).jobs := by
  induction rewrites generalizing state with
  | nil =>
    cases run
    rfl
  | cons rewrite rest ih =>
    rw [map_cons, foldlM_cons] at run
    obtain ⟨_, turn, run⟩ := bind_eq_ok.mp run
    obtain ⟨_, _, _, _, _, _, _, rfl⟩ := updateJob_eq_ok.mp turn
    have later : jobs = (appliedAll rest (rewrite.applied state)).jobs := ih run
    exact later

theorem releases_applied (run : (rewrites.flatMap (·.release.toList)).foldlM releaseLease state.leases = .ok leases) :
    leases = (appliedAll rewrites state).leases := by
  induction rewrites generalizing state with
  | nil =>
    cases run
    rfl
  | cons rewrite rest ih =>
    rw [flatMap_cons, foldlM_append] at run
    obtain ⟨middle, turn, run⟩ := bind_eq_ok.mp run
    have given : middle = (rewrite.applied state).leases := by
      unfold applied
      cases release : rewrite.release with
      | none =>
        rw [release] at turn
        cases turn
        rfl
      | some =>
        simp only [release, Option.toList_some, foldlM_cons, foldlM_nil] at turn
        obtain ⟨_, turn, same⟩ := bind_eq_ok.mp turn
        cases same
        exact (releaseLease_eq_ok.mp turn).2.2.symm
    subst given
    have later := ih run
    exact later

/-- Whatever the writes are, an accepted mutation has carried them all out. -/
theorem batch_applied {revision : UInt64} {next : StoreState}
    (run : applyMutation limits state (batch rewrites revision) = .ok next) :
    next = { appliedAll rewrites state with revision := state.revision + 1 } := by
  obtain ⟨_, _, _, _, _, _, atCreated, atJobs, atReleased, atLeases, _, _, rfl⟩ :=
    applyMutation_eq_ok.mp run
  cases atCreated
  cases atLeases
  rw [updates_applied atJobs, releases_applied atReleased]

section

variable (suit : SuitAll rewrites state) (inv : StoreInvariant limits state)
include suit inv

theorem SuitAll.invariant :
    StoreInvariant limits (appliedAll rewrites state) := by
  induction rewrites generalizing state with
  | nil => exact inv
  | cons _ _ ih =>
    obtain ⟨⟨_, suits⟩, later⟩ := suit
    exact ih later (suits.invariant inv)

theorem SuitAll.updates :
    (rewrites.map (·.record)).foldlM updateJob state.jobs = .ok (appliedAll rewrites state).jobs := by
  induction rewrites generalizing state with
  | nil => rfl
  | cons _ _ ih =>
    obtain ⟨⟨_, suits⟩, later⟩ := suit
    rw [map_cons, foldlM_cons, suits.update inv]
    exact ih later (suits.invariant inv)

theorem SuitAll.releases :
    (rewrites.flatMap (·.release.toList)).foldlM releaseLease state.leases =
      .ok (appliedAll rewrites state).leases := by
  induction rewrites generalizing state with
  | nil => rfl
  | cons _ _ ih =>
    obtain ⟨⟨_, suits⟩, later⟩ := suit
    rw [flatMap_cons, foldlM_append, suits.release inv]
    exact ih later (suits.invariant inv)

/-- A mutation made of suiting writes passes every check of the mutation core:
the closing checks see the tables of the last write. -/
theorem SuitAll.accepted (nonempty : rewrites ≠ []) (few : (batch rewrites state.revision).entryCount ≤ maxEntries)
    (below : state.revision ≠ max64) :
    applyMutation limits state (batch rewrites state.revision) =
      .ok { appliedAll rewrites state with revision := state.revision + 1 } := by
  have after := suit.invariant inv
  have entries : (batch rewrites state.revision).entryCount ≠ 0 := by
    have length : 0 < rewrites.length := length_pos_iff.mpr nonempty
    rw [entryCount_eq]
    simp only [batch, length_map]
    omega
  refine applyMutation_eq_ok.mpr ⟨rfl, ⟨entries, few, below⟩, state.jobs, _, _, _, rfl, suit.updates inv,
    suit.releases inv, rfl, ?_, after.leaseMatrix, rfl⟩
  intro uuid _ found
  exact after.owner_leaseable (mem_values.mpr ⟨uuid, found⟩)

end

theorem SuitAll.append {first second : List Rewrite} :
    SuitAll (first ++ second) state ↔ SuitAll first state ∧ SuitAll second (appliedAll first state) := by
  induction first generalizing state with
  | nil => exact ⟨fun suit => ⟨trivial, suit⟩, fun suit => suit.2⟩
  | cons _ _ ih =>
    constructor
    · intro ⟨here, later⟩
      obtain ⟨early, late⟩ := ih.mp later
      exact ⟨⟨here, early⟩, late⟩
    · intro ⟨⟨here, early⟩, late⟩
      exact ⟨here, ih.mpr ⟨early, late⟩⟩

/-- Whether the writes suit does not depend on the revision of the store. -/
theorem SuitAll.of_revision (suit : SuitAll rewrites state) (revision : UInt64) :
    SuitAll rewrites { state with revision } := by
  induction rewrites generalizing state with
  | nil => trivial
  | cons _ _ ih =>
    obtain ⟨⟨current, suits⟩, later⟩ := suit
    exact ⟨⟨current, suits.found, suits.id, suits.spec, suits.below, suits.revision, suits.allowed, suits.execution,
      suits.keeps, suits.gives⟩, ih later⟩

end Batch

/-- One suiting write is accepted. -/
theorem Rewrite.Suits.accepted (suits : rewrite.Suits state current) (inv : StoreInvariant limits state)
    (below : state.revision ≠ max64) :
    applyMutation limits state (rewrite.mutation state.revision) =
      .ok { rewrite.applied state with revision := state.revision + 1 } := by
  have one : SuitAll [rewrite] state := ⟨⟨current, suits⟩, trivial⟩
  have same : batch [rewrite] state.revision = rewrite.mutation state.revision := by
    simp [batch, mutation]
  have few : (batch [rewrite] state.revision).entryCount ≤ maxEntries := by
    rw [same]
    cases given : rewrite.release <;> simp [mutation, entryCount, given, maxEntries]
  have run := one.accepted inv (cons_ne_nil _ _) few below
  rw [same] at run
  exact run

end Yori
