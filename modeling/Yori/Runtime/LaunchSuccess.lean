import Yori.Runtime.Moves

namespace Yori
open MachineWord MutationCore SortedMap

variable {limits : ValidationConfig} {state : StoreState} {id : JobId} {record current : StoredJob}

section Reliable

variable {σ : Type} {store : StateStore σ} {content : σ → StoreState} {backend : σ}
  {compose : Nat → StoredJob → Rewrite} {next : StoreState}

/-- Over a store without failures of its own the first attempt decides. -/
theorem rewriteJob_accepted (reliable : Reliable limits store content) (inv : StoreInvariant limits (content backend))
    (found : (content backend).jobs.find? id = some current)
    (run : applyMutation limits (content backend) ((compose 0 current).mutation (content backend).revision) =
      .ok next) :
    (rewriteJob store id compose backend).1.code = none ∧ content (rewriteJob store id compose backend).2 = next := by
  have reads := reliable.load_content backend
  rw [← reads] at run
  have accepted := reliable.apply_ok _ _ _ run
  have applied := (reliable.apply_accepted _ _ accepted).symm.trans run
  rw [reads] at accepted applied
  have stored : findStored (content backend).snapshot id = some current := (inv.findStored_eq id).trans found
  have revision : (content backend).snapshot.revision = (content backend).revision := rfl
  unfold rewriteJob rewriteAttempts
  rw [reliable.load_eq backend]
  simp only [stored, revision, accepted, reduceCtorEq, if_false]
  exact ⟨trivial, Except.ok.inj applied⟩

end Reliable

namespace JobManager

variable {identity : ProcessIdentity} {directory : ByteString} {clock : Nat → TimePoint} {attempt : Nat}

/-- The write that reports a started process passes every check of the mutation
core, if what it records is valid. -/
theorem runningMutation_accepted (inv : StoreInvariant limits state) (found : state.jobs.find? id = some current)
    (starting : current.state = .starting) (revision : current.revision ≠ max64) (below : state.revision ≠ max64)
    (valid : (runningRecord identity directory clock attempt current).record.ExecutionValid) :
    let rewrite := runningRecord identity directory clock attempt current
    applyMutation limits state (rewrite.mutation state.revision) =
      .ok ⟨state.jobs.insert current.id rewrite.record, state.leases, state.revision + 1⟩ := by
  intro rewrite
  have key := inv.jobKeys id current found
  subst key
  have member : current ∈ state.jobs.values := mem_values.mpr ⟨_, found⟩
  have update : updateJob state.jobs rewrite.record = .ok (state.jobs.insert current.id rewrite.record) := by
    refine updateJob_eq_ok.mpr ⟨⟨inv.jobIds current member, inv.specs current member⟩, valid, current, found,
      ⟨revision, rfl⟩, rfl, ?_, rfl⟩
    rw [starting]
    rfl
  have entries : (rewrite.mutation state.revision).entryCount = 1 := rfl
  refine applyMutation_eq_ok.mpr ⟨rfl, ⟨by rw [entries]; decide, by rw [entries]; decide, below⟩, state.jobs, _,
    state.leases, _, rfl, ?_, rfl, rfl, ?_, ?_, rfl⟩
  · simp only [Rewrite.mutation, List.foldlM_cons, List.foldlM_nil, update]
    rfl
  · intro uuid lease held
    obtain ⟨owner, atOwner, active⟩ :=
      ownerLeaseable_iff.mp (inv.owner_leaseable (mem_values.mpr ⟨uuid, held⟩))
    rw [ownerLeaseable_iff]
    by_cases own : lease.jobId = current.id
    · exact ⟨rewrite.record, by rw [own, find?_insert_self], rfl⟩
    · exact ⟨owner, by rw [find?_insert_of_ne _ _ own, atOwner], active⟩
  · intro other row atRow
    obtain ⟨here, rfl⟩ | atRow := insert_cases atRow
    · rw [here, inv.leaseMatrix _ current found, starting]
      rfl
    · exact inv.leaseMatrix other row atRow

variable {σ : Type} {store : StateStore σ} {content : σ → StoreState} {config : JobManagerConfig}
  {launch : LaunchInput} {uuid : GpuUuid} {manager : JobManager σ}

/-- The launch of this queued job meets no failure: everything it asks for is
there, the exit monitor takes the process, and what is written about it is
valid. -/
def LaunchSucceeds (content : σ → StoreState) (config : JobManagerConfig) (launch : LaunchInput)
    (manager : JobManager σ) (record : StoredJob) : Prop :=
  match launch.spawn with
  | .error _ => False
  | .ok identity =>
    let starting := { record with state := .starting, revision := 1 }
    prepareLaunch launch record.spec = .ok () ∧
      (manager.monitor.registerProcess identity launch.registering).1 = .registered ∧ launch.attached = true ∧
      (runningRecord identity (jobDirectory config record.id) launch.startClock 0 starting).record.ExecutionValid ∧
      (content manager.backend).revision + 1 ≠ max64

instance decidableLaunchSucceeds (content : σ → StoreState) (config : JobManagerConfig) (launch : LaunchInput)
    (manager : JobManager σ) (record : StoredJob) :
    Decidable (manager.LaunchSucceeds content config launch record) := by
  delta LaunchSucceeds
  rcases launch.spawn with _ | _ <;> infer_instance

section

variable (reliable : Reliable limits store content) (inv : StoreInvariant limits (content manager.backend))
include reliable inv

theorem startSpawned_leases (found : (content manager.backend).jobs.find? id = some current)
    (starting : current.state = .starting)
    (revision : current.revision ≠ max64) (below : (content manager.backend).revision ≠ max64)
    (valid : (runningRecord identity (jobDirectory config id) launch.startClock 0 current).record.ExecutionValid)
    (registered : (manager.monitor.registerProcess identity launch.registering).1 = .registered)
    (attached : launch.attached = true) :
    (content (manager.startSpawned config store launch id uuid identity).backend).leases =
      (content manager.backend).leases := by
  have accepted := runningMutation_accepted inv found starting revision below valid
  obtain ⟨ok, tables⟩ := rewriteJob_accepted reliable inv found accepted
  unfold startSpawned
  simp only [ok, registerProcess, registered, ne_eq, not_true_eq_false, if_false, attached, Bool.not_true,
    Bool.false_eq_true]
  have leases := congrArg StoreState.leases tables
  exact leases

/-- A launch without failures keeps the lease its job has been given. -/
theorem launchScheduled_leases {before : JobManager σ}
    (tables : content manager.backend = started (content before.backend) record uuid)
    (monitor : manager.monitor = before.monitor)
    (succeeds : before.LaunchSucceeds content config launch record) :
    (content (manager.launchScheduled config store launch record.id uuid).backend).leases =
      (content manager.backend).leases := by
  unfold LaunchSucceeds at succeeds
  split at succeeds
  · exact succeeds.elim
  · rename_i spawned
    obtain ⟨prepared, registered, attached, valid, below⟩ := succeeds
    have reads := reliable.load_content manager.backend
    have found : (content manager.backend).jobs.find? record.id =
        some { record with state := .starting, revision := 1 } := by
      rw [tables]
      exact find?_insert_self ..
    have stored := (inv.findStored_eq record.id).trans found
    have belowHere : (content manager.backend).revision ≠ max64 := by
      rw [tables]
      exact below
    unfold launchScheduled
    rw [reliable.load_eq manager.backend]
    simp only [stored, ne_eq, not_true_eq_false, if_false, prepared, spawned]
    rw [← reads] at inv found belowHere
    have first : (1 : UInt64) ≠ max64 := by decide
    rw [startSpawned_leases reliable inv found rfl first belowHere valid (monitor ▸ registered) attached]
    exact congrArg StoreState.leases reads

end

end JobManager

end Yori
