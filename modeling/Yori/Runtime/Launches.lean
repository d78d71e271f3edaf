import Yori.Runtime.Closing
import Yori.Runtime.GpuVisibility

/-! The processes that a worker starts in a run. -/

namespace Yori.JobManager
open Checked MutationCore SortedMap List

variable {σ : Type} {store : StateStore σ} {limits : ValidationConfig} {content : σ → StoreState}
  {config : JobManagerConfig} {manager before after : JobManager σ} {id : JobId}

/-- The store knows the job, and it has left the queue. -/
def HasLeft (state : StoreState) (id : JobId) : Prop :=
  ∃ record, state.jobs.find? id = some record ∧ record.state ≠ .queued

/-- Between two states of a worker some jobs were launched, each of them once: they had not left the queue before, and
no job that has left it comes back. -/
def Launches (content : σ → StoreState) (before after : JobManager σ) : Prop :=
  (∀ id, HasLeft (content before.backend) id → HasLeft (content after.backend) id) ∧
    ∃ launched, after.spawns = before.spawns ++ launched ∧ (launched.map (·.1)).Nodup ∧
      ∀ id ∈ launched.map (·.1), ¬HasLeft (content before.backend) id ∧ HasLeft (content after.backend) id

/-- A step starts no process, or one on a device that nobody holds, for a job that waits and leaves the queue. -/
def Starts (content : σ → StoreState) (before after : JobManager σ) : Prop :=
  after.spawns = before.spawns ∨ ∃ id assignment identity,
    after.spawns = before.spawns ++ [(id, assignment, identity)] ∧ ¬HasLeft (content before.backend) id ∧
      HasLeft (content after.backend) id ∧ (content before.backend).leases.find? assignment.uuid = none

theorem Begun.spawns {input : CancelInput} (begun : Begun input id before after) : after.spawns = before.spawns := by
  cases begun with
  | ignored same => rw [same]
  | signalled _ _ _ _ _ _ _ same =>
    rw [same, sendSignals_spawns]
    rfl

theorem stop_spawns : manager.stop.spawns = manager.spawns := by
  refine (emit_spawns (by simp [filterMap_map, Effect.spawned?, Function.comp_def])).trans (emit_spawns ?_)
  rw [rejectPending, filterMap_filterMap, filterMap_eq_nil_iff]
  intro command _
  cases command <;> rfl

section Steps

variable (faithful : Faithful limits store content)
include faithful

theorem scheduleNow_starts (input : ScheduleInput) (trigger : SchedulerTrigger)
    (inv : StoreInvariant limits (content manager.backend)) :
    Starts content manager (manager.scheduleNow config store input trigger) := by
  cases scheduleNow_scheduled faithful config input trigger inv with
  | idle _ _ same =>
    rw [same]
    exact .inl rfl
  | launched _ record device _ _ backend evaluation _ _ _ found queued _ _ run tables launched same =>
    let decided := { manager with queue := (manager.queue.remove record.id).2, backend, evaluation }
    have spawns := @launchScheduled_spawns _ config store input.launch record.id device.uuid decided
    rw [same]
    generalize (decided.startingRecord store record.id).any _ = ready at spawns
    unfold startedProcess at spawns
    split at spawns
    · refine .inr ⟨_, _, _, spawns, ?_, ?_, ?_⟩
      · rintro ⟨_, atRow, left⟩
        cases found.symm.trans atRow
        exact left queued
      · refine same ▸ launched.rewrites.neverRequeued record.id { record with state := .starting, revision := 1 } ?_
          (by simp)
        rw [show content decided.backend = _ from tables, started, find?_insert_self]
      · obtain ⟨_, _, _, _, _, _, _, _, atReleased, atLeases, _⟩ := applyMutation_eq_ok.mp run
        cases atReleased
        obtain ⟨_, turn, _⟩ := bind_eq_ok.mp atLeases
        exact (acquireLease_eq_ok.mp turn).2.1
    · exact .inl (spawns.trans (append_nil _))

/-- Only a turn of the scheduler starts a process. -/
theorem step_starts (step : Step) (inv : StoreInvariant limits (content manager.backend)) :
    Starts content manager (manager.step config store step) := by
  have took := step_took config store manager step
  generalize manager.step config store step = next at took ⊢
  cases took with
  | aside | posted => exact .inl rfl
  | submitted _ spec rest =>
    obtain ⟨_, _, _, frame⟩ := processSubmit_frame store spec { manager with commands := rest }
    exact .inl (by rw [frame]; exact emit_spawns rfl)
  | cancelled input id rest =>
    obtain ⟨_, _, _, _, same, _, begun⟩ :=
      @processCancel_cases _ _ _ _ { manager with commands := rest } faithful input.cancel id inv
    exact .inl (by rw [same]; exact (emit_spawns rfl).trans begun.spawns)
  | woken _ _ rest => exact @scheduleNow_starts _ _ _ _ _ { manager with commands := rest } faithful _ _ inv
  | observed => exact @scheduleNow_starts _ _ _ _ _ { manager with gpu := manager.gpu.drainEvents.2 } faithful _ _ inv
  | exited | pumped | escalated =>
    simp only [processExit, processPumpDone, runEscalation]
    repeat' split
    all_goals first
      | exact .inl rfl
      | exact .inl ((sendSignals_spawns ..).trans (emit_spawns rfl))
      | exact .inl (sendSignals_spawns ..)
  | reaped => exact .inl (watch_spawns ..)
  | stopped => exact .inl stop_spawns

end Steps

/-- No job is launched twice, whatever fails in a run. -/
theorem launched_once (faithful : Faithful limits store content) (config : JobManagerConfig)
    (grounded : Grounded limits content manager) (steps : List Step) :
    Launches content manager (manager.run config store steps) := by
  refine (foldlRecOn steps _
    (motive := fun reached => Grounded limits content reached ∧ Launches content manager reached)
    ⟨grounded, fun _ => id, [], by simp⟩ ?_).2
  rintro reached ⟨grounded, early, launched, spawns, once, kept⟩ step _
  have never : ∀ id, HasLeft (content reached.backend) id →
      HasLeft (content (reached.step config store step).backend) id := by
    rintro id ⟨record, found, left⟩
    exact (step_moves faithful config step grounded).neverRequeued id record found left
  have still := fun id member => (kept id member).imp_right (never id)
  refine ⟨step_grounded faithful config step grounded, fun id left => never id (early id left), ?_⟩
  rcases step_starts faithful step grounded.stored with same | ⟨id, assignment, identity, more, waited, left, _⟩
  · exact ⟨launched, same.trans spawns, once, still⟩
  · refine ⟨launched ++ [(id, assignment, identity)], by rw [more, spawns, append_assoc], ?_, ?_⟩
    · rw [map_append]
      refine once.append (nodup_singleton _) fun _ member here => ?_
      cases mem_singleton.mp here
      exact waited (kept id member).2
    · simp only [map_append, forall_mem_append, map_cons, map_nil, forall_mem_singleton]
      exact ⟨still, fun old => waited (early id old), left⟩

theorem launched_once_two_jobs :
    let reached := twoQueuedStarted.run {} (InMemoryStateStore.store {}) reusedPidSteps
    reached.spawns.map (·.1) = [⟨1⟩, ⟨2⟩] ∧ Launches InMemoryStateStore.state twoQueuedStarted reached :=
  ⟨by decide, launched_once (InMemoryStateStore.faithful {}) {} twoQueuedStarted_grounded reusedPidSteps⟩

/-- No two supervised jobs that are not marked as exited have one device. -/
def DevicesApart (manager : JobManager σ) : Prop :=
  ∀ id other job rival, manager.supervised.find? id = some job → manager.supervised.find? other = some rival →
    job.exited = false → rival.exited = false → job.leasedGpu = rival.leasedGpu → id = other

/-- Supervised jobs that are not marked as exited never share a device, and no process is started on the device
of one. -/
theorem devices_exclusive (faithful : Faithful limits store content) (config : JobManagerConfig)
    (recovery : Option RecoveryResult) (boots : Boots limits store content manager recovery) (input : StartInput)
    (steps : List Step) (step : Step) :
    let reached := (manager.start config store input recovery).2.run config store steps
    reached.DevicesApart ∧ ∀ id assignment identity,
      (reached.step config store step).spawns = reached.spawns ++ [(id, assignment, identity)] →
        ∀ other job, reached.supervised.find? other = some job → job.exited = false →
          job.leasedGpu ≠ assignment.uuid := by
  intro reached
  obtain ⟨unsupervised, stored, _, fits⟩ := boots.ready faithful
  obtain ⟨grounded, aligned⟩ : Grounded limits content reached ∧ Aligned content reached := by
    refine foldlRecOn steps _ (motive := fun manager => Grounded limits content manager ∧ Aligned content manager)
      ⟨start_grounded faithful config input recovery (.of_unsupervised stored unsupervised),
        start_aligned faithful stored fits unsupervised⟩ ?_
    rintro _ ⟨grounded, aligned⟩ step _
    exact ⟨step_grounded faithful config step grounded, step_aligned faithful config step grounded.stored aligned⟩
  constructor
  · intro id other job rival found atRival alive awake same
    have held := (aligned id job found alive).lease
    rw [same, (aligned other rival atRival awake).lease] at held
    cases held
    rfl
  · intro id assignment identity more other job found alive same
    rcases step_starts faithful step grounded.stored with idle | ⟨_, _, _, one, _, _, free⟩
    · exact absurd (idle.symm.trans more) (by simp)
    · cases append_cancel_left (one.symm.trans more)
      rw [← same, (aligned other job found alive).lease] at free
      cases free

theorem devices_exclusive_adopted :
    (cancelledAdopted.supervised.find? ⟨1⟩).isSome = true ∧ cancelledAdopted.DevicesApart :=
  ⟨by decide, (devices_exclusive (InMemoryStateStore.plainStore_reliable {}).toFaithful {} _
    (.recovered _ (fun _ => .verified) 30 (.empty 8) JobRecovery.crashed crashedManager rfl rfl) _ _ .stop).1⟩

end Yori.JobManager
