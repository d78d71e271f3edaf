import Yori.Library.Guarded
import Yori.Recovery.Recovered
import Yori.Runtime.Adoption

namespace Yori.JobManager
open MutationCore JobRecovery

variable {σ : Type} {store : StateStore σ} {limits : ValidationConfig} {content : σ → StoreState}
  {config : JobManagerConfig} {id : JobId} {manager : JobManager σ}

/-- What holds of the store in every state of the worker. -/
structure Grounded (limits : ValidationConfig) (content : σ → StoreState) (manager : JobManager σ) : Prop where
  stored : StoreInvariant limits (content manager.backend)
  busy : SupervisedBusy content manager

theorem Grounded.of_unsupervised (stored : StoreInvariant limits (content manager.backend))
    (unsupervised : manager.supervised = .empty) : Grounded limits content manager := by
  refine ⟨stored, ?_⟩
  intro _ _ found
  simp [unsupervised] at found

section Frames

theorem post_frame (config : JobManagerConfig) (request : ClientRequest) (manager : JobManager σ) :
    manager.post config request = { manager with commands := (manager.post config request).commands } := by
  unfold post
  split <;> rfl

theorem pumpFinished_frame (id : JobId) (manager : JobManager σ) :
    manager.pumpFinished id = { manager with pump := (manager.pumpFinished id).pump } := by
  unfold pumpFinished
  split <;> rfl

end Frames

section Steps

variable (faithful : Faithful limits store content)
include faithful

theorem step_moves (config : JobManagerConfig) (step : Step) (grounded : Grounded limits content manager) :
    Moves limits content (¬StepCompensates store manager step) (manager.Submits step) manager
      (manager.step config store step) := by
  have inv := grounded.stored
  have took := step_took config store manager step
  generalize manager.step config store step = next at took ⊢
  cases took with
  | aside | posted | reaped | stopped => exact .of_same rfl rfl
  | submitted input spec rest next =>
    have compensates : StepCompensates store manager (.command input) = manager.Compensates store spec := by
      simp only [StepCompensates, next]
    rw [compensates]
    exact .submitted spec ⟨input, rest, rfl, next⟩
      (processSubmit_submits faithful spec { manager with commands := rest })
  | cancelled input id rest =>
    exact @processCancel_moves _ _ _ _ { manager with commands := rest } _ _ faithful input.cancel id inv
  | woken input trigger rest =>
    exact @scheduleNow_moves _ _ _ _ { manager with commands := rest } _ _ faithful config input.schedule trigger inv
  | observed input =>
    exact @scheduleNow_moves _ _ _ _ { manager with gpu := manager.gpu.drainEvents.2 } _ _ faithful config input
      .gpuStateChanged inv
  | exited input event rest =>
    exact @processExit_moves _ _ _ _ { manager with monitor := { manager.monitor with events := rest } } _ _ faithful
      config input event inv grounded.busy
  | pumped =>
    unfold processPumpDone
    split
    · exact .of_same rfl rfl
    · split <;> exact .of_same rfl rfl
  | escalated =>
    unfold runEscalation
    split
    · exact .of_same rfl rfl
    · split <;> exact .of_same rfl rfl

theorem scheduleNow_busy {input : ScheduleInput} {trigger : SchedulerTrigger}
    (grounded : Grounded limits content manager) :
    SupervisedBusy content (manager.scheduleNow config store input trigger) := by
  have never := (scheduleNow_moves faithful config input trigger grounded.stored : Moves limits content False
    (fun _ => False) manager _).neverRequeued
  cases scheduleNow_scheduled faithful config input trigger grounded.stored with
  | idle _ _ same => exact grounded.busy.of_within (.of_eq (by rw [same])) never
  | launched _ _ _ _ _ _ _ _ _ _ _ _ _ _ _ _ launched =>
    cases launched with
    | dropped _ _ _ supervised => exact grounded.busy.of_within (.of_eq supervised) never
    | supervised _ _ row _ _ _ _ running state _ supervised =>
      intro id entry atEntry
      rw [supervised] at atEntry
      obtain ⟨here, -⟩ | atEntry := SortedMap.insert_cases atEntry
      · exact ⟨row, here ▸ running, by simp [state]⟩
      · obtain ⟨stored, atStored, left⟩ := grounded.busy id entry atEntry
        exact never id stored atStored left

theorem step_grounded (config : JobManagerConfig) (step : Step) (grounded : Grounded limits content manager) :
    Grounded limits content (manager.step config store step) := by
  have moved := step_moves faithful config step grounded
  refine ⟨moved.invariant grounded.stored, ?_⟩
  have never := moved.neverRequeued
  have took := step_took config store manager step
  generalize manager.step config store step = next at never took ⊢
  cases took with
  | aside | posted | reaped => exact grounded.busy
  | submitted _ spec rest =>
    exact grounded.busy.of_within (.of_eq (processSubmit_supervised spec { manager with commands := rest })) never
  | cancelled input id rest =>
    refine grounded.busy.of_within ?_ never
    obtain ⟨_, _, _, _, same, _, begun⟩ :=
      @processCancel_cases _ _ _ _ { manager with commands := rest } faithful input.cancel id grounded.stored
    rw [same]
    exact begun.within
  | woken input trigger =>
    exact scheduleNow_busy faithful ⟨grounded.stored, grounded.busy⟩
  | observed input => exact scheduleNow_busy faithful ⟨grounded.stored, grounded.busy⟩
  | exited input event => exact grounded.busy.of_within (processExit_within input event _) never
  | pumped =>
    refine grounded.busy.of_within ?_ never
    unfold processPumpDone
    split
    · exact .of_eq rfl
    · rename_i found
      split
      · exact .of_erase rfl
      · exact .of_insert found rfl
  | escalated =>
    refine grounded.busy.of_within ?_ never
    unfold runEscalation
    split
    · exact .of_eq rfl
    · rename_i found
      split
      · exact .of_insert found rfl
      · exact .of_eq rfl
  | stopped =>
    intro _ _ found
    simp [stop, stopMonitor, abandonSupervised, emit] at found

theorem step_agrees (config : JobManagerConfig) (step : Step) (grounded : Grounded limits content manager)
    (agrees : QueueAgrees manager.queue (content manager.backend))
    (compensates : StepCompensates store manager step) :
    let after := manager.step config store step
    QueueAgrees after.queue (content after.backend) := by
  exact (step_moves faithful config step grounded).agrees (not_not.mpr compensates) grounded.stored agrees

end Steps

section Start

theorem destroyWorker_frame (between : JobId → List ReaperAction) (manager : JobManager σ) :
    (manager.destroyWorker between).backend = manager.backend ∧
      (manager.destroyWorker between).front = manager.front ∧
      (manager.destroyWorker between).supervised = .empty ∧ (manager.destroyWorker between).byPid = .empty := by
  have signals : ∀ (entries : List (JobId × SupervisedJob)) (start : JobManager σ),
      let after := entries.foldl (fun manager entry => manager.sendSignals entry.2.destroy (between entry.1)) start
      after.backend = start.backend ∧ after.front = start.front ∧ after.supervised = start.supervised ∧
        after.byPid = start.byPid := by
    intro entries
    induction entries with
    | nil => exact fun _ => ⟨rfl, rfl, rfl, rfl⟩
    | cons entry _ ih => exact fun start => ih (start.sendSignals entry.2.destroy (between entry.1))
  exact signals manager.supervised.entries { manager with supervised := .empty, byPid := .empty }

/-- What holds of a new manager, of one without entries and after the adoptions
holds after a start, however it ends. -/
theorem start_rule {P : JobManager σ → Prop} {input : StartInput} {recovery : Option RecoveryResult} (new : P manager)
    (armed : P (manager.armedManager config store input recovery))
    (emptied : ∀ other : JobManager σ, other.supervised = .empty → other.byPid = .empty → P other)
    (ready : ∀ other : JobManager σ, P other → P ({ other with running := true }.postWake config .recoveryCompleted)) :
    P (manager.start config store input recovery).2 := by
  cases start_started config store input recovery manager with
  | refused _ same =>
    rw [same]
    exact new
  | rejected _ _ same =>
    obtain ⟨_, _, supervised, byPid⟩ := destroyWorker_frame input.destroying
      (manager.armedManager config store input recovery)
    rw [same]
    exact emptied _ supervised byPid
  | running _ _ same =>
    rw [same]
    exact ready _ armed

variable (faithful : Faithful limits store content)
include faithful

theorem armRecovery_keeps (config : JobManagerConfig) (input : JobId → AdoptionInput)
    (outcomes : List RecoveryJobOutcome) (grounded : Grounded limits content manager) :
    let armed := manager.armRecovery config store input outcomes
    content armed.backend = content manager.backend ∧ armed.front = manager.front ∧ SupervisedBusy content armed := by
  induction outcomes generalizing manager with
  | nil => exact ⟨rfl, rfl, grounded.busy⟩
  | cons outcome _ ih =>
    have armed := armOutcome_armed faithful config (input outcome.jobId) outcome grounded.stored
    have stored : StoreInvariant limits
        (content (manager.armOutcome config store (input outcome.jobId) outcome).backend) := by
      rw [armed.backend]
      exact grounded.stored
    obtain ⟨sameContent, sameFront, busy⟩ := ih ⟨stored, armed.busy grounded.stored grounded.busy⟩
    exact ⟨sameContent.trans armed.backend, sameFront.trans armed.front, busy⟩

/-- Whether it succeeds or not, a start changes neither the queue nor the
store. -/
theorem start_keeps (config : JobManagerConfig) (input : StartInput) (recovery : Option RecoveryResult)
    (grounded : Grounded limits content manager) :
    let after := (manager.start config store input recovery).2
    content after.backend = content manager.backend ∧ after.queue = manager.queue ∧ SupervisedBusy content after := by
  obtain ⟨sameContent, sameFront, busy⟩ :
      content (manager.armedManager config store input recovery).backend = content manager.backend ∧
      (manager.armedManager config store input recovery).front = manager.front ∧
      SupervisedBusy content (manager.armedManager config store input recovery) :=
    armRecovery_keeps faithful config input.adoption (recoveredOutcomes recovery) ⟨grounded.stored, grounded.busy⟩
  have sameQueue := congrArg Front.queue sameFront
  intro after
  cases start_started config store input recovery manager with
  | refused _ same =>
    rw [show after = manager from same]
    exact ⟨rfl, rfl, grounded.busy⟩
  | rejected _ _ same =>
    obtain ⟨backend, frame, supervised, _⟩ := destroyWorker_frame input.destroying
      (manager.armedManager config store input recovery)
    rw [show after = _ from same]
    refine ⟨(congrArg content backend).trans sameContent, (congrArg Front.queue frame).trans sameQueue, ?_⟩
    intro id job found
    change ((manager.armedManager config store input recovery).destroyWorker input.destroying).supervised.find? id =
      some job at found
    rw [supervised] at found
    simp at found
  | running _ _ same =>
    rw [show after = _ from same]
    exact ⟨sameContent, sameQueue, busy⟩

theorem start_grounded (config : JobManagerConfig) (input : StartInput) (recovery : Option RecoveryResult)
    (grounded : Grounded limits content manager) :
    Grounded limits content (manager.start config store input recovery).2 := by
  obtain ⟨sameContent, _, busy⟩ := start_keeps faithful config input recovery grounded
  refine ⟨?_, busy⟩
  rw [sameContent]
  exact grounded.stored

theorem start_agrees (config : JobManagerConfig) (input : StartInput) (recovery : Option RecoveryResult)
    (grounded : Grounded limits content manager) (agrees : QueueAgrees manager.queue (content manager.backend)) :
    let after := (manager.start config store input recovery).2
    QueueAgrees after.queue (content after.backend) := by
  obtain ⟨sameContent, sameQueue, _⟩ := start_keeps faithful config input recovery grounded
  intro _
  rw [sameContent, sameQueue]
  exact agrees

end Start

/-- In every state of a worker that was started after a successful recovery the
queue holds exactly the stored queued jobs, in the order of service. Writes and
reads may fail at any time; only the write that takes a refused submission back
has to be accepted. -/
theorem run_queue_agrees {σ : Type} {limits : ValidationConfig} {store : StateStore σ} {content : σ → StoreState}
    (faithful : Faithful limits store content) (config : JobManagerConfig) (verifier : IdentityVerifier)
    (now : TimePoint) (queue : GlobalJobQueue) (backend : σ) (inv : StoreInvariant limits (content backend))
    (recovered : (JobRecovery.recover store verifier now queue backend).1.code = none) (manager : JobManager σ)
    (unsupervised : manager.supervised = .empty) (input : StartInput) (steps : List Step) :
    let recovery := JobRecovery.recover store verifier now queue backend
    let started := ({ manager with backend := recovery.2.2, queue := recovery.2.1 }.start config store input
      (some recovery.1)).2
    Guarded.Along (step config store) (StepCompensates store) started steps →
      let reached := started.run config store steps
      reached.queue.entries = sortedQueued (content reached.backend).snapshot.jobs ∧
        reached.queue.entries.Pairwise (fun earlier later => entryLess earlier later = true) := by
  intro recovery _ compensated reached
  obtain ⟨stored, agrees⟩ := JobRecovery.recover_agrees faithful inv recovered
  have grounded : Grounded limits content { manager with backend := recovery.2.2, queue := recovery.2.1 } :=
    .of_unsupervised stored unsupervised
  have kept : Grounded limits content reached ∧ QueueAgrees reached.queue (content reached.backend) := by
    refine Guarded.foldl_invariant (fun manager => Grounded limits content manager ∧
      QueueAgrees manager.queue (content manager.backend)) ?_ compensated
      ⟨start_grounded faithful config input (some recovery.1) grounded,
        start_agrees faithful config input (some recovery.1) grounded agrees⟩
    intro _ step compensates ⟨grounded, agrees⟩
    exact ⟨step_grounded faithful config step grounded,
      step_agrees faithful config step grounded agrees compensates⟩
  refine ⟨kept.2, reached.queue.sorted.imp ?_⟩
  intro earlier later below
  exact (entryLess_iff earlier later).mpr below

/-- A submission that finds the queue full, then a cancellation. -/
def crowdedSteps : List Step :=
  let input : CommandInput := { schedule := { launch := { spawn := .error { code := .forkFailed } } } }
  [.command input, .post (.submit (.minimal 3 {})), .post (.cancel ⟨1⟩), .command input, .command input]

theorem run_queue_agrees_crowded :
    let memory := InMemoryStateStore.store {}
    let recovery := JobRecovery.recover memory (fun _ => .verified) 5 (.empty 2) twoJobs
    let started := (({ backend := recovery.2.2, queue := recovery.2.1 } : JobManager InMemoryStateStore).start {} memory
      {} (some recovery.1)).2
    let reached := started.run {} memory crowdedSteps
    reached.queue.entries = sortedQueued reached.backend.state.snapshot.jobs ∧
      reached.queue.entries.Pairwise (fun earlier later => entryLess earlier later = true) := by
  exact run_queue_agrees (InMemoryStateStore.faithful {}) {} (fun _ => .verified) 5 (.empty 2) twoJobs
    (submitAll_invariant _ _) (by decide) { backend := twoJobs, queue := .empty 2 } rfl {} crowdedSteps (by decide)

end Yori.JobManager
