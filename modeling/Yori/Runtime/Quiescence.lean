import Yori.Runtime.Attribution
import Yori.Runtime.LaunchSuccess
import Yori.Scheduler.CanSchedule

namespace Yori.JobManager
open Checked MutationCore InMemoryStateStore SortedMap JobRecovery

variable {σ : Type} {store : StateStore σ} {limits : ValidationConfig} {content : σ → StoreState}
  {config : JobManagerConfig} {id : JobId} {snapshot : GpuObservationSnapshot} {manager before after : JobManager σ}
  {trigger : SchedulerTrigger} {input : ScheduleInput}

/-- The worker is about to wait: it has handled all there is. -/
structure Quiescent (manager : JobManager σ) : Prop where
  running : manager.running = true
  commands : manager.commands = []
  exits : manager.monitor.events = []
  gpuEvents : manager.gpu.events = []

/-- The scheduler would start nothing on the latest observation. -/
def NothingToStart (store : StateStore σ) (config : JobManagerConfig) (manager : JobManager σ) : Prop :=
  ∀ trigger latest, manager.gpu.tryGetSnapshot = some latest →
    (runOnce store ⟨config.schedulerScanWindow⟩ trigger latest manager.queue manager.backend).result.code ≠ .scheduled

section Conditions

/-- Any two of the first jobs in the queue that could be started now compete for
one device, and the launch of either succeeds. One entry beyond the window is
looked at, which moves up when a job is started. -/
def StartsAtMostOne (content : σ → StoreState) (config : JobManagerConfig) (launch : LaunchInput)
    (manager : JobManager σ) : Prop :=
  ∀ snapshot ∈ manager.gpu.tryGetSnapshot,
    let state := content manager.backend
    let view := manager.queue.entries.take (config.schedulerScanWindow.toNat + 1)
    ∀ first ∈ view, ∀ second ∈ view, first.jobId ≠ second.jobId →
      ∀ record ∈ state.jobs.find? first.jobId, ∀ rival ∈ state.jobs.find? second.jobId,
        ∀ device ∈ snapshot.devices, ∀ other ∈ snapshot.devices,
          Fits snapshot state.snapshot record.spec.gpuPlacement device →
            Fits snapshot state.snapshot rival.spec.gpuPlacement other →
              device = other ∧ manager.LaunchSucceeds content config launch record

/-- The executor runs the scheduler, and the observation of the devices
succeeds. -/
def StepHealthy : Step → Prop
  | .command input => input.schedule.readable = true ∧ input.schedule.completed = true
  | .gpuEvents input => input.readable = true ∧ input.completed = true
  | .sample input =>
    match input.observed with
    | .error _ => False
    | .ok snapshot => snapshot.Valid ∧ input.published = true ∧ input.reloaded = true
  | _ => True

/-- A run of the scheduler that no other will follow has at most one job to
start, and the channel takes the change a sample announces. -/
def StepSettles (content : σ → StoreState) (config : JobManagerConfig) (manager : JobManager σ) : Step → Prop
  | .command input =>
    match manager.commands with
    | [.wake _] => manager.gpu.announcing = true ∨ manager.StartsAtMostOne content config input.schedule.launch
    | _ => True
  | .gpuEvents input => manager.commands ≠ [] ∨ manager.gpu.announcing = false ∨
    manager.StartsAtMostOne content config input.launch
  | .sample _ => manager.gpu.events.length < manager.gpu.eventCapacity
  | _ => True

instance decidableStepHealthy (step : Step) : Decidable (StepHealthy step) := by
  delta StepHealthy
  rcases step with _ | _ | _ | _ | _ | _ | _ | _ | _ | _ | _
  case sample input =>
    dsimp only
    rcases input.observed with _ | _ <;> infer_instance
  all_goals infer_instance

instance decidableStartsAtMostOne (content : σ → StoreState) (config : JobManagerConfig) (launch : LaunchInput)
    (manager : JobManager σ) : Decidable (manager.StartsAtMostOne content config launch) := by
  delta StartsAtMostOne
  letI implies (p q : Prop) [Decidable p] [Decidable q] : Decidable (p → q) := inferInstance
  infer_instance

instance decidableStepSettles (content : σ → StoreState) (config : JobManagerConfig) (manager : JobManager σ)
    (step : Step) : Decidable (manager.StepSettles content config step) := by
  delta StepSettles
  rcases step with _ | _ | _ | _ | _ | _ | _ | _ | _ | _ | _
  · rcases manager.commands with _ | ⟨_ | _ | _, _ | _⟩ <;> infer_instance
  all_goals infer_instance

end Conditions

/-- After a launch that follows the condition no other job can be started. -/
theorem launched_cannotSchedule {record : StoredJob} {device : GpuObservation} {reason : GpuSelectionReason}
    {skips : List ScheduleSkip} {launch : LaunchInput} {backend : σ} {evaluation : Option ScheduleEvaluation}
    (reliable : Reliable limits store content) (inv : StoreInvariant limits (content manager.backend))
    (agrees : QueueAgrees manager.queue (content manager.backend)) (valid : snapshot.Valid)
    (latest : manager.gpu.tryGetSnapshot = some snapshot)
    (selected : evaluate ⟨config.schedulerScanWindow⟩ snapshot manager.queue (content manager.backend).snapshot =
      .selected record device reason skips)
    (run : applyMutation limits (content manager.backend)
      (startMutation (content manager.backend).snapshot record device.uuid) = .ok (content backend))
    (tables : content backend = started (content manager.backend) record device.uuid)
    (settles : manager.StartsAtMostOne content config launch) :
    let decided := { manager with queue := (manager.queue.remove record.id).2, backend, evaluation }
    let next := decided.launchScheduled config store launch record.id device.uuid
    ¬CanSchedule limits ⟨config.schedulerScanWindow⟩ snapshot next.queue (content next.backend) := by
  intro decided next ⟨_, _, entry, member, row, atRow, satisfiable⟩
  have invStarted : StoreInvariant limits (content backend) := inv.step run
  obtain ⟨_, choice, _⟩ := evaluate_selected valid agrees inv selected
  have launched : Launched limits content launch record.id decided next :=
    launchScheduled_launched reliable.toFaithful config launch record.id device.uuid decided invStarted
  have only := launched.rewrites.onlyJob invStarted
  -- the entry was in view before, and its job has not been touched
  have sameQueue : next.queue = (manager.queue.remove record.id).2 := congrArg Front.queue launched.front
  rw [windowEntries, sameQueue] at member
  have different : entry.jobId ≠ record.id := by
    have left := List.mem_of_mem_take member
    rw [GlobalJobQueue.remove_entries, List.mem_filter] at left
    simpa using left.2
  have erased : (manager.queue.remove record.id).2.entries = manager.queue.entries.erase (.ofRecord record) :=
    (GlobalJobQueue.remove_present choice.mem_queue).2.2
  rw [erased] at member
  have inView := Search.mem_take_of_mem_take_erase member
  have atState : (content manager.backend).jobs.find? entry.jobId = some row := by
    rw [only.rows _ different, tables] at atRow
    rwa [started, find?_insert_of_ne _ _ different] at atRow
  -- a device that is usable now was usable before
  obtain ⟨rival, fits⟩ := satisfiable_iff_fits.mp satisfiable
  have usable : Usable snapshot (content manager.backend).snapshot rival := by
    refine ⟨fits.usable.observed, fits.usable.free, ?_⟩
    intro lease atLease same
    obtain ⟨key, held⟩ := mem_values.mp atLease
    have ownKey := inv.leaseKeys key lease held
    have unowned := inv.queued_leaseCount choice.found choice.queued
    have elsewhere : key ≠ device.uuid := by
      rw [← ownKey]
      exact choice.usable.unleased lease atLease
    have kept : (content backend).leases.find? key = some lease := by
      rw [tables, started, find?_insert_of_ne _ _ elsewhere, held]
    have still := (only.leases key lease (leaseCount_eq_zero.mp unowned lease atLease)).mpr kept
    exact fits.usable.unleased lease (mem_values.mpr ⟨key, still⟩) same
  obtain ⟨_, inWindow⟩ := choice.inWindow
  have ownView : QueueEntry.ofRecord record ∈ manager.queue.entries.take (config.schedulerScanWindow.toNat + 1) := by
    have inside : QueueEntry.ofRecord record ∈ windowEntries ⟨config.schedulerScanWindow⟩ manager.queue :=
      inWindow ▸ by simp
    exact List.take_subset_take_left _ (Nat.le_succ _) inside
  obtain ⟨sameDevice, succeeds⟩ := settles snapshot latest (.ofRecord record) ownView entry inView (Ne.symm different)
    record choice.found row atState device choice.usable.observed rival usable.observed
    (fits_of_choice choice.usable choice.choice) ⟨usable, fits.named⟩
  -- the one device they compete for is leased
  have leases : (content next.backend).leases = (content backend).leases :=
    launchScheduled_leases reliable invStarted tables rfl succeeds
  have taken : (content next.backend).leases.find? device.uuid = some ⟨device.uuid, record.id⟩ := by
    rw [leases, tables]
    exact find?_insert_self ..
  exact fits.usable.unleased _ (mem_values.mpr ⟨_, taken⟩) (congrArg GpuObservation.uuid sameDevice)

section Frames

/-- What a handler of the worker may change besides the tables: everything but
the observing side and the gate. -/
def scene (manager : JobManager σ) : GpuManager × Bool := (manager.gpu, manager.gateOpen)

theorem scene_of_front (same : after.front = before.front) : after.scene = before.scene :=
  Prod.ext (congrArg Front.gpu same) (congrArg Front.gateOpen same)

theorem processCancel_scene (faithful : Faithful limits store content) {input : CancelInput}
    (inv : StoreInvariant limits (content manager.backend)) :
    (manager.processCancel store input id).scene = manager.scene := by
  obtain ⟨backend, queue, _, middle, same, _, begun⟩ := processCancel_cases faithful input id inv
  rw [same]
  exact (scene_of_front begun.front : middle.scene = scene { manager with backend, queue })

theorem postWake_commands (capacity : 0 < config.commandCapacity) :
    (manager.postWake config trigger).commands ≠ [] := by
  unfold postWake
  simp only
  split
  · simp
  · rename_i full
    intro empty
    simp [empty] at full
    omega

end Frames

section Alert

/-- The gate is open, the devices are observed, and either a trigger is pending
or there is nothing to start. -/
structure Alert (limits : ValidationConfig) (content : σ → StoreState) (config : JobManagerConfig)
    (snapshot : GpuObservationSnapshot) (manager : JobManager σ) : Prop where
  gate : manager.gateOpen = true
  observes : manager.gpu.Observes snapshot
  triggered : manager.commands ≠ [] ∨ manager.gpu.announcing = true ∨
    ¬CanSchedule limits ⟨config.schedulerScanWindow⟩ snapshot manager.queue (content manager.backend)

theorem Alert.of_front (alert : Alert limits content config snapshot before) (same : after.front = before.front)
    (sameContent : content after.backend = content before.backend) : Alert limits content config snapshot after := by
  obtain ⟨gate, observes, _⟩ := alert
  refine ⟨(congrArg Front.gateOpen same).trans gate, ?_, ?_⟩
  · rw [show after.gpu = before.gpu from congrArg Front.gpu same]
    exact observes
  · rwa [show after.commands = before.commands from congrArg Front.commands same,
      show after.gpu = before.gpu from congrArg Front.gpu same,
      show after.queue = before.queue from congrArg Front.queue same, sameContent]

/-- A command that waits is a trigger. -/
theorem Alert.of_posted (alert : Alert limits content config snapshot before) (same : after.scene = before.scene)
    (posted : after.commands ≠ []) : Alert limits content config snapshot after := by
  refine ⟨(congrArg Prod.snd same).trans alert.gate, ?_, .inl posted⟩
  rw [show after.gpu = before.gpu from congrArg Prod.fst same]
  exact alert.observes

variable (reliable : Reliable limits store content)
include reliable

theorem scheduleNow_alert (inv : StoreInvariant limits (content manager.backend))
    (agrees : QueueAgrees manager.queue (content manager.backend)) (gate : manager.gateOpen = true)
    (observes : manager.gpu.Observes snapshot) (readable : input.readable = true) (completed : input.completed = true)
    (settles : manager.commands ≠ [] ∨ manager.gpu.announcing = true ∨
      manager.StartsAtMostOne content config input.launch) :
    Alert limits content config snapshot (manager.scheduleNow config store input trigger) := by
  have latest := observes.tryGetSnapshot
  cases scheduleNow_scheduled reliable.toFaithful config input trigger inv with
  | idle backend _ same unchanged ran =>
    have nothing :
        ¬CanSchedule limits ⟨config.schedulerScanWindow⟩ snapshot manager.queue (content manager.backend) := by
      rw [← runOnce_scheduled_iff reliable observes.valid inv agrees]
      exact ran gate readable completed snapshot latest
    rw [same]
    refine ⟨gate, observes, .inr (.inr ?_)⟩
    rwa [unchanged]
  | launched _ _ _ _ _ _ _ _ atOther valid _ _ _ selected run tables launched same =>
    cases latest.symm.trans atOther
    rw [same] at launched ⊢
    generalize ran : launchScheduled .. = next at launched ⊢
    have sameGpu : next.gpu = manager.gpu := congrArg Front.gpu launched.front
    have sameCommands : next.commands = manager.commands := congrArg Front.commands launched.front
    have triggered : next.commands ≠ [] ∨ next.gpu.announcing = true ∨
        ¬CanSchedule limits ⟨config.schedulerScanWindow⟩ snapshot next.queue (content next.backend) := by
      rw [sameGpu, sameCommands]
      refine settles.imp_right (Or.imp_right ?_)
      exact ran ▸ launched_cannotSchedule reliable inv agrees valid latest selected run tables
    have observing : next.gpu.Observes snapshot := by
      rw [sameGpu]
      exact observes
    exact ⟨(congrArg Front.gateOpen launched.front).trans gate, observing, triggered⟩

end Alert

section Steps

variable (alert : Alert limits content config snapshot manager)
include alert

theorem handleExit_alert (capacity : 0 < config.commandCapacity) {input : ExitInput} :
    Alert limits content config snapshot (manager.handleExit config store input) := by
  unfold handleExit
  split
  · exact alert
  · unfold processExit
    split
    · exact alert.of_front rfl rfl
    · split
      · exact alert.of_front rfl rfl
      · simp only
        refine alert.of_posted ?_ (postWake_commands capacity)
        split <;> rfl

theorem sample_alert {input : GpuManager.SampleInput} (healthy : StepHealthy (.sample input))
    (room : manager.gpu.events.length < manager.gpu.eventCapacity) :
    ∃ next, Alert limits content config next { manager with gpu := manager.gpu.sampleOnce input } := by
  obtain ⟨observed, _⟩ := input
  cases observed with
  | error => exact healthy.elim
  | ok next =>
    obtain ⟨valid, isPublished, isReloaded⟩ := healthy
    cases isPublished
    cases isReloaded
    obtain ⟨observing, announced⟩ := GpuManager.sampleOnce_observes alert.observes valid room
    refine ⟨next, alert.gate, observing, ?_⟩
    rcases announced with announcing | ⟨sameEvents, sameStates⟩
    · exact .inr (.inl announcing)
    · rcases alert.triggered with waiting | announcing | nothing
      · exact .inl waiting
      · right
        left
        rwa [GpuManager.announcing, sameEvents]
      · right
        right
        intro can
        exact nothing (can.of_states valid alert.observes.valid sameStates)

variable (reliable : Reliable limits store content) (capacity : 0 < config.commandCapacity)
  (inv : StoreInvariant limits (content manager.backend))
  (agrees : QueueAgrees manager.queue (content manager.backend))
include reliable capacity inv agrees

theorem handleCommand_alert {input : CommandInput} (healthy : StepHealthy (.command input))
    (settles : manager.StepSettles content config (.command input)) :
    Alert limits content config snapshot (manager.handleCommand config store input) := by
  unfold handleCommand
  split
  · exact alert
  · rename_i spec rest _
    obtain ⟨_, _, _, frame⟩ := processSubmit_frame store spec { manager with commands := rest }
    rw [frame]
    exact alert.of_posted rfl (postWake_commands capacity)
  · rename_i id rest _
    exact alert.of_posted (processCancel_scene reliable.toFaithful inv)
      (postWake_commands capacity)
  · rename_i trigger rest next
    let waiting := { manager with commands := rest }
    have settled : waiting.commands ≠ [] ∨ waiting.gpu.announcing = true ∨
        waiting.StartsAtMostOne content config input.schedule.launch := by
      cases rest with
      | nil =>
        simp only [StepSettles, next] at settles
        exact .inr settles
      | cons => exact .inl (by simp [waiting])
    exact scheduleNow_alert reliable inv agrees alert.gate alert.observes healthy.1
      healthy.2 settled

omit capacity in
theorem handleGpuEvents_alert (healthy : StepHealthy (.gpuEvents input))
    (settles : manager.StepSettles content config (.gpuEvents input)) :
    Alert limits content config snapshot (manager.handleGpuEvents config store input) := by
  let drained := { manager with gpu := manager.gpu.drainEvents.2 }
  have observing : drained.gpu.Observes snapshot :=
    ⟨alert.observes.latest, alert.observes.valid, alert.observes.announced, alert.observes.healthy⟩
  unfold handleGpuEvents
  simp only
  split
  · rename_i announced
    have announcing : manager.gpu.announcing = true := announced
    have settled : drained.commands ≠ [] ∨ drained.gpu.announcing = true ∨
        drained.StartsAtMostOne content config input.launch := by
      rcases settles with waiting | silent | one
      · exact .inl waiting
      · simp [announcing] at silent
      · exact .inr (.inr one)
    exact scheduleNow_alert reliable inv agrees alert.gate observing healthy.1 healthy.2
      settled
  · rename_i unannounced
    have silent : ¬manager.gpu.announcing = true := unannounced
    refine ⟨alert.gate, observing, ?_⟩
    rcases alert.triggered with waiting | announcing | nothing
    · exact .inl waiting
    · exact absurd announcing silent
    · exact .inr (.inr nothing)

/-- A step that meets the conditions leaves a worker that goes on alert. -/
theorem perform_alert {step : Step} (healthy : StepHealthy step) (settles : manager.StepSettles content config step)
    (running : (manager.perform config store step).running = true) :
    ∃ next, Alert limits content config next (manager.perform config store step) := by
  cases step with
  | command input => exact ⟨snapshot, handleCommand_alert alert reliable capacity inv agrees healthy settles⟩
  | exit input => exact ⟨snapshot, handleExit_alert alert capacity⟩
  | pumpDone =>
    refine ⟨snapshot, ?_⟩
    rw [perform, handlePumpDone]
    unfold processPumpDone
    split
    · exact alert
    · split
      · exact alert.of_front rfl rfl
      · split <;> exact alert.of_front rfl rfl
  | gpuEvents input => exact ⟨snapshot, handleGpuEvents_alert alert reliable inv agrees healthy settles⟩
  | post =>
    refine ⟨snapshot, ?_⟩
    rw [perform, post]
    split
    · exact alert.of_posted rfl (by simp)
    · exact alert
  | reaper => exact ⟨snapshot, alert.of_front rfl rfl⟩
  | pumpFinished =>
    rw [perform, pumpFinished_frame]
    exact ⟨snapshot, alert.of_front rfl rfl⟩
  | escalation =>
    refine ⟨snapshot, ?_⟩
    rw [perform, runEscalation]
    split
    · exact alert
    · split
      · exact alert.of_front rfl rfl
      · exact alert
  | sample input => exact sample_alert alert healthy settles
  | openGate => exact ⟨snapshot, rfl, alert.observes, alert.triggered⟩
  | stop => simp [perform, stop, stopMonitor, abandonSupervised, emit] at running

end Steps

section Start

theorem commandCapacity_pos (valid : config.valid.isOk = true) : 0 < config.commandCapacity := by
  cases checked : config.valid with
  | error => simp [checked, Except.isOk, Except.toBool] at valid
  | ok =>
    unfold JobManagerConfig.valid at checked
    obtain ⟨_, checked⟩ := guard_bind_eq_ok.mp checked
    obtain ⟨_, checked⟩ := guard_bind_eq_ok.mp checked
    obtain ⟨_, checked⟩ := guard_bind_eq_ok.mp checked
    obtain ⟨positive, _⟩ := guard_bind_eq_ok.mp checked
    exact Nat.pos_of_ne_zero positive

/-- What a run keeps: a worker that runs is alert. -/
structure Attentive (limits : ValidationConfig) (content : σ → StoreState) (config : JobManagerConfig)
    (manager : JobManager σ) : Prop where
  grounded : Grounded limits content manager
  agrees : QueueAgrees manager.queue (content manager.backend)
  alert : manager.running = true → 0 < config.commandCapacity ∧ ∃ snapshot, Alert limits content config snapshot manager

theorem start_attentive (faithful : Faithful limits store content) {input : StartInput}
    {recovery : Option RecoveryResult} (grounded : Grounded limits content manager)
    (agrees : QueueAgrees manager.queue (content manager.backend)) (fresh : manager.running = false)
    (gate : manager.gateOpen = true) (observes : manager.gpu.Observes snapshot) :
    Attentive limits content config (manager.start config store input recovery).2 := by
  refine ⟨start_grounded faithful config input recovery grounded,
    start_agrees faithful config input recovery grounded agrees, ?_⟩
  obtain ⟨_, front, _⟩ : _ ∧ (manager.armedManager config store input recovery).front = manager.front ∧ _ :=
    armRecovery_keeps faithful config input.adoption (recoveredOutcomes recovery) ⟨grounded.stored, grounded.busy⟩
  cases start_started config store input recovery manager with
  | refused _ same =>
    rw [same, fresh]
    simp
  | rejected _ _ same =>
    have destroyed := (destroyWorker_frame input.destroying (manager.armedManager config store input recovery)).2.1
    have stopped :
        ((manager.armedManager config store input recovery).destroyWorker input.destroying).running = false :=
      (congrArg Front.running (destroyed.trans front)).trans fresh
    intro running
    rw [same] at running
    simp [stopMonitor, stopped] at running
  | running reached _ same =>
    intro _
    have valid : config.valid.isOk = true := by
      simp only [reachesAdoption, Bool.and_eq_true] at reached
      exact reached.1.1.1.1.2
    have capacity := commandCapacity_pos valid
    have sameGpu : (manager.armedManager config store input recovery).gpu = manager.gpu := congrArg Front.gpu front
    have observing : (manager.armedManager config store input recovery).gpu.Observes snapshot := by
      rw [sameGpu]
      exact observes
    rw [same]
    exact ⟨capacity, snapshot, (congrArg Front.gateOpen front).trans gate, observing,
      .inl (postWake_commands capacity)⟩

theorem step_attentive (reliable : Reliable limits store content) {step : Step}
    (attentive : Attentive limits content config manager) (compensates : StepCompensates store manager step)
    (healthy : StepHealthy step) (settles : manager.StepSettles content config step) :
    Attentive limits content config (manager.step config store step) := by
  obtain ⟨grounded, agrees, alert⟩ := attentive
  refine ⟨step_grounded reliable.toFaithful config step grounded,
    step_agrees reliable.toFaithful config step grounded agrees compensates, ?_⟩
  cases running : manager.running with
  | false =>
    rw [step_of_stopped running]
    simp [running]
  | true =>
    obtain ⟨capacity, _, alert⟩ := alert running
    rw [step_of_running running]
    intro still
    exact ⟨capacity, perform_alert alert reliable capacity grounded.stored agrees healthy settles still⟩

end Start

/-- Whenever the worker is about to wait, the scheduler would start nothing on
the latest observation, in every run without failures in which a run of the
scheduler that no other will follow has at most one job to start. -/
theorem no_idle_device {σ : Type} {limits : ValidationConfig} {store : StateStore σ} {content : σ → StoreState}
    (reliable : Reliable limits store content) (config : JobManagerConfig) (verifier : IdentityVerifier)
    (now : TimePoint) (queue : GlobalJobQueue) (backend : σ) (inv : StoreInvariant limits (content backend))
    (recovered : (JobRecovery.recover store verifier now queue backend).1.code = none) (manager : JobManager σ)
    (unsupervised : manager.supervised = .empty) (fresh : manager.running = false) (gate : manager.gateOpen = true)
    (snapshot : GpuObservationSnapshot) (observes : manager.gpu.Observes snapshot) (input : StartInput)
    (steps : List Step) :
    let recovery := JobRecovery.recover store verifier now queue backend
    let started := ({ manager with backend := recovery.2.2, queue := recovery.2.1 }.start config store input
      (some recovery.1)).2
    Guarded.Along (step config store) (fun manager step => StepCompensates store manager step ∧ StepHealthy step ∧
      manager.StepSettles content config step) started steps →
      let reached := started.run config store steps
      reached.Quiescent → reached.NothingToStart store config := by
  intro recovery started settled reached quiescent _ _ atLatest
  obtain ⟨stored, agrees⟩ := JobRecovery.recover_agrees reliable.toFaithful inv recovered
  have grounded : Grounded limits content { manager with backend := recovery.2.2, queue := recovery.2.1 } :=
    .of_unsupervised stored unsupervised
  have initially : Attentive limits content config started :=
    start_attentive reliable.toFaithful grounded agrees fresh gate observes
  have attentive : Attentive limits content config reached := by
    refine Guarded.foldl_invariant (Attentive limits content config) ?_ settled initially
    intro _ step ⟨compensates, healthy, settles⟩ attentive
    exact step_attentive reliable attentive compensates healthy settles
  obtain ⟨_, _, alert⟩ := attentive.alert quiescent.running
  cases alert.observes.tryGetSnapshot.symm.trans atLatest
  rw [ne_eq, runOnce_scheduled_iff reliable alert.observes.valid attentive.grounded.stored attentive.agrees]
  rcases alert.triggered with waiting | announcing | nothing
  · exact absurd quiescent.commands waiting
  · simp [GpuManager.announcing, quiescent.gpuEvents] at announcing
  · exact nothing

/-- Two recovered jobs and two free devices: the one wake-up of the start
launches the first job, and nothing wakes the worker for the second. -/
theorem idle_device :
    let memory := InMemoryStateStore.store {}
    let reached := twoQueuedStarted.run {} memory [.command (launching ⟨100, 100, 7⟩)]
    reached.Quiescent ∧ ¬reached.NothingToStart memory {} := by
  intro _ _
  refine ⟨⟨by decide, by decide, by decide, by decide⟩, ?_⟩
  intro nothing
  exact nothing .gpuStateChanged (.allFree [⟨.ascii "GPU-0"⟩, ⟨.ascii "GPU-1"⟩]) (by decide) (by decide)

/-- The same jobs with one device. -/
def oneDeviceManager : JobManager StoreState where
  backend := submitAll {} [.minimal 1 {}, .minimal 2 {}]
  queue := .empty 8
  gpu := GpuManager.sampleOnce { observed := .ok (.allFree [⟨.ascii "GPU-0"⟩]) } {}
  gateOpen := true

def oneDeviceStarted : JobManager StoreState :=
  let store := plainStore {}
  let recovery := recover store (fun _ => .verified) 5 (.empty 8) oneDeviceManager.backend
  ({ oneDeviceManager with backend := recovery.2.2, queue := recovery.2.1 }.start {} store {} (some recovery.1)).2

/-- The first job leaves the device to the second one. -/
def oneDeviceSteps : List Step :=
  [.command (launching ⟨100, 100, 7⟩), .reaper (.scan 100 (some 7) (.reaped ⟨.exited, 0, 0⟩)), .reaper .send,
    .exit { endClock := fun _ => 30 }, .command (launching ⟨200, 200, 8⟩)]

theorem no_idle_device_one_device :
    let store := InMemoryStateStore.plainStore {}
    let reached := oneDeviceStarted.run {} store oneDeviceSteps
    reached.Quiescent ∧ reached.NothingToStart store {} := by
  have observes : oneDeviceManager.gpu.Observes (.allFree [⟨.ascii "GPU-0"⟩]) :=
    ⟨by decide, by decide, by decide, by decide⟩
  have quiescent : (oneDeviceStarted.run {} (InMemoryStateStore.plainStore {}) oneDeviceSteps).Quiescent :=
    ⟨by decide, by decide, by decide, by decide⟩
  refine ⟨quiescent, ?_⟩
  exact no_idle_device (InMemoryStateStore.plainStore_reliable {}) {} (fun _ => .verified) 5 (.empty 8)
    oneDeviceManager.backend (submitAll_invariant _ _) (by decide) oneDeviceManager rfl rfl rfl _ observes {}
    oneDeviceSteps (by decide) quiescent

end Yori.JobManager
