import Yori.Runtime.QueueAgreement

namespace Yori
open MutationCore InMemoryStateStore

/-- The part of the manager that leads from a process to its job. -/
structure Tracking where
  byPid : SortedMap Int JobId
  monitor : ProcessExitMonitor

/-- No pid is mapped anew, and the monitor carries nothing new. -/
structure Tracking.Within (before after : Tracking) : Prop where
  byPid : ∀ pid id, after.byPid.find? pid = some id → before.byPid.find? pid = some id
  carries : ∀ pid identity, after.monitor.Carries pid identity → before.monitor.Carries pid identity

theorem Tracking.Within.refl (tracking : Tracking) : tracking.Within tracking :=
  ⟨fun _ _ mapped => mapped, fun _ _ carried => carried⟩

theorem Tracking.Within.trans {before middle after : Tracking} (early : before.Within middle)
    (late : middle.Within after) : before.Within after :=
  ⟨fun pid id mapped => early.byPid pid id (late.byPid pid id mapped),
    fun pid identity carried => early.carries pid identity (late.carries pid identity carried)⟩

theorem Tracking.Within.erase (byPid : SortedMap Int JobId) (monitor : ProcessExitMonitor) (pid : Int) :
    (Tracking.mk byPid monitor).Within ⟨byPid.erase pid, monitor⟩ := by
  refine ⟨?_, fun _ _ carried => carried⟩
  intro _ _ mapped
  rw [SortedMap.find?_erase] at mapped
  split at mapped
  · simp at mapped
  · exact mapped

namespace JobManager

variable {σ : Type} {store : StateStore σ} {limits : ValidationConfig} {content : σ → StoreState}
  {config : JobManagerConfig} {id : JobId} {manager before middle after : JobManager σ} {event : ExitEvent}
  {input : ExitInput}

def tracking (manager : JobManager σ) : Tracking := ⟨manager.byPid, manager.monitor⟩

section Within

theorem signalEffects_within (calls : List KillCall) (between : List ReaperAction) (byPid : SortedMap Int JobId)
    (monitor : ProcessExitMonitor) :
    (Tracking.mk byPid monitor).Within ⟨byPid, (signalEffects calls between monitor).2⟩ := by
  refine ⟨fun _ _ mapped => mapped, ?_⟩
  cases calls with
  | nil => exact fun _ _ carried => carried
  | cons => exact fun _ _ => ProcessExitMonitor.runActions_carries between

theorem Begun.tracking {input : CancelInput} (begun : Begun input id before after) :
    before.tracking.Within after.tracking := by
  cases begun with
  | ignored same => exact same ▸ .refl _
  | signalled _ _ _ _ _ _ _ same =>
    rw [same]
    exact signalEffects_within ..

theorem processExit_tracking : manager.tracking.Within (manager.processExit config store input event).tracking := by
  unfold processExit
  split
  · exact .refl _
  · have erased : manager.tracking.Within ⟨manager.byPid.erase event.pid, manager.monitor⟩ := .erase ..
    split
    · exact erased
    · simp only
      split
      · exact erased.trans (signalEffects_within ..)
      · exact erased

end Within

/-- Every pid of the map belongs to a stored job, and all the monitor carries
under it is the process of that job. -/
def Attributed (content : σ → StoreState) (manager : JobManager σ) : Prop :=
  ∀ pid id, manager.byPid.find? pid = some id →
    ∃ record, (content manager.backend).jobs.find? id = some record ∧ record.state ≠ .queued ∧
      ∀ identity, manager.monitor.Carries pid identity → identity = record.execution.identity

/-- The worker has nothing left to do with an older process of this pid. -/
def FreshPid (manager : JobManager σ) (pid : Int) : Prop :=
  manager.byPid.find? pid = none ∧ manager.monitor.holds pid = false

/-- The process an adoption takes over has a fresh pid. -/
def AdoptsFresh (content : σ → StoreState) (manager : JobManager σ) (outcome : RecoveryJobOutcome) : Prop :=
  adopts outcome.decision = true → ∀ record, (content manager.backend).jobs.find? outcome.jobId = some record →
    manager.FreshPid record.execution.identity.pid

/-- The process a launch spawns has a fresh pid. -/
def LaunchesFresh (manager : JobManager σ) (launch : LaunchInput) : Prop :=
  match launch.spawn with
  | .error _ => True
  | .ok identity => manager.FreshPid identity.pid

def StepFresh (manager : JobManager σ) (step : Step) : Prop :=
  ∀ launch ∈ manager.launching? step, manager.LaunchesFresh launch

instance decidableFreshPid (manager : JobManager σ) (pid : Int) : Decidable (manager.FreshPid pid) :=
  inferInstanceAs (Decidable (_ ∧ _))

instance decidableAdoptsFresh (content : σ → StoreState) (manager : JobManager σ) (outcome : RecoveryJobOutcome) :
    Decidable (AdoptsFresh content manager outcome) :=
  inferInstanceAs (Decidable (_ → ∀ record ∈ (content manager.backend).jobs.find? outcome.jobId, _))

instance decidableLaunchesFresh (manager : JobManager σ) (launch : LaunchInput) :
    Decidable (manager.LaunchesFresh launch) := by
  delta LaunchesFresh
  rcases launch.spawn with _ | _ <;> infer_instance

instance decidableStepFresh (manager : JobManager σ) (step : Step) : Decidable (manager.StepFresh step) :=
  inferInstanceAs (Decidable (∀ launch ∈ manager.launching? step, manager.LaunchesFresh launch))

section Steps

variable {identity : ProcessIdentity} {left : Prop} {asked : JobSpec → Prop}

theorem LaunchesFresh.spawned {launch : LaunchInput} (fresh : manager.LaunchesFresh launch)
    (spawned : launch.spawn = .ok identity) : manager.FreshPid identity.pid := by
  rwa [LaunchesFresh, spawned] at fresh

section

variable (attributed : Attributed content before) (inv : StoreInvariant limits (content before.backend))
  (move : Moves limits content left asked before after)
include attributed inv move

theorem Attributed.of_within
    (within : before.tracking.Within after.tracking) : Attributed content after := by
  intro pid id mapped
  obtain ⟨_, found, busy, only⟩ := attributed pid id (within.byPid pid id mapped)
  obtain ⟨later, atLater, stillBusy, same⟩ := move.identity_kept inv found busy
  refine ⟨later, atLater, stillBusy, ?_⟩
  intro identity carried
  exact (only identity (within.carries pid identity carried)).trans same.symm

/-- A process with a fresh pid may be carried and mapped to its job. -/
theorem Attributed.of_fresh (fresh : before.FreshPid identity.pid)
    (carries : ∀ pid other, after.monitor.Carries pid other → before.monitor.Carries pid other ∨
      (identity.pid = pid ∧ identity = other))
    (mapped : ∀ pid id, after.byPid.find? pid = some id → before.byPid.find? pid = some id ∨
      (identity.pid = pid ∧ ∃ record, (content after.backend).jobs.find? id = some record ∧
        record.state ≠ .queued ∧ identity = record.execution.identity)) :
    Attributed content after := by
  intro pid id atPid
  rcases mapped pid id atPid with old | ⟨own, record, found, busy, recorded⟩
  · obtain ⟨_, found, busy, only⟩ := attributed pid id old
    obtain ⟨later, atLater, stillBusy, same⟩ := move.identity_kept inv found busy
    refine ⟨later, atLater, stillBusy, ?_⟩
    intro other carried
    rcases carries pid other carried with held | ⟨own, _⟩
    · exact (only other held).trans same.symm
    · rw [← own, fresh.1] at old
      simp at old
  · refine ⟨record, found, busy, ?_⟩
    intro other carried
    rcases carries pid other carried with held | ⟨_, same⟩
    · have holding := held.holds
      rw [← own, fresh.2] at holding
      simp at holding
    · exact same.symm.trans recorded

end

variable (faithful : Faithful limits store content)
include faithful

theorem scheduleNow_attributed {input : ScheduleInput} {trigger : SchedulerTrigger}
    (inv : StoreInvariant limits (content manager.backend)) (attributed : Attributed content manager)
    (fresh : manager.LaunchesFresh input.launch) :
    Attributed content (manager.scheduleNow config store input trigger) := by
  have move : Moves limits content False (fun _ => False) manager _ :=
    scheduleNow_moves faithful config input trigger inv
  cases scheduleNow_scheduled faithful config input trigger inv with
  | idle _ _ same =>
    refine attributed.of_within inv move ?_
    rw [same]
    exact .refl _
  | launched _ _ _ _ _ _ _ _ _ _ _ _ _ _ _ _ launched =>
    cases launched with
    | dropped _ _ carries _ byPid =>
      have unmapped : ∀ pid id, (manager.scheduleNow config store input trigger).byPid.find? pid = some id →
          manager.byPid.find? pid = some id := by
        intro _ _ mapped
        rwa [byPid] at mapped
      cases spawn : input.launch.spawn with
      | error =>
        refine attributed.of_within inv move ⟨unmapped, ?_⟩
        intro pid identity carried
        rcases carries pid identity carried with held | ⟨spawned, _⟩
        · exact held
        · simp [spawn] at spawned
      | ok =>
        refine attributed.of_fresh inv move (fresh.spawned spawn) ?_ fun pid id mapped => .inl (unmapped pid id mapped)
        intro pid other carried
        rcases carries pid other carried with held | ⟨spawned, own⟩
        · exact .inl held
        · cases spawn.symm.trans spawned
          exact .inr ⟨own, rfl⟩
    | supervised _ _ row _ _ carries spawned running state recorded _ byPid =>
      refine attributed.of_fresh inv move (fresh.spawned spawned) ?_ ?_
      · intro pid other carried
        rcases carries pid other carried with held | ⟨again, own⟩
        · exact .inl held
        · cases spawned.symm.trans again
          exact .inr ⟨own, rfl⟩
      · intro _ _ mapped
        rw [byPid] at mapped
        obtain ⟨here, rfl⟩ | mapped := SortedMap.insert_cases mapped
        · exact .inr ⟨here.symm, row, running, by simp [state], recorded.symm⟩
        · exact .inl mapped

theorem step_attributed {step : Step} (grounded : Grounded limits content manager)
    (attributed : Attributed content manager) (fresh : manager.StepFresh step) :
    Attributed content (manager.step config store step) := by
  have inv := grounded.stored
  have move := step_moves faithful config step grounded
  have took := step_took config store manager step
  generalize manager.step config store step = next at move took ⊢
  cases took with
  | aside | posted => exact attributed
  | submitted _ spec rest =>
    refine attributed.of_within inv move ?_
    obtain ⟨_, _, _, frame⟩ := processSubmit_frame store spec { manager with commands := rest }
    rw [frame]
    exact .refl _
  | cancelled input id rest =>
    refine attributed.of_within inv move ?_
    obtain ⟨_, _, _, _, same, _, begun⟩ :=
      @processCancel_cases _ _ _ _ { manager with commands := rest } faithful input.cancel id inv
    rw [same]
    exact begun.tracking
  | woken _ _ _ next => exact scheduleNow_attributed faithful inv attributed (fresh _ (by rw [launching?, next]; rfl))
  | observed => exact scheduleNow_attributed faithful inv attributed (fresh _ rfl)
  | exited input event rest next =>
    let drained := { manager with monitor := { manager.monitor with events := rest } }
    have fewer : manager.tracking.Within drained.tracking := by
      refine ⟨fun _ _ mapped => mapped, fun _ _ carried => carried.of_fewer (fun _ => id) (fun _ => id) ?_⟩
      change rest ++ _ ⊆ manager.monitor.events ++ _
      exact next ▸ List.subset_cons_self ..
    exact attributed.of_within inv move (fewer.trans processExit_tracking)
  | pumped =>
    refine attributed.of_within inv move ?_
    unfold processPumpDone
    split
    · exact .refl _
    · split
      · exact signalEffects_within ..
      · exact .refl _
  | escalated =>
    refine attributed.of_within inv move ?_
    unfold runEscalation
    split
    · exact .refl _
    · split
      · exact signalEffects_within ..
      · exact .refl _
  | reaped action =>
    exact attributed.of_within inv move
      ⟨fun _ _ mapped => mapped, fun _ _ => ProcessExitMonitor.runActions_carries [action]⟩
  | stopped =>
    intro _ _ mapped
    simp [stop, stopMonitor, abandonSupervised, emit] at mapped

end Steps

section Start

variable {input : AdoptionInput} {outcome : RecoveryJobOutcome} {pid : Int} {job : SupervisedJob}

theorem enter_tracking : (Tracking.mk (manager.byPid.insert pid outcome.jobId) manager.monitor).Within
    (manager.enter input outcome pid job).tracking := by
  have entered : (Tracking.mk (manager.byPid.insert pid outcome.jobId) manager.monitor).Within
    (manager.supervise outcome.jobId pid job input.destroying).tracking := signalEffects_within ..
  exact entered.trans enter_begun.tracking

theorem Armed.attributed (armed : Armed content config store input outcome before after)
    (inv : StoreInvariant limits (content before.backend)) (attributed : Attributed content before)
    (fresh : AdoptsFresh content before outcome) : Attributed content after := by
  have unmoved : Moves limits content False (fun _ => False) before after :=
    .of_same armed.backend (congrArg Front.queue armed.front)
  cases armed with
  | skipped _ _ _ same =>
    refine attributed.of_within inv unmoved ?_
    rw [same]
    exact .refl _
  | destroyed _ record _ adopted found _ _ _ same =>
    rw [same] at unmoved ⊢
    refine attributed.of_fresh inv unmoved (fresh adopted record found) ?_ fun pid id mapped => .inl mapped
    intro pid other carried
    have earlier := (signalEffects_within _ _ before.byPid _).carries pid other carried
    exact ProcessExitMonitor.registerProcess_carries earlier
  | adopted backend record _ unchanged adopted found identified _ _ _ _ same =>
    have sameContent : content after.backend = content before.backend := by
      rw [same, enter_backend]
      exact unchanged
    rw [same] at unmoved sameContent ⊢
    refine attributed.of_fresh inv unmoved (fresh adopted record found) ?_ ?_
    · intro pid other carried
      exact ProcessExitMonitor.registerProcess_carries (enter_tracking.carries pid other carried)
    · intro pid id mapped
      have inserted := enter_tracking.byPid pid id mapped
      obtain ⟨here, rfl⟩ | inserted := SortedMap.insert_cases inserted
      · rw [sameContent]
        exact .inr ⟨here.symm, record, found, inv.identified_busy found identified, rfl⟩
      · exact .inl inserted

/-- The processes taken over by a start have pids of their own. -/
def StartFresh (content : σ → StoreState) (config : JobManagerConfig) (store : StateStore σ) (input : StartInput)
    (recovery : Option RecoveryResult) (manager : JobManager σ) : Prop :=
  Guarded.Along (fun manager outcome => manager.armOutcome config store (input.adoption outcome.jobId) outcome)
    (AdoptsFresh content) { manager with monitor := { manager.monitor with started := true } }
    (recoveredOutcomes recovery)

instance decidableStartFresh (content : σ → StoreState) (config : JobManagerConfig) (store : StateStore σ)
    (input : StartInput) (recovery : Option RecoveryResult) (manager : JobManager σ) :
    Decidable (StartFresh content config store input recovery manager) :=
  inferInstanceAs (Decidable (Guarded.Along ..))

theorem start_attributed (faithful : Faithful limits store content) {input : StartInput}
    {recovery : Option RecoveryResult} (inv : StoreInvariant limits (content manager.backend))
    (unmapped : manager.byPid = .empty) (fresh : StartFresh content config store input recovery manager) :
    Attributed content (manager.start config store input recovery).2 := by
  have nothing : ∀ other : JobManager σ, other.byPid = .empty → Attributed content other := by
    intro _ empty _ _ mapped
    simp [empty] at mapped
  refine start_rule (nothing manager unmapped) ?_ (fun other _ => nothing other) fun _ attributed => attributed
  refine (Guarded.foldl_invariant (fun manager => StoreInvariant limits (content manager.backend) ∧
    Attributed content manager) ?_ fresh ⟨inv, nothing _ unmapped⟩).2
  intro _ outcome fresh ⟨inv, attributed⟩
  have armed := armOutcome_armed faithful config (input.adoption outcome.jobId) outcome inv
  exact ⟨by rw [armed.backend]; exact inv, armed.attributed inv attributed fresh⟩

end Start

section Exit

/-- What an exit may touch: rows and leases of jobs that were recorded with the
process the event names. -/
structure ExitAttributed (state next : StoreState) (event : ExitEvent) : Prop where
  rows : ∀ id, next.jobs.find? id ≠ state.jobs.find? id →
    ∃ record, state.jobs.find? id = some record ∧ record.execution.identity = event.identity
  leases : ∀ uuid lease, state.leases.find? uuid = some lease → next.leases.find? uuid ≠ some lease →
    ∃ record, state.jobs.find? lease.jobId = some record ∧ record.execution.identity = event.identity

theorem ExitAttributed.of_same (state : StoreState) (event : ExitEvent) : ExitAttributed state state event :=
  ⟨fun _ changed => absurd rfl changed, fun _ _ held released => absurd held released⟩

theorem ExitAttributed.of_onlyJob {state next : StoreState} {record : StoredJob} (only : OnlyJob id state next)
    (found : state.jobs.find? id = some record) (same : record.execution.identity = event.identity) :
    ExitAttributed state next event := by
  constructor
  · intro other changed
    have here : other = id := by
      by_contra different
      exact changed (only.rows other different)
    exact ⟨record, here ▸ found, same⟩
  · intro uuid lease held released
    have own : lease.jobId = id := by
      by_contra different
      exact released ((only.leases uuid lease different).mpr held)
    exact ⟨record, own ▸ found, same⟩

theorem processExit_attributed (faithful : Faithful limits store content) (config : JobManagerConfig)
    (input : ExitInput) (manager : JobManager σ) (inv : StoreInvariant limits (content manager.backend))
    (attributed : ∀ id, manager.byPid.find? event.pid = some id → ∃ record,
      (content manager.backend).jobs.find? id = some record ∧ record.execution.identity = event.identity) :
    ExitAttributed (content manager.backend) (content (manager.processExit config store input event).backend)
      event := by
  unfold processExit
  split
  · exact .of_same _ _
  · rename_i id mapped
    split
    · exact .of_same _ _
    · rename_i job _
      obtain ⟨_, found, same⟩ := attributed id mapped
      let compose := exitRecord event (exitVerdict job.cancelling event) job.leasedGpu input.endClock
      have outcome := rewriteJob_outcome faithful inv id compose
      have only := (outcome.rewrites inv fun _ _ => exitRecord_id ..).onlyJob inv
      simp only
      split
      · exact .of_onlyJob only found same
      · exact .of_onlyJob only found same

end Exit

section Runs

variable (faithful : Faithful limits store content)
include faithful

/-- The next exit touches only jobs that are recorded with its process. -/
theorem nextExit_attributed (grounded : Grounded limits content manager) (attributed : Attributed content manager)
    {rest : List ExitEvent} (next : manager.monitor.events = event :: rest) :
    ExitAttributed (content manager.backend) (content (manager.step config store (.exit input)).backend) event := by
  have carried : manager.monitor.Carries event.pid event.identity :=
    .watched (.waiting event (by rw [ProcessExitMonitor.waiting, next]; exact List.mem_cons_self ..) rfl rfl)
  cases running : manager.running with
  | false =>
    rw [step_of_stopped running]
    exact .of_same _ _
  | true =>
    rw [step_of_running running]
    let drained := { manager with monitor := { manager.monitor with events := rest } }
    have handled : manager.perform config store (.exit input) = drained.processExit config store input event := by
      simp only [perform, handleExit, next, drained]
    have owners : ∀ id, drained.byPid.find? event.pid = some id →
        ∃ record, (content drained.backend).jobs.find? id = some record ∧
          record.execution.identity = event.identity := by
      intro id mapped
      obtain ⟨record, found, _, only⟩ := attributed event.pid id mapped
      exact ⟨record, found, (only event.identity carried).symm⟩
    rw [handled]
    exact processExit_attributed faithful config input drained grounded.stored owners

end Runs

/-- In every run whose spawned and adopted processes have fresh pids, an exit
event touches only jobs that are recorded with the process it names. -/
theorem exit_attributed {σ : Type} {limits : ValidationConfig} {store : StateStore σ} {content : σ → StoreState}
    (faithful : Faithful limits store content) (config : JobManagerConfig) (manager : JobManager σ)
    (inv : StoreInvariant limits (content manager.backend)) (unsupervised : manager.supervised = .empty)
    (unmapped : manager.byPid = .empty) (input : StartInput) (recovery : Option RecoveryResult)
    (adopted : StartFresh content config store input recovery manager) (steps : List Step)
    (launched : Guarded.Along (step config store) StepFresh (manager.start config store input recovery).2 steps)
    (exitInput : ExitInput) (event : ExitEvent) (rest : List ExitEvent)
    (next : ((manager.start config store input recovery).2.run config store steps).monitor.events = event :: rest) :
    let reached := (manager.start config store input recovery).2.run config store steps
    ExitAttributed (content reached.backend) (content (reached.step config store (.exit exitInput)).backend) event := by
  intro reached
  have started := start_grounded faithful config input recovery (.of_unsupervised inv unsupervised)
  obtain ⟨grounded, attributed⟩ : Grounded limits content reached ∧ Attributed content reached := by
    refine Guarded.foldl_invariant (fun manager => Grounded limits content manager ∧ Attributed content manager) ?_
      launched ⟨started, start_attributed faithful inv unmapped adopted⟩
    intro _ step fresh ⟨grounded, attributed⟩
    exact ⟨step_grounded faithful config step grounded, step_attributed faithful grounded attributed fresh⟩
  exact nextExit_attributed faithful grounded attributed next

/-- A recovery of two queued jobs. -/
def twoQueuedRecovery : RecoveryResult × GlobalJobQueue × InMemoryStateStore :=
  JobRecovery.recover (InMemoryStateStore.store {}) (fun _ => .verified) 5 (.empty 8)
    { state := submitAll {} [.minimal 1 {}, { JobSpec.minimal 2 {} with ownerUid := 1001 }] }

/-- The manager over these jobs and two free devices. -/
def twoQueuedManager : JobManager InMemoryStateStore where
  backend := twoQueuedRecovery.2.2
  queue := twoQueuedRecovery.2.1
  gpu := GpuManager.sampleOnce { observed := .ok (.allFree [⟨.ascii "GPU-0"⟩, ⟨.ascii "GPU-1"⟩]) } {}
  gateOpen := true

def twoQueuedStarted : JobManager InMemoryStateStore :=
  (twoQueuedManager.start {} (InMemoryStateStore.store {}) {} (some twoQueuedRecovery.1)).2

theorem twoQueuedManager_grounded : Grounded {} state twoQueuedManager := by
  have done : twoQueuedRecovery.1.code = none := by decide
  have faithful := faithful {}
  exact .of_unsupervised (JobRecovery.recover_agrees faithful (submitAll_invariant _ _) done).1 rfl

theorem twoQueuedStarted_grounded : Grounded {} state twoQueuedStarted :=
  start_grounded (faithful {}) {} {} (some twoQueuedRecovery.1) twoQueuedManager_grounded

/-- A launch in which everything succeeds. -/
def launching (identity : ProcessIdentity) : CommandInput where
  schedule := { launch := {
    spawn := .ok identity
    startClock := fun _ => 10
    endClock := fun _ => 20
    registering := [.applyCommand .running (some identity.startTicks) .running] } }

/-- The first job exits while the worker handles a command, and the second one
is given its pid before the exit is looked at. -/
def reusedPidSteps : List Step :=
  [.command (launching ⟨100, 100, 7⟩), .post (.cancel ⟨9⟩), .command (launching ⟨100, 100, 8⟩),
    .reaper (.scan 100 (some 7) (.reaped ⟨.exited, 0, 0⟩)), .reaper .send, .command (launching ⟨100, 100, 8⟩)]

/-- The exit of the first job ends the second one and takes its device away. -/
theorem exit_misattributed :
    let memory := InMemoryStateStore.store {}
    let reached := twoQueuedStarted.run {} memory reusedPidSteps
    let after := reached.step {} memory (.exit { endClock := fun _ => 30 })
    ∃ event, reached.monitor.events = [event] ∧ ¬ExitAttributed reached.backend.state after.backend.state event := by
  intro _ reached _
  refine ⟨⟨100, ⟨100, 100, 7⟩, ⟨.exited, 0, 0⟩, true⟩, by decide, ?_⟩
  intro attributed
  obtain ⟨_, found, same⟩ := attributed.rows ⟨2⟩ (by decide)
  have recorded : (reached.backend.state.jobs.find? ⟨2⟩).map (·.execution.identity) = some ⟨100, 100, 8⟩ := by decide
  rw [found, Option.map_some, same] at recorded
  simp at recorded

/-- The same schedule with a pid of its own for the second job. -/
def ownPidSteps : List Step :=
  [.command (launching ⟨100, 100, 7⟩), .post (.cancel ⟨9⟩), .command (launching ⟨200, 200, 8⟩),
    .reaper (.scan 100 (some 7) (.reaped ⟨.exited, 0, 0⟩)), .reaper .send, .command (launching ⟨200, 200, 8⟩)]

theorem exit_attributed_own_pid :
    let memory := InMemoryStateStore.store {}
    let reached := twoQueuedStarted.run {} memory ownPidSteps
    ExitAttributed reached.backend.state
      (reached.step {} memory (.exit { endClock := fun _ => 30 })).backend.state
      ⟨100, ⟨100, 100, 7⟩, ⟨.exited, 0, 0⟩, true⟩ := by
  have adopted : StartFresh state {} (store {}) {} (some twoQueuedRecovery.1)
      twoQueuedManager :=
    ⟨fun adopting => absurd adopting (by decide), fun adopting => absurd adopting (by decide), trivial⟩
  exact exit_attributed (faithful {}) {} twoQueuedManager twoQueuedManager_grounded.stored rfl rfl {}
    (some twoQueuedRecovery.1) adopted ownPidSteps (by decide) { endClock := fun _ => 30 } _ [] (by decide)

end JobManager

end Yori
