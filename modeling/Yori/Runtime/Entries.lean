import Yori.Runtime.QueueAgreement

namespace Yori.JobManager
open SortedMap ProcessSupervisor

variable {σ : Type} {store : StateStore σ} {config : JobManagerConfig} {id : JobId} {manager : JobManager σ}
  {next job : SupervisedJob} {trigger : SchedulerTrigger} {input : ScheduleInput}

/-- The entry of a job after its cancellation was begun. There is none when the
supervisor has no process to signal. -/
def cancelledEntry (input : CancelInput) (fromRecovery : Bool) (job : SupervisedJob) : Option SupervisedJob :=
  job.supervisor.bind fun supervisor =>
    let answer := supervisor.requestCancel input.kill.group input.kill.leader input.now
    let grace := job.grace.getD {}
    if answer.1 = .notRunning ∨ answer.1 = .alreadyExited then none
    else some { job with
      supervisor := some answer.2.2
      grace := some (if !job.cancelling ∨ fromRecovery then grace.arm answer.2.2.phase input.timerAccepted else grace)
      cancelling := true }

/-- A cancel request gets as far as the process of the job. -/
def cancelBegins (store : StateStore σ) (id : JobId) (manager : JobManager σ) : Bool :=
  match store.load manager.backend with
  | (.error _, _) => false
  | (.ok snapshot, loaded) =>
    match findStored snapshot id with
    | none => false
    | some record =>
      match record.state with
      | .starting | .running => (rewriteJob store id (moveTo .stopping) loaded).1.code.isNone
      | .stopping => true
      | _ => false

/-- The entry of a job whose process was just spawned. -/
def launchedEntry (config : JobManagerConfig) (id : JobId) (uuid : GpuUuid) (identity : ProcessIdentity) :
    SupervisedJob :=
  { id, leasedGpu := uuid, supervisor := some (.spawned ⟨config.cancelGrace⟩ identity) }

/-- What a step can have done to the entry a job has after it. `byPid` is the
map of pids after the step. -/
inductive EntryChange (config : JobManagerConfig) (store : StateStore σ) (step : Step) (id : JobId)
    (before : JobManager σ) (byPid : SortedMap Int JobId) (next : SupervisedJob) : Prop
  | kept (same : before.supervised.find? id = some next)
  | launched (launch : LaunchInput) (uuid : GpuUuid) (identity : ProcessIdentity)
      (turn : before.launching? step = some launch) (spawned : launch.spawn = .ok identity)
      (mapped : byPid.find? identity.pid = some id) (same : next = launchedEntry config id uuid identity)
  | cancelled (input : CommandInput) (rest : List Command) (job : SupervisedJob) (handled : step = .command input)
      (command : before.commands = .cancel id :: rest)
      (begins : { before with commands := rest }.cancelBegins store id = true)
      (was : before.supervised.find? id = some job) (entered : cancelledEntry input.cancel false job = some next)
  | exited (job : SupervisedJob) (state : UInt8) (exit : Option IpcExitStatus)
      (was : before.supervised.find? id = some job)
      (same : next = { job with
        grace := job.grace.map fun _ => {}, exited := true, terminalState := state, terminalExit := exit })
  | pumped (job : SupervisedJob) (was : before.supervised.find? id = some job)
      (same : next = { job with pumpDone := true })
  | escalated (job : SupervisedJob) (armed : Bool) (was : before.supervised.find? id = some job)
      (pending : job.grace = some ⟨armed, true⟩) (same : next = { job with grace := some ⟨armed, false⟩ })

section Tables

theorem beginCancellation_supervised (input : CancelInput) (id : JobId) (fromRecovery : Bool) (manager : JobManager σ) :
    (manager.beginCancellation input id fromRecovery).supervised =
      match (manager.supervised.find? id).bind (cancelledEntry input fromRecovery) with
      | none => manager.supervised
      | some next => manager.supervised.insert id next := by
  unfold beginCancellation
  cases found : manager.supervised.find? id with
  | none => simp
  | some job =>
    simp only [Option.bind_some, cancelledEntry]
    cases own : job.supervisor with
    | none => simp
    | some =>
      simp only [Option.bind_some]
      split
      · rfl
      · rfl

theorem processCancel_supervised (input : CancelInput) (id : JobId) (manager : JobManager σ) :
    (manager.processCancel store input id).supervised =
      if manager.cancelBegins store id then (manager.beginCancellation input id false).supervised
      else manager.supervised := by
  have begins : ∀ backend : σ, (beginCancellation input id false { manager with backend }).supervised =
      (manager.beginCancellation input id false).supervised := by
    intro _
    rw [beginCancellation_supervised, beginCancellation_supervised]
  unfold processCancel
  split
  · rename_i load
    simp only [cancelBegins, load]
    rfl
  · rename_i loaded load
    split
    · rename_i missing
      simp only [cancelBegins, load, missing]
      rfl
    · rename_i record found
      simp only [cancelBegins, load, found]
      cases record.state with
      | queued =>
        simp only
        split <;> rfl
      | starting | running =>
        simp only
        split
        · rename_i refused
          simp [refused, emit]
        · rename_i accepted
          simpa [accepted, emit] using begins _
      | stopping => exact begins loaded
      | cancelled | finished | failed | lost => rfl

/-- The job came under supervision and its process into the map of pids. -/
def Enters (config : JobManagerConfig) (id : JobId) (uuid : GpuUuid) (identity : ProcessIdentity)
    (before after : JobManager σ) : Prop :=
  after.supervised = before.supervised.insert id (launchedEntry config id uuid identity) ∧
    after.byPid = before.byPid.insert identity.pid id

def SameEntries (before after : JobManager σ) : Prop :=
  after.supervised = before.supervised ∧ after.byPid = before.byPid

theorem startSpawned_supervised (input : LaunchInput) (uuid : GpuUuid) (identity : ProcessIdentity) :
    let after := manager.startSpawned config store input id uuid identity
    SameEntries manager after ∨ Enters config id uuid identity manager after := by
  unfold startSpawned
  simp only
  split
  · exact .inl ⟨rfl, rfl⟩
  · split
    · exact .inl ⟨rfl, rfl⟩
    · split
      · exact .inl ⟨rfl, rfl⟩
      · exact .inr ⟨rfl, rfl⟩

theorem launchScheduled_supervised (input : LaunchInput) (id : JobId) (uuid : GpuUuid) (manager : JobManager σ) :
    let after := manager.launchScheduled config store input id uuid
    SameEntries manager after ∨ ∃ identity, input.spawn = .ok identity ∧
      Enters config id uuid identity manager after := by
  unfold launchScheduled
  split
  · exact .inl ⟨rfl, rfl⟩
  · split
    · exact .inl ⟨rfl, rfl⟩
    · split
      · exact .inl ⟨rfl, rfl⟩
      · split
        · exact .inl ⟨rfl, rfl⟩
        · split
          · exact .inl ⟨rfl, rfl⟩
          · rename_i identity spawned
            exact (startSpawned_supervised ..).imp_right fun entered => ⟨identity, spawned, entered⟩

theorem scheduleNow_supervised (manager : JobManager σ) :
    let after := manager.scheduleNow config store input trigger
    SameEntries manager after ∨ ∃ id uuid identity, input.launch.spawn = .ok identity ∧
      Enters config id uuid identity manager after := by
  unfold scheduleNow
  split
  · exact .inl ⟨rfl, rfl⟩
  · split
    · exact .inl ⟨rfl, rfl⟩
    · split
      · exact .inl ⟨rfl, rfl⟩
      · simp only
        split
        · rename_i id uuid _ _ _
          exact (launchScheduled_supervised ..).imp_right fun entered => ⟨id, uuid, entered⟩
        · exact .inl ⟨rfl, rfl⟩

end Tables

section Changes

variable {step : Step} {target : JobId} {byPid : SortedMap Int JobId}

theorem EntryChange.of_insert (found : (manager.supervised.insert target job).find? id = some next)
    (own : id = target → next = job → EntryChange config store step id manager byPid next) :
    EntryChange config store step id manager byPid next := by
  rw [find?_insert] at found
  split at found
  · rename_i here
    exact own here (Option.some.inj found).symm
  · exact .kept found

theorem EntryChange.of_erase (found : (manager.supervised.erase target).find? id = some next) :
    EntryChange config store step id manager byPid next := by
  rw [find?_erase] at found
  split at found
  · simp at found
  · exact .kept found

theorem scheduleNow_entry {ready : JobManager σ}
    (found : (ready.scheduleNow config store input trigger).supervised.find? id = some next)
    (same : ready.supervised = manager.supervised) (turn : manager.launching? step = some input.launch) :
    EntryChange config store step id manager (ready.scheduleNow config store input trigger).byPid next := by
  rcases scheduleNow_supervised ready with unchanged | ⟨_, uuid, identity, spawned, entered, mapped⟩
  · exact .kept (same ▸ unchanged.1 ▸ found)
  · rw [entered, same] at found
    refine .of_insert found fun here launched => ?_
    exact .launched input.launch uuid identity turn spawned (by rw [mapped, here, find?_insert_self]) (here ▸ launched)

/-- Says once what a step can do to the entries under supervision. -/
theorem step_entry (found : (manager.step config store step).supervised.find? id = some next) :
    EntryChange config store step id manager (manager.step config store step).byPid next := by
  have took := step_took config store manager step
  generalize manager.step config store step = after at took found ⊢
  cases took with
  | aside | posted | reaped => exact .kept found
  | submitted _ spec rest =>
    exact .kept (processSubmit_supervised spec { manager with commands := rest } ▸ found)
  | cancelled input target rest command =>
    change ({ manager with commands := rest }.processCancel store input.cancel target).supervised.find? id = _ at found
    rw [processCancel_supervised, beginCancellation_supervised] at found
    split at found
    · rename_i begins
      split at found
      · exact .kept found
      · rename_i cancelled
        obtain ⟨job, was, entered⟩ := Option.bind_eq_some_iff.mp cancelled
        refine .of_insert found ?_
        rintro rfl rfl
        exact .cancelled input rest job rfl command begins was entered
    · exact .kept found
  | woken _ _ _ command => exact scheduleNow_entry found rfl (by rw [launching?, command])
  | observed => exact scheduleNow_entry found rfl rfl
  | exited =>
    unfold processExit at found
    split at found
    · exact .kept found
    · split at found
      · exact .kept found
      · rename_i job was
        simp only at found
        split at found
        · exact .of_erase found
        · exact .of_insert found fun here same => .exited job _ _ (here ▸ was) same
  | pumped =>
    unfold processPumpDone at found
    split at found
    · exact .kept found
    · rename_i job was
      split at found
      · exact .of_erase found
      · exact .of_insert found fun here same => .pumped job (here ▸ was) same
  | escalated =>
    unfold runEscalation at found
    split at found
    · exact .kept found
    · rename_i job was
      split at found
      · rename_i armed _ pending _
        exact .of_insert found fun here same => .escalated job armed (here ▸ was) pending same
      · exact .kept found
  | stopped => simp [stop, stopMonitor, abandonSupervised, emit] at found

end Changes

section Adoptions

variable {input : AdoptionInput} {outcome : RecoveryJobOutcome} {cancel : CancelInput} {fromRecovery : Bool}

/-- The entry an adoption leaves for its job: the adopted one, cancelled again
if the job was being stopped. -/
structure AdoptedEntry (config : JobManagerConfig) (store : StateStore σ) (input : AdoptionInput)
    (outcome : RecoveryJobOutcome) (before : JobManager σ) (next : SupervisedJob) : Prop where
  origin : ∃ snapshot record, (store.load before.backend).1 = .ok snapshot ∧
    findStored snapshot outcome.jobId = some record ∧ record.execution.hasIdentity = true ∧
    let job := adoptedJob snapshot outcome (.spawned ⟨config.cancelGrace⟩ record.execution.identity)
    if outcome.decision = .adoptedStoppingNeedsRecancel then cancelledEntry input.cancel true job = some next
    else next = job

/-- A process that is taken to be alive can be signalled. -/
theorem cancelledEntry_managed {supervisor : ProcessSupervisor} (own : job.supervisor = some supervisor)
    (managed : supervisor.manages = true) : ∃ next, cancelledEntry cancel fromRecovery job = some next := by
  cases phase : supervisor.phase with
  | running =>
    obtain ⟨notIdle, notExited, _⟩ :=
      supervisor.requestCancel_running phase cancel.kill.group cancel.kill.leader cancel.now
    simp [cancelledEntry, own, notIdle, notExited]
  | terminating => simp [cancelledEntry, own, requestCancel, phase]
  | idle | exited => simp [manages, phase] at managed

/-- Besides its supervisor and its timer a cancelled entry differs by the mark. -/
theorem cancelledEntry_frame (entered : cancelledEntry cancel fromRecovery job = some next) :
    next.cancelling = true ∧ next.exited = job.exited ∧ next.leasedGpu = job.leasedGpu ∧
      ∃ supervisor, job.supervisor = some supervisor ∧ next.supervisor =
        some (supervisor.requestCancel cancel.kill.group cancel.kill.leader cancel.now).2.2 := by
  unfold cancelledEntry at entered
  obtain ⟨supervisor, own, entered⟩ := Option.bind_eq_some_iff.mp entered
  simp only at entered
  split at entered
  · simp at entered
  · cases entered
    exact ⟨rfl, rfl, rfl, supervisor, own, rfl⟩

theorem armOutcome_entry
    (found : (manager.armOutcome config store input outcome).supervised.find? id = some next) :
    manager.supervised.find? id = some next ∨
      id = outcome.jobId ∧ AdoptedEntry config store input outcome manager next := by
  rcases armOutcome_cases config input outcome manager with
    ⟨_, _, _, same⟩ | ⟨snapshot, record, known, atRecord, _, identified, _, same⟩
  · exact .inl (by rwa [same] at found)
  · simp only at same
    split at same
    · exact .inl (by rwa [same] at found)
    · rw [same, enter] at found
      split at found
      · rename_i stopping
        obtain ⟨entry, cancelled⟩ : ∃ entry, cancelledEntry input.cancel true (adoptedJob snapshot outcome
          (.spawned ⟨config.cancelGrace⟩ record.execution.identity)) = some entry := cancelledEntry_managed rfl rfl
        rw [beginCancellation_supervised] at found
        simp only [supervise, sendSignals, find?_insert_self, Option.bind_some, cancelled] at found
        rw [find?_insert] at found
        split at found
        · rename_i here
          refine .inr ⟨here, snapshot, record, known, atRecord, identified, ?_⟩
          rw [if_pos stopping]
          exact cancelled.trans found
        · rename_i other
          exact .inl (by rwa [find?_insert_of_ne _ _ other] at found)
      · rename_i other
        obtain ⟨here, rfl⟩ | found := insert_cases found
        · refine .inr ⟨here, snapshot, record, known, atRecord, identified, ?_⟩
          rw [if_neg other]
        · exact .inl found

end Adoptions

section Supervises

variable {live : Prop} {identity : ProcessIdentity} {step : Step} {before after : JobManager σ}

/-- The job has an entry with this process, and one that awaits its exit if
that is asked for. -/
def Supervises (live : Prop) (id : JobId) (identity : ProcessIdentity) (manager : JobManager σ) : Prop :=
  ∃ job supervisor, manager.supervised.find? id = some job ∧ (live → job.exited = false) ∧
    job.supervisor = some supervisor ∧ supervisor.identity = identity

/-- A process comes under supervision when it is spawned, and is then found by
its pid. -/
theorem step_supervises (found : (manager.step config store step).Supervises live id identity) :
    manager.Supervises live id identity ∨ ∃ launch, manager.launching? step = some launch ∧
      launch.spawn = .ok identity ∧ (manager.step config store step).byPid.find? identity.pid = some id := by
  obtain ⟨next, supervisor, found, alive, own, rfl⟩ := found
  cases step_entry found with
  | kept same => exact .inl ⟨next, supervisor, same, alive, own, rfl⟩
  | launched launch _ _ turn spawned mapped same =>
    subst same
    cases own
    exact .inr ⟨launch, turn, spawned, mapped⟩
  | cancelled _ _ job _ _ _ was entered =>
    obtain ⟨_, exited, _, old, atOld, later⟩ := cancelledEntry_frame entered
    cases later.symm.trans own
    exact .inl ⟨job, old, was, exited ▸ alive, atOld, requestCancel_identity.symm⟩
  | exited job _ _ was same =>
    subst same
    exact .inl ⟨job, supervisor, was, fun asked => Bool.noConfusion (alive asked), own, rfl⟩
  | pumped job was same | escalated job _ was _ same =>
    subst same
    exact .inl ⟨job, supervisor, was, alive, own, rfl⟩

theorem Begun.supervises {input : CancelInput} {target : JobId} (begun : Begun input target before after)
    (found : after.Supervises live id identity) : before.Supervises live id identity := by
  cases begun with
  | ignored same => rwa [same] at found
  | signalled job next old was own cancelled frame same =>
    rw [same] at found
    obtain ⟨entry, supervisor, atEntry, alive, atSupervisor, rfl⟩ := found
    obtain ⟨here, rfl⟩ | atEntry := insert_cases atEntry
    · cases cancelled.symm.trans atSupervisor
      exact ⟨job, old, here ▸ was, frame.2.2.2.1 ▸ alive, own, requestCancel_identity.symm⟩
    · exact ⟨entry, supervisor, atEntry, alive, atSupervisor, rfl⟩

/-- An adoption brings the process on record under supervision, or none. -/
theorem Armed.supervises {content : σ → StoreState} {input : AdoptionInput} {outcome : RecoveryJobOutcome}
    (armed : Armed content config store input outcome before after) (found : after.Supervises live id identity) :
    before.Supervises live id identity ∨ id = outcome.jobId ∧ ∃ record,
      before.adopting store input outcome = some record ∧ record.execution.identity = identity := by
  cases armed with
  | skipped _ _ _ same | destroyed _ _ _ _ _ _ _ _ same =>
    rw [same] at found
    exact .inl found
  | adopted _ record _ _ _ _ _ taken _ spawned _ same =>
    rw [same] at found
    obtain ⟨entry, supervisor, atEntry, alive, own, rfl⟩ := enter_begun.supervises found
    obtain ⟨here, rfl⟩ | atEntry := insert_cases atEntry
    · cases spawned.symm.trans own
      exact .inr ⟨here, record, taken, rfl⟩
    · exact .inl ⟨entry, supervisor, atEntry, alive, own, rfl⟩

end Supervises

end Yori.JobManager
