import Yori.Runtime.Entries
import Yori.Runtime.StartSignals
import Yori.Runtime.Watching

namespace Yori
open MutationCore ProcessSupervisor List Effect Guarded ProcessExitMonitor

variable {calls : List KillCall}

/-- Once the exit of a process is reported, no signal names it. -/
def Quiet (log : List Effect) : Prop :=
  log.Pairwise fun earlier later =>
    ∀ event call, earlier = .exitReported event → later = .signal call → ¬call.Names event.identity

section Quiet

variable {log new : List Effect}

theorem Quiet.silent (quiet : Quiet log) (silent : new.filterMap signal? = []) : Quiet (log ++ new) := by
  have noSignal : ∀ later ∈ new, ∀ call, later ≠ .signal call := by
    intro later member call same
    have mapped : call ∈ new.filterMap signal? := mem_filterMap.mpr ⟨later, member, by rw [same]; rfl⟩
    simp [silent] at mapped
  refine pairwise_append.mpr ⟨quiet, pairwise_of_forall_mem_list ?_, ?_⟩
  · intro _ _ later member _ call _ same
    exact absurd same (noSignal later member call)
  · intro _ _ later member _ call _ same
    exact absurd same (noSignal later member call)

theorem Quiet.signals (quiet : Quiet log)
    (spared : ∀ event, .exitReported event ∈ log → ∀ call ∈ calls, ¬call.Names event.identity) :
    Quiet (log ++ calls.map .signal) := by
  refine pairwise_append.mpr ⟨quiet, pairwise_of_forall_mem_list ?_, ?_⟩
  · intro _ member _ _ _ _ same _
    obtain ⟨_, _, isSignal⟩ := mem_map.mp member
    simp [← isSignal] at same
  · intro _ reported _ member event call same isSignal
    obtain ⟨_, atSent, isSent⟩ := mem_map.mp member
    rw [isSignal] at isSent
    cases isSent
    exact spared event (same ▸ reported) call atSent

end Quiet

def Effect.exit? : Effect → Option ExitEvent
  | .exitReported event => some event
  | _ => none

namespace JobManager

variable {σ : Type} {store : StateStore σ} {limits : ValidationConfig} {content : σ → StoreState}
  {config : JobManagerConfig} {id : JobId} {manager before after : JobManager σ} {between : List ReaperAction}
  {identity : ProcessIdentity} {policy : CancelPolicy} {effects : List Effect}

/-- The exits reported so far. -/
def ended (manager : JobManager σ) : List ExitEvent := manager.log.filterMap exit?

/-- The exit of this process, or of an older one with its pid or its group, has
been reported. -/
def Ended (manager : JobManager σ) (identity : ProcessIdentity) : Prop :=
  ∃ event ∈ manager.ended, identity.Touches event.identity

instance decidableEnded (manager : JobManager σ) (identity : ProcessIdentity) : Decidable (manager.Ended identity) :=
  inferInstanceAs (Decidable (∃ _ ∈ _, _))

section Ended

theorem mem_ended {event : ExitEvent} : event ∈ manager.ended ↔ .exitReported event ∈ manager.log := by
  unfold ended
  rw [mem_filterMap]
  constructor
  · intro ⟨effect, member, same⟩
    cases effect <;> simp [exit?] at same
    exact same ▸ member
  · intro member
    exact ⟨_, member, rfl⟩

/-- No exit was handed over from the one moment to the other: those reported
since wait behind those that waited before. -/
def Reports (before after : JobManager σ) : Prop :=
  ∃ reported, after.ended = before.ended ++ reported ∧ after.monitor.waiting = before.monitor.waiting ++ reported

theorem Reports.refl (manager : JobManager σ) : Reports manager manager :=
  ⟨[], (append_nil _).symm, (append_nil _).symm⟩

theorem Reports.trans {middle : JobManager σ} (early : Reports before middle) (late : Reports middle after) :
    Reports before after := by
  obtain ⟨first, ended, waiting⟩ := early
  obtain ⟨second, endedLater, waitingLater⟩ := late
  exact ⟨first ++ second, by rw [endedLater, ended, append_assoc], by rw [waitingLater, waiting, append_assoc]⟩

theorem Reports.emit (silent : effects.filterMap exit? = []) (manager : JobManager σ) :
    Reports manager (manager.emit effects) :=
  ⟨[], by simp [ended, JobManager.emit, silent], (append_nil _).symm⟩

theorem exits_reports (outputs : List MonitorOutput) :
    (reports outputs).filterMap exit? = outputs.filterMap MonitorOutput.event? := by
  rw [reports, filterMap_filterMap]
  congr 1
  funext output
  cases output <;> rfl

theorem Reports.watch {turn : List MonitorOutput × ProcessExitMonitor} (manager : JobManager σ)
    (waits : turn.2.waiting = manager.monitor.waiting ++ turn.1.filterMap MonitorOutput.event?) :
    Reports manager (manager.watch turn) :=
  ⟨_, by rw [ended, JobManager.watch, filterMap_append, exits_reports]; rfl, waits⟩

theorem exits_signals (calls : List KillCall) : (calls.map signal).filterMap exit? = [] := by
  induction calls with
  | nil => rfl
  | cons _ _ ih => exact ih

theorem Reports.sendSignals (calls : List KillCall) (between : List ReaperAction) (manager : JobManager σ) :
    Reports manager (manager.sendSignals calls between) := by
  cases calls with
  | nil => simpa [JobManager.sendSignals, signalEffects] using Reports.refl manager
  | cons =>
    refine ⟨_, ?_, runActions_waiting between manager.monitor⟩
    simp only [ended, JobManager.sendSignals, signalEffects, filterMap_append, filterMap_cons, exits_signals, exit?,
      exits_reports, append_nil]

theorem Reports.spares (reports : Reports before after) (alive : ¬after.Ended identity) : ¬before.Ended identity := by
  rintro ⟨event, member, touches⟩
  obtain ⟨_, ended, _⟩ := reports
  exact alive ⟨event, by rw [ended]; exact mem_append_left _ member, touches⟩

end Ended

section Signals

section

variable (quiet : Quiet manager.log)
include quiet

/-- The signals of one operation are in order when their process is still there
after them. -/
theorem sendSignals_quiet (names : ∀ call ∈ calls, call.Names identity)
    (alive : calls ≠ [] → ¬(manager.sendSignals calls between).Ended identity) :
    Quiet (manager.sendSignals calls between).log := by
  cases calls with
  | nil => simpa [sendSignals, signalEffects] using quiet
  | cons first rest =>
    have spared : ∀ event, .exitReported event ∈ (manager.sendSignals (first :: rest) between).log →
        ∀ call ∈ first :: rest, ¬call.Names event.identity := by
      intro event reported call member named
      exact alive (by simp) ⟨event, mem_ended.mpr reported, call.target, names call member, named⟩
    have early : Quiet (manager.log ++ [first].map .signal) := by
      refine quiet.signals fun event reported call member => ?_
      rw [mem_singleton.mp member]
      exact spared event (mem_append_left _ reported) first (mem_cons_self ..)
    have late := early.silent (signals_reports (manager.monitor.runActions between).1)
    have later : ∀ event, .exitReported event ∈ manager.log ++ [first].map .signal ++
        reports (manager.monitor.runActions between).1 → ∀ call ∈ rest, ¬call.Names event.identity := by
      intro event reported call member
      refine spared event ?_ call (mem_cons_of_mem _ member)
      simpa [sendSignals, signalEffects] using reported
    simpa [sendSignals, signalEffects] using late.signals later

theorem destroy_quiet {job : SupervisedJob}
    (alive : ∀ supervisor ∈ job.supervisor, ¬(manager.sendSignals job.destroy between).Ended supervisor.identity) :
    Quiet (manager.sendSignals job.destroy between).log := by
  unfold SupervisedJob.destroy at alive ⊢
  cases own : job.supervisor with
  | none => simpa [sendSignals, signalEffects] using quiet
  | some supervisor =>
    rw [own] at alive
    exact sendSignals_quiet quiet (fun call member => names_of_mem_destroy member) fun _ => alive supervisor rfl

end

/-- The history is in order, and no exit was handed over since the start. -/
def Calm (start manager : JobManager σ) : Prop := Quiet manager.log ∧ Reports start manager

theorem Calm.refl (quiet : Quiet manager.log) : Calm manager manager := ⟨quiet, .refl manager⟩

section

variable {start : JobManager σ} (calm : Calm start manager)
include calm

theorem Calm.emit (silent : effects.filterMap signal? = []) (exits : effects.filterMap exit? = []) :
    Calm start (manager.emit effects) := ⟨calm.1.silent silent, calm.2.trans (.emit exits manager)⟩

theorem Calm.watch {turn : List MonitorOutput × ProcessExitMonitor}
    (waits : turn.2.waiting = manager.monitor.waiting ++ turn.1.filterMap MonitorOutput.event?) :
    Calm start (manager.watch turn) := ⟨calm.1.silent (signals_reports turn.1), calm.2.trans (.watch manager waits)⟩

theorem Calm.sendSignals (names : ∀ call ∈ calls, call.Names identity)
    (alive : calls ≠ [] → ¬(manager.sendSignals calls between).Ended identity) :
    Calm start (manager.sendSignals calls between) :=
  ⟨sendSignals_quiet calm.1 names alive, calm.2.trans (.sendSignals calls between manager)⟩

end

end Signals

section Conditions

/-- No exit of the process waits to be handed over, and no process that has
ended had its pid or its group before it. -/
def Alone (manager : JobManager σ) (identity : ProcessIdentity) : Prop :=
  (∀ event ∈ manager.monitor.waiting, event.identity ≠ identity) ∧
    ∀ event ∈ manager.ended, identity.Touches event.identity → event.identity = identity

/-- A child that is killed by a failed spawn has no pid of an ended process. The
identity of a process that is spawned is a new one, and if its launch is rolled
back, which leaves the entries as they were, nothing with its pid or its group
has ended by then. -/
def LaunchSpares (launch : LaunchInput) (before after : JobManager σ) : Prop :=
  match launch.spawn with
  | .error failure => ∀ pid ∈ failure.child, ∀ event ∈ after.ended, pid ∉ event.identity.targets
  | .ok identity => (∀ event ∈ before.ended, event.identity ≠ identity) ∧
    (after.supervised = before.supervised → ¬after.Ended identity)

/-- A cancellation of an active job and an escalation that is due meet an entry
that awaits its process, alone with its numbers. No entry is destroyed after the
exit of its process, and an exit is handed to the entry that awaits it. -/
def StepSpares (config : JobManagerConfig) (store : StateStore σ) (content : σ → StoreState) (manager : JobManager σ)
    (step : Step) : Prop :=
  let after := manager.step config store step
  (∀ launch ∈ manager.launching? step, LaunchSpares launch manager after) ∧
  match step with
  | .command _ =>
    match manager.commands with
    | .cancel id :: _ => ∀ record ∈ (content manager.backend).jobs.find? id, leaseable record.state = true →
      ∀ job ∈ manager.supervised.find? id, ∀ supervisor ∈ job.supervisor, supervisor.phase = .running →
        job.exited = false ∧ after.Alone supervisor.identity
    | _ => True
  | .exit _ => ∀ event ∈ manager.monitor.events.head?,
    (∀ id ∈ manager.byPid.find? event.pid, ∀ job ∈ manager.supervised.find? id,
      job.adopted = false ∧ job.pumpDone = false) ∧
    ∀ entry ∈ manager.supervised.entries, entry.2.exited = false → ∀ supervisor ∈ entry.2.supervisor,
      supervisor.identity = event.identity → manager.byPid.find? event.pid = some entry.1
  | .pumpDone _ => ∀ id ∈ manager.pump.done.head?, ∀ job ∈ manager.supervised.find? id, job.exited = false
  | .escalation id _ now => ∀ job ∈ manager.supervised.find? id, ∀ supervisor ∈ job.supervisor,
    job.grace.any (·.pending) = true → supervisor.graceExpired now = true →
      job.exited = false ∧ after.Alone supervisor.identity
  | _ => True

instance decidableStepSpares (config : JobManagerConfig) (store : StateStore σ) (content : σ → StoreState)
    (manager : JobManager σ) (step : Step) : Decidable (manager.StepSpares config store content step) := by
  have launches (launch : LaunchInput) (after : JobManager σ) : Decidable (LaunchSpares launch manager after) := by
    delta LaunchSpares
    rcases launch.spawn with _ | _ <;> infer_instance
  delta StepSpares Alone
  rcases step with _ | _ | _ | _ | _ | _ | _ | _ | _ | _ | _
  · rcases manager.commands with _ | ⟨_ | _ | _, _⟩ <;> infer_instance
  all_goals infer_instance

end Conditions

section ExitsWait

/-- As long as the entry of a process awaits its exit, an exit that was reported
for it waits to be handed over. -/
def ExitsWait (manager : JobManager σ) : Prop :=
  ∀ id identity, manager.Supervises True id identity → ∀ event ∈ manager.ended, event.identity = identity →
    event ∈ manager.monitor.waiting

theorem ExitsWait.mem {event : ExitEvent} (kept : before.ExitsWait) (reports : Reports before after)
    (known : before.Supervises True id identity ∨ ∀ event ∈ before.ended, event.identity ≠ identity)
    (member : event ∈ after.ended) (own : event.identity = identity) : event ∈ after.monitor.waiting := by
  obtain ⟨reported, ended, waiting⟩ := reports
  rw [ended] at member
  rw [waiting]
  rcases mem_append.mp member with old | new
  · rcases known with awaited | unknown
    · exact mem_append_left _ (kept id identity awaited event old own)
    · exact absurd own (unknown event old)
  · exact mem_append_right _ new

/-- A process that is awaited and alone with its numbers has not ended. -/
theorem ExitsWait.alive (kept : before.ExitsWait) (reports : Reports before after)
    (awaited : before.Supervises True id identity) (alone : after.Alone identity) : ¬after.Ended identity := by
  rintro ⟨event, member, touches⟩
  have own := alone.2 event member touches
  exact alone.1 event (kept.mem reports (.inl awaited) member own) own

/-- The history is in order, and the exits that are awaited are not lost. -/
def Orderly (manager : JobManager σ) : Prop := Quiet manager.log ∧ manager.ExitsWait

theorem Orderly.of_calm (orderly : before.Orderly) (calm : Calm before after)
    (entries : ∀ id identity, after.Supervises True id identity →
      before.Supervises True id identity ∨ ∀ event ∈ before.ended, event.identity ≠ identity) : after.Orderly :=
  ⟨calm.1, fun id identity awaited _ => orderly.2.mem calm.2 (entries id identity awaited)⟩

end ExitsWait

section Requests

variable {input : CancelInput} {start : JobManager σ}

theorem Begun.calm (begun : Begun input id before after) (calm : Calm start before)
    (alive : ∀ job ∈ before.supervised.find? id, ∀ supervisor ∈ job.supervisor, supervisor.phase = .running →
      ¬after.Ended supervisor.identity) : Calm start after := by
  cases begun with
  | ignored same => rwa [same]
  | signalled job next supervisor found own _ _ same =>
    have entered : Calm start { before with supervised := before.supervised.insert id next } := calm
    subst same
    refine entered.sendSignals (fun call member => names_of_mem_requestCancel member) ?_
    intro sent
    refine alive job found supervisor own ?_
    by_contra other
    exact sent (requestCancel_silent other)

theorem Begun.reports (begun : Begun input id before after) : Reports before after := by
  cases begun with
  | ignored same => rw [same]; exact .refl before
  | signalled job next _ _ _ _ _ same =>
    rw [same]
    exact .sendSignals _ _ { before with supervised := before.supervised.insert id next }

end Requests

section Launch

variable {input : LaunchInput} {uuid : GpuUuid} {reason : ByteString} {start : JobManager σ}

theorem failLaunch_calm (calm : Calm start manager) : Calm start (manager.failLaunch store input id uuid reason) :=
  ⟨calm.1.silent rfl, calm.2.trans (.emit rfl _)⟩

theorem rollBack_calm (calm : Calm start manager)
    (alive : ¬(manager.rollBack store input id uuid (.spawned policy identity) reason).Ended identity) :
    Calm start (manager.rollBack store input id uuid (.spawned policy identity) reason) := by
  have failed : Reports (manager.sendSignals (spawned policy identity).destroy input.destroying)
    (manager.rollBack store input id uuid (.spawned policy identity) reason) := .emit rfl _
  exact failLaunch_calm (calm.sendSignals (fun _ member => names_of_mem_destroy member) fun _ => failed.spares alive)

theorem startSpawned_calm (calm : Calm start manager)
    (spares : (manager.startSpawned config store input id uuid identity).supervised = manager.supervised →
      ¬(manager.startSpawned config store input id uuid identity).Ended identity) :
    Calm start (manager.startSpawned config store input id uuid identity) := by
  have asked (backend : σ) : Calm start ({ manager with backend }.registerProcess identity input.registering).2 :=
    calm.watch (registerProcess_waiting input.registering manager.monitor)
  have attaching (backend : σ) : Calm start
      (({ manager with backend }.registerProcess identity input.registering).2.runReaper input.attaching) :=
    (asked backend).watch (runActions_waiting input.attaching _)
  revert spares
  unfold startSpawned
  simp only
  split
  · exact fun spares => rollBack_calm (calm.emit rfl rfl) (spares rfl)
  · split
    · exact fun spares => rollBack_calm ((asked _).emit rfl rfl) (spares rfl)
    · split
      · intro spares
        refine rollBack_calm (Calm.watch ((attaching _).emit rfl rfl) ?_) (spares rfl)
        exact unregisterProcess_waiting input.unregistering _
      · exact fun _ => attaching _

theorem launchScheduled_calm (calm : Calm start manager)
    (spares : LaunchSpares input manager (manager.launchScheduled config store input id uuid)) :
    Calm start (manager.launchScheduled config store input id uuid) := by
  revert spares
  unfold launchScheduled
  split
  · exact fun _ => calm
  · rename_i loaded _
    let opened := { manager with backend := loaded }.emit [.streamOpened id]
    have opening : Calm start opened := calm.emit rfl rfl
    split
    · exact fun _ => calm
    · split
      · exact fun _ => calm
      · split
        · exact fun _ => failLaunch_calm calm
        · split
          · rename_i failure failed
            intro spares
            simp only [LaunchSpares, failed] at spares
            have spared : ∀ event, .exitReported event ∈ opened.log → ∀ call ∈ failure.child.toList.map (⟨·, .kill⟩),
                ¬KillCall.Names call event.identity := by
              intro event reported _ member
              obtain ⟨pid, child, isCall⟩ := mem_map.mp member
              refine isCall ▸ spares pid (Option.mem_toList.mp child) event (mem_ended.mpr ?_)
              exact mem_append_left _ (mem_append_left _ reported)
            have killed : Calm start (opened.emit ((failure.child.toList.map (⟨·, .kill⟩)).map .signal)) :=
              ⟨opening.1.signals spared, opening.2.trans (.emit (exits_signals _) opened)⟩
            have dropped : Calm start (JobManager.emit [.streamDropped id] _) := killed.emit rfl rfl
            simp only [JobManager.emit, map_map, append_assoc] at dropped
            exact failLaunch_calm dropped
          · rename_i spawned
            intro spares
            simp only [LaunchSpares, spawned] at spares
            exact startSpawned_calm (opening.emit rfl rfl) spares.2

theorem launchScheduled_orderly (orderly : manager.Orderly)
    (spares : LaunchSpares input manager (manager.launchScheduled config store input id uuid)) :
    (manager.launchScheduled config store input id uuid).Orderly := by
  refine orderly.of_calm (launchScheduled_calm (.refl orderly.1) spares) ?_
  rintro _ _ ⟨job, supervisor, found, alive, own, rfl⟩
  rcases launchScheduled_supervised input id uuid manager with same | ⟨_, spawned, entered, _⟩
  · rw [same.1] at found
    exact .inl ⟨job, supervisor, found, alive, own, rfl⟩
  · rw [entered] at found
    obtain ⟨_, rfl⟩ | found := SortedMap.insert_cases found
    · cases own
      simp only [LaunchSpares, spawned] at spares
      exact .inr spares.1
    · exact .inl ⟨job, supervisor, found, alive, own, rfl⟩

theorem scheduleNow_orderly {input : ScheduleInput} {trigger : SchedulerTrigger} (orderly : manager.Orderly)
    (spares : LaunchSpares input.launch manager (manager.scheduleNow config store input trigger)) :
    (manager.scheduleNow config store input trigger).Orderly := by
  revert spares
  unfold scheduleNow
  split
  · exact fun _ => orderly
  · split
    · exact fun _ => orderly
    · split
      · exact fun _ => orderly
      · simp only
        split
        · exact fun spares => launchScheduled_orderly orderly spares
        · exact fun _ => orderly

end Launch

section Events

theorem runEscalation_calm {kill : KillInput} {now : TimePoint} (orderly : manager.Orderly)
    (spares : ∀ job ∈ manager.supervised.find? id, ∀ supervisor ∈ job.supervisor,
      job.grace.any (·.pending) = true → supervisor.graceExpired now = true →
      job.exited = false ∧ (manager.runEscalation kill now id).Alone supervisor.identity) :
    Calm manager (manager.runEscalation kill now id) := by
  revert spares
  unfold runEscalation
  split
  · exact fun _ => .refl orderly.1
  · rename_i job found
    split
    · rename_i armed supervisor pending own
      intro spares
      let entered :=
        { manager with supervised := manager.supervised.insert id { job with grace := some ⟨armed, false⟩ } }
      have entering : Calm manager entered := .refl orderly.1
      refine entering.sendSignals (fun _ member => names_of_mem_escalate member) ?_
      intro sent
      have expired : supervisor.graceExpired now = true := by
        by_contra early
        exact sent (escalate_silent (by simpa using early))
      obtain ⟨awaited, alone⟩ := spares job found supervisor own (by simp [pending]) expired
      exact orderly.2.alive (.sendSignals _ _ entered) ⟨job, supervisor, found, fun _ => awaited, own, rfl⟩ alone
    · exact fun _ => .refl orderly.1

theorem stop_quiet (quiet : Quiet manager.log) : Quiet manager.stop.log := by
  have rejected : (rejectPending manager.commands).filterMap signal? = [] := by
    unfold rejectPending
    induction manager.commands with
    | nil => rfl
    | cons command _ ih => cases command <;> simpa [signal?] using ih
  have abandoned : manager.supervised.values.flatMap (fun job =>
      (job.supervisor.map (·.abandon.2.destroy)).getD []) = [] := by
    rw [flatMap_eq_nil_iff]
    intro job _
    cases job.supervisor <;> simp [abandon_destroy]
  simp only [stop, stopMonitor, abandonSupervised, emit, abandoned, map_nil, append_nil]
  exact quiet.silent rejected

/-- The exit that is handed over was awaited by the entry it leads to, or by
none. -/
theorem processExit_orderly {input : ExitInput} {event : ExitEvent} {rest : List ExitEvent}
    (next : manager.monitor.events = event :: rest) (orderly : manager.Orderly)
    (undestroyed : ∀ id ∈ manager.byPid.find? event.pid, ∀ job ∈ manager.supervised.find? id,
      job.adopted = false ∧ job.pumpDone = false)
    (attributed : ∀ entry ∈ manager.supervised.entries, entry.2.exited = false → ∀ supervisor ∈ entry.2.supervisor,
      supervisor.identity = event.identity → manager.byPid.find? event.pid = some entry.1) :
    (processExit config store input event
      { manager with monitor := { manager.monitor with events := rest } }).Orderly := by
  have left : ∀ id identity, manager.Supervises True id identity → manager.byPid.find? event.pid ≠ some id →
      ∀ reported ∈ manager.ended, reported.identity = identity → reported ∈ rest ++ manager.monitor.sending.toList := by
    intro id _ awaited elsewhere reported member own
    have waits := orderly.2 id _ awaited reported member own
    rw [waiting, next] at waits
    rcases mem_cons.mp waits with rfl | later
    · obtain ⟨job, supervisor, found, alive, process, rfl⟩ := awaited
      exact absurd (attributed (id, job) (SortedMap.find?_eq_some_iff.mp found) (alive trivial) supervisor process
        own.symm) elsewhere
    · exact later
  unfold processExit
  simp only
  split
  · rename_i unmapped
    exact ⟨orderly.1, fun id identity awaited => left id identity awaited (by simp [unmapped])⟩
  · rename_i id mapped
    split
    · rename_i missing
      refine ⟨orderly.1, fun other identity awaited => left other identity awaited ?_⟩
      obtain ⟨_, _, found, _⟩ := awaited
      rw [mapped]
      rintro ⟨⟩
      cases missing.symm.trans found
    · rename_i job found
      obtain ⟨own, unpumped⟩ := undestroyed id mapped job found
      rw [if_neg (by simp [own, unpumped])]
      refine ⟨orderly.1, ?_⟩
      rintro other identity ⟨entry, supervisor, atEntry, alive, process, same⟩
      change (manager.supervised.insert id _).find? other = _ at atEntry
      rw [SortedMap.find?_insert] at atEntry
      split at atEntry
      · cases atEntry
        cases alive trivial
      · rename_i different
        refine left other identity ⟨entry, supervisor, atEntry, alive, process, same⟩ ?_
        rw [mapped]
        exact fun here => different (Option.some.inj here).symm

end Events

section Steps

variable (faithful : Faithful limits store content)
include faithful

theorem processCancel_calm {input : CancelInput} (inv : StoreInvariant limits (content manager.backend))
    (orderly : manager.Orderly) (spares : ∀ record ∈ (content manager.backend).jobs.find? id,
      leaseable record.state = true → ∀ job ∈ manager.supervised.find? id, ∀ supervisor ∈ job.supervisor,
      supervisor.phase = .running → job.exited = false ∧
        (manager.processCancel store input id).Alone supervisor.identity) :
    Calm manager (manager.processCancel store input id) := by
  have begins (backend : σ) (outcome : JobCancelOutcome) (record : StoredJob)
      (found : (content manager.backend).jobs.find? id = some record) (active : leaseable record.state = true)
      (same : manager.processCancel store input id =
        (beginCancellation input id false { manager with backend }).emit [.cancelAck outcome]) :
      Calm manager (manager.processCancel store input id) := by
    have begun := beginCancellation_begun input id false { manager with backend }
    have answered : Reports (beginCancellation input id false { manager with backend })
        (manager.processCancel store input id) := by
      rw [same]
      exact .emit rfl _
    rw [same]
    refine (begun.calm (.refl orderly.1) ?_).emit rfl rfl
    intro job atJob supervisor own running
    obtain ⟨awaited, alone⟩ := spares record found active job atJob supervisor own running
    have here : manager.Supervises True id supervisor.identity := ⟨job, supervisor, atJob, fun _ => awaited, own, rfl⟩
    exact answered.spares (orderly.2.alive (.trans begun.reports answered) here alone)
  cases processCancel_handled faithful input id inv with
  | answered backend _ _ same | dequeued backend _ _ _ _ _ _ same =>
    rw [same]
    exact Calm.emit (.refl orderly.1) rfl rfl
  | stopped backend _ record _ found active _ same => exact begins backend _ record found active same
  | again backend _ record found stopping _ same => exact begins backend _ record found (by rw [stopping]; rfl) same

theorem step_orderly {step : Step} (inv : StoreInvariant limits (content manager.backend)) (orderly : manager.Orderly)
    (spares : manager.StepSpares config store content step) : (manager.step config store step).Orderly := by
  have took := step_took config store manager step
  have entries : ∀ id identity, (manager.step config store step).Supervises True id identity →
      manager.Supervises True id identity ∨ ∃ launch, manager.launching? step = some launch :=
    fun _ _ awaited => (step_supervises awaited).imp_right fun ⟨launch, turn, _⟩ => ⟨launch, turn⟩
  unfold StepSpares at spares
  generalize manager.step config store step = next at took entries spares ⊢
  have calms : Calm manager next → manager.launching? step = none → next.Orderly := by
    intro calm idle
    refine orderly.of_calm calm fun id identity awaited => .inl ?_
    rcases entries id identity awaited with was | ⟨_, turn⟩
    · exact was
    · cases idle.symm.trans turn
  obtain ⟨launches, spares⟩ := spares
  cases took with
  | aside | posted => exact orderly
  | submitted _ spec rest next =>
    have submitted : Calm manager (processSubmit store spec { manager with commands := rest }) := by
      obtain ⟨_, _, _, frame⟩ := processSubmit_frame store spec { manager with commands := rest }
      rw [frame]
      exact Calm.emit (.refl orderly.1) rfl rfl
    exact calms submitted (by simp only [launching?, next])
  | cancelled input id rest next =>
    simp only [next] at spares
    have cancelled : Calm { manager with commands := rest } (processCancel store input.cancel id _) :=
      processCancel_calm faithful inv orderly spares
    exact calms cancelled (by simp only [launching?, next])
  | woken input _ _ next =>
    exact scheduleNow_orderly orderly (launches input.schedule.launch (by simp only [launching?, next]; rfl))
  | observed input => exact scheduleNow_orderly orderly (launches input.launch rfl)
  | exited _ event _ next =>
    obtain ⟨undestroyed, attributed⟩ := spares event (by rw [next]; rfl)
    exact processExit_orderly next orderly undestroyed attributed
  | pumped _ id _ next =>
    refine calms ?_ rfl
    unfold processPumpDone
    split
    · exact .refl orderly.1
    · rename_i job found
      rw [if_neg (by simp [spares id (by rw [next]; rfl) job found])]
      exact .refl orderly.1
  | escalated id kill now => exact calms (runEscalation_calm orderly spares) rfl
  | reaped action =>
    exact calms (Calm.watch (.refl orderly.1) (runActions_waiting _ _)) rfl
  | stopped =>
    refine ⟨stop_quiet orderly.1, ?_⟩
    rintro _ _ ⟨_, _, found, _⟩
    cases found

end Steps

section Start

variable {input : AdoptionInput} {outcome : RecoveryJobOutcome} {pid : Int} {job : SupervisedJob} {record : StoredJob}

/-- The identity of a process that is taken over is new, and nothing with its pid
or its group has ended if its supervisor is destroyed or it is cancelled again. -/
def AdoptionSpares (store : StateStore σ) (input : AdoptionInput) (outcome : RecoveryJobOutcome)
    (before after : JobManager σ) : Prop :=
  ∀ record ∈ before.adopting store input outcome,
    (∀ event ∈ before.ended, event.identity ≠ record.execution.identity) ∧
    (¬before.Acknowledged input record ∨ before.supervised.contains outcome.jobId = true ∨
      outcome.decision = .adoptedStoppingNeedsRecancel → ¬after.Ended record.execution.identity)

/-- Every process of a worker that is given up is there when its turn comes. -/
def WorkerSpares (between : JobId → List ReaperAction) (manager : JobManager σ) : Prop :=
  Along (fun manager entry => manager.sendSignals entry.2.destroy (between entry.1))
    (fun manager entry => ∀ supervisor ∈ entry.2.supervisor,
      ¬(manager.sendSignals entry.2.destroy (between entry.1)).Ended supervisor.identity)
    { manager with supervised := .empty, byPid := .empty } manager.supervised.entries

def StartSpares (config : JobManagerConfig) (store : StateStore σ) (input : StartInput)
    (recovery : Option RecoveryResult) (manager : JobManager σ) : Prop :=
  manager.reachesAdoption config input = true →
    let arm := fun manager outcome => armOutcome config store (input.adoption outcome.jobId) outcome manager
    Along arm (fun manager outcome => AdoptionSpares store (input.adoption outcome.jobId) outcome manager
      (arm manager outcome)) manager.watching (recoveredOutcomes recovery) ∧
    (input.workerStarted = false → WorkerSpares input.destroying (manager.armedManager config store input recovery))

section

variable {start : JobManager σ} (calm : Calm start manager)
include calm

/-- The entry is new, or replaces one of the same process. -/
theorem supervise_calm (replaces : ∀ old ∈ manager.supervised.find? id, old.destroy = killCalls identity)
    (alive : manager.supervised.contains id = true → ¬(manager.supervise id pid job between).Ended identity) :
    Calm start (manager.supervise id pid job between) := by
  have entered : Calm start { manager with
    supervised := manager.supervised.insert id job
    byPid := manager.byPid.insert pid id } := calm
  unfold supervise at alive ⊢
  cases found : manager.supervised.find? id with
  | none => simpa [sendSignals, signalEffects] using entered
  | some old =>
    simp only [found, Option.map_some, Option.getD_some, replaces old found] at alive ⊢
    refine entered.sendSignals (fun _ => names_of_mem_killCalls) fun _ => alive ?_
    exact SortedMap.contains_eq_true.mpr ⟨old, found⟩

theorem enter_calm (replaces : ∀ old ∈ manager.supervised.find? outcome.jobId, old.destroy = killCalls identity)
    (own : job.supervisor = some (.spawned policy identity))
    (alive : manager.supervised.contains outcome.jobId = true ∨ outcome.decision = .adoptedStoppingNeedsRecancel →
      ¬(manager.enter input outcome pid job).Ended identity) : Calm start (manager.enter input outcome pid job) := by
  have entered : Calm start (manager.supervise outcome.jobId pid job input.destroying) :=
    supervise_calm calm replaces fun present => enter_begun.reports.spares (alive (.inl present))
  unfold enter at alive ⊢
  split
  · rename_i stopping
    rw [if_pos stopping] at alive
    refine (beginCancellation_begun input.cancel outcome.jobId true _).calm entered ?_
    intro _ atEntry _ atSupervisor _
    have here : (manager.supervise outcome.jobId pid job input.destroying).supervised.find? outcome.jobId = some job :=
      SortedMap.find?_insert_self ..
    cases here.symm.trans atEntry
    cases own.symm.trans atSupervisor
    exact alive (.inr stopping)
  · exact entered

end

theorem Armed.calm (armed : Armed content config store input outcome before after)
    (recorded : SupervisesRecorded content before) (quiet : Quiet before.log)
    (spares : AdoptionSpares store input outcome before after) : Calm before after := by
  have watches (backend : σ) (identity : ProcessIdentity) :
      Calm before ({ before with backend }.registerProcess identity input.registering).2 :=
    Calm.watch (.refl quiet) (registerProcess_waiting input.registering before.monitor)
  cases armed with
  | skipped _ _ _ same =>
    rw [same]
    exact .refl quiet
  | destroyed _ record _ _ _ _ taken refused same =>
    have alive := (spares record taken).2 (.inl refused)
    subst same
    exact (watches _ _).sendSignals (fun _ member => names_of_mem_destroy member) fun _ => alive
  | adopted _ record _ _ _ found _ taken _ supervisor _ same =>
    have alive := (spares record taken).2
    subst same
    exact enter_calm (watches _ _) (fun _ member => recorded.destroy_eq member found) supervisor
      fun signalled => alive (.inr signalled)

theorem start_orderly (faithful : Faithful limits store content) {input : StartInput}
    {recovery : Option RecoveryResult} (inv : StoreInvariant limits (content manager.backend))
    (unsupervised : manager.supervised = .empty) (quiet : Quiet manager.log)
    (spares : manager.StartSpares config store input recovery) :
    (manager.start config store input recovery).2.Orderly := by
  have vacant : ∀ other : JobManager σ, other.supervised = .empty → other.ExitsWait := by
    rintro other empty _ _ ⟨_, _, found, _⟩
    rw [empty] at found
    cases found
  have arming : manager.reachesAdoption config input = true →
      (manager.armedManager config store input recovery).Orderly := by
    intro reached
    refine (foldl_invariant (fun reached => Adopting limits content (content manager.backend) reached ∧ reached.Orderly)
      ?_ (spares reached).1 ⟨adopting_watching inv unsupervised, quiet, vacant _ unsupervised⟩).2
    intro _ outcome spared ⟨adopting, orderly⟩
    obtain ⟨armed, next⟩ := armOutcome_adopting faithful config (input.adoption outcome.jobId) outcome adopting
    refine ⟨next, orderly.of_calm (armed.calm adopting.recorded orderly.1 spared) fun _ _ awaited => ?_⟩
    refine (armed.supervises awaited).imp_right ?_
    rintro ⟨_, record, taken, rfl⟩
    exact (spared record taken).1
  cases start_started config store input recovery manager with
  | refused _ same =>
    rw [same]
    exact ⟨quiet, vacant _ unsupervised⟩
  | rejected reached unstarted same =>
    obtain ⟨_, _, empty, _⟩ := destroyWorker_frame input.destroying
      (manager.armedManager config store input recovery)
    rw [same]
    refine ⟨?_, vacant _ empty⟩
    exact foldl_invariant (fun manager => Quiet manager.log) (fun _ _ alive quiet => destroy_quiet quiet alive)
      ((spares reached).2 unstarted) (arming reached).1
  | running reached _ same =>
    rw [same]
    exact arming reached

end Start

/-- In every run whose start and steps spare the processes that have ended, no
signal names a process after its exit was reported. -/
theorem no_signal_after_exit {σ : Type} {limits : ValidationConfig} {store : StateStore σ} {content : σ → StoreState}
    (faithful : Faithful limits store content) (config : JobManagerConfig) (manager : JobManager σ)
    (inv : StoreInvariant limits (content manager.backend)) (unsupervised : manager.supervised = .empty)
    (quiet : Quiet manager.log) (input : StartInput) (recovery : Option RecoveryResult)
    (adopted : manager.StartSpares config store input recovery) (steps : List Step)
    (spared : Guarded.Along (step config store) (StepSpares config store content)
      (manager.start config store input recovery).2 steps) :
    Quiet ((manager.start config store input recovery).2.run config store steps).log := by
  have started := start_grounded faithful config input recovery (.of_unsupervised inv unsupervised)
  refine (Guarded.foldl_invariant (fun manager => Grounded limits content manager ∧ manager.Orderly) ?_ spared
    ⟨started, start_orderly faithful inv unsupervised quiet adopted⟩).2.1
  intro _ step spares ⟨grounded, orderly⟩
  exact ⟨step_grounded faithful config step grounded, step_orderly faithful grounded.stored orderly spares⟩

/-- A job runs, exits by itself, and its log ends. -/
def finishedJobSteps : List Step :=
  [.command (launching ⟨100, 100, 7⟩), .reaper (.scan 100 (some 7) (.reaped ⟨.exited, 0, 0⟩)), .reaper .send,
    .exit { endClock := fun _ => 30 }, .pumpFinished ⟨1⟩, .pumpDone []]

/-- Its supervisor still takes the process for running when it is destroyed. -/
theorem signal_after_exit :
    ¬Quiet (twoQueuedStarted.run {} (InMemoryStateStore.store {}) finishedJobSteps).log := by
  intro quiet
  have reaped : [.exitReported ⟨100, ⟨100, 100, 7⟩, ⟨.exited, 0, 0⟩, true⟩, .signal ⟨-100, .kill⟩].Sublist
    (twoQueuedStarted.run {} (InMemoryStateStore.store {}) finishedJobSteps).log := by decide
  have ordered := quiet.sublist reaped
  simp only [pairwise_cons, mem_singleton, forall_eq] at ordered
  exact ordered.1 _ _ rfl rfl (by decide)

/-- One job has exited and its log is still open when the other is cancelled. -/
def openLogSteps : List Step :=
  let idle : CommandInput := { schedule := { launch := { spawn := .error { code := .forkFailed } } } }
  ownPidSteps ++ [.exit { endClock := fun _ => 30 }, .post (.cancel ⟨2⟩), .command idle, .command idle]

theorem no_signal_after_exit_open_log :
    let reached := twoQueuedStarted.run {} (InMemoryStateStore.store {}) openLogSteps
    .signal ⟨-200, .term⟩ ∈ reached.log ∧ Quiet reached.log := by
  have adopted : twoQueuedManager.StartSpares {} (InMemoryStateStore.store {}) {} (some twoQueuedRecovery.1) := by
    intro _
    refine ⟨⟨?_, ?_, trivial⟩, fun unstarted => absurd unstarted (by decide)⟩
    · intro _ taken
      cases taken
    · intro _ taken
      cases taken
  refine ⟨by decide, ?_⟩
  exact no_signal_after_exit (InMemoryStateStore.faithful {}) {} twoQueuedManager twoQueuedManager_grounded.stored rfl
    Pairwise.nil {} (some twoQueuedRecovery.1) adopted openLogSteps (by decide)

end JobManager

end Yori
