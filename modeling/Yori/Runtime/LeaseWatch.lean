import Yori.Runtime.StartSignals
import Yori.Runtime.Watched

namespace Yori.JobManager
open MutationCore JobRecovery InMemoryStateStore SortedMap ProcessExitMonitor

section Leases

variable {σ : Type} {store : StateStore σ} {limits : ValidationConfig} {content : σ → StoreState}
  {config : JobManagerConfig} {id other : JobId} {manager before after : JobManager σ}
  {watched : JobManager (σ × Bool)}

section Steps

theorem Attends.of_parts (attends : Attends content before) (tables : content after.backend = content before.backend)
    (supervised : after.supervised = before.supervised) (byPid : after.byPid = before.byPid)
    (monitor : after.monitor = before.monitor) : Attends content after := by
  have idle : after.monitor = (before.monitor.runActions []).2 := monitor
  refine attends.of_same tables ?_ byPid idle
  intro _ job found waits
  exact ⟨job, by rw [supervised]; exact found, waits⟩

/-- The process that a step spawns has a pid that no other job is mapped to. -/
def StepUnmapped (manager : JobManager σ) (step : Step) : Prop :=
  ∀ launch ∈ manager.launching? step, manager.SpawnsUnmapped launch

instance decidableSpawnsUnmapped (launch : LaunchInput) (manager : JobManager σ) :
    Decidable (manager.SpawnsUnmapped launch) :=
  decidable_of_iff (∀ identity ∈ launch.spawn.toOption, manager.byPid.find? identity.pid = none) (by
    cases spawn : launch.spawn <;> simp [SpawnsUnmapped, spawn, Except.toOption])

instance decidableStepUnmapped (manager : JobManager σ) (step : Step) : Decidable (manager.StepUnmapped step) :=
  inferInstanceAs (Decidable (∀ launch ∈ manager.launching? step, manager.SpawnsUnmapped launch))

theorem step_attends (faithful : Faithful limits store content) {step : Step}
    (grounded : Grounded limits (fun backend => content backend.1) watched)
    (attends : watched.running = true → Attends (fun backend => content backend.1) watched)
    (unmapped : watched.StepUnmapped step) (noted : (watched.step config (noting store) step).backend.2 = true)
    (running : (watched.step config (noting store) step).running = true) :
    Attends (fun backend => content backend.1) (watched.step config (noting store) step) := by
  have alive : watched.running = true := by
    cases stopped : watched.running with
    | true => rfl
    | false => rwa [step_of_stopped stopped, stopped] at running
  replace attends := attends alive
  have taken (rest : List Command) : Attends (fun backend => content backend.1) { watched with commands := rest } :=
    attends.of_parts rfl rfl rfl rfl
  have faithfulNoting := noting_faithful faithful
  have took := step_took config (noting store) watched step
  generalize watched.step config (noting store) step = next at noted running took ⊢
  cases took with
  | aside | posted => exact attends.of_parts rfl rfl rfl rfl
  | submitted _ spec rest =>
    exact (processSubmit_attends faithfulNoting spec (by exact grounded.stored) (taken rest)).of_parts rfl rfl rfl rfl
  | cancelled input target rest =>
    exact (processCancel_attends faithfulNoting input.cancel target (by exact grounded.stored) (taken rest)).of_parts
      rfl rfl rfl rfl
  | woken input trigger rest commands =>
    have free : watched.SpawnsUnmapped input.schedule.launch :=
      unmapped input.schedule.launch (by simp [launching?, commands])
    exact scheduleNow_attends faithful config input.schedule trigger grounded.stored (taken rest) free noted
  | observed input =>
    have free : watched.SpawnsUnmapped input.launch := unmapped input.launch rfl
    exact scheduleNow_attends faithful config input .gpuStateChanged grounded.stored
      (attends.of_parts rfl rfl rfl rfl) free noted
  | exited input _ _ events => exact processExit_attends faithful config input grounded attends events noted
  | pumped between target =>
    exact processPumpDone_attends between target (attends.of_parts rfl rfl rfl rfl)
  | escalated target kill now => exact runEscalation_attends kill now target attends
  | reaped action =>
    have turns : (watched.runReaper [action]).monitor = (watched.monitor.runActions [action]).2 := rfl
    exact attends.of_same rfl (fun _ job found waits => ⟨job, found, waits⟩) rfl turns
  | stopped => simp [stop, stopMonitor, abandonSupervised, emit] at running

end Steps

section Adoption

variable {input : AdoptionInput} {outcome : RecoveryJobOutcome}

/-- The process of a job that recovery decided to take over is found again, and
its registration is acknowledged. -/
def TakesOver (store : StateStore σ) (input : AdoptionInput) (manager : JobManager σ) (outcome : RecoveryJobOutcome) :
    Prop :=
  adopts outcome.decision = true →
    ∃ record, manager.adopting store input outcome = some record ∧ manager.Acknowledged input record

/-- The process that is taken over has a pid that no other job is mapped to. -/
def AdoptsUnmapped (store : StateStore σ) (input : AdoptionInput) (manager : JobManager σ)
    (outcome : RecoveryJobOutcome) : Prop :=
  ∀ record, manager.adopting store input outcome = some record →
    manager.byPid.find? record.execution.identity.pid = none

instance decidableTakesOver (store : StateStore σ) (input : AdoptionInput) (manager : JobManager σ)
    (outcome : RecoveryJobOutcome) : Decidable (TakesOver store input manager outcome) :=
  decidable_of_iff (adopts outcome.decision = true →
      (manager.adopting store input outcome).any fun record => decide (manager.Acknowledged input record)) (by
    simp [TakesOver, Option.any_eq_true])

instance decidableAdoptsUnmapped (store : StateStore σ) (input : AdoptionInput) (manager : JobManager σ)
    (outcome : RecoveryJobOutcome) : Decidable (AdoptsUnmapped store input manager outcome) :=
  inferInstanceAs (Decidable (∀ record ∈ manager.adopting store input outcome,
    manager.byPid.find? record.execution.identity.pid = none))

theorem Spares.supervise {pid : Int} (unmapped : manager.byPid.find? pid = none) (job : SupervisedJob)
    (between : List ReaperAction) : Spares id manager (manager.supervise id pid job between) := by
  have inserted : Spares id manager
      { manager with supervised := manager.supervised.insert id job, byPid := manager.byPid.insert pid id } := by
    exact ⟨fun other different => find?_insert_of_ne _ _ different,
      fun _ _ _ mapped => find?_insert_of_absent unmapped mapped, fun _ _ _ _ _ guards => guards,
      fun ticketed => ticketed⟩
  exact inserted.trans (.sendSignals ..)

theorem Begun.spares {cancel : CancelInput} (begun : Begun cancel id before after) : Spares id before after := by
  obtain ⟨_, turns, _⟩ := begun.turns
  cases begun with
  | ignored same =>
    rw [same]
    exact .refl id before
  | signalled _ next _ _ _ _ _ same =>
    rw [same]
    have inserted : Spares id before { before with supervised := before.supervised.insert id next } :=
      .of_entry (fun _ different => find?_insert_of_ne _ _ different) rfl rfl
    exact inserted.trans (.sendSignals ..)

/-- An adoption leaves the watch over other jobs alone. -/
theorem Armed.spares (armed : Armed content config store input outcome before after)
    (unmapped : AdoptsUnmapped store input before outcome) : Spares outcome.jobId before after := by
  cases armed with
  | skipped _ _ _ same =>
    rw [same]
    exact .of_entry (fun _ _ => rfl) rfl rfl
  | destroyed backend _ _ _ _ _ _ _ same =>
    have loaded : Spares outcome.jobId before { before with backend } := .of_entry (fun _ _ => rfl) rfl rfl
    rw [same]
    exact (loaded.trans (.registerProcess ..)).trans (.sendSignals ..)
  | adopted backend record job _ _ _ _ taken _ _ _ same =>
    let watching := ({ before with backend }.registerProcess record.execution.identity input.registering).2
    have loaded : Spares outcome.jobId before { before with backend } := .of_entry (fun _ _ => rfl) rfl rfl
    have free : watching.byPid.find? record.execution.identity.pid = none := unmapped record taken
    have entered := (loaded.trans (.registerProcess ..)).trans (Spares.supervise free job input.destroying)
    rw [same]
    exact entered.trans enter_begun.spares

/-- An adoption that is carried through attends its job. -/
theorem Armed.attended (armed : Armed content config store input outcome before after)
    (takes : TakesOver store input before outcome) (adopted : adopts outcome.decision = true)
    (fits : AdoptionFits (content before.backend) outcome) (ticketed : before.monitor.Ticketed) :
    Attended content after outcome.jobId := by
  obtain ⟨_, taken, answered⟩ := takes adopted
  have sameTables := armed.backend
  cases armed with
  | skipped _ _ untaken => simp [untaken] at taken
  | destroyed _ _ _ _ _ _ atRecord refused =>
    rw [atRecord] at taken
    exact absurd (Option.some.inj taken ▸ answered) refused
  | adopted backend record job _ adopted found _ _ registered _ flags same =>
    let watching := ({ before with backend }.registerProcess record.execution.identity input.registering).2
    let entered := watching.supervise outcome.jobId record.execution.identity.pid job input.destroying
    have atJob : entered.supervised.find? outcome.jobId = some job := find?_insert_self ..
    have mapped : entered.byPid.find? record.execution.identity.pid = some outcome.jobId :=
      find?_insert_self ..
    have guards : entered.monitor.Guards record.execution.identity.pid record.execution.identity := by
      obtain ⟨turns, monitor⟩ := sendSignals_turns
        (((watching.supervised.find? outcome.jobId).map (·.destroy)).getD []) input.destroying
        { watching with
          supervised := watching.supervised.insert outcome.jobId job
          byPid := watching.byPid.insert record.execution.identity.pid outcome.jobId }
      have same : entered.monitor = (watching.monitor.runActions turns).2 := monitor
      rw [same]
      exact runActions_guards turns
        (registerProcess_answered ticketed registered)
    obtain ⟨_, atFitting, state⟩ := fits adopted
    have busy : record.state ≠ .queued := by
      rw [found] at atFitting
      rw [Option.some.inj atFitting, state]
      split <;> nofun
    rw [← sameTables] at found
    rw [same] at found ⊢
    unfold enter at found ⊢
    simp only at found ⊢
    split at found
    · rename_i again
      rw [if_pos again]
      have begun := beginCancellation_begun input.cancel outcome.jobId true entered
      obtain ⟨byPid, turns, monitor⟩ := begun.turns
      refine ⟨begun.waits atJob flags.2, record, found, busy, by rw [byPid]; exact mapped, ?_⟩
      rw [monitor]
      exact runActions_guards turns guards
    · rename_i once
      rw [if_neg once]
      exact ⟨⟨job, atJob, flags.2⟩, record, found, busy, mapped, guards⟩

/-- The adoptions of a start, one after the other. -/
theorem armRecovery_attended (faithful : Faithful limits store content) {input : JobId → AdoptionInput}
    {outcomes : List RecoveryJobOutcome} (inv : StoreInvariant limits (content manager.backend))
    (fits : ∀ outcome ∈ outcomes, AdoptionFits (content manager.backend) outcome)
    (takes : ∀ turn ∈ manager.adoptionTurns config store input outcomes,
      TakesOver store (input turn.2.jobId) turn.1 turn.2 ∧ AdoptsUnmapped store (input turn.2.jobId) turn.1 turn.2)
    (ticketed : manager.monitor.Ticketed) :
    let armed := manager.armRecovery config store input outcomes
    armed.monitor.Ticketed ∧ (∀ id, Attended content manager id → Attended content armed id) ∧
      ∀ outcome ∈ outcomes, adopts outcome.decision = true → Attended content armed outcome.jobId := by
  induction outcomes generalizing manager with
  | nil => exact ⟨ticketed, fun _ attended => attended, by simp⟩
  | cons outcome _ ih =>
    obtain ⟨first, later⟩ := List.forall_mem_cons.mp takes
    obtain ⟨fitsFirst, _⟩ := List.forall_mem_cons.mp fits
    have armed := armOutcome_armed faithful config (input outcome.jobId) outcome inv
    have spares := armed.spares first.2
    have own := fun adopted => armed.attended first.1 adopted fitsFirst ticketed
    have sameTables := armed.backend
    have kept : ∀ id, Attended content manager id →
        Attended content (manager.armOutcome config store (input outcome.jobId) outcome) id := by
      intro id attended
      by_cases here : id = outcome.jobId
      · cases adopted : adopts outcome.decision with
        | false =>
          simp only [armOutcome, adopted, Bool.not_false, if_true]
          exact attended
        | true => exact here ▸ own adopted
      · exact attended.of_spared spares here (by rw [sameTables])
    obtain ⟨last, keeps, entered⟩ := ih (by rwa [sameTables]) (by rwa [sameTables]) later (spares.ticketed ticketed)
    refine ⟨last, fun id attended => keeps id (kept id attended), ?_⟩
    intro other member adopted
    rcases List.mem_cons.mp member with here | further
    · subst here
      exact keeps _ (own adopted)
    · exact entered other further adopted

end Adoption

section Recovered

variable {verifier : IdentityVerifier} {now : TimePoint} {queue : GlobalJobQueue} {backend : σ}

section

variable (faithful : Faithful limits store content) (inv : StoreInvariant limits (content backend))
  (recovered : (recover store verifier now queue backend).1.code = none)
include faithful inv recovered

/-- A job that holds a device after a successful recovery is one that recovery
decided to take over. -/
theorem recover_leased {uuid : GpuUuid}
    {lease : GpuLease}
    (held : (content (recover store verifier now queue backend).2.2).leases.find? uuid = some lease) :
    ∃ outcome ∈ (recover store verifier now queue backend).1.outcomes,
      outcome.jobId = lease.jobId ∧ adopts outcome.decision = true := by
  have settled := (recover_outcome faithful inv).of_success recovered
  have invAfter : StoreInvariant limits (content (recover store verifier now queue backend).2.2) :=
    recover_invariant faithful inv
  obtain ⟨_, atOwner, active⟩ :=
    ownerLeaseable_iff.mp (invAfter.owner_leaseable (mem_values.mpr ⟨uuid, held⟩))
  rw [settled.rows, Option.map_eq_some_iff] at atOwner
  obtain ⟨record, found, same⟩ := atOwner
  subst same
  rw [recoveredRecord_leaseable, Bool.and_eq_true, ← isActive_eq_leaseable] at active
  have key := inv.jobKeys lease.jobId record found
  have holds : confirmed verifier record = true := by
    simpa [abandoned, active.1] using active.2
  rw [recover_outcomes faithful recovered]
  refine ⟨(planJob verifier now (content backend).snapshot record).1, ?_, ?_, ?_⟩
  · simp only [plan, List.map_map, List.mem_map, Function.comp_apply]
    exact ⟨record, inv.mem_snapshot.mpr (by rw [key]; exact found), rfl⟩
  · rw [planJob_jobId, key]
  · rw [planJob_decision, if_pos active.1, activeDecision_of_confirmed holds]
    split <;> rfl

/-- Recovery reports about each job once. -/
theorem recover_distinct :
    ((recover store verifier now queue backend).1.outcomes.map (·.jobId)).Nodup := by
  rw [recover_outcomes faithful recovered]
  have ids : (plan verifier now (content backend).snapshot).outcomes.map (·.jobId) =
      (content backend).snapshot.jobs.map (·.id) := by
    simp only [plan, List.map_map]
    refine List.map_congr_left ?_
    intro _ _
    exact planJob_jobId
  rw [ids]
  exact inv.distinctIds

end

end Recovered

section Start

variable {input : StartInput} {recovery : RecoveryResult}

theorem recoveredOutcomes_of_success (ok : recovery.code = none) :
    recoveredOutcomes (some recovery) = recovery.outcomes := by
  have filtered : (some recovery).filter (·.ok) = some recovery := by
    rw [Option.filter_some, if_pos (by simp [RecoveryResult.ok, ok])]
  rw [recoveredOutcomes, filtered]
  rfl

theorem start_running (started : (manager.start config store input (some recovery)).1.code = .started)
    (ok : recovery.code = none) : (manager.start config store input (some recovery)).2 =
      { manager.watching.armRecovery config store input.adoption recovery.outcomes with running := true }.postWake
        config .recoveryCompleted := by
  unfold start at started ⊢
  split at started
  · simp at started
  · split at started
    · simp at started
    · rename_i idle fresh
      rw [if_neg idle, if_neg fresh]
      split at started
      · simp at started
      · simp at started
      · simp at started
      · simp at started
      · split at started
        · simp at started
        · rename_i piped
          simp only at started ⊢
          split at started
          · simp at started
          · rename_i worker
            rw [if_neg piped, if_neg worker]
            change ({ manager.watching.armRecovery config store input.adoption (recoveredOutcomes (some recovery)) with
              running := true }).postWake config .recoveryCompleted = _
            rw [recoveredOutcomes_of_success ok]

section Booted

variable (faithful : Faithful limits store content) (boots : Boots limits store content manager (some recovery))
  (recovered : recovery.code = none)
include faithful boots recovered

/-- The worker comes up over a store whose leases are those of the jobs that
recovery decided to take over. -/
theorem Boots.leased : manager.supervised = .empty ∧ StoreInvariant limits (content manager.backend) ∧
    (recovery.outcomes.map (·.jobId)).Nodup ∧
    (∀ outcome ∈ recovery.outcomes, AdoptionFits (content manager.backend) outcome) ∧
    ∀ uuid lease, (content manager.backend).leases.find? uuid = some lease →
      ∃ outcome ∈ recovery.outcomes, outcome.jobId = lease.jobId ∧ adopts outcome.decision = true := by
  obtain ⟨unsupervised, inv, _, fits⟩ := boots.ready faithful
  rw [recoveredOutcomes_of_success recovered] at fits
  cases boots with
  | recovered _ _ _ _ backend _ stored =>
    have invBefore : StoreInvariant limits (content backend) := by
      rw [stored]
      exact runMutations_invariant _ _
    exact ⟨unsupervised, inv, recover_distinct faithful invBefore recovered, fits,
      fun _ _ held => recover_leased faithful invBefore recovered held⟩

/-- A start that carries all adoptions through attends every job with a device. -/
theorem start_attends (idle : manager.monitor.commands = [])
    (started : (manager.start config store input (some recovery)).1.code = .started)
    (unmapped : ∀ turn ∈ manager.watching.adoptionTurns config store input.adoption recovery.outcomes,
      AdoptsUnmapped store (input.adoption turn.2.jobId) turn.1 turn.2)
    (takes : ∀ turn ∈ manager.watching.adoptionTurns config store input.adoption recovery.outcomes,
      TakesOver store (input.adoption turn.2.jobId) turn.1 turn.2) :
    Attends content (manager.start config store input (some recovery)).2 := by
  obtain ⟨unsupervised, inv, _, fits, leased⟩ := boots.leased faithful recovered
  obtain ⟨adopting, _⟩ := armRecovery_turns faithful config input.adoption recovery.outcomes
    (adopting_watching inv unsupervised)
  have ticketed : manager.watching.monitor.Ticketed := by
    intro command member
    have pending : command ∈ manager.monitor.commands := member
    simp [idle] at pending
  have invWatching : StoreInvariant limits (content manager.watching.backend) := inv
  obtain ⟨last, _, entered⟩ := armRecovery_attended faithful invWatching fits
    (fun turn member => ⟨takes turn member, unmapped turn member⟩) ticketed
  have armed : Attends content (manager.watching.armRecovery config store input.adoption recovery.outcomes) := by
    refine ⟨?_, last⟩
    intro uuid lease held
    rw [adopting.same] at held
    obtain ⟨outcome, member, own, adopted⟩ := leased uuid lease held
    exact own ▸ entered outcome member adopted
  rw [start_running started recovered]
  exact armed.of_parts rfl rfl rfl rfl

/-- A job that is not taken over keeps its device, and has no entry. -/
theorem start_takesOver (started : (manager.start config store input (some recovery)).1.code = .started)
    (watches : EveryLeaseWatched content (manager.start config store input (some recovery)).2) :
    ∀ turn ∈ manager.watching.adoptionTurns config store input.adoption recovery.outcomes,
      TakesOver store (input.adoption turn.2.jobId) turn.1 turn.2 := by
  obtain ⟨unsupervised, inv, distinct, fits, _⟩ := boots.leased faithful recovered
  obtain ⟨adopting, _, contains⟩ := armRecovery_turns faithful config input.adoption recovery.outcomes
    (adopting_watching inv unsupervised)
  intro turn member adopted
  obtain ⟨record, found, state⟩ := fits turn.2 (Guarded.input_mem_of_mem_turns member) adopted
  have active : leaseable record.state = true := by
    rw [state]
    split <;> rfl
  obtain ⟨uuid, lease, held, own⟩ := inv.held found active
  rw [start_running started recovered] at watches
  have heldAfter : (content (manager.watching.armRecovery config store input.adoption
      recovery.outcomes).backend).leases.find? uuid = some lease := by
    rw [adopting.same]
    exact held
  obtain ⟨job, _, atJob, _⟩ := watches uuid lease heldAfter
  obtain ⟨other, atOther, same, taken⟩ :=
    ((contains lease.jobId).mp (contains_eq_true.mpr ⟨job, atJob⟩)).resolve_left
      (by simp [watching, unsupervised])
  have here : other = turn := Guarded.turn_unique distinct atOther member (same.symm.trans own)
  rwa [here] at taken

end Booted

/-- A start watches every lease exactly when each process that recovery decided
to take over is still found and is registered. From such a start on, as long as
no store access fails and no spawned process is given a pid that is still mapped,
every lease is watched at every moment of the run. -/
theorem leases_watched (faithful : Faithful limits store content) (config : JobManagerConfig)
    (boots : Boots limits (noting store) (fun backend => content backend.1) watched (some recovery))
    (recovered : recovery.code = none) (idle : watched.monitor.commands = []) (input : StartInput)
    (started : (watched.start config (noting store) input (some recovery)).1.code = .started)
    (unmapped : ∀ turn ∈ watched.watching.adoptionTurns config (noting store) input.adoption recovery.outcomes,
      AdoptsUnmapped (noting store) (input.adoption turn.2.jobId) turn.1 turn.2) :
    let begun := (watched.start config (noting store) input (some recovery)).2
    let takesOver := ∀ turn ∈ watched.watching.adoptionTurns config (noting store) input.adoption recovery.outcomes,
      TakesOver (noting store) (input.adoption turn.2.jobId) turn.1 turn.2
    (EveryLeaseWatched (fun backend => content backend.1) begun ↔ takesOver) ∧
      (takesOver → ∀ steps, Guarded.Along (fun manager step => manager.step config (noting store) step)
        (fun manager step => manager.StepUnmapped step ∧ (manager.step config (noting store) step).backend.2 = true)
        begun steps → (begun.run config (noting store) steps).running = true →
          EveryLeaseWatched (fun backend => content backend.1) (begun.run config (noting store) steps)) := by
  intro begun takesOver
  have noted := noting_faithful faithful
  have attends := start_attends noted boots recovered idle started unmapped
  refine ⟨⟨start_takesOver noted boots recovered started, fun takes => (attends takes).watched⟩, ?_⟩
  intro takes _ along running
  obtain ⟨unsupervised, inv, _⟩ := boots.leased noted recovered
  have grounded : Grounded limits (fun backend => content backend.1) watched := .of_unsupervised inv unsupervised
  -- the invariant of the run: the tables are sound, and while the worker runs each job with a device is attended
  have kept := Guarded.foldl_invariant
    (fun manager => Grounded limits (fun backend => content backend.1) manager ∧
      (manager.running = true → Attends (fun backend => content backend.1) manager))
    (fun manager step condition kept => ⟨step_grounded noted config step kept.1,
      step_attends faithful kept.1 kept.2 condition.1 condition.2⟩)
    along ⟨start_grounded noted config input (some recovery) grounded, fun _ => attends takes⟩
  exact (kept.2 running).watched

end Start

end Leases

section Unwatched

/-- The recovery of the store left by a crash, with the running process found,
over a store that notes its failures. -/
def notedRecovery : RecoveryResult × GlobalJobQueue × StoreState × Bool :=
  recover (noting (plainStore {})) (fun _ => .verified) 30 (.empty 8)
    (crashed, true)

def notedManager : JobManager (StoreState × Bool) where
  backend := notedRecovery.2.2
  queue := notedRecovery.2.1

/-- The running process ends after recovery has found it and before it is
adopted. No store access fails, but its device stays leased and nothing waits
for its job. -/
theorem lease_unwatched :
    let begun := notedManager.start {} (noting (InMemoryStateStore.plainStore {}))
      { adoption := fun _ => { verified := false } } (some notedRecovery.1)
    notedRecovery.1.code = none ∧ begun.1.code = .started ∧ begun.2.backend.2 = true ∧
      ¬EveryLeaseWatched (fun backend => backend.1) begun.2 := by
  intro begun
  refine ⟨by decide, by decide, by decide, ?_⟩
  intro watches
  have held : begun.2.backend.1.leases.find? ⟨.ascii "GPU-0"⟩ = some ⟨⟨.ascii "GPU-0"⟩, ⟨1⟩⟩ := by decide
  have absent : begun.2.supervised.find? ⟨1⟩ = none := by decide
  obtain ⟨_, _, found, _⟩ := watches _ _ held
  simp [absent] at found

theorem leases_watched_adopted :
    let input : StartInput := { adoption := fun _ => { registering := [.applyCommand .noChild (some 7) .noChild] } }
    EveryLeaseWatched (fun backend => backend.1)
      ((notedManager.start {} (noting (InMemoryStateStore.plainStore {})) input (some notedRecovery.1)).2.run {}
        (noting (InMemoryStateStore.plainStore {})) [.command (launching ⟨200, 200, 8⟩), .post (.cancel ⟨1⟩)]) := by
  intro input
  refine (leases_watched (InMemoryStateStore.plainStore_reliable {}).toFaithful {}
    (.recovered _ (fun _ => .verified) 30 (.empty 8) (JobRecovery.crashed, true) notedManager rfl rfl) (by decide) rfl
    input (by decide) (by decide)).2 (by decide) _ ?_ (by decide)
  decide

end Unwatched

end Yori.JobManager
