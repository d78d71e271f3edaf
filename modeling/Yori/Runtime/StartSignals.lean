import Yori.Runtime.Attribution

namespace Yori
open MutationCore SortedMap ProcessSupervisor Guarded Effect

def Effect.signal? : Effect → Option KillCall
  | .signal call => some call
  | _ => none

namespace JobManager

variable {σ : Type} {store : StateStore σ} {limits : ValidationConfig} {content : σ → StoreState}
  {config : JobManagerConfig} {manager before after : JobManager σ} {outcomes : List RecoveryJobOutcome}
  {outcome : RecoveryJobOutcome} {call : KillCall} {state : StoreState} {record : StoredJob}

/-- All signals sent so far, in their order. -/
def signalled (manager : JobManager σ) : List KillCall := manager.log.filterMap signal?

section Signalled

theorem signals_reports (outputs : List MonitorOutput) : (reports outputs).filterMap signal? = [] := by
  induction outputs with
  | nil => rfl
  | cons output _ ih => cases output <;> simpa [reports, signal?] using ih

theorem registerProcess_signalled (identity : ProcessIdentity) (turns : List ReaperAction) :
    (manager.registerProcess identity turns).2.signalled = manager.signalled := by
  simp [signalled, registerProcess, watch, signals_reports]

theorem sendSignals_signalled (calls : List KillCall) (between : List ReaperAction) (manager : JobManager σ) :
    (manager.sendSignals calls between).signalled = manager.signalled ++ calls := by
  cases calls with
  | nil => simp [signalled, sendSignals, signalEffects]
  | cons _ rest =>
    have plain : (rest.map signal).filterMap signal? = rest := by
      induction rest with
      | nil => rfl
      | cons _ _ ih => simpa [signal?] using ih
    simp [signalled, sendSignals, signalEffects, signals_reports, plain, signal?]

theorem destroyWorker_signalled (between : JobId → List ReaperAction) :
    (manager.destroyWorker between).signalled =
      manager.signalled ++ manager.supervised.values.flatMap (·.destroy) := by
  have signals : ∀ (entries : List (JobId × SupervisedJob)) (start : JobManager σ),
      (entries.foldl (fun manager entry => manager.sendSignals entry.2.destroy (between entry.1)) start).signalled =
        start.signalled ++ (entries.map Prod.snd).flatMap (·.destroy) := by
    intro entries
    induction entries with
    | nil => simp
    | cons _ _ ih =>
      intro _
      rw [List.foldl_cons, ih, sendSignals_signalled]
      simp
  exact signals manager.supervised.entries { manager with supervised := .empty, byPid := .empty }

end Signalled

/-- Every supervised process is alive for its supervisor and the one on record. -/
def SupervisesRecorded (content : σ → StoreState) (manager : JobManager σ) : Prop :=
  ∀ id job, manager.supervised.find? id = some job →
    ∃ record supervisor, (content manager.backend).jobs.find? id = some record ∧ job.supervisor = some supervisor ∧
      supervisor.identity = record.execution.identity ∧ supervisor.manages = true

theorem SupervisesRecorded.of_same (recorded : SupervisesRecorded content before)
    (sameSupervised : after.supervised = before.supervised)
    (sameContent : content after.backend = content before.backend) : SupervisesRecorded content after := by
  intro id job found
  rw [sameContent]
  exact recorded id job (sameSupervised ▸ found)

section Adoption

variable {input : AdoptionInput} {outcome : RecoveryJobOutcome} {id : JobId} {pid : Int} {job : SupervisedJob}
  {record : StoredJob} {supervisor : ProcessSupervisor} {cancel : CancelInput}

theorem beginCancellation_signalled {fromRecovery : Bool} (found : manager.supervised.find? id = some job)
    (own : job.supervisor = some supervisor) (running : supervisor.phase = .running) :
    (manager.beginCancellation cancel id fromRecovery).signalled =
      manager.signalled ++ groupCalls supervisor.identity.pgid .term cancel.kill.group := by
  obtain ⟨isRunning, notExited, calls, _⟩ :=
    requestCancel_running running cancel.kill.group cancel.kill.leader cancel.now
  unfold beginCancellation
  simp only [found, own]
  rw [if_neg (by simp [isRunning, notExited]), sendSignals_signalled, calls]
  rfl

/-- The calls of one adoption that got as far as the monitor. -/
def adoptionCalls (input : AdoptionInput) (outcome : RecoveryJobOutcome) (record : StoredJob)
    (manager : JobManager σ) : List KillCall :=
  let identity := record.execution.identity
  if (manager.monitor.registerProcess identity input.registering).1 = .registered then
    (if manager.supervised.contains outcome.jobId then killCalls identity else []) ++
      if outcome.decision = .adoptedStoppingNeedsRecancel then
        groupCalls identity.pgid .term input.cancel.kill.group
      else []
  else killCalls identity

theorem SupervisesRecorded.destroy_eq (recorded : SupervisesRecorded content manager)
    (found : manager.supervised.find? id = some job)
    (atRecord : (content manager.backend).jobs.find? id = some record) :
    job.destroy = killCalls record.execution.identity := by
  obtain ⟨_, _, atOther, own, same, managed⟩ := recorded id job found
  cases atOther.symm.trans atRecord
  simp only [SupervisedJob.destroy, own, Option.map_some, Option.getD_some]
  rw [destroy, if_pos managed, same]
  rfl

theorem enter_signalled {policy : CancelPolicy} {identity : ProcessIdentity}
    (replaces : ∀ old ∈ manager.supervised.find? outcome.jobId, old.destroy = killCalls identity)
    (own : job.supervisor = some (.spawned policy identity)) :
    (manager.enter input outcome pid job).signalled = manager.signalled ++
      ((if manager.supervised.contains outcome.jobId then killCalls identity else []) ++
        if outcome.decision = .adoptedStoppingNeedsRecancel then
          groupCalls identity.pgid .term input.cancel.kill.group
        else []) := by
  have replaced : (manager.supervise outcome.jobId pid job input.destroying).signalled = manager.signalled ++
      if manager.supervised.contains outcome.jobId then killCalls identity else [] := by
    unfold supervise
    rw [sendSignals_signalled]
    cases found : manager.supervised.find? outcome.jobId with
    | none =>
      have absent : manager.supervised.contains outcome.jobId = false := contains_eq_false.mpr found
      simp only [Option.map_none, Option.getD_none, absent]
      rfl
    | some old =>
      have present : manager.supervised.contains outcome.jobId = true := contains_eq_true.mpr ⟨old, found⟩
      simp only [Option.map_some, Option.getD_some, present, if_true]
      rw [replaces old found]
      rfl
  unfold enter
  split
  · rw [beginCancellation_signalled (find?_insert_self ..) own rfl, replaced, List.append_assoc]
    rfl
  · rw [replaced, List.append_nil]

theorem Armed.signalled (armed : Armed content config store input outcome before after)
    (recorded : SupervisesRecorded content before) :
    after.signalled = before.signalled ++
      ((before.adopting store input outcome).map fun record => before.adoptionCalls input outcome record).getD [] := by
  cases armed with
  | skipped _ _ untaken same =>
    rw [same, untaken]
    simp [JobManager.signalled]
  | destroyed _ record _ _ _ _ taken refused same =>
    rw [same, taken, sendSignals_signalled, registerProcess_signalled, Option.map_some, Option.getD_some,
      adoptionCalls, if_neg (by exact refused)]
    rfl
  | adopted _ record _ _ _ found _ taken registered supervisor _ same =>
    have answer : (before.monitor.registerProcess record.execution.identity input.registering).1 = .registered :=
      registered
    rw [same, taken, enter_signalled ?_ supervisor, registerProcess_signalled, Option.map_some, Option.getD_some,
      adoptionCalls, if_pos answer]
    · rfl
    · exact fun _ member => recorded.destroy_eq member found

theorem Begun.recorded (begun : Begun cancel id before after) (recorded : SupervisesRecorded content before) :
    SupervisesRecorded content after := by
  cases begun with
  | ignored same => exact same ▸ recorded
  | signalled old next _ atOld own cancelled _ same =>
    rw [same]
    intro other entry atEntry
    obtain ⟨here, rfl⟩ | atEntry := insert_cases atEntry
    · obtain ⟨record, _, found, atKnown, recordedIdentity, managed⟩ := recorded id old atOld
      cases own.symm.trans atKnown
      exact ⟨record, _, here ▸ found, cancelled, requestCancel_identity.trans recordedIdentity,
        requestCancel_manages managed⟩
    · exact recorded other entry atEntry

/-- What an adoption enters is recorded. -/
theorem Armed.recorded (armed : Armed content config store input outcome before after)
    (recorded : SupervisesRecorded content before) : SupervisesRecorded content after := by
  have sameContent := armed.backend
  cases armed with
  | skipped _ _ _ same => exact recorded.of_same (by rw [same]) sameContent
  | destroyed _ _ _ _ _ _ _ _ same =>
    exact recorded.of_same (by rw [same]; rfl) sameContent
  | adopted backend record job unchanged _ found _ _ _ supervisor _ same =>
    let watched := ({ before with backend }.registerProcess record.execution.identity input.registering).2
    let entered := watched.supervise outcome.jobId record.execution.identity.pid job input.destroying
    have recordedEntered : SupervisesRecorded content entered := by
      intro id entry atEntry
      change ∃ record supervisor, (content backend).jobs.find? id = some record ∧ _
      rw [unchanged]
      obtain ⟨here, rfl⟩ | atEntry := insert_cases atEntry
      · exact ⟨record, _, here ▸ found, supervisor, rfl, rfl⟩
      · exact recorded id entry atEntry
    rw [same]
    exact enter_begun.recorded recordedEntered

/-- The registration of a process that is taken over is acknowledged. -/
def Acknowledged (input : AdoptionInput) (record : StoredJob) (manager : JobManager σ) : Prop :=
  (manager.monitor.registerProcess record.execution.identity input.registering).1 = .registered

instance decidableAcknowledged (input : AdoptionInput) (record : StoredJob) (manager : JobManager σ) :
    Decidable (manager.Acknowledged input record) := inferInstanceAs (Decidable (_ = _))

theorem Begun.contains (begun : Begun cancel id before after) (other : JobId) :
    after.supervised.contains other = true ↔ before.supervised.contains other = true := by
  cases begun with
  | ignored same => rw [same]
  | signalled old next _ atOld _ _ _ same =>
    rw [same]
    change (before.supervised.insert id next).contains other = true ↔ _
    rw [contains_insert, or_iff_right_of_imp]
    intro here
    exact contains_eq_true.mpr ⟨old, here ▸ atOld⟩

theorem enter_contains : (manager.enter input outcome pid job).supervised.contains id = true ↔
    id = outcome.jobId ∨ manager.supervised.contains id = true := by
  rw [enter_begun.contains]
  exact contains_insert

/-- The adoptions that are acknowledged enter their jobs, and no other does. -/
theorem Armed.contains (armed : Armed content config store input outcome before after) :
    after.supervised.contains id = true ↔ before.supervised.contains id = true ∨
      (id = outcome.jobId ∧ ∃ record, before.adopting store input outcome = some record ∧
        before.Acknowledged input record) := by
  cases armed with
  | skipped _ _ untaken same =>
    rw [same]
    simp [untaken]
  | destroyed _ record _ _ _ _ taken refused same =>
    have unanswered : ¬before.Acknowledged input record := refused
    rw [same]
    change before.supervised.contains id = true ↔ _
    simp [taken, unanswered]
  | adopted _ record _ _ _ _ _ taken registered _ _ same =>
    have answered : before.Acknowledged input record := registered
    rw [same, enter_contains]
    simp only [taken, Option.some.injEq, exists_eq_left', answered, and_true]
    exact or_comm

end Adoption

section Turns

variable {outcomes : List RecoveryJobOutcome}

/-- The adoptions of a start in their order, each with the manager it meets. -/
def adoptionTurns (config : JobManagerConfig) (store : StateStore σ) (input : JobId → AdoptionInput)
    (outcomes : List RecoveryJobOutcome) (manager : JobManager σ) : List (JobManager σ × RecoveryJobOutcome) :=
  Guarded.turns (fun manager outcome => manager.armOutcome config store (input outcome.jobId) outcome) manager outcomes

def turnCalls (store : StateStore σ) (input : JobId → AdoptionInput) (turn : JobManager σ × RecoveryJobOutcome) :
    List KillCall :=
  ((turn.1.adopting store (input turn.2.jobId) turn.2).map fun record =>
    turn.1.adoptionCalls (input turn.2.jobId) turn.2 record).getD []

/-- What the adoptions of a start keep. -/
structure Adopting (limits : ValidationConfig) (content : σ → StoreState) (state : StoreState)
    (manager : JobManager σ) : Prop where
  stored : StoreInvariant limits state
  same : content manager.backend = state
  recorded : SupervisesRecorded content manager

variable (faithful : Faithful limits store content)
include faithful

theorem armOutcome_adopting (config : JobManagerConfig) (input : AdoptionInput) (outcome : RecoveryJobOutcome)
    (adopting : Adopting limits content state manager) :
    Armed content config store input outcome manager (manager.armOutcome config store input outcome) ∧
      Adopting limits content state (manager.armOutcome config store input outcome) := by
  have inv : StoreInvariant limits (content manager.backend) := adopting.same ▸ adopting.stored
  have armed := armOutcome_armed faithful config input outcome inv
  exact ⟨armed, adopting.stored, armed.backend.trans adopting.same, armed.recorded adopting.recorded⟩

theorem armRecovery_turns (config : JobManagerConfig) (input : JobId → AdoptionInput)
    (outcomes : List RecoveryJobOutcome) (adopting : Adopting limits content state manager) :
    let armed := manager.armRecovery config store input outcomes
    Adopting limits content state armed ∧
      armed.signalled = manager.signalled ++
        (manager.adoptionTurns config store input outcomes).flatMap (turnCalls store input) ∧
      ∀ id, armed.supervised.contains id = true ↔ manager.supervised.contains id = true ∨
        ∃ turn ∈ manager.adoptionTurns config store input outcomes, id = turn.2.jobId ∧
          ∃ record, turn.1.adopting store (input turn.2.jobId) turn.2 = some record ∧
            turn.1.Acknowledged (input turn.2.jobId) record := by
  induction outcomes generalizing manager with
  | nil => simp [armRecovery, adoptionTurns, turns, adopting]
  | cons outcome rest ih =>
    obtain ⟨armed, next⟩ := armOutcome_adopting faithful config (input outcome.jobId) outcome adopting
    obtain ⟨last, signalled, contains⟩ := ih next
    refine ⟨last, ?_, ?_⟩
    · change (armRecovery config store input rest
        (manager.armOutcome config store (input outcome.jobId) outcome)).signalled = _
      rw [signalled, armed.signalled adopting.recorded, List.append_assoc]
      rfl
    · intro id
      change (armRecovery config store input rest (manager.armOutcome config store (input outcome.jobId)
        outcome)).supervised.contains id = true ↔ _
      rw [contains, armed.contains, or_assoc]
      refine or_congr_right ?_
      simp only [adoptionTurns, turns, List.mem_cons, exists_eq_or_imp]

end Turns

section Start

variable {input : StartInput} {recovery : RecoveryResult} {outcome : RecoveryJobOutcome} {record : StoredJob}
  {turn : JobManager σ × RecoveryJobOutcome}

def sentSince (before after : JobManager σ) : List KillCall := after.signalled.drop before.signalled.length

/-- The manager as the adoptions of a start find it. -/
def watching (manager : JobManager σ) : JobManager σ :=
  { manager with monitor := { manager.monitor with started := true } }

/-- All signals that go back to one adoption: its own, and those that destroy
its entry when the worker cannot be started. -/
def turnSignals (input : StartInput) (outcome : RecoveryJobOutcome) (record : StoredJob) (manager : JobManager σ) :
    List KillCall :=
  manager.adoptionCalls (input.adoption outcome.jobId) outcome record ++
    if manager.Acknowledged (input.adoption outcome.jobId) record ∧ input.workerStarted = false then
      killCalls record.execution.identity
    else []

theorem adopting_found (faithful : Faithful limits store content) {input : AdoptionInput}
    (inv : StoreInvariant limits (content manager.backend))
    (taken : manager.adopting store input outcome = some record) :
    (content manager.backend).jobs.find? outcome.jobId = some record ∧ adopts outcome.decision = true := by
  unfold adopting at taken
  split at taken
  · simp at taken
  · rename_i adopted
    split at taken
    · simp at taken
    · rename_i snapshot load
      have same := faithful.load_snapshot manager.backend snapshot load
      subst same
      rw [inv.findStored_eq, Option.filter_eq_some_iff] at taken
      exact ⟨taken.1, by simpa using adopted⟩

theorem mem_turnCalls {input : JobId → AdoptionInput} :
    call ∈ turnCalls store input turn ↔ ∃ record, turn.1.adopting store (input turn.2.jobId) turn.2 = some record ∧
      call ∈ turn.1.adoptionCalls (input turn.2.jobId) turn.2 record := by
  unfold turnCalls
  cases turn.1.adopting store (input turn.2.jobId) turn.2 <;> simp

theorem adopting_watching (inv : StoreInvariant limits (content manager.backend))
    (unsupervised : manager.supervised = .empty) :
    Adopting limits content (content manager.backend) manager.watching := by
  refine ⟨inv, rfl, ?_⟩
  intro _ _ found
  simp [watching, unsupervised] at found

section Faithful

variable (faithful : Faithful limits store content) (config : JobManagerConfig)
  (inv : StoreInvariant limits (content manager.backend)) (unsupervised : manager.supervised = .empty)
include faithful inv unsupervised

section

variable (member : turn ∈ manager.watching.adoptionTurns config store input.adoption outcomes)
include member

theorem turn_adopting :
    Adopting limits content (content manager.backend) turn.1 := by
  refine turns_invariant (Adopting limits content (content manager.backend)) ?_
    (adopting_watching inv unsupervised) turn member
  intro _ outcome adopting
  exact (armOutcome_adopting faithful config (input.adoption outcome.jobId) outcome adopting).2

theorem turn_found
    (taken : turn.1.adopting store (input.adoption turn.2.jobId) turn.2 = some record) :
    (content manager.backend).jobs.find? turn.2.jobId = some record ∧ adopts turn.2.decision = true := by
  have adopting := turn_adopting faithful config inv unsupervised member
  have found := adopting_found faithful (adopting.same ▸ inv) taken
  rwa [adopting.same] at found

end

/-- The signals that destroy the worker's entries, adoption by adoption. -/
theorem mem_destroyed :
    call ∈ (manager.watching.armRecovery config store input.adoption outcomes).supervised.values.flatMap (·.destroy) ↔
      ∃ turn ∈ manager.watching.adoptionTurns config store input.adoption outcomes,
        ∃ record, turn.1.adopting store (input.adoption turn.2.jobId) turn.2 = some record ∧
          turn.1.Acknowledged (input.adoption turn.2.jobId) record ∧
          call ∈ killCalls record.execution.identity := by
  let armed := manager.watching.armRecovery config store input.adoption outcomes
  obtain ⟨last, _, contains⟩ := armRecovery_turns faithful config input.adoption outcomes
    (adopting_watching inv unsupervised)
  have sameContent : content armed.backend = content manager.backend := last.same
  have outside : ∀ id, ¬manager.watching.supervised.contains id = true := by
    intro _
    simp [watching, unsupervised]
  simp only [List.mem_flatMap, mem_values]
  constructor
  · intro ⟨job, ⟨id, found⟩, member⟩
    obtain ⟨turn, atTurn, own, record, taken, answered⟩ :=
      ((contains id).mp (contains_eq_true.mpr ⟨job, found⟩)).resolve_left (outside id)
    obtain ⟨stored, _⟩ := turn_found faithful config inv unsupervised atTurn taken
    have atRecord : (content armed.backend).jobs.find? id = some record := by rw [sameContent, own, stored]
    rw [last.recorded.destroy_eq found atRecord] at member
    exact ⟨turn, atTurn, record, taken, answered, member⟩
  · intro ⟨turn, atTurn, record, taken, answered, _⟩
    obtain ⟨stored, _⟩ := turn_found faithful config inv unsupervised atTurn taken
    obtain ⟨job, found⟩ := contains_eq_true.mp
      ((contains turn.2.jobId).mpr (.inr ⟨turn, atTurn, rfl, record, taken, answered⟩))
    have atRecord : (content armed.backend).jobs.find? turn.2.jobId = some record := by rw [sameContent, stored]
    refine ⟨job, ⟨_, found⟩, ?_⟩
    rwa [last.recorded.destroy_eq found atRecord]

/-- The signals of a start, adoption by adoption. -/
theorem mem_sentSince_start (ok : recovery.ok = true) (reached : manager.reachesAdoption config input = true) :
    call ∈ sentSince manager (manager.start config store input (some recovery)).2 ↔
      ∃ turn ∈ manager.watching.adoptionTurns config store input.adoption recovery.outcomes,
        ∃ record, turn.1.adopting store (input.adoption turn.2.jobId) turn.2 = some record ∧
          call ∈ turn.1.turnSignals input turn.2 record := by
  obtain ⟨_, signalled, _⟩ := armRecovery_turns faithful config input.adoption recovery.outcomes
    (adopting_watching inv unsupervised)
  have outcomes : recoveredOutcomes (some recovery) = recovery.outcomes := by
    rw [recoveredOutcomes, Option.filter_some, if_pos ok]
    rfl
  have same : manager.armedManager config store input (some recovery) =
      manager.watching.armRecovery config store input.adoption recovery.outcomes := by
    rw [armedManager, outcomes, watching]
  have before : manager.watching.signalled = manager.signalled := rfl
  cases start_started config store input (some recovery) manager with
  | refused early => simp [early] at reached
  | rejected _ unstarted atEnd =>
    have signals : ((manager.armedManager config store input (some recovery)).destroyWorker
        input.destroying).stopMonitor.signalled = _ := destroyWorker_signalled input.destroying
    rw [atEnd, sentSince, signals, same, signalled, before, List.append_assoc, List.drop_left, List.mem_append,
      List.mem_flatMap, mem_destroyed faithful config inv unsupervised]
    simp only [mem_turnCalls, turnSignals, unstarted, and_true, List.mem_append]
    constructor
    · rintro (⟨turn, atTurn, record, taken, member⟩ | ⟨turn, atTurn, record, taken, answered, member⟩)
      · exact ⟨turn, atTurn, record, taken, .inl member⟩
      · exact ⟨turn, atTurn, record, taken, .inr (by rwa [if_pos answered])⟩
    · intro ⟨turn, atTurn, record, taken, member⟩
      rcases member with own | later
      · exact .inl ⟨turn, atTurn, record, taken, own⟩
      · split at later
        · rename_i answered
          exact .inr ⟨turn, atTurn, record, taken, answered, later⟩
        · simp at later
  | running _ worker atEnd =>
    have signals : ({ manager.armedManager config store input (some recovery) with running := true }.postWake config
        .recoveryCompleted).signalled = (manager.armedManager config store input (some recovery)).signalled := rfl
    rw [atEnd, sentSince, signals, same, signalled, before, List.drop_left, List.mem_flatMap]
    simp only [mem_turnCalls, turnSignals, worker, Bool.true_eq_false, and_false, if_false, List.append_nil]

end Faithful

/-- The recorded process of a job with one of these decisions. -/
def Decided (state : StoreState) (outcomes : List RecoveryJobOutcome) (decisions : List RecoveryDecisionCode)
    (identity : ProcessIdentity) : Prop :=
  ∃ outcome ∈ outcomes, outcome.decision ∈ decisions ∧
    ∃ record, state.jobs.find? outcome.jobId = some record ∧ record.execution.identity = identity

/-- The processes recovery found running, and those it found being stopped. -/
def RunningProcess (state : StoreState) (outcomes : List RecoveryJobOutcome) : ProcessIdentity → Prop :=
  Decided state outcomes [.adoptedRunning, .adoptedPromotedToRunning]

def StoppingProcess (state : StoreState) (outcomes : List RecoveryJobOutcome) : ProcessIdentity → Prop :=
  Decided state outcomes [.adoptedStoppingNeedsRecancel]

/-- No call names a running process, and each one names a process that is being
stopped. -/
structure SparesRunning (state : StoreState) (outcomes : List RecoveryJobOutcome) (calls : List KillCall) : Prop where
  spared : ∀ call ∈ calls, ∀ identity, RunningProcess state outcomes identity → ¬call.Names identity
  only : ∀ call ∈ calls, ∃ identity, StoppingProcess state outcomes identity ∧ call.Names identity

/-- What is signalled when a job that was being stopped is taken over: its
group, its leader when the group cannot be reached, and the process itself when
the supervisor is destroyed. -/
def stopTargets (input : StartInput) (outcome : RecoveryJobOutcome) (record : StoredJob) (manager : JobManager σ) :
    List Int :=
  let adoption := input.adoption outcome.jobId
  let identity := record.execution.identity
  let leader := if manager.Acknowledged adoption record ∧ adoption.cancel.kill.group ≠ .delivered then [identity.pgid]
    else []
  let process := if manager.Acknowledged adoption record ∧ manager.supervised.contains outcome.jobId = false ∧
    input.workerStarted = true then [] else [identity.pid]
  List.cons (-identity.pgid) (leader ++ process)

/-- A running job that is taken over is acknowledged by the monitor, was not
entered before, and the worker is started; the signals to a job that was being
stopped reach no running one. -/
def SafeTurn (state : StoreState) (store : StateStore σ) (input : StartInput) (outcomes : List RecoveryJobOutcome)
    (manager : JobManager σ) (outcome : RecoveryJobOutcome) : Prop :=
  ∀ record, manager.adopting store (input.adoption outcome.jobId) outcome = some record →
    if outcome.decision = .adoptedStoppingNeedsRecancel then
      ∀ target ∈ manager.stopTargets input outcome record, ∀ identity, RunningProcess state outcomes identity →
        target ∉ identity.targets
    else manager.Acknowledged (input.adoption outcome.jobId) record ∧
      manager.supervised.contains outcome.jobId = false ∧ input.workerStarted = true

section Turn

variable {call : KillCall}

theorem mem_stopTargets (stopping : outcome.decision = .adoptedStoppingNeedsRecancel) {target : Int} :
    target ∈ manager.stopTargets input outcome record ↔
      ∃ call ∈ manager.turnSignals input outcome record, call.target = target := by
  unfold stopTargets turnSignals adoptionCalls killCalls groupCalls Acknowledged
  by_cases answered : manager.Acknowledged (input.adoption outcome.jobId) record <;> rw [Acknowledged] at answered
  · cases manager.supervised.contains outcome.jobId <;> cases input.workerStarted <;>
      by_cases delivered : (input.adoption outcome.jobId).cancel.kill.group = .delivered <;>
      simp [answered, stopping, delivered, eq_comm (a := target)] <;> tauto
  · simp [answered, eq_comm (a := target)]

theorem turnSignals_kills
    (broken : ¬(manager.Acknowledged (input.adoption outcome.jobId) record ∧
      manager.supervised.contains outcome.jobId = false ∧ input.workerStarted = true)) :
    ⟨-record.execution.identity.pgid, .kill⟩ ∈ manager.turnSignals input outcome record := by
  unfold turnSignals adoptionCalls killCalls Acknowledged
  by_cases answered : manager.Acknowledged (input.adoption outcome.jobId) record <;> rw [Acknowledged] at answered
  · cases present : manager.supervised.contains outcome.jobId with
    | true => simp [answered]
    | false =>
      cases worker : input.workerStarted with
      | true => exact absurd ⟨answered, present, worker⟩ broken
      | false => simp [answered]
  · simp [answered]

end Turn

end Start

theorem Decided.intro {decisions : List RecoveryDecisionCode} (member : outcome ∈ outcomes)
    (decision : outcome.decision ∈ decisions) (found : state.jobs.find? outcome.jobId = some record) :
    Decided state outcomes decisions record.execution.identity :=
  ⟨outcome, member, decision, record, found, rfl⟩

theorem names_of_mem_turnSignals {input : StartInput} (member : call ∈ manager.turnSignals input outcome record) :
    call.Names record.execution.identity := by
  unfold turnSignals adoptionCalls at member
  simp only [List.mem_append] at member
  rcases member with own | later
  · split at own
    · rcases List.mem_append.mp own with replaced | stopped
      · split at replaced
        · exact names_of_mem_killCalls replaced
        · simp at replaced
      · split at stopped
        · exact names_of_mem_groupCalls stopped
        · simp at stopped
    · exact names_of_mem_killCalls own
  · split at later
    · exact names_of_mem_killCalls later
    · simp at later

/-- A start sends no signal to a running job, and only to jobs that were being
stopped, exactly when every adoption is safe in the state it meets. -/
theorem start_spares_running_iff {σ : Type} {limits : ValidationConfig} {store : StateStore σ}
    {content : σ → StoreState} (faithful : Faithful limits store content) (config : JobManagerConfig)
    (manager : JobManager σ) (inv : StoreInvariant limits (content manager.backend))
    (unsupervised : manager.supervised = .empty) (input : StartInput) (recovery : RecoveryResult)
    (ok : recovery.ok = true) :
    SparesRunning (content manager.backend) recovery.outcomes
        (sentSince manager (manager.start config store input (some recovery)).2) ↔
      (manager.reachesAdoption config input = true →
        Guarded.Along (fun manager outcome => manager.armOutcome config store (input.adoption outcome.jobId) outcome)
          (SafeTurn (content manager.backend) store input recovery.outcomes) manager.watching recovery.outcomes) := by
  constructor
  · intro spares reached
    rw [along_iff_turns]
    intro turn atTurn record taken
    obtain ⟨found, adopted⟩ := turn_found faithful config inv unsupervised atTurn taken
    have sent : ∀ call ∈ turn.1.turnSignals input turn.2 record,
        call ∈ sentSince manager (manager.start config store input (some recovery)).2 := fun call member =>
      (mem_sentSince_start faithful config inv unsupervised ok reached).mpr ⟨turn, atTurn, record, taken, member⟩
    split
    · rename_i stopping
      intro _ atTarget identity running
      obtain ⟨call, member, same⟩ := (mem_stopTargets stopping).mp atTarget
      exact same ▸ spares.spared call (sent call member) identity running
    · rename_i other
      have taken : turn.2.decision ∈ [RecoveryDecisionCode.adoptedRunning, .adoptedPromotedToRunning] := by
        revert adopted other
        cases turn.2.decision <;> simp [adopts]
      have running : RunningProcess (content manager.backend) recovery.outcomes record.execution.identity :=
        .intro (input_mem_of_mem_turns atTurn) taken found
      by_contra broken
      have killed := turnSignals_kills broken
      exact spares.spared _ (sent _ killed) _ running (names_of_mem_turnSignals killed)
  · intro safe
    cases reached : manager.reachesAdoption config input with
    | false =>
      have nothing : sentSince manager (manager.start config store input (some recovery)).2 = [] := by
        cases start_started config store input (some recovery) manager with
        | refused _ same => rw [same, sentSince, List.drop_length]
        | rejected arrived | running arrived => simp [arrived] at reached
      rw [nothing]
      exact ⟨by simp, by simp⟩
    | true =>
      have turns := along_iff_turns.mp (safe reached)
      have stopped : ∀ call ∈ sentSince manager (manager.start config store input (some recovery)).2,
          ∃ turn ∈ manager.watching.adoptionTurns config store input.adoption recovery.outcomes,
            ∃ record, turn.1.adopting store (input.adoption turn.2.jobId) turn.2 = some record ∧
              call ∈ turn.1.turnSignals input turn.2 record ∧
              turn.2.decision = .adoptedStoppingNeedsRecancel := by
        intro _ member
        obtain ⟨turn, atTurn, record, taken, sent⟩ :=
          (mem_sentSince_start faithful config inv unsupervised ok reached).mp member
        refine ⟨turn, atTurn, record, taken, sent, ?_⟩
        by_contra other
        have safeTurn := turns turn atTurn record taken
        rw [if_neg other] at safeTurn
        obtain ⟨answered, unknown, worker⟩ := safeTurn
        rw [Acknowledged] at answered
        simp [turnSignals, adoptionCalls, answered, unknown, worker, other] at sent
      constructor
      · intro call member identity running
        obtain ⟨turn, atTurn, record, taken, sent, stopping⟩ := stopped call member
        have safeTurn := turns turn atTurn record taken
        rw [if_pos stopping] at safeTurn
        exact safeTurn call.target ((mem_stopTargets stopping).mpr ⟨call, sent, rfl⟩) identity running
      · intro call member
        obtain ⟨_, atTurn, record, taken, sent, stopping⟩ := stopped call member
        obtain ⟨found, _⟩ := turn_found faithful config inv unsupervised atTurn taken
        exact ⟨record.execution.identity,
          .intro (input_mem_of_mem_turns atTurn) (by simp [stopping]) found, names_of_mem_turnSignals sent⟩

/-- The daemon is restarted while the first job runs and the second one waits. -/
def restartedRecovery : RecoveryResult × GlobalJobQueue × InMemoryStateStore :=
  JobRecovery.recover (InMemoryStateStore.store {}) (fun _ => .verified) 40 (.empty 8)
    (twoQueuedStarted.step {} (InMemoryStateStore.store {}) (.command (launching ⟨100, 100, 7⟩))).backend

def restartedManager : JobManager InMemoryStateStore where
  backend := restartedRecovery.2.2
  queue := restartedRecovery.2.1

/-- The monitor does not answer the registration of the running job in time. -/
theorem start_kills_running :
    ¬SparesRunning restartedManager.backend.state restartedRecovery.1.outcomes
      (sentSince restartedManager
        (restartedManager.start {} (InMemoryStateStore.store {}) {} (some restartedRecovery.1)).2) := by
  intro spares
  have running : RunningProcess restartedManager.backend.state restartedRecovery.1.outcomes ⟨100, 100, 7⟩ := by
    refine ⟨⟨⟨1⟩, .running, .adoptedRunning, none⟩, by decide, by decide, ?_⟩
    have recorded : (restartedManager.backend.state.jobs.find? ⟨1⟩).map (·.execution.identity) =
      some ⟨100, 100, 7⟩ := by decide
    obtain ⟨record, found, same⟩ := Option.map_eq_some_iff.mp recorded
    exact ⟨record, found, same⟩
  exact spares.spared ⟨-100, .kill⟩ (by decide) ⟨100, 100, 7⟩ running (by decide)

theorem start_spares_running_iff_acknowledged :
    let input : StartInput := { adoption := fun _ => { registering := [.applyCommand .noChild (some 7) .noChild] } }
    SparesRunning restartedManager.backend.state restartedRecovery.1.outcomes
      (sentSince restartedManager
        (restartedManager.start {} (InMemoryStateStore.store {}) input (some restartedRecovery.1)).2) := by
  intro input
  have faithful := InMemoryStateStore.faithful {}
  have inv : StoreInvariant {} restartedManager.backend.state := by
    have done : restartedRecovery.1.code = none := by decide
    exact (JobRecovery.recover_agrees faithful (step_grounded faithful {} _ twoQueuedStarted_grounded).stored done).1
  refine (start_spares_running_iff faithful {} restartedManager inv rfl input restartedRecovery.1 (by decide)).mpr ?_
  intro _
  refine ⟨?_, ?_, trivial⟩
  · intro _ taken
    rw [if_neg (by decide)]
    cases taken
    decide
  · intro _ taken
    cases taken

end JobManager

end Yori
