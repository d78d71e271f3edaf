import Yori.Runtime.Attribution
import Yori.Runtime.Entries

namespace Yori
open ProcessSupervisor GraceEscalation

namespace SupervisedJob

def phase (job : SupervisedJob) : Option SupervisorPhase := job.supervisor.map (·.phase)

/-- A job that is being terminated has its escalation pending, or the
escalation has run, or the next cancel request tries to arm it again, which it
does only while the job is not marked as being cancelled. -/
def Escalates (job : SupervisedJob) : Prop :=
  job.exited = false → job.phase = some .terminating →
    job.grace = some ⟨true, true⟩ ∨ job.grace = some ⟨true, false⟩ ∨ job.cancelling = false

instance decidableEscalates (job : SupervisedJob) : Decidable job.Escalates :=
  inferInstanceAs (Decidable (_ → _ → _))

/-- If this request is the one that delivers the first signal, it arms the
escalation: the job is not yet marked, and the executor takes the timer. -/
def ArmsOn (input : CancelInput) (fromRecovery : Bool) (job : SupervisedJob) : Prop :=
  job.exited = false →
    job.supervisor.map (fun supervisor =>
      (supervisor.requestCancel input.kill.group input.kill.leader input.now).1) = some .terminating →
    (job.cancelling = false ∨ fromRecovery = true) ∧ input.timerAccepted = true

instance decidableArmsOn (input : CancelInput) (fromRecovery : Bool) (job : SupervisedJob) :
    Decidable (job.ArmsOn input fromRecovery) :=
  inferInstanceAs (Decidable (_ → _ → _))

/-- How the three marks of a job hang together. -/
structure Coherent (job : SupervisedJob) : Prop where
  armed : ∀ pending, job.grace = some ⟨true, pending⟩ → job.phase = some .terminating
  marked : job.phase = some .terminating → job.cancelling = true

end SupervisedJob

open SupervisedJob JobManager

section Cancel

variable {input : CancelInput} {fromRecovery : Bool} {job next : SupervisedJob}

/-- Before the first signal is delivered nothing is armed. -/
theorem SupervisedJob.Coherent.unarmed (coherent : job.Coherent) (running : job.phase = some .running) :
    (job.grace.getD {}).armed = false := by
  cases graced : job.grace with
  | none => rfl
  | some grace =>
    cases grace with
    | mk armed pending =>
      cases armed with
      | false => rfl
      | true => simp [coherent.armed pending graced] at running

/-- What a begun cancellation leaves, by the phase it met: a process that is
already terminating, one that could not be signalled, or one that now is. -/
inductive Cancels (input : CancelInput) (fromRecovery : Bool) (job next : SupervisedJob) : Prop
  | again (was : job.phase = some .terminating) (phase : next.phase = some .terminating)
      (grace : ∀ pending, job.grace = some ⟨true, pending⟩ → next.grace = some ⟨true, pending⟩)
      (silent : job.supervisor.map (fun supervisor =>
        (supervisor.requestCancel input.kill.group input.kill.leader input.now).1) ≠ some .terminating)
  | failed (was : job.phase = some .running) (phase : next.phase = some .running)
      (grace : next.grace = some (job.grace.getD {}))
      (silent : job.supervisor.map (fun supervisor =>
        (supervisor.requestCancel input.kill.group input.kill.leader input.now).1) ≠ some .terminating)
  | signalled (was : job.phase = some .running) (phase : next.phase = some .terminating)
      (grace : (job.grace.getD {}).armed = false → next.grace =
        some (if (job.cancelling = false ∨ fromRecovery = true) ∧ input.timerAccepted = true then ⟨true, true⟩
          else job.grace.getD {}))
      (first : job.supervisor.map (fun supervisor =>
        (supervisor.requestCancel input.kill.group input.kill.leader input.now).1) = some .terminating)

section

variable (entered : cancelledEntry input fromRecovery job = some next)
include entered

theorem cancelledEntry_cancels :
    Cancels input fromRecovery job next ∧ next.cancelling = true ∧ next.exited = job.exited := by
  unfold cancelledEntry at entered
  obtain ⟨supervisor, own, entered⟩ := Option.bind_eq_some_iff.mp entered
  simp only at entered
  split at entered
  · simp at entered
  · rename_i alive
    cases entered
    refine ⟨?_, rfl, rfl⟩
    cases phase : supervisor.phase with
    | idle | exited => simp [requestCancel, phase] at alive
    | terminating =>
      have answer : supervisor.requestCancel input.kill.group input.kill.leader input.now =
          (.alreadyTerminating, [], supervisor) := by simp [requestCancel, phase]
      refine .again (by simp [SupervisedJob.phase, own, phase]) (by simp [SupervisedJob.phase, answer, phase]) ?_
        (by simp [own, answer])
      intro _ armed
      simp [armed, arm]
    | running =>
      by_cases delivered : input.kill.group ≠ .delivered ∧ input.kill.leader ≠ .delivered
      · have answer : (supervisor.requestCancel input.kill.group input.kill.leader input.now).1 = .signalFailed ∧
            (supervisor.requestCancel input.kill.group input.kill.leader input.now).2.2 = supervisor := by
          simp [requestCancel, phase, delivered]
        refine .failed (by simp [SupervisedJob.phase, own, phase]) (by simp [SupervisedJob.phase, answer.2, phase]) ?_
          (by simp [own, answer.1])
        simp [answer.2, phase, arm]
      · have answer : (supervisor.requestCancel input.kill.group input.kill.leader input.now).1 = .terminating ∧
            (supervisor.requestCancel input.kill.group input.kill.leader input.now).2.2.phase = .terminating := by
          simp only [requestCancel, phase, if_neg delivered, and_self]
        refine .signalled (by simp [SupervisedJob.phase, own, phase]) (by simp [SupervisedJob.phase, answer.2]) ?_
          (by simp [own, answer.1])
        intro unarmed
        by_cases asked : job.cancelling = false ∨ fromRecovery = true
        · cases accepted : input.timerAccepted <;> simp [asked, arm, answer.2, unarmed]
        · simp [asked]

theorem cancelledEntry_coherent (coherent : job.Coherent) : next.Coherent := by
  obtain ⟨cancels, marked, _⟩ := cancelledEntry_cancels entered
  refine ⟨?_, fun _ => marked⟩
  intro _ armed
  cases cancels with
  | again _ phase | signalled _ phase => exact phase
  | failed was _ grace =>
    have unarmed := coherent.unarmed was
    rw [grace] at armed
    simp [Option.some.inj armed] at unarmed

/-- The escalation of a job survives a cancel request exactly if the request
arms it in case it delivers the first signal. -/
theorem cancelledEntry_escalates_iff (coherent : job.Coherent) (escalates : job.Escalates) :
    next.Escalates ↔ job.ArmsOn input fromRecovery := by
  obtain ⟨cancels, marked, exited⟩ := cancelledEntry_cancels entered
  cases cancels with
  | again was _ grace silent =>
    refine iff_of_true ?_ fun _ delivered => absurd delivered silent
    intro alive _
    rcases escalates (exited ▸ alive) was with pending | ran | unmarked
    · exact .inl (grace true pending)
    · exact .inr (.inl (grace false ran))
    · simp [coherent.marked was] at unmarked
  | failed _ phase _ silent =>
    refine iff_of_true ?_ fun _ delivered => absurd delivered silent
    intro _ terminating
    simp [phase] at terminating
  | signalled was phase grace first =>
    have unarmed := coherent.unarmed was
    constructor
    · intro kept alive _
      have armed : ∃ pending, next.grace = some ⟨true, pending⟩ := by
        rcases kept (exited.trans alive) phase with pending | ran | unmarked
        · exact ⟨true, pending⟩
        · exact ⟨false, ran⟩
        · simp [marked] at unmarked
      obtain ⟨_, armed⟩ := armed
      by_contra other
      rw [grace unarmed, if_neg other] at armed
      simp [Option.some.inj armed] at unarmed
    · intro arms alive _
      left
      rw [grace unarmed, if_pos (arms (exited ▸ alive) first)]

end

/-- A request that finds no process to signal delivers nothing. -/
theorem armsOn_of_ignored (ignored : cancelledEntry input fromRecovery job = none) :
    job.ArmsOn input fromRecovery := by
  intro _ delivered
  obtain ⟨_, own, answer⟩ := Option.map_eq_some_iff.mp delivered
  simp [cancelledEntry, own, answer] at ignored

end Cancel

namespace JobManager

variable {σ : Type} {config : JobManagerConfig} {store : StateStore σ} {manager : JobManager σ} {id : JobId}

/-- No escalation has been lost. -/
def Escalating (manager : JobManager σ) : Prop :=
  ∀ id job, manager.supervised.find? id = some job → job.Escalates

def EntriesCoherent (manager : JobManager σ) : Prop :=
  ∀ id job, manager.supervised.find? id = some job → job.Coherent

/-- The step, if it handles a cancel request that gets to the process, arms the
escalation in case it delivers the first signal. -/
def StepArms (store : StateStore σ) (manager : JobManager σ) : Step → Prop
  | .command input =>
    match manager.commands with
    | .cancel id :: rest =>
      manager.running = true → { manager with commands := rest }.cancelBegins store id = true →
        ∀ job ∈ manager.supervised.find? id, job.ArmsOn input.cancel false
    | _ => True
  | _ => True

instance decidableStepArms (store : StateStore σ) (manager : JobManager σ) (step : Step) :
    Decidable (StepArms store manager step) := by
  delta StepArms
  rcases step with _ | _ | _ | _ | _ | _ | _ | _ | _ | _ | _
  · rcases manager.commands with _ | ⟨_ | _ | _, _⟩ <;> infer_instance
  all_goals infer_instance

/-- Every job whose cancellation a start takes up again has its escalation
armed in case the signal is delivered. -/
def StartArms (input : StartInput) (recovery : Option RecoveryResult) : Prop :=
  ∀ outcome ∈ recoveredOutcomes recovery, outcome.decision = .adoptedStoppingNeedsRecancel →
    let cancel := (input.adoption outcome.jobId).cancel
    cancel.kill.group = .delivered ∨ cancel.kill.leader = .delivered → cancel.timerAccepted = true

instance decidableStartArms (input : StartInput) (recovery : Option RecoveryResult) :
    Decidable (StartArms input recovery) :=
  inferInstanceAs (Decidable (∀ outcome ∈ _, _ → _))

theorem step_entriesCoherent (config : JobManagerConfig) (store : StateStore σ) (manager : JobManager σ) (step : Step)
    (coherent : manager.EntriesCoherent) : (manager.step config store step).EntriesCoherent := by
  intro id next found
  cases step_entry found with
  | kept same => exact coherent id next same
  | launched _ _ _ _ _ _ same =>
    subst same
    exact ⟨by simp [launchedEntry], by simp [launchedEntry, SupervisedJob.phase, spawned]⟩
  | cancelled _ _ job _ _ _ was entered =>
    exact cancelledEntry_coherent entered (coherent id job was)
  | exited job _ _ was same =>
    subst same
    refine ⟨?_, (coherent id job was).marked⟩
    intro _ armed
    cases graced : job.grace <;> simp [graced] at armed
  | pumped job was same =>
    subst same
    exact ⟨(coherent id job was).armed, (coherent id job was).marked⟩
  | escalated job armed was pending same =>
    subst same
    refine ⟨?_, (coherent id job was).marked⟩
    intro _ ran
    have same : armed = true := congrArg GraceEscalation.armed (Option.some.inj ran)
    exact (coherent id job was).armed true (same ▸ pending)

/-- One step loses no escalation exactly if it meets the condition. -/
theorem step_escalating_iff (config : JobManagerConfig) (store : StateStore σ) (manager : JobManager σ) (step : Step)
    (coherent : manager.EntriesCoherent) (escalating : manager.Escalating) :
    (manager.step config store step).Escalating ↔ StepArms store manager step := by
  constructor
  · intro kept
    unfold StepArms
    split
    · rename_i input
      split
      · rename_i id rest command
        intro running begins job was
        cases entered : cancelledEntry input.cancel false job with
        | none => exact armsOn_of_ignored entered
        | some next =>
          have found : (manager.step config store (.command input)).supervised.find? id = some next := by
            rw [step_of_running running]
            simp only [perform, handleCommand, command]
            change ({ manager with commands := rest }.processCancel store input.cancel id).supervised.find? id = _
            rw [processCancel_supervised, if_pos begins, beginCancellation_supervised]
            simp [Option.mem_def.mp was, entered]
          exact (cancelledEntry_escalates_iff entered (coherent id job was) (escalating id job was)).mp
            (kept id next found)
      · trivial
    · trivial
  · intro arms id next found
    cases step_entry found with
    | kept same => exact escalating id next same
    | launched _ _ _ _ _ _ same =>
      subst same
      intro _ terminating
      simp [launchedEntry, SupervisedJob.phase, spawned] at terminating
    | cancelled _ _ job handled command begins was entered =>
      subst handled
      simp only [StepArms, command] at arms
      cases running : manager.running with
      | false =>
        rw [step_of_stopped running] at found
        exact escalating id next found
      | true =>
        exact (cancelledEntry_escalates_iff entered (coherent id job was) (escalating id job was)).mpr
          (arms running begins job was)
    | exited _ _ _ _ same =>
      subst same
      intro alive
      simp at alive
    | pumped job was same =>
      subst same
      exact escalating id job was
    | escalated job armed was pending same =>
      subst same
      intro alive terminating
      rcases escalating id job was alive terminating with waiting | ran | unmarked
      · have same : armed = true := congrArg GraceEscalation.armed (Option.some.inj (pending.symm.trans waiting))
        exact .inr (.inl (by rw [same]))
      · simp [pending] at ran
      · exact .inr (.inr unmarked)

section Start

theorem armOutcome_escalating {input : AdoptionInput} {outcome : RecoveryJobOutcome}
    (arms : outcome.decision = .adoptedStoppingNeedsRecancel →
      input.cancel.kill.group = .delivered ∨ input.cancel.kill.leader = .delivered → input.cancel.timerAccepted = true)
    (coherent : manager.EntriesCoherent) (escalating : manager.Escalating) :
    let after := manager.armOutcome config store input outcome
    after.EntriesCoherent ∧ after.Escalating := by
  have entries : ∀ id next, (manager.armOutcome config store input outcome).supervised.find? id = some next →
      next.Coherent ∧ next.Escalates := by
    intro id next found
    rcases armOutcome_entry found with old | ⟨_, ⟨snapshot, record, _, _, _, origin⟩⟩
    · exact ⟨coherent id next old, escalating id next old⟩
    · let job := adoptedJob snapshot outcome (.spawned ⟨config.cancelGrace⟩ record.execution.identity)
      have running : job.phase = some .running := rfl
      have jobCoherent : job.Coherent := by
        refine ⟨?_, fun terminating => by simp [running] at terminating⟩
        intro _ armed
        simp only [job, adoptedJob] at armed
        split at armed <;> simp at armed
      have jobEscalates : job.Escalates := fun _ terminating => by simp [running] at terminating
      simp only at origin
      split at origin
      · rename_i stopping
        refine ⟨cancelledEntry_coherent origin jobCoherent, ?_⟩
        refine (cancelledEntry_escalates_iff origin jobCoherent jobEscalates).mpr ?_
        intro _ delivered
        refine ⟨.inr rfl, arms stopping ?_⟩
        by_contra failed
        rw [not_or] at failed
        simp [adoptedJob, requestCancel, spawned, failed] at delivered
      · subst origin
        exact ⟨jobCoherent, jobEscalates⟩
  exact ⟨fun id next found => (entries id next found).1, fun id next found => (entries id next found).2⟩

theorem start_escalating {input : StartInput} {recovery : Option RecoveryResult}
    (unsupervised : manager.supervised = .empty) (arms : StartArms input recovery) :
    let started := (manager.start config store input recovery).2
    started.EntriesCoherent ∧ started.Escalating := by
  have nothing : ∀ empty : JobManager σ, empty.supervised = .empty → empty.EntriesCoherent ∧ empty.Escalating := by
    intro _ none
    exact ⟨fun id job found => by simp [none] at found, fun id job found => by simp [none] at found⟩
  refine start_rule (nothing manager unsupervised) ?_ (fun other none _ => nothing other none) fun _ kept => kept
  refine List.foldlRecOn (recoveredOutcomes recovery) _ (motive := fun reached : JobManager σ =>
    reached.EntriesCoherent ∧ reached.Escalating) (nothing _ unsupervised) ?_
  intro _ ⟨coherent, escalating⟩ outcome member
  exact armOutcome_escalating (arms outcome member) coherent escalating

end Start

/-- After a start that arms what it takes up again, no escalation is lost in any
state of a run exactly if every cancel request that delivers the first signal to
a process also arms the escalation: the job has not been marked by an earlier
request that failed to deliver, and the executor accepts the timer. -/
theorem escalation_kept_iff {σ : Type} (config : JobManagerConfig) (store : StateStore σ) (manager : JobManager σ)
    (unsupervised : manager.supervised = .empty) (input : StartInput) (recovery : Option RecoveryResult)
    (arms : StartArms input recovery) (steps : List Step) :
    let started := (manager.start config store input recovery).2
    (∀ count, (started.run config store (steps.take count)).Escalating) ↔
      Guarded.Along (step config store) (StepArms store) started steps := by
  intro started
  obtain ⟨coherent, escalating⟩ : started.EntriesCoherent ∧ started.Escalating := start_escalating unsupervised arms
  exact Guarded.along_iff_always (step_entriesCoherent config store) (step_escalating_iff config store) coherent
    escalating

/-- The first job is launched and cancelled three times. What the kernel answers
to the first request is given. -/
def thriceCancelled (answer : KillResult) : List Step :=
  let first : CommandInput :=
    { launching ⟨200, 200, 8⟩ with cancel := { kill := { group := answer, leader := answer } } }
  [.command (launching ⟨100, 100, 7⟩), .post (.cancel ⟨1⟩), .command first, .post (.cancel ⟨1⟩),
    .command (launching ⟨200, 200, 8⟩), .post (.cancel ⟨1⟩), .command (launching ⟨200, 200, 8⟩),
    .command (launching ⟨200, 200, 8⟩), .command (launching ⟨200, 200, 8⟩)]

/-- The first request cannot signal the process, the second one can. The job is
terminating from then on, but its escalation is not armed, neither then nor by
the third request. -/
theorem escalation_lost :
    let memory := InMemoryStateStore.store {}
    ∀ count ∈ [7, 9], ∃ job,
      (twoQueuedStarted.run {} memory ((thriceCancelled .refused).take count)).supervised.find? ⟨1⟩ = some job ∧
        ¬job.Escalates := by
  intro memory count member
  have lost : ∀ count ∈ [7, 9],
      ((twoQueuedStarted.run {} memory ((thriceCancelled .refused).take count)).supervised.find? ⟨1⟩).any
        (fun job => !decide job.Escalates) = true := by decide
  obtain ⟨job, found, unarmed⟩ := (Option.any_eq_true _ _).mp (lost count member)
  exact ⟨job, found, by simpa using unarmed⟩

theorem escalation_kept_iff_delivered :
    let memory := InMemoryStateStore.store {}
    ∀ count, (twoQueuedStarted.run {} memory ((thriceCancelled .delivered).take count)).Escalating :=
  (escalation_kept_iff {} (InMemoryStateStore.store {}) twoQueuedManager rfl {} (some twoQueuedRecovery.1) (by decide)
    (thriceCancelled .delivered)).mpr (by decide)

end JobManager

end Yori
