import Yori.Store.Record

namespace Yori
open Checked ByteString

variable {execution : JobExecutionRecord} {state : JobState} {spec : JobSpec}

/-- A text that may be stored as the reason of a failure. -/
def acceptableReason (reason : ByteString) : Bool :=
  !(reason.isEmpty || reason.length > JobExecutionLimits.maxFailureReasonBytes || containsNul reason)

/-- A path that may be stored as the place of the logs. -/
def acceptableLogPath (path : ByteString) : Bool :=
  !(path.isEmpty || path.length > JobExecutionLimits.maxLogPathBytes || containsNul path || !absolute path)

/-- What the validator of run-time facts demands of a record, fact by fact. -/
structure RunFacts (execution : JobExecutionRecord) (state : JobState) (spec : JobSpec) : Prop where
  identity : execution.identity.isBlank = true ∨ execution.hasIdentity = true
  left : execution.hasIdentity = true → state ≠ .queued
  alive : state = .running ∨ state = .stopping → execution.hasIdentity = true
  exit : execution.exit.isSome = true → state.isTerminal = true
  started : ∀ start ∈ execution.startTime, execution.hasIdentity = true ∧ spec.submitTime ≤ start
  ended : ∀ finish ∈ execution.endTime, state.isTerminal = true ∧ ∀ start ∈ execution.startTime, start ≤ finish
  reason : ∀ reason ∈ execution.failureReason, state.isTerminal = true ∧ acceptableReason reason = true
  logPath : ∀ path ∈ execution.logPath, state ≠ .queued ∧ acceptableLogPath path = true

section Checks

variable {execution : JobExecutionRecord} {state : JobState} {spec : JobSpec}

theorem checkStartTime_eq_ok : checkStartTime execution spec = .ok () ↔
    ∀ start ∈ execution.startTime, execution.hasIdentity = true ∧ spec.submitTime ≤ start := by
  unfold checkStartTime
  cases execution.startTime with
  | none => simp
  | some => simp [guard_bind_eq_ok]

theorem checkEndTime_eq_ok : checkEndTime execution state = .ok () ↔
    ∀ finish ∈ execution.endTime, state.isTerminal = true ∧ ∀ start ∈ execution.startTime, start ≤ finish := by
  unfold checkEndTime
  cases execution.endTime with
  | none => simp
  | some => cases execution.startTime <;> simp [guard_bind_eq_ok]

theorem checkFailureReason_eq_ok : checkFailureReason execution state = .ok () ↔
    ∀ reason ∈ execution.failureReason, state.isTerminal = true ∧ acceptableReason reason = true := by
  unfold checkFailureReason acceptableReason
  cases execution.failureReason with
  | none => simp
  | some => simp [guard_bind_eq_ok]

theorem checkLogPath_eq_ok : checkLogPath execution state = .ok () ↔
    ∀ path ∈ execution.logPath, state ≠ .queued ∧ acceptableLogPath path = true := by
  unfold checkLogPath acceptableLogPath
  cases execution.logPath with
  | none => simp
  | some => simp [guard_bind_eq_ok]

theorem validateExecution_eq_ok : validateExecution execution state spec = .ok () ↔ RunFacts execution state spec := by
  simp only [validateExecution, unit_bind_eq_ok, rejectIf_eq_ok, checkStartTime_eq_ok, checkEndTime_eq_ok,
    checkFailureReason_eq_ok, checkLogPath_eq_ok]
  constructor
  · intro ⟨identity, left, alive, exit, started, ended, reason, logPath⟩
    refine ⟨?_, fun identified queued => left ⟨identified, queued⟩, ?_, by simpa using exit, started, ended, reason,
      logPath⟩
    · cases blank : execution.identity.isBlank with
      | true => exact .inl rfl
      | false => exact .inr (by simpa [blank, JobExecutionRecord.hasIdentity] using identity)
    · intro live
      by_contra missing
      exact alive ⟨by simpa using missing, live⟩
  · intro facts
    refine ⟨?_, fun both => facts.left both.1 both.2, ?_, by simpa using facts.exit, facts.started, facts.ended,
      facts.reason, facts.logPath⟩
    · rcases facts.identity with blank | identified
      · simp [blank]
      · simp [show execution.identity.valid = true from identified]
    · intro ⟨missing, live⟩
      simp [facts.alive live] at missing

end Checks

theorem StoredJob.executionValid_iff {record : StoredJob} :
    record.ExecutionValid ↔ RunFacts record.execution record.state record.spec := validateExecution_eq_ok

/-- Before its end a record carries neither an end nor the traces of one. -/
theorem RunFacts.unended (facts : RunFacts execution state spec) (live : state.isTerminal = false) :
    execution.exit = none ∧ execution.endTime = none ∧ execution.failureReason = none := by
  refine ⟨?_, ?_, ?_⟩
  · by_contra present
    have terminal := facts.exit (Option.isSome_iff_ne_none.mpr present)
    simp [live] at terminal
  · by_contra present
    obtain ⟨finish, atFinish⟩ := Option.ne_none_iff_exists'.mp present
    have terminal := (facts.ended finish atFinish).1
    simp [live] at terminal
  · by_contra present
    obtain ⟨reason, atReason⟩ := Option.ne_none_iff_exists'.mp present
    have terminal := (facts.reason reason atReason).1
    simp [live] at terminal

/-- A valid record stays valid when it is closed, if the reason can be stored
and the clock has not fallen behind the start. -/
theorem RunFacts.close_iff {target : JobState} (facts : RunFacts execution state spec)
    (terminal : target.isTerminal = true) (exit : Option ExitStatus) (failureReason : Option ByteString)
    (now : TimePoint) :
    RunFacts { execution with exit, failureReason, endTime := some now } target spec ↔
      (∀ reason ∈ failureReason, acceptableReason reason = true) ∧ ∀ start ∈ execution.startTime, start ≤ now := by
  constructor
  · intro closed
    exact ⟨fun reason member => (closed.reason reason member).2, (closed.ended now rfl).2⟩
  · intro ⟨reasons, started⟩
    have notQueued : target ≠ .queued := by
      intro queued
      simp [queued, JobState.isTerminal] at terminal
    have notAlive : ¬(target = .running ∨ target = .stopping) := by
      rintro (running | stopping)
      · simp [running, JobState.isTerminal] at terminal
      · simp [stopping, JobState.isTerminal] at terminal
    refine ⟨facts.identity, fun _ => notQueued, fun alive => absurd alive notAlive, fun _ => terminal,
      facts.started, ?_, fun reason member => ⟨terminal, reasons reason member⟩,
      fun path member => ⟨notQueued, (facts.logPath path member).2⟩⟩
    intro _ same
    cases same
    exact ⟨terminal, started⟩

end Yori
