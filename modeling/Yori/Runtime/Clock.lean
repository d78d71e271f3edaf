import Yori.Decimal
import Yori.Runtime.Attribution
import Yori.Store.ExecutionSpec

namespace Yori
open ByteString JobManager JobRecovery JobExecutionLimits

section Texts

/-- The text of a machine integer is short and has no NUL in it. -/
theorem integer_text {number : Int} (bound : number.natAbs ≤ 2 ^ 31) :
    (ascii (toString number)).length ≤ 11 ∧ containsNul (ascii (toString number)) = false := by
  cases number with
  | ofNat value =>
    have short : (ascii (toString value)).length ≤ 10 := length_decimal (by omega) (by simp at bound; omega)
    have text : ascii (toString (Int.ofNat value)) = ascii (toString value) := rfl
    rw [text]
    exact ⟨by omega, containsNul_decimal value⟩
  | negSucc value =>
    have short : (ascii (toString (value + 1))).length ≤ 10 := length_decimal (by omega) (by simp at bound; omega)
    have text : ascii (toString (Int.negSucc value)) = ascii "-" ++ ascii (toString (value + 1)) := ascii_append ..
    have sign : (ascii "-").length = 1 ∧ containsNul (ascii "-") = false := by decide
    rw [text, List.length_append, containsNul_append, containsNul_decimal, sign.2]
    exact ⟨by omega, rfl⟩

end Texts

/-- The codes of an exit are machine integers. -/
def ExitStatus.InRange (status : ExitStatus) : Prop :=
  status.exitCode.natAbs ≤ 2 ^ 31 ∧ status.signalNumber.natAbs ≤ 2 ^ 31

theorem acceptableReason_append {text number : ByteString}
    (plain : text ≠ [] ∧ text.length ≤ 100 ∧ containsNul text = false)
    (code : number.length ≤ 11 ∧ containsNul number = false) : acceptableReason (text ++ number) = true := by
  obtain ⟨present, short, clean⟩ := plain
  have length : text.length + number.length ≤ maxFailureReasonBytes := by
    rw [maxFailureReasonBytes]
    omega
  simp [acceptableReason, containsNul_append, clean, code.2, present, length]

/-- The reason an exit gives its job can always be stored. -/
theorem exitVerdict_reason {event : ExitEvent} (range : event.status.InRange) (cancelling : Bool) :
    ∀ reason ∈ (exitVerdict cancelling event).2, acceptableReason reason = true := by
  intro _ member
  unfold exitVerdict at member
  split at member
  · simp at member
  · split at member
    · cases member
      decide
    · split at member
      · simp at member
      · split at member
        · cases member
          exact acceptableReason_append (by decide) (integer_text range.1)
        · cases member
          exact acceptableReason_append (by decide) (integer_text range.2)

theorem exitVerdict_terminal (cancelling : Bool) (event : ExitEvent) :
    (exitVerdict cancelling event).1.isTerminal = true := by
  unfold exitVerdict
  repeat' split
  all_goals rfl

/-- The records the daemon composes with a reading of the clock, by the place
that composes them. -/
inductive Composition
  | launched (identity : ProcessIdentity) (directory : ByteString)
  | launchFailed (uuid : GpuUuid) (reason : ByteString)
  | exited (cancelling : Bool) (event : ExitEvent) (uuid : GpuUuid)
  | lost (verifier : IdentityVerifier)

namespace Composition

/-- The record that is composed; a write is tried several times, each time with
a reading of its own. -/
def record (clock : Nat → TimePoint) (attempt : Nat) (current : StoredJob) : Composition → StoredJob
  | launched identity directory => (runningRecord identity directory clock attempt current).record
  | launchFailed uuid reason => (failedRecord uuid reason clock attempt current).record
  | exited cancelling event uuid =>
    (exitRecord event (exitVerdict cancelling event) uuid clock attempt current).record
  | lost verifier => lostRecord (activeDecision verifier current) (clock attempt) current

/-- The daemon composes such a record for the job, and what it puts into it
besides the time can be stored. -/
def Applies (current : StoredJob) : Composition → Prop
  | launched identity directory =>
    current.state = .starting ∧ identity.valid = true ∧ acceptableLogPath directory = true
  | launchFailed _ reason => acceptableReason (reason.take maxFailureReasonBytes) = true
  | exited _ event _ => event.status.InRange
  | lost verifier => isActive current.state = true ∧
    (adopts (activeDecision verifier current)) = false

/-- The stored time that the reading is compared with. -/
def reference (current : StoredJob) : Composition → Option TimePoint
  | launched _ _ => some current.spec.submitTime
  | launchFailed _ _ | exited _ _ _ => if current.state.isTerminal then none else current.execution.startTime
  | lost _ => current.execution.startTime

end Composition

/-- A record that the daemon composes for a valid job passes the validator
exactly if the clock does not read earlier than the stored time it is compared
with: the submission for the start, the start for the end. -/
theorem composed_valid_iff (current : StoredJob) (valid : current.ExecutionValid) (composition : Composition)
    (applies : composition.Applies current) (clock : Nat → TimePoint) (attempt : Nat) :
    (composition.record clock attempt current).ExecutionValid ↔
      ∀ time ∈ composition.reference current, time ≤ clock attempt := by
  have facts := StoredJob.executionValid_iff.mp valid
  rw [StoredJob.executionValid_iff]
  cases composition with
  | launched =>
    obtain ⟨starting, identified, path⟩ := applies
    obtain ⟨exit, endTime, reason⟩ := facts.unended (by rw [starting]; rfl)
    constructor
    · intro running _ same
      cases same
      exact (running.started (clock attempt) rfl).2
    · intro submitted
      refine ⟨.inr identified, fun _ => nofun, fun _ => identified, ?_, ?_, ?_, ?_, ?_⟩
      · intro present
        simp [Composition.record, runningRecord, exit] at present
      · intro _ same
        cases same
        exact ⟨identified, submitted _ rfl⟩
      · intro _ same
        simp [Composition.record, runningRecord, endTime] at same
      · intro _ same
        simp [Composition.record, runningRecord, reason] at same
      · intro _ same
        cases same
        exact ⟨nofun, path⟩
  | launchFailed _ reason =>
    simp only [Composition.record, Composition.reference, failedRecord]
    cases terminal : current.state.isTerminal with
    | true => exact iff_of_true facts (by simp)
    | false =>
      have storable : acceptableReason (reason.take JobExecutionLimits.maxFailureReasonBytes) = true := applies
      refine (facts.close_iff rfl current.execution.exit (some _) (clock attempt)).trans ?_
      simpa using fun _ => storable
  | exited cancelling event =>
    simp only [Composition.record, Composition.reference, exitRecord]
    cases terminal : current.state.isTerminal with
    | true => exact iff_of_true facts (by simp)
    | false =>
      have closes : (exitVerdict cancelling event).1.isTerminal = true := exitVerdict_terminal ..
      refine (facts.close_iff closes _ _ (clock attempt)).trans ?_
      simpa using fun _ => exitVerdict_reason applies cancelling
  | lost verifier =>
    obtain ⟨active, lost⟩ := applies
    refine (facts.close_iff rfl current.execution.exit (some _) (clock attempt)).trans ?_
    have named : acceptableReason (recoveryFailureReason (JobRecovery.activeDecision verifier current)) = true := by
      unfold JobRecovery.activeDecision at lost ⊢
      split
      · decide
      · rename_i identified
        rw [if_neg identified] at lost
        split <;> simp_all [adopts] <;> decide
    simpa [Composition.reference] using fun _ => named

/-- A job that was started at the reading ten, on record. -/
def startedAtTen : StoredJob where
  id := ⟨1⟩
  spec := .minimal 1 {}
  state := .running
  revision := 2
  execution := { identity := ⟨100, 100, 7⟩, startTime := some 10, logPath := some (ascii "/var/lib/yori/jobs/1") }

theorem composed_valid_iff_exit_later :
    ((Composition.exited false ⟨100, ⟨100, 100, 7⟩, ⟨.exited, 0, 0⟩, true⟩ ⟨ascii "GPU-0"⟩).record (fun _ => 30) 0
      startedAtTen).ExecutionValid :=
  (composed_valid_iff startedAtTen (by decide)
      (.exited false ⟨100, ⟨100, 100, 7⟩, ⟨.exited, 0, 0⟩, true⟩ ⟨ascii "GPU-0"⟩)
    ⟨by decide, by decide⟩ (fun _ => 30) 0).mpr (by decide)

namespace JobManager

/-- The first job is launched, and its exit waits for the worker. -/
def exitWaiting : JobManager InMemoryStateStore :=
  twoQueuedStarted.run {} (InMemoryStateStore.store {}) [.command (launching ⟨100, 100, 7⟩),
    .reaper (.scan 100 (some 7) (.reaped ⟨.exited, 0, 0⟩)), .reaper .send]

/-- The clock is set back from ten to five before the exit is handled. The exit
is consumed, but the job stays running and keeps its device. The recovery after
a restart fails for the same reason as long as the clock has not caught up. -/
theorem clock_step_blocks :
    let memory := InMemoryStateStore.store {}
    let after := exitWaiting.step {} memory (.exit { endClock := fun _ => 5 })
    let recovery := JobRecovery.recover memory (fun _ => .processGone) 5 (.empty 8) after.backend
    exitWaiting.backend.state.jobs.find? ⟨1⟩ = some startedAtTen ∧
      exitWaiting.monitor.events = [⟨100, ⟨100, 100, 7⟩, ⟨.exited, 0, 0⟩, true⟩] ∧
      (∃ composition : Composition, composition.Applies startedAtTen ∧
        ¬(composition.record (fun _ => 5) 0 startedAtTen).ExecutionValid) ∧
      after.monitor.events = [] ∧ after.backend.state.jobs.find? ⟨1⟩ = some startedAtTen ∧
      after.backend.state.leases.find? ⟨ascii "GPU-0"⟩ = some ⟨⟨ascii "GPU-0"⟩, ⟨1⟩⟩ ∧
      recovery.1.code = some .storeWriteFailed ∧ recovery.1.storeError = some .invalidExecutionRecord := by
  intro _ _ _
  refine ⟨by decide, by decide, ?_, by decide, by decide, by decide, by decide, by decide⟩
  refine ⟨.exited false ⟨100, ⟨100, 100, 7⟩, ⟨.exited, 0, 0⟩, true⟩ ⟨ascii "GPU-0"⟩, ⟨by decide, by decide⟩, ?_⟩
  decide

end JobManager

end Yori
