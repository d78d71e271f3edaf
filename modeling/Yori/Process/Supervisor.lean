import Yori.Process

namespace Yori
open ProcessIdentity

inductive Signal
  | term | kill
deriving DecidableEq, Repr

/-- One call of `kill`. A negative target is a process group. -/
structure KillCall where
  target : Int
  signal : Signal
deriving DecidableEq, Repr

/-- The targets by which a process can be signalled: its pid, its group and
the leader of its group. -/
def ProcessIdentity.targets (identity : ProcessIdentity) : List Int :=
  [identity.pid, -identity.pgid, identity.pgid]

def KillCall.Names (call : KillCall) (identity : ProcessIdentity) : Prop := call.target ∈ identity.targets

instance decidableNames (call : KillCall) (identity : ProcessIdentity) : Decidable (call.Names identity) :=
  inferInstanceAs (Decidable (_ ∈ _))

/-- A signal for the first process may be one for the second. -/
def ProcessIdentity.Touches (identity other : ProcessIdentity) : Prop :=
  ∃ target ∈ identity.targets, target ∈ other.targets

instance decidableTouches (identity other : ProcessIdentity) : Decidable (identity.Touches other) :=
  inferInstanceAs (Decidable (∃ _ ∈ _, _))

/-- How the kernel answers a call of `kill`. -/
inductive KillResult
  | delivered | noProcess | refused
deriving DecidableEq, Repr

/-- The grace period is counted in milliseconds. -/
structure CancelPolicy where
  gracePeriod : Int := 10000
deriving DecidableEq, Repr

namespace CancelPolicy

def minGracePeriod : Int := 100

def maxGracePeriod : Int := 600000

def valid (policy : CancelPolicy) : Bool :=
  policy.gracePeriod ≥ minGracePeriod && policy.gracePeriod ≤ maxGracePeriod

end CancelPolicy

inductive SpawnErrorCode
  | alreadyRunning | invalidPlan | pipeFailed | devNullFailed | forkFailed | processGroupFailed | chdirFailed
  | identitySwitchFailed | execFailed | execConfirmationTimeout | identityReadFailed
deriving Repr

def SpawnErrorCode.toString : SpawnErrorCode → ByteString
  | .alreadyRunning => .ascii "supervisor already manages a running process"
  | .invalidPlan => .ascii "invalid launch plan"
  | .pipeFailed => .ascii "pipe creation failed"
  | .devNullFailed => .ascii "opening /dev/null failed"
  | .forkFailed => .ascii "fork failed"
  | .processGroupFailed => .ascii "setting up the process group failed"
  | .chdirFailed => .ascii "changing into the working directory failed"
  | .identitySwitchFailed => .ascii "switching to the job owner identity failed"
  | .execFailed => .ascii "exec failed"
  | .execConfirmationTimeout => .ascii "exec confirmation timed out"
  | .identityReadFailed => .ascii "reading the process identity failed"

inductive AdoptErrorCode
  | alreadyRunning | invalidIdentity | identityVerifyFailed
deriving Repr

inductive AbandonCode
  | abandoned | notRunning
deriving Repr

inductive CancelOutcome
  | terminating | alreadyTerminating | notRunning | alreadyExited | signalFailed
deriving DecidableEq, Repr

inductive EscalationOutcome
  | killed | graceNotExpired | notTerminating | alreadyExited | signalFailed
deriving Repr

inductive SupervisorPhase
  | idle | running | terminating | exited
deriving DecidableEq, Repr

structure ProcessSupervisor where
  policy : CancelPolicy := {}
  phase : SupervisorPhase := .idle
  identity : ProcessIdentity := {}
  graceDeadline : TimePoint := 0
deriving DecidableEq, Repr

namespace ProcessSupervisor

/-- The process is taken to be alive. -/
def manages (supervisor : ProcessSupervisor) : Bool :=
  supervisor.phase == .running || supervisor.phase == .terminating

/-- The supervisor after a spawn that confirmed the exec and read the identity
of the child. -/
def spawned (policy : CancelPolicy) (identity : ProcessIdentity) : ProcessSupervisor :=
  { policy, phase := .running, identity }

/-- Takes over a process without signalling it; `verified` is the comparison
with `/proc`. -/
def adopt (supervisor : ProcessSupervisor) (identity : ProcessIdentity) (verified : Bool) :
    Except AdoptErrorCode ProcessSupervisor :=
  if supervisor.manages then .error .alreadyRunning
  else if !identity.valid then .error .invalidIdentity
  else if !verified then .error .identityVerifyFailed
  else .ok { supervisor with identity, phase := .running }

/-- Forgets the process without signalling it. -/
def abandon (supervisor : ProcessSupervisor) : AbandonCode × ProcessSupervisor :=
  match supervisor.phase with
  | .idle | .exited => (.notRunning, supervisor)
  | .running | .terminating =>
    (.abandoned, { supervisor with identity := {}, phase := .idle })

/-- The group is signalled first and its leader only when that fails. -/
def groupCalls (pgid : Int) (signal : Signal) (group : KillResult) : List KillCall :=
  if group = .delivered then [⟨-pgid, signal⟩] else [⟨-pgid, signal⟩, ⟨pgid, signal⟩]

/-- `now` is the steady clock, in nanoseconds; it is only read when the signal
was delivered. -/
def requestCancel (supervisor : ProcessSupervisor) (group leader : KillResult) (now : TimePoint) :
    CancelOutcome × List KillCall × ProcessSupervisor :=
  match supervisor.phase with
  | .idle => (.notRunning, [], supervisor)
  | .terminating => (.alreadyTerminating, [], supervisor)
  | .exited => (.alreadyExited, [], supervisor)
  | .running =>
    let calls := groupCalls supervisor.identity.pgid .term group
    if group ≠ .delivered ∧ leader ≠ .delivered then (.signalFailed, calls, supervisor)
    else
      (.terminating, calls,
        { supervisor with
          graceDeadline := now + supervisor.policy.gracePeriod * 1000000
          phase := .terminating })

def graceExpired (supervisor : ProcessSupervisor) (now : TimePoint) : Bool :=
  supervisor.phase == .terminating && now ≥ supervisor.graceDeadline

/-- The escalation never changes the phase: only an exit ends the termination. -/
def escalate (supervisor : ProcessSupervisor) (group leader : KillResult) (now : TimePoint) :
    EscalationOutcome × List KillCall :=
  match supervisor.phase with
  | .idle | .running => (.notTerminating, [])
  | .exited => (.alreadyExited, [])
  | .terminating =>
    if !supervisor.graceExpired now then (.graceNotExpired, [])
    else
      let calls := groupCalls supervisor.identity.pgid .kill group
      if group ≠ .delivered ∧ leader ≠ .delivered then
        if leader = .noProcess then (.alreadyExited, calls) else (.signalFailed, calls)
      else (.killed, calls)

/-- The destructor of a supervisor whose process never reached the exited
phase kills the group and then the process. -/
def destroy (supervisor : ProcessSupervisor) : List KillCall :=
  if supervisor.manages then [⟨-supervisor.identity.pgid, .kill⟩, ⟨supervisor.identity.pid, .kill⟩] else []

variable {supervisor : ProcessSupervisor} {group leader : KillResult} {now : TimePoint} {call : KillCall}
  {identity : ProcessIdentity}

theorem names_of_mem_groupCalls {signal : Signal} (member : call ∈ groupCalls identity.pgid signal group) :
    call.Names identity := by
  unfold groupCalls at member
  split at member
  · rw [List.mem_singleton.mp member]
    simp [KillCall.Names, targets]
  · rcases List.mem_pair.mp member with first | second
    · rw [first]
      simp [KillCall.Names, targets]
    · rw [second]
      simp [KillCall.Names, targets]

/-- Every signal of a supervisor goes to the process it manages. -/
theorem names_of_mem_requestCancel (member : call ∈ (supervisor.requestCancel group leader now).2.1) :
    call.Names supervisor.identity := by
  unfold requestCancel at member
  split at member
  · simp at member
  · simp at member
  · simp at member
  · simp only at member
    split at member <;> exact names_of_mem_groupCalls member

theorem names_of_mem_escalate (member : call ∈ (supervisor.escalate group leader now).2) :
    call.Names supervisor.identity := by
  unfold escalate at member
  split at member
  · simp at member
  · simp at member
  · simp at member
  · split at member
    · simp at member
    · simp only at member
      split at member
      · split at member <;> exact names_of_mem_groupCalls member
      · exact names_of_mem_groupCalls member

/-- Nothing is escalated before the grace period is over. -/
theorem escalate_silent (early : supervisor.graceExpired now = false) :
    (supervisor.escalate group leader now).2 = [] := by
  unfold escalate
  split
  · rfl
  · rfl
  · rfl
  · rw [if_pos (by simp [early])]

/-- The two calls that kill a process with its group. -/
def killCalls (identity : ProcessIdentity) : List KillCall := [⟨-identity.pgid, .kill⟩, ⟨identity.pid, .kill⟩]

theorem names_of_mem_killCalls (member : call ∈ killCalls identity) : call.Names identity := by
  rcases List.mem_pair.mp member with first | second
  · rw [first]
    simp [KillCall.Names, targets]
  · rw [second]
    simp [KillCall.Names, targets]

theorem names_of_mem_destroy (member : call ∈ supervisor.destroy) : call.Names supervisor.identity := by
  unfold destroy at member
  split at member
  · exact names_of_mem_killCalls member
  · simp at member

theorem requestCancel_identity :
    (supervisor.requestCancel group leader now).2.2.identity = supervisor.identity := by
  unfold requestCancel
  split
  · rfl
  · rfl
  · rfl
  · split <;> rfl

/-- Only a running process is sent the first signal. -/
theorem requestCancel_silent (other : supervisor.phase ≠ .running) :
    (supervisor.requestCancel group leader now).2.1 = [] := by
  unfold requestCancel
  split
  · rfl
  · rfl
  · rfl
  · rename_i running
    exact absurd running other

/-- A running process is always signalled, and stays managed. -/
theorem requestCancel_running (running : supervisor.phase = .running) (group leader : KillResult) (now : TimePoint) :
    let answer := supervisor.requestCancel group leader now
    answer.1 ≠ .notRunning ∧ answer.1 ≠ .alreadyExited ∧
      answer.2.1 = groupCalls supervisor.identity.pgid .term group ∧ answer.2.2.manages = true := by
  simp only [requestCancel, running]
  split
  · simp [manages, running]
  · simp [manages]

theorem requestCancel_manages (managed : supervisor.manages = true) :
    (supervisor.requestCancel group leader now).2.2.manages = true := by
  unfold requestCancel
  split
  · exact managed
  · exact managed
  · exact managed
  · split
    · exact managed
    · rfl

theorem abandon_destroy : supervisor.abandon.2.destroy = [] := by
  unfold abandon
  split
  · rename_i idle
    simp [destroy, manages, idle]
  · rename_i exited
    simp [destroy, manages, exited]
  · rfl
  · rfl

end ProcessSupervisor

end Yori
