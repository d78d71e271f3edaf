import Yori.Runtime.Capacity

namespace Yori.JobManager
open MutationCore

variable {σ : Type} {store : StateStore σ} {limits : ValidationConfig} {content : σ → StoreState}
  {config : JobManagerConfig} {id : JobId} {manager : JobManager σ} {step : Step} {before after : List Command}

/-- What a step can have done to the channel of commands: the worker takes the first one and asks itself for
scheduling turns, clients add requests, and a stop empties the channel. -/
inductive ChannelMove (step : Step) (before after : List Command) : Prop
  | kept (wakes : List SchedulerTrigger) (idle : step.takes = false ∨ before = [])
      (same : after = before ++ wakes.map .wake)
  | taken (input : CommandInput) (command : Command) (rest : List Command) (wakes : List SchedulerTrigger)
      (handled : step = .command input) (was : before = command :: rest) (same : after = rest ++ wakes.map .wake)
  | posted (request : ClientRequest) (handled : step = .post request) (same : after = before ++ [request.command])
  | emptied (handled : step = .stop) (same : after = [])

theorem ChannelMove.of_same (idle : step.takes = false ∨ before = []) (same : after = before) :
    ChannelMove step before after :=
  .kept [] idle (by rw [same, List.map_nil, List.append_nil])

section Handlers

theorem postWake_wakes (trigger : SchedulerTrigger) (manager : JobManager σ) :
    ∃ wakes : List SchedulerTrigger,
      (manager.postWake config trigger).commands = manager.commands ++ wakes.map .wake := by
  simp only [postWake]
  split
  · exact ⟨[trigger], rfl⟩
  · exact ⟨[], (List.append_nil _).symm⟩

theorem processExit_commands (input : ExitInput) (event : ExitEvent) (manager : JobManager σ) :
    ∃ wakes : List SchedulerTrigger,
      (manager.processExit config store input event).commands = manager.commands ++ wakes.map .wake := by
  have quiet : ∃ wakes : List SchedulerTrigger, manager.commands = manager.commands ++ wakes.map .wake :=
    ⟨[], (List.append_nil _).symm⟩
  unfold processExit
  split
  · exact quiet
  · split
    · exact quiet
    · simp only
      split
      · exact postWake_wakes _ _
      · exact postWake_wakes _ _

end Handlers

section Faithful

variable (faithful : Faithful limits store content)
include faithful

theorem scheduleNow_commands {input : ScheduleInput} {trigger : SchedulerTrigger}
    (inv : StoreInvariant limits (content manager.backend)) :
    (manager.scheduleNow config store input trigger).commands = manager.commands := by
  cases scheduleNow_scheduled faithful config input trigger inv with
  | idle _ _ same => rw [same]
  | launched _ _ _ _ _ _ _ _ _ _ _ _ _ _ _ _ launched => exact congrArg Front.commands launched.front

theorem step_channel (config : JobManagerConfig) (step : Step) (inv : StoreInvariant limits (content manager.backend))
    (running : manager.running = true) :
    ChannelMove step manager.commands (manager.step config store step).commands := by
  have took := step_took config store manager step
  generalize manager.step config store step = after at took ⊢
  cases took with
  | aside _ _ _ _ idle => exact .of_same (idle running) rfl
  | posted request => exact .posted request rfl rfl
  | submitted input spec rest next =>
    obtain ⟨backend, queue, outcome, frame⟩ := processSubmit_frame store spec { manager with commands := rest }
    rw [frame]
    obtain ⟨wakes, same⟩ := @postWake_wakes σ config .jobSubmitted
      ({ manager with commands := rest, backend, queue }.emit [.submitAck outcome])
    exact .taken input _ rest wakes rfl next same
  | cancelled input id rest next =>
    obtain ⟨wakes, same⟩ := @postWake_wakes σ config .jobCancelled
      ({ manager with commands := rest }.processCancel store input.cancel id)
    have kept : ({ manager with commands := rest }.processCancel store input.cancel id).commands = rest := by
      obtain ⟨_, _, _, _, same, _, begun⟩ :=
        @processCancel_cases _ _ _ _ { manager with commands := rest } faithful input.cancel id inv
      rw [same]
      exact congrArg Front.commands begun.front
    rw [kept] at same
    exact .taken input _ rest wakes rfl next same
  | woken input trigger rest next =>
    have same : (scheduleNow config store input.schedule trigger { manager with commands := rest }).commands = rest :=
      scheduleNow_commands faithful inv
    exact .taken input _ rest [] rfl next (same.trans (List.append_nil _).symm)
  | observed input => exact .of_same (.inl rfl) (scheduleNow_commands faithful inv)
  | exited input event rest =>
    obtain ⟨wakes, same⟩ := @processExit_commands σ store config input event
      { manager with monitor := { manager.monitor with events := rest } }
    exact .kept wakes (.inl rfl) same
  | pumped | escalated =>
    refine .of_same (.inl rfl) ?_
    simp only [processPumpDone, runEscalation]
    repeat' split
    all_goals rfl
  | reaped => exact .of_same (.inl rfl) rfl
  | stopped => exact .emptied rfl rfl

/-- A new manager starts with the wake-up of the recovery at most. -/
theorem start_commands (config : JobManagerConfig) (input : StartInput) (recovery : Option RecoveryResult)
    (grounded : Grounded limits content manager) (unused : manager.commands = []) :
    ∃ wakes : List SchedulerTrigger, (manager.start config store input recovery).2.commands = wakes.map .wake := by
  obtain ⟨_, sameFront, _⟩ : content (manager.armedManager config store input recovery).backend =
    content manager.backend ∧
      (manager.armedManager config store input recovery).front = manager.front ∧
      SupervisedBusy content (manager.armedManager config store input recovery) :=
    armRecovery_keeps faithful config input.adoption (recoveredOutcomes recovery) ⟨grounded.stored, grounded.busy⟩
  have armed : (manager.armedManager config store input recovery).commands = [] :=
    (congrArg Front.commands sameFront).trans unused
  cases start_started config store input recovery manager with
  | refused _ same =>
    rw [same]
    exact ⟨[], unused⟩
  | rejected _ _ same =>
    obtain ⟨_, frame, _⟩ := destroyWorker_frame input.destroying (manager.armedManager config store input recovery)
    have left := (congrArg Front.commands frame).trans armed
    rw [same]
    exact ⟨[], left⟩
  | running _ _ same =>
    obtain ⟨wakes, posted⟩ := @postWake_wakes σ config .recoveryCompleted
      { manager.armedManager config store input recovery with running := true }
    refine ⟨wakes, ?_⟩
    rw [same, posted]
    rw [armed, List.nil_append]

end Faithful

end Yori.JobManager
