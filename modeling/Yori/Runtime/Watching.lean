import Yori.Runtime.ExitMonitor

namespace Yori
open SortedMap List Subset MonitorOutput

def MonitorOutput.event? : MonitorOutput → Option ExitEvent
  | .produced event => some event
  | _ => none

def MonitorCommand.ticket : MonitorCommand → Nat
  | register ticket _ => ticket
  | unregister ticket _ => ticket

namespace ProcessExitMonitor

variable {monitor : ProcessExitMonitor} {pid target : Int} {identity asked : ProcessIdentity} {event : ExitEvent}

/-- The watch over the process will last until its exit is handed over: no
request to forget its pid is on the way. -/
structure Guards (monitor : ProcessExitMonitor) (pid : Int) (identity : ProcessIdentity) : Prop where
  watches : monitor.Watches pid identity
  kept : ∀ ticket, .unregister ticket pid ∉ monitor.commands

/-- The answers to the pending commands cannot be taken for each other. -/
def Ticketed (monitor : ProcessExitMonitor) : Prop :=
  ∀ command ∈ monitor.commands, command.ticket < monitor.nextTicket

section Turns

variable {entry : RegistryEntry} {turn : List MonitorOutput × ProcessExitMonitor}

/-- The exit of a process takes the place of its registration. -/
theorem Looked.watches (looked : monitor.Looked target asked turn) (own : target = pid → entry.identity = asked)
    (found : monitor.registry.find? pid = some entry) : turn.2.Watches pid entry.identity := by
  rcases looked with rfl | ⟨_, _, rfl⟩
  · exact .registered entry found rfl
  · by_cases here : target = pid
    · exact .waiting _ (mem_append_right _ (mem_singleton_self _)) here (own here).symm
    · refine .registered entry ?_ rfl
      rw [deliver, find?_erase, if_neg (Ne.symm here)]
      exact found

section

variable (taken : Turn monitor turn)
include taken

/-- A turn may take the first command, which it then answers, and adds none. -/
theorem Turn.commands : turn.2.nextTicket = monitor.nextTicket ∧
    (turn.2.commands = monitor.commands ∧ (∀ ticket, registerAck ticket turn.1 = none) ∨
      ∃ first, monitor.commands = first :: turn.2.commands ∧
        (∀ ticket, first.ticket ≠ ticket → registerAck ticket turn.1 = none) ∧
        ∀ ticket asked, first = .register ticket asked → ∃ code, registerAck ticket turn.1 = some code ∧
          (code = .registered → turn.2.Watches asked.pid asked)) := by
  cases taken with
  | idle | sent => exact ⟨rfl, .inl ⟨rfl, fun _ => rfl⟩⟩
  | refused ticket identity rest code next refused =>
    refine ⟨rfl, .inr ⟨_, next, ?_, ?_⟩⟩
    · intro _ other
      have different : ticket ≠ _ := other
      simp [registerAck, different]
    · rintro _ _ ⟨⟩
      exact ⟨code, by simp [registerAck], fun same => absurd same refused⟩
  | registered ticket identity _ _ turn free next _ looked =>
    have silent : turn.2.nextTicket = monitor.nextTicket ∧
        monitor.commands = .register ticket identity :: turn.2.commands ∧
        ∀ ticket, registerAck ticket turn.1 = none := by
      rcases looked with rfl | ⟨_, _, rfl⟩
      · exact ⟨rfl, next, fun _ => rfl⟩
      · exact ⟨rfl, next, fun _ => rfl⟩
    refine ⟨silent.1, .inr ⟨_, silent.2.1, ?_, ?_⟩⟩
    · intro asked other
      have different : ticket ≠ asked := other
      have rest := silent.2.2 asked
      unfold registerAck at rest ⊢
      simp [different, rest]
    · rintro _ _ ⟨⟩
      exact ⟨.registered, by simp [registerAck], fun _ => looked.watches (fun _ => rfl) (find?_insert_self ..)⟩
  | unknown _ _ _ next | unregistered _ _ _ _ next => exact ⟨rfl, .inr ⟨_, next, fun _ _ => rfl, nofun⟩⟩
  | looked _ _ _ _ _ looked =>
    rcases looked with rfl | ⟨_, _, rfl⟩
    · exact ⟨rfl, .inl ⟨rfl, fun _ => rfl⟩⟩
    · exact ⟨rfl, .inl ⟨rfl, fun _ => rfl⟩⟩

theorem Turn.subset : turn.2.commands ⊆ monitor.commands := by
  rcases taken.commands.2 with ⟨same, _⟩ | ⟨_, next, _⟩
  · rw [same]
    exact refl _
  · rw [next]
    exact subset_cons_self ..

/-- What a turn lets out waits behind what waits already. -/
theorem Turn.waiting : turn.2.waiting = monitor.waiting ++ turn.1.filterMap event? := by
  have looks : ∀ {entered : ProcessExitMonitor} {pid : Int} {named : ProcessIdentity}
      {turn : List MonitorOutput × ProcessExitMonitor}, entered.Looked pid named turn → entered.sending = none →
      turn.2.waiting = entered.waiting ++ turn.1.filterMap event? := by
    rintro _ _ _ _ (rfl | ⟨_, _, rfl⟩) free
    · exact (append_nil _).symm
    · simp [ProcessExitMonitor.waiting, deliver, free, event?]
  cases taken with
  | idle | refused | unknown | unregistered => exact (append_nil _).symm
  | sent _ waits => simp [ProcessExitMonitor.waiting, waits]
  | registered _ _ _ _ turn free _ _ looked =>
    have waits := looks looked free
    exact waits
  | looked _ _ _ free _ looked => exact looks looked free

/-- Only a request to forget a process ends the watch over it before its exit
is handed over. -/
theorem Turn.guards (guards : monitor.Guards pid identity) :
    turn.2.Guards pid identity := by
  refine ⟨?_, fun ticket member => guards.kept ticket (taken.subset member)⟩
  cases guards.watches with
  | waiting event member own same =>
    refine .waiting event ?_ own same
    rw [taken.waiting]
    exact mem_append_left _ member
  | registered entry found same =>
    subst same
    cases taken with
    | idle | sent | refused | unknown => exact .registered entry found rfl
    | registered _ asked _ _ _ _ _ absent looked =>
      have other : pid ≠ asked.pid := by
        rintro rfl
        cases absent.symm.trans found
      refine looked.watches (fun here => absurd here.symm other) ?_
      rw [entered, find?_insert_of_ne _ _ other, found]
    | unregistered ticket target _ _ next =>
      have other : pid ≠ target := by
        rintro rfl
        exact guards.kept ticket (next ▸ mem_cons_self ..)
      exact .registered entry (by rw [find?_erase, if_neg other, found]) rfl
    | looked _ _ _ _ atTarget looked =>
      refine looked.watches ?_ found
      rintro rfl
      cases atTarget.symm.trans found
      rfl

theorem Turn.ticketed (ticketed : monitor.Ticketed) : turn.2.Ticketed := by
  intro command member
  rw [taken.commands.1]
  exact ticketed command (taken.subset member)

end

end Turns

section Runs

variable {turns : List ReaperAction} {command : MonitorCommand} {ticket : Nat}

theorem runActions_guards (turns : List ReaperAction) (guards : monitor.Guards pid identity) :
    (monitor.runActions turns).2.Guards pid identity := by
  induction turns generalizing monitor with
  | nil => exact guards
  | cons action _ ih => exact ih ((act_turn action monitor).guards guards)

theorem runActions_ticketed (turns : List ReaperAction) (ticketed : monitor.Ticketed) :
    (monitor.runActions turns).2.Ticketed := by
  induction turns generalizing monitor with
  | nil => exact ticketed
  | cons action _ ih => exact ih ((act_turn action monitor).ticketed ticketed)

theorem runActions_waiting (turns : List ReaperAction) (monitor : ProcessExitMonitor) :
    (monitor.runActions turns).2.waiting =
      monitor.waiting ++ (monitor.runActions turns).1.filterMap event? := by
  induction turns generalizing monitor with
  | nil => exact (append_nil _).symm
  | cons action _ ih =>
    have later := ih (monitor.act action).2
    rw [(act_turn action monitor).waiting, append_assoc, ← filterMap_append] at later
    exact later

theorem runActions_commands (empty : monitor.commands = []) : (monitor.runActions turns).2.commands = [] := by
  induction turns generalizing monitor with
  | nil => exact empty
  | cons action _ ih =>
    refine ih (subset_nil.mp ?_)
    rw [← empty]
    exact (act_turn action monitor).subset

theorem registerAck_append (outputs later : List MonitorOutput) :
    registerAck ticket (outputs ++ later) = (registerAck ticket outputs).or (registerAck ticket later) := by
  rw [registerAck, findSome?_append]
  rfl

/-- A request that is answered with success comes last among the commands: once
the answer is there, nothing is pending and the process is watched. The induction
is on the turns, with the commands before the request used up one by one. -/
theorem runActions_answered {earlier : List MonitorCommand}
    (pending : monitor.commands = earlier ++ [.register ticket asked])
    (others : ∀ command ∈ earlier, command.ticket ≠ ticket)
    (answered : registerAck ticket (monitor.runActions turns).1 = some .registered) :
    (monitor.runActions turns).2.commands = [] ∧ (monitor.runActions turns).2.Guards asked.pid asked := by
  induction turns generalizing monitor earlier with
  | nil => simp [runActions, registerAck] at answered
  | cons action rest ih =>
    have taken := act_turn action monitor
    change registerAck ticket ((monitor.act action).1 ++ ((monitor.act action).2.runActions rest).1) = _ at answered
    change ((monitor.act action).2.runActions rest).2.commands = [] ∧
      ((monitor.act action).2.runActions rest).2.Guards asked.pid asked
    rw [registerAck_append] at answered
    generalize monitor.act action = turn at *
    have waits : ∀ left, turn.2.commands = left ++ [.register ticket asked] → left ⊆ earlier →
        registerAck ticket turn.1 = none →
        (turn.2.runActions rest).2.commands = [] ∧ (turn.2.runActions rest).2.Guards asked.pid asked := by
      intro _ still within silent
      rw [silent, Option.none_or] at answered
      exact ih still (fun command member => others command (within member)) answered
    rcases taken.commands.2 with ⟨same, silent⟩ | ⟨_, popped, silent, answers⟩
    · exact waits earlier (same.trans pending) (refl _) (silent ticket)
    · rw [popped] at pending
      cases earlier with
      | nil =>
        obtain ⟨own, empty⟩ := cons.inj pending
        obtain ⟨code, answer, watched⟩ := answers ticket asked own
        rw [answer, Option.some_or] at answered
        have watches := watched (Option.some.inj answered)
        exact ⟨runActions_commands empty,
          runActions_guards rest ⟨watches, fun _ member => by simp [empty] at member⟩⟩
      | cons _ left =>
        obtain ⟨own, still⟩ := cons.inj pending
        exact waits left still (subset_cons_self ..) (silent ticket (own ▸ others _ (mem_cons_self ..)))

theorem post_guards (other : ∀ ticket, command ≠ .unregister ticket pid) (guards : monitor.Guards pid identity) :
    (monitor.post command).Guards pid identity := by
  refine ⟨guards.watches.mono (fun _ => id) (refl _), ?_⟩
  intro ticket member
  rcases mem_append.mp member with old | new
  · exact guards.kept ticket old
  · exact other ticket (mem_singleton.mp new).symm

theorem post_ticketed (own : command.ticket = monitor.nextTicket) (ticketed : monitor.Ticketed) :
    (monitor.post command).Ticketed := by
  intro pending member
  change pending.ticket < monitor.nextTicket + 1
  rcases mem_append.mp member with old | new
  · have below := ticketed pending old
    omega
  · rw [mem_singleton.mp new, own]
    omega

/-- A process whose registration was answered with success is guarded. -/
theorem registerProcess_answered (ticketed : monitor.Ticketed)
    (answered : (monitor.registerProcess asked turns).1 = .registered) :
    (monitor.registerProcess asked turns).2.2.Guards asked.pid asked := by
  unfold registerProcess at answered ⊢
  split at answered
  · simp at answered
  · rename_i started
    split at answered
    · simp at answered
    · rename_i room
      rw [if_neg started, if_neg room]
      have others : ∀ command ∈ monitor.commands, command.ticket ≠ monitor.nextTicket := by
        intro command member
        have below := ticketed command member
        omega
      have success : registerAck monitor.nextTicket
          ((monitor.post (.register monitor.nextTicket asked)).runActions turns).1 = some .registered := by
        simp only at answered
        cases answer : registerAck monitor.nextTicket
            ((monitor.post (.register monitor.nextTicket asked)).runActions turns).1 with
        | none => simp [answer] at answered
        | some code => simpa [answer] using answered
      exact (runActions_answered rfl others success).2

theorem unregisterProcess_guards (other : pid ≠ target) (turns : List ReaperAction)
    (guards : monitor.Guards pid identity) : (monitor.unregisterProcess target turns).2.2.Guards pid identity := by
  unfold unregisterProcess
  split
  · exact guards
  · split
    · exact guards
    · refine runActions_guards turns (post_guards ?_ guards)
      intro _ same
      exact other (MonitorCommand.unregister.inj same).2.symm

/-- A command that waits with the others changes nothing about the exits. -/
theorem registerProcess_waiting (turns : List ReaperAction) (monitor : ProcessExitMonitor) :
    (monitor.registerProcess asked turns).2.2.waiting =
      monitor.waiting ++ (monitor.registerProcess asked turns).2.1.filterMap event? := by
  unfold registerProcess
  split
  · exact (append_nil _).symm
  · split
    · exact (append_nil _).symm
    · exact runActions_waiting turns (monitor.post _)

theorem unregisterProcess_waiting (turns : List ReaperAction) (monitor : ProcessExitMonitor) :
    (monitor.unregisterProcess target turns).2.2.waiting =
      monitor.waiting ++ (monitor.unregisterProcess target turns).2.1.filterMap event? := by
  unfold unregisterProcess
  split
  · exact (append_nil _).symm
  · split
    · exact (append_nil _).symm
    · exact runActions_waiting turns (monitor.post _)

/-- Handing over an event leaves the watch over all other pids alone. -/
theorem Guards.of_handedOver {rest : List ExitEvent} (next : monitor.events = event :: rest) (other : pid ≠ event.pid)
    (guards : monitor.Guards pid identity) : { monitor with events := rest }.Guards pid identity := by
  refine ⟨?_, guards.kept⟩
  cases guards.watches with
  | registered entry found same => exact .registered entry found same
  | waiting queued member own same =>
    rw [waiting, next] at member
    rcases mem_cons.mp member with here | later
    · rw [← own, here] at other
      exact absurd rfl other
    · exact .waiting queued later own same

end Runs

end ProcessExitMonitor

end Yori
