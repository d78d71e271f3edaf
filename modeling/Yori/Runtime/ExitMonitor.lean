import Mathlib.Data.Int.Order.Basic
import Yori.Library.SortedMap
import Yori.Process.Supervisor

namespace Yori
open SortedMap List

/-- An exit as it is handed to the worker. Without a verified identity the
status is unknown. -/
structure ExitEvent where
  pid : Int
  identity : ProcessIdentity
  status : ExitStatus := {}
  identityVerified : Bool := true
deriving DecidableEq, Repr

/-- An adopted process is not a child, so only `/proc` can show its end. -/
structure RegistryEntry where
  identity : ProcessIdentity
  adopted : Bool := false
deriving Repr

inductive ExitRegisterCode
  | registered | notStarted | invalidIdentity | duplicate | channelFull | ackTimeout
deriving DecidableEq, Repr

inductive ExitUnregisterCode
  | unregistered | notStarted | notFound | channelFull | ackTimeout
deriving Repr

/-- A command waiting for the reaper. The ticket stands for the promise that
carries the answer back. -/
inductive MonitorCommand
  | register (ticket : Nat) (identity : ProcessIdentity)
  | unregister (ticket : Nat) (pid : Int)
deriving Repr

/-- What the reaper lets out: answers to commands, and exits from the moment
they are established, which may be before the channel takes them. -/
inductive MonitorOutput
  | registerAck (ticket : Nat) (code : ExitRegisterCode)
  | unregisterAck (ticket : Nat) (code : ExitUnregisterCode)
  | produced (event : ExitEvent)
deriving Repr

/-- The monitor and its reaper thread. `sending` is the event for which the
reaper waits until the channel has room; it does nothing else meanwhile. -/
structure ProcessExitMonitor where
  eventCapacity : Nat := 256
  commandCapacity : Nat := 256
  started : Bool := false
  commands : List MonitorCommand := []
  registry : SortedMap Int RegistryEntry := .empty
  sending : Option ExitEvent := none
  events : List ExitEvent := []
  nextTicket : Nat := 0

/-- The turns of the reaper thread, with the answers of the kernel it meets. -/
inductive ReaperAction
  | applyCommand (probe : WaitResult) (ticks : Option UInt64) (wait : WaitResult)
  | scan (pid : Int) (ticks : Option UInt64) (wait : WaitResult)
  | send
deriving Repr

namespace ProcessExitMonitor

variable {identity : ProcessIdentity} {pid : Int}

def deliver (event : ExitEvent) (monitor : ProcessExitMonitor) : List MonitorOutput × ProcessExitMonitor :=
  ([.produced event], { monitor with registry := monitor.registry.erase event.pid, sending := some event })

/-- One look at a registered pid: `ticks` is what `/proc` shows, `wait` what
`waitpid` would report. -/
def scanOne (pid : Int) (entry : RegistryEntry) (ticks : Option UInt64) (wait : WaitResult)
    (monitor : ProcessExitMonitor) : List MonitorOutput × ProcessExitMonitor :=
  if ticks ≠ some entry.identity.startTicks then
    monitor.deliver ⟨pid, entry.identity, {}, false⟩
  else if entry.adopted then ([], monitor)
  else match wait with
    | .running | .failed => ([], monitor)
    | .reaped status => monitor.deliver ⟨pid, entry.identity, status, true⟩
    | .noChild => monitor.deliver ⟨pid, entry.identity, {}, false⟩

/-- The probe decides whether the process is a child. One that has already
ended is reported at once, every other is looked at once. -/
def applyRegister (ticket : Nat) (identity : ProcessIdentity) (probe : WaitResult) (ticks : Option UInt64)
    (wait : WaitResult) (monitor : ProcessExitMonitor) : List MonitorOutput × ProcessExitMonitor :=
  if !identity.valid then ([.registerAck ticket .invalidIdentity], monitor)
  else if monitor.registry.contains identity.pid then ([.registerAck ticket .duplicate], monitor)
  else
    let entry : RegistryEntry := ⟨identity, probe = .noChild⟩
    let registered := { monitor with registry := monitor.registry.insert identity.pid entry }
    let (outputs, next) := match probe with
      | .reaped status => registered.deliver ⟨identity.pid, identity, status, true⟩
      | _ => registered.scanOne identity.pid entry ticks wait
    (.registerAck ticket .registered :: outputs, next)

def applyUnregister (ticket : Nat) (pid : Int) (monitor : ProcessExitMonitor) :
    List MonitorOutput × ProcessExitMonitor :=
  if !monitor.registry.contains pid then ([.unregisterAck ticket .notFound], monitor)
  else ([.unregisterAck ticket .unregistered], { monitor with registry := monitor.registry.erase pid })

/-- One turn of the reaper. A turn that is not possible changes nothing. -/
def act (action : ReaperAction) (monitor : ProcessExitMonitor) : List MonitorOutput × ProcessExitMonitor :=
  if !monitor.started then ([], monitor)
  else match action, monitor.sending with
    | .send, none => ([], monitor)
    | .send, some event =>
      if monitor.events.length < monitor.eventCapacity then
        ([], { monitor with events := monitor.events ++ [event], sending := none })
      else ([], monitor)
    | .applyCommand .., some _ | .scan .., some _ => ([], monitor)
    | .applyCommand probe ticks wait, none =>
      match monitor.commands with
      | [] => ([], monitor)
      | .register ticket identity :: rest =>
        { monitor with commands := rest }.applyRegister ticket identity probe ticks wait
      | .unregister ticket pid :: rest => { monitor with commands := rest }.applyUnregister ticket pid
    | .scan pid ticks wait, none =>
      match monitor.registry.find? pid with
      | none => ([], monitor)
      | some entry => monitor.scanOne pid entry ticks wait

def runActions : List ReaperAction → ProcessExitMonitor → List MonitorOutput × ProcessExitMonitor
  | [], monitor => ([], monitor)
  | action :: rest, monitor =>
    let (outputs, next) := monitor.act action
    let (later, last) := next.runActions rest
    (outputs ++ later, last)

def registerAck (ticket : Nat) (outputs : List MonitorOutput) : Option ExitRegisterCode :=
  outputs.findSome? fun
    | .registerAck answered code => if answered = ticket then some code else none
    | _ => none

def unregisterAck (ticket : Nat) (outputs : List MonitorOutput) : Option ExitUnregisterCode :=
  outputs.findSome? fun
    | .unregisterAck answered code => if answered = ticket then some code else none
    | _ => none

def post (command : MonitorCommand) (monitor : ProcessExitMonitor) : ProcessExitMonitor :=
  { monitor with commands := monitor.commands ++ [command], nextTicket := monitor.nextTicket + 1 }

/-- The caller posts the command and waits while the reaper takes the given
turns. A command that is not answered in time stays in the channel. -/
def registerProcess (identity : ProcessIdentity) (turns : List ReaperAction) (monitor : ProcessExitMonitor) :
    ExitRegisterCode × List MonitorOutput × ProcessExitMonitor :=
  if !monitor.started then (.notStarted, [], monitor)
  else if monitor.commands.length ≥ monitor.commandCapacity then (.channelFull, [], monitor)
  else
    let (outputs, next) := (monitor.post (.register monitor.nextTicket identity)).runActions turns
    ((registerAck monitor.nextTicket outputs).getD .ackTimeout, outputs, next)

def unregisterProcess (pid : Int) (turns : List ReaperAction) (monitor : ProcessExitMonitor) :
    ExitUnregisterCode × List MonitorOutput × ProcessExitMonitor :=
  if !monitor.started then (.notStarted, [], monitor)
  else if monitor.commands.length ≥ monitor.commandCapacity then (.channelFull, [], monitor)
  else
    let (outputs, next) := (monitor.post (.unregister monitor.nextTicket pid)).runActions turns
    ((unregisterAck monitor.nextTicket outputs).getD .ackTimeout, outputs, next)

/-- The exits that were established and not handed over yet, oldest first. -/
def waiting (monitor : ProcessExitMonitor) : List ExitEvent := monitor.events ++ monitor.sending.toList

/-- The process is registered, or its exit was not handed over yet. -/
inductive Watches (monitor : ProcessExitMonitor) (pid : Int) (identity : ProcessIdentity) : Prop
  | registered (entry : RegistryEntry) (found : monitor.registry.find? pid = some entry)
      (same : entry.identity = identity)
  | waiting (event : ExitEvent) (member : event ∈ monitor.waiting) (own : event.pid = pid)
      (same : event.identity = identity)

/-- The monitor still holds something that leads, or may lead, to an exit
event with this pid and identity. -/
inductive Carries (monitor : ProcessExitMonitor) (pid : Int) (identity : ProcessIdentity) : Prop
  | requested (ticket : Nat) (member : .register ticket identity ∈ monitor.commands) (own : identity.pid = pid)
  | watched (watches : monitor.Watches pid identity)

/-- The monitor has something under this pid: a registration, asked for or
made, or an exit that was not handed over yet. -/
def holds (monitor : ProcessExitMonitor) (pid : Int) : Bool :=
  monitor.commands.any (fun
    | .register _ identity => identity.pid == pid
    | .unregister _ _ => false) ||
  monitor.registry.contains pid || monitor.sending.any (·.pid == pid) || monitor.events.any (·.pid == pid)

theorem Carries.holds {monitor : ProcessExitMonitor} (carried : monitor.Carries pid identity) :
    monitor.holds pid = true := by
  simp only [ProcessExitMonitor.holds, Bool.or_eq_true, any_eq_true]
  cases carried with
  | requested _ member own => exact .inl (.inl (.inl ⟨_, member, by simpa using own⟩))
  | watched watches =>
    cases watches with
    | registered entry found => exact .inl (.inl (.inr (contains_eq_true.mpr ⟨entry, found⟩)))
    | waiting event member own =>
      rcases mem_append.mp member with queued | sending
      · exact .inr ⟨event, queued, by simpa using own⟩
      · exact .inl (.inr (by simpa [Option.mem_toList.mp sending] using own))

section Turns

variable {monitor : ProcessExitMonitor} {entry : RegistryEntry} {probe wait : WaitResult} {ticks : Option UInt64}
  {ticket : Nat} {rest : List MonitorCommand}

/-- What a look at a registered process comes to: it is still there, or its exit
is reported. -/
def Looked (pid : Int) (identity : ProcessIdentity) (monitor : ProcessExitMonitor)
    (turn : List MonitorOutput × ProcessExitMonitor) : Prop :=
  turn = ([], monitor) ∨ ∃ status verified, turn = monitor.deliver ⟨pid, identity, status, verified⟩

theorem scanOne_looked (monitor : ProcessExitMonitor) :
    monitor.Looked pid entry.identity (monitor.scanOne pid entry ticks wait) := by
  unfold scanOne
  split
  · exact .inr ⟨_, _, rfl⟩
  · split
    · exact .inl rfl
    · split
      · exact .inl rfl
      · exact .inl rfl
      · exact .inr ⟨_, _, rfl⟩
      · exact .inr ⟨_, _, rfl⟩

/-- The monitor with one more registration, before it looks at the process. -/
def entered (identity : ProcessIdentity) (probe : WaitResult) (monitor : ProcessExitMonitor) : ProcessExitMonitor :=
  { monitor with registry := monitor.registry.insert identity.pid ⟨identity, probe = .noChild⟩ }

/-- What one turn of the reaper can do. While an event waits to be sent it does
nothing else. -/
inductive Turn (monitor : ProcessExitMonitor) : List MonitorOutput × ProcessExitMonitor → Prop
  | idle : Turn monitor ([], monitor)
  | sent (event : ExitEvent) (waiting : monitor.sending = some event) :
      Turn monitor ([], { monitor with events := monitor.events ++ [event], sending := none })
  | refused (ticket : Nat) (identity : ProcessIdentity) (rest : List MonitorCommand) (code : ExitRegisterCode)
      (next : monitor.commands = .register ticket identity :: rest) (refused : code ≠ .registered) :
      Turn monitor ([.registerAck ticket code], { monitor with commands := rest })
  | registered (ticket : Nat) (identity : ProcessIdentity) (rest : List MonitorCommand) (probe : WaitResult)
      (turn : List MonitorOutput × ProcessExitMonitor) (free : monitor.sending = none)
      (next : monitor.commands = .register ticket identity :: rest)
      (absent : monitor.registry.find? identity.pid = none)
      (looked : ({ monitor with commands := rest }.entered identity probe).Looked identity.pid identity turn) :
      Turn monitor (.registerAck ticket .registered :: turn.1, turn.2)
  | unknown (ticket : Nat) (target : Int) (rest : List MonitorCommand)
      (next : monitor.commands = .unregister ticket target :: rest) :
      Turn monitor ([.unregisterAck ticket .notFound], { monitor with commands := rest })
  | unregistered (ticket : Nat) (target : Int) (rest : List MonitorCommand) (entry : RegistryEntry)
      (next : monitor.commands = .unregister ticket target :: rest)
      (found : monitor.registry.find? target = some entry) :
      Turn monitor ([.unregisterAck ticket .unregistered],
        { monitor with commands := rest, registry := monitor.registry.erase target })
  | looked (target : Int) (entry : RegistryEntry) (turn : List MonitorOutput × ProcessExitMonitor)
      (free : monitor.sending = none) (found : monitor.registry.find? target = some entry)
      (looked : monitor.Looked target entry.identity turn) : Turn monitor turn

theorem applyRegister_turn (free : monitor.sending = none)
    (next : monitor.commands = .register ticket identity :: rest) :
    Turn monitor ({ monitor with commands := rest }.applyRegister ticket identity probe ticks wait) := by
  unfold applyRegister
  split
  · exact .refused ticket identity rest _ next nofun
  · split
    · exact .refused ticket identity rest _ next nofun
    · rename_i fresh
      have absent : monitor.registry.find? identity.pid = none := contains_eq_false.mp (eq_false_of_ne_true fresh)
      simp only
      split
      · exact .registered ticket identity rest _ _ free next absent (.inr ⟨_, _, rfl⟩)
      · exact .registered ticket identity rest probe _ free next absent (scanOne_looked _)

theorem applyUnregister_turn (next : monitor.commands = .unregister ticket pid :: rest) :
    Turn monitor ({ monitor with commands := rest }.applyUnregister ticket pid) := by
  unfold applyUnregister
  split
  · exact .unknown ticket pid rest next
  · rename_i present
    obtain ⟨entry, found⟩ := contains_eq_true.mp (by simpa using present : monitor.registry.contains pid = true)
    exact .unregistered ticket pid rest entry next found

/-- Says once what a turn of the reaper does. -/
theorem act_turn (action : ReaperAction) (monitor : ProcessExitMonitor) : Turn monitor (monitor.act action) := by
  unfold act
  split
  · exact .idle
  · split
    · exact .idle
    · rename_i event waiting
      split
      · exact .sent event waiting
      · exact .idle
    · exact .idle
    · exact .idle
    · rename_i free
      split
      · exact .idle
      · rename_i next
        exact applyRegister_turn free next
      · rename_i next
        exact applyUnregister_turn next
    · rename_i free
      split
      · exact .idle
      · rename_i found
        exact .looked _ _ _ free found (scanOne_looked monitor)

end Turns

section Carries

variable {monitor next : ProcessExitMonitor} {turn : List MonitorOutput × ProcessExitMonitor}
  {turns : List ReaperAction} {asked : ProcessIdentity} {target : Int} {ticket : Nat}

theorem Watches.mono (watches : next.Watches pid identity)
    (registry : ∀ entry, next.registry.find? pid = some entry → monitor.registry.find? pid = some entry)
    (waiting : next.waiting ⊆ monitor.waiting) : monitor.Watches pid identity := by
  cases watches with
  | registered entry found same => exact .registered entry (registry entry found) same
  | waiting event member own same => exact .waiting event (waiting member) own same

theorem Carries.of_fewer (carried : next.Carries pid identity)
    (commands : ∀ ticket, .register ticket identity ∈ next.commands → .register ticket identity ∈ monitor.commands)
    (registry : ∀ entry, next.registry.find? pid = some entry → monitor.registry.find? pid = some entry)
    (waiting : next.waiting ⊆ monitor.waiting) : monitor.Carries pid identity := by
  cases carried with
  | requested ticket member own => exact .requested ticket (commands ticket member) own
  | watched watches => exact .watched (watches.mono registry waiting)

theorem Looked.carries (looked : monitor.Looked target asked turn) (known : monitor.Carries target asked)
    (carried : turn.2.Carries pid identity) : monitor.Carries pid identity := by
  rcases looked with rfl | ⟨_, _, rfl⟩
  · exact carried
  · cases carried with
    | requested ticket member own => exact .requested ticket member own
    | watched watches =>
      cases watches with
      | registered entry found same =>
        simp only [deliver, find?_erase] at found
        split at found
        · cases found
        · exact .watched (.registered entry found same)
      | waiting event member own same =>
        rcases mem_append.mp member with queued | sending
        · exact .watched (.waiting event (mem_append_left _ queued) own same)
        · cases Option.mem_toList.mp sending
          exact own ▸ same ▸ known

/-- A turn leads to nothing but what the monitor was asked to watch. -/
theorem Turn.carries (taken : Turn monitor turn) (carried : turn.2.Carries pid identity) :
    monitor.Carries pid identity := by
  have left : ∀ {command : MonitorCommand} {rest : List MonitorCommand}, monitor.commands = command :: rest →
      ∀ ticket, .register ticket identity ∈ rest → .register ticket identity ∈ monitor.commands := by
    intro _ _ next _ member
    exact next ▸ mem_cons_of_mem _ member
  cases taken with
  | idle => exact carried
  | sent event waiting =>
    exact carried.of_fewer (fun _ => id) (fun _ => id) (by simp [ProcessExitMonitor.waiting, waiting])
  | refused _ _ _ _ next | unknown _ _ _ next => exact carried.of_fewer (left next) (fun _ => id) (.refl _)
  | unregistered _ target _ _ next =>
    refine carried.of_fewer (left next) ?_ (.refl _)
    intro _ found
    rw [find?_erase] at found
    split at found
    · cases found
    · exact found
  | registered ticket asked rest probe _ _ next _ looked =>
    have requested : monitor.Carries asked.pid asked := .requested ticket (next ▸ mem_cons_self ..) rfl
    cases looked.carries (.watched (.registered _ (find?_insert_self ..) rfl)) carried with
    | requested earlier member own => exact .requested earlier (left next earlier member) own
    | watched watches =>
      cases watches with
      | registered row found same =>
        obtain ⟨here, rfl⟩ | found := insert_cases found
        · exact here ▸ same ▸ requested
        · exact .watched (.registered row found same)
      | waiting event member own same => exact .watched (.waiting event member own same)
  | looked _ entry _ _ found looked => exact looked.carries (.watched (.registered entry found rfl)) carried

/-- However long it runs, the reaper only reports what it was asked to watch. -/
theorem runActions_carries (actions : List ReaperAction)
    (carried : (monitor.runActions actions).2.Carries pid identity) : monitor.Carries pid identity := by
  induction actions generalizing monitor with
  | nil => exact carried
  | cons action _ ih => exact (act_turn action monitor).carries (ih carried)

theorem Carries.of_post_register (carried : (monitor.post (.register ticket asked)).Carries pid identity) :
    monitor.Carries pid identity ∨ (asked.pid = pid ∧ asked = identity) := by
  cases carried with
  | requested earlier member own =>
    rcases mem_append.mp member with old | new
    · exact .inl (.requested earlier old own)
    · simp only [mem_singleton, MonitorCommand.register.injEq] at new
      exact .inr ⟨new.2 ▸ own, new.2.symm⟩
  | watched watches => exact .inl (.watched (watches.mono (fun _ => id) (.refl _)))

/-- A registration, answered or not, adds the identity it names and no other. -/
theorem registerProcess_carries (carried : (monitor.registerProcess asked turns).2.2.Carries pid identity) :
    monitor.Carries pid identity ∨ (asked.pid = pid ∧ asked = identity) := by
  unfold registerProcess at carried
  split at carried
  · exact .inl carried
  · split at carried
    · exact .inl carried
    · exact (runActions_carries turns carried).of_post_register

theorem unregisterProcess_carries
    (carried : (monitor.unregisterProcess target turns).2.2.Carries pid identity) : monitor.Carries pid identity := by
  unfold unregisterProcess at carried
  split at carried
  · exact carried
  · split at carried
    · exact carried
    · exact (runActions_carries turns carried).of_fewer (fun _ member => by simpa [post] using member) (fun _ => id)
        (.refl _)

end Carries

end ProcessExitMonitor

end Yori
