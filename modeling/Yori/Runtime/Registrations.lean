import Yori.Runtime.Watching

/-! The exit monitor with a record of what became of each registration. -/

namespace Yori
open SortedMap ProcessExitMonitor MonitorOutput List

variable {monitor : ProcessExitMonitor}

/-- An accepted registration. `events` are the exits that were reported for it, `withdrawn` says that its
unregistration was acknowledged. -/
structure Registration where
  ticket : Nat
  identity : ProcessIdentity
  events : List ExitEvent := []
  withdrawn : Bool := false

namespace Registration

def pid (row : Registration) : Int := row.identity.pid

/-- Neither reported nor withdrawn. -/
def Open (row : Registration) : Prop := row.events = [] ∧ row.withdrawn = false

def report (event : ExitEvent) (row : Registration) : Registration := { row with events := row.events ++ [event] }

def withdraw (row : Registration) : Registration := { row with withdrawn := true }

/-- The first row of a pid, which is the newest, is changed. -/
def amend (pid : Int) (change : Registration → Registration) (rows : List Registration) : List Registration :=
  rows.replaceF fun row => if row.pid = pid then some (change row) else none

/-- What was promised for each registration. -/
structure Kept (row : Registration) : Prop where
  once : row.events.length ≤ 1
  own : ∀ event ∈ row.events, event.pid = row.pid ∧ event.identity = row.identity
  silent : row.withdrawn = true → row.events = []

variable {row : Registration} {pid : Int} {change : Registration → Registration} {newer older : List Registration}

theorem amend_first (others : ∀ other ∈ newer, other.pid ≠ pid) (own : row.pid = pid) :
    amend pid change (newer ++ row :: older) = newer ++ change row :: older := by
  induction newer with
  | nil => exact replaceF_cons_of_some _ (if_pos own)
  | cons head rest ih =>
    have different : head.pid ≠ pid := others head (mem_cons_self ..)
    have skipped : amend pid change (head :: (rest ++ row :: older)) =
        head :: amend pid change (rest ++ row :: older) := replaceF_cons_of_none _ (if_neg different)
    rw [cons_append, skipped, ih fun other member => others other (mem_cons_of_mem _ member)]
    rfl

end Registration

/-- The monitor with the registrations it has accepted, the newest first, the exits it has established and those
that were taken from it. The program remembers none of the three. -/
structure MonitorLedger where
  monitor : ProcessExitMonitor
  registrations : List Registration := []
  produced : List ExitEvent := []
  received : List ExitEvent := []

inductive LedgerStep
  | register (identity : ProcessIdentity)
  | unregister (pid : Int)
  | turn (action : ReaperAction)
  | receive

namespace ProcessExitMonitor

/-- The call of `waitpid` when a registered process is looked at. -/
def lookWaits (pid : Int) (entry : RegistryEntry) (ticks : Option UInt64) (wait : WaitResult) :
    List (Int × WaitResult) :=
  if ticks ≠ some entry.identity.startTicks ∨ entry.adopted then [] else [(pid, wait)]

theorem act_register {ticket : Nat} {identity : ProcessIdentity} {rest : List MonitorCommand}
    (started : monitor.started = true) (free : monitor.sending = none)
    (next : monitor.commands = .register ticket identity :: rest) (probe : WaitResult) (ticks : Option UInt64)
    (wait : WaitResult) : monitor.act (.applyCommand probe ticks wait) =
      { monitor with commands := rest }.applyRegister ticket identity probe ticks wait := by
  obtain ⟨_, _⟩ := monitor
  simp only at started free next
  subst started free next
  rfl

/-- The calls of `waitpid` in a turn, with their answers. -/
def waits (action : ReaperAction) (monitor : ProcessExitMonitor) : List (Int × WaitResult) :=
  if !monitor.started then []
  else match action, monitor.sending with
    | .applyCommand probe ticks wait, none =>
      match monitor.commands with
      | .register _ identity :: _ =>
        if !identity.valid ∨ monitor.registry.contains identity.pid then []
        else (identity.pid, probe) :: match probe with
          | .reaped _ => []
          | _ => lookWaits identity.pid ⟨identity, probe = .noChild⟩ ticks wait
      | _ => []
    | .scan pid ticks wait, none =>
      match monitor.registry.find? pid with
      | none => []
      | some entry => lookWaits pid entry ticks wait
    | _, _ => []

end ProcessExitMonitor

namespace MonitorLedger

/-- An answer or an exit is noted with the newest registration of its pid. -/
def note (command : Option MonitorCommand) (rows : List Registration) (output : MonitorOutput) : List Registration :=
  match output, command with
  | .registerAck _ .registered, some (.register ticket identity) => { ticket, identity } :: rows
  | .unregisterAck _ .unregistered, some (.unregister _ pid) => Registration.amend pid .withdraw rows
  | .produced event, _ => Registration.amend event.pid (.report event) rows
  | _, _ => rows

/-- A command enters the channel while there is room. -/
def ask (command : MonitorCommand) (ledger : MonitorLedger) : MonitorLedger :=
  if ledger.monitor.started && ledger.monitor.commands.length < ledger.monitor.commandCapacity then
    { ledger with monitor := ledger.monitor.post command }
  else ledger

def turn (action : ReaperAction) (ledger : MonitorLedger) : MonitorLedger :=
  let (outputs, next) := ledger.monitor.act action
  { ledger with
    monitor := next
    registrations := outputs.foldl (note ledger.monitor.commands.head?) ledger.registrations
    produced := ledger.produced ++ outputs.filterMap event? }

def receive (ledger : MonitorLedger) : MonitorLedger :=
  match ledger.monitor.events with
  | [] => ledger
  | event :: rest =>
    { ledger with
      monitor := { ledger.monitor with events := rest }
      received := ledger.received ++ [event] }

def step (ledger : MonitorLedger) : LedgerStep → MonitorLedger
  | .register identity => ledger.ask (.register ledger.monitor.nextTicket identity)
  | .unregister pid => ledger.ask (.unregister ledger.monitor.nextTicket pid)
  | .turn action => ledger.turn action
  | .receive => ledger.receive

def run (ledger : MonitorLedger) (steps : List LedgerStep) : MonitorLedger := steps.foldl step ledger

/-- The open registrations are those of the registry, and a pid has one of them at most. -/
structure Tallies (registry : SortedMap Int RegistryEntry) (rows : List Registration) : Prop where
  registered : ∀ pid entry, registry.find? pid = some entry →
    ∃ row ∈ rows, row.Open ∧ row.pid = pid ∧ row.identity = entry.identity
  present : ∀ row ∈ rows, row.Open → ∃ entry, registry.find? row.pid = some entry
  older : rows.Pairwise fun newer older => newer.pid = older.pid → ¬older.Open
  kept : ∀ row ∈ rows, row.Kept

section Tallies

variable {registry : SortedMap Int RegistryEntry} {rows : List Registration} {pid : Int} {entry : RegistryEntry}

section

variable (tallies : Tallies registry rows)
include tallies

/-- The open registration of a pid comes before the others of that pid. -/
theorem Tallies.split (found : registry.find? pid = some entry) :
    ∃ newer row older, rows = newer ++ row :: older ∧ (∀ other ∈ newer, other.pid ≠ pid) ∧ row.Open ∧ row.pid = pid ∧
      row.identity = entry.identity := by
  obtain ⟨row, member, isOpen, own, same⟩ := tallies.registered pid entry found
  obtain ⟨newer, older, split⟩ := append_of_mem member
  refine ⟨newer, row, older, split, ?_, isOpen, own, same⟩
  intro other earlier here
  have order := tallies.older
  rw [split, pairwise_append] at order
  exact order.2.2 other earlier row (mem_cons_self ..) (here.trans own.symm) isOpen

/-- The open registration of a pid is the one that is changed. -/
theorem Tallies.amended (found : registry.find? pid = some entry)
    (change : Registration → Registration) :
    ∃ row, row.Open ∧ row.pid = pid ∧ row.identity = entry.identity ∧
      change row ∈ Registration.amend pid change rows ∧
      ∀ other ∈ rows, other = row ∨ other ∈ Registration.amend pid change rows := by
  obtain ⟨newer, row, older, split, others, isOpen, own, same⟩ := tallies.split found
  have amended : Registration.amend pid change rows = newer ++ change row :: older := by
    rw [split]
    exact Registration.amend_first others own
  refine ⟨row, isOpen, own, same, ?_, ?_⟩
  · rw [amended]
    exact mem_append_right _ (mem_cons_self ..)
  · intro _ member
    rw [amended]
    rw [split] at member
    rcases mem_append.mp member with early | late
    · exact .inr (mem_append_left _ early)
    · rcases mem_cons.mp late with here | later
      · exact .inl here
      · exact .inr (mem_append_right _ (mem_cons_of_mem _ later))

theorem Tallies.accept (ticket : Nat) (identity : ProcessIdentity)
    (adopted : Bool) (absent : registry.find? identity.pid = none) :
    Tallies (registry.insert identity.pid ⟨identity, adopted⟩) ({ ticket, identity } :: rows) := by
  have closed : ∀ row ∈ rows, identity.pid = row.pid → ¬row.Open := by
    intro row member here isOpen
    obtain ⟨_, found⟩ := tallies.present row member isOpen
    rw [← here, absent] at found
    cases found
  refine ⟨?_, ?_, pairwise_cons.mpr ⟨closed, tallies.older⟩, ?_⟩
  · intro pid entry found
    obtain ⟨here, rfl⟩ | found := insert_cases found
    · exact ⟨{ ticket, identity }, mem_cons_self .., ⟨rfl, rfl⟩, here.symm, rfl⟩
    · obtain ⟨row, member, isOpen, own, same⟩ := tallies.registered pid entry found
      exact ⟨row, mem_cons_of_mem _ member, isOpen, own, same⟩
  · intro row member isOpen
    rcases mem_cons.mp member with here | later
    · rw [here]
      exact ⟨_, find?_insert_self ..⟩
    · obtain ⟨entry, found⟩ := tallies.present row later isOpen
      have other : row.pid ≠ identity.pid := fun here => closed row later here.symm isOpen
      exact ⟨entry, by rw [find?_insert_of_ne _ _ other, found]⟩
  · intro row member
    rcases mem_cons.mp member with here | later
    · rw [here]
      exact ⟨Nat.zero_le _, nofun, fun _ => rfl⟩
    · exact tallies.kept row later

section

variable (found : registry.find? pid = some entry)
include found

/-- The open registration of a pid is closed. -/
theorem Tallies.close
    {change : Registration → Registration} (pids : ∀ row, (change row).pid = row.pid)
    (closes : ∀ row, ¬(change row).Open)
    (keeps : ∀ row, row.Open → row.pid = pid → row.identity = entry.identity → (change row).Kept) :
    Tallies (registry.erase pid) (Registration.amend pid change rows) := by
  obtain ⟨newer, row, older, split, others, isOpen, own, same⟩ := tallies.split found
  obtain ⟨registered, present, order, kept⟩ := tallies
  rw [split, pairwise_append, pairwise_cons] at order
  obtain ⟨amongNewer, ⟨afterRow, amongOlder⟩, across⟩ := order
  have amended : Registration.amend pid change rows = newer ++ change row :: older := by
    rw [split]
    exact Registration.amend_first others own
  have stays : ∀ other ∈ newer ++ change row :: older, other.Open → other.pid ≠ pid ∧ other ∈ rows := by
    intro other member still
    rw [split]
    rcases mem_append.mp member with early | late
    · exact ⟨others other early, mem_append_left _ early⟩
    · rcases mem_cons.mp late with here | later
      · exact absurd still (here ▸ closes row)
      · refine ⟨?_, mem_append_right _ (mem_cons_of_mem _ later)⟩
        intro here
        exact afterRow other later (own.trans here.symm) still
  rw [amended]
  refine ⟨?_, ?_, ?_, ?_⟩
  · intro target next atTarget
    rw [find?_erase] at atTarget
    split at atTarget
    · cases atTarget
    · rename_i different
      obtain ⟨other, member, still, atPid, identity⟩ := registered target next atTarget
      refine ⟨other, ?_, still, atPid, identity⟩
      rw [split] at member
      rcases mem_append.mp member with early | late
      · exact mem_append_left _ early
      · rcases mem_cons.mp late with here | later
        · exact absurd (atPid.symm.trans (here ▸ own)) different
        · exact mem_append_right _ (mem_cons_of_mem _ later)
  · intro other member still
    obtain ⟨different, before⟩ := stays other member still
    obtain ⟨next, atPid⟩ := present other before still
    exact ⟨next, by rw [find?_erase, if_neg different, atPid]⟩
  · rw [pairwise_append, pairwise_cons]
    refine ⟨amongNewer, ⟨?_, amongOlder⟩, ?_⟩
    · intro other later here
      exact afterRow other later ((pids row).symm.trans here)
    · intro first early other late here
      rcases mem_cons.mp late with changed | later
      · rw [changed]
        exact closes row
      · exact across first early other (mem_cons_of_mem _ later) here
  · intro other member
    rcases mem_append.mp member with early | late
    · exact kept other (split ▸ mem_append_left _ early)
    · rcases mem_cons.mp late with changed | later
      · rw [changed]
        exact keeps row isOpen own same
      · exact kept other (split ▸ mem_append_right _ (mem_cons_of_mem _ later))

theorem Tallies.report (status : ExitStatus)
    (verified : Bool) :
    Tallies (registry.erase pid) (Registration.amend pid (.report ⟨pid, entry.identity, status, verified⟩) rows) := by
  refine tallies.close found (fun _ => rfl) ?_ ?_
  · intro _ isOpen
    exact append_ne_nil_of_right_ne_nil _ (cons_ne_nil _ _) isOpen.1
  · intro row isOpen own same
    have alone : (row.report ⟨pid, entry.identity, status, verified⟩).events =
        [⟨pid, entry.identity, status, verified⟩] := by
      rw [Registration.report, isOpen.1, nil_append]
    refine ⟨by rw [alone]; exact Nat.le_refl 1, ?_, ?_⟩
    · intro _ member
      rw [alone] at member
      rw [mem_singleton.mp member]
      exact ⟨own.symm, same.symm⟩
    · intro gone
      exact absurd (isOpen.2.symm.trans gone) Bool.false_ne_true

theorem Tallies.withdraw :
    Tallies (registry.erase pid) (Registration.amend pid .withdraw rows) := by
  refine tallies.close found (fun _ => rfl) ?_ ?_
  · intro _ isOpen
    exact Bool.noConfusion isOpen.2
  · intro row isOpen _ _
    have silent : row.withdraw.events = [] := isOpen.1
    exact ⟨by rw [silent]; exact Nat.zero_le 1, by rw [silent]; exact nofun, fun _ => silent⟩

end

end

end Tallies

/-- Every exit belongs to a registration. -/
structure Recorded (registry : SortedMap Int RegistryEntry) (rows : List Registration) (produced : List ExitEvent) :
    Prop where
  tallies : Tallies registry rows
  attributed : ∀ event ∈ produced, ∃ row ∈ rows, event ∈ row.events

/-- Every exit belongs to a registration, and is on its way or was taken. -/
structure Sound (ledger : MonitorLedger) : Prop where
  recorded : Recorded ledger.monitor.registry ledger.registrations ledger.produced
  account : ledger.produced = ledger.received ++ ledger.monitor.waiting

/-- The status of a process is what the exit of its registration carries, and the only one that is new. -/
def Carried (pid : Int) (status : ExitStatus) (before after : MonitorLedger) : Prop :=
  ∃ row ∈ after.registrations, row.pid = pid ∧ row.events = [⟨pid, row.identity, status, true⟩] ∧
    after.produced = before.produced ++ row.events

section Turns

variable {ledger : MonitorLedger} {pid : Int} {entry : RegistryEntry} {ticks : Option UInt64} {action : ReaperAction}
  {wait : WaitResult} {status : ExitStatus} {event : ExitEvent}

/-- The ledger after what a turn has let out. -/
def noting (command : Option MonitorCommand) (turn : List MonitorOutput × ProcessExitMonitor)
    (ledger : MonitorLedger) : MonitorLedger :=
  { ledger with
    monitor := turn.2
    registrations := turn.1.foldl (note command) ledger.registrations
    produced := ledger.produced ++ turn.1.filterMap event? }

section Records

variable {registry : SortedMap Int RegistryEntry} {rows : List Registration} {produced : List ExitEvent}
  (recorded : Recorded registry rows produced)
include recorded

theorem Recorded.accept (ticket : Nat) (identity : ProcessIdentity) (adopted : Bool)
    (absent : registry.find? identity.pid = none) :
    Recorded (registry.insert identity.pid ⟨identity, adopted⟩) ({ ticket, identity } :: rows) produced := by
  refine ⟨recorded.tallies.accept ticket identity adopted absent, ?_⟩
  intro event member
  obtain ⟨row, inRows, inEvents⟩ := recorded.attributed event member
  exact ⟨row, mem_cons_of_mem _ inRows, inEvents⟩

variable (found : registry.find? pid = some entry)
include found

/-- An exit is noted with the registration that it ends. -/
theorem Recorded.deliver (status : ExitStatus) (verified : Bool) :
    let event : ExitEvent := ⟨pid, entry.identity, status, verified⟩
    Recorded (registry.erase pid) (Registration.amend pid (.report event) rows) (produced ++ [event]) := by
  intro event
  obtain ⟨row, _, _, _, changed, others⟩ := recorded.tallies.amended found (.report event)
  refine ⟨recorded.tallies.report found status verified, ?_⟩
  intro other member
  rcases mem_append.mp member with earlier | now
  · obtain ⟨holder, inRows, inEvents⟩ := recorded.attributed other earlier
    rcases others holder inRows with here | stays
    · exact ⟨row.report event, changed, mem_append_left _ (here ▸ inEvents)⟩
    · exact ⟨holder, stays, inEvents⟩
  · exact ⟨row.report event, changed, mem_append_right _ now⟩

theorem Recorded.withdraw : Recorded (registry.erase pid) (Registration.amend pid .withdraw rows) produced := by
  obtain ⟨row, _, _, _, changed, others⟩ := recorded.tallies.amended found .withdraw
  refine ⟨recorded.tallies.withdraw found, ?_⟩
  intro event member
  obtain ⟨holder, inRows, inEvents⟩ := recorded.attributed event member
  rcases others holder inRows with here | stays
  · exact ⟨row.withdraw, changed, here ▸ inEvents⟩
  · exact ⟨holder, stays, inEvents⟩

end Records

section

variable (sound : Sound ledger)
include sound

theorem Sound.turn (action : ReaperAction) : Sound (ledger.turn action) := by
  change Sound (ledger.noting ledger.monitor.commands.head? (ledger.monitor.act action))
  have taken := act_turn action ledger.monitor
  generalize ledger.monitor.act action = turn at taken
  refine ⟨?_, ?_⟩
  · have recorded := sound.recorded
    -- most turns report no exit
    have silent : ∀ {registry : SortedMap Int RegistryEntry} {rows : List Registration},
        Recorded registry rows ledger.produced → Recorded registry rows (ledger.produced ++ []) := by
      intro _ _ recorded
      rwa [append_nil]
    cases taken with
    | idle | sent => exact silent recorded
    | refused ticket identity _ code next refused =>
      have unnoted : note (some (.register ticket identity)) ledger.registrations (.registerAck ticket code) =
          ledger.registrations := by
        cases code with
        | registered => exact absurd rfl refused
        | _ => rfl
      rw [next, noting, foldl_cons, head?_cons, unnoted]
      exact silent recorded
    | registered ticket identity _ probe _ _ next absent looked =>
      have entered := recorded.accept ticket identity (probe = .noChild) absent
      rw [next]
      rcases looked with rfl | ⟨status, verified, rfl⟩
      · exact silent entered
      · exact entered.deliver (find?_insert_self ..) status verified
    | unknown _ _ _ next =>
      rw [next]
      exact silent recorded
    | unregistered _ _ _ _ next found =>
      rw [next]
      exact silent (recorded.withdraw found)
    | looked _ _ _ _ found looked =>
      rcases looked with rfl | ⟨status, verified, rfl⟩
      · exact silent recorded
      · exact recorded.deliver found status verified
  · change ledger.produced ++ turn.1.filterMap event? = ledger.received ++ turn.2.waiting
    rw [taken.waiting, sound.account, append_assoc]

theorem Sound.ask (command : MonitorCommand) : Sound (ledger.ask command) := by
  unfold MonitorLedger.ask
  split
  · exact ⟨sound.recorded, sound.account⟩
  · exact sound

theorem Sound.receive : Sound ledger.receive := by
  unfold MonitorLedger.receive
  split
  · exact sound
  · rename_i next
    refine ⟨sound.recorded, ?_⟩
    have account := sound.account
    rw [ProcessExitMonitor.waiting, next] at account
    simpa [ProcessExitMonitor.waiting] using account

theorem Sound.step (step : LedgerStep) : Sound (ledger.step step) := by
  cases step with
  | register | unregister => exact sound.ask _
  | turn action => exact sound.turn action
  | receive => exact sound.receive

theorem Sound.run (steps : List LedgerStep) : Sound (ledger.run steps) := by
  induction steps generalizing ledger with
  | nil => exact sound
  | cons step _ ih => exact ih (sound.step step)

end

/-- A process whose end `waitpid` has reported is delivered with just that status. -/
theorem scanOne_waited {target : Int} (waited : (target, .reaped status) ∈ lookWaits pid entry ticks wait) :
    target = pid ∧ monitor.scanOne pid entry ticks wait = monitor.deliver ⟨pid, entry.identity, status, true⟩ := by
  unfold lookWaits at waited
  split at waited
  · cases waited
  · rename_i looked
    obtain ⟨ticked, child⟩ := not_or.mp looked
    obtain ⟨here, answer⟩ := Prod.mk.inj (mem_singleton.mp waited)
    refine ⟨here, ?_⟩
    unfold scanOne
    rw [if_neg ticked, if_neg child, ← answer]

theorem scanOne_verified (produced : .produced event ∈ (monitor.scanOne pid entry ticks wait).1)
    (verified : event.identityVerified = true) :
    (event.pid, .reaped event.status) ∈ lookWaits pid entry ticks wait := by
  unfold scanOne deliver at produced
  split at produced
  · simp only [mem_singleton, MonitorOutput.produced.injEq] at produced
    rw [produced] at verified
    cases verified
  · rename_i ticked
    split at produced
    · cases produced
    · rename_i child
      rw [lookWaits, if_neg (not_or.mpr ⟨ticked, child⟩)]
      split at produced
      · cases produced
      · cases produced
      · simp only [mem_singleton, MonitorOutput.produced.injEq] at produced
        rw [produced]
        exact mem_singleton_self _
      · simp only [mem_singleton, MonitorOutput.produced.injEq] at produced
        rw [produced] at verified
        cases verified

theorem Tallies.delivered (tallies : Tallies ledger.monitor.registry ledger.registrations)
    (command : Option MonitorCommand) (found : ledger.monitor.registry.find? pid = some entry) (status : ExitStatus) :
    Carried pid status ledger
      (ledger.noting command (ledger.monitor.deliver ⟨pid, entry.identity, status, true⟩)) := by
  let event : ExitEvent := ⟨pid, entry.identity, status, true⟩
  obtain ⟨row, isOpen, own, same, changed, _⟩ := tallies.amended found (.report event)
  have alone : (row.report event).events = [⟨pid, (row.report event).identity, status, true⟩] := by
    rw [Registration.report, isOpen.1, nil_append, same]
  refine ⟨row.report event, changed, own, alone, ?_⟩
  rw [alone, show (row.report event).identity = entry.identity from same]
  rfl

theorem Sound.waited (sound : Sound ledger) (waited : (pid, .reaped status) ∈ ledger.monitor.waits action) :
    Carried pid status ledger (ledger.turn action) := by
  change Carried pid status ledger (ledger.noting ledger.monitor.commands.head? (ledger.monitor.act action))
  unfold waits at waited
  split at waited
  · cases waited
  · rename_i started
    split at waited
    · rename_i probe ticks wait free
      split at waited
      · rename_i ticket identity rest next
        split at waited
        · cases waited
        · rename_i passed
          obtain ⟨valid, fresh⟩ := not_or.mp passed
          have running : ledger.monitor.started = true := by simpa using started
          have absent : ledger.monitor.registry.find? identity.pid = none :=
            contains_eq_false.mp (eq_false_of_ne_true fresh)
          let entered : MonitorLedger := { ledger with
            monitor := { ledger.monitor with commands := rest }.entered identity probe
            registrations := { ticket, identity } :: ledger.registrations }
          have tallies : Tallies entered.monitor.registry entered.registrations :=
            sound.recorded.tallies.accept ticket identity _ absent
          have found : entered.monitor.registry.find? identity.pid = some ⟨identity, probe = .noChild⟩ :=
            find?_insert_self ..
          have scanned : (pid, .reaped status) ∈ lookWaits identity.pid ⟨identity, probe = .noChild⟩ ticks wait →
              Carried pid status ledger (entered.noting (some (.register ticket identity))
                (entered.monitor.scanOne identity.pid ⟨identity, probe = .noChild⟩ ticks wait)) := by
            intro looked
            obtain ⟨here, delivered⟩ := scanOne_waited looked
            rw [delivered, here]
            exact tallies.delivered (some (.register ticket identity)) found status
          rw [act_register running free next, next, applyRegister, if_neg valid,
            if_neg fresh]
          cases probe with
          | reaped =>
            obtain ⟨here, answer⟩ := Prod.mk.inj (mem_singleton.mp waited)
            cases answer
            rw [here]
            exact tallies.delivered (some (.register ticket identity)) found status
          | running | noChild | failed =>
            rcases mem_cons.mp waited with first | later
            · cases first
            · exact scanned later
      · cases waited
    · rename_i target ticks wait free
      split at waited
      · cases waited
      · rename_i entry found
        obtain ⟨here, delivered⟩ := scanOne_waited waited
        have turn : ledger.monitor.act (.scan target ticks wait) =
            ledger.monitor.scanOne target entry ticks wait := by
          simp only [act, if_neg started, free, found]
        rw [turn, delivered, here]
        exact sound.recorded.tallies.delivered _ found status
    · cases waited

theorem act_verified (produced : .produced event ∈ (monitor.act action).1) (verified : event.identityVerified = true) :
    (event.pid, .reaped event.status) ∈ monitor.waits action := by
  unfold act at produced
  unfold waits
  split at produced
  · cases produced
  · rename_i started
    rw [if_neg started]
    split at produced
    · cases produced
    · split at produced <;> cases produced
    · cases produced
    · cases produced
    · rename_i probe _ _ free
      rw [free]
      split at produced
      · cases produced
      · rename_i identity _ next
        simp only [next]
        unfold applyRegister at produced
        split at produced
        · simp at produced
        · rename_i valid
          split at produced
          · simp at produced
          · rename_i fresh
            rw [if_neg (not_or.mpr ⟨valid, fresh⟩)]
            have reported := (mem_cons.mp produced).resolve_left nofun
            cases probe with
            | reaped status =>
              have same : event = ⟨identity.pid, identity, status, true⟩ := by
                simpa [deliver] using reported
              rw [same]
              exact mem_cons_self ..
            | running | noChild | failed =>
              exact mem_cons_of_mem _ (scanOne_verified reported verified)
      · unfold applyUnregister at produced
        split at produced <;> simp at produced
    · rename_i free
      rw [free]
      split at produced
      · cases produced
      · rename_i found
        simp only [found]
        exact scanOne_verified produced verified

end Turns

/-- What holds of the registrations and their exits whenever the monitor runs. -/
structure OneExitEach (ledger : MonitorLedger) : Prop where
  kept : ∀ row ∈ ledger.registrations, row.Kept
  single : ledger.registrations.Pairwise fun first second => first.Open → second.Open → first.pid ≠ second.pid
  attributed : ∀ event ∈ ledger.produced, ∃ row ∈ ledger.registrations, event ∈ row.events
  account : ledger.produced = ledger.received ++ ledger.monitor.events ++ ledger.monitor.sending.toList
  waited : ∀ action pid status, (pid, .reaped status) ∈ ledger.monitor.waits action →
    Carried pid status ledger (ledger.step (.turn action))
  verified : ∀ action event, .produced event ∈ (ledger.monitor.act action).1 → event.identityVerified = true →
    (event.pid, .reaped event.status) ∈ ledger.monitor.waits action

/-- Each registration has one exit at most, with its own identity and the status that `waitpid` gave, and no exit is
lost, whatever the order of commands, looks and full channels. -/
theorem one_exit_each (eventCapacity commandCapacity : Nat) (steps : List LedgerStep) :
    let fresh : MonitorLedger := { monitor := { eventCapacity, commandCapacity, started := true } }
    OneExitEach (fresh.run steps) := by
  intro fresh
  have empty : Tallies fresh.monitor.registry [] := by
    refine ⟨?_, nofun, .nil, nofun⟩
    intro _ _ found
    simp [fresh] at found
  have initial : Sound fresh := ⟨⟨empty, nofun⟩, rfl⟩
  have sound := initial.run steps
  obtain ⟨tallies, attributed⟩ := sound.recorded
  refine ⟨tallies.kept, ?_, attributed, sound.account.trans (append_assoc ..).symm, ?_, ?_⟩
  · refine tallies.older.imp ?_
    intro _ _ closed _ isOpen here
    exact closed here isOpen
  · intro _ _ _ waited
    exact sound.waited waited
  · intro _ _ produced verified
    exact act_verified produced verified

end MonitorLedger

end Yori
