import Yori.Runtime.GpuManager

/-! Whole runs of the sampling loop. The worker takes events out of the channel
at any time, so each event finds as much room as the environment gives it. -/

namespace Yori.GpuManager

variable {manager : GpuManager} {reports : List Report}
open Checked List

/-- What one tick meets, with the capacity that is left for the event about
errors and for the one about states. -/
structure TickInput extends SampleInput where
  streakRoom : Nat
  changeRoom : Nat

/-- What a tick finds out about states: the map of the snapshot that was
published and read back, the difference to the baseline, and whether an event
about it is taken. -/
structure Report where
  states : StateMap
  changed : List GpuUuid
  taken : Bool

def report (next : StateMap) (manager : GpuManager) : Report where
  states := next
  changed := (manager.baseline.map (diffStates · next)).getD []
  taken := manager.events.length < manager.eventCapacity

def tick (input : TickInput) (manager : GpuManager) : Option Report × GpuManager :=
  let ready := { manager with eventCapacity := input.streakRoom }
  match input.observed with
  | .error error => (none, ready.recordFailure error)
  | .ok snapshot =>
    match validateSnapshot snapshot with
    | .error _ => (none, ready.recordFailure .observationFailed)
    | .ok () =>
      if !input.published then (none, ready)
      else
        let published := { ready with snapshot := some snapshot }.recordSuccess snapshot.revision
        if !input.reloaded then (none, published)
        else
          let sending := { published with eventCapacity := input.changeRoom }
          (some (sending.report (buildStateMap snapshot)), sending.announce snapshot.revision (buildStateMap snapshot))

/-- With a channel that nobody reads meanwhile, a tick is a sample. -/
theorem tick_eq_sampleOnce (input : SampleInput) (manager : GpuManager) :
    (manager.tick { input with streakRoom := manager.eventCapacity, changeRoom := manager.eventCapacity }).2 =
      manager.sampleOnce input := by
  obtain ⟨observed, published, reloaded⟩ := input
  cases observed with
  | error => rfl
  | ok snapshot =>
    have refilled {manager : GpuManager} {room : Nat} (same : manager.eventCapacity = room) :
        { manager with eventCapacity := room } = manager := by rw [← same]
    have counted : ({ manager with snapshot := some snapshot }.recordSuccess snapshot.revision).eventCapacity =
        manager.eventCapacity := by
      unfold recordSuccess
      split
      · unfold sendEvent
        dsimp only
        split <;> rfl
      · rfl
    cases checked : validateSnapshot snapshot with
    | error => simp only [tick, sampleOnce, checked]
    | ok =>
      simp only [tick, sampleOnce, checked, refilled counted]
      cases published <;> cases reloaded <;> rfl

/-- The state map of a tick whose snapshot is good, published and read back. -/
def TickInput.states (input : TickInput) : Option StateMap :=
  match input.observed with
  | .error _ => none
  | .ok snapshot => if snapshot.Valid ∧ input.published ∧ input.reloaded then some (buildStateMap snapshot) else none

/-- The differences in the channel, in the order in which they were sent. -/
def announcements (manager : GpuManager) : List (List GpuUuid) :=
  (manager.events.filter (·.kind == .gpuStateChanged)).map (·.changed)

namespace Report

/-- An event about states was sent and taken. -/
def delivered (report : Report) : Bool := report.changed != [] && report.taken

/-- An event about states was sent and refused. -/
def refused (report : Report) : Bool := report.changed != [] && !report.taken

/-- The states of the latest tick that delivered its event or had none to send. -/
def baseline (reports : List Report) : Option StateMap := (reports.reverse.find? (!·.refused)).map (·.states)

theorem baseline_concat (reports : List Report) (report : Report) :
    baseline (reports ++ [report]) = if report.refused then baseline reports else some report.states := by
  cases refusal : report.refused <;> simp [baseline, refusal]

end Report

/-- Events about errors move neither the baseline nor what is announced. -/
theorem sendEvent_frame {event : GpuManagerEvent} (other : event.kind ≠ .gpuStateChanged) :
    (manager.sendEvent event).2.baseline = manager.baseline ∧
      (manager.sendEvent event).2.announcements = manager.announcements := by
  by_cases room : manager.events.length < manager.eventCapacity <;> simp [sendEvent, announcements, room, other]

theorem recordFailure_frame {error : GpuProviderErrorCode} :
    (manager.recordFailure error).baseline = manager.baseline ∧
      (manager.recordFailure error).announcements = manager.announcements := by
  unfold recordFailure
  dsimp only
  split
  · exact sendEvent_frame GpuManagerEventKind.noConfusion
  · exact ⟨rfl, rfl⟩

theorem recordSuccess_frame (revision : UInt64) (manager : GpuManager) :
    (manager.recordSuccess revision).baseline = manager.baseline ∧
      (manager.recordSuccess revision).announcements = manager.announcements := by
  unfold recordSuccess
  split
  · exact sendEvent_frame GpuManagerEventKind.noConfusion
  · exact ⟨rfl, rfl⟩

theorem announce_spec (revision : UInt64) (next : StateMap) (manager : GpuManager) :
    (manager.announce revision next).baseline =
        (if (manager.report next).refused then manager.baseline else some next) ∧
      (manager.announce revision next).announcements = manager.announcements ++
        if (manager.report next).delivered then [(manager.report next).changed] else [] := by
  unfold announce
  cases known : manager.baseline with
  | none => simp [report, Report.refused, Report.delivered, known, announcements]
  | some base =>
    by_cases nothing : diffStates base next = []
    · simp [report, Report.refused, Report.delivered, known, nothing, announcements]
    · by_cases room : manager.events.length < manager.eventCapacity <;>
        simp [report, Report.refused, Report.delivered, announcements, sendEvent, known, nothing, room]

/-- All that a tick can do to the baseline and to what is announced. -/
theorem tick_cases {input : TickInput} (manager : GpuManager) :
    (input.states = none ∧ (manager.tick input).1 = none ∧ (manager.tick input).2.baseline = manager.baseline ∧
        (manager.tick input).2.announcements = manager.announcements) ∨
      ∃ report, input.states = some report.states ∧ (manager.tick input).1 = some report ∧
        report.changed = (manager.baseline.map (diffStates · report.states)).getD [] ∧
        (manager.tick input).2.baseline = (if report.refused then manager.baseline else some report.states) ∧
        (manager.tick input).2.announcements =
          manager.announcements ++ if report.delivered then [report.changed] else [] := by
  obtain ⟨⟨observed, published, reloaded⟩, streakRoom, changeRoom⟩ := input
  let ready := { manager with eventCapacity := streakRoom }
  cases observed with
  | error error => exact .inl ⟨rfl, rfl, recordFailure_frame⟩
  | ok snapshot =>
    cases checked : validateSnapshot snapshot with
    | error =>
      have invalid : ¬snapshot.Valid := by simp [GpuObservationSnapshot.Valid, checked]
      simp only [tick, checked]
      exact .inl ⟨if_neg fun good => invalid good.1, trivial, recordFailure_frame⟩
    | ok =>
      have valid : snapshot.Valid := checked
      have frame := recordSuccess_frame snapshot.revision { ready with snapshot := some snapshot }
      simp only [tick, checked]
      cases published with
      | false => exact .inl ⟨by simp [TickInput.states], rfl, rfl, rfl⟩
      | true =>
        cases reloaded with
        | false => exact .inl ⟨by simp [TickInput.states], rfl, frame⟩
        | true =>
          let counted := { ready with snapshot := some snapshot }.recordSuccess snapshot.revision
          have announced := announce_spec snapshot.revision (buildStateMap snapshot)
            { counted with eventCapacity := changeRoom }
          refine .inr ⟨_, by simp [TickInput.states, valid, report], rfl, ?_, ?_, ?_⟩
          · exact congrArg (fun base => (Option.map (diffStates · (buildStateMap snapshot)) base).getD []) frame.1
          · exact announced.1.trans (congrArg (fun base => if Report.refused _ then base else some _) frame.1)
          · exact announced.2.trans (congrArg (· ++ _) frame.2)

/-- What holds of the reports of a run and of the manager it ends in. -/
structure Accounted (inputs : List TickInput) (reports : List Report) (manager : GpuManager) : Prop where
  states : reports.map (·.states) = inputs.filterMap TickInput.states
  announcements : manager.announcements = (reports.filter (·.delivered)).map (·.changed)
  baseline : manager.baseline = Report.baseline reports
  changed : ∀ early report late, reports = early ++ report :: late →
    report.changed = ((Report.baseline early).map (diffStates · report.states)).getD []

theorem Accounted.tick {inputs : List TickInput} (account : Accounted inputs reports manager) (input : TickInput) :
    Accounted (inputs ++ [input]) (reports ++ (manager.tick input).1.toList) (manager.tick input).2 := by
  rcases tick_cases manager with ⟨quiet, silent, base, sent⟩ | ⟨report, found, shown, changed, base, sent⟩
  · rw [silent, Option.toList_none, append_nil]
    exact ⟨by rw [filterMap_append, account.states]; simp [quiet], sent.trans account.announcements,
      base.trans account.baseline, account.changed⟩
  · rw [shown, Option.toList_some]
    rw [account.baseline] at changed base
    constructor
    · rw [map_append, filterMap_append, account.states]
      simp [found]
    · rw [sent, account.announcements, filter_append, map_append]
      cases delivery : report.delivered <;> simp [delivery]
    · rw [base, Report.baseline_concat]
    · intro early other late split
      rcases eq_nil_or_concat late with rfl | ⟨between, _, rfl⟩
      · obtain ⟨rfl, same⟩ := append_inj' split rfl
        cases same
        exact changed
      · rw [concat_eq_append, ← cons_append, ← append_assoc] at split
        exact account.changed early other between (append_inj' split rfl).1

end Yori.GpuManager
