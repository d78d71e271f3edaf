import Yori.Gpu
import Yori.Library.Search
import Yori.Library.SortedMap

namespace Yori
open Checked SortedMap

variable {snapshot : GpuObservationSnapshot} {uuid : GpuUuid}

inductive GpuProviderErrorCode
  | backendUnavailable | permissionDenied | observationFailed
deriving Repr

abbrev StateMap := SortedMap GpuUuid GpuObservedState

/-- A device listed twice keeps its first state. -/
def addState (states : StateMap) (device : GpuObservation) : StateMap :=
  if states.contains device.uuid then states else states.insert device.uuid device.state

def buildStateMap (snapshot : GpuObservationSnapshot) : StateMap := snapshot.devices.foldl addState .empty

/-- The devices that appeared, changed their state or disappeared. Telemetry
and renumbering do not count. -/
def diffStates (previous current : StateMap) : List GpuUuid :=
  (current.entries.filter fun entry => previous.find? entry.1 ≠ some entry.2).map Prod.fst ++
    previous.keys.filter fun uuid => !current.contains uuid

inductive GpuManagerEventKind
  | gpuStateChanged | errorStreakStarted | errorStreakEnded
deriving DecidableEq, Repr

structure GpuManagerEvent where
  kind : GpuManagerEventKind
  revision : UInt64 := 0
  error : Option GpuProviderErrorCode := none
  errorStreak : Nat := 0
  changed : List GpuUuid := []
  droppedEarlierEvents : Bool := false
deriving Repr

/-- The observing side: the latest published snapshot, the states last
announced, and the events waiting for the worker. -/
structure GpuManager where
  eventCapacity : Nat := 64
  snapshot : Option GpuObservationSnapshot := none
  baseline : Option StateMap := none
  events : List GpuManagerEvent := []
  errorStreak : Nat := 0
  droppedEventsPending : Bool := false

namespace GpuManager

def tryGetSnapshot (manager : GpuManager) : Option GpuObservationSnapshot :=
  manager.snapshot.filter (·.revision ≠ 0)

/-- An event that finds the channel full is dropped and remembered as such. -/
def sendEvent (event : GpuManagerEvent) (manager : GpuManager) : Bool × GpuManager :=
  let event := { event with droppedEarlierEvents := event.droppedEarlierEvents || manager.droppedEventsPending }
  if manager.events.length < manager.eventCapacity then
    (true, { manager with events := manager.events ++ [event], droppedEventsPending := false })
  else (false, { manager with droppedEventsPending := true })

def recordFailure (error : GpuProviderErrorCode) (manager : GpuManager) : GpuManager :=
  let streak := manager.errorStreak + 1
  let counted := { manager with errorStreak := streak }
  if streak = 1 then
    (counted.sendEvent { kind := .errorStreakStarted, error := some error, errorStreak := streak }).2
  else counted

def recordSuccess (revision : UInt64) (manager : GpuManager) : GpuManager :=
  let settled := { manager with errorStreak := 0 }
  if manager.errorStreak > 0 then
    (settled.sendEvent { kind := .errorStreakEnded, revision, errorStreak := manager.errorStreak }).2
  else settled

/-- What one tick meets: the answer of the provider (an exception counts as a
failed observation), whether the buffer takes the snapshot, and whether it can
be read back. -/
structure SampleInput where
  observed : Except GpuProviderErrorCode GpuObservationSnapshot
  published : Bool := true
  reloaded : Bool := true

/-- The first successful sample only sets the baseline. A later one announces
the difference, and keeps the old baseline when the event is dropped. -/
def announce (revision : UInt64) (next : StateMap) (manager : GpuManager) : GpuManager :=
  match manager.baseline with
  | none => { manager with baseline := some next }
  | some baseline =>
    let changed := diffStates baseline next
    if changed = [] then { manager with baseline := some next }
    else
      let (sent, sending) := manager.sendEvent { kind := .gpuStateChanged, revision, changed }
      if sent then { sending with baseline := some next } else sending

def sampleOnce (input : SampleInput) (manager : GpuManager) : GpuManager :=
  match input.observed with
  | .error error => manager.recordFailure error
  | .ok snapshot =>
    match validateSnapshot snapshot with
    | .error _ => manager.recordFailure .observationFailed
    | .ok () =>
      if !input.published then manager
      else
        let published := { manager with snapshot := some snapshot }.recordSuccess snapshot.revision
        if !input.reloaded then published else published.announce snapshot.revision (buildStateMap snapshot)

/-- All waiting events are taken; the result says whether a state change was
among them. -/
def drainEvents (manager : GpuManager) : Bool × GpuManager :=
  (manager.events.any (·.kind == .gpuStateChanged), { manager with events := [] })

end GpuManager

/-- The difference lists exactly the devices whose presence or state is not the same. -/
theorem mem_diffStates {previous current : StateMap} :
    uuid ∈ diffStates previous current ↔ previous.find? uuid ≠ current.find? uuid := by
  simp only [diffStates, List.mem_append, List.mem_map, List.mem_filter, Prod.exists, exists_and_right, exists_eq_right,
    mem_keys, ← find?_eq_some_iff, decide_eq_true_eq, Bool.not_eq_true', contains_eq_false]
  cases present : current.find? uuid with
  | some => simp
  | none => simp [← Option.ne_none_iff_exists']

theorem diffStates_eq_nil {previous current : StateMap} : diffStates previous current = [] ↔ previous = current := by
  rw [List.eq_nil_iff_forall_not_mem]
  simp only [mem_diffStates, not_not]
  exact ⟨ext_find?, fun same _ => same ▸ rfl⟩

theorem find?_addState (states : StateMap) (device : GpuObservation) :
    (addState states device).find? uuid =
      (states.find? uuid).or (if device.uuid = uuid then some device.state else none) := by
  unfold addState
  by_cases here : device.uuid = uuid
  · subst here
    cases present : states.find? device.uuid with
    | some | none => simp [contains, present]
  · rw [if_neg here, Option.or_none]
    split
    · rfl
    · exact find?_insert_of_ne _ _ (Ne.symm here)

theorem find?_foldl_addState (devices : List GpuObservation) (states : StateMap) :
    (devices.foldl addState states).find? uuid =
      (states.find? uuid).or ((devices.find? (·.uuid == uuid)).map (·.state)) := by
  induction devices generalizing states with
  | nil => simp
  | cons device _ ih =>
    rw [List.foldl_cons, ih, find?_addState, Option.or_assoc, List.find?_cons]
    by_cases here : device.uuid = uuid
    · simp [here]
    · simp only [here, if_false, Option.none_or, beq_eq_false_iff_ne.mpr here]

/-- The state map of a valid snapshot lists each device with its state. -/
theorem find?_buildStateMap (valid : snapshot.Valid) {state : GpuObservedState} :
    (buildStateMap snapshot).find? uuid = some state ↔
      ∃ device ∈ snapshot.devices, device.uuid = uuid ∧ device.state = state := by
  have unique : ∀ a ∈ snapshot.devices, ∀ b ∈ snapshot.devices, (a.uuid == uuid) = true → (b.uuid == uuid) = true →
      a = b := fun a atA b atB sameA sameB =>
    valid.uuid_unique atA atB ((beq_iff_eq.mp sameA).trans (beq_iff_eq.mp sameB).symm)
  rw [buildStateMap, find?_foldl_addState]
  simp only [find?_empty, Option.none_or, Option.map_eq_some_iff, Search.find?_of_unique unique, beq_iff_eq]
  exact exists_congr fun device => by rw [and_assoc]

namespace GpuManager

variable {manager : GpuManager}

/-- A change of state waits for the worker. -/
def announcing (manager : GpuManager) : Bool := manager.events.any (·.kind == .gpuStateChanged)

/-- The last sample was a good one, and its states are the ones announced. -/
structure Observes (manager : GpuManager) (snapshot : GpuObservationSnapshot) : Prop where
  latest : manager.snapshot = some snapshot
  valid : snapshot.Valid
  announced : manager.baseline = some (buildStateMap snapshot)
  healthy : manager.errorStreak = 0

theorem Observes.tryGetSnapshot (observes : manager.Observes snapshot) : manager.tryGetSnapshot = some snapshot := by
  have valid := observes.valid
  unfold GpuObservationSnapshot.Valid validateSnapshot at valid
  obtain ⟨revision, _⟩ := guard_bind_eq_ok.mp valid
  rw [GpuManager.tryGetSnapshot, observes.latest, Option.filter_some, if_pos (by simpa using revision)]

/-- A good sample is announced if the channel has room, or has the states of
the one before. -/
theorem sampleOnce_observes {old : GpuObservationSnapshot} (observes : manager.Observes old) (valid : snapshot.Valid)
    (room : manager.events.length < manager.eventCapacity) :
    let sampled := manager.sampleOnce { observed := .ok snapshot }
    sampled.Observes snapshot ∧ (sampled.announcing = true ∨
      sampled.events = manager.events ∧ buildStateMap snapshot = buildStateMap old) := by
  have passed : validateSnapshot snapshot = .ok () := valid
  let published := { manager with snapshot := some snapshot, errorStreak := 0 }
  have same : manager.sampleOnce { observed := .ok snapshot } =
      published.announce snapshot.revision (buildStateMap snapshot) := by
    simp [sampleOnce, passed, recordSuccess, observes.healthy, published]
  rw [same]
  simp only [announce, show published.baseline = _ from observes.announced]
  by_cases unchanged : diffStates (buildStateMap old) (buildStateMap snapshot) = []
  · rw [if_pos unchanged]
    exact ⟨⟨rfl, valid, rfl, rfl⟩, .inr ⟨rfl, (diffStates_eq_nil.mp unchanged).symm⟩⟩
  · have sending : published.events.length < published.eventCapacity := room
    rw [if_neg unchanged]
    simp only [sendEvent, sending, if_true]
    exact ⟨⟨rfl, valid, rfl, rfl⟩, .inl (by simp [announcing])⟩

end GpuManager

end Yori
