import Yori.Launch.Adapter
import Yori.Runtime.Attribution

namespace Yori
open Checked ByteString List Effect LaunchProfile

/-- The components a launch asks for what the process is started with. -/
structure LaunchHost where
  resolve : UInt32 → Except ByteString IdentityInfo
  adapter : DefaultLaunchAdapter := {}

/-- What is handed to the spawn, with the way the device is shown in it. -/
structure SpawnRequest where
  mode : GpuMappingMode
  plan : LaunchPlan
deriving Repr

namespace LaunchHost

variable (host : LaunchHost) (input : LaunchInput) (id : JobId) (uuid : GpuUuid) (spec : JobSpec)

/-- The index comes from the second look at the devices. -/
def assignment : GpuAssignment := ⟨uuid, JobManager.physicalIndex input.observed uuid, 0⟩

def planFor (identity : IdentityInfo) : Except ByteString LaunchPlan :=
  (host.adapter.prepare id spec (assignment input uuid) (profileFromSpec spec) identity).mapError
    (·.message)

/-- The steps before the process exists, up to the plan that is spawned. -/
def request : Except ByteString SpawnRequest := do
  let identity ← (host.resolve spec.ownerUid).mapError (ascii "identity resolve failed: " ++ ·)
  (profileFromSpec spec).validate.mapError (ascii "invalid launch profile: " ++ ·.toString)
  let plan ← (host.planFor input id uuid spec identity).mapError (ascii "launch plan rejected: " ++ ·)
  input.directory
  input.sink.mapError (ascii "log sink open failed: " ++ ·)
  input.streamer.mapError (ascii "log streamer register failed: " ++ ·)
  return ⟨(profileFromSpec spec).mode, plan⟩

/-- The launch input with the answers of these components in it. -/
def answers : LaunchInput :=
  { input with
    identity := (host.resolve spec.ownerUid).map fun _ => ()
    plan := match host.resolve spec.ownerUid with
      | .error _ => .ok ()
      | .ok identity => (host.planFor input id uuid spec identity).map fun _ => () }

/-- The launch of the worker gets as far as this request does. -/
theorem prepareLaunch_answers :
    JobManager.prepareLaunch (host.answers input id uuid spec) spec =
      (host.request input id uuid spec).map fun _ => () := by
  unfold JobManager.prepareLaunch request answers
  cases host.resolve spec.ownerUid with
  | error => rfl
  | ok identity =>
    cases (profileFromSpec spec).validate with
    | error => rfl
    | ok =>
      cases plan : host.planFor input id uuid spec identity with
      | error => simp [plan, bind, Except.bind, Except.map]
      | ok =>
        cases input.directory with
        | error => simp [plan, bind, Except.bind, Except.map]
        | ok =>
          cases input.sink with
          | error => simp [plan, bind, Except.bind, Except.map]
          | ok => cases input.streamer <;> simp [plan, bind, Except.bind, Except.map, pure, Except.pure]

variable {host input id uuid spec}

theorem request_shownIndex {request : SpawnRequest} (ready : host.request input id uuid spec = .ok request) :
    request.plan.shownIndex request.mode = some (assignment input uuid).indexText := by
  unfold LaunchHost.request at ready
  obtain ⟨_, _, ready⟩ := bind_eq_ok.mp ready
  obtain ⟨_, ready⟩ := unit_bind_eq_ok.mp ready
  obtain ⟨_, prepared, ready⟩ := bind_eq_ok.mp ready
  obtain ⟨_, ready⟩ := unit_bind_eq_ok.mp ready
  obtain ⟨_, ready⟩ := unit_bind_eq_ok.mp ready
  obtain ⟨_, ready⟩ := unit_bind_eq_ok.mp ready
  cases ready
  exact DefaultLaunchAdapter.prepare_shownIndex (mapError_eq_ok.mp (mapError_eq_ok.mp prepared))

end LaunchHost

/-- The processes the daemon has started, as they stand in its history. -/
def Effect.spawned? : Effect → Option (JobId × GpuAssignment × ProcessIdentity)
  | .spawned id assignment identity => some (id, assignment, identity)
  | _ => none

namespace JobManager

variable {σ : Type}

def spawns (manager : JobManager σ) : List (JobId × GpuAssignment × ProcessIdentity) :=
  manager.log.filterMap spawned?

/-- The record a launch reads, if it is still starting. -/
def startingRecord (store : StateStore σ) (id : JobId) (manager : JobManager σ) : Option StoredJob :=
  match (store.load manager.backend).1 with
  | .error _ => none
  | .ok snapshot => (findStored snapshot id).filter (·.state = .starting)

/-- What the launch hands to the spawn, if it gets as far as that. -/
def spawnRequest (store : StateStore σ) (host : LaunchHost) (input : LaunchInput) (id : JobId) (uuid : GpuUuid)
    (manager : JobManager σ) : Option SpawnRequest :=
  (manager.startingRecord store id).bind fun record => (host.request input id uuid record.spec).toOption

/-- The process a launch starts, if it is ready to. -/
def startedProcess (input : LaunchInput) (id : JobId) (uuid : GpuUuid) (ready : Bool) :
    List (JobId × GpuAssignment × ProcessIdentity) :=
  match ready, input.spawn with
  | true, .ok identity => [(id, LaunchHost.assignment input uuid, identity)]
  | _, _ => []

/-- The launch with the components of the host in place. -/
def launchOn (config : JobManagerConfig) (store : StateStore σ) (host : LaunchHost) (input : LaunchInput) (id : JobId)
    (uuid : GpuUuid) (manager : JobManager σ) : JobManager σ :=
  match manager.startingRecord store id with
  | none => manager.launchScheduled config store input id uuid
  | some record => manager.launchScheduled config store (host.answers input id uuid record.spec) id uuid

section Spawns

variable {config : JobManagerConfig} {store : StateStore σ} {input : LaunchInput} {id : JobId} {uuid : GpuUuid}
  {manager : JobManager σ}

theorem reports_spawned (outputs : List MonitorOutput) : (reports outputs).filterMap spawned? = [] := by
  rw [filterMap_eq_nil_iff]
  intro _ member
  obtain ⟨output, _, reported⟩ := mem_filterMap.mp member
  cases output with
  | produced =>
    cases reported
    rfl
  | _ => simp at reported

theorem emit_spawns {effects : List Effect} (silent : effects.filterMap spawned? = []) :
    (manager.emit effects).spawns = manager.spawns := by
  simp [emit, spawns, silent]

theorem watch_spawns (turn : List MonitorOutput × ProcessExitMonitor) :
    (manager.watch turn).spawns = manager.spawns := by
  simp [watch, spawns, reports_spawned]

theorem sendSignals_spawns (calls : List KillCall) (between : List ReaperAction) :
    (manager.sendSignals calls between).spawns = manager.spawns := by
  cases calls with
  | nil => simp [sendSignals, signalEffects, spawns]
  | cons first rest =>
    have silent : (rest.map signal).filterMap spawned? = [] := by
      rw [filterMap_eq_nil_iff]
      intro _ member
      obtain ⟨_, _, rfl⟩ := mem_map.mp member
      rfl
    simp only [sendSignals, signalEffects, spawns, filterMap_append, reports_spawned, silent, append_nil,
      filterMap_cons_none (show spawned? (.signal first) = none from rfl)]

theorem failLaunch_spawns {reason : ByteString} :
    (manager.failLaunch store input id uuid reason).spawns = manager.spawns := emit_spawns rfl

theorem rollBack_spawns (supervisor : ProcessSupervisor) (reason : ByteString) :
    (manager.rollBack store input id uuid supervisor reason).spawns = manager.spawns :=
  failLaunch_spawns.trans (sendSignals_spawns ..)

theorem startSpawned_spawns {identity : ProcessIdentity} :
    (manager.startSpawned config store input id uuid identity).spawns = manager.spawns := by
  unfold startSpawned
  simp only
  split
  · exact (rollBack_spawns ..).trans (emit_spawns rfl)
  · split
    · exact ((rollBack_spawns ..).trans (emit_spawns rfl)).trans (watch_spawns ..)
    · split
      · refine (rollBack_spawns ..).trans ?_
        exact (watch_spawns ..).trans ((emit_spawns rfl).trans ((watch_spawns ..).trans (watch_spawns ..)))
      · exact (watch_spawns ..).trans (watch_spawns ..)

/-- A launch starts a process exactly when everything before the spawn and the
spawn itself succeed. -/
theorem launchScheduled_spawns :
    (manager.launchScheduled config store input id uuid).spawns =
      manager.spawns ++ startedProcess input id uuid
        ((manager.startingRecord store id).any fun record => (prepareLaunch input record.spec).isOk) := by
  unfold launchScheduled startingRecord
  cases store.load manager.backend with
  | mk answer loaded =>
    let loading := { manager with backend := loaded }
    have nothing : loading.spawns = manager.spawns ++ startedProcess input id uuid false := (append_nil _).symm
    cases answer with
    | error => exact nothing
    | ok snapshot =>
      cases found : findStored snapshot id with
      | none =>
        simp only [found]
        exact nothing
      | some record =>
        by_cases starting : record.state = .starting
        · simp only [found, starting, ne_eq, not_true_eq_false, if_false, Option.filter_some, decide_true, if_true,
            Option.any_some]
          cases prepareLaunch input record.spec with
          | error reason => exact failLaunch_spawns.trans nothing
          | ok =>
            simp only [Except.isOk, Except.toBool, startedProcess]
            cases input.spawn with
            | error failure =>
              have killed : (failure.child.toList.map fun pid => signal ⟨pid, .kill⟩).filterMap
                  spawned? = [] := by
                cases failure.child <;> rfl
              refine failLaunch_spawns.trans ((emit_spawns ?_).trans ((emit_spawns rfl).trans nothing))
              rw [filterMap_append, killed]
              rfl
            | ok identity =>
              refine startSpawned_spawns.trans ?_
              have opened : [streamOpened id].filterMap spawned? = [] := rfl
              simp only [spawns, emit, filterMap_append, opened, append_nil]
              rfl
        · simp only [found, ne_eq, starting, not_false_eq_true, if_true, Option.filter_some, decide_false]
          exact nothing

/-- A launch starts a process exactly when it has a request to spawn and the
spawn succeeds, and then for the device it was decided for. -/
theorem launchOn_spawns (host : LaunchHost) :
    (manager.launchOn config store host input id uuid).spawns =
      manager.spawns ++ startedProcess input id uuid (manager.spawnRequest store host input id uuid).isSome := by
  unfold launchOn spawnRequest
  cases read : manager.startingRecord store id with
  | none =>
    rw [launchScheduled_spawns, read]
    rfl
  | some record =>
    simp only [launchScheduled_spawns, read, Option.any_some, Option.bind_some, host.prepareLaunch_answers]
    cases host.request input id uuid record.spec with
    | error | ok => rfl

end Spawns

/-- The leased device appears in the snapshot that the launch has read. -/
def Listed (observed : Option GpuObservationSnapshot) (uuid : GpuUuid) : Prop :=
  ∃ snapshot device, observed = some snapshot ∧ device ∈ snapshot.devices ∧ device.uuid = uuid

/-- The process is shown an index at which the leased device appears in the
snapshot that the launch has read. -/
def ShowsLeased (observed : Option GpuObservationSnapshot) (uuid : GpuUuid) (request : SpawnRequest) : Prop :=
  ∃ snapshot device, observed = some snapshot ∧ device ∈ snapshot.devices ∧ device.uuid = uuid ∧
    request.plan.shownIndex request.mode = some (ascii (toString device.index.toNat))

theorem physicalIndex_of_listed {observed : Option GpuObservationSnapshot} {uuid : GpuUuid}
    (listed : Listed observed uuid) : ∃ snapshot device, observed = some snapshot ∧ device ∈ snapshot.devices ∧
      device.uuid = uuid ∧ physicalIndex observed uuid = device.index := by
  obtain ⟨snapshot, device, rfl, member, same⟩ := listed
  cases found : findDevice snapshot uuid with
  | none => exact absurd same (by simpa using find?_eq_none.mp found device member)
  | some first =>
    refine ⟨snapshot, first, rfl, mem_of_find?_eq_some found, by simpa using find?_some found, ?_⟩
    simp [physicalIndex, found]

/-- The device shown to a spawned process is known to be the leased one exactly
when the launch stops before the spawn, or the snapshot it reads lists that
device. Without a listing the index is left at zero and the launch goes on. -/
theorem spawn_shows_leased_iff {σ : Type} (store : StateStore σ) (host : LaunchHost) (input : LaunchInput) (id : JobId)
    (uuid : GpuUuid) (manager : JobManager σ) :
    (∀ request, manager.spawnRequest store host input id uuid = some request →
      ShowsLeased input.observed uuid request) ↔
      manager.spawnRequest store host input id uuid = none ∨ Listed input.observed uuid := by
  constructor
  · intro shows
    cases reached : manager.spawnRequest store host input id uuid with
    | none => exact .inl rfl
    | some request =>
      obtain ⟨snapshot, device, read, member, same, _⟩ := shows request reached
      exact .inr ⟨snapshot, device, read, member, same⟩
  · rintro (stopped | listed) request reached
    · simp [stopped] at reached
    · obtain ⟨record, _, ready⟩ := Option.bind_eq_some_iff.mp reached
      have answered : host.request input id uuid record.spec = .ok request := by
        cases answer : host.request input id uuid record.spec with
        | error => simp [answer, Except.toOption] at ready
        | ok => simpa [answer, Except.toOption] using ready
      obtain ⟨snapshot, device, read, member, same, index⟩ := physicalIndex_of_listed listed
      refine ⟨snapshot, device, read, member, same, ?_⟩
      rw [LaunchHost.request_shownIndex answered]
      simp only [GpuAssignment.indexText, LaunchHost.assignment, index]

/-- The first queued job has been given the first of two devices. -/
def decidedManager : JobManager InMemoryStateStore :=
  let outcome := runOnce (InMemoryStateStore.store {}) {} .recoveryCompleted
    (.allFree [⟨ascii "GPU-0"⟩, ⟨ascii "GPU-1"⟩]) twoQueuedStarted.queue twoQueuedStarted.backend
  { twoQueuedStarted with queue := outcome.queue, backend := outcome.backend }

/-- That device then drops out, and the other one moves to its index. -/
def renumbered : GpuManager :=
  decidedManager.gpu.sampleOnce { observed := .ok (.allFree [⟨ascii "GPU-1"⟩]) }

def soleUser : LaunchHost where
  resolve uid := .ok { uid, gid := 1000, username := ascii "user" }

/-- The job is started on the device that was not leased to it: the one at the
index it is shown is the other device. -/
theorem spawn_shows_unleased :
    let memory := InMemoryStateStore.store {}
    let input : LaunchInput := { observed := renumbered.tryGetSnapshot, spawn := .ok ⟨100, 100, 7⟩ }
    (decidedManager.backend.state.leases.find? ⟨ascii "GPU-0"⟩).map (·.jobId) = some ⟨1⟩ ∧
      (∃ request, decidedManager.spawnRequest memory soleUser input ⟨1⟩ ⟨ascii "GPU-0"⟩ = some request ∧
        request.plan.shownIndex request.mode = some (ascii "0") ∧
        ¬ShowsLeased input.observed ⟨ascii "GPU-0"⟩ request) ∧
      (decidedManager.launchOn {} memory soleUser input ⟨1⟩ ⟨ascii "GPU-0"⟩).spawns =
        [(⟨1⟩, ⟨⟨ascii "GPU-0"⟩, 0, 0⟩, ⟨100, 100, 7⟩)] ∧
      renumbered.tryGetSnapshot.map (·.devices.map fun device => (device.uuid, device.index)) =
        some [(⟨ascii "GPU-1"⟩, 0)] := by
  intro memory input
  refine ⟨by decide, ?_, by decide, by decide⟩
  have shown : (decidedManager.spawnRequest memory soleUser input ⟨1⟩ ⟨ascii "GPU-0"⟩).map
      (fun request => request.plan.shownIndex request.mode) = some (some (ascii "0")) := by decide
  obtain ⟨request, reached, index⟩ := Option.map_eq_some_iff.mp shown
  refine ⟨request, reached, index, ?_⟩
  rintro ⟨_, device, read, member, same, _⟩
  have gone : ∀ device ∈ (input.observed.map (·.devices)).getD [], device.uuid ≠ ⟨ascii "GPU-0"⟩ := by decide
  rw [read] at gone
  exact gone device member same

end JobManager

end Yori
