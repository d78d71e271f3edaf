import Yori.Runtime.GpuManager

/-! One observation through the NVML driver: what the driver answers for each
device, and the snapshot that is built of it. -/

namespace Yori
open Checked List

variable {device : NvmlDevice}

inductive NvmlReturn
  | success | uninitialized | invalidArgument | notSupported | noPermission | insufficientSize | driverNotLoaded
  | timeout | libraryNotFound | functionNotFound | gpuIsLost | unknown | other (code : UInt32)
deriving DecidableEq, Repr

def mapObserveError : NvmlReturn → GpuProviderErrorCode
  | .uninitialized | .driverNotLoaded | .libraryNotFound => .backendUnavailable
  | .noPermission => .permissionDenied
  | _ => .observationFailed

/-- What the driver answers to the queries about one device: the status of each
call and what its output holds afterwards. The third version of the process
query may be missing from the library. -/
structure NvmlDevice where
  handle : NvmlReturn := .success
  handlePresent : Bool := true
  uuid : NvmlReturn := .success
  uuidBuffer : { bytes : ByteString // bytes.length = 128 }
  utilization : NvmlReturn × UInt32 := (.notSupported, 0)
  memory : NvmlReturn := .notSupported
  memoryTotal : UInt64 := 0
  memoryUsed : UInt64 := 0
  computeProcessesV3 : Option (NvmlReturn × UInt32) := none
  computeProcessesV2 : NvmlReturn × UInt32 := (.success, 0)

structure NvmlDriver where
  deviceCount : NvmlReturn × UInt32
  device : Nat → NvmlDevice

inductive OccupancyCode
  | free | externalBusy | unavailable | permissionDenied | failed
deriving Repr

namespace NvmlDevice

def queryOccupancy (device : NvmlDevice) : OccupancyCode :=
  let newest := device.computeProcessesV3.getD (.functionNotFound, 0)
  let (status, count) := if newest.1 = .functionNotFound then device.computeProcessesV2 else newest
  match status with
  | .success => if count > 0 then .externalBusy else .free
  | .insufficientSize => .externalBusy
  | .notSupported | .gpuIsLost | .timeout | .invalidArgument => .unavailable
  | .noPermission => .permissionDenied
  | _ => .failed

/-- The text that the buffer holds, up to its first NUL. -/
def uuidText (device : NvmlDevice) : ByteString := device.uuidBuffer.val.takeWhile (· ≠ ByteString.nul)

def extractUuid (device : NvmlDevice) : Option GpuUuid :=
  if !ByteString.containsNul device.uuidBuffer.val then none
  else
    let uuid : GpuUuid := ⟨device.uuidText⟩
    if uuid.valid then some uuid else none

/-- Numbers that cannot be read, or that contradict each other, are left out. -/
def observeTelemetry (device : NvmlDevice) : GpuTelemetry :=
  let utilization := if device.utilization.1 = .success ∧ device.utilization.2 ≤ 100 then some device.utilization.2
    else none
  if device.memory = .success ∧ device.memoryUsed ≤ device.memoryTotal then
    ⟨utilization, some device.memoryTotal, some device.memoryUsed⟩
  else ⟨utilization, none, none⟩

def observe (index : Nat) (device : NvmlDevice) : Except GpuProviderErrorCode GpuObservation := do
  rejectIf (device.handle ≠ .success ∨ !device.handlePresent)
    (mapObserveError (if device.handle = .success then .unknown else device.handle))
  rejectIf (device.uuid ≠ .success) (mapObserveError device.uuid)
  let uuid ← require device.extractUuid .observationFailed
  let observed (state : GpuObservedState) : GpuObservation :=
    { uuid, index := UInt32.ofNat index, state, telemetry := device.observeTelemetry }
  match device.queryOccupancy with
  | .free => .ok (observed .free)
  | .externalBusy => .ok (observed .externalBusy)
  | .unavailable => .ok (observed .unavailable)
  | .permissionDenied => .error .permissionDenied
  | .failed => .error .observationFailed

end NvmlDevice

/-- The limit on devices is checked when the library is loaded. -/
structure NvmlGpuProvider where
  maxDevices : Nat
  bounded : 1 ≤ maxDevices ∧ maxDevices ≤ GpuObservationSnapshot.maxDevices
  loaded : Bool := false
  nextRevision : UInt64 := 0

namespace NvmlGpuProvider

def observeDevices (driver : NvmlDriver) (provider : NvmlGpuProvider) :
    Except GpuProviderErrorCode (List GpuObservation) := do
  rejectIf (!provider.loaded) .backendUnavailable
  rejectIf (driver.deviceCount.1 ≠ .success) (mapObserveError driver.deviceCount.1)
  rejectIf (driver.deviceCount.2.toNat > provider.maxDevices) .observationFailed
  (List.range driver.deviceCount.2.toNat).mapM fun index => (driver.device index).observe index

/-- A revision is used up only by an observation that succeeds. -/
def observe (driver : NvmlDriver) (now : TimePoint) (provider : NvmlGpuProvider) :
    Except GpuProviderErrorCode GpuObservationSnapshot × NvmlGpuProvider :=
  match provider.observeDevices driver with
  | .error code => (.error code, provider)
  | .ok devices => (.ok ⟨provider.nextRevision + 1, now, devices⟩,
      { provider with nextRevision := provider.nextRevision + 1 })

end NvmlGpuProvider

/-- The driver never gives two devices one text. -/
def NvmlDriver.DistinctUuids (driver : NvmlDriver) : Prop :=
  ∀ first second, first < driver.deviceCount.2.toNat → second < driver.deviceCount.2.toNat → first ≠ second →
    (driver.device first).uuidText ≠ (driver.device second).uuidText

theorem NvmlDevice.observe_eq_ok {index : Nat} {observation : GpuObservation}
    (observed : device.observe index = .ok observation) :
    observation.uuid = ⟨device.uuidText⟩ ∧ observation.uuid.valid = true ∧ observation.index = UInt32.ofNat index ∧
      observation.telemetry = device.observeTelemetry := by
  rw [NvmlDevice.observe, guard_bind_eq_ok, guard_bind_eq_ok, bind_eq_ok] at observed
  obtain ⟨_, _, uuid, found, observed⟩ := observed
  have extracted : uuid = ⟨device.uuidText⟩ ∧ uuid.valid = true := by
    rw [require_eq_ok, extractUuid] at found
    split at found
    · cases found
    · dsimp only at found
      split at found
      case isTrue valid =>
        cases found
        exact ⟨rfl, valid⟩
      case isFalse => cases found
  dsimp only at observed
  split at observed <;> cases observed <;> exact ⟨extracted.1, extracted.2, rfl, rfl⟩

/-- The numbers that are taken over pass the check unless the total is zero. -/
theorem NvmlDevice.observeTelemetry_accepted : device.observeTelemetry.Accepted ↔
    ¬(device.memory = .success ∧ device.memoryTotal = 0 ∧ device.memoryUsed = 0) := by
  have percent : ∀ share, device.observeTelemetry.utilizationPercent = some share → share ≤ 100 := by
    intro share taken
    have read : (if device.utilization.1 = .success ∧ device.utilization.2 ≤ 100 then some device.utilization.2
        else none) = some share := by
      rw [← taken, observeTelemetry, apply_ite GpuTelemetry.utilizationPercent, ite_self]
    split at read
    case isTrue known =>
      cases read
      exact known.2
    case isFalse => cases read
  by_cases told : device.memory = .success ∧ device.memoryUsed ≤ device.memoryTotal
  · have numbers : device.observeTelemetry.memoryTotalBytes = some device.memoryTotal ∧
        device.observeTelemetry.memoryUsedBytes = some device.memoryUsed := by
      rw [observeTelemetry, if_pos told]
      exact ⟨rfl, rfl⟩
    constructor
    · intro accepted zero
      exact accepted.positive (by rw [numbers.1, zero.2.1])
    · intro some
      refine ⟨⟨percent, ?_⟩, ?_, ?_⟩
      · intro _ _ atUsed atTotal
        rw [numbers.2] at atUsed
        rw [numbers.1] at atTotal
        cases atUsed
        cases atTotal
        exact told.2
      · intro _
        rw [numbers.1]
        rfl
      · intro zero
        rw [numbers.1, Option.some.injEq] at zero
        -- nothing is used of a total of zero
        have empty : device.memoryUsed = 0 := UInt64.le_zero_iff.mp (zero ▸ told.2)
        exact some ⟨told.1, zero, empty⟩
  · have numbers : device.observeTelemetry.memoryTotalBytes = none ∧
        device.observeTelemetry.memoryUsedBytes = none := by
      rw [observeTelemetry, if_neg told]
      exact ⟨rfl, rfl⟩
    have consistent : ¬(device.memory = .success ∧ device.memoryTotal = 0 ∧ device.memoryUsed = 0) := by
      intro ⟨read, total, used⟩
      exact told ⟨read, by rw [total, used]⟩
    refine ⟨fun _ => consistent, fun _ => ⟨⟨percent, ?_⟩, ?_, ?_⟩⟩ <;> simp [numbers.1, numbers.2]

namespace NvmlGpuProvider

variable {driver : NvmlDriver} {provider : NvmlGpuProvider} {devices : List GpuObservation}

theorem observeDevices_eq_ok (observed : provider.observeDevices driver = .ok devices) :
    driver.deviceCount.2.toNat ≤ GpuObservationSnapshot.maxDevices ∧
      (range driver.deviceCount.2.toNat).map (fun index => (driver.device index).observe index) =
        devices.map .ok := by
  rw [observeDevices, guard_bind_eq_ok, guard_bind_eq_ok, guard_bind_eq_ok, mapM_eq_ok] at observed
  obtain ⟨_, _, few, turns⟩ := observed
  exact ⟨(Nat.le_of_not_lt few).trans provider.bounded.2, turns⟩

theorem observeDevices_pairwise (observed : provider.observeDevices driver = .ok devices)
    (distinct : driver.DistinctUuids) : devices.Pairwise fun a b => a.uuid ≠ b.uuid ∧ a.index ≠ b.index := by
  obtain ⟨few, turns⟩ := observeDevices_eq_ok observed
  have apart : (devices.map (Except.ok (ε := GpuProviderErrorCode))).Pairwise fun first second =>
      ∀ a b, first = .ok a → second = .ok b → a.uuid ≠ b.uuid ∧ a.index ≠ b.index := by
    rw [← turns, pairwise_map]
    refine pairwise_lt_range.imp_of_mem ?_
    intro first second memberFirst memberSecond before a b atFirst atSecond
    have inFirst := mem_range.mp memberFirst
    have inSecond := mem_range.mp memberSecond
    obtain ⟨uuidA, _, indexA, _⟩ := NvmlDevice.observe_eq_ok atFirst
    obtain ⟨uuidB, _, indexB, _⟩ := NvmlDevice.observe_eq_ok atSecond
    constructor
    · intro same
      rw [uuidA, uuidB] at same
      exact distinct first second inFirst inSecond before.ne (GpuUuid.mk.inj same)
    · intro same
      rw [indexA, indexB] at same
      have bound : GpuObservationSnapshot.maxDevices = 128 := rfl
      have numbers := congrArg UInt32.toNat same
      rw [UInt32.toNat_ofNat', UInt32.toNat_ofNat'] at numbers
      omega
  rw [pairwise_map] at apart
  exact apart.imp fun each => each _ _ rfl rfl

/-- A driver with one device, which tells its memory but not its load. -/
def oneDevice (total used : UInt64) : NvmlDriver where
  deviceCount := (.success, 1)
  device _ :=
    { uuidBuffer := ⟨ByteString.ascii "GPU-0" ++ List.replicate 123 ByteString.nul, by
        rw [List.length_append, List.length_replicate]; decide⟩
      memory := .success, memoryTotal := total, memoryUsed := used }

def freshlyLoaded : NvmlGpuProvider := { maxDevices := 128, bounded := by decide, loaded := true }

theorem oneDevice_distinct (total used : UInt64) : (oneDevice total used).DistinctUuids := by
  intro first second inFirst inSecond differ
  have count : (oneDevice total used).deviceCount.2.toNat = 1 := rfl
  omega

/-- A successful observation passes the check of snapshots unless the driver
tells for some device a memory of no bytes at all, or the counter of revisions
has run through all its values. -/
theorem observe_valid_iff {now : TimePoint} {snapshot : GpuObservationSnapshot} (after : 0 < now)
    (distinct : driver.DistinctUuids) (observed : (provider.observe driver now).1 = .ok snapshot) :
    snapshot.Valid ↔ provider.nextRevision + 1 ≠ 0 ∧ ∀ index < driver.deviceCount.2.toNat,
      ¬((driver.device index).memory = .success ∧ (driver.device index).memoryTotal = 0 ∧
        (driver.device index).memoryUsed = 0) := by
  unfold observe at observed
  cases collected : provider.observeDevices driver with
  | error =>
    rw [collected] at observed
    cases observed
  | ok devices =>
    rw [collected] at observed
    cases observed
    obtain ⟨few, turns⟩ := observeDevices_eq_ok collected
    have apart := observeDevices_pairwise collected distinct
    have count : devices.length = driver.deviceCount.2.toNat := by
      have lengths := congrArg length turns
      rw [length_map, length_map, length_range] at lengths
      exact lengths.symm
    rw [GpuObservationSnapshot.valid_iff]
    constructor
    · intro ⟨revision, _, _, each, _⟩
      refine ⟨revision, fun index below => ?_⟩
      have turn : (driver.device index).observe index ∈ devices.map .ok := by
        rw [← turns]
        exact mem_map.mpr ⟨index, mem_range.mpr below, rfl⟩
      obtain ⟨device, member, told⟩ := mem_map.mp turn
      obtain ⟨_, _, _, telemetry⟩ := NvmlDevice.observe_eq_ok told.symm
      exact NvmlDevice.observeTelemetry_accepted.mp (telemetry ▸ (each device member).2)
    · intro ⟨revision, sized⟩
      refine ⟨revision, after, count ▸ few, fun device member => ?_, apart⟩
      have turn := mem_map_of_mem (f := Except.ok (ε := GpuProviderErrorCode)) member
      rw [← turns] at turn
      obtain ⟨index, inside, told⟩ := mem_map.mp turn
      obtain ⟨_, valid, _, telemetry⟩ := NvmlDevice.observe_eq_ok told
      refine ⟨valid, ?_⟩
      rw [telemetry]
      exact NvmlDevice.observeTelemetry_accepted.mpr (sized index (mem_range.mp inside))

theorem observe_valid_iff_one : ∃ snapshot, (freshlyLoaded.observe (oneDevice 24 7) 1).1 = .ok snapshot ∧
    snapshot.Valid := by
  have passes {snapshot : GpuObservationSnapshot}
      (observed : (freshlyLoaded.observe (oneDevice 24 7) 1).1 = .ok snapshot) : snapshot.Valid := by
    refine (observe_valid_iff (by decide) (oneDevice_distinct 24 7) observed).mpr ⟨by decide, ?_⟩
    intro _ _ zero
    exact absurd zero.2.1 (show (24 : UInt64) ≠ 0 by decide)
  exact ⟨_, rfl, passes rfl⟩

/-- A total of zero bytes is not left out, and the whole snapshot is refused for it. -/
theorem observe_zero_memory_invalid : (oneDevice 0 0).DistinctUuids ∧
    ∃ snapshot, (freshlyLoaded.observe (oneDevice 0 0) 1).1 = .ok snapshot ∧ ¬snapshot.Valid ∧
      validateSnapshot snapshot = .error ⟨.invalidMemoryTelemetry, some 0⟩ :=
  ⟨oneDevice_distinct 0 0, _, rfl, by decide, by decide⟩

end NvmlGpuProvider

end Yori
