import Mathlib.Data.List.Pairwise
import Yori.Identifiers
import Yori.Library.Checked

namespace Yori
open Checked

variable {snapshot : GpuObservationSnapshot} {earlier : List GpuObservation} {device a b : GpuObservation}
  {index : Nat}

inductive GpuObservedState
  | free | externalBusy | unavailable
deriving DecidableEq, Repr

structure GpuTelemetry where
  utilizationPercent : Option UInt32 := none
  memoryTotalBytes : Option UInt64 := none
  memoryUsedBytes : Option UInt64 := none
deriving DecidableEq, Repr

structure GpuObservation where
  uuid : GpuUuid
  index : UInt32 := 0
  state : GpuObservedState := .unavailable
  telemetry : GpuTelemetry := {}
deriving DecidableEq, Repr

structure GpuObservationSnapshot where
  revision : UInt64 := 0
  observedAt : TimePoint := 0
  devices : List GpuObservation := []
deriving DecidableEq, Repr

def GpuObservationSnapshot.maxDevices : Nat := 128

/-- An observation of devices that are all free, in index order. -/
def GpuObservationSnapshot.allFree (uuids : List GpuUuid) : GpuObservationSnapshot where
  revision := 1
  observedAt := 1
  devices := uuids.zipIdx.map fun (uuid, index) => { uuid, index := UInt32.ofNat index, state := .free }

inductive GpuObservationErrorCode
  | invalidRevision | invalidObservationTime | tooManyDevices | invalidUuid | duplicateUuid
  | duplicateIndex | invalidState | invalidUtilization | invalidMemoryTelemetry
deriving DecidableEq, Repr

structure GpuObservationError where
  code : GpuObservationErrorCode
  itemIndex : Option Nat := none
deriving DecidableEq, Repr

/-- Comparison with the devices listed earlier, in their order. The uuid is
compared before the index at each of them. -/
def checkEarlierDevices (index : Nat) (device : GpuObservation) :
    List GpuObservation → Except GpuObservationError Unit
  | [] => .ok ()
  | other :: rest => do
    rejectIf (other.uuid = device.uuid) ⟨.duplicateUuid, some index⟩
    rejectIf (other.index = device.index) ⟨.duplicateIndex, some index⟩
    checkEarlierDevices index device rest

def checkDevice (index : Nat) (earlier : List GpuObservation) (device : GpuObservation) :
    Except GpuObservationError Unit := do
  rejectIf (!device.uuid.valid) ⟨.invalidUuid, some index⟩
  rejectIf (device.telemetry.utilizationPercent.any (· > 100)) ⟨.invalidUtilization, some index⟩
  rejectIf (device.telemetry.memoryUsedBytes.isSome && device.telemetry.memoryTotalBytes.isNone)
    ⟨.invalidMemoryTelemetry, some index⟩
  rejectIf (device.telemetry.memoryTotalBytes.any fun total =>
    total == 0 || device.telemetry.memoryUsedBytes.any (· > total)) ⟨.invalidMemoryTelemetry, some index⟩
  checkEarlierDevices index device earlier

def checkDevices (earlier : List GpuObservation) : List GpuObservation → Except GpuObservationError Unit
  | [] => .ok ()
  | device :: rest => do
    checkDevice earlier.length earlier device
    checkDevices (earlier ++ [device]) rest

def validateSnapshot (snapshot : GpuObservationSnapshot) : Except GpuObservationError Unit := do
  rejectIf (snapshot.revision = 0) ⟨.invalidRevision, none⟩
  rejectIf (snapshot.observedAt ≤ 0) ⟨.invalidObservationTime, none⟩
  rejectIf (snapshot.devices.length > GpuObservationSnapshot.maxDevices) ⟨.tooManyDevices, none⟩
  checkDevices [] snapshot.devices

def GpuObservationSnapshot.Valid (snapshot : GpuObservationSnapshot) : Prop := validateSnapshot snapshot = .ok ()

instance GpuObservationSnapshot.decidableValid (snapshot : GpuObservationSnapshot) : Decidable snapshot.Valid :=
  inferInstanceAs (Decidable (validateSnapshot snapshot = .ok ()))

structure GpuLease where
  gpuUuid : GpuUuid
  jobId : JobId
deriving DecidableEq, Repr

theorem checkEarlierDevices_eq_ok :
    checkEarlierDevices index device earlier = .ok () ↔
      ∀ other ∈ earlier, other.uuid ≠ device.uuid ∧ other.index ≠ device.index := by
  induction earlier with
  | nil => simp [checkEarlierDevices]
  | cons _ _ ih =>
    rw [checkEarlierDevices, guard_bind_eq_ok, guard_bind_eq_ok, ih, List.forall_mem_cons, and_assoc]

/-- The numbers of a device that passed the check. -/
structure GpuTelemetry.Sound (telemetry : GpuTelemetry) : Prop where
  utilization : ∀ percent, telemetry.utilizationPercent = some percent → percent ≤ 100
  memory : ∀ used total, telemetry.memoryUsedBytes = some used → telemetry.memoryTotalBytes = some total → used ≤ total

/-- All that the check asks of the numbers: a used amount comes with a total, and no total is zero. -/
structure GpuTelemetry.Accepted (telemetry : GpuTelemetry) : Prop extends telemetry.Sound where
  whole : telemetry.memoryUsedBytes.isSome = true → telemetry.memoryTotalBytes.isSome = true
  positive : telemetry.memoryTotalBytes ≠ some 0

theorem checkDevice_eq_ok :
    checkDevice index earlier device = .ok () ↔ (device.uuid.valid = true ∧ device.telemetry.Accepted) ∧
      ∀ other ∈ earlier, other.uuid ≠ device.uuid ∧ other.index ≠ device.index := by
  have accepted : device.telemetry.Accepted ↔ ¬device.telemetry.utilizationPercent.any (· > 100) = true ∧
      ¬(device.telemetry.memoryUsedBytes.isSome && device.telemetry.memoryTotalBytes.isNone) = true ∧
      ¬(device.telemetry.memoryTotalBytes.any fun total =>
        total == 0 || device.telemetry.memoryUsedBytes.any (· > total)) = true := by
    obtain ⟨percent, total, used⟩ := device.telemetry
    constructor
    · intro ⟨⟨utilization, memory⟩, whole, positive⟩
      cases percent <;> cases total <;> cases used <;> simp_all
    · intro ⟨utilization, whole, memory⟩
      refine ⟨⟨?_, ?_⟩, ?_, ?_⟩ <;> cases percent <;> cases total <;> cases used <;> simp_all
  rw [checkDevice, guard_bind_eq_ok, guard_bind_eq_ok, guard_bind_eq_ok, guard_bind_eq_ok, checkEarlierDevices_eq_ok,
    accepted]
  simp only [Bool.not_eq_true', Bool.not_eq_false, and_assoc]

theorem checkDevices_eq_ok {devices : List GpuObservation} : checkDevices earlier devices = .ok () ↔
    (∀ device ∈ devices, device.uuid.valid = true ∧ device.telemetry.Accepted) ∧
      devices.Pairwise (fun a b => a.uuid ≠ b.uuid ∧ a.index ≠ b.index) ∧
      ∀ other ∈ earlier, ∀ device ∈ devices, other.uuid ≠ device.uuid ∧ other.index ≠ device.index := by
  induction devices generalizing earlier with
  | nil => simp [checkDevices]
  | cons _ _ ih =>
    rw [checkDevices, unit_bind_eq_ok, checkDevice_eq_ok, ih, List.forall_mem_cons, List.pairwise_cons]
    simp only [List.forall_mem_append, List.forall_mem_singleton, List.forall_mem_cons, forall_and]
    tauto

theorem GpuObservationSnapshot.valid_iff : snapshot.Valid ↔
    snapshot.revision ≠ 0 ∧ 0 < snapshot.observedAt ∧ snapshot.devices.length ≤ maxDevices ∧
      (∀ device ∈ snapshot.devices, device.uuid.valid = true ∧ device.telemetry.Accepted) ∧
      snapshot.devices.Pairwise (fun a b => a.uuid ≠ b.uuid ∧ a.index ≠ b.index) := by
  rw [GpuObservationSnapshot.Valid, validateSnapshot, guard_bind_eq_ok, guard_bind_eq_ok, guard_bind_eq_ok,
    checkDevices_eq_ok]
  simp

section

variable (valid : snapshot.Valid)
include valid

/-- What the scheduler relies on from an accepted observation: device names
are well formed, and neither names nor physical indices repeat. -/
theorem GpuObservationSnapshot.Valid.devices_ok :
    (∀ device ∈ snapshot.devices, device.uuid.valid = true) ∧
      snapshot.devices.Pairwise (fun a b => a.uuid ≠ b.uuid ∧ a.index ≠ b.index) := by
  obtain ⟨_, _, _, each, distinct⟩ := valid_iff.mp valid
  exact ⟨fun device member => (each device member).1, distinct⟩

theorem GpuObservationSnapshot.Valid.telemetry :
    snapshot.devices.length ≤ maxDevices ∧ ∀ device ∈ snapshot.devices, device.telemetry.Sound := by
  obtain ⟨_, _, few, each, _⟩ := valid_iff.mp valid
  exact ⟨few, fun device member => (each device member).2.toSound⟩

theorem GpuObservationSnapshot.Valid.devices_differ (atA : a ∈ snapshot.devices)
    (atB : b ∈ snapshot.devices) (different : a ≠ b) : a.uuid ≠ b.uuid ∧ a.index ≠ b.index := by
  have symmetric : Std.Symm fun a b : GpuObservation => a.uuid ≠ b.uuid ∧ a.index ≠ b.index :=
    ⟨fun _ _ both => ⟨both.1.symm, both.2.symm⟩⟩
  exact valid.devices_ok.2.forall atA atB different

theorem GpuObservationSnapshot.Valid.uuid_unique (atA : a ∈ snapshot.devices)
    (atB : b ∈ snapshot.devices) (same : a.uuid = b.uuid) : a = b := by
  by_contra different
  exact (valid.devices_differ atA atB different).1 same

end

end Yori
