import Mathlib.Data.List.MinMax
import Yori.Scheduler.Result

namespace Yori

def leased (snapshot : StateSnapshot) (uuid : GpuUuid) : Bool := snapshot.leases.any (·.gpuUuid == uuid)

def findDevice (gpuSnapshot : GpuObservationSnapshot) (uuid : GpuUuid) : Option GpuObservation :=
  gpuSnapshot.devices.find? (·.uuid == uuid)

/-- One turn of the searches for the smallest physical index. -/
def lowerIndex (best : Option GpuObservation) (device : GpuObservation) : Option GpuObservation :=
  match best with
  | none => some device
  | some current => if device.index < current.index then some device else some current

/-- The devices named by required jobs inside the window, which other jobs
avoid while they can. -/
def collectAffinityTargets (entries : List QueueEntry) (window : Nat)
    (queuedRecords : SortedMap JobId StoredJob) : List GpuUuid :=
  (entries.take window).flatMap fun entry =>
    match queuedRecords.find? entry.jobId with
    | none => []
    | some record => if record.spec.gpuPlacement.mode = .required then record.spec.gpuPlacement.devices else []

/-- One turn of the pass over the devices. It carries the best candidate that
conflicts with no required job, and the best candidate of all. -/
def considerDevice (snapshot : StateSnapshot) (targets : List GpuUuid)
    (best : Option GpuObservation × Option GpuObservation) (device : GpuObservation) :
    Option GpuObservation × Option GpuObservation :=
  if device.state ≠ .free ∨ leased snapshot device.uuid then best
  else (if device.uuid ∈ targets then best.1 else lowerIndex best.1 device, lowerIndex best.2 device)

def anyCandidates (gpuSnapshot : GpuObservationSnapshot) (snapshot : StateSnapshot) (targets : List GpuUuid) :
    Option GpuObservation × Option GpuObservation :=
  gpuSnapshot.devices.foldl (considerDevice snapshot targets) (none, none)

def selectAnyGpu (gpuSnapshot : GpuObservationSnapshot) (snapshot : StateSnapshot) (targets : List GpuUuid) :
    Option GpuObservation × GpuSelectionReason :=
  match anyCandidates gpuSnapshot snapshot targets with
  | (some preferred, fallback) =>
    (some preferred, if some preferred = fallback then .default else .avoidRequiredAffinity)
  | (none, some fallback) => (some fallback, .affinityFallback)
  | (none, none) => (none, .default)

def selectRequiredGpu (gpuSnapshot : GpuObservationSnapshot) (snapshot : StateSnapshot) (devices : List GpuUuid) :
    Option GpuObservation :=
  devices.foldl (fun selected uuid =>
    match findDevice gpuSnapshot uuid with
    | none => selected
    | some observation =>
      if observation.state ≠ .free ∨ leased snapshot uuid then selected else lowerIndex selected observation) none

/-- The summary for a required set without a usable device. A lease outranks
the observations, and foreign use outranks other states. -/
def requiredWaitReason (gpuSnapshot : GpuObservationSnapshot) (snapshot : StateSnapshot) (devices : List GpuUuid) :
    WaitReason × Option GpuUuid :=
  let anyLeased := devices.any (leased snapshot)
  let observed := devices.filterMap (findDevice gpuSnapshot)
  let anyExternal := observed.any (·.state == .externalBusy)
  let representative := observed.foldl lowerIndex none
  (if anyLeased then .affinityGpuAllocated else if anyExternal then .affinityGpuExternal else .affinityGpuState,
    representative.map (·.uuid))

/-- The target of a preferred placement, while it can be had. -/
def preferredTarget (gpuSnapshot : GpuObservationSnapshot) (snapshot : StateSnapshot) (placement : GpuPlacement) :
    Option GpuObservation := do
  let target ← placement.devices.head?
  let observation ← findDevice gpuSnapshot target
  if observation.state = .free ∧ !leased snapshot target then some observation else none

def preferredFallback (anyCandidate : Option GpuObservation) : Option GpuObservation × GpuSelectionReason :=
  match anyCandidate with
  | some device => (some device, .preferredFallback)
  | none => (none, .default)

/-- The choice for one job. The candidate for unplaced jobs does not depend on
the job and is computed once per evaluation. -/
def selectGpu (gpuSnapshot : GpuObservationSnapshot) (snapshot : StateSnapshot)
    (anyChoice : Option GpuObservation × GpuSelectionReason) (placement : GpuPlacement) :
    Option GpuObservation × GpuSelectionReason :=
  match placement.mode with
  | .required => (selectRequiredGpu gpuSnapshot snapshot placement.devices, .default)
  | .preferred =>
    match preferredTarget gpuSnapshot snapshot placement with
    | some observation => (some observation, .default)
    | none => preferredFallback anyChoice.1
  | .any => anyChoice

def skipReason (gpuSnapshot : GpuObservationSnapshot) (snapshot : StateSnapshot) (job : JobId)
    (placement : GpuPlacement) : ScheduleSkip :=
  if placement.mode = .required then
    let (reason, target) := requiredWaitReason gpuSnapshot snapshot placement.devices
    ⟨job, reason, target⟩
  else ⟨job, .noFreeGpu, none⟩

end Yori
