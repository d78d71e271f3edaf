import Mathlib.Data.List.Infix
import Yori.Decimal
import Yori.Ipc.JobControl
import Yori.Ipc.Protocol
import Yori.Scheduler.Result

/-! The service behind the socket: every request is checked against the stored jobs, and what changes them is
left to the job manager. -/

namespace Yori
open Checked ByteString IpcProtocolLimits

structure PeerCredentials where
  uid : UInt32 := 0
  gid : UInt32 := 0
  pid : UInt32 := 0
deriving Repr

structure IpcServiceConfig where
  adminGids : List UInt32 := []
  adminUids : List UInt32 := []
  maxListedJobs : UInt32 := UInt32.ofNat maxListItems
  maxLogTailBytes : UInt32 := UInt32.ofNat IpcProtocolLimits.maxLogTailBytes
  sensitiveEnvPatterns : List ByteString := [ascii "TOKEN", ascii "KEY", ascii "SECRET", ascii "PASSWORD"]

def IpcServiceConfig.valid (config : IpcServiceConfig) : Bool :=
  !(config.maxListedJobs == 0 || config.maxListedJobs.toNat > maxListItems ||
      config.maxLogTailBytes == 0 || config.maxLogTailBytes.toNat > IpcProtocolLimits.maxLogTailBytes) &&
    config.sensitiveEnvPatterns.length ≤ 64 &&
    config.sensitiveEnvPatterns.all fun pattern =>
      !(pattern.isEmpty || pattern.length > 64 || containsNul pattern)

/-! What the fields of a response are made of. -/

def WaitReason.wire : WaitReason → UInt8
  | noFreeGpu => 1
  | affinityGpuAllocated => 2
  | affinityGpuExternal => 3
  | affinityGpuState => 4

def GpuPlacementMode.wire : GpuPlacementMode → UInt8
  | any => 0
  | required => 1
  | preferred => 2

def EnvSource.ofWire : UInt8 → EnvSource
  | 1 => .conda
  | 2 => .venv
  | _ => .none

inductive GpuLogicalState
  | free | allocated | externalBusy | unavailable
deriving Repr

def deriveLogicalState (observed : GpuObservedState) (hasLease : Bool) : GpuLogicalState :=
  if hasLease then .allocated
  else match observed with
    | .free => .free
    | .externalBusy => .externalBusy
    | .unavailable => .unavailable

def GpuObservedState.wire : GpuObservedState → UInt8
  | free => 0
  | externalBusy => 1
  | unavailable => 2

def GpuLogicalState.wire : GpuLogicalState → UInt8
  | free => 0
  | allocated => 1
  | externalBusy => 2
  | unavailable => 3

def unixNs (time : TimePoint) : UInt64 := UInt64.ofInt time

def logFileName : LogStreamKind → ByteString
  | .stdout => ascii "stdout.log"
  | .stderr => ascii "stderr.log"

structure LogTailResult where
  ok : Bool := false
  truncated : Bool := false
  tail : ByteString := []
deriving Repr

/-- What the reader of log files meets behind a path. A file has the size that `fstat` reported and the content
that is there when it is read. -/
inductive LogFile
  | missing
  | refused
  | regular (size : Nat) (content : ByteString)
deriving Repr

def readTail (file : LogFile) (maxBytes : UInt32) : LogTailResult :=
  if maxBytes = 0 then { ok := true }
  else match file with
    | .missing => { ok := true }
    | .refused => {}
    | .regular size content =>
      let truncated := decide (size > maxBytes.toNat)
      let start := if truncated then size - maxBytes.toNat else 0
      { ok := true, truncated, tail := (content.drop start).take maxBytes.toNat }

theorem length_readTail (file : LogFile) (maxBytes : UInt32) :
    (readTail file maxBytes).tail.length ≤ maxBytes.toNat := by
  unfold readTail
  split
  · exact Nat.zero_le _
  · cases file with
    | missing | refused => exact Nat.zero_le _
    | regular => exact List.length_take_le _ _

def toLowerByte (byte : UInt8) : UInt8 := if 65 ≤ byte ∧ byte ≤ 90 then byte + 32 else byte

def toLowerAscii (text : ByteString) : ByteString := text.map toLowerByte

/-! The devices that a submission names. -/

/-- A number is the index of an observed device, anything else the identity of one. -/
def resolveGpuSpec (gpuSpec : ByteString) (snapshot : GpuObservationSnapshot) : Except ByteString GpuUuid :=
  if gpuSpec.isEmpty then .error (ascii "GPU_SPEC_EMPTY")
  else if gpuSpec.all digit then
    let index := decimal gpuSpec
    match if index > 0xFFFFFFFF then none else snapshot.devices.find? (·.index = UInt32.ofNat index) with
    | some device => .ok device.uuid
    | none => .error (ascii "GPU_INDEX_NOT_FOUND: " ++ gpuSpec)
  else
    let uuid : GpuUuid := ⟨gpuSpec⟩
    if !uuid.valid then .error (ascii "GPU_UUID_INVALID")
    else if snapshot.devices.any (·.uuid = uuid) then .ok uuid
    else .error (ascii "GPU_UUID_NOT_FOUND: " ++ gpuSpec)

def resolveGpuEntries (gpuSpec : ByteString) (snapshot : GpuObservationSnapshot) (entryCount : Nat)
    (out : List GpuUuid) : List ByteString → Except ByteString (List GpuUuid)
  | [] => .ok out
  | entry :: rest => do
    rejectIf (entryCount + 1 > JobSpecLimits.maxPlacementDevices) (ascii "GPU_SPEC_INVALID: " ++ gpuSpec)
    let resolved ← resolveGpuSpec entry snapshot
    resolveGpuEntries gpuSpec snapshot (entryCount + 1) (if resolved ∈ out then out else out ++ [resolved]) rest

def resolveGpuSpecList (gpuSpec : ByteString) (snapshot : GpuObservationSnapshot) :
    Except ByteString (List GpuUuid) := do
  let out ← resolveGpuEntries gpuSpec snapshot 0 [] (gpuSpec.splitOn deviceComma)
  rejectIf (out = []) (ascii "GPU_SPEC_INVALID: " ++ gpuSpec)
  return out

/-- The service with the answers that its sources give while it handles one request. -/
structure IpcService where
  config : IpcServiceConfig := {}
  load : Except StateStoreErrorCode StateSnapshot
  gpu : Option GpuObservationSnapshot := none
  evaluation : Option ScheduleEvaluation := none
  files : ByteString → LogFile := fun _ => .missing
  now : TimePoint := 0

namespace IpcService

def errorResponse (kind : IpcRequestKind) (error : IpcError) (detail : ByteString) : IpcResponse :=
  { kind, error, detail }

variable (service : IpcService)

def isAdmin (peer : PeerCredentials) : Bool :=
  service.config.adminGids.contains peer.gid || service.config.adminUids.contains peer.uid

/-- Owners and administrators. -/
def permits (peer : PeerCredentials) (record : StoredJob) : Bool :=
  !(record.spec.ownerUid != peer.uid && !service.isAdmin peer)

def isSensitiveEnvName (name : ByteString) : Bool :=
  service.config.sensitiveEnvPatterns.any fun pattern => toLowerAscii pattern <:+: toLowerAscii name

/-- Handlers that read the store report a failed load alike. -/
def withSnapshot (kind : IpcRequestKind) (handler : StateSnapshot → IpcResponse) : IpcResponse :=
  match service.load with
  | .error code => errorResponse kind .storeFailed code.toString
  | .ok snapshot => handler snapshot

def findJob (snapshot : StateSnapshot) (jobId : UInt64) : Option StoredJob := snapshot.jobs.find? (·.id = ⟨jobId⟩)

/-- Handlers of one job that only its owner and administrators may use. -/
def withJob (kind : IpcRequestKind) (peer : PeerCredentials) (jobId : UInt64)
    (handler : StateSnapshot → StoredJob → IpcResponse) : IpcResponse :=
  service.withSnapshot kind fun snapshot =>
    match findJob snapshot jobId with
    | none => errorResponse kind .notFound (ascii "job not found")
    | some record =>
      if !service.permits peer record then errorResponse kind .denied (ascii "not job owner or admin")
      else handler snapshot record

/-! Listings. -/

/-- Reason and target of the latest evaluation; the target is for owners and administrators. -/
def waitOf (shown : Bool) (id : JobId) : UInt8 × Option ByteString :=
  match service.evaluation.bind fun evaluation => evaluation.skipped.find? (·.job = id) with
  | none => (0, none)
  | some skip => (skip.reason.wire, if shown then skip.target.map (·.value) else none)

def listing (kind : IpcRequestKind) (total : Nat) : IpcResponse :=
  if total > service.config.maxListedJobs.toNat then
    errorResponse kind .limit
      (ascii "listing truncated to " ++ ascii (toString service.config.maxListedJobs.toNat) ++ ascii " jobs")
  else { kind }

def jobSummary (peer : PeerCredentials) (record : StoredJob) : IpcJobSummary :=
  let masked := !service.permits peer record
  let wait := if record.state = .queued then service.waitOf (!masked) record.id else (0, none)
  { jobId := record.id.value
    state := record.state.wire
    ownerUid := record.spec.ownerUid
    revision := record.revision
    masked
    argv := if masked then [] else record.spec.argv
    cwd := if masked then [] else record.spec.cwd
    tensorboardLogdir := if masked then none else record.spec.tensorboardLogdir
    exit := record.execution.exit.map exitWire
    waitReason := wait.1
    waitDetail := wait.2 }

def handlePs (peer : PeerCredentials) : IpcResponse :=
  service.withSnapshot .ps fun snapshot =>
    { service.listing .ps snapshot.jobs.length with
      jobs := (snapshot.jobs.take service.config.maxListedJobs.toNat).map (service.jobSummary peer) }

/-- The comparison of the sort: submission time, then id. -/
def queuedBefore (lhs rhs : StoredJob) : Bool :=
  if lhs.spec.submitTime ≠ rhs.spec.submitTime then lhs.spec.submitTime < rhs.spec.submitTime else lhs.id < rhs.id

def queuedJobs (snapshot : StateSnapshot) : List StoredJob :=
  LowerBound.sort queuedBefore (snapshot.jobs.filter (·.state = .queued))

def queueEntry (peer : PeerCredentials) (record : StoredJob) : IpcQueueEntry :=
  let wait := service.waitOf (service.permits peer record) record.id
  { jobId := record.id.value
    ownerUid := record.spec.ownerUid
    submitTimeUnixNs := unixNs record.spec.submitTime
    state := record.state.wire
    waitReason := wait.1
    waitDetail := wait.2 }

def handleQueue (peer : PeerCredentials) : IpcResponse :=
  service.withSnapshot .queue fun snapshot =>
    let queued := queuedJobs snapshot
    { service.listing .queue queued.length with
      queue := (queued.take service.config.maxListedJobs.toNat).map (service.queueEntry peer) }

/-- A lease comes before what is observed. -/
def gpuDevice (leases : List GpuLease) (observation : GpuObservation) : IpcGpuDevice :=
  let leasedBy := (leases.find? (·.gpuUuid = observation.uuid)).map (·.jobId.value)
  { uuid := observation.uuid.value
    index := observation.index
    observedState := observation.state.wire
    logicalState := (deriveLogicalState observation.state leasedBy.isSome).wire
    utilizationPercent := observation.telemetry.utilizationPercent
    memoryUsedBytes := observation.telemetry.memoryUsedBytes
    memoryTotalBytes := observation.telemetry.memoryTotalBytes
    leasedByJob := leasedBy }

def handleGpu : IpcResponse :=
  match service.gpu with
  | none => errorResponse .gpu .notAvailable (ascii "no gpu observation available")
  | some observed => service.withSnapshot .gpu fun snapshot =>
    { kind := .gpu
      gpuRevision := observed.revision
      devices := observed.devices.map (gpuDevice snapshot.leases) }

/-! Views of one job. -/

def handleLogs (peer : PeerCredentials) (request : IpcLogsRequest) : IpcResponse :=
  service.withJob .logs peer request.jobId fun _ record =>
    match record.execution.logPath with
    | none => errorResponse .logs .invalidState (ascii "job has not started; no logs yet")
    | some directory =>
      let maxBytes := min request.maxBytes service.config.maxLogTailBytes
      let tail (stream : LogStreamKind) := readTail (service.files (directory ++ slash :: logFileName stream)) maxBytes
      let stdout := tail .stdout
      let stderr := tail .stderr
      if !stdout.ok || !stderr.ok then errorResponse .logs .notAvailable (ascii "log read failed: " ++ directory)
      else
        { kind := .logs
          logs :=
            { stdoutTruncated := stdout.truncated
              stdoutTail := stdout.tail
              stderrTruncated := stderr.truncated
              stderrTail := stderr.tail } }

def validateLogsFollow (peer : PeerCredentials) (request : IpcLogsFollowRequest) : IpcResponse :=
  service.withJob .logsFollow peer request.jobId fun _ record =>
    match record.execution.logPath with
    | none => errorResponse .logsFollow .invalidState (ascii "job has not started; no logs yet")
    | some _ => { kind := .logsFollow, logsFollow := { jobState := record.state.wire } }

def handleTensorboard (peer : PeerCredentials) (jobId : UInt64) : IpcResponse :=
  service.withJob .tensorboard peer jobId fun _ record =>
    { kind := .tensorboard, tensorboard := { logdir := record.spec.tensorboardLogdir, cwd := record.spec.cwd } }

def mask : ByteString := ascii "***"

def envEntry (entry : ByteString × ByteString) : IpcEnvEntry :=
  let masked := service.isSensitiveEnvName entry.1
  { name := entry.1, masked, value := if masked then mask else entry.2 }

/-- The device and its index, if it is observed, of the lease of a job. -/
def allocationOf (leases : List GpuLease) (id : JobId) : Option ByteString × Option UInt32 :=
  match leases.find? (·.jobId = id) with
  | none => (none, none)
  | some lease =>
    let observed := service.gpu.bind fun snapshot => snapshot.devices.find? (·.uuid = lease.gpuUuid)
    (some lease.gpuUuid.value, observed.map (·.index))

def handleInspect (peer : PeerCredentials) (jobId : UInt64) : IpcResponse :=
  service.withJob .inspect peer jobId fun snapshot record =>
    let placement := record.spec.gpuPlacement
    let allocation := service.allocationOf snapshot.leases record.id
    { kind := .inspect
      inspect :=
        { jobId := record.id.value
          state := record.state.wire
          ownerUid := record.spec.ownerUid
          revision := record.revision
          cwd := record.spec.cwd
          executable := record.spec.executable
          argv := record.spec.argv
          envMetadata := record.spec.envMetadata.map fun metadata => ⟨metadata.source.wire, metadata.pythonVersion⟩
          env := record.spec.env.entries.map service.envEntry
          gpuUuid := allocation.1
          gpuIndex := allocation.2
          gpuPlacementMode := placement.mode.wire
          gpuPlacementDevice := if placement.mode = .any then none else placement.devices.head?.map (·.value)
          gpuPlacementDevices := if placement.mode = .required then placement.devices.map (·.value) else []
          submitTimeUnixNs := unixNs record.spec.submitTime
          exit := record.execution.exit.map exitWire
          logPath := record.execution.logPath } }

/-! Requests that change jobs. Each is admitted first and then handed to the job manager. -/

def placementOf (request : IpcSubmitRequest) : Except (IpcError × ByteString) GpuPlacement := do
  match request.gpuSpec, request.gpuPreferredSpec with
  | none, none => return {}
  | some _, some _ =>
    throw (.invalidSpec, ascii "gpu_spec and gpu_preferred_spec are mutually exclusive")
  | gpuSpec, gpuPreferredSpec =>
    rejectIf (request.gpuRequest ≠ 1) (.invalidSpec, JobSpecErrorCode.placementGpuRequestConflict.toString)
    let snapshot ← require service.gpu (.notAvailable, ascii "no gpu observation available for placement resolution")
    match gpuPreferredSpec with
    | some spec =>
      let target ← (resolveGpuSpec spec snapshot).mapError fun failure => (.invalidSpec, failure)
      return { mode := .preferred, devices := [target] }
    | none =>
      let devices ← (resolveGpuSpecList (gpuSpec.getD []) snapshot).mapError fun failure => (.invalidSpec, failure)
      return { mode := .required, devices }

/-- The owner is the peer: a request carries no identity. -/
def submittedSpec (peer : PeerCredentials) (request : IpcSubmitRequest) (gpuPlacement : GpuPlacement) : JobSpec :=
  { ownerUid := peer.uid
    ownerGid := peer.gid
    argv := request.argv
    cwd := request.cwd
    env := request.env
    executable := request.executable
    envMetadata := request.envMetadata.map fun metadata => ⟨.ofWire metadata.source, metadata.pythonVersion⟩
    gpuRequest := request.gpuRequest
    gpuPlacement
    launchProfile := request.launchProfile
    tensorboardLogdir := request.tensorboardLogdir
    submitTime := service.now }

def refusal (error : JobSpecError) : IpcResponse :=
  if error.code = .rootOwnerNotAllowed then errorResponse .submit .denied (ascii "root cannot submit jobs")
  else errorResponse .submit .invalidSpec error.code.toString

/-- The response of a submission that is refused here, or the specification for the job manager. -/
def admitSubmit (peer : PeerCredentials) (request : IpcSubmitRequest) : Except IpcResponse JobSpec := do
  let placement ← (service.placementOf request).mapError fun failure => errorResponse .submit failure.1 failure.2
  let spec := service.submittedSpec peer request placement
  (validate spec).mapError refusal
  return spec

def submitResponse (outcome : JobSubmitOutcome) : IpcResponse :=
  match outcome.code with
  | .submitted => { kind := .submit, jobId := outcome.jobId }
  | .storeFailed => errorResponse .submit .storeFailed outcome.detail
  | .queueRejected => errorResponse .submit .queueRejected outcome.detail
  | .unavailable => errorResponse .submit .notAvailable outcome.detail

def handleSubmit (control : JobControl) (peer : PeerCredentials) (request : IpcSubmitRequest) : IpcResponse :=
  match service.admitSubmit peer request with
  | .error response => response
  | .ok spec => submitResponse (control.submitJob spec)

/-- The response of a cancellation that is settled here, or the job for the job manager. -/
def admitCancel (peer : PeerCredentials) (jobId : UInt64) : Except IpcResponse UInt64 :=
  match service.load with
  | .error code => .error (errorResponse .cancel .storeFailed code.toString)
  | .ok snapshot =>
    match findJob snapshot jobId with
    | none => .error (errorResponse .cancel .notFound (ascii "job not found"))
    | some record =>
      if !service.permits peer record then
        .error { errorResponse .cancel .denied (ascii "not job owner or admin") with state := record.state.wire }
      else if record.state = .cancelled then .error { kind := .cancel, state := record.state.wire }
      else if record.state.isTerminal then
        .error { errorResponse .cancel .invalidState record.state.toString with state := record.state.wire }
      else .ok jobId

def cancelResponse (outcome : JobCancelOutcome) : IpcResponse :=
  match outcome.code with
  | .cancelled | .stopping => { kind := .cancel, state := outcome.state }
  | .notFound => errorResponse .cancel .notFound (ascii "job not found")
  | .invalidState => { errorResponse .cancel .invalidState outcome.detail with state := outcome.state }
  | .storeFailed => errorResponse .cancel .storeFailed outcome.detail
  | .unavailable => errorResponse .cancel .notAvailable outcome.detail

def handleCancel (control : JobControl) (peer : PeerCredentials) (jobId : UInt64) : IpcResponse :=
  match service.admitCancel peer jobId with
  | .error response => response
  | .ok jobId => cancelResponse (control.cancelJob jobId)

/-- A request to follow logs that comes here found no one to take the connection over. -/
def handle (control : JobControl) (peer : PeerCredentials) (request : IpcRequest) : IpcResponse :=
  match request.kind with
  | .submit => service.handleSubmit control peer request.submit
  | .ps => service.handlePs peer
  | .queue => service.handleQueue peer
  | .gpu => service.handleGpu
  | .cancel => service.handleCancel control peer request.cancel.jobId
  | .logs => service.handleLogs peer request.logs
  | .logsFollow =>
    errorResponse .logsFollow .unsupported (ascii "streaming follow is not enabled on this endpoint")
  | .tensorboard => service.handleTensorboard peer request.tensorboard.jobId
  | .inspect => service.handleInspect peer request.inspect.jobId

end IpcService

end Yori
