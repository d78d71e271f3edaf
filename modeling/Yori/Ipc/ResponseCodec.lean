import Yori.Ipc.RequestCodec

namespace Yori
open Parsing IpcProtocolLimits Reader List

variable {response : IpcResponse} {inspect : IpcInspectPayload} {devices : List ByteString}
  {fields written : ByteString} {version : UInt8}

/-! The writers of the response bodies, entry by entry. -/

section Writers

open IpcWriter

/-- The reason why a job waits, with its target, which entries carry from version 3 on. -/
def encodeWait (version reason : UInt8) (detail : Option ByteString) : Option ByteString :=
  if version ≥ 3 then
    inTurn [refuseIf (reason > underlyingWaitReasonMax), some (u8 reason),
      optional string detail]
  else some []

def encodeJobSummary (version : UInt8) (summary : IpcJobSummary) : Option ByteString :=
  inTurn [
    refuseIf (summary.argv.length > maxItemCount),
    some (u64 summary.jobId.toNat),
    some (u8 summary.state),
    some (u32 summary.ownerUid.toNat),
    some (u64 summary.revision.toNat),
    some (flag summary.masked),
    if summary.masked then some []
    else inTurn [counted string summary.argv, string summary.cwd,
      optional string summary.tensorboardLogdir],
    optional exitStatus summary.exit,
    encodeWait version summary.waitReason summary.waitDetail]

def encodeQueueEntry (version : UInt8) (entry : IpcQueueEntry) : Option ByteString :=
  inTurn [
    some (u64 entry.jobId.toNat),
    some (u32 entry.ownerUid.toNat),
    some (u64 entry.submitTimeUnixNs.toNat),
    some (u8 entry.state),
    encodeWait version entry.waitReason entry.waitDetail]

/-- The memory of a device is written only when both numbers are known. -/
def IpcGpuDevice.memory (device : IpcGpuDevice) : Option (UInt64 × UInt64) := do
  return (← device.memoryUsedBytes, ← device.memoryTotalBytes)

def encodeGpuDevice (device : IpcGpuDevice) : Option ByteString :=
  inTurn [
    string device.uuid,
    some (u32 device.index.toNat),
    some (u8 device.observedState),
    some (u8 device.logicalState),
    optional (fun percent => some (u32 percent.toNat)) device.utilizationPercent,
    optional (fun memory => inTurn [some (u64 memory.1.toNat), some (u64 memory.2.toNat)])
      device.memory,
    optional (fun job => some (u64 job.toNat)) device.leasedByJob]

def encodeLogs (logs : IpcLogsPayload) : Option ByteString :=
  inTurn [some (flag logs.stdoutTruncated), bytes logs.stdoutTail,
    some (flag logs.stderrTruncated), bytes logs.stderrTail]

def encodeEnvEntry (entry : IpcEnvEntry) : Option ByteString :=
  inTurn [string entry.name, some (flag entry.masked), string entry.value]

/-- The devices of a set stand behind a count of one byte, though as many as a list of the request may come. -/
def encodePlacementDevices (devices : List ByteString) : Option ByteString :=
  inTurn (refuseIf (devices.length > maxItemCount) ::
    some (u8 (UInt8.ofNat devices.length)) :: devices.map string)

/-- The pieces of an inspection up to its set of devices. -/
def encodeInspectPieces (version : UInt8) (inspect : IpcInspectPayload) : List (Option ByteString) :=
  [ refuseIf (version < 2),
    refuseIf (inspect.argv.length > maxItemCount ∨
      inspect.env.length > maxListItems),
    some (u64 inspect.jobId.toNat),
    some (u8 inspect.state),
    some (u32 inspect.ownerUid.toNat),
    some (u64 inspect.revision.toNat),
    string inspect.cwd,
    optional string inspect.executable,
    counted string inspect.argv,
    optional envMetadata inspect.envMetadata,
    counted encodeEnvEntry inspect.env,
    optional string inspect.gpuUuid,
    optional (fun index => some (u32 index.toNat)) inspect.gpuIndex,
    some (u64 inspect.submitTimeUnixNs.toNat),
    optional exitStatus inspect.exit,
    optional string inspect.logPath,
    if version ≥ 3 then
      inTurn [refuseIf (inspect.gpuPlacementMode > underlyingGpuPlacementModeMax),
        some (u8 inspect.gpuPlacementMode), optional string inspect.gpuPlacementDevice]
    else some []]

def encodeInspect (version : UInt8) (inspect : IpcInspectPayload) : Option ByteString :=
  inTurn (encodeInspectPieces version inspect ++
    [if version ≥ 4 then encodePlacementDevices inspect.gpuPlacementDevices else some []])

/-- A list of entries of a response. -/
def encodeEntries {α : Type} (write : α → Option ByteString) (entries : List α) : Option ByteString :=
  inTurn [refuseIf (entries.length > maxListItems), counted write entries]

def encodeResponseFields (version : UInt8) (response : IpcResponse) : Option ByteString :=
  match response.kind with
  | .submit => some (u64 response.jobId.toNat)
  | .ps => encodeEntries (encodeJobSummary version) response.jobs
  | .queue => encodeEntries (encodeQueueEntry version) response.queue
  | .gpu => inTurn [some (u64 response.gpuRevision.toNat), encodeEntries encodeGpuDevice response.devices]
  | .cancel => some (u8 response.state)
  | .logs => encodeLogs response.logs
  | .logsFollow =>
    inTurn [some (u8 response.logsFollow.jobState), some (u64 response.logsFollow.stdoutOffset.toNat),
      some (u64 response.logsFollow.stderrOffset.toNat)]
  | .tensorboard =>
    inTurn [optional string response.tensorboard.logdir, string response.tensorboard.cwd]
  | .inspect => encodeInspect version response.inspect

def encodeResponseBody (version : UInt8) (response : IpcResponse) : Option ByteString :=
  inTurn [some (u8 response.error.wire), string response.detail,
    encodeResponseFields version response]

def encodeResponsePayload (response : IpcResponse) : Option ByteString :=
  encodePayload response.kind response.version (encodeResponseBody response.version response)

end Writers

/-! The readers, in the same order. -/

section Readers

open IpcReader

namespace IpcReader

def error : IpcReader IpcError := do
  match IpcError.ofWire (← u8) with
  | none => throw .invalidValue
  | some error => return error

def wait : IpcReader (UInt8 × Option ByteString) := do
  let reason ← u8
  failIf (reason > underlyingWaitReasonMax) .invalidValue
  return (reason, ← optional string)

end IpcReader

/-- What a summary shows of the job to its owner and to administrators. -/
def decodeShown : IpcReader (List ByteString × ByteString × Option ByteString) := do
  let argv ← counted maxItemCount string
  let cwd ← string
  return (argv, cwd, ← optional string)

def decodeJobSummary (version : UInt8) : IpcReader IpcJobSummary := do
  let jobId ← u64
  let state ← u8
  let ownerUid ← u32
  let revision ← u64
  failIf (state > underlyingJobStateMax) .invalidValue
  let masked ← flag
  let (argv, cwd, tensorboardLogdir) ← (if masked then pure ([], [], none) else decodeShown)
  let exit ← optional exitStatus
  let (waitReason, waitDetail) ← (if version ≥ 3 then wait else pure (0, none))
  return {
    jobId, state, ownerUid, revision, masked, argv, cwd, tensorboardLogdir, exit, waitReason
    waitDetail := waitDetail }

def decodeQueueEntry (version : UInt8) : IpcReader IpcQueueEntry := do
  let jobId ← u64
  let ownerUid ← u32
  let submitTimeUnixNs ← u64
  let state ← u8
  failIf (state > underlyingJobStateMax) .invalidValue
  let (waitReason, waitDetail) ← (if version ≥ 3 then wait else pure (0, none))
  return { jobId, ownerUid, submitTimeUnixNs, state, waitReason, waitDetail := waitDetail }

def decodePercent : IpcReader UInt32 := do
  let utilization ← u32
  failIf (utilization > 100) .invalidValue
  return utilization

def decodeMemory : IpcReader (UInt64 × UInt64) := do
  let used ← u64
  let total ← u64
  failIf (total < used) .invalidValue
  return (used, total)

def decodeGpuDevice : IpcReader IpcGpuDevice := do
  let uuid ← string
  let index ← u32
  let observedState ← u8
  let logicalState ← u8
  failIf (observedState > underlyingGpuObservedStateMax ∨ logicalState > underlyingGpuLogicalStateMax)
    .invalidValue
  let utilizationPercent ← optional decodePercent
  let memory ← optional decodeMemory
  let leasedByJob ← optional u64
  return {
    uuid, index, observedState, logicalState, utilizationPercent, leasedByJob
    memoryUsedBytes := memory.map Prod.fst, memoryTotalBytes := memory.map Prod.snd }

def decodeLogs : IpcReader IpcLogsPayload := do
  let stdoutTruncated ← flag
  let stdoutTail ← bytes
  let stderrTruncated ← flag
  return { stdoutTruncated, stdoutTail, stderrTruncated, stderrTail := ← bytes }

def decodeLogsFollowAck : IpcReader IpcLogsFollowPayload := do
  let jobState ← u8
  let stdoutOffset ← u64
  let stderrOffset ← u64
  failIf (jobState > underlyingJobStateMax) .invalidValue
  return { jobState, stdoutOffset, stderrOffset := stderrOffset }

def decodeTensorboard : IpcReader IpcTensorboardPayload := do
  let logdir ← optional string
  return { logdir, cwd := ← string }

def decodeEnvEntry : IpcReader IpcEnvEntry := do
  let name ← string
  let masked ← flag
  return { name, masked, value := ← string }

def decodePlacementInput : IpcReader (UInt8 × Option ByteString) := do
  let mode ← u8
  failIf (mode > underlyingGpuPlacementModeMax) .invalidValue
  return (mode, ← optional string)

def decodePlacementDevices : IpcReader (List ByteString) := do
  repeated string (← u8).toNat

def decodeInspect (version : UInt8) : IpcReader IpcInspectPayload := do
  let jobId ← u64
  let state ← u8
  let ownerUid ← u32
  let revision ← u64
  failIf (state > underlyingJobStateMax) .invalidValue
  let cwd ← string
  let executable ← optional string
  let argv ← counted maxItemCount string
  let envMetadata ← optional envMetadata
  let env ← counted maxListItems decodeEnvEntry
  let gpuUuid ← optional string
  let gpuIndex ← optional u32
  let submitTimeUnixNs ← u64
  let exit ← optional exitStatus
  let logPath ← optional string
  let (gpuPlacementMode, gpuPlacementDevice) ← (if version ≥ 3 then decodePlacementInput else pure (0, none))
  let gpuPlacementDevices ← (if version ≥ 4 then decodePlacementDevices else pure [])
  return {
    jobId, state, ownerUid, revision, cwd, executable, argv, envMetadata, env, gpuUuid, gpuIndex, gpuPlacementMode,
    gpuPlacementDevice, gpuPlacementDevices, submitTimeUnixNs, exit, logPath := logPath }

def decodeResponseFields (version : UInt8) (kind : IpcRequestKind) (error : IpcError) (detail : ByteString) :
    IpcReader IpcResponse := do
  match kind with
  | .submit => return { kind, version, error, detail, jobId := ← u64 }
  | .ps =>
    return { kind, version, error, detail
             jobs := ← counted maxListItems (decodeJobSummary version) }
  | .queue =>
    return { kind, version, error, detail
             queue := ← counted maxListItems (decodeQueueEntry version) }
  | .gpu =>
    let gpuRevision ← u64
    return { kind, version, error, detail, gpuRevision
             devices := ← counted maxListItems decodeGpuDevice }
  | .cancel =>
    let state ← u8
    failIf (state > underlyingJobStateMax) .invalidValue
    return { kind, version, error, detail, state := state }
  | .logs => return { kind, version, error, detail, logs := ← decodeLogs }
  | .logsFollow => return { kind, version, error, detail, logsFollow := ← decodeLogsFollowAck }
  | .tensorboard => return { kind, version, error, detail, tensorboard := ← decodeTensorboard }
  | .inspect => return { kind, version, error, detail, inspect := ← decodeInspect version }

/-- Everything behind the head of a response. -/
def decodeResponseRest (version : UInt8) (kind : IpcRequestKind) : IpcReader IpcResponse := do
  let error ← error
  let detail ← string
  decodeResponseFields version kind error detail

def decodeResponseBody : IpcReader IpcResponse := decodeMessage decodeResponseRest

def decodeResponsePayload (data : ByteString) : Except IpcDecodeError IpcResponse :=
  decodePayload decodeResponseBody data

end Readers

open IpcWriter

/-! What a response of a version carries. -/

def IpcJobSummary.carried (version : UInt8) (summary : IpcJobSummary) : IpcJobSummary :=
  { summary with
    argv := if summary.masked then [] else summary.argv
    cwd := if summary.masked then [] else summary.cwd
    tensorboardLogdir := if summary.masked then none else summary.tensorboardLogdir
    waitReason := if version ≥ 3 then summary.waitReason else 0
    waitDetail := if version ≥ 3 then summary.waitDetail else none }

def IpcQueueEntry.carried (version : UInt8) (entry : IpcQueueEntry) : IpcQueueEntry :=
  { entry with
    waitReason := if version ≥ 3 then entry.waitReason else 0
    waitDetail := if version ≥ 3 then entry.waitDetail else none }

def IpcInspectPayload.carried (version : UInt8) (inspect : IpcInspectPayload) : IpcInspectPayload :=
  { inspect with
    gpuPlacementMode := if version ≥ 3 then inspect.gpuPlacementMode else 0
    gpuPlacementDevice := if version ≥ 3 then inspect.gpuPlacementDevice else none
    gpuPlacementDevices := if version ≥ 4 then inspect.gpuPlacementDevices else [] }

/-- The response with the fields that its kind and its version carry, the others at their defaults. -/
def IpcResponse.carried (response : IpcResponse) : IpcResponse :=
  match response with
  | { kind, version, error, detail, jobId, jobs, queue, gpuRevision, devices, state, logs, logsFollow, tensorboard,
      inspect } =>
    match kind with
    | .submit => { kind, version, error, detail, jobId }
    | .ps => { kind, version, error, detail, jobs := jobs.map (·.carried version) }
    | .queue => { kind, version, error, detail, queue := queue.map (·.carried version) }
    | .gpu => { kind, version, error, detail, gpuRevision, devices }
    | .cancel => { kind, version, error, detail, state }
    | .logs => { kind, version, error, detail, logs }
    | .logsFollow => { kind, version, error, detail, logsFollow }
    | .tensorboard => { kind, version, error, detail, tensorboard }
    | .inspect => { kind, version, error, detail, inspect := inspect.carried version }

/-- The code of an exit status is a signed number of 32 bits. -/
def IpcExitStatus.InRange (exit : IpcExitStatus) : Prop := -2 ^ 31 ≤ exit.code ∧ exit.code < 2 ^ 31

structure IpcGpuDevice.InRange (device : IpcGpuDevice) : Prop where
  observed : device.observedState ≤ underlyingGpuObservedStateMax
  logical : device.logicalState ≤ underlyingGpuLogicalStateMax
  utilization : ∀ percent, device.utilizationPercent = some percent → percent ≤ 100
  memory : (∃ used total, device.memoryUsedBytes = some used ∧ device.memoryTotalBytes = some total ∧ used ≤ total) ∨
    (device.memoryUsedBytes = none ∧ device.memoryTotalBytes = none)

/-- The bytes that stand for states and shares are ones the protocol knows. -/
def IpcResponse.InRange (response : IpcResponse) : Prop :=
  match response.kind with
  | .ps => ∀ summary ∈ response.jobs,
      summary.state ≤ underlyingJobStateMax ∧ ∀ exit, summary.exit = some exit → exit.InRange
  | .queue => ∀ entry ∈ response.queue, entry.state ≤ underlyingJobStateMax
  | .gpu => ∀ device ∈ response.devices, device.InRange
  | .cancel => response.state ≤ underlyingJobStateMax
  | .logsFollow => response.logsFollow.jobState ≤ underlyingJobStateMax
  | .inspect => response.inspect.state ≤ underlyingJobStateMax ∧
      ∀ exit, response.inspect.exit = some exit → exit.InRange
  | .submit | .logs | .tensorboard => True

/-! Each entry is read back. -/

theorem IpcReader.error_inverts {error : IpcError} :
    Inverts IpcReader.error (some (IpcWriter.u8 error.wire)) error := by
  refine Inverts.of_single ((Wire.u8 error.wire).bind ?_)
  rw [IpcError.ofWire_wire]
  exact Inverts.pure error

theorem wait_inverts {reason : UInt8} {detail : Option ByteString} :
    Inverts (if version ≥ 3 then IpcReader.wait else pure (0, none)) (encodeWait version reason detail)
      (if version ≥ 3 then reason else 0, if version ≥ 3 then detail else none) := by
  refine Inverts.ite (fun new => ?_) fun old => ?_
  · rw [if_pos new, if_pos new]
    refine Inverts.refuseIf fun known => (Wire.u8 reason).bind (Inverts.check known ?_)
    exact (Wire.optionalString detail).bind (Inverts.pure _)
  · rw [if_neg old, if_neg old]
    exact Inverts.pure (0, none)

theorem optionalExit_inverts {exit : Option IpcExitStatus} (range : ∀ status, exit = some status → status.InRange) :
    Inverts (IpcReader.optional IpcReader.exitStatus) (optional exitStatus exit) exit :=
  Wire.optional fun status found => Wire.exitStatus (range status found).1 (range status found).2

/-- A state byte within its bound passes the reader's check. -/
theorem not_above {value bound : UInt8} (within : value ≤ bound) : ¬value > bound := UInt8.not_lt.mpr within

theorem decodeJobSummary_inverts {summary : IpcJobSummary} (state : summary.state ≤ underlyingJobStateMax)
    (exit : ∀ status, summary.exit = some status → status.InRange) :
    Inverts (decodeJobSummary version) (encodeJobSummary version summary) (summary.carried version) := by
  refine Inverts.refuseIf fun few => ?_
  refine (Wire.long summary.jobId).bind ((Wire.u8 summary.state).bind ((Wire.word summary.ownerUid).bind
    ((Wire.long summary.revision).bind (Inverts.check (not_above state) ((Wire.flag summary.masked).bind ?_)))))
  have shown : Inverts (if summary.masked then pure ([], [], none) else decodeShown)
      (if summary.masked then some [] else inTurn [counted string summary.argv,
        string summary.cwd, optional string summary.tensorboardLogdir])
      (if summary.masked then [] else summary.argv, if summary.masked then [] else summary.cwd,
        if summary.masked then none else summary.tensorboardLogdir) := by
    refine Inverts.ite (fun hidden => ?_) fun visible => ?_
    · simp only [if_pos hidden]
      exact Inverts.pure ([], [], none)
    · simp only [if_neg visible]
      exact (Wire.strings few).bind ((Wire.string summary.cwd).bind
        ((Wire.optionalString summary.tensorboardLogdir).bind (Inverts.pure _)))
  exact shown.bind ((optionalExit_inverts exit).bind
    (wait_inverts.bind (Inverts.pure (summary.carried version))))

theorem decodeQueueEntry_inverts {entry : IpcQueueEntry} (state : entry.state ≤ underlyingJobStateMax) :
    Inverts (decodeQueueEntry version) (encodeQueueEntry version entry) (entry.carried version) :=
  (Wire.long entry.jobId).bind ((Wire.word entry.ownerUid).bind ((Wire.long entry.submitTimeUnixNs).bind
    ((Wire.u8 entry.state).bind (Inverts.check (not_above state)
      (wait_inverts.bind (Inverts.pure (entry.carried version)))))))

theorem decodeGpuDevice_inverts {device : IpcGpuDevice} (range : device.InRange) :
    Inverts decodeGpuDevice (encodeGpuDevice device) device := by
  have known := not_or.mpr ⟨not_above range.observed, not_above range.logical⟩
  have percent : Inverts (IpcReader.optional decodePercent)
      (optional (fun percent => some (u32 percent.toNat)) device.utilizationPercent)
      device.utilizationPercent :=
    Wire.optional fun percent found => Inverts.of_single
      ((Wire.word percent).bind (Inverts.check (UInt32.not_lt.mpr (range.utilization percent found)) (Inverts.pure _)))
  have memory : Inverts (IpcReader.optional decodeMemory)
      (optional (fun memory => inTurn [some (u64 memory.1.toNat),
        some (u64 memory.2.toNat)]) device.memory) device.memory := by
    refine Wire.optional fun inner found => ?_
    have ordered : inner.1 ≤ inner.2 := by
      rcases range.memory with ⟨_, _, atUsed, atTotal, ordered⟩ | ⟨atUsed, _⟩
      · simp only [IpcGpuDevice.memory, atUsed, atTotal] at found
        cases found
        exact ordered
      · simp only [IpcGpuDevice.memory, atUsed] at found
        cases found
    exact (Wire.long inner.1).bind ((Wire.long inner.2).bind (Inverts.check (UInt64.not_lt.mpr ordered)
      (Inverts.pure inner)))
  have lease : Inverts (IpcReader.optional IpcReader.u64)
      (optional (fun job => some (u64 job.toNat)) device.leasedByJob) device.leasedByJob :=
    Wire.optional fun job _ => Wire.long job
  have both : device.memory.map Prod.fst = device.memoryUsedBytes ∧
      device.memory.map Prod.snd = device.memoryTotalBytes := by
    rcases range.memory with ⟨_, _, atUsed, atTotal, _⟩ | ⟨atUsed, atTotal⟩
    · simp [IpcGpuDevice.memory, atUsed, atTotal]
    · simp [IpcGpuDevice.memory, atUsed, atTotal]
  have result : ({ device with
      memoryUsedBytes := device.memory.map Prod.fst
      memoryTotalBytes := device.memory.map Prod.snd } : IpcGpuDevice) = device := by
    rw [both.1, both.2]
  refine (Wire.string device.uuid).bind ((Wire.word device.index).bind ((Wire.u8 device.observedState).bind
    ((Wire.u8 device.logicalState).bind (Inverts.check known (percent.bind (memory.bind (lease.bind ?_)))))))
  have done := Inverts.pure (ε := IpcDecodeError) (β := UInt8) ({ device with
      memoryUsedBytes := device.memory.map Prod.fst
      memoryTotalBytes := device.memory.map Prod.snd } : IpcGpuDevice)
  rw [result] at done
  rw [both.1, both.2]
  exact done

theorem decodeLogs_inverts {logs : IpcLogsPayload} : Inverts decodeLogs (encodeLogs logs) logs :=
  (Wire.flag logs.stdoutTruncated).bind ((Wire.bytes logs.stdoutTail).bind ((Wire.flag logs.stderrTruncated).bind
    ((Wire.bytes logs.stderrTail).bind (Inverts.pure logs))))

theorem decodeEnvEntry_inverts {entry : IpcEnvEntry} : Inverts decodeEnvEntry (encodeEnvEntry entry) entry :=
  (Wire.string entry.name).bind ((Wire.flag entry.masked).bind ((Wire.string entry.value).bind (Inverts.pure entry)))

/-- A set of devices is read back when its number of devices fits the byte it stands in. -/
theorem decodePlacementDevices_inverts (few : devices.length < 256) :
    Inverts decodePlacementDevices (encodePlacementDevices devices) devices := by
  refine Inverts.refuseIf fun _ => (Wire.u8 (UInt8.ofNat devices.length)).bind ?_
  have same : (UInt8.ofNat devices.length).toNat = devices.length := UInt8.toNat_ofNat_of_lt' few
  have all : Inverts (repeated IpcReader.string devices.length) (inTurn (devices.map string))
      (devices.map fun device => device) := Inverts.repeated fun device _ => Wire.string device
  rw [map_id'] at all
  rwa [same]

theorem decodeInspect_inverts (state : inspect.state ≤ underlyingJobStateMax)
    (exit : ∀ status, inspect.exit = some status → status.InRange)
    (few : version ≥ 4 → inspect.gpuPlacementDevices.length < 256) :
    Inverts (decodeInspect version) (encodeInspect version inspect) (inspect.carried version) := by
  refine Inverts.refuseIf fun _ => Inverts.refuseIf fun short => ?_
  obtain ⟨fewArguments, fewVariables⟩ := not_or.mp short
  have environment := Wire.countedSame (Nat.le_of_not_lt fewVariables) (by decide) fun entry _ =>
    decodeEnvEntry_inverts
  have index : Inverts (IpcReader.optional IpcReader.u32)
      (optional (fun index => some (u32 index.toNat)) inspect.gpuIndex) inspect.gpuIndex :=
    Wire.optional fun index _ => Wire.word index
  have placement : Inverts (if version ≥ 3 then decodePlacementInput else pure (0, none))
      (if version ≥ 3 then inTurn [refuseIf (inspect.gpuPlacementMode > underlyingGpuPlacementModeMax),
        some (u8 inspect.gpuPlacementMode), optional string inspect.gpuPlacementDevice]
        else some [])
      (if version ≥ 3 then inspect.gpuPlacementMode else 0,
        if version ≥ 3 then inspect.gpuPlacementDevice else none) := by
    refine Inverts.ite (fun new => ?_) fun old => ?_
    · rw [if_pos new, if_pos new]
      exact Inverts.refuseIf fun known => (Wire.u8 inspect.gpuPlacementMode).bind (Inverts.check known
        ((Wire.optionalString inspect.gpuPlacementDevice).bind (Inverts.pure _)))
    · rw [if_neg old, if_neg old]
      exact Inverts.pure (0, none)
  have devices : Inverts (if version ≥ 4 then decodePlacementDevices else pure [])
      (if version ≥ 4 then encodePlacementDevices inspect.gpuPlacementDevices else some [])
      (if version ≥ 4 then inspect.gpuPlacementDevices else []) := by
    refine Inverts.ite (fun new => ?_) fun old => ?_
    · rw [if_pos new]
      exact decodePlacementDevices_inverts (few new)
    · rw [if_neg old]
      exact Inverts.pure []
  refine (Wire.long inspect.jobId).bind ((Wire.u8 inspect.state).bind ((Wire.word inspect.ownerUid).bind
    ((Wire.long inspect.revision).bind (Inverts.check (not_above state) ((Wire.string inspect.cwd).bind
      ((Wire.optionalString inspect.executable).bind ((Wire.strings fewArguments).bind ?_)))))))
  refine (Wire.optional fun inner _ => Wire.envMetadata inner).bind (environment.bind
    ((Wire.optionalString inspect.gpuUuid).bind (index.bind ((Wire.long inspect.submitTimeUnixNs).bind
      ((optionalExit_inverts exit).bind ((Wire.optionalString inspect.logPath).bind ?_))))))
  exact placement.bind (devices.bind (Inverts.pure (inspect.carried version)))

/-- The entries of a list within the limit that the writer checks. -/
theorem encodeEntries_inverts {α : Type} {write : α → Option ByteString} {item : IpcReader α} {back : α → α}
    {entries : List α} (each : ∀ entry ∈ entries, Inverts item (write entry) (back entry)) :
    Inverts (IpcReader.counted maxListItems item) (encodeEntries write entries)
      (entries.map back) :=
  Inverts.refuseIf fun few => (Wire.counted (Nat.le_of_not_lt few) (by decide) each).single

/-- More devices in an inspection than the byte in front of them counts. -/
def IpcResponse.Uncounted (response : IpcResponse) : Prop :=
  response.kind = .inspect ∧ response.version ≥ 4 ∧
    response.inspect.gpuPlacementDevices.length = maxItemCount

section

variable (range : response.InRange)
  (few : response.kind = .inspect → response.version ≥ 4 → response.inspect.gpuPlacementDevices.length < 256)
include range few

theorem decodeResponseFields_inverts :
    Inverts (decodeResponseFields response.version response.kind response.error response.detail)
      (encodeResponseFields response.version response) response.carried := by
  obtain ⟨kind, _, _, _, jobId, _, queue, gpuRevision, devices, state, logs, follow, tensorboard,
    inspect⟩ := response
  cases kind with
  | submit => exact (Wire.long jobId).map
  | ps => exact (encodeEntries_inverts fun entry member =>
      decodeJobSummary_inverts (range entry member).1 (range entry member).2).map
  | queue => exact (encodeEntries_inverts fun entry member => decodeQueueEntry_inverts (range entry member)).map
  | gpu =>
    have all := encodeEntries_inverts fun device member => decodeGpuDevice_inverts (range device member)
    rw [map_id'] at all
    exact (Wire.long gpuRevision).bind (all.bind (Inverts.pure _))
  | cancel => exact Inverts.of_single ((Wire.u8 state).bind (Inverts.check (not_above range) (Inverts.pure _)))
  | logs => exact decodeLogs_inverts.map
  | logsFollow =>
    have acknowledged : Inverts decodeLogsFollowAck (inTurn [some (u8 follow.jobState),
        some (u64 follow.stdoutOffset.toNat), some (u64 follow.stderrOffset.toNat)]) follow :=
      (Wire.u8 follow.jobState).bind ((Wire.long follow.stdoutOffset).bind ((Wire.long follow.stderrOffset).bind
        (Inverts.check (not_above range) (Inverts.pure follow))))
    exact acknowledged.map
  | tensorboard =>
    have whole : Inverts decodeTensorboard (inTurn [optional string tensorboard.logdir,
        string tensorboard.cwd]) tensorboard :=
      (Wire.optionalString tensorboard.logdir).bind ((Wire.string tensorboard.cwd).bind (Inverts.pure tensorboard))
    exact whole.map
  | inspect => exact (decodeInspect_inverts range.1 range.2 (few rfl)).map

theorem decodeResponseRest_inverts :
    Inverts (decodeResponseRest response.version response.kind) (encodeResponseBody response.version response)
      response.carried :=
  IpcReader.error_inverts.bind ((Wire.string response.detail).bind
    (decodeResponseFields_inverts range few).single)

end

/-- An inspection that is encoded is not of version 1. -/
theorem not_early_of_encoded (written : encodeResponseBody response.version response = some fields) :
    ¬(response.kind = .inspect ∧ response.version < 2) := by
  rintro ⟨kind, early⟩
  obtain ⟨_, _, _, later, _⟩ := inTurn_cons_eq_some.mp written
  obtain ⟨_, _, _, last, _⟩ := inTurn_cons_eq_some.mp later
  obtain ⟨_, _, body, _⟩ := inTurn_cons_eq_some.mp last
  rw [encodeResponseFields, kind] at body
  obtain ⟨_, _, head, _⟩ := inTurn_append_eq_some.mp body
  obtain ⟨_, _, refused, _⟩ := inTurn_cons_eq_some.mp head
  rw [refuseIf, if_pos early] at refused
  cases refused

/-- An inspection that is encoded has no more devices than a list may have. -/
theorem few_of_encoded (written : encodeResponseBody response.version response = some fields)
    (counted : ¬response.Uncounted) (kind : response.kind = .inspect) (new : response.version ≥ 4) :
    response.inspect.gpuPlacementDevices.length < 256 := by
  obtain ⟨_, _, _, later, _⟩ := inTurn_cons_eq_some.mp written
  obtain ⟨_, _, _, last, _⟩ := inTurn_cons_eq_some.mp later
  obtain ⟨_, _, body, _⟩ := inTurn_cons_eq_some.mp last
  rw [encodeResponseFields, kind] at body
  obtain ⟨_, _, _, atBack, _⟩ := inTurn_append_eq_some.mp body
  obtain ⟨_, _, atDevices, _⟩ := inTurn_cons_eq_some.mp atBack
  rw [if_pos new] at atDevices
  obtain ⟨_, _, unrefused, _⟩ := inTurn_cons_eq_some.mp atDevices
  have limit : ¬response.inspect.gpuPlacementDevices.length > maxItemCount := by
    intro above
    rw [refuseIf, if_pos above] at unrefused
    cases unrefused
  have other : response.inspect.gpuPlacementDevices.length ≠ maxItemCount :=
    fun full => counted ⟨kind, new, full⟩
  rw [maxItemCount] at limit other
  omega

/-- As many devices as a list may have leave the count at zero, and their names behind it. -/
theorem encodePlacementDevices_full (full : devices.length = maxItemCount)
    (encoded : encodePlacementDevices devices = some written) : ∃ names, written = 0 :: names ∧ names ≠ [] := by
  obtain ⟨nothing, _, unrefused, rest, rfl⟩ := inTurn_cons_eq_some.mp encoded
  obtain ⟨count, names, counted, named, rfl⟩ := inTurn_cons_eq_some.mp rest
  have zero : count = [0] := by
    rw [full] at counted
    exact (Option.some.inj counted).symm
  have empty : nothing = [] := by
    rw [refuseIf, if_neg (by omega)] at unrefused
    exact (Option.some.inj unrefused).symm
  refine ⟨names, by rw [zero, empty]; rfl, ?_⟩
  obtain ⟨device, others, rfl⟩ : ∃ device others, devices = device :: others :=
    exists_cons_of_ne_nil (by rintro rfl; cases full)
  obtain ⟨first, later, atFirst, _, rfl⟩ := inTurn_cons_eq_some.mp named
  rw [string] at atFirst
  split at atFirst
  · cases atFirst
  · cases atFirst
    intro none
    have length := congrArg length none
    rw [length_append, length_append, length_u32, length_nil] at length
    omega

/-- An inspection with a full set of devices is one without devices, and then their names. -/
theorem encodeInspect_full (new : version ≥ 4)
    (full : inspect.gpuPlacementDevices.length = maxItemCount)
    (encoded : encodeInspect version inspect = some written) :
    ∃ front names, encodeInspect version { inspect with gpuPlacementDevices := [] } = some front ∧
      written = front ++ names ∧ names ≠ [] := by
  obtain ⟨head, _, atHead, atBack, rfl⟩ := inTurn_append_eq_some.mp encoded
  obtain ⟨_, _, atDevices, ended, rfl⟩ := inTurn_cons_eq_some.mp atBack
  cases ended
  rw [if_pos new] at atDevices
  obtain ⟨names, rfl, some⟩ := encodePlacementDevices_full full atDevices
  have unlisted : inTurn [if version ≥ 4 then encodePlacementDevices [] else .some []] = .some [0] := by
    rw [if_pos new]
    decide
  refine ⟨head ++ [0], names, inTurn_append_eq_some.mpr ⟨head, [0], atHead, unlisted, rfl⟩, ?_, some⟩
  rw [append_nil, append_assoc, singleton_append]

def IpcResponse.withoutDevices (response : IpcResponse) : IpcResponse :=
  { response with inspect := { response.inspect with gpuPlacementDevices := [] } }

theorem IpcResponse.InRange.withoutDevices (range : response.InRange) : response.withoutDevices.InRange := by
  rw [IpcResponse.InRange] at range ⊢
  exact range

/-- The names of a full set of devices are bytes that the reader does not expect. -/
theorem decodeResponseRest_full (range : response.InRange) (full : response.Uncounted)
    (written : encodeResponseBody response.version response = some fields) :
    ∃ message names, decodeResponseRest response.version response.kind fields = .ok (message, names) ∧
      names ≠ [] := by
  obtain ⟨kind, new, many⟩ := full
  obtain ⟨first, _, atError, later, rfl⟩ := inTurn_cons_eq_some.mp written
  obtain ⟨second, _, atDetail, last, rfl⟩ := inTurn_cons_eq_some.mp later
  obtain ⟨_, _, atBody, ended, rfl⟩ := inTurn_cons_eq_some.mp last
  cases ended
  rw [encodeResponseFields, kind] at atBody
  obtain ⟨front, names, atFront, rfl, some⟩ := encodeInspect_full new many atBody
  -- the response without the set is read to its end, and the names are left
  have emptied := decodeResponseRest_inverts range.withoutDevices fun _ _ => Nat.zero_lt_succ 255
  have atFields : encodeResponseFields response.version response.withoutDevices = .some front := by
    rw [encodeResponseFields, show response.withoutDevices.kind = .inspect from kind]
    exact atFront
  have whole : encodeResponseBody response.version response.withoutDevices =
      .some (first ++ (second ++ (front ++ []))) :=
    inTurn_cons_eq_some.mpr ⟨first, _, atError, inTurn_cons_eq_some.mpr ⟨second, _, atDetail,
      inTurn_cons_eq_some.mpr ⟨front, [], atFields, rfl, rfl⟩, rfl⟩, rfl⟩
  have read := emptied _ whole names
  refine ⟨response.withoutDevices.carried, names, ?_, some⟩
  have same : first ++ (second ++ (front ++ names ++ [])) = first ++ (second ++ (front ++ [])) ++ names := by
    simp only [append_nil, append_assoc]
  rw [same]
  exact read

theorem decodeResponsePayload_encoded {payload : ByteString} (range : response.InRange)
    (counted : ¬response.Uncounted) (encoded : encodeResponsePayload response = some payload) :
    decodeResponsePayload payload = .ok response.carried := by
  obtain ⟨supported, short, fields, written, rfl⟩ := encodePayload_eq_some encoded
  have read := decodeResponseRest_inverts range (few_of_encoded written counted) fields written []
  rw [append_nil] at read
  exact decodeMessage_cons supported short (not_early_of_encoded written) read

/-- An encoded response comes back with all that its version carries exactly when its devices fit their count. -/
theorem response_round_trip_iff (response : IpcResponse) (payload : ByteString) (range : response.InRange)
    (encoded : encodeResponsePayload response = some payload) :
    decodeResponsePayload payload = .ok response.carried ↔
      ¬(response.kind = .inspect ∧ response.version ≥ 4 ∧
        response.inspect.gpuPlacementDevices.length = IpcProtocolLimits.maxItemCount) := by
  constructor
  · intro same full
    obtain ⟨supported, short, fields, written, rfl⟩ := encodePayload_eq_some encoded
    obtain ⟨_, _, read, some⟩ := decodeResponseRest_full range full written
    have refused : decodeResponsePayload (response.version :: response.kind.wire :: fields) = _ :=
      decodeMessage_cons supported short (not_early_of_encoded written) read
    rw [refused, if_neg some] at same
    cases same
  · intro counted
    exact decodeResponsePayload_encoded range counted encoded

theorem response_round_trip_cancel :
    decodeResponsePayload [4, 5, 3, 0, 0, 0, 0, 6] =
      .ok (IpcResponse.carried { kind := .cancel, error := .denied, state := 6 }) :=
  (response_round_trip_iff { kind := .cancel, error := .denied, state := 6 } _
    (show (6 : UInt8) ≤ underlyingJobStateMax by decide) (by decide)).mpr (by decide)

/-- An inspection of a job on as many devices as a list may have. -/
def fullInspection : IpcResponse :=
  { kind := .inspect
    inspect := { jobId := 7, gpuPlacementMode := 1, gpuPlacementDevices := replicate 256 [71] } }

/-- The encoder accepts 256 devices and counts them as none, so that the decoder finds their names left over. -/
theorem response_round_trip_full_set :
    fullInspection.InRange ∧ ∃ payload, encodeResponsePayload fullInspection = some payload ∧
      decodeResponsePayload payload = .error .trailingBytes := by
  have accepted : (encodeResponsePayload fullInspection).isSome = true := by decide +kernel
  obtain ⟨_, encoded⟩ := Option.isSome_iff_exists.mp accepted
  obtain ⟨supported, short, _, written, rfl⟩ := encodePayload_eq_some encoded
  have range : fullInspection.InRange := ⟨by decide, fun _ none => by cases none⟩
  have full : fullInspection.Uncounted := ⟨rfl, by decide, List.length_replicate⟩
  obtain ⟨_, _, read, some⟩ := decodeResponseRest_full range full written
  exact ⟨range, _, encoded, (decodeMessage_cons supported short (not_early_of_encoded written) read).trans
    (if_neg some)⟩

end Yori
