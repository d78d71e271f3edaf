import Yori.Ipc.Message

namespace Yori
open IpcProtocolLimits

namespace IpcProtocolLimits

def maxStringBytes : Nat := 64 * 1024
def maxItemCount : Nat := 256
def maxListItems : Nat := 1024
def maxLogTailBytes : Nat := 256 * 1024

end IpcProtocolLimits

def underlyingGpuObservedStateMax : UInt8 := 2
def underlyingGpuLogicalStateMax : UInt8 := 3
def underlyingWaitReasonMax : UInt8 := 4
def underlyingGpuPlacementModeMax : UInt8 := 2

def EnvSource.wire : EnvSource → UInt8
  | .none => 0
  | .conda => 1
  | .venv => 2

/-- What stands between the devices of a set in a request. -/
def deviceComma : UInt8 := 44

structure IpcEnvMetadata where
  source : UInt8 := 0
  pythonVersion : Option ByteString := none
deriving DecidableEq

structure IpcSubmitRequest where
  argv : List ByteString := []
  cwd : ByteString := []
  env : SortedMap ByteString ByteString := .empty
  gpuRequest : UInt32 := 1
  launchProfile : Option ByteString := none
  tensorboardLogdir : Option ByteString := none
  executable : Option ByteString := none
  envMetadata : Option IpcEnvMetadata := none
  gpuSpec : Option ByteString := none
  gpuPreferredSpec : Option ByteString := none
deriving DecidableEq

structure IpcCancelRequest where
  jobId : UInt64 := 0
deriving DecidableEq, Repr

structure IpcLogsRequest where
  jobId : UInt64 := 0
  maxBytes : UInt32 := 0
deriving DecidableEq, Repr

structure IpcLogsFollowRequest where
  jobId : UInt64 := 0
  sinceStdout : Option UInt64 := none
  sinceStderr : Option UInt64 := none
deriving DecidableEq, Repr

structure IpcTensorboardRequest where
  jobId : UInt64 := 0
deriving DecidableEq, Repr

structure IpcInspectRequest where
  jobId : UInt64 := 0
deriving DecidableEq, Repr

structure IpcRequest where
  kind : IpcRequestKind := .submit
  version : UInt8 := protocolVersion
  submit : IpcSubmitRequest := {}
  cancel : IpcCancelRequest := {}
  logs : IpcLogsRequest := {}
  logsFollow : IpcLogsFollowRequest := {}
  tensorboard : IpcTensorboardRequest := {}
  inspect : IpcInspectRequest := {}
deriving DecidableEq

structure IpcJobSummary where
  jobId : UInt64 := 0
  state : UInt8 := 0
  ownerUid : UInt32 := 0
  revision : UInt64 := 0
  masked : Bool := false
  argv : List ByteString := []
  cwd : ByteString := []
  tensorboardLogdir : Option ByteString := none
  exit : Option IpcExitStatus := none
  waitReason : UInt8 := 0
  waitDetail : Option ByteString := none
deriving DecidableEq

structure IpcQueueEntry where
  jobId : UInt64 := 0
  ownerUid : UInt32 := 0
  submitTimeUnixNs : UInt64 := 0
  state : UInt8 := 0
  waitReason : UInt8 := 0
  waitDetail : Option ByteString := none
deriving DecidableEq

structure IpcGpuDevice where
  uuid : ByteString := []
  index : UInt32 := 0
  observedState : UInt8 := 0
  logicalState : UInt8 := 0
  utilizationPercent : Option UInt32 := none
  memoryUsedBytes : Option UInt64 := none
  memoryTotalBytes : Option UInt64 := none
  leasedByJob : Option UInt64 := none
deriving DecidableEq

structure IpcLogsPayload where
  stdoutTruncated : Bool := false
  stdoutTail : ByteString := []
  stderrTruncated : Bool := false
  stderrTail : ByteString := []
deriving DecidableEq

structure IpcLogsFollowPayload where
  jobState : UInt8 := 0
  stdoutOffset : UInt64 := 0
  stderrOffset : UInt64 := 0
deriving DecidableEq, Repr

structure IpcTensorboardPayload where
  logdir : Option ByteString := none
  cwd : ByteString := []
deriving DecidableEq

structure IpcEnvEntry where
  name : ByteString := []
  masked : Bool := false
  value : ByteString := []
deriving DecidableEq

structure IpcInspectPayload where
  jobId : UInt64 := 0
  state : UInt8 := 0
  ownerUid : UInt32 := 0
  revision : UInt64 := 0
  cwd : ByteString := []
  executable : Option ByteString := none
  argv : List ByteString := []
  envMetadata : Option IpcEnvMetadata := none
  env : List IpcEnvEntry := []
  gpuUuid : Option ByteString := none
  gpuIndex : Option UInt32 := none
  gpuPlacementMode : UInt8 := 0
  gpuPlacementDevice : Option ByteString := none
  gpuPlacementDevices : List ByteString := []
  submitTimeUnixNs : UInt64 := 0
  exit : Option IpcExitStatus := none
  logPath : Option ByteString := none
deriving DecidableEq

structure IpcResponse where
  kind : IpcRequestKind := .submit
  version : UInt8 := protocolVersion
  error : IpcError := .none
  detail : ByteString := []
  jobId : UInt64 := 0
  jobs : List IpcJobSummary := []
  queue : List IpcQueueEntry := []
  gpuRevision : UInt64 := 0
  devices : List IpcGpuDevice := []
  state : UInt8 := 0
  logs : IpcLogsPayload := {}
  logsFollow : IpcLogsFollowPayload := {}
  tensorboard : IpcTensorboardPayload := {}
  inspect : IpcInspectPayload := {}
deriving DecidableEq

inductive IpcDecodeError
  | truncated | oversize | badVersion | badKind | badString | tooManyItems | trailingBytes | invalidValue
deriving DecidableEq, Repr

namespace IpcRequestKind

def ofWire : UInt8 → Option IpcRequestKind
  | 1 => some submit
  | 2 => some ps
  | 3 => some queue
  | 4 => some gpu
  | 5 => some cancel
  | 6 => some logs
  | 7 => some logsFollow
  | 8 => some tensorboard
  | 9 => some inspect
  | _ => none

@[simp] theorem ofWire_wire (kind : IpcRequestKind) : ofWire kind.wire = some kind := by
  cases kind <;> rfl

end IpcRequestKind

namespace IpcError

def wire : IpcError → UInt8
  | none => 0
  | protocol => 1
  | unsupported => 2
  | denied => 3
  | invalidSpec => 4
  | queueRejected => 5
  | storeFailed => 6
  | notFound => 7
  | invalidState => 8
  | notAvailable => 9
  | limit => 10
  | internal => 11

def ofWire : UInt8 → Option IpcError
  | 0 => some none
  | 1 => some protocol
  | 2 => some unsupported
  | 3 => some denied
  | 4 => some invalidSpec
  | 5 => some queueRejected
  | 6 => some storeFailed
  | 7 => some notFound
  | 8 => some invalidState
  | 9 => some notAvailable
  | 10 => some limit
  | 11 => some internal
  | _ => Option.none

@[simp] theorem ofWire_wire (error : IpcError) : ofWire error.wire = some error := by
  cases error <;> rfl

end IpcError

end Yori
