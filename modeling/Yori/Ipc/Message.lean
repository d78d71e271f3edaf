import Yori.Job
import Yori.Library.Framing
import Yori.Process

namespace Yori
open LittleEndian

namespace IpcProtocolLimits

def maxPayloadBytes : Nat := 2 ^ 20
def protocolVersion : UInt8 := 4
def minProtocolVersion : UInt8 := 1
def streamFrameVersion : UInt8 := 1
def maxStreamDataBytes : Nat := 256 * 1024
def maxBytesFieldBytes : Nat := 512 * 1024

end IpcProtocolLimits

def ipcVersionSupported (version : UInt8) : Bool :=
  IpcProtocolLimits.minProtocolVersion ≤ version && version ≤ IpcProtocolLimits.protocolVersion

inductive IpcRequestKind
  | submit | ps | queue | gpu | cancel | logs | logsFollow | tensorboard | inspect
deriving DecidableEq, Repr

def IpcRequestKind.wire : IpcRequestKind → UInt8
  | submit => 1
  | ps => 2
  | queue => 3
  | gpu => 4
  | cancel => 5
  | logs => 6
  | logsFollow => 7
  | tensorboard => 8
  | inspect => 9

inductive IpcError
  | none | protocol | unsupported | denied | invalidSpec | queueRejected | storeFailed | notFound | invalidState
  | notAvailable | limit | internal
deriving DecidableEq, Repr

def underlyingJobStateMax : UInt8 := 7

structure IpcExitStatus where
  exitedNormally : Bool := false
  code : Int := 0
deriving DecidableEq, Repr

def exitWire (status : ExitStatus) : IpcExitStatus :=
  ⟨status.exited, if status.exited then status.exitCode else status.signalNumber⟩

inductive LogStreamKind
  | stdout | stderr
deriving DecidableEq, Repr

def LogStreamKind.wire : LogStreamKind → UInt8
  | stdout => 0
  | stderr => 1

namespace IpcWriter

def u8 (value : UInt8) : ByteString := [value]

def u32 (value : Nat) : ByteString := bytes 4 value

def u64 (value : Nat) : ByteString := bytes 8 value

def i32 (value : Int) : ByteString := u32 (value % 2 ^ 32).toNat

def bytes (value : ByteString) : Option ByteString :=
  if value.length > IpcProtocolLimits.maxBytesFieldBytes then Option.none else some (u32 value.length ++ value)

@[simp] theorem length_u32 (value : Nat) : (u32 value).length = 4 := length_bytes 4 value

@[simp] theorem length_u64 (value : Nat) : (u64 value).length = 8 := length_bytes 8 value

end IpcWriter

end Yori
