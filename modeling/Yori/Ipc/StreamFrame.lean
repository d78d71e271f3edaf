import Yori.Ipc.Message

namespace Yori
open IpcProtocolLimits

variable {frame : IpcStreamFrame}

inductive IpcStreamFrameKind
  | logData | logGap | logBackpressure | logEof
deriving DecidableEq, Repr

def IpcStreamFrameKind.wire : IpcStreamFrameKind → UInt8
  | logData => 1
  | logGap => 2
  | logBackpressure => 3
  | logEof => 4

/-- Frames of every kind share one record. Offsets are 64-bit on the wire. -/
structure IpcStreamFrame where
  kind : IpcStreamFrameKind := .logData
  stream : UInt8 := 0
  beginOffset : Nat := 0
  endOffset : Nat := 0
  data : ByteString := []
  jobState : UInt8 := 0
  exit : Option IpcExitStatus := none
deriving DecidableEq, Repr

section
open IpcWriter

def underlyingStreamMax : UInt8 := 1

def encodeStreamFrameBody (frame : IpcStreamFrame) : Option ByteString :=
  match frame.kind with
  | .logData =>
    if frame.stream > underlyingStreamMax ∨ frame.data.length > maxStreamDataBytes ∨
        frame.endOffset < frame.beginOffset then none
    else (bytes frame.data).map fun data =>
      u8 frame.stream ++ u64 frame.beginOffset ++ u64 frame.endOffset ++ data
  | .logGap =>
    if frame.stream > underlyingStreamMax ∨ frame.endOffset < frame.beginOffset then none
    else some (u8 frame.stream ++ u64 frame.beginOffset ++ u64 frame.endOffset)
  | .logBackpressure =>
    if frame.stream > underlyingStreamMax then none else some (u8 frame.stream ++ u64 frame.beginOffset)
  | .logEof =>
    if frame.jobState > underlyingJobStateMax then none
    else match frame.exit with
      | none => some (u8 frame.jobState ++ u8 0)
      | some exit =>
        some (u8 frame.jobState ++ u8 1 ++ u8 (if exit.exitedNormally then 1 else 0) ++ i32 exit.code)

def encodeStreamFramePayload (frame : IpcStreamFrame) : Option ByteString :=
  (encodeStreamFrameBody frame).bind fun body =>
    let payload := u8 streamFrameVersion ++ u8 frame.kind.wire ++ body
    if payload.length > maxPayloadBytes then none else some payload

/-- The bytes of a frame: its payload with the length in front. -/
def streamFrameBytes (frame : IpcStreamFrame) : Option ByteString :=
  (encodeStreamFramePayload frame).map fun payload => u32 payload.length ++ payload

/-- A frame that cannot be encoded leaves the buffer as it is. -/
def appendStreamFrame (frame : IpcStreamFrame) (out : ByteString) : Option ByteString :=
  (streamFrameBytes frame).map (out ++ ·)

end

theorem encodeStreamFramePayload_of_body {body : ByteString} (encoded : encodeStreamFrameBody frame = some body)
    (short : body.length + 2 ≤ maxPayloadBytes) :
    ∃ wire, streamFrameBytes frame = some wire ∧ wire.length = 6 + body.length := by
  have size : (IpcWriter.u8 streamFrameVersion ++ IpcWriter.u8 frame.kind.wire ++ body).length =
      body.length + 2 := by
    simp only [IpcWriter.u8, List.length_append, List.length_singleton]
    omega
  have fits : ¬(IpcWriter.u8 streamFrameVersion ++ IpcWriter.u8 frame.kind.wire ++ body).length >
      maxPayloadBytes := by
    rw [size]
    omega
  rw [streamFrameBytes, encodeStreamFramePayload, encoded, Option.bind_some]
  simp only [if_neg fits, Option.map_some]
  refine ⟨_, rfl, ?_⟩
  rw [List.length_append, IpcWriter.length_u32, size]
  omega

/-- A data frame whose range is not backwards is encodable when its data fits,
and then takes 27 bytes more than the data. -/
theorem streamFrameBytes_logData (data : frame.kind = .logData) (stream : ¬frame.stream > underlyingStreamMax)
    (ordered : frame.beginOffset ≤ frame.endOffset) (fits : frame.data.length ≤ maxStreamDataBytes) :
    ∃ wire, streamFrameBytes frame = some wire ∧ wire.length = 27 + frame.data.length := by
  have few : frame.data.length ≤ 262144 := fits
  have accepted : ¬(frame.stream > underlyingStreamMax ∨ frame.data.length > maxStreamDataBytes ∨
      frame.endOffset < frame.beginOffset) := by
    rintro (high | long | backwards)
    · exact stream high
    · omega
    · omega
  have field : ¬frame.data.length > maxBytesFieldBytes := by
    show ¬frame.data.length > 524288
    omega
  have body : ∃ body, encodeStreamFrameBody frame = some body ∧ body.length = 21 + frame.data.length := by
    rw [encodeStreamFrameBody]
    simp only [data, if_neg accepted, IpcWriter.bytes, if_neg field, Option.map_some]
    refine ⟨_, rfl, ?_⟩
    simp only [List.length_append, IpcWriter.length_u32, IpcWriter.length_u64, IpcWriter.u8, List.length_singleton]
    omega
  obtain ⟨body, encoded, size⟩ := body
  have short : body.length + 2 ≤ maxPayloadBytes := by
    show body.length + 2 ≤ 1048576
    omega
  obtain ⟨wire, same, length⟩ := encodeStreamFramePayload_of_body encoded short
  exact ⟨wire, same, by omega⟩

end Yori
