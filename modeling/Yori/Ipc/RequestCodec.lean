import Yori.Ipc.Wire

namespace Yori
open Parsing IpcProtocolLimits Reader Inverts

variable {payload : ByteString} {version : UInt8} {α : Type} {request : IpcRequest} {value : Option α}

section Writers

open IpcWriter

def encodeSubmit (version : UInt8) (submit : IpcSubmitRequest) : Option ByteString :=
  inTurn [
    refuseIf (submit.argv.length > maxItemCount ∨ submit.env.size > maxItemCount),
    refuseIf (version < 2 ∧ (submit.executable.isSome ∨ submit.envMetadata.isSome)),
    refuseIf (version < 3 ∧ submit.gpuSpec.isSome),
    refuseIf (version < 4 ∧ submit.gpuPreferredSpec.isSome),
    counted string submit.argv,
    string submit.cwd,
    counted (fun entry => inTurn [string entry.1, string entry.2]) submit.env.entries,
    some (u32 submit.gpuRequest.toNat),
    optional string submit.launchProfile,
    optional string submit.tensorboardLogdir,
    if version ≥ 2 then
      inTurn [optional string submit.executable, optional envMetadata submit.envMetadata]
    else some [],
    if version ≥ 3 then optional string submit.gpuSpec else some [],
    if version ≥ 4 then optional string submit.gpuPreferredSpec else some []]

def encodeLogsFollow (follow : IpcLogsFollowRequest) : Option ByteString :=
  let since := optional fun offset : UInt64 => some (u64 offset.toNat)
  inTurn [some (u64 follow.jobId.toNat), since follow.sinceStdout, since follow.sinceStderr]

def encodeRequestBody (version : UInt8) (request : IpcRequest) : Option ByteString :=
  match request.kind with
  | .submit => encodeSubmit version request.submit
  | .ps | .queue | .gpu => some []
  | .cancel => some (u64 request.cancel.jobId.toNat)
  | .logs => inTurn [some (u64 request.logs.jobId.toNat), some (u32 request.logs.maxBytes.toNat)]
  | .logsFollow => encodeLogsFollow request.logsFollow
  | .tensorboard => some (u64 request.tensorboard.jobId.toNat)
  | .inspect => some (u64 request.inspect.jobId.toNat)

/-- What the two directions share: `[version][kind][body]` within the payload limit. -/
def encodePayload (kind : IpcRequestKind) (version : UInt8) (body : Option ByteString) : Option ByteString := do
  if !ipcVersionSupported version then none
  else
    let payload ← inTurn [some (u8 version), some (u8 kind.wire), body]
    if payload.length > maxPayloadBytes then none else some payload

def encodeRequestPayload (request : IpcRequest) : Option ByteString :=
  encodePayload request.kind request.version (encodeRequestBody request.version request)

end Writers

section Readers

open IpcReader

namespace IpcReader

/-- The kinds that a frame of the version may have. -/
def kind (version value : UInt8) : IpcReader IpcRequestKind := do
  match IpcRequestKind.ofWire value with
  | none => throw .badKind
  | some kind =>
    failIf (kind = .inspect ∧ version < 2) .badKind
    return kind

/-- The head of every payload. -/
def header : IpcReader (UInt8 × IpcRequestKind) := do
  let version ← u8
  let value ← u8
  failIf (ipcVersionSupported version = false) .badVersion
  return (version, ← kind version value)

end IpcReader

/-- The execution context that a submission carries from version 2 on. -/
def decodeContext : IpcReader (Option ByteString × Option IpcEnvMetadata) := do
  let executable ← optional string
  return (executable, ← optional envMetadata)

def decodeVariable : IpcReader (ByteString × ByteString) := do
  let name ← string
  return (name, ← string)

def decodeSubmit (version : UInt8) : IpcReader IpcSubmitRequest := do
  let argv ← counted maxItemCount string
  let cwd ← string
  let entries ← counted maxItemCount decodeVariable
  let env := entries.foldl (fun (env : SortedMap ByteString ByteString) entry => env.emplace entry.1 entry.2) .empty
  let gpuRequest ← u32
  let launchProfile ← optional string
  let tensorboardLogdir ← optional string
  let (executable, envMetadata) ← (if version ≥ 2 then decodeContext else pure (none, none))
  let gpuSpec ← (if version ≥ 3 then optional string else pure none)
  return {
    argv, cwd, env, gpuRequest, launchProfile, tensorboardLogdir, executable, envMetadata, gpuSpec
    gpuPreferredSpec := ← (if version ≥ 4 then optional string else pure none) }

def decodeLogsFollow : IpcReader IpcLogsFollowRequest := do
  let jobId ← u64
  let sinceStdout ← optional u64
  return { jobId, sinceStdout, sinceStderr := ← optional u64 }

def decodeRequestFields (version : UInt8) (kind : IpcRequestKind) : IpcReader IpcRequest := do
  match kind with
  | .submit => return { kind, version, submit := ← decodeSubmit version }
  | .ps | .queue | .gpu => return { kind, version }
  | .cancel => return { kind, version, cancel := { jobId := ← u64 } }
  | .logs =>
    let jobId ← u64
    return { kind, version, logs := { jobId, maxBytes := ← u32 } }
  | .logsFollow => return { kind, version, logsFollow := ← decodeLogsFollow }
  | .tensorboard => return { kind, version, tensorboard := { jobId := ← u64 } }
  | .inspect => return { kind, version, inspect := { jobId := ← u64 } }

/-- What the two directions share: the head, what its kind carries, and nothing behind it. -/
def decodeMessage {α : Type} (rest : UInt8 → IpcRequestKind → IpcReader α) : IpcReader α := do
  let (version, kind) ← header
  let message ← rest version kind
  exhausted .trailingBytes
  return message

def decodeRequestBody : IpcReader IpcRequest := decodeMessage decodeRequestFields

def decodePayload {α : Type} (body : IpcReader α) (data : ByteString) : Except IpcDecodeError α :=
  if data.length > maxPayloadBytes then .error .oversize
  else (body data).map Prod.fst

def decodeRequestPayload (data : ByteString) : Except IpcDecodeError IpcRequest := decodePayload decodeRequestBody data

end Readers

open IpcWriter

/-- The request with the fields of its kind alone, the others at their defaults. -/
def IpcRequest.ofKind (request : IpcRequest) : IpcRequest :=
  match request with
  | { kind, version, submit, cancel, logs, logsFollow, tensorboard, inspect } =>
    match kind with
    | .submit => { kind, version, submit }
    | .ps | .queue | .gpu => { kind, version }
    | .cancel => { kind, version, cancel }
    | .logs => { kind, version, logs }
    | .logsFollow => { kind, version, logsFollow }
    | .tensorboard => { kind, version, tensorboard }
    | .inspect => { kind, version, inspect }

/-- An optional field that only some versions carry, and that the writer refuses in the others. -/
theorem Wire.versioned {carried : Prop} [Decidable carried] {item : IpcReader (Option α)} {piece : Option ByteString}
    (absent : ¬carried → value = none) (present : Inverts item piece value) :
    Inverts (if carried then item else pure none) (if carried then piece else some []) value := by
  refine ite (fun _ => present) fun old => ?_
  rw [absent old]
  exact pure none

/-- A field that is refused in old versions is absent there. -/
theorem absent_of_old {bound : UInt8} (refused : ¬(version < bound ∧ value.isSome)) (old : ¬version ≥ bound) :
    value = none := by
  have before : version < bound := UInt8.not_le.mp old
  cases value with
  | none => rfl
  | some => exact absurd ⟨before, rfl⟩ refused

theorem decodeSubmit_inverts {submit : IpcSubmitRequest} :
    Inverts (decodeSubmit version) (encodeSubmit version submit) submit := by
  refine refuseIf fun few => refuseIf fun oldContext => refuseIf fun oldSpec =>
    refuseIf fun oldPreferred => ?_
  obtain ⟨fewArguments, fewVariables⟩ := not_or.mp few
  have noExecutable : ¬version ≥ 2 → submit.executable = none :=
    absent_of_old fun both => oldContext ⟨both.1, .inl both.2⟩
  have noMetadata : ¬version ≥ 2 → submit.envMetadata = none :=
    absent_of_old fun both => oldContext ⟨both.1, .inr both.2⟩
  refine (Wire.strings fewArguments).bind ((Wire.string submit.cwd).bind ?_)
  have pairs : Inverts (IpcReader.counted maxItemCount decodeVariable)
      (counted (fun entry => inTurn [string entry.1, string entry.2]) submit.env.entries) submit.env.entries :=
    Wire.countedSame (Nat.le_of_not_lt fewVariables) (by decide) fun entry _ =>
      (Wire.string entry.1).bind ((Wire.string entry.2).map (f := Prod.mk entry.1)).single
  refine pairs.bind ?_
  rw [SortedMap.emplaceAll_entries]
  refine (Wire.word submit.gpuRequest).bind ((Wire.optionalString submit.launchProfile).bind
    ((Wire.optionalString submit.tensorboardLogdir).bind ?_))
  have metadata : Inverts (IpcReader.optional IpcReader.envMetadata)
      (optional envMetadata submit.envMetadata) submit.envMetadata :=
    Wire.optional fun inner _ => Wire.envMetadata inner
  have context : Inverts (if version ≥ 2 then decodeContext else pure (none, none))
      (if version ≥ 2 then inTurn [optional string submit.executable, optional envMetadata submit.envMetadata]
        else some [])
      (submit.executable, submit.envMetadata) := by
    refine ite (fun _ => ?_) fun old => ?_
    · exact (Wire.optionalString submit.executable).bind (metadata.map (f := Prod.mk submit.executable)).single
    · rw [noExecutable old, noMetadata old]
      exact pure (none, none)
  refine context.bind ((Wire.versioned (absent_of_old oldSpec) (Wire.optionalString submit.gpuSpec)).bind ?_)
  exact (Wire.versioned (absent_of_old oldPreferred) (Wire.optionalString submit.gpuPreferredSpec)).bind
    (pure submit)

theorem decodeLogsFollow_inverts {follow : IpcLogsFollowRequest} :
    Inverts decodeLogsFollow (encodeLogsFollow follow) follow := by
  have since (offset : Option UInt64) : Inverts (IpcReader.optional IpcReader.u64)
      (optional (fun offset : UInt64 => some (u64 offset.toNat)) offset) offset :=
    Wire.optional fun inner _ => Wire.long inner
  exact (Wire.long follow.jobId).bind ((since follow.sinceStdout).bind
    ((since follow.sinceStderr).bind (pure follow)))

/-- The body of a request is read back by the reader of its kind, in every version. -/
theorem decodeRequestFields_inverts :
    Inverts (decodeRequestFields request.version request.kind) (encodeRequestBody request.version request)
      request.ofKind := by
  obtain ⟨kind, version, submit, cancel, logs, follow, tensorboard, inspect⟩ := request
  cases kind with
  | submit => exact decodeSubmit_inverts.map
  | ps | queue | gpu => exact pure _
  | cancel => exact (Wire.long cancel.jobId).map
  | logs => exact (Wire.long logs.jobId).bind ((Wire.word logs.maxBytes).bind (pure _))
  | logsFollow => exact decodeLogsFollow_inverts.map
  | tensorboard => exact (Wire.long tensorboard.jobId).map
  | inspect => exact (Wire.long inspect.jobId).map

/-- What a payload that was encoded looks like. -/
theorem encodePayload_eq_some {kind : IpcRequestKind} {body : Option ByteString}
    (encoded : encodePayload kind version body = some payload) :
    ipcVersionSupported version = true ∧ payload.length ≤ maxPayloadBytes ∧
      ∃ fields, body = some fields ∧ payload = version :: kind.wire :: fields := by
  rw [encodePayload] at encoded
  cases supported : ipcVersionSupported version with
  | false => simp [supported] at encoded
  | true =>
    simp only [supported, Bool.not_true, Bool.false_eq_true, if_false] at encoded
    obtain ⟨_, written, encoded⟩ := Option.bind_eq_some_iff.mp encoded
    split at encoded
    · cases encoded
    · rename_i short
      cases encoded
      obtain ⟨_, _, atVersion, later, joined⟩ := inTurn_cons_eq_some.mp written
      obtain ⟨_, _, atKind, last, rest⟩ := inTurn_cons_eq_some.mp later
      obtain ⟨fields, _, atBody, ended, alone⟩ := inTurn_cons_eq_some.mp last
      cases atVersion
      cases atKind
      cases ended
      refine ⟨rfl, Nat.le_of_not_lt short, fields, atBody, ?_⟩
      rw [joined, rest, alone, List.append_nil]
      rfl

/-- The head of a payload is read as it was written, unless its kind is too new for its version. -/
theorem IpcReader.header_cons {kind : IpcRequestKind} {fields : ByteString}
    (supported : ipcVersionSupported version = true) :
    IpcReader.header (version :: kind.wire :: fields) =
      if kind = .inspect ∧ version < 2 then .error .badKind else .ok ((version, kind), fields) := by
  have known : ¬ipcVersionSupported version = false := by
    rw [supported]
    decide
  have start : IpcReader.header (version :: kind.wire :: fields) =
      ((do
        failIf (ipcVersionSupported version = false) .badVersion
        return (version, ← IpcReader.kind version kind.wire) : IpcReader (UInt8 × IpcRequestKind)) fields) := rfl
  rw [start, IpcReader.kind, IpcRequestKind.ofWire_wire, failIf_passed known]
  dsimp only
  by_cases early : kind = .inspect ∧ version < 2
  · rw [if_pos early, failIf_failed early]
    rfl
  · rw [if_neg early, failIf_passed early]
    rfl

section
variable {α : Type} {rest : UInt8 → IpcRequestKind → IpcReader α} {version : UInt8} {kind : IpcRequestKind}
  {fields : ByteString}

/-- A message is accepted when its fields end where the payload does. -/
theorem decodeMessage_cons {message : α} {left : ByteString} (supported : ipcVersionSupported version = true)
    (short : (version :: kind.wire :: fields).length ≤ maxPayloadBytes)
    (known : ¬(kind = .inspect ∧ version < 2)) (read : rest version kind fields = .ok (message, left)) :
    decodePayload (decodeMessage rest) (version :: kind.wire :: fields) =
      if left = [] then .ok message else .error .trailingBytes := by
  have start : decodeMessage rest (version :: kind.wire :: fields) =
      (rest version kind fields >>= fun found =>
        (do exhausted .trailingBytes; return found.1 : IpcReader α) found.2) := by
    show (IpcReader.header (version :: kind.wire :: fields) >>= _) = _
    rw [IpcReader.header_cons supported, if_neg known]
    rfl
  rw [decodePayload, if_neg (Nat.not_lt.mpr short), start, read]
  cases left with
  | nil | cons => rfl

end

theorem decodeRequestPayload_encoded (encoded : encodeRequestPayload request = some payload) :
    decodeRequestPayload payload =
      if request.kind = .inspect ∧ request.version < 2 then .error .badKind else .ok request.ofKind := by
  obtain ⟨supported, short, fields, written, rfl⟩ := encodePayload_eq_some encoded
  by_cases early : request.kind = .inspect ∧ request.version < 2
  · rw [if_pos early]
    rw [decodeRequestPayload, decodePayload, if_neg (Nat.not_lt.mpr short)]
    show Except.map _ (IpcReader.header (request.version :: request.kind.wire :: fields) >>= _) = _
    rw [IpcReader.header_cons supported, if_pos early]
    rfl
  · have read := decodeRequestFields_inverts fields written []
    rw [List.append_nil] at read
    rw [if_neg early]
    exact decodeMessage_cons supported short early read

/-- A request that was encoded is decoded as itself exactly when the decoder knows its kind in its version. -/
theorem request_round_trip_iff (request : IpcRequest) (payload : ByteString)
    (encoded : encodeRequestPayload request = some payload) :
    decodeRequestPayload payload = .ok request.ofKind ↔ ¬(request.kind = .inspect ∧ request.version < 2) := by
  rw [decodeRequestPayload_encoded encoded]
  by_cases early : request.kind = .inspect ∧ request.version < 2
  · rw [if_pos early]
    constructor
    · intro same
      cases same
    · exact fun known => absurd early known
  · rw [if_neg early]
    exact ⟨fun _ => early, fun _ => rfl⟩

theorem request_round_trip_cancel :
    decodeRequestPayload [4, 5, 7, 0, 0, 0, 0, 0, 0, 0] =
      .ok (IpcRequest.ofKind { kind := .cancel, cancel := { jobId := 7 } }) :=
  (request_round_trip_iff { kind := .cancel, cancel := { jobId := 7 } } _ (by decide)).mpr (by decide)

/-- The encoder lets an inspection go out in version 1, and the decoder refuses its kind there. -/
theorem request_round_trip_early_inspect :
    encodeRequestPayload { kind := .inspect, version := 1, inspect := { jobId := 7 } } =
        some [1, 9, 7, 0, 0, 0, 0, 0, 0, 0] ∧
      decodeRequestPayload [1, 9, 7, 0, 0, 0, 0, 0, 0, 0] = .error .badKind := by
  have encoded : encodeRequestPayload { kind := .inspect, version := 1, inspect := { jobId := 7 } } =
      some [1, 9, 7, 0, 0, 0, 0, 0, 0, 0] := by decide
  exact ⟨encoded, (decodeRequestPayload_encoded encoded).trans (if_pos (by decide))⟩

end Yori
