import Yori.Follow.LogStreamer
import Yori.Ipc.Sendable
import Yori.Runtime.Submission

/-! The server on the socket: a request is decoded, answered and written back. -/

namespace Yori
open Parsing Checked ByteString IpcProtocolLimits IpcGpuDevice IpcService List Wire GpuObservationSnapshot

variable {response : IpcResponse} {peer : PeerCredentials} {device : IpcGpuDevice}

def IpcDecodeError.toString : IpcDecodeError → ByteString
  | truncated => .ascii "truncated"
  | oversize => .ascii "oversize"
  | badVersion => .ascii "bad version"
  | badKind => .ascii "bad kind"
  | badString => .ascii "bad string"
  | tooManyItems => .ascii "too many items"
  | trailingBytes => .ascii "trailing bytes"
  | invalidValue => .ascii "invalid value"

/-- What the delegate for followed logs meets: its worker, the offsets at which the streamer lets a session begin,
and the room in its command channel. -/
structure LogFollowService where
  running : Bool := true
  subscribe : IpcLogsFollowRequest → Except LogSubscribeCode (UInt64 × UInt64)
  admits : Bool := true

/-- The connection is taken over, or there is an answer. -/
def LogFollowService.beginStream (follow : LogFollowService) (service : IpcService) (peer : PeerCredentials)
    (request : IpcRequest) : Option IpcResponse :=
  let blank : IpcResponse := { kind := .logsFollow, version := request.version }
  if request.kind ≠ .logsFollow then
    some { blank with error := .protocol, detail := ascii "delegate only accepts logs-follow requests" }
  else if !follow.running then
    some { blank with error := .unsupported, detail := ascii "follow service is not running" }
  else
    let validated := { service.validateLogsFollow peer request.logsFollow with version := request.version }
    let declined (error : IpcError) (detail : String) : Option IpcResponse :=
      some { validated with error, detail := ascii detail }
    if validated.error ≠ .none then some validated
    else match follow.subscribe request.logsFollow with
      | .error .sessionLimitJob => declined .limit "per-job follow session limit reached"
      | .error .sessionLimitTotal => declined .limit "global follow session limit reached"
      | .error _ => declined .notAvailable "job has no live log source on this daemon; use 'yori logs' snapshot"
      | .ok (stdoutOffset, stderrOffset) =>
        let ack := { blank with logsFollow := { validated.logsFollow with stdoutOffset, stderrOffset } }
        if encodeResponsePayload ack = none then declined .internal "failed to encode follow ack"
        else if !follow.admits then declined .limit "follow admission queue is full"
        else none

structure UdsIpcServer where
  service : IpcService
  control : JobControl
  streamDelegate : Option LogFollowService := none

namespace UdsIpcServer

/-- A response that cannot be encoded is replaced by an internal error. The replacement has the version of the
daemon, not the one of the request. -/
def writeResponse (response : IpcResponse) : Option ByteString :=
  match encodeResponsePayload response with
  | some payload => some payload
  | none => encodeResponsePayload (IpcService.errorResponse response.kind .internal (ascii "internal error"))

variable (server : UdsIpcServer)

/-- The response to a request, unless the connection was taken over. -/
def answer (peer : PeerCredentials) (request : IpcRequest) : Option IpcResponse :=
  match if request.kind = .logsFollow then server.streamDelegate else none with
  | some follow => follow.beginStream server.service peer request
  | none => some { server.service.handle server.control peer request with version := request.version }

/-- The payload that is written back. -/
def serve (peer : PeerCredentials) (payload : ByteString) : Option ByteString :=
  match decodeRequestPayload payload with
  | .error error => encodeResponsePayload (IpcService.errorResponse .submit .protocol error.toString)
  | .ok request => (server.answer peer request).bind writeResponse

end UdsIpcServer

/-! Listings of jobs. Their size depends on what the jobs hold. -/

namespace IpcService

/-- The bytes that a job takes in a listing for the peer. -/
def listedBytes (service : IpcService) (peer : PeerCredentials) (version : UInt8) (record : StoredJob) : Nat :=
  let shown := service.permits peer record
  22 + (if shown then
      8 + (record.spec.argv.map stringBytes).sum + record.spec.cwd.length +
        optionalBytes stringBytes record.spec.tensorboardLogdir
    else 0) +
    optionalBytes (fun _ => 5) record.execution.exit +
    waitBytes version (if record.state = .queued then (service.waitOf shown record.id).2 else none)

/-- The payload of a listing: its head and its words, and the jobs that it shows. -/
def listingBytes (service : IpcService) (peer : PeerCredentials) (version : UInt8) (snapshot : StateSnapshot) : Nat :=
  11 + (service.listing .ps snapshot.jobs.length).detail.length +
    ((snapshot.jobs.take service.config.maxListedJobs.toNat).map (service.listedBytes peer version)).sum

variable {service : IpcService} {version : UInt8} {peer : PeerCredentials} {snapshot : StateSnapshot}
  {record : StoredJob}

theorem summaryBytes_jobSummary :
    summaryBytes version (service.jobSummary peer record) = service.listedBytes peer version record := by
  have exit : optionalBytes (fun _ => 5) (record.execution.exit.map exitWire) =
      optionalBytes (fun _ => 5) record.execution.exit := by
    rw [optionalBytes, optionalBytes, Option.map_map]
    rfl
  have wait : (service.jobSummary peer record).waitDetail =
      if record.state = .queued then (service.waitOf (service.permits peer record) record.id).2 else none := by
    rw [jobSummary]
    simp only [Bool.not_not]
    split <;> rfl
  rw [summaryBytes, listedBytes, shownBytes, wait]
  show 22 + (if (!service.permits peer record) = true then 0 else _) + optionalBytes _
    (record.execution.exit.map exitWire) + _ = _
  rw [exit]
  by_cases permitted : service.permits peer record = true
  · simp [jobSummary, permitted]
  · simp [permitted]

section

variable (supplied : service.Supplied) (load : service.load = .ok snapshot)
include supplied load

theorem Supplied.summary_plain (member : record ∈ snapshot.jobs) : (service.jobSummary peer record).Plain := by
  have checked := supplied.spec load member
  obtain ⟨reason, target⟩ := supplied.wait (!(!service.permits peer record)) record.id
  have nothing : Writable [] := by decide
  constructor
  · show (if (!service.permits peer record) = true then [] else record.spec.argv).length ≤ _
    split
    · exact Nat.zero_le _
    · exact checked.few
  · intro argument inside
    have listed : argument ∈ if (!service.permits peer record) = true then [] else record.spec.argv := inside
    split at listed
    · cases listed
    · exact checked.argv_writable argument listed
  · show Writable (if (!service.permits peer record) = true then [] else record.spec.cwd)
    split
    · exact nothing
    · exact checked.cwd_writable.1
  · intro path found
    have listed : (if (!service.permits peer record) = true then none else record.spec.tensorboardLogdir) = some path :=
      found
    split at listed
    · cases listed
    · exact (checked.logdir_writable listed).1
  · rw [jobSummary]
    simp only
    split
    · exact reason
    · exact UInt8.zero_le
  · intro wanted found
    rw [jobSummary] at found
    simp only at found
    split at found
    · exact (target wanted found).1
    · cases found

theorem Supplied.ps_sized :
    Sized (encodeEntries (encodeJobSummary version)
      ((snapshot.jobs.take service.config.maxListedJobs.toNat).map (service.jobSummary peer)))
      (4 + ((snapshot.jobs.take service.config.maxListedJobs.toNat).map (service.listedBytes peer version)).sum) := by
  let shown := snapshot.jobs.take service.config.maxListedJobs.toNat
  have few : (shown.map (service.jobSummary peer)).length ≤ maxListItems := by
    rw [length_map]
    exact (length_take_le _ _).trans supplied.limits.1
  have each : ∀ summary ∈ shown.map (service.jobSummary peer),
      Sized (encodeJobSummary version summary) (summaryBytes version summary) := by
    intro _ member
    obtain ⟨_, atRecord, rfl⟩ := mem_map.mp member
    exact encodeJobSummary_sized (supplied.summary_plain load (mem_of_mem_take atRecord))
  have same : (shown.map (service.jobSummary peer)).map (summaryBytes version) =
      shown.map (service.listedBytes peer version) := by
    rw [map_map]
    exact map_congr_left fun record _ => summaryBytes_jobSummary
  have all := Sized.inTurn (.cons (Sized.unrefused (Nat.not_lt.mpr few)) (.cons (counted_sized each) .nil))
  rw [same] at all
  simpa only [Nat.zero_add, sum_cons, sum_nil, Nat.add_zero, encodeEntries] using all

/-- A listing goes out as it is exactly when it fits a frame; it is never an internal error. -/
theorem Supplied.ps_sent (supported : ipcVersionSupported version = true)
    (handled : response = { service.handlePs peer with version }) :
    ((∃ payload, encodeResponsePayload response = some payload) ↔
      service.listingBytes peer version snapshot ≤ maxPayloadBytes) ∧
      response.InRange ∧ ¬response.Uncounted ∧ response.error ≠ .internal := by
  obtain ⟨error, detail, same, writable, other⟩ := supplied.listing_eq .ps snapshot.jobs.length
  have sized := @Supplied.ps_sized service version peer snapshot supplied load
  rw [handlePs, withSnapshot, load] at handled
  simp only [same] at handled
  have supports : ipcVersionSupported response.version = true := by rw [handled]; exact supported
  have words : Writable response.detail := by rw [handled]; exact writable
  have fields : Sized (encodeResponseFields response.version response)
      (4 + ((snapshot.jobs.take service.config.maxListedJobs.toNat).map (service.listedBytes peer version)).sum) := by
    rw [handled]
    exact sized
  have length : response.detail = detail := by rw [handled]
  refine ⟨?_, ?_, ?_, ?_⟩
  · rw [encodeResponsePayload_sized supports words fields, listingBytes, same, length]
    constructor <;> intro fits <;> simp only at fits ⊢ <;> omega
  · rw [handled]
    intro _ member
    obtain ⟨record, atRecord, rfl⟩ := mem_map.mp member
    refine ⟨record.state.wire_le, fun exit found => ?_⟩
    obtain ⟨status, atStatus, rfl⟩ := Option.map_eq_some_iff.mp found
    exact supplied.exits snapshot load record (mem_of_mem_take atRecord) status atStatus
  · rw [handled]
    exact fun full => by cases full.1
  · rw [handled]
    exact other

end

end IpcService

/-! Listings of devices. A number of a device that comes without its other half is not written. -/

def IpcGpuDevice.paired (device : IpcGpuDevice) : IpcGpuDevice :=
  { device with memoryUsedBytes := device.memory.map Prod.fst, memoryTotalBytes := device.memory.map Prod.snd }

/-- Nothing is lost of a device whose numbers are both known, or both unknown. -/
theorem IpcGpuDevice.paired_eq_iff :
    device.paired = device ↔ device.memoryUsedBytes.isSome = device.memoryTotalBytes.isSome := by
  obtain ⟨_, _, _, _, _, used, total, _⟩ := device
  cases used with
  | none | some => cases total <;> simp [paired, memory]

def IpcResponse.paired (response : IpcResponse) : IpcResponse :=
  { response with devices := response.devices.map IpcGpuDevice.paired }

theorem encodeResponsePayload_paired (response : IpcResponse) :
    encodeResponsePayload response.paired = encodeResponsePayload response := by
  obtain ⟨kind, _, _, _, _, _, _, _, devices, _, _, _, _, _⟩ := response
  have entries : encodeEntries encodeGpuDevice (devices.map paired) =
      encodeEntries encodeGpuDevice devices := by
    have memory : ∀ device : IpcGpuDevice, device.paired.memory = device.memory := by
      intro device
      rw [memory, paired]
      cases device.memory <;> rfl
    have same : encodeGpuDevice ∘ paired = encodeGpuDevice := by
      funext device
      rw [Function.comp_apply, encodeGpuDevice, memory]
      rfl
    rw [encodeEntries, encodeEntries, IpcWriter.counted, IpcWriter.counted, map_map, length_map, same]
  cases kind with
  | gpu => simp only [encodeResponsePayload, encodeResponseBody, encodeResponseFields, IpcResponse.paired, entries]
  | _ => rfl

namespace IpcService

variable {service : IpcService} {version : UInt8} {kind : IpcRequestKind} {control : JobControl}

/-- What is written of a device is in the ranges that the reader knows. -/
theorem paired_inRange {leases : List GpuLease} {observation : GpuObservation} (sound : observation.telemetry.Sound) :
    (gpuDevice leases observation).paired.InRange := by
  refine ⟨?_, ?_, sound.utilization, ?_⟩
  · show observation.state.wire ≤ _
    cases observation.state <;> decide
  · show (deriveLogicalState observation.state _).wire ≤ _
    cases deriveLogicalState observation.state _ <;> decide
  · cases used : observation.telemetry.memoryUsedBytes with
    | none => exact .inr ⟨by simp [paired, memory, gpuDevice, used],
        by simp [paired, memory, gpuDevice, used]⟩
    | some amount =>
      cases total : observation.telemetry.memoryTotalBytes with
      | none => exact .inr ⟨by simp [paired, memory, gpuDevice, used, total],
          by simp [paired, memory, gpuDevice, used, total]⟩
      | some all =>
        refine .inl ⟨amount, all, ?_, ?_, sound.memory amount all used total⟩
        · simp [paired, memory, gpuDevice, used, total]
        · simp [paired, memory, gpuDevice, used, total]

/-- Devices are listed as they are observed, without the numbers that come alone. -/
theorem Supplied.gpu_sendable (supplied : service.Supplied) (supported : ipcVersionSupported version = true) :
    IpcResponse.Sendable (IpcResponse.paired { service.handleGpu with version }) := by
  have late : ¬(IpcRequestKind.gpu = .inspect ∧ version < 2) := not_early (by decide)
  rw [handleGpu]
  cases observed : service.gpu with
  | none =>
    exact IpcResponse.blank_sendable supported late
      (show Writable (ascii "no gpu observation available") by decide)
  | some observation =>
    simp only [withSnapshot]
    cases service.load with
    | error code => exact IpcResponse.blank_sendable supported late code.writable_toString
    | ok snapshot =>
      have valid := supplied.observed observation observed
      obtain ⟨few, sound⟩ := valid.telemetry
      let listed := (observation.devices.map (gpuDevice snapshot.leases)).map paired
      have each : ∀ device ∈ listed, ∃ source ∈ observation.devices,
          device = (gpuDevice snapshot.leases source).paired := by
        intro _ member
        obtain ⟨_, atShown, rfl⟩ := mem_map.mp member
        obtain ⟨source, atSource, rfl⟩ := mem_map.mp atShown
        exact ⟨source, atSource, rfl⟩
      have fits : AtMost (encodeEntries encodeGpuDevice listed)
          (4 + maxDevices * (41 + GpuUuid.maxBytes)) := by
        refine encodeEntries_fits (by rw [length_map, length_map]; exact few) (by decide) ?_
        intro device member
        obtain ⟨source, atSource, rfl⟩ := each device member
        obtain ⟨writable, short⟩ := GpuUuid.writable (valid.devices_ok.1 source atSource)
        exact encodeGpuDevice_fits writable short
      have range : ∀ device ∈ listed, device.InRange := by
        intro device member
        obtain ⟨source, atSource, rfl⟩ := each device member
        exact paired_inRange (sound source atSource)
      have body := AtMost.inTurn (.cons (u64_sized observation.revision.toNat).fits (.cons fits .nil))
      exact ⟨supported, show Writable [] by decide, range, body.mono (by decide), fun full => by cases full.1⟩

/-! Every handler answers with the kind of the request. -/

theorem withSnapshot_kind {handler : StateSnapshot → IpcResponse} (each : ∀ snapshot, (handler snapshot).kind = kind) :
    (service.withSnapshot kind handler).kind = kind := by
  rw [withSnapshot]
  split
  · rfl
  · exact each _

theorem withJob_kind {jobId : UInt64} {handler : StateSnapshot → StoredJob → IpcResponse}
    (each : ∀ snapshot record, (handler snapshot record).kind = kind) :
    (service.withJob kind peer jobId handler).kind = kind := by
  refine withSnapshot_kind fun snapshot => ?_
  split
  · rfl
  · split
    · rfl
    · exact each _ _

theorem listing_kind {total : Nat} : (service.listing kind total).kind = kind := by
  rw [listing]
  split <;> rfl

theorem handleGpu_kind : service.handleGpu.kind = .gpu := by
  rw [handleGpu]
  split
  · rfl
  · exact withSnapshot_kind fun _ => rfl

theorem handleSubmit_kind {request : IpcSubmitRequest} :
    (service.handleSubmit control peer request).kind = .submit := by
  have refused (error : JobSpecError) : (refusal error).kind = .submit := by
    rw [refusal]
    split <;> rfl
  have submitted (outcome : JobSubmitOutcome) : (submitResponse outcome).kind = .submit := by
    rw [submitResponse]
    split <;> rfl
  rw [handleSubmit]
  cases placed : service.placementOf request with
  | error =>
    rw [admitSubmit_unplaced placed]
    rfl
  | ok placement =>
    rw [admitSubmit_placed placed]
    cases validate (service.submittedSpec peer request placement) with
    | error error => exact refused error
    | ok => exact submitted _

theorem handleCancel_kind (jobId : UInt64) : (service.handleCancel control peer jobId).kind = .cancel := by
  have cancelled (outcome : JobCancelOutcome) : (cancelResponse outcome).kind = .cancel := by
    rw [cancelResponse]
    split <;> rfl
  rw [handleCancel, admitCancel]
  split
  · rename_i settled
    split at settled
    · cases settled
      rfl
    · split at settled
      · cases settled
        rfl
      · repeat' split at settled
        all_goals cases settled
        all_goals rfl
  · exact cancelled _

theorem handle_kind (control : JobControl) (peer : PeerCredentials) (request : IpcRequest) :
    (service.handle control peer request).kind = request.kind := by
  rw [handle]
  cases request.kind with
  | submit => exact handleSubmit_kind
  | ps => exact withSnapshot_kind fun _ => listing_kind
  | queue => exact withSnapshot_kind fun _ => listing_kind
  | gpu => exact handleGpu_kind
  | cancel => exact handleCancel_kind _
  | logs =>
    refine withJob_kind fun _ record => ?_
    cases record.execution.logPath with
    | none => rfl
    | some =>
      simp only
      split <;> rfl
  | logsFollow => rfl
  | tensorboard | inspect => exact withJob_kind fun _ _ => rfl

end IpcService

/-! What is written back. -/

theorem IpcResponse.carried_head (response : IpcResponse) :
    response.carried.kind = response.kind ∧ response.carried.version = response.version ∧
      response.carried.error = response.error ∧ response.carried.detail = response.detail := by
  obtain ⟨kind, _, _, _, _, _, _, _, _, _, _, _, _, _⟩ := response
  cases kind <;> exact ⟨rfl, rfl, rfl, rfl⟩

namespace UdsIpcServer

variable {server : UdsIpcServer} {request : IpcRequest} {count : Nat}

/-- The client reads what was answered. -/
def Delivered (response : IpcResponse) : Prop :=
  ∃ written, writeResponse response = some written ∧ decodeResponsePayload written = .ok response.carried

theorem delivered_of_encoded (range : response.InRange) (counted : ¬response.Uncounted) {payload : ByteString}
    (encoded : encodeResponsePayload response = some payload) : Delivered response := by
  refine ⟨payload, ?_, decodeResponsePayload_encoded range counted encoded⟩
  rw [writeResponse, encoded]

theorem delivered_of_sendable (sendable : response.Sendable) : Delivered response := by
  obtain ⟨_, encoded, _⟩ := sendable.sent
  exact delivered_of_encoded sendable.range sendable.counted encoded

/-- What a client reads instead of a response that does not fit: an internal error of the latest version. -/
theorem writeResponse_replaced (unsent : encodeResponsePayload response = none) :
    ∃ written replacement, writeResponse response = some written ∧ decodeResponsePayload written = .ok replacement ∧
      replacement.version = protocolVersion ∧ replacement.error = .internal ∧
      replacement.detail = ascii "internal error" := by
  let replacement : IpcResponse := { kind := response.kind, error := .internal, detail := ascii "internal error" }
  have sendable : replacement.Sendable :=
    IpcResponse.blank_sendable (by decide) (fun both => absurd both.2 (by decide)) (by decide)
  obtain ⟨payload, encoded, decoded⟩ := sendable.sent
  obtain ⟨_, version, error, detail⟩ := replacement.carried_head
  refine ⟨payload, _, ?_, decoded, version, error, detail⟩
  rw [writeResponse, unsent]
  exact encoded

theorem not_delivered (unsent : encodeResponsePayload response = none)
    (other : response.error ≠ .internal ∨ response.detail ≠ ascii "internal error") : ¬Delivered response := by
  rintro ⟨_, wrote, read⟩
  obtain ⟨_, _, replaced, decoded, _, error, detail⟩ := writeResponse_replaced unsent
  obtain ⟨_, _, sameError, sameDetail⟩ := response.carried_head
  rw [wrote] at replaced
  cases replaced
  rw [read] at decoded
  cases decoded
  rcases other with differs | differs
  · exact differs (sameError.symm.trans error)
  · exact differs (sameDetail.symm.trans detail)

/-- What is around the server: the service and its sources, and the answers of the job manager. -/
structure Supplied (server : UdsIpcServer) : Prop where
  service : server.service.Supplied
  submitted : ∀ spec, Writable (server.control.submitJob spec).detail
  cancelled : ∀ jobId, Writable (server.control.cancelJob jobId).detail ∧
    (server.control.cancelJob jobId).state ≤ underlyingJobStateMax

/-- The requests whose answers fit: a submission that is not refused with too long a text, a listing of jobs within
one frame, and devices whose memory is known as a whole or not at all. All other requests have answers that fit. -/
def AnswerFits (server : UdsIpcServer) (peer : PeerCredentials) (request : IpcRequest) : Prop :=
  match request.kind with
  | .submit => ¬server.service.LongRefusal request.submit
  | .ps => ∀ snapshot, server.service.load = .ok snapshot →
      server.service.listingBytes peer request.version snapshot ≤ IpcProtocolLimits.maxPayloadBytes
  | .gpu => ∀ snapshot observed, server.service.load = .ok snapshot → server.service.gpu = some observed →
      ∀ device ∈ observed.devices,
        device.telemetry.memoryUsedBytes.isSome = device.telemetry.memoryTotalBytes.isSome
  | .queue | .cancel | .logs | .logsFollow | .tensorboard | .inspect => True

section Kinds

variable {service : IpcService} {control : JobControl} {peer : PeerCredentials} {version : UInt8}

theorem submit_delivered_iff {request : IpcSubmitRequest} (supported : ipcVersionSupported version = true)
    (clean : request.CleanDevices) (answers : ∀ spec, Writable (control.submitJob spec).detail) :
    Delivered { service.handleSubmit control peer request with version } ↔ ¬service.LongRefusal request := by
  constructor
  · intro delivered long
    obtain ⟨_, refused, long⟩ := placementOf_long.mpr long
    have above : maxStringBytes < (service.handleSubmit control peer request).detail.length := by
      rw [handleSubmit, admitSubmit_unplaced refused]
      exact long
    have unsent : encodeResponsePayload { service.handleSubmit control peer request with version } = none :=
      encodeResponsePayload_refused above
    refine not_delivered unsent (.inr fun same => ?_) delivered
    simp only at same
    rw [same] at above
    exact absurd above (by decide)
  · intro brief
    exact delivered_of_sendable (submit_sendable supported clean answers brief)

theorem ps_delivered_iff (supplied : service.Supplied) (supported : ipcVersionSupported version = true) :
    Delivered { service.handlePs peer with version } ↔ ∀ snapshot, service.load = .ok snapshot →
      service.listingBytes peer version snapshot ≤ maxPayloadBytes := by
  cases load : service.load with
  | error code =>
    have failed : service.handlePs peer = errorResponse .ps .storeFailed code.toString := by
      rw [handlePs, withSnapshot, load]
    have sendable : IpcResponse.Sendable { service.handlePs peer with version } := by
      rw [failed]
      have late : ¬(IpcRequestKind.ps = .inspect ∧ version < 2) := not_early (by decide)
      exact IpcResponse.blank_sendable supported late code.writable_toString
    refine ⟨fun _ snapshot loaded => ?_, fun _ => delivered_of_sendable sendable⟩
    cases loaded
  | ok snapshot =>
    obtain ⟨encodes, range, counted, other⟩ := supplied.ps_sent load supported rfl
    constructor
    · intro delivered _ loaded
      cases loaded
      by_contra large
      have unsent : encodeResponsePayload { service.handlePs peer with version } = none := by
        rw [Option.eq_none_iff_forall_ne_some]
        exact fun payload encoded => large (encodes.mp ⟨payload, encoded⟩)
      exact not_delivered unsent (.inl other) delivered
    · intro fits
      obtain ⟨_, encoded⟩ := encodes.mpr (fits snapshot rfl)
      exact delivered_of_encoded range counted encoded

theorem paired_carried_iff {response : IpcResponse} (kind : response.kind = .gpu) :
    response.paired.carried = response.carried ↔ ∀ device ∈ response.devices, device.paired = device := by
  obtain ⟨_, version, error, detail, _, _, _, gpuRevision, devices, _, _, _, _, _⟩ := response
  cases kind
  have same : devices.map paired = devices ↔ ∀ device ∈ devices, device.paired = device := by
    have compare := @List.map_inj_left _ _ devices paired id
    rwa [map_id] at compare
  rw [← same]
  constructor
  · intro carried
    exact congrArg IpcResponse.devices carried
  · intro listed
    show ({ kind := .gpu, version, error, detail, gpuRevision, devices := devices.map paired } :
      IpcResponse) = { kind := .gpu, version, error, detail, gpuRevision, devices }
    rw [listed]

/-- The devices of an answer are those of the observation, if the store could be read. -/
theorem handleGpu_devices : device ∈ service.handleGpu.devices ↔
    ∃ snapshot observed, service.load = .ok snapshot ∧ service.gpu = some observed ∧
      ∃ observation ∈ observed.devices, device = gpuDevice snapshot.leases observation := by
  rw [handleGpu]
  cases service.gpu with
  | none => simp [errorResponse]
  | some =>
    simp only [withSnapshot]
    cases service.load with
    | error => simp [errorResponse]
    | ok => simp [eq_comm]

/-- What is delivered of a response whose devices lose something on the way. -/
theorem delivered_paired_iff (sendable : response.paired.Sendable) :
    Delivered response ↔ response.paired.carried = response.carried := by
  obtain ⟨payload, encoded, decoded⟩ := sendable.sent
  rw [encodeResponsePayload_paired] at encoded
  have wrote : writeResponse response = some payload := by rw [writeResponse, encoded]
  constructor
  · rintro ⟨_, same, read⟩
    rw [wrote] at same
    cases same
    rw [decoded] at read
    exact Except.ok.inj read
  · intro same
    exact ⟨payload, wrote, by rw [decoded, same]⟩

theorem gpu_delivered_iff (supplied : service.Supplied) (supported : ipcVersionSupported version = true) :
    Delivered { service.handleGpu with version } ↔ ∀ snapshot observed, service.load = .ok snapshot →
      service.gpu = some observed → ∀ device ∈ observed.devices,
        device.telemetry.memoryUsedBytes.isSome = device.telemetry.memoryTotalBytes.isSome := by
  refine (delivered_paired_iff (supplied.gpu_sendable supported)).trans ?_
  refine (@paired_carried_iff { service.handleGpu with version } service.handleGpu_kind).trans ?_
  constructor
  · intro whole snapshot observed load gpu observation member
    have listed := handleGpu_devices.mpr ⟨snapshot, observed, load, gpu, observation, member, rfl⟩
    exact paired_eq_iff.mp (whole _ listed)
  · intro whole _ member
    obtain ⟨snapshot, observed, load, gpu, observation, inside, rfl⟩ := handleGpu_devices.mp member
    exact paired_eq_iff.mpr (whole snapshot observed load gpu observation inside)

end Kinds

/-- An answer about followed logs fits if its text does. -/
theorem follow_sendable (kind : response.kind = .logsFollow) (supported : ipcVersionSupported response.version = true)
    (writable : Writable response.detail) (known : response.logsFollow.jobState ≤ underlyingJobStateMax) :
    response.Sendable := by
  have fields : AtMost (encodeResponseFields response.version response) 17 := by
    rw [encodeResponseFields, kind]
    exact AtMost.inTurn (.cons (u8_sized _).fits (.cons (u64_sized _).fits (.cons (u64_sized _).fits .nil)))
  refine ⟨supported, writable, ?_, fields.mono (by decide), ?_⟩
  · rw [IpcResponse.InRange, kind]
    exact known
  · rintro ⟨inspect, _⟩
    rw [kind] at inspect
    cases inspect

/-- A delegate that declines to follow has an answer that fits, of the kind and the version of the request. -/
theorem beginStream_declined {follow : LogFollowService} {service : IpcService}
    (supported : ipcVersionSupported request.version = true) (kind : request.kind = .logsFollow)
    (answered : follow.beginStream service peer request = some response) :
    response.kind = .logsFollow ∧ response.version = request.version ∧ response.Sendable := by
  let validated := { service.validateLogsFollow peer request.logsFollow with version := request.version }
  have sameKind : validated.kind = .logsFollow := by
    refine withJob_kind fun _ record => ?_
    cases record.execution.logPath with
    | none | some => rfl
  have checked : validated.Sendable := by
    have late : ¬(IpcRequestKind.logsFollow = .inspect ∧ request.version < 2) := not_early (by decide)
    refine withJob_sendable supported late fun _ _ record _ => ?_
    cases record.execution.logPath with
    | none =>
      exact IpcResponse.blank_sendable supported late
        (show Writable (ascii "job has not started; no logs yet") by decide)
    | some => exact follow_sendable rfl supported (show Writable [] by decide) record.state.wire_le
  have known : validated.logsFollow.jobState ≤ underlyingJobStateMax := by
    have range := checked.range
    rwa [IpcResponse.InRange, sameKind] at range
  have declined (error : IpcError) (detail : String) (writable : Writable (ascii detail)) :
      IpcResponse.Sendable { validated with error, detail := ascii detail } :=
    follow_sendable sameKind supported writable known
  unfold LogFollowService.beginStream at answered
  rw [if_neg (not_not.mpr kind)] at answered
  split at answered
  · cases answered
    have writable : Writable (ascii "follow service is not running") := by decide
    exact ⟨rfl, rfl, follow_sendable rfl supported writable UInt8.zero_le⟩
  · simp only at answered
    split at answered
    · cases answered
      exact ⟨sameKind, rfl, checked⟩
    · repeat' split at answered
      all_goals cases answered
      all_goals exact ⟨sameKind, rfl, declined _ _ (by decide)⟩

/-- What the service itself answers is delivered exactly when it fits. -/
theorem handled_delivered_iff (supplied : server.Supplied) (accepted : request.Accepted) :
    Delivered { server.service.handle server.control peer request with version := request.version } ↔
      server.AnswerFits peer request := by
  have service := supplied.service
  have supported := accepted.supported
  have late := accepted.late
  rw [handle, AnswerFits]
  cases kind : request.kind with
  | submit => exact submit_delivered_iff supported accepted.devices supplied.submitted
  | ps => exact ps_delivered_iff service supported
  | gpu => exact gpu_delivered_iff service supported
  | queue => exact iff_of_true (delivered_of_sendable (service.queue_sendable supported)) trivial
  | cancel => exact iff_of_true (delivered_of_sendable (cancel_sendable supported supplied.cancelled)) trivial
  | logs => exact iff_of_true (delivered_of_sendable (service.logs_sendable request.logs supported)) trivial
  | logsFollow =>
    have early : ¬(IpcRequestKind.logsFollow = .inspect ∧ request.version < 2) := not_early (by decide)
    refine iff_of_true (delivered_of_sendable (IpcResponse.blank_sendable supported early ?_)) trivial
    show Writable (ascii "streaming follow is not enabled on this endpoint")
    decide
  | tensorboard => exact iff_of_true (delivered_of_sendable (service.tensorboard_sendable _ supported)) trivial
  | inspect =>
    have new : ¬request.version < 2 := fun old => late ⟨kind, old⟩
    exact iff_of_true (delivered_of_sendable (service.inspect_sendable _ supported new)) trivial

/-- The server sends what was answered, in the version and with the kind of the request, exactly when the answer
fits a frame. -/
theorem serve_delivers_iff (server : UdsIpcServer) (peer : PeerCredentials) (payload : ByteString)
    (request : IpcRequest) (answer : IpcResponse) (supplied : server.Supplied)
    (decoded : decodeRequestPayload payload = .ok request) (answered : server.answer peer request = some answer) :
    (∃ written, server.serve peer payload = some written ∧ decodeResponsePayload written = .ok answer.carried ∧
      answer.carried.version = request.version ∧ answer.carried.kind = request.kind ∧
      answer.carried.error = answer.error ∧ answer.carried.detail = answer.detail) ↔
      server.AnswerFits peer request := by
  have accepted := decodeRequestPayload_accepted decoded
  have wrote : server.serve peer payload = writeResponse answer := by
    rw [serve, decoded]
    simp only [answered, Option.bind_some]
  obtain ⟨sameKind, sameVersion, sameError, sameDetail⟩ := answer.carried_head
  have delivered : (Delivered answer ∧ answer.version = request.version ∧ answer.kind = request.kind) ↔
      server.AnswerFits peer request := by
    rw [UdsIpcServer.answer] at answered
    split at answered
    · rename_i delegated
      by_cases follow : request.kind = .logsFollow
      · obtain ⟨kind, version, sendable⟩ := beginStream_declined accepted.supported follow answered
        refine iff_of_true ⟨delivered_of_sendable sendable, version, kind.trans follow.symm⟩ ?_
        rw [AnswerFits, follow]
        trivial
      · rw [if_neg follow] at delegated
        cases delegated
    · cases answered
      rw [handled_delivered_iff supplied accepted]
      exact and_iff_left ⟨rfl, server.service.handle_kind server.control peer request⟩
  rw [← delivered, wrote]
  constructor
  · rintro ⟨written, atWritten, read, version, kind, _⟩
    exact ⟨⟨written, atWritten, read⟩, sameVersion.symm.trans version, sameKind.symm.trans kind⟩
  · rintro ⟨⟨written, atWritten, read⟩, version, kind⟩
    exact ⟨written, atWritten, read, sameVersion.trans version, sameKind.trans kind, sameError, sameDetail⟩

/-- A server over a store that observes these devices, all of them free. -/
def serving (state : StoreState) (devices : List GpuUuid) : UdsIpcServer :=
  { service := { load := .ok state.snapshot, gpu := some (allFree devices) }
    control := IpcService.stoppedControl }

theorem serving_supplied {state : StoreState} {devices : List GpuUuid} (inv : StoreInvariant {} state)
    (running : ∀ record ∈ state.snapshot.jobs, record.execution.exit = none) (observed : (allFree devices).Valid) :
    (serving state devices).Supplied where
  service :=
    { config := show IpcServiceConfig.valid {} = true by decide
      store := fun snapshot load => ⟨{}, state, inv, (Except.ok.inj load).symm⟩
      exits := by
        intro _ load record member _ exit
        rw [← Except.ok.inj load] at member
        cases (running record member).symm.trans exit
      observed := fun _ found => Option.some.inj found ▸ observed
      targets := fun _ found => nomatch found }
  submitted := fun _ => show Writable [] by decide
  cancelled := fun _ => ⟨show Writable [] by decide, UInt8.zero_le⟩

def oneListed : UdsIpcServer := serving (submitAll {} [.training]) [⟨ascii "GPU-0"⟩]

theorem oneListed_supplied : oneListed.Supplied :=
  serving_supplied (submitAll_invariant {} _) (by decide +kernel) (by decide)

theorem serve_delivers_listing :
    let answer : IpcResponse := { oneListed.service.handlePs { uid := 1000 } with version := 2 }
    answer.jobs.map (·.argv) = [JobSpec.training.argv] ∧
      ∃ written, oneListed.serve { uid := 1000 } [2, 2] = some written ∧
        decodeResponsePayload written = .ok answer.carried ∧ answer.carried.version = 2 ∧ answer.carried.kind = .ps ∧
        answer.carried.error = answer.error ∧ answer.carried.detail = answer.detail := by
  refine ⟨by decide +kernel, ?_⟩
  refine (serve_delivers_iff oneListed { uid := 1000 } [2, 2] { kind := .ps, version := 2 } _ oneListed_supplied
    (by decide) rfl).mpr ?_
  intro _ load
  cases load
  decide +kernel

/-- A server over an empty store that observes no device. -/
def idleServer : UdsIpcServer := serving .initial []

/-- A number of so many digits. -/
def nines (count : Nat) : ByteString := List.replicate count 57

/-- A submission of version 3 whose device is a number of so many digits. -/
def indexRequest (count : Nat) : IpcRequest :=
  { kind := .submit, version := 3, submit := { gpuSpec := some (nines count) } }

theorem containsNul_nines : containsNul (nines count) = false := by
  have absent : nul ∉ nines count := fun inside => absurd (eq_of_mem_replicate inside) (by decide)
  simpa [containsNul] using absent

theorem splitOn_nines : (nines count).splitOn deviceComma = [nines count] := by
  refine splitOnP_eq_singleton fun byte inside => ?_
  rw [eq_of_mem_replicate inside]
  decide

theorem indexRequest_decoded (few : count ≤ 65530) :
    ∃ payload, decodeRequestPayload payload = .ok (indexRequest count) := by
  have length : (nines count).length = count := length_replicate
  have spec : ∀ inner, some (nines count) = some inner → Writable inner ∧ inner.length ≤ 65530 := by
    intro inner found
    rw [← Option.some.inj found, length]
    refine ⟨⟨?_, containsNul_nines⟩, few⟩
    rw [length, maxStringBytes]
    omega
  obtain ⟨_, ⟨piece, written, rfl⟩, within⟩ := optionalString_fits spec
  have body : ∃ fields, encodeRequestBody 3 (indexRequest count) = some fields ∧ fields.length = 20 + piece.length := by
    rw [indexRequest, encodeRequestBody, encodeSubmit]
    simp only [written]
    refine ⟨_, rfl, ?_⟩
    simp [IpcWriter.u8]
    omega
  obtain ⟨fields, atFields, total⟩ := body
  have fits : 2 + fields.length ≤ maxPayloadBytes := by
    rw [total, maxPayloadBytes]
    omega
  have supported : ipcVersionSupported 3 = true := by decide
  obtain ⟨payload, encoded⟩ := (@encodePayload_sized .submit 3 _ _ supported ⟨fields, atFields, rfl⟩).mpr fits
  have decoded := decodeRequestPayload_encoded (show encodeRequestPayload (indexRequest count) = _ from encoded)
  exact ⟨payload, decoded.trans (if_neg fun both => by cases both.1)⟩

theorem indexRequest_refused (some : 0 < count) :
    idleServer.service.handleSubmit idleServer.control peer (indexRequest count).submit =
      errorResponse .submit .invalidSpec (ascii "GPU_INDEX_NOT_FOUND: " ++ nines count) := by
  have digits : (nines count).all digit = true := by
    rw [all_eq_true]
    intro _ inside
    rw [eq_of_mem_replicate inside]
    decide
  have present : nines count ≠ [] := ne_nil_of_length_pos (by rw [nines, length_replicate]; exact some)
  have unknown : UnknownIndex (allFree []) (nines count) :=
    ⟨present, digits, fun _ member => nomatch member⟩
  have entries : resolveGpuSpecList (nines count) (allFree []) =
      .error (ascii "GPU_INDEX_NOT_FOUND: " ++ nines count) := by
    rw [resolveGpuSpecList_error, splitOn_nines, resolveGpuEntries, resolveGpuSpec_unknown unknown]
    rfl
  have refused : idleServer.service.placementOf (indexRequest count).submit =
      .error (.invalidSpec, ascii "GPU_INDEX_NOT_FOUND: " ++ nines count) := by
    rw [placementOf_required rfl rfl]
    show ((resolveGpuSpecList (nines count) (allFree [])).mapError _ >>= _) = _
    rw [entries]
    rfl
  rw [handleSubmit, admitSubmit_unplaced refused]

theorem indexRequest_replaced (many : 65516 ≤ count) (few : count ≤ 65530) :
    ∃ payload answer written replacement, decodeRequestPayload payload = .ok (indexRequest count) ∧
      idleServer.answer peer (indexRequest count) = some answer ∧ answer.version = 3 ∧ answer.error = .invalidSpec ∧
      idleServer.serve peer payload = some written ∧ decodeResponsePayload written = .ok replacement ∧
      replacement.version = 4 ∧ replacement.error = .internal := by
  obtain ⟨payload, decoded⟩ := indexRequest_decoded few
  let answer : IpcResponse :=
    { kind := .submit, version := 3, error := .invalidSpec, detail := ascii "GPU_INDEX_NOT_FOUND: " ++ nines count }
  have answered : idleServer.answer peer (indexRequest count) = some answer := by
    have handled : idleServer.service.handle idleServer.control peer (indexRequest count) = _ :=
      indexRequest_refused (by omega)
    show some ({ idleServer.service.handle idleServer.control peer (indexRequest count) with version := 3 } :
      IpcResponse) = _
    rw [handled]
    rfl
  have long : answer.detail.length > maxStringBytes := by
    rw [length_append, nines, length_replicate, show (ascii "GPU_INDEX_NOT_FOUND: ").length = 21 from rfl,
      maxStringBytes]
    omega
  obtain ⟨written, replacement, wrote, read, version, error, _⟩ :=
    writeResponse_replaced (encodeResponsePayload_refused long)
  refine ⟨payload, answer, written, replacement, decoded, answered, rfl, rfl, ?_, read, version, error⟩
  rw [serve, decoded]
  simp only [answered, Option.bind_some]
  exact wrote

/-- The refusal of a number of 65530 digits does not fit a string, so that a client of version 3 reads an internal
error of version 4. -/
theorem long_index_answered_internal :
    idleServer.Supplied ∧ ∃ payload answer written replacement,
      decodeRequestPayload payload = .ok (indexRequest 65530) ∧
      idleServer.answer { uid := 1000 } (indexRequest 65530) = some answer ∧ answer.version = 3 ∧
      answer.error = .invalidSpec ∧ idleServer.serve { uid := 1000 } payload = some written ∧
      decodeResponsePayload written = .ok replacement ∧ replacement.version = 4 ∧ replacement.error = .internal :=
  ⟨serving_supplied (.initial {}) (fun _ member => nomatch member) (by decide),
    indexRequest_replaced (by omega) (by omega)⟩

end UdsIpcServer

end Yori
