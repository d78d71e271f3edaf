import Yori.Ipc.ResponseCodec
import Yori.JobChecks
import Yori.Store.ExecutionSpec

/-! How many bytes the fields of a response take, and when they are written at all. -/

namespace Yori
open Parsing IpcWriter IpcProtocolLimits JobSpecLimits List GpuUuid

variable {value : ByteString} {limit count bound : Nat} {α : Type} {values : List α} {response : IpcResponse}
  {version : UInt8} {size : α → Nat} {write : α → Option ByteString}

namespace Wire

/-- The strings that `Writer::string` accepts. -/
def Writable (value : ByteString) : Prop :=
  value.length ≤ maxStringBytes ∧ ByteString.containsNul value = false

theorem string_sized (writable : Writable value) : Sized (IpcWriter.string value) (4 + value.length) := by
  have accepted : ¬(value.length > maxStringBytes ∨ ByteString.containsNul value = true) := by
    rintro (long | nul)
    · have short := writable.1
      omega
    · rw [writable.2] at nul
      cases nul
  rw [IpcWriter.string, if_neg accepted]
  exact Sized.of_length (by rw [length_append, length_u32])

theorem u8_sized (value : UInt8) : Sized (some (IpcWriter.u8 value)) 1 := Sized.written _

theorem u32_sized (value : Nat) : Sized (some (IpcWriter.u32 value)) 4 := Sized.of_length (length_u32 value)

theorem u64_sized (value : Nat) : Sized (some (u64 value)) 8 := Sized.of_length (length_u64 value)

theorem flag_sized (value : Bool) : Sized (some (IpcWriter.flag value)) 1 := Sized.written _

/-- The size of a field behind a flag that says whether it is there. -/
def optionalBytes {α : Type} (size : α → Nat) (value : Option α) : Nat := 1 + (value.map size).getD 0

theorem optional_sized {α : Type} {write : α → Option ByteString} {size : α → Nat} {value : Option α}
    (each : ∀ inner, value = some inner → Sized (write inner) (size inner)) :
    Sized (IpcWriter.optional write value) (optionalBytes size value) := by
  cases value with
  | none => exact u8_sized 0
  | some inner => exact Sized.inTurn (.cons (u8_sized 1) (.cons (each inner rfl) .nil))

theorem counted_sized (each : ∀ value ∈ values, Sized (write value) (size value)) :
    Sized (IpcWriter.counted write values) (4 + (values.map size).sum) := by
  obtain ⟨rest, atRest, length⟩ := Sized.inTurn_map each
  refine ⟨IpcWriter.u32 values.length ++ rest, inTurn_cons_eq_some.mpr ⟨_, rest, rfl, atRest, rfl⟩, ?_⟩
  rw [length_append, length_u32, length]

def stringBytes (value : ByteString) : Nat := 4 + value.length

theorem optionalString_sized {value : Option ByteString} (writable : ∀ inner, value = some inner → Writable inner) :
    Sized (IpcWriter.optional IpcWriter.string value) (optionalBytes stringBytes value) :=
  optional_sized fun inner found => string_sized (writable inner found)

theorem strings_sized {values : List ByteString} (writable : ∀ value ∈ values, Writable value) :
    Sized (IpcWriter.counted IpcWriter.string values) (4 + (values.map stringBytes).sum) :=
  counted_sized fun value member => string_sized (writable value member)

theorem exitStatus_sized (exit : IpcExitStatus) : Sized (IpcWriter.exitStatus exit) 5 := by
  have code : Sized (some (IpcWriter.i32 exit.code)) 4 := u32_sized _
  exact Sized.inTurn (.cons (flag_sized exit.exitedNormally) (.cons code .nil))

end Wire

/-- What the head and the limit add to the size of a body. -/
theorem encodePayload_sized {kind : IpcRequestKind} {version : UInt8} {body : Option ByteString} {size : Nat}
    (supported : ipcVersionSupported version = true) (sized : Sized body size) :
    (∃ payload, encodePayload kind version body = some payload) ↔ 2 + size ≤ maxPayloadBytes := by
  obtain ⟨fields, rfl, rfl⟩ := sized
  have whole : inTurn [some (u8 version), some (u8 kind.wire), some fields] =
      some (version :: kind.wire :: fields) := by
    simp [inTurn, u8]
  rw [encodePayload, supported]
  simp only [Bool.not_true, Bool.false_eq_true, if_false, whole, Option.bind_eq_bind, Option.bind_some,
    length_cons]
  by_cases long : fields.length + 1 + 1 > maxPayloadBytes
  · rw [if_pos long]
    constructor
    · rintro ⟨_, none⟩
      cases none
    · intro short
      omega
  · rw [if_neg long]
    exact ⟨fun _ => by omega, fun _ => ⟨_, rfl⟩⟩

/-- A response is sent as it is exactly when it fits a frame. -/
theorem encodeResponsePayload_sized {size : Nat} (supported : ipcVersionSupported response.version = true)
    (detail : Wire.Writable response.detail) (fields : Sized (encodeResponseFields response.version response) size) :
    (∃ payload, encodeResponsePayload response = some payload) ↔
      7 + response.detail.length + size ≤ maxPayloadBytes := by
  have body : Sized (encodeResponseBody response.version response) _ :=
    Sized.inTurn (.cons (Wire.u8_sized _) (.cons (Wire.string_sized detail) (.cons fields .nil)))
  rw [encodeResponsePayload, encodePayload_sized supported body, sum_cons, sum_cons, sum_singleton]
  constructor <;> intro fits <;> omega

theorem encodeResponsePayload_refused (long : response.detail.length > maxStringBytes) :
    encodeResponsePayload response = none := by
  cases encoded : encodeResponsePayload response with
  | none => rfl
  | some =>
    obtain ⟨_, _, _, written, _⟩ := encodePayload_eq_some encoded
    obtain ⟨_, _, _, later, _⟩ := inTurn_cons_eq_some.mp written
    obtain ⟨_, _, atDetail, _⟩ := inTurn_cons_eq_some.mp later
    rw [string, if_pos (.inl long)] at atDetail
    cases atDetail

/-! The entries of the lists. -/

def waitBytes (version : UInt8) (detail : Option ByteString) : Nat :=
  if version ≥ 3 then 1 + Wire.optionalBytes Wire.stringBytes detail else 0

/-- What a summary shows only to owners and administrators. -/
def shownBytes (summary : IpcJobSummary) : Nat :=
  if summary.masked then 0
  else 8 + (summary.argv.map Wire.stringBytes).sum + summary.cwd.length +
    Wire.optionalBytes Wire.stringBytes summary.tensorboardLogdir

def summaryBytes (version : UInt8) (summary : IpcJobSummary) : Nat :=
  22 + shownBytes summary + Wire.optionalBytes (fun _ => 5) summary.exit + waitBytes version summary.waitDetail

/-- The strings of a summary that the protocol can carry. -/
structure IpcJobSummary.Plain (summary : IpcJobSummary) : Prop where
  few : summary.argv.length ≤ maxItemCount
  argv : ∀ argument ∈ summary.argv, Wire.Writable argument
  cwd : Wire.Writable summary.cwd
  logdir : ∀ path, summary.tensorboardLogdir = some path → Wire.Writable path
  reason : summary.waitReason ≤ underlyingWaitReasonMax
  target : ∀ target, summary.waitDetail = some target → Wire.Writable target

theorem encodeJobSummary_sized {summary : IpcJobSummary} (plain : summary.Plain) :
    Sized (encodeJobSummary version summary) (summaryBytes version summary) := by
  have shown : Sized (if summary.masked then some [] else inTurn [IpcWriter.counted IpcWriter.string summary.argv,
      IpcWriter.string summary.cwd, IpcWriter.optional IpcWriter.string summary.tensorboardLogdir])
      (if summary.masked then 0 else (4 + (summary.argv.map Wire.stringBytes).sum) + ((4 + summary.cwd.length) +
        (Wire.optionalBytes Wire.stringBytes summary.tensorboardLogdir + 0))) :=
    Sized.ite (fun _ => Sized.written []) fun _ => Sized.inTurn (.cons (Wire.strings_sized plain.argv)
      (.cons (Wire.string_sized plain.cwd) (.cons (Wire.optionalString_sized plain.logdir) .nil)))
  have waits : Sized (encodeWait version summary.waitReason summary.waitDetail)
    (waitBytes version summary.waitDetail) := by
    refine Sized.ite (fun _ => ?_) fun _ => Sized.written []
    have all := Sized.inTurn (.cons (Sized.unrefused (UInt8.not_lt.mpr plain.reason))
      (.cons (Wire.u8_sized summary.waitReason) (.cons (Wire.optionalString_sized plain.target) .nil)))
    simpa using all
  have all := Sized.inTurn (.cons (Sized.unrefused (Nat.not_lt.mpr plain.few))
      (.cons (Wire.u64_sized summary.jobId.toNat)
    (.cons (Wire.u8_sized summary.state) (.cons (Wire.u32_sized summary.ownerUid.toNat)
      (.cons (Wire.u64_sized summary.revision.toNat) (.cons (Wire.flag_sized summary.masked) (.cons shown
        (.cons (@Wire.optional_sized _ _ _ summary.exit fun inner _ => Wire.exitStatus_sized inner)
          (.cons waits .nil)))))))))
  have total : summaryBytes version summary = [0, 8, 1, 4, 8, 1, if summary.masked then 0 else
      (4 + (summary.argv.map Wire.stringBytes).sum) + ((4 + summary.cwd.length) +
        (Wire.optionalBytes Wire.stringBytes summary.tensorboardLogdir + 0)),
      Wire.optionalBytes (fun _ => 5) summary.exit, waitBytes version summary.waitDetail].sum := by
    simp only [summaryBytes, shownBytes, sum_cons, sum_nil]
    split <;> omega
  rw [total]
  exact all

/-! Bounds for what is not listed job by job. -/

namespace Wire

theorem string_fits (writable : Writable value) (short : value.length ≤ limit) :
    AtMost (IpcWriter.string value) (4 + limit) :=
  (string_sized writable).fits.mono (Nat.add_le_add_left short 4)

theorem writable_of_short (short : value.length ≤ limit) (clean : ByteString.containsNul value = false)
    (allowed : limit ≤ maxStringBytes) :
    Writable value ∧ value.length ≤ limit := ⟨⟨short.trans allowed, clean⟩, short⟩

theorem bytes_fits (short : value.length ≤ limit) (allowed : limit ≤ maxBytesFieldBytes) :
    AtMost (IpcWriter.bytes value) (4 + limit) := by
  have accepted : ¬value.length > maxBytesFieldBytes := by omega
  refine ⟨4 + value.length, ?_, Nat.add_le_add_left short 4⟩
  rw [IpcWriter.bytes, if_neg accepted]
  exact Sized.of_length (by rw [length_append, length_u32])

theorem optional_fits {value : Option α} (each : ∀ inner, value = some inner → AtMost (write inner) bound) :
    AtMost (IpcWriter.optional write value) (1 + bound) := by
  cases value with
  | none => exact (u8_sized 0).fits.mono (Nat.le_add_right 1 bound)
  | some inner => exact AtMost.inTurn (.cons (u8_sized 1).fits (.cons (each inner rfl) .nil))

theorem optionalString_fits {value : Option ByteString}
    (each : ∀ inner, value = some inner → Writable inner ∧ inner.length ≤ limit) :
    AtMost (IpcWriter.optional IpcWriter.string value) (1 + (4 + limit)) :=
  optional_fits fun inner found => string_fits (each inner found).1 (each inner found).2

theorem counted_fits {limit : α → Nat} (each : ∀ value ∈ values, AtMost (write value) (limit value)) :
    AtMost (IpcWriter.counted write values) (4 + (values.map limit).sum) := by
  obtain ⟨_, sized, within⟩ := AtMost.inTurn_map each
  obtain ⟨rest, atRest, rfl⟩ := sized
  refine ⟨_, ⟨_, inTurn_cons_eq_some.mpr ⟨_, rest, rfl, atRest, rfl⟩, rfl⟩, ?_⟩
  rw [length_append, length_u32]
  exact Nat.add_le_add_left within 4

/-- So many values of at most so many bytes each. -/
theorem sum_le {limit : α → Nat} (few : values.length ≤ count) (each : ∀ value ∈ values, limit value ≤ bound) :
    (values.map limit).sum ≤ count * bound := by
  have all := sum_le_card_nsmul (values.map limit) bound (forall_mem_map.mpr each)
  rw [length_map] at all
  exact Nat.le_trans all (Nat.mul_le_mul_right bound few)

/-- Values of so many bytes in all, and so many more for each. -/
theorem counted_bounded {each total : Nat} (few : values.length ≤ count) (within : (values.map size).sum ≤ total)
    (fits : ∀ value ∈ values, AtMost (write value) (each + size value)) :
    AtMost (IpcWriter.counted write values) (4 + (count * each + total)) := by
  have sum : (values.map fun value => each + size value).sum = values.length * each + (values.map size).sum := by
    rw [sum_map_add, map_const', sum_replicate_nat]
  have most := Nat.mul_le_mul_right each few
  exact (counted_fits fits).mono (by omega)

theorem arguments_fit {argv : List ByteString} (few : argv.length ≤ maxArgumentCount)
    (writable : ∀ argument ∈ argv, Writable argument) (total : argumentBytes argv ≤ maxArgumentBytes) :
    AtMost (IpcWriter.counted IpcWriter.string argv)
      (4 + (maxArgumentCount * 4 + maxArgumentBytes)) :=
  counted_bounded few total fun argument member => string_fits (writable argument member) (Nat.le_refl _)

theorem envMetadata_fits {value : Option IpcEnvMetadata}
    (each : ∀ metadata, value = some metadata → metadata.source ≤ 2 ∧
      ∀ version, metadata.pythonVersion = some version →
        Writable version ∧ version.length ≤ maxPythonVersionBytes) :
    AtMost (IpcWriter.optional IpcWriter.envMetadata value) (1 + (1 + (1 + (4 + maxPythonVersionBytes)))) := by
  refine optional_fits fun metadata found => ?_
  obtain ⟨known, python⟩ := each metadata found
  have all := AtMost.inTurn (.cons (Sized.unrefused (UInt8.not_lt.mpr known)).fits
    (.cons (u8_sized metadata.source).fits (.cons (optionalString_fits python) .nil)))
  exact all.mono (by simp only [sum_cons, sum_nil]; omega)

end Wire

theorem encodeWait_fits {reason : UInt8} {detail : Option ByteString} (known : reason ≤ underlyingWaitReasonMax)
    (each : ∀ target, detail = some target → Wire.Writable target ∧ target.length ≤ limit) :
    AtMost (encodeWait version reason detail) (6 + limit) := by
  refine AtMost.ite (fun _ => ?_) fun _ => (Sized.written []).fits.mono (Nat.zero_le _)
  have all := AtMost.inTurn (.cons (Sized.unrefused (UInt8.not_lt.mpr known)).fits (.cons (Wire.u8_sized reason).fits
    (.cons (Wire.optionalString_fits each) .nil)))
  exact all.mono (by simp only [sum_cons, sum_nil]; omega)

/-- A device name is short. -/
theorem GpuUuid.writable {uuid : GpuUuid} (valid : uuid.valid = true) :
    Wire.Writable uuid.value ∧ uuid.value.length ≤ maxBytes := by
  simp only [GpuUuid.valid, Bool.and_eq_true, decide_eq_true_eq, Bool.not_eq_eq_eq_not, Bool.not_true] at valid
  exact ⟨⟨valid.1.2.trans (by decide), valid.2⟩, valid.1.2⟩

theorem encodeQueueEntry_fits {entry : IpcQueueEntry} (known : entry.waitReason ≤ underlyingWaitReasonMax)
    (each : ∀ target, entry.waitDetail = some target → Wire.Writable target ∧ target.length ≤ limit) :
    AtMost (encodeQueueEntry version entry) (27 + limit) := by
  have waits : AtMost (encodeWait version entry.waitReason entry.waitDetail) (6 + limit) := encodeWait_fits known each
  have all := AtMost.inTurn (.cons (Wire.u64_sized entry.jobId.toNat).fits
      (.cons (Wire.u32_sized entry.ownerUid.toNat).fits
    (.cons (Wire.u64_sized entry.submitTimeUnixNs.toNat).fits (.cons (Wire.u8_sized entry.state).fits
      (.cons waits .nil)))))
  exact all.mono (by simp only [sum_cons, sum_nil]; omega)

theorem encodeGpuDevice_fits {device : IpcGpuDevice} (writable : Wire.Writable device.uuid)
    (short : device.uuid.length ≤ limit) : AtMost (encodeGpuDevice device) (41 + limit) := by
  have percent : AtMost (IpcWriter.optional (fun percent : UInt32 => some (IpcWriter.u32 percent.toNat))
      device.utilizationPercent) (1 + 4) := Wire.optional_fits fun percent _ => (Wire.u32_sized percent.toNat).fits
  have memory : AtMost (IpcWriter.optional (fun memory : UInt64 × UInt64 => inTurn [some (u64 memory.1.toNat),
      some (u64 memory.2.toNat)]) device.memory) (1 + 16) :=
    Wire.optional_fits fun memory _ => AtMost.inTurn (.cons (Wire.u64_sized memory.1.toNat).fits
      (.cons (Wire.u64_sized memory.2.toNat).fits .nil))
  have lease : AtMost (IpcWriter.optional (fun job : UInt64 => some (u64 job.toNat)) device.leasedByJob)
      (1 + 8) := Wire.optional_fits fun job _ => (Wire.u64_sized job.toNat).fits
  have all := AtMost.inTurn (.cons (Wire.string_fits writable short) (.cons (Wire.u32_sized device.index.toNat).fits
    (.cons (Wire.u8_sized device.observedState).fits (.cons (Wire.u8_sized device.logicalState).fits
      (.cons percent (.cons memory (.cons lease .nil)))))))
  exact all.mono (by simp only [sum_cons, sum_nil]; omega)

/-- Lists whose entries are bounded. -/
theorem encodeEntries_fits {entries : List α} (few : entries.length ≤ count) (allowed : count ≤ maxListItems)
    (each : ∀ entry ∈ entries, AtMost (write entry) bound) :
    AtMost (encodeEntries write entries) (4 + count * bound) := by
  have total : (entries.map fun _ => bound).sum ≤ count * bound := Wire.sum_le few fun _ _ => Nat.le_refl bound
  have all := AtMost.inTurn (.cons (Sized.unrefused (Nat.not_lt.mpr (Nat.le_trans few allowed))).fits
    (.cons (Wire.counted_fits each) .nil))
  exact all.mono (by simp only [sum_cons, sum_nil]; omega)

theorem encodeLogs_fits {logs : IpcLogsPayload} (stdout : logs.stdoutTail.length ≤ limit)
    (stderr : logs.stderrTail.length ≤ limit) (allowed : limit ≤ maxBytesFieldBytes) :
    AtMost (encodeLogs logs) (10 + 2 * limit) := by
  have all := AtMost.inTurn (.cons (Wire.flag_sized logs.stdoutTruncated).fits (.cons (Wire.bytes_fits stdout allowed)
    (.cons (Wire.flag_sized logs.stderrTruncated).fits (.cons (Wire.bytes_fits stderr allowed) .nil))))
  exact all.mono (by simp only [sum_cons, sum_nil]; omega)

theorem encodeEnvEntry_fits {entry : IpcEnvEntry} (name : Wire.Writable entry.name)
    (value : Wire.Writable entry.value) :
    AtMost (encodeEnvEntry entry) (9 + entry.name.length + entry.value.length) := by
  have all := AtMost.inTurn (.cons (Wire.string_sized name).fits (.cons (Wire.flag_sized entry.masked).fits
    (.cons (Wire.string_sized value).fits .nil)))
  exact all.mono (by simp only [sum_cons, sum_nil]; omega)

theorem encodePlacementDevices_fits {devices : List ByteString} (few : devices.length ≤ count)
    (allowed : count ≤ maxItemCount)
    (each : ∀ device ∈ devices, Wire.Writable device ∧ device.length ≤ limit) :
    AtMost (encodePlacementDevices devices) (1 + count * (4 + limit)) := by
  have names := AtMost.inTurn_map fun device member => Wire.string_fits (each device member).1 (each device member).2
  have total : (devices.map fun _ => 4 + limit).sum ≤ count * (4 + limit) :=
    Wire.sum_le few fun _ _ => Nat.le_refl _
  have head : AtMost (inTurn [refuseIf (devices.length > maxItemCount),
      some (IpcWriter.u8 (UInt8.ofNat devices.length))]) 1 :=
    AtMost.inTurn (.cons (Sized.unrefused (Nat.not_lt.mpr (Nat.le_trans few allowed))).fits
      (.cons (Wire.u8_sized _).fits .nil))
  exact (head.inTurn_append names).mono (by omega)

/-! The texts of a specification that passed its check. -/

namespace JobSpec.Checked

variable {spec : JobSpec} (checked : spec.Checked) {path : ByteString}
include checked

theorem cwd_writable : Wire.Writable spec.cwd ∧ spec.cwd.length ≤ maxWorkingDirectoryBytes :=
  Wire.writable_of_short checked.cwd.1 checked.cwd.2.1 (by decide)

theorem argv_writable : ∀ argument ∈ spec.argv, Wire.Writable argument := by
  intro argument inside
  obtain ⟨clean, short⟩ := checked.arguments argument inside
  exact (Wire.writable_of_short short clean (by decide)).1

theorem executable_writable (found : spec.executable = some path) :
    Wire.Writable path ∧ path.length ≤ maxExecutableBytes := by
  obtain ⟨short, clean, _⟩ := checked.executable path found
  exact Wire.writable_of_short short clean (by decide)

theorem logdir_writable (found : spec.tensorboardLogdir = some path) :
    Wire.Writable path ∧ path.length ≤ maxTensorboardLogdirBytes := by
  obtain ⟨short, clean⟩ := checked.tensorboardLogdir path found
  exact Wire.writable_of_short short clean (by decide)

theorem variable_writable {entry : ByteString × ByteString} (inside : entry ∈ spec.env.entries) :
    Wire.Writable entry.1 ∧ Wire.Writable entry.2 := by
  obtain ⟨name, shortName, short, clean⟩ := checked.environment entry inside
  simp only [isValidEnvironmentName, Bool.and_eq_true, Bool.not_eq_true'] at name
  exact ⟨⟨shortName.trans (by decide), name.1.2⟩, ⟨short.trans (by decide), clean⟩⟩

theorem metadata_writable {metadata : IpcEnvMetadata}
    (found : (spec.envMetadata.map fun metadata => (⟨metadata.source.wire, metadata.pythonVersion⟩ : IpcEnvMetadata)) =
      some metadata) :
    metadata.source ≤ 2 ∧ ∀ version, metadata.pythonVersion = some version →
      Wire.Writable version ∧ version.length ≤ maxPythonVersionBytes := by
  obtain ⟨source, atSource, rfl⟩ := Option.map_eq_some_iff.mp found
  refine ⟨?_, fun python atPython => ?_⟩
  · show source.source.wire ≤ 2
    cases source.source <;> decide
  · obtain ⟨short, clean⟩ := checked.pythonVersion python (by rw [atSource]; exact atPython)
    exact Wire.writable_of_short short clean (by decide)

end JobSpec.Checked

/-- The strings of an inspection within the limits of a specification and of a stored record. -/
structure IpcInspectPayload.Plain (inspect : IpcInspectPayload) : Prop where
  cwd : Wire.Writable inspect.cwd ∧ inspect.cwd.length ≤ maxWorkingDirectoryBytes
  executable : ∀ path, inspect.executable = some path →
    Wire.Writable path ∧ path.length ≤ maxExecutableBytes
  few : inspect.argv.length ≤ maxArgumentCount
  argv : ∀ argument ∈ inspect.argv, Wire.Writable argument
  total : argumentBytes inspect.argv ≤ maxArgumentBytes
  metadata : ∀ metadata, inspect.envMetadata = some metadata → metadata.source ≤ 2 ∧
    ∀ version, metadata.pythonVersion = some version →
      Wire.Writable version ∧ version.length ≤ maxPythonVersionBytes
  fewNames : inspect.env.length ≤ maxEnvironmentVariables
  env : ∀ entry ∈ inspect.env, Wire.Writable entry.name ∧ Wire.Writable entry.value
  environment : (inspect.env.map fun entry => entry.name.length + entry.value.length).sum ≤
    maxEnvironmentBytes + 3 * maxEnvironmentVariables
  gpu : ∀ uuid, inspect.gpuUuid = some uuid → Wire.Writable uuid ∧ uuid.length ≤ maxBytes
  logPath : ∀ path, inspect.logPath = some path → Wire.Writable path ∧ path.length ≤ JobExecutionLimits.maxLogPathBytes
  mode : inspect.gpuPlacementMode ≤ underlyingGpuPlacementModeMax
  device : ∀ uuid, inspect.gpuPlacementDevice = some uuid → Wire.Writable uuid ∧ uuid.length ≤ maxBytes
  count : inspect.gpuPlacementDevices.length ≤ maxPlacementDevices
  devices : ∀ uuid ∈ inspect.gpuPlacementDevices, Wire.Writable uuid ∧ uuid.length ≤ maxBytes

namespace IpcInspectPayload.Plain

variable {version : UInt8} {inspect : IpcInspectPayload}

section

variable (plain : inspect.Plain)
include plain

theorem env_fits : AtMost (IpcWriter.counted encodeEnvEntry inspect.env)
    (4 + (maxEnvironmentVariables * 9 +
      (maxEnvironmentBytes + 3 * maxEnvironmentVariables))) := by
  refine Wire.counted_bounded plain.fewNames plain.environment fun entry member => ?_
  rw [← Nat.add_assoc]
  exact encodeEnvEntry_fits (plain.env entry member).1 (plain.env entry member).2

theorem placement_fits :
    AtMost (if version ≥ 3 then
      inTurn [refuseIf (inspect.gpuPlacementMode > underlyingGpuPlacementModeMax),
        some (IpcWriter.u8 inspect.gpuPlacementMode), IpcWriter.optional IpcWriter.string inspect.gpuPlacementDevice]
      else some []) (1 + (1 + (4 + maxBytes))) := by
  refine AtMost.ite (fun _ => ?_) fun _ => (Sized.written []).fits.mono (Nat.zero_le _)
  have all := AtMost.inTurn (.cons (Sized.unrefused (UInt8.not_lt.mpr plain.mode)).fits
    (.cons (Wire.u8_sized inspect.gpuPlacementMode).fits (.cons (Wire.optionalString_fits plain.device) .nil)))
  exact all.mono (by simp only [sum_cons, sum_nil]; omega)

/-- An inspection takes less than half of a frame. -/
theorem fits (new : ¬version < 2) : AtMost (encodeInspect version inspect) 400000 := by
  have counts : ¬(inspect.argv.length > maxItemCount ∨
      inspect.env.length > maxListItems) := by
    have few := plain.few.trans (show _ ≤ maxItemCount by decide)
    have names := plain.fewNames.trans (show _ ≤ maxListItems by decide)
    omega
  have index : AtMost (IpcWriter.optional (fun index : UInt32 => some (IpcWriter.u32 index.toNat)) inspect.gpuIndex)
      (1 + 4) := Wire.optional_fits fun index _ => (Wire.u32_sized index.toNat).fits
  have exit : AtMost (IpcWriter.optional IpcWriter.exitStatus inspect.exit) (1 + 5) :=
    Wire.optional_fits fun exit _ => (Wire.exitStatus_sized exit).fits
  have head : AtMost (inTurn (encodeInspectPieces version inspect)) _ := AtMost.inTurn
    (.cons (Sized.unrefused new).fits (.cons (Sized.unrefused counts).fits
      (.cons (Wire.u64_sized inspect.jobId.toNat).fits (.cons (Wire.u8_sized inspect.state).fits
        (.cons (Wire.u32_sized inspect.ownerUid.toNat).fits (.cons (Wire.u64_sized inspect.revision.toNat).fits
          (.cons (Wire.string_fits plain.cwd.1 plain.cwd.2) (.cons (Wire.optionalString_fits plain.executable)
            (.cons (Wire.arguments_fit plain.few plain.argv plain.total)
              (.cons (Wire.envMetadata_fits plain.metadata) (.cons plain.env_fits
              (.cons (Wire.optionalString_fits plain.gpu) (.cons index
                (.cons (Wire.u64_sized inspect.submitTimeUnixNs.toNat).fits (.cons exit
                  (.cons (Wire.optionalString_fits plain.logPath) (.cons plain.placement_fits .nil)))))))))))))))))
  have tail : AtMost (inTurn [if version ≥ 4 then encodePlacementDevices inspect.gpuPlacementDevices else some []]) _ :=
    AtMost.inTurn (.cons (AtMost.ite (fun _ => encodePlacementDevices_fits plain.count (by decide) plain.devices)
      fun _ => (Sized.written []).fits.mono (Nat.zero_le _)) .nil)
  exact (head.inTurn_append tail).mono (by decide +kernel)

end

end IpcInspectPayload.Plain

end Yori
