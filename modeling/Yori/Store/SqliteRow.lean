import Yori.Library.Framing
import Yori.Store.Record

namespace Yori
open Checked ByteString MachineWord

/-- A row of `yori_jobs`. Integer columns hold numbers of 64 bits, texts that
may be missing are SQL `NULL` then. -/
structure JobRow where
  jobId : Int
  state : Int
  revision : Int
  ownerUid : Int
  ownerGid : Int
  argv : ByteString
  cwd : ByteString
  env : ByteString
  gpuRequest : Int
  launchProfile : Option ByteString
  tensorboardLogdir : Option ByteString
  submitTimeNanos : Int
  pid : Int
  pgid : Int
  startTicks : Int
  hasStartTime : Int
  startTimeNanos : Int
  hasEndTime : Int
  endTimeNanos : Int
  hasExit : Int
  exitReason : Int
  exitCode : Int
  exitSignal : Int
  failureReason : Option ByteString
  logPath : Option ByteString
  executable : Option ByteString
  environmentType : Option ByteString
  pythonVersion : Option ByteString
  gpuPlacementMode : Option ByteString
  gpuPlacementDevice : Option ByteString
  gpuPlacementDevices : Option ByteString

def comma : UInt8 := 44

/-- Eight names of the largest size with seven commas between them. -/
def maxPlacementDevicesTextLength : Nat :=
  JobSpecLimits.maxPlacementDevices * GpuUuid.maxBytes + JobSpecLimits.maxPlacementDevices - 1

section Lists

/-- Environments are written as names and values in turn. -/
def maxEncodedItems : Nat := 2 * 256

/-- A length or a count, in four bytes. -/
def u32Le : PrefixCodec UInt8 Nat := LittleEndian.word 4

def encodeStringList (items : List ByteString) : ByteString := PrefixCodec.encodeList u32Le u32Le.block items

def decodeStringList (blob : ByteString) : Option (List ByteString) :=
  PrefixCodec.decodeList u32Le u32Le.block maxEncodedItems blob

def environmentItems (env : SortedMap ByteString ByteString) : List ByteString :=
  env.entries.flatMap fun entry => [entry.1, entry.2]

/-- Names and values in turn; none is left over. -/
def environmentPairs : List ByteString → Option (List (ByteString × ByteString))
  | [] => some []
  | [_] => none
  | name :: value :: rest => (environmentPairs rest).map ((name, value) :: ·)

def decodeEnvironment (blob : ByteString) : Option (SortedMap ByteString ByteString) := do
  let items ← decodeStringList blob
  let pairs ← environmentPairs items
  some (pairs.foldl (fun env entry => env.emplace entry.1 entry.2) .empty)

end Lists

section Codes

def JobState.index : JobState → Int
  | .queued => 0
  | .starting => 1
  | .running => 2
  | .stopping => 3
  | .finished => 4
  | .failed => 5
  | .cancelled => 6
  | .lost => 7

def JobState.ofIndex : Int → Option JobState
  | 0 => some .queued
  | 1 => some .starting
  | 2 => some .running
  | 3 => some .stopping
  | 4 => some .finished
  | 5 => some .failed
  | 6 => some .cancelled
  | 7 => some .lost
  | _ => none

def ExitReason.index : ExitReason → Int
  | .exited => 0
  | .signaled => 1
  | .unknown => 2

def ExitReason.ofIndex : Int → Option ExitReason
  | 0 => some .exited
  | 1 => some .signaled
  | 2 => some .unknown
  | _ => none

def EnvSource.toString : EnvSource → ByteString
  | .none => ascii "none"
  | .conda => ascii "conda"
  | .venv => ascii "venv"

def EnvSource.ofText (text : ByteString) : Option EnvSource :=
  if text = ascii "conda" then some .conda
  else if text = ascii "venv" then some .venv
  else if text = ascii "none" then some .none
  else none

/-- The clock counts nanoseconds, so nothing is lost either way. -/
def encodeTime (time : TimePoint) : Int := time

def decodeTime (nanos : Int) : TimePoint := nanos

end Codes

section Writing

/-- The three placement columns: the mode, the first or only device, and all
required devices with commas between them. -/
def placementColumns (placement : GpuPlacement) : Option ByteString × Option ByteString × Option ByteString :=
  let front := placement.devices.head?.map GpuUuid.value
  match placement.mode with
  | .any => (none, none, none)
  | .required =>
    (some (ascii "required"), front, some ([comma].intercalate (placement.devices.map GpuUuid.value)))
  | .preferred => (some (ascii "preferred"), front, none)

def flag {α : Type} (field : Option α) : Int := if field.isSome then 1 else 0

/-- The row that `write_job_row` binds for a record. -/
def writeJobRow (record : StoredJob) : JobRow :=
  let spec := record.spec
  let execution := record.execution
  let placement := placementColumns spec.gpuPlacement
  { jobId := signed record.id.value
    state := record.state.index
    revision := signed record.revision
    ownerUid := spec.ownerUid.toNat
    ownerGid := spec.ownerGid.toNat
    argv := encodeStringList spec.argv
    cwd := spec.cwd
    env := encodeStringList (environmentItems spec.env)
    gpuRequest := spec.gpuRequest.toNat
    launchProfile := spec.launchProfile
    tensorboardLogdir := spec.tensorboardLogdir
    submitTimeNanos := encodeTime spec.submitTime
    pid := execution.identity.pid
    pgid := execution.identity.pgid
    startTicks := signed execution.identity.startTicks
    hasStartTime := flag execution.startTime
    startTimeNanos := (execution.startTime.map encodeTime).getD 0
    hasEndTime := flag execution.endTime
    endTimeNanos := (execution.endTime.map encodeTime).getD 0
    hasExit := flag execution.exit
    exitReason := (execution.exit.map fun status => status.reason.index).getD 0
    exitCode := (execution.exit.map ExitStatus.exitCode).getD 0
    exitSignal := (execution.exit.map ExitStatus.signalNumber).getD 0
    failureReason := execution.failureReason
    logPath := execution.logPath
    executable := spec.executable
    environmentType := spec.envMetadata.map fun metadata => metadata.source.toString
    pythonVersion := spec.envMetadata.bind EnvMetadata.pythonVersion
    gpuPlacementMode := placement.1
    gpuPlacementDevice := placement.2.1
    gpuPlacementDevices := placement.2.2 }

end Writing

section Reading

def decodeWord32 (value : Int) : Except StateStoreErrorCode UInt32 := do
  rejectIf (value < 0 ∨ value > 0xFFFFFFFF) .invalidJob
  .ok (UInt32.ofNat value.toNat)

def decodeIdentity (row : JobRow) : Except StateStoreErrorCode ProcessIdentity := do
  rejectIf (row.pid < 0 ∨ row.pgid < 0 ∨ row.startTicks < 0) .invalidExecutionRecord
  .ok ⟨row.pid, row.pgid, unsigned row.startTicks⟩

def isFlag (value : Int) : Bool := value == 0 || value == 1

def decodeExit (row : JobRow) : Except StateStoreErrorCode (Option ExitStatus) :=
  if row.hasExit = 1 then do
    let reason ← require (ExitReason.ofIndex row.exitReason) .invalidExecutionRecord
    rejectIf (row.exitCode < 0 ∨ row.exitCode > 255 ∨ row.exitSignal < 0 ∨ row.exitSignal > 64)
      .invalidExecutionRecord
    .ok (some ⟨reason, row.exitCode, row.exitSignal⟩)
  else .ok none

/-- A version without a source is refused. -/
def decodeEnvMetadata (row : JobRow) : Except StateStoreErrorCode (Option EnvMetadata) :=
  match row.environmentType with
  | some text => do
    let source ← require (EnvSource.ofText text) .invalidJob
    .ok (some ⟨source, row.pythonVersion⟩)
  | none => do
    rejectIf (row.pythonVersion.isSome) .invalidJob
    .ok none

def parseDevice (entry : ByteString) : Except StateStoreErrorCode GpuUuid := do
  rejectIf (entry.isEmpty) .invalidJob
  rejectIf (!(GpuUuid.mk entry).valid) .invalidJob
  .ok ⟨entry⟩

/-- The text is cut at its commas. The column with the first device has to agree
with it. -/
def decodeRequired (device devices : Option ByteString) : Except StateStoreErrorCode GpuPlacement := do
  let devicesText ← require devices .invalidJob
  let deviceText ← require device .invalidJob
  rejectIf (devicesText.isEmpty ∨ devicesText.length > maxPlacementDevicesTextLength) .invalidJob
  let parsed ← (devicesText.splitOn comma).mapM parseDevice
  rejectIf (deviceText.isEmpty ∨ some deviceText ≠ parsed.head?.map GpuUuid.value) .invalidJob
  .ok ⟨.required, parsed⟩

def decodePreferred (device devices : Option ByteString) : Except StateStoreErrorCode GpuPlacement := do
  let deviceText ← require device .invalidJob
  rejectIf (!(GpuUuid.mk deviceText).valid ∨ devices.isSome) .invalidJob
  .ok ⟨.preferred, [⟨deviceText⟩]⟩

def decodePlacement (mode device devices : Option ByteString) : Except StateStoreErrorCode GpuPlacement :=
  if mode = none ∨ mode = some (ascii "any") then do
    rejectIf (device.isSome ∨ devices.isSome) .invalidJob
    .ok ⟨.any, []⟩
  else if mode = some (ascii "required") then decodeRequired device devices
  else if mode = some (ascii "preferred") then decodePreferred device devices
  else .error .invalidJob

/-- One turn of `decode_jobs`. The checks come in the order of the columns, those
over the whole record at the end. -/
def decodeJobRow (row : JobRow) : Except StateStoreErrorCode StoredJob := do
  let state ← require (JobState.ofIndex row.state) .invalidJob
  rejectIf (row.revision < 0) .invalidJob
  let ownerUid ← decodeWord32 row.ownerUid
  let ownerGid ← decodeWord32 row.ownerGid
  let argv ← require (decodeStringList row.argv) .invalidJob
  let env ← require (decodeEnvironment row.env) .invalidJob
  let gpuRequest ← decodeWord32 row.gpuRequest
  let identity ← decodeIdentity row
  rejectIf (!isFlag row.hasStartTime ∨ !isFlag row.hasEndTime ∨ !isFlag row.hasExit) .invalidExecutionRecord
  let exit ← decodeExit row
  let envMetadata ← decodeEnvMetadata row
  let gpuPlacement ← decodePlacement row.gpuPlacementMode row.gpuPlacementDevice row.gpuPlacementDevices
  let record : StoredJob :=
    { id := ⟨unsigned row.jobId⟩
      spec :=
        { ownerUid, ownerGid, argv, cwd := row.cwd, env, executable := row.executable, envMetadata, gpuRequest
          gpuPlacement, launchProfile := row.launchProfile, tensorboardLogdir := row.tensorboardLogdir
          submitTime := decodeTime row.submitTimeNanos }
      state
      revision := unsigned row.revision
      execution :=
        { identity
          startTime := if row.hasStartTime = 1 then some (decodeTime row.startTimeNanos) else none
          endTime := if row.hasEndTime = 1 then some (decodeTime row.endTimeNanos) else none
          exit, failureReason := row.failureReason, logPath := row.logPath } }
  rejectIf (!record.id.valid ∨ ¬record.spec.Valid) .invalidJob
  rejectIf ((record.state == .queued) ≠ (record.revision == 0)) .invalidJob
  rejectIf (¬record.ExecutionValid) .invalidExecutionRecord
  .ok record

end Reading

end Yori
