import Yori.JobChecks
import Yori.Store.ExecutionSpec
import Yori.Store.MutationSpec
import Yori.Store.SqliteRow

namespace Yori
open Checked ByteString MachineWord MutationCore JobSpecLimits List GpuUuid

variable {record : StoredJob}

section Lists

theorem decodeStringList_encodeStringList {items : List ByteString} (few : items.length ≤ maxEncodedItems)
    (short : ∀ item ∈ items, item.length < 2 ^ 32) : decodeStringList (encodeStringList items) = some items := by
  refine PrefixCodec.decodeList_encodeList ?_ few ?_
  · change items.length < 256 ^ 4
    rw [maxEncodedItems] at few
    omega
  · intro item member
    change item.length < 256 ^ 4
    have bound := short item member
    omega

theorem environmentPairs_items (entries : List (ByteString × ByteString)) :
    environmentPairs (entries.flatMap fun entry => [entry.1, entry.2]) = some entries := by
  induction entries with
  | nil => rfl
  | cons entry rest ih =>
    rw [flatMap_cons]
    change (environmentPairs (rest.flatMap fun entry => [entry.1, entry.2])).map _ = _
    rw [ih]
    rfl

theorem decodeEnvironment_encode {env : SortedMap ByteString ByteString}
    (few : env.size ≤ maxEnvironmentVariables)
    (short : ∀ entry ∈ env.entries, entry.1.length < 2 ^ 32 ∧ entry.2.length < 2 ^ 32) :
    decodeEnvironment (encodeStringList (environmentItems env)) = some env := by
  have items : decodeStringList (encodeStringList (environmentItems env)) = some (environmentItems env) := by
    refine decodeStringList_encodeStringList ?_ ?_
    · have double : (environmentItems env).length = 2 * env.size := by
        simp [environmentItems, SortedMap.size, length_flatMap, Nat.mul_comm]
      rw [maxEnvironmentVariables] at few
      rw [double, maxEncodedItems]
      omega
    · intro _ member
      obtain ⟨entry, atEntry, own⟩ := mem_flatMap.mp member
      obtain ⟨name, value⟩ := short entry atEntry
      simp only [mem_cons, not_mem_nil, or_false] at own
      rcases own with here | here
      · rw [here]
        exact name
      · rw [here]
        exact value
  have pairs := environmentPairs_items env.entries
  rw [decodeEnvironment, items]
  simp only [Option.bind_eq_bind, Option.bind_some, environmentItems, pairs, SortedMap.emplaceAll_entries]

end Lists

section Columns

variable {record : StoredJob} {devices : List GpuUuid}

theorem decodeWord32_toNat {word : UInt32} : decodeWord32 word.toNat = .ok word := by
  have bound := word.toNat_lt
  have inRange : ¬((word.toNat : Int) < 0 ∨ (word.toNat : Int) > 0xFFFFFFFF) := by omega
  rw [decodeWord32, rejectIf_of_not inRange]
  change Except.ok (UInt32.ofNat word.toNat) = _
  rw [UInt32.ofNat_toNat]

theorem JobState.ofIndex_index (state : JobState) : JobState.ofIndex state.index = some state := by
  cases state <;> rfl

theorem ExitReason.ofIndex_index (reason : ExitReason) : ExitReason.ofIndex reason.index = some reason := by
  cases reason <;> rfl

theorem EnvSource.ofText_toString (source : EnvSource) : EnvSource.ofText source.toString = some source := by
  cases source <;> decide

theorem isFlag_flag {α : Type} {field : Option α} : isFlag (flag field) = true := by
  cases field <;> rfl

theorem decodeTime_flag {time : Option TimePoint} :
    (if flag time = 1 then some (decodeTime ((time.map encodeTime).getD 0)) else none) = time := by
  cases time <;> rfl

theorem decodeEnvMetadata_writeJobRow : decodeEnvMetadata (writeJobRow record) = .ok record.spec.envMetadata := by
  cases metadata : record.spec.envMetadata with
  | none => simp [decodeEnvMetadata, writeJobRow, metadata, rejectIf, bind, Except.bind]
  | some context =>
    have source := EnvSource.ofText_toString context.source
    simp [decodeEnvMetadata, writeJobRow, metadata, source, require, bind, Except.bind]

/-- The identity of a valid record is read back as long as its start ticks are
not negative as a signed number. -/
theorem decodeIdentity_writeJobRow (valid : record.ExecutionValid) :
    decodeIdentity (writeJobRow record) = .ok record.execution.identity ↔
      record.execution.identity.startTicks.toNat < 2 ^ 63 := by
  have signs : 0 ≤ record.execution.identity.pid ∧ 0 ≤ record.execution.identity.pgid := by
    rcases (StoredJob.executionValid_iff.mp valid).identity with blank | identified
    · simp only [ProcessIdentity.isBlank, Bool.and_eq_true, beq_iff_eq] at blank
      omega
    · simp only [JobExecutionRecord.hasIdentity, ProcessIdentity.valid, Bool.and_eq_true,
        decide_eq_true_eq] at identified
      omega
  have same : (⟨record.execution.identity.pid, record.execution.identity.pgid,
      unsigned (signed record.execution.identity.startTicks)⟩ : ProcessIdentity) = record.execution.identity := by
    rw [unsigned_signed]
  rw [← signed_nonneg, decodeIdentity, guard_bind_eq_ok]
  change ¬(record.execution.identity.pid < 0 ∨ record.execution.identity.pgid < 0 ∨
    signed record.execution.identity.startTicks < 0) ∧ Except.ok _ = Except.ok _ ↔ _
  change _ ∧ Except.ok (⟨record.execution.identity.pid, record.execution.identity.pgid,
    unsigned (signed record.execution.identity.startTicks)⟩ : ProcessIdentity) = _ ↔ _
  rw [same]
  simp only [and_true]
  omega

/-- An exit status is read back if it is one that a wait can report. -/
def ExitStatus.Readable (status : ExitStatus) : Prop :=
  0 ≤ status.exitCode ∧ status.exitCode ≤ 255 ∧ 0 ≤ status.signalNumber ∧ status.signalNumber ≤ 64

instance ExitStatus.decidableReadable (status : ExitStatus) : Decidable status.Readable :=
  inferInstanceAs (Decidable (_ ∧ _))

theorem decodeExit_writeJobRow : decodeExit (writeJobRow record) = .ok record.execution.exit ↔
    ∀ status ∈ record.execution.exit, status.Readable := by
  cases ended : record.execution.exit with
  | none => simp [decodeExit, writeJobRow, flag, ended]
  | some status =>
    have reason := ExitReason.ofIndex_index status.reason
    simp only [decodeExit, writeJobRow, flag, ended, Option.isSome_some, if_true, Option.map_some, Option.getD_some,
      bind_eq_ok, require_eq_ok, rejectIf_eq_ok, exists_const, reason, Option.some.injEq, exists_eq_left',
      Option.mem_def, forall_eq', and_true, ExitStatus.Readable]
    omega

theorem parseDevice_eq_ok {entry : ByteString} {device : GpuUuid} :
    parseDevice entry = .ok device ↔ device.value = entry ∧ device.valid = true := by
  unfold parseDevice
  simp only [guard_bind_eq_ok]
  constructor
  · rintro ⟨_, valid, same⟩
    cases same
    exact ⟨rfl, by simpa using valid⟩
  · rintro ⟨rfl, valid⟩
    have present : device.value.isEmpty = false := by
      simp only [GpuUuid.valid, Bool.and_eq_true, Bool.not_eq_true'] at valid
      exact valid.1.1
    exact ⟨by simp [present], by simp [valid], rfl⟩

theorem mapM_parseDevice {pieces : List ByteString} :
    pieces.mapM parseDevice = .ok devices ↔
      pieces = devices.map value ∧ ∀ device ∈ devices, device.valid = true := by
  rw [mapM_eq_ok]
  induction pieces generalizing devices with
  | nil => cases devices <;> simp
  | cons _ _ ih =>
    cases devices with
    | nil => simp
    | cons =>
      rw [map_cons, map_cons, map_cons, cons.injEq, cons.injEq, forall_mem_cons, parseDevice_eq_ok, ih, eq_comm]
      tauto

/-- A set of devices is read back exactly when none of their names holds a
comma. -/
theorem decodeRequired_columns (present : devices ≠ []) (few : devices.length ≤ maxPlacementDevices)
    (valid : ∀ device ∈ devices, device.valid = true) :
    decodeRequired (devices.head?.map value) (some ([comma].intercalate (devices.map value))) =
        .ok ⟨.required, devices⟩ ↔ ∀ device ∈ devices, comma ∉ device.value := by
  unfold decodeRequired
  simp only [bind_eq_ok, require_eq_ok, rejectIf_eq_ok, exists_const, mapM_parseDevice]
  constructor
  · rintro ⟨_, atText, _, _, _, _, ⟨cut, _⟩, _, same⟩
    cases same
    cases atText
    intro _ member
    exact (Separated.of_mem_splitOn (cut ▸ mem_map_of_mem member)).1
  · intro clean
    obtain ⟨first, rest, shape⟩ := exists_cons_of_ne_nil present
    have sizes : ∀ device ∈ devices, 1 ≤ device.value.length ∧ device.value.length ≤ maxBytes := by
      intro device member
      have parts := valid device member
      simp only [GpuUuid.valid, Bool.and_eq_true, Bool.not_eq_true', decide_eq_true_eq] at parts
      exact ⟨length_pos_of_ne_nil (by simpa using parts.1.1), parts.1.2⟩
    have long : ([comma].intercalate (devices.map value)).length ≤ maxPlacementDevicesTextLength := by
      have bound : ([comma].intercalate (devices.map value)).length ≤
          (devices.map value).length * (maxBytes + 1) - 1 := by
        refine Separated.length_intercalate ?_
        intro _ member
        obtain ⟨device, atDevice, own⟩ := mem_map.mp member
        rw [← own]
        exact (sizes device atDevice).2
      rw [length_map] at bound
      rw [maxPlacementDevices] at few
      rw [maxBytes] at bound
      rw [maxPlacementDevicesTextLength, maxPlacementDevices, maxBytes]
      omega
    have named : 1 ≤ first.value.length := (sizes first (by simp [shape])).1
    have text : 1 ≤ ([comma].intercalate (devices.map value)).length := by
      rw [shape, map_cons]
      by_cases last : rest.map value = []
      · rw [last, intercalate_singleton]
        exact named
      · rw [intercalate_cons_of_ne_nil last, length_append, length_append]
        omega
    refine ⟨_, rfl, first.value, by rw [shape]; rfl, ?_, devices, ⟨?_, valid⟩, ?_, rfl⟩
    · rw [not_or, List.isEmpty_iff]
      exact ⟨ne_nil_of_length_pos text, by omega⟩
    · refine splitOn_intercalate comma ?_ (by simpa using present)
      intro _ member
      obtain ⟨device, atDevice, own⟩ := mem_map.mp member
      rw [← own]
      exact clean device atDevice
    · rw [not_or, List.isEmpty_iff]
      exact ⟨ne_nil_of_length_pos named, by rw [shape]; simp⟩

theorem decodePlacement_columns {placement : GpuPlacement} (fits : PlacementFits placement) :
    decodePlacement (placementColumns placement).1 (placementColumns placement).2.1 (placementColumns placement).2.2 =
        .ok placement ↔ placement.mode = .required → ∀ device ∈ placement.devices, comma ∉ device.value := by
  obtain ⟨mode, devices⟩ := placement
  have distinct : ascii "required" ≠ ascii "any" ∧ ascii "preferred" ≠ ascii "any" ∧
      ascii "preferred" ≠ ascii "required" := by decide
  cases mode with
  | any =>
    have none : devices = [] := fits
    simp [decodePlacement, placementColumns, none, rejectIf, bind, Except.bind]
  | required =>
    obtain ⟨present, few, valid⟩ : devices ≠ [] ∧ devices.length ≤ maxPlacementDevices ∧
      ∀ device ∈ devices, device.valid = true := fits
    simp only [decodePlacement, placementColumns, Option.some.injEq, distinct.1, reduceCtorEq, or_self,
      if_false, if_true, forall_const]
    exact decodeRequired_columns present few valid
  | preferred =>
    obtain ⟨device, only, valid⟩ : ∃ device, devices = [device] ∧ device.valid = true := fits
    have taken : decodePreferred (some device.value) none = .ok ⟨.preferred, [device]⟩ := by
      simp [decodePreferred, require, rejectIf, valid, bind, Except.bind]
    simp [decodePlacement, placementColumns, only, distinct.2.1, distinct.2.2, taken]

end Columns

/-- What reading a row establishes about the record that comes out. -/
structure RowReads (row : JobRow) (record : StoredJob) : Prop where
  id : record.id = ⟨unsigned row.jobId⟩
  state : JobState.ofIndex row.state = some record.state
  revision : 0 ≤ row.revision ∧ record.revision = unsigned row.revision
  ownerUid : decodeWord32 row.ownerUid = .ok record.spec.ownerUid
  ownerGid : decodeWord32 row.ownerGid = .ok record.spec.ownerGid
  argv : decodeStringList row.argv = some record.spec.argv
  env : decodeEnvironment row.env = some record.spec.env
  gpuRequest : decodeWord32 row.gpuRequest = .ok record.spec.gpuRequest
  cwd : record.spec.cwd = row.cwd
  executable : record.spec.executable = row.executable
  launchProfile : record.spec.launchProfile = row.launchProfile
  tensorboardLogdir : record.spec.tensorboardLogdir = row.tensorboardLogdir
  submitTime : record.spec.submitTime = decodeTime row.submitTimeNanos
  envMetadata : decodeEnvMetadata row = .ok record.spec.envMetadata
  placement : decodePlacement row.gpuPlacementMode row.gpuPlacementDevice row.gpuPlacementDevices =
    .ok record.spec.gpuPlacement
  identity : decodeIdentity row = .ok record.execution.identity
  flags : isFlag row.hasStartTime = true ∧ isFlag row.hasEndTime = true ∧ isFlag row.hasExit = true
  startTime : record.execution.startTime = if row.hasStartTime = 1 then some (decodeTime row.startTimeNanos) else none
  endTime : record.execution.endTime = if row.hasEndTime = 1 then some (decodeTime row.endTimeNanos) else none
  exit : decodeExit row = .ok record.execution.exit
  failureReason : record.execution.failureReason = row.failureReason
  logPath : record.execution.logPath = row.logPath
  valid : RecordValid record

theorem decodeJobRow_eq_ok {row : JobRow} : decodeJobRow row = .ok record ↔ RowReads row record := by
  unfold decodeJobRow
  simp only [bind_eq_ok, require_eq_ok, rejectIf_eq_ok, exists_const]
  constructor
  · rintro ⟨state, atState, revision, uid, atUid, gid, atGid, argv, atArgv, env, atEnv, request, atRequest, identity,
      atIdentity, flags, exit, atExit, metadata, atMetadata, placement, atPlacement, named, queued, execution, same⟩
    cases same
    simp only [not_or, Bool.not_eq_true', Bool.not_eq_false, Decidable.not_not] at flags named execution
    refine ⟨rfl, atState, ⟨by omega, rfl⟩, atUid, atGid, atArgv, atEnv, atRequest, rfl, rfl, rfl, rfl, rfl, atMetadata,
      atPlacement, atIdentity, flags, rfl, rfl, atExit, rfl, rfl, named.1, named.2, execution, ?_⟩
    rw [← beq_iff_eq, not_not.mp queued, beq_iff_eq]
  · intro reads
    obtain ⟨key, spec, state, revision, execution⟩ := record
    obtain ⟨uid, gid, argv, cwd, env, executable, metadata, request, placement, profile, logdir, submitted⟩ := spec
    obtain ⟨identity, start, finish, exit, failure, path⟩ := execution
    have texts := And.intro reads.cwd (And.intro reads.executable (And.intro reads.launchProfile
      (And.intro reads.tensorboardLogdir (And.intro reads.submitTime (And.intro reads.failureReason reads.logPath)))))
    have marks := And.intro reads.id (And.intro reads.revision.2 (And.intro reads.startTime reads.endTime))
    simp only at texts marks
    obtain ⟨rfl, rfl, rfl, rfl, rfl, rfl, rfl⟩ := texts
    obtain ⟨rfl, rfl, rfl, rfl⟩ := marks
    have nonnegative : ¬row.revision < 0 := by
      have sign := reads.revision.1
      omega
    refine ⟨state, reads.state, nonnegative, uid, reads.ownerUid, gid, reads.ownerGid, argv, reads.argv, env, reads.env,
      request, reads.gpuRequest, identity, reads.identity, ?_, exit, reads.exit, metadata, reads.envMetadata, placement,
      reads.placement, ?_, ?_, not_not.mpr reads.valid.execution, rfl⟩
    · simp [reads.flags]
    · simp [reads.valid.id, reads.valid.spec]
    · have queued := reads.valid.queued
      rw [not_not, Bool.eq_iff_iff, beq_iff_eq, beq_iff_eq]
      exact queued

/-- The columns hold the whole record: its numbers are in the range that is
read, and no required device has a name that the text of all of them would be
cut in. -/
structure Storable (record : StoredJob) : Prop where
  revision : record.revision.toNat < 2 ^ 63
  ticks : record.execution.identity.startTicks.toNat < 2 ^ 63
  exit : ∀ status ∈ record.execution.exit, status.Readable
  devices : record.spec.gpuPlacement.mode = .required →
    ∀ device ∈ record.spec.gpuPlacement.devices, comma ∉ device.value

/-- A valid record is read back from its row exactly when it is storable. -/
theorem decodeJobRow_writeJobRow (valid : RecordValid record) :
    decodeJobRow (writeJobRow record) = .ok record ↔ Storable record := by
  have checked := valid.spec.checked
  have placement := checkPlacement_ok checked.placement
  rw [decodeJobRow_eq_ok]
  constructor
  · intro reads
    exact ⟨signed_nonneg.mp reads.revision.1, (decodeIdentity_writeJobRow valid.execution).mp reads.identity,
      decodeExit_writeJobRow.mp reads.exit, (decodePlacement_columns placement).mp reads.placement⟩
  · intro storable
    exact {
      id := by
        change record.id = ⟨unsigned (signed record.id.value)⟩
        rw [unsigned_signed]
      state := JobState.ofIndex_index record.state
      revision := ⟨signed_nonneg.mpr storable.revision, (unsigned_signed record.revision).symm⟩
      ownerUid := decodeWord32_toNat
      ownerGid := decodeWord32_toNat
      argv := by
        refine decodeStringList_encodeStringList (checked.few.trans (by decide)) ?_
        intro argument member
        exact (checked.arguments argument member).2.trans_lt (by decide)
      env := by
        refine decodeEnvironment_encode checked.count ?_
        intro entry member
        obtain ⟨_, name, value, _⟩ := checked.environment entry member
        exact ⟨name.trans_lt (by decide), value.trans_lt (by decide)⟩
      gpuRequest := decodeWord32_toNat
      cwd := rfl
      executable := rfl
      launchProfile := rfl
      tensorboardLogdir := rfl
      submitTime := rfl
      envMetadata := decodeEnvMetadata_writeJobRow
      placement := (decodePlacement_columns placement).mpr storable.devices
      identity := (decodeIdentity_writeJobRow valid.execution).mpr storable.ticks
      flags := ⟨isFlag_flag, isFlag_flag, isFlag_flag⟩
      startTime := decodeTime_flag.symm
      endTime := decodeTime_flag.symm
      exit := decodeExit_writeJobRow.mpr storable.exit
      failureReason := rfl
      logPath := rfl
      valid := valid }

end Yori
