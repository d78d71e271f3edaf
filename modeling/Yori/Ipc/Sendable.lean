import Yori.Ipc.Refusals
import Yori.Ipc.Sizes
import Yori.Store.Invariant

/-! The answers of the service that fit a frame whatever the store holds. -/

namespace Yori
open Parsing Checked ByteString IpcProtocolLimits IpcResponse List Wire GpuUuid

variable {kind : IpcRequestKind} {response : IpcResponse} {detail : ByteString} {error : IpcError}

/-- A response that is sent as it is. -/
structure IpcResponse.Sendable (response : IpcResponse) : Prop where
  supported : ipcVersionSupported response.version = true
  detail : Writable response.detail
  range : response.InRange
  fields : AtMost (encodeResponseFields response.version response) 900000
  counted : ¬response.Uncounted

theorem IpcResponse.Sendable.sent (sendable : response.Sendable) :
    ∃ payload, encodeResponsePayload response = some payload ∧
      decodeResponsePayload payload = .ok response.carried := by
  obtain ⟨size, sized, within⟩ := sendable.fields
  have short := sendable.detail.1
  have room : 7 + response.detail.length + size ≤ maxPayloadBytes := by
    rw [maxStringBytes] at short
    rw [maxPayloadBytes]
    omega
  obtain ⟨payload, encoded⟩ := (encodeResponsePayload_sized sendable.supported sendable.detail sized).mpr room
  exact ⟨payload, encoded, decodeResponsePayload_encoded sendable.range sendable.counted encoded⟩

instance Wire.decidableWritable (value : ByteString) : Decidable (Writable value) :=
  inferInstanceAs (Decidable (_ ∧ _))

theorem Wire.Writable.append {first second : ByteString} (clean : containsNul first = false)
    (cleanRest : containsNul second = false) (short : (first ++ second).length ≤ maxStringBytes) :
    Writable (first ++ second) := ⟨short, by rw [containsNul_append, clean, cleanRest]; rfl⟩

theorem StateStoreErrorCode.writable_toString (code : StateStoreErrorCode) : Writable code.toString := by
  cases code <;> decide

theorem JobSpecErrorCode.writable_toString (code : JobSpecErrorCode) : Writable code.toString := by
  cases code <;> decide

theorem JobState.writable_toString (state : JobState) : Writable state.toString := by
  cases state <;> decide

theorem JobState.wire_le (state : JobState) : state.wire ≤ underlyingJobStateMax := by
  cases state <;> decide

theorem GpuPlacementMode.wire_le (mode : GpuPlacementMode) : mode.wire ≤ underlyingGpuPlacementModeMax := by
  cases mode <;> decide

theorem WaitReason.wire_le (reason : WaitReason) : reason.wire ≤ underlyingWaitReasonMax := by
  cases reason <;> decide

/-- An inspection with its fields at their defaults, as an error carries it. -/
theorem IpcInspectPayload.plain_default : ({} : IpcInspectPayload).Plain := by
  have none {α : Type} {property : α → Prop} : ∀ value, (none : Option α) = some value → property value := by
    intro _ found
    cases found
  have empty {α : Type} {property : α → Prop} : ∀ value ∈ ([] : List α), property value := by
    intro _ member
    cases member
  exact {
    cwd := ⟨by decide, by decide⟩
    executable := none
    few := Nat.zero_le _
    argv := empty
    total := Nat.zero_le _
    metadata := none
    fewNames := Nat.zero_le _
    env := empty
    environment := Nat.zero_le _
    gpu := none
    logPath := none
    mode := by decide
    device := none
    count := Nat.zero_le _
    devices := empty }

/-- A response whose body is at its defaults. -/
theorem IpcResponse.blank_sendable {version : UInt8} (supported : ipcVersionSupported version = true)
    (late : ¬(kind = .inspect ∧ version < 2)) (writable : Writable detail) :
    Sendable { kind, version, error, detail } := by
  have uncounted : ¬Uncounted { kind, version, error, detail } := by
    rintro ⟨_, _, full⟩
    cases full
  have nothing {α : Type} {property : α → Prop} : ∀ value ∈ ([] : List α), property value := by
    intro _ member
    cases member
  cases kind with
  | submit => exact ⟨supported, writable, trivial, ⟨8, ⟨_, rfl, rfl⟩, by decide⟩, uncounted⟩
  | ps | queue => exact ⟨supported, writable, nothing, ⟨4, ⟨_, rfl, rfl⟩, by decide⟩, uncounted⟩
  | gpu => exact ⟨supported, writable, nothing, ⟨12, ⟨_, rfl, rfl⟩, by decide⟩, uncounted⟩
  | cancel => exact ⟨supported, writable, UInt8.zero_le, ⟨1, ⟨_, rfl, rfl⟩, by decide⟩, uncounted⟩
  | logs => exact ⟨supported, writable, trivial, ⟨10, ⟨_, rfl, rfl⟩, by decide⟩, uncounted⟩
  | logsFollow => exact ⟨supported, writable, UInt8.zero_le, ⟨17, ⟨_, rfl, rfl⟩, by decide⟩, uncounted⟩
  | tensorboard => exact ⟨supported, writable, trivial, ⟨5, ⟨_, rfl, rfl⟩, by decide⟩, uncounted⟩
  | inspect =>
    have new : ¬version < 2 := fun old => late ⟨rfl, old⟩
    have fits := IpcInspectPayload.plain_default.fits new
    exact ⟨supported, writable, ⟨UInt8.zero_le, fun _ found => nomatch found⟩, fits.mono (by decide), uncounted⟩

/-- What the components around the service give it: a store that keeps its invariant, observations that passed
their check, and evaluations that name devices of valid placements. -/
structure IpcService.Supplied (service : IpcService) : Prop where
  config : service.config.valid = true
  store : ∀ snapshot, service.load = .ok snapshot →
    ∃ limits state, StoreInvariant limits state ∧ snapshot = state.snapshot
  exits : ∀ snapshot, service.load = .ok snapshot → ∀ record ∈ snapshot.jobs,
    ∀ status, record.execution.exit = some status → (exitWire status).InRange
  observed : ∀ observed, service.gpu = some observed → observed.Valid
  targets : ∀ evaluation, service.evaluation = some evaluation → ∀ skip ∈ evaluation.skipped,
    ∀ target, skip.target = some target → target.valid = true

namespace IpcService

variable {service : IpcService} {version : UInt8} {peer : PeerCredentials} {snapshot : StateSnapshot}
  {request : IpcSubmitRequest} {record : StoredJob} {placement : GpuPlacement} {jobId : UInt64}

section

variable (supplied : service.Supplied)
include supplied

section

variable (load : service.load = .ok snapshot)
include load

theorem Supplied.spec (member : record ∈ snapshot.jobs) : record.spec.Checked := by
  obtain ⟨_, _, invariant, rfl⟩ := supplied.store snapshot load
  exact (invariant.specs record member).checked

theorem Supplied.facts (member : record ∈ snapshot.jobs) :
    RunFacts record.execution record.state record.spec := by
  obtain ⟨_, _, invariant, rfl⟩ := supplied.store snapshot load
  exact StoredJob.executionValid_iff.mp (invariant.executions record member)

theorem Supplied.lease {lease : GpuLease}
    (member : lease ∈ snapshot.leases) : lease.gpuUuid.valid = true := by
  obtain ⟨_, _, invariant, rfl⟩ := supplied.store snapshot load
  exact invariant.leaseUuids lease member

end

theorem Supplied.limits :
    service.config.maxListedJobs.toNat ≤ maxListItems ∧
      service.config.maxLogTailBytes.toNat ≤ maxLogTailBytes := by
  have valid := supplied.config
  simp only [IpcServiceConfig.valid, Bool.and_eq_true, Bool.not_eq_true', Bool.or_eq_false_iff,
    decide_eq_false_iff_not, Nat.not_lt] at valid
  exact ⟨valid.1.1.1.1.2, valid.1.1.2⟩

/-- What is written of a path of the store. -/
theorem Supplied.logPath (load : service.load = .ok snapshot) (member : record ∈ snapshot.jobs) {path : ByteString}
    (found : record.execution.logPath = some path) :
    Writable path ∧ path.length ≤ JobExecutionLimits.maxLogPathBytes := by
  have accepted := ((supplied.facts load member).logPath path found).2
  simp only [acceptableLogPath, Bool.not_eq_true', Bool.or_eq_false_iff, decide_eq_false_iff_not,
    Nat.not_lt] at accepted
  exact ⟨⟨accepted.1.1.2.trans (by decide), accepted.1.2⟩, accepted.1.1.2⟩

/-- Reason and target that an entry shows. -/
theorem Supplied.wait (shown : Bool) (id : JobId) :
    (service.waitOf shown id).1 ≤ underlyingWaitReasonMax ∧
      ∀ target, (service.waitOf shown id).2 = some target → Writable target ∧ target.length ≤ maxBytes := by
  rw [waitOf]
  split
  · exact ⟨UInt8.zero_le, fun _ none => nomatch none⟩
  · rename_i skip found
    obtain ⟨evaluation, atEvaluation, atSkip⟩ := Option.bind_eq_some_iff.mp found
    refine ⟨skip.reason.wire_le, fun target named => ?_⟩
    split at named
    · obtain ⟨uuid, atUuid, rfl⟩ := Option.map_eq_some_iff.mp named
      exact writable (supplied.targets evaluation atEvaluation skip (mem_of_find?_eq_some atSkip) uuid atUuid)
    · cases named

end

section

variable (supported : ipcVersionSupported version = true) (late : ¬(kind = .inspect ∧ version < 2))
include supported late

theorem withSnapshot_sendable {handler : StateSnapshot → IpcResponse}
    (each : ∀ snapshot, service.load = .ok snapshot → Sendable { handler snapshot with version }) :
    Sendable { service.withSnapshot kind handler with version } := by
  rw [withSnapshot]
  cases load : service.load with
  | error code => exact blank_sendable supported late code.writable_toString
  | ok snapshot => exact each snapshot load

theorem withJob_sendable {handler : StateSnapshot → StoredJob → IpcResponse}
    (each : ∀ snapshot, service.load = .ok snapshot → ∀ record ∈ snapshot.jobs,
      Sendable { handler snapshot record with version }) :
    Sendable { service.withJob kind peer jobId handler with version } := by
  refine withSnapshot_sendable supported late fun snapshot load => ?_
  cases found : findJob snapshot jobId with
  | none => exact blank_sendable supported late (show Writable (ascii "job not found") by decide)
  | some record =>
    by_cases stranger : (!service.permits peer record) = true
    · simp only [if_pos stranger]
      exact blank_sendable supported late (show Writable (ascii "not job owner or admin") by decide)
    · simp only [if_neg stranger]
      exact each snapshot load record (mem_of_find?_eq_some found)

end

/-- A listing before its entries: its words are about a truncation, if there are any. -/
theorem Supplied.listing_eq (supplied : service.Supplied) (kind : IpcRequestKind) (total : Nat) :
    ∃ error detail, service.listing kind total = { kind, error, detail } ∧ Writable detail ∧ error ≠ .internal := by
  rw [listing]
  split
  · refine ⟨_, _, rfl, Writable.append ?_ (by decide) ?_, by decide⟩
    · rw [containsNul_append, containsNul_decimal]
      decide
    · have small : service.config.maxListedJobs.toNat < 10 ^ 4 := supplied.limits.1.trans_lt (by decide)
      have width := length_decimal (Nat.zero_lt_succ 3) small
      have words : (ascii "listing truncated to ").length = 21 ∧ (ascii " jobs").length = 5 := by decide
      rw [length_append, length_append, words.1, words.2, maxStringBytes]
      omega
  · exact ⟨_, _, rfl, by decide, by decide⟩

/-- A kind that every version has. -/
theorem not_early (other : kind ≠ .inspect) : ¬(kind = .inspect ∧ version < 2) :=
  fun both => other both.1

/-- A queue of entries without long texts always fits. -/
theorem Supplied.queue_sendable (supplied : service.Supplied) (supported : ipcVersionSupported version = true) :
    Sendable { service.handleQueue peer with version } := by
  refine withSnapshot_sendable supported (not_early (by decide)) fun snapshot load => ?_
  let shown := (queuedJobs snapshot).take service.config.maxListedJobs.toNat
  have few : (shown.map (service.queueEntry peer)).length ≤ maxListItems := by
    rw [length_map]
    exact (length_take_le _ _).trans supplied.limits.1
  have fits : AtMost (encodeEntries (encodeQueueEntry version) (shown.map (service.queueEntry peer)))
      (4 + maxListItems * (27 + maxBytes)) := by
    refine encodeEntries_fits few (Nat.le_refl _) fun entry member => ?_
    obtain ⟨record, _, rfl⟩ := mem_map.mp member
    obtain ⟨reason, target⟩ := supplied.wait (service.permits peer record) record.id
    exact encodeQueueEntry_fits reason target
  have range : ∀ entry ∈ shown.map (service.queueEntry peer), entry.state ≤ underlyingJobStateMax := by
    intro _ member
    obtain ⟨record, _, rfl⟩ := mem_map.mp member
    exact record.state.wire_le
  obtain ⟨_, _, same, writable, _⟩ := supplied.listing_eq .queue (queuedJobs snapshot).length
  simp only [same]
  exact ⟨supported, writable, range, fits.mono (by decide), fun full => nomatch full.1⟩

/-- The tails of two logs fit a frame together. -/
theorem Supplied.logs_sendable (supplied : service.Supplied) (request : IpcLogsRequest)
    (supported : ipcVersionSupported version = true) :
    Sendable { service.handleLogs peer request with version } := by
  have late : ¬(IpcRequestKind.logs = .inspect ∧ version < 2) := not_early (by decide)
  refine withJob_sendable supported late fun snapshot load record member => ?_
  cases found : record.execution.logPath with
  | none =>
    exact blank_sendable supported late
      (show Writable (ascii "job has not started; no logs yet") by decide)
  | some =>
    obtain ⟨⟨_, clean⟩, short⟩ := supplied.logPath load member found
    simp only
    split
    · refine blank_sendable supported late (Writable.append (by decide) clean ?_)
      rw [length_append, show (ascii "log read failed: ").length = 17 from rfl, maxStringBytes]
      rw [JobExecutionLimits.maxLogPathBytes] at short
      omega
    · have least : min request.maxBytes service.config.maxLogTailBytes ≤ service.config.maxLogTailBytes := by
        show (if request.maxBytes ≤ service.config.maxLogTailBytes then request.maxBytes
          else service.config.maxLogTailBytes) ≤ _
        split
        · assumption
        · exact UInt32.le_refl _
      have tail (file : LogFile) : (readTail file (min request.maxBytes service.config.maxLogTailBytes)).tail.length ≤
          maxLogTailBytes :=
        ((length_readTail file _).trans (UInt32.le_iff_toNat_le.mp least)).trans supplied.limits.2
      refine ⟨supported, show Writable [] by decide, trivial, ?_, fun full => by cases full.1⟩
      refine AtMost.mono (?_ : AtMost _ (10 + 2 * maxLogTailBytes)) (by decide)
      exact encodeLogs_fits (tail _) (tail _) (by decide)

theorem Supplied.tensorboard_sendable (supplied : service.Supplied) (jobId : UInt64)
    (supported : ipcVersionSupported version = true) :
    Sendable { service.handleTensorboard peer jobId with version } := by
  refine withJob_sendable supported (not_early (by decide)) fun snapshot load record member => ?_
  have checked := supplied.spec load member
  have fits := AtMost.inTurn (.cons (optionalString_fits fun _ found => checked.logdir_writable found)
    (.cons (string_fits checked.cwd_writable.1 checked.cwd_writable.2) .nil))
  exact ⟨supported, show Writable [] by decide, trivial, fits.mono (by decide), fun full => nomatch full.1⟩

/-- The values of an environment with the secret ones masked; a mask may be longer than what it hides. -/
theorem envEntries_bytes (entries : List (ByteString × ByteString)) :
    ((entries.map service.envEntry).map fun entry => entry.name.length + entry.value.length).sum ≤
      environmentBytes entries + 3 * entries.length := by
  induction entries with
  | nil => exact Nat.le_refl 0
  | cons entry _ ih =>
    have first : (service.envEntry entry).value.length ≤ entry.2.length + 3 := by
      rw [envEntry]
      split
      · exact Nat.le_add_left 3 _
      · exact Nat.le_add_right _ 3
    have name : (service.envEntry entry).name = entry.1 := rfl
    rw [environmentBytes] at ih ⊢
    rw [map_cons, map_cons, sum_cons, map_cons, sum_cons, length_cons, name]
    omega

/-- The devices of a placement that passed its check. -/
theorem PlacementFits.devices (fits : PlacementFits placement) :
    placement.devices.length ≤ JobSpecLimits.maxPlacementDevices ∧
      ∀ device ∈ placement.devices, device.valid = true := by
  rw [PlacementFits] at fits
  cases mode : placement.mode with
  | any =>
    simp only [mode] at fits
    rw [fits]
    exact ⟨Nat.zero_le _, fun _ none => nomatch none⟩
  | required =>
    simp only [mode] at fits
    exact fits.2
  | preferred =>
    simp only [mode] at fits
    obtain ⟨_, only, valid⟩ := fits
    rw [only]
    refine ⟨show 1 ≤ _ by decide, fun other member => ?_⟩
    rw [mem_singleton.mp member]
    exact valid

theorem Supplied.allocation (supplied : service.Supplied) (load : service.load = .ok snapshot) (id : JobId)
    {uuid : ByteString} (found : (service.allocationOf snapshot.leases id).1 = some uuid) :
    Writable uuid ∧ uuid.length ≤ maxBytes := by
  rw [allocationOf] at found
  split at found
  · cases found
  · rename_i lease atLease
    cases found
    exact writable (supplied.lease load (mem_of_find?_eq_some atLease))

theorem Supplied.envEntry (supplied : service.Supplied) (load : service.load = .ok snapshot)
    (member : record ∈ snapshot.jobs) {entry : IpcEnvEntry}
    (inside : entry ∈ record.spec.env.entries.map service.envEntry) :
    Writable entry.name ∧ Writable entry.value := by
  obtain ⟨stored, atStored, rfl⟩ := mem_map.mp inside
  obtain ⟨name, value⟩ := (supplied.spec load member).variable_writable atStored
  refine ⟨name, ?_⟩
  rw [IpcService.envEntry]
  simp only
  split
  · decide
  · exact value

/-- An inspection of any stored job fits. -/
theorem Supplied.inspect_sendable (supplied : service.Supplied) (jobId : UInt64)
    (supported : ipcVersionSupported version = true) (new : ¬version < 2) :
    Sendable { service.handleInspect peer jobId with version } := by
  refine withJob_sendable supported (fun both => new both.2) fun snapshot load record member => ?_
  have checked := supplied.spec load member
  have placement := PlacementFits.devices (checkPlacement_ok checked.placement)
  have named : ∀ device ∈ record.spec.gpuPlacement.devices, Writable device.value ∧
      device.value.length ≤ maxBytes := fun device inside => writable (placement.2 device inside)
  have size : record.spec.env.entries.length ≤ JobSpecLimits.maxEnvironmentVariables := checked.count
  let listed := if record.spec.gpuPlacement.mode = .required then record.spec.gpuPlacement.devices.map (·.value) else []
  have devices : listed.length ≤ JobSpecLimits.maxPlacementDevices ∧
      ∀ uuid ∈ listed, Writable uuid ∧ uuid.length ≤ maxBytes := by
    by_cases required : record.spec.gpuPlacement.mode = .required
    · simp only [listed, if_pos required, length_map]
      exact ⟨placement.1, forall_mem_map.mpr named⟩
    · simp only [listed, if_neg required]
      exact ⟨Nat.zero_le _, fun _ none => nomatch none⟩
  refine ⟨supported, show Writable [] by decide, ⟨record.state.wire_le, ?_⟩, ?_, ?_⟩
  · intro _ found
    obtain ⟨status, atStatus, rfl⟩ := Option.map_eq_some_iff.mp found
    exact supplied.exits snapshot load record member status atStatus
  · refine AtMost.mono (IpcInspectPayload.Plain.fits ?_ new) (by decide)
    exact {
      cwd := checked.cwd_writable
      executable := fun _ found => checked.executable_writable found
      few := checked.few
      argv := checked.argv_writable
      total := checked.total
      metadata := fun _ found => checked.metadata_writable found
      fewNames := by
        rw [length_map]
        exact size
      env := fun entry inside => supplied.envEntry load member inside
      environment := by
        have bytes := @envEntries_bytes service record.spec.env.entries
        have total := checked.environmentTotal
        show (map _ (record.spec.env.entries.map service.envEntry)).sum ≤ _
        omega
      gpu := fun uuid found => supplied.allocation load record.id found
      logPath := fun path found => supplied.logPath load member found
      mode := record.spec.gpuPlacement.mode.wire_le
      device := by
        intro _ found
        simp only at found
        split at found
        · cases found
        · obtain ⟨device, atDevice, rfl⟩ := Option.map_eq_some_iff.mp found
          exact named device (mem_of_head? atDevice)
      count := devices.1
      devices := devices.2 }
  · rintro ⟨_, _, full⟩
    have same : listed.length = maxItemCount := full
    have few := devices.1
    rw [same] at few
    exact absurd few (by decide)

theorem admitSubmit_unplaced {failure : IpcError × ByteString}
    (refused : service.placementOf request = .error failure) :
    service.admitSubmit peer request = .error (errorResponse .submit failure.1 failure.2) := by
  rw [admitSubmit, refused]
  rfl

theorem admitSubmit_placed (placed : service.placementOf request = .ok placement) :
    service.admitSubmit peer request =
      match validate (service.submittedSpec peer request placement) with
      | .error error => .error (refusal error)
      | .ok () => .ok (service.submittedSpec peer request placement) := by
  rw [admitSubmit, placed]
  show ((validate (service.submittedSpec peer request placement)).mapError refusal >>= fun _ => _) = _
  cases validate (service.submittedSpec peer request placement) with
  | error | ok => rfl

/-- A specification that is refused is refused with fixed words. -/
theorem refusal_sendable {error : JobSpecError} (supported : ipcVersionSupported version = true) :
    Sendable { refusal error with version } := by
  have late : ¬(IpcRequestKind.submit = .inspect ∧ version < 2) := not_early (by decide)
  rw [refusal]
  split
  · exact blank_sendable supported late (show Writable (ascii "root cannot submit jobs") by decide)
  · exact blank_sendable supported late error.code.writable_toString

section

variable (supported : ipcVersionSupported version = true) {control : JobControl}
include supported

/-- Submissions are answered within a frame unless their devices are refused with too long a text. -/
theorem submit_sendable (clean : request.CleanDevices)
    (answers : ∀ spec, Writable (control.submitJob spec).detail) (brief : ¬service.LongRefusal request) :
    Sendable { service.handleSubmit control peer request with version } := by
  have late : ¬(IpcRequestKind.submit = .inspect ∧ version < 2) := not_early (by decide)
  rw [handleSubmit]
  cases placed : service.placementOf request with
  | error failure =>
    have short : failure.2.length ≤ maxStringBytes := by
      by_contra long
      exact brief (placementOf_long.mp ⟨failure, placed, Nat.lt_of_not_le long⟩)
    rw [admitSubmit_unplaced placed]
    exact blank_sendable supported late ⟨short, placementOf_clean clean placed⟩
  | ok placement =>
    rw [admitSubmit_placed placed]
    cases validate (service.submittedSpec peer request placement) with
    | error error => exact refusal_sendable supported
    | ok =>
      have detail := answers (service.submittedSpec peer request placement)
      simp only [submitResponse]
      split
      · exact ⟨supported, show Writable [] by decide, trivial, ⟨8, u64_sized _, by decide⟩,
          fun full => nomatch full.1⟩
      · exact blank_sendable supported late detail
      · exact blank_sendable supported late detail
      · exact blank_sendable supported late detail

/-- A response about the state of one job. -/
theorem state_sendable {state : UInt8} (writable : Writable detail) (known : state ≤ underlyingJobStateMax) :
    Sendable { kind := .cancel, version, error, detail, state } :=
  ⟨supported, writable, known, ⟨1, u8_sized state, by decide⟩, fun full => nomatch full.1⟩

theorem admitCancel_sendable (settled : service.admitCancel peer jobId = .error response) :
    Sendable { response with version } := by
  rw [admitCancel] at settled
  split at settled
  · rename_i code _
    cases settled
    exact state_sendable supported code.writable_toString UInt8.zero_le
  · split at settled
    · cases settled
      exact state_sendable supported (show Writable (ascii "job not found") by decide) UInt8.zero_le
    · rename_i record _
      have known := record.state.wire_le
      split at settled
      · cases settled
        exact state_sendable supported (show Writable (ascii "not job owner or admin") by decide) known
      · split at settled
        · cases settled
          exact state_sendable supported (show Writable [] by decide) known
        · split at settled
          · cases settled
            exact state_sendable supported record.state.writable_toString known
          · cases settled

theorem cancel_sendable
    (answers : ∀ jobId, Writable (control.cancelJob jobId).detail ∧
      (control.cancelJob jobId).state ≤ underlyingJobStateMax) :
    Sendable { service.handleCancel control peer jobId with version } := by
  rw [handleCancel]
  cases admitted : service.admitCancel peer jobId with
  | error => exact admitCancel_sendable supported admitted
  | ok id =>
    obtain ⟨writable, known⟩ := answers id
    simp only [cancelResponse]
    split
    · exact state_sendable supported (show Writable [] by decide) known
    · exact state_sendable supported (show Writable [] by decide) known
    · exact state_sendable supported (show Writable (ascii "job not found") by decide) UInt8.zero_le
    · exact state_sendable supported writable known
    · exact state_sendable supported writable UInt8.zero_le
    · exact state_sendable supported writable UInt8.zero_le

end

end IpcService

end Yori
