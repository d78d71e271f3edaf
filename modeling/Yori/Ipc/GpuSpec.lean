import Yori.Ipc.Refusals
import Yori.JobChecks

namespace Yori
open Checked FirstOccurrences List

/-- What one entry of a device list stands for: a number for the observed
device of that index, anything else for the observed device of that name. -/
inductive Denotes (snapshot : GpuObservationSnapshot) (entry : ByteString) : GpuUuid → Prop
  | index (device : GpuObservation) (some : entry ≠ []) (digits : entry.all digit = true)
      (observed : device ∈ snapshot.devices) (numbered : device.index.toNat = decimal entry) :
      Denotes snapshot entry device.uuid
  | name (device : GpuObservation) (named : entry.all digit = false) (observed : device ∈ snapshot.devices)
      (same : device.uuid = ⟨entry⟩) : Denotes snapshot entry device.uuid

variable {snapshot : GpuObservationSnapshot} {entry gpuSpec : ByteString} {uuid : GpuUuid} {devices : List GpuUuid}

theorem Denotes.observed (denotes : Denotes snapshot entry uuid) : ∃ device ∈ snapshot.devices, device.uuid = uuid := by
  cases denotes with
  | index device _ _ observed | name device _ observed => exact ⟨device, observed, rfl⟩

theorem find?_index {index : Nat} (valid : snapshot.Valid) {device : GpuObservation} :
    (if index > 0xFFFFFFFF then none else snapshot.devices.find? (·.index = UInt32.ofNat index)) = some device ↔
      device ∈ snapshot.devices ∧ device.index.toNat = index := by
  have unique : ∀ a ∈ snapshot.devices, ∀ b ∈ snapshot.devices, decide (a.index = UInt32.ofNat index) = true →
      decide (b.index = UInt32.ofNat index) = true → a = b := by
    intro _ atA _ atB sameA sameB
    by_contra different
    exact (valid.devices_differ atA atB different).2 ((of_decide_eq_true sameA).trans (of_decide_eq_true sameB).symm)
  by_cases large : index > 0xFFFFFFFF
  · have bound := device.index.toNat_lt
    rw [if_pos large]
    constructor
    · intro none
      cases none
    · intro ⟨_, same⟩
      omega
  · rw [if_neg large, Search.find?_of_unique unique, decide_eq_true_eq, ← UInt32.toNat_inj,
      UInt32.toNat_ofNat_of_lt' (by show index < 4294967296; omega)]

/-- The resolution of one entry finds exactly what the entry stands for. -/
theorem resolveGpuSpec_ok_iff (valid : snapshot.Valid) :
    resolveGpuSpec entry snapshot = .ok uuid ↔ Denotes snapshot entry uuid := by
  unfold resolveGpuSpec
  by_cases empty : entry.isEmpty = true
  · rw [if_pos empty]
    rw [List.isEmpty_iff] at empty
    constructor
    · intro resolved
      cases resolved
    · intro denotes
      cases denotes with
      | index _ some => exact absurd empty some
      | name _ named => simp [empty] at named
  · rw [if_neg empty]
    rw [List.isEmpty_iff] at empty
    by_cases digits : entry.all digit = true
    · rw [if_pos digits]
      simp only
      constructor
      · intro resolved
        split at resolved
        · rename_i device found
          obtain ⟨observed, numbered⟩ := (find?_index valid).mp found
          cases resolved
          exact .index device empty digits observed numbered
        · cases resolved
      · intro denotes
        cases denotes with
        | index _ _ _ observed numbered => rw [(find?_index valid).mpr ⟨observed, numbered⟩]
        | name _ named => rw [digits] at named; cases named
    · rw [if_neg digits]
      simp only
      constructor
      · intro resolved
        split at resolved
        · cases resolved
        · split at resolved
          · rename_i observed
            cases resolved
            obtain ⟨device, member, same⟩ := any_eq_true.mp observed
            rw [decide_eq_true_eq] at same
            exact same ▸ .name device (eq_false_of_ne_true digits) member same
          · cases resolved
      · intro denotes
        cases denotes with
        | index _ _ number => exact absurd number digits
        | name device _ observed same =>
          have known : snapshot.devices.any (fun other => decide (other.uuid = ⟨entry⟩)) = true :=
            any_eq_true.mpr ⟨device, observed, decide_eq_true same⟩
          have passes : (GpuUuid.mk entry).valid = true := same ▸ valid.devices_ok.1 device observed
          rw [if_neg (by simp [passes]), if_pos known, same]

/-- A list is resolved if it has at most eight entries and each of them is, to their devices in order. -/
theorem resolveGpuSpecList_ok_iff : resolveGpuSpecList gpuSpec snapshot = .ok devices ↔
    (gpuSpec.splitOn deviceComma).length ≤ 8 ∧
      (∀ entry ∈ gpuSpec.splitOn deviceComma, resolveGpuSpec entry snapshot = .ok (resolved snapshot entry)) ∧
      devices = ((gpuSpec.splitOn deviceComma).map (resolved snapshot)).eraseDups := by
  have loop : ∀ out, resolveGpuEntries gpuSpec snapshot 0 [] (gpuSpec.splitOn deviceComma) = .ok out ↔
      0 + (gpuSpec.splitOn deviceComma).length ≤ 8 ∧
        (∀ entry ∈ gpuSpec.splitOn deviceComma, resolveGpuSpec entry snapshot = .ok (resolved snapshot entry)) ∧
        out = ([] ++ (gpuSpec.splitOn deviceComma).map (resolved snapshot)).eraseDups :=
    fun out => resolveGpuEntries_ok_iff [] (Nat.zero_le _)
  rw [resolveGpuSpecList, bind_eq_ok]
  simp only [guard_bind_eq_ok]
  constructor
  · rintro ⟨_, run, _, done⟩
    cases done
    simpa using (loop devices).mp run
  · rintro ⟨few, each, same⟩
    refine ⟨devices, (loop devices).mpr ⟨by omega, each, same⟩, ?_, rfl⟩
    rw [same, eraseDups_eq_nil, map_eq_nil_iff]
    exact splitOn_ne_nil deviceComma gpuSpec

theorem checkPlacementDevices_of_distinct {prior : List GpuUuid} (valid : ∀ device ∈ devices, device.valid = true)
    (distinct : (prior ++ devices).Nodup) : checkPlacementDevices prior devices = .ok () := by
  induction devices generalizing prior with
  | nil => rfl
  | cons device _ ih =>
    have fresh : device ∉ prior := fun earlier =>
      (nodup_append.mp distinct).2.2 device earlier device (mem_cons_self ..) rfl
    rw [checkPlacementDevices, guard_bind_eq_ok, guard_bind_eq_ok]
    refine ⟨by simp [valid device (mem_cons_self ..)], fresh, ?_⟩
    refine ih (fun other member => valid other (mem_cons_of_mem _ member)) ?_
    rwa [append_assoc, singleton_append]

/-- A device list is accepted exactly if it has one to eight entries that all
stand for observed devices. The result names these devices once each, in the
order of the list, and is a placement that a job may ask for. -/
theorem gpuSpecList_resolves (valid : snapshot.Valid) (gpuSpec : ByteString) :
    let entries := gpuSpec.splitOn deviceComma
    ((∃ devices, resolveGpuSpecList gpuSpec snapshot = .ok devices) ↔
      1 ≤ entries.length ∧ entries.length ≤ 8 ∧ ∀ entry ∈ entries, ∃ uuid, Denotes snapshot entry uuid) ∧
    ∀ devices, resolveGpuSpecList gpuSpec snapshot = .ok devices →
      (∃ named, (∀ entry ∈ entries, Denotes snapshot entry (named entry)) ∧ devices = (entries.map named).eraseDups) ∧
      1 ≤ devices.length ∧ devices.length ≤ 8 ∧ checkPlacement ⟨.required, devices⟩ 1 = .ok () := by
  intro entries
  have split : entries ≠ [] := splitOn_ne_nil deviceComma gpuSpec
  have denotes : ∀ entry uuid, resolveGpuSpec entry snapshot = .ok uuid ↔ Denotes snapshot entry uuid :=
    fun _ _ => resolveGpuSpec_ok_iff valid
  constructor
  · constructor
    · intro ⟨devices, found⟩
      obtain ⟨few, each, _⟩ := resolveGpuSpecList_ok_iff.mp found
      exact ⟨length_pos_iff.mpr split, few, fun entry member => ⟨_, (denotes entry _).mp (each entry member)⟩⟩
    · intro ⟨_, few, each⟩
      refine ⟨_, resolveGpuSpecList_ok_iff.mpr ⟨few, ?_, rfl⟩⟩
      intro entry member
      obtain ⟨uuid, named⟩ := each entry member
      have found := (denotes entry uuid).mpr named
      rw [resolved_eq found, found]
  · intro devices found
    obtain ⟨few, each, same⟩ := resolveGpuSpecList_ok_iff.mp found
    have present : devices ≠ [] := by
      rw [same, Ne, eraseDups_eq_nil, map_eq_nil_iff]
      exact split
    have short : devices.length ≤ 8 := by
      have bound := length_eraseDups_le ((gpuSpec.splitOn deviceComma).map (resolved snapshot))
      rw [length_map] at bound
      rw [same]
      omega
    have named := fun entry member => (denotes entry _).mp (each entry member)
    refine ⟨⟨resolved snapshot, named, same⟩, length_pos_iff.mpr present, short, ?_⟩
    have known : ∀ device ∈ devices, device.valid = true := by
      intro _ member
      rw [same, mem_eraseDups] at member
      obtain ⟨entry, listed, rfl⟩ := mem_map.mp member
      obtain ⟨observed, atObserved, own⟩ := (named entry listed).observed
      exact own ▸ valid.devices_ok.1 observed atObserved
    have checked : checkPlacementDevices [] devices = .ok () :=
      checkPlacementDevices_of_distinct known (by rw [same]; exact nodup_eraseDups _)
    simp only [checkPlacement]
    rw [guard_bind_eq_ok, unit_bind_eq_ok, rejectIf_eq_ok]
    exact ⟨fun bad => bad.elim present (Nat.not_lt.mpr short), checked, fun wrong => wrong rfl⟩

/-- Two devices named three times. -/
theorem gpuSpecList_resolves_repeated :
    let snapshot := GpuObservationSnapshot.allFree [⟨.ascii "GPU-0"⟩, ⟨.ascii "GPU-1"⟩]
    ∃ devices, resolveGpuSpecList (.ascii "1,GPU-0,01") snapshot = .ok devices ∧ 1 ≤ devices.length := by
  intro snapshot
  have resolved : resolveGpuSpecList (.ascii "1,GPU-0,01") snapshot = .ok [⟨.ascii "GPU-1"⟩, ⟨.ascii "GPU-0"⟩] := by
    decide
  have valid : snapshot.Valid := by decide
  exact ⟨_, resolved, ((gpuSpecList_resolves valid _).2 _ resolved).2.1⟩

/-- A specification without a comma, or one whose entries all name the device that it names as a whole. -/
def NamesWhole (snapshot : GpuObservationSnapshot) (gpuSpec : ByteString) : Prop :=
  deviceComma ∉ gpuSpec ∨ ∃ device, resolveGpuSpec gpuSpec snapshot = .ok device ∧
    ∀ entry ∈ gpuSpec.splitOn deviceComma, resolveGpuSpec entry snapshot = .ok device

/-- The placement of a required device that is named as one entry. -/
def SingleEntry (snapshot : GpuObservationSnapshot) (gpuSpec : ByteString) (placement : GpuPlacement) : Prop :=
  placement.mode = .required ∧ ∃ device, resolveGpuSpec gpuSpec snapshot = .ok device ∧ placement.devices = [device]

theorem eraseDups_eq_singleton {device : GpuUuid} (some : devices ≠ []) :
    devices.eraseDups = [device] ↔ ∀ other ∈ devices, other = device := by
  constructor
  · intro same other member
    rw [← mem_eraseDups, same] at member
    exact mem_singleton.mp member
  · intro all
    obtain ⟨first, rest, rfl⟩ := exists_cons_of_ne_nil some
    obtain ⟨rfl, others⟩ := forall_mem_cons.mp all
    rw [eraseDups_cons, filter_eq_nil_iff.mpr (by simpa using others), eraseDups_nil]

theorem singleEntry_iff (found : resolveGpuSpecList gpuSpec snapshot = .ok devices) :
    SingleEntry snapshot gpuSpec ⟨.required, devices⟩ ↔ NamesWhole snapshot gpuSpec := by
  obtain ⟨_, each, rfl⟩ := resolveGpuSpecList_ok_iff.mp found
  have some : (gpuSpec.splitOn deviceComma).map (resolved snapshot) ≠ [] := by
    rw [Ne, map_eq_nil_iff]
    exact splitOn_ne_nil deviceComma gpuSpec
  constructor
  · rintro ⟨_, device, whole, single⟩
    have all := (eraseDups_eq_singleton some).mp single
    refine .inr ⟨device, whole, fun entry member => ?_⟩
    rw [each entry member, all _ (mem_map_of_mem member)]
  · rintro (plain | ⟨device, whole, all⟩)
    · have alone : gpuSpec.splitOn deviceComma = [gpuSpec] := 
        splitOnP_eq_singleton fun byte inside => beq_false_of_ne fun same => plain (same ▸ inside)
      rw [alone] at each ⊢
      exact ⟨rfl, _, each gpuSpec (mem_singleton_self _), by simp [eraseDups_cons]⟩
    · refine ⟨rfl, device, whole, (eraseDups_eq_singleton some).mpr ?_⟩
      intro other member
      obtain ⟨entry, listed, rfl⟩ := mem_map.mp member
      exact resolved_eq (all entry listed)

theorem IpcService.admitSubmit_gpuSpec {service : IpcService} {peer : PeerCredentials} {request : IpcSubmitRequest}
    {spec : JobSpec} (observed : service.gpu = some snapshot) (given : request.gpuSpec = some gpuSpec)
    (plain : request.gpuPreferredSpec = none) :
    service.admitSubmit peer request = .ok spec ↔ request.gpuRequest = 1 ∧
      ∃ devices, resolveGpuSpecList gpuSpec snapshot = .ok devices ∧
        validate (service.submittedSpec peer request ⟨.required, devices⟩) = .ok () ∧
        spec = service.submittedSpec peer request ⟨.required, devices⟩ := by
  have placement : ∀ placement, service.placementOf request = .ok placement ↔ request.gpuRequest = 1 ∧
      ∃ devices, resolveGpuSpecList gpuSpec snapshot = .ok devices ∧ placement = ⟨.required, devices⟩ := by
    intro placement
    simp only [placementOf, given, plain, observed, require]
    rw [guard_bind_eq_ok, not_not]
    refine and_congr_right fun _ => ?_
    show (((resolveGpuSpecList gpuSpec snapshot).mapError _ >>= _) = _) ↔ _
    rw [bind_eq_ok]
    simp only [mapError_eq_ok]
    refine exists_congr fun devices => and_congr_right fun _ => ?_
    exact ⟨fun same => (Except.ok.inj same).symm, fun same => congrArg Except.ok same.symm⟩
  rw [admitSubmit, bind_eq_ok]
  simp only [mapError_eq_ok, placement, unit_bind_eq_ok]
  constructor
  · rintro ⟨_, ⟨one, devices, found, rfl⟩, valid, same⟩
    exact ⟨one, devices, found, valid, (Except.ok.inj same).symm⟩
  · rintro ⟨one, devices, found, valid, rfl⟩
    exact ⟨_, ⟨one, devices, found, rfl⟩, valid, rfl⟩

/-- A request of version 3 is refused or asks for the one device that its text names exactly when the text is not a
list, or is a list that is refused or whose entries all stand for the device that the text as a whole stands for. -/
theorem old_placement_iff (service : IpcService) (peer : PeerCredentials) (payload : ByteString) (request : IpcRequest)
    (snapshot : GpuObservationSnapshot) (gpuSpec : ByteString) (observed : service.gpu = some snapshot)
    (decoded : decodeRequestPayload payload = .ok request) (old : request.version = 3)
    (given : request.submit.gpuSpec = some gpuSpec) :
    (∀ spec, service.admitSubmit peer request.submit = .ok spec → SingleEntry snapshot gpuSpec spec.gpuPlacement) ↔
      NamesWhole snapshot gpuSpec ∨ request.submit.gpuRequest ≠ 1 ∨ ∀ devices,
        resolveGpuSpecList gpuSpec snapshot = .ok devices →
          validate (service.submittedSpec peer request.submit ⟨.required, devices⟩) ≠ .ok () := by
  have plain := (decodeRequestPayload_yields decoded).2 (by rw [old]; decide)
  constructor
  · intro single
    by_contra fails
    simp only [not_or, not_forall, not_not] at fails
    obtain ⟨other, one, devices, found, valid⟩ := fails
    exact other ((singleEntry_iff found).mp (single _
      ((IpcService.admitSubmit_gpuSpec observed given plain).mpr ⟨one, devices, found, valid, rfl⟩)))
  · intro condition spec taken
    obtain ⟨one, devices, found, valid, rfl⟩ := (IpcService.admitSubmit_gpuSpec observed given plain).mp taken
    rcases condition with whole | other | refused
    · exact (singleEntry_iff found).mpr whole
    · exact absurd one other
    · exact absurd valid (refused devices found)

/-- A submission of version 3 that names its devices in this way. -/
def oldRequest (gpuSpec : ByteString) : IpcRequest :=
  { kind := .submit, version := 3, submit := { argv := [[97]], cwd := [47], gpuSpec := some gpuSpec } }

/-- The payload up to the text, which is of so many bytes. -/
def oldHead (length : UInt8) : ByteString :=
  [3, 1, 1, 0, 0, 0, 1, 0, 0, 0, 97, 1, 0, 0, 0, 47, 0, 0, 0, 0, 1, 0, 0, 0, 0, 0, 0, 0, 1, length, 0, 0, 0]

def twoDeviceService : IpcService :=
  { load := .error .backendUnavailable, gpu := some (.allFree [⟨.ascii "GPU-0"⟩, ⟨.ascii "GPU-1"⟩]), now := 1 }

theorem old_placement_iff_index :
    let answer := twoDeviceService.admitSubmit { uid := 7 } (oldRequest (.ascii "1")).submit
    answer.map (·.gpuPlacement) = .ok ⟨.required, [⟨.ascii "GPU-1"⟩]⟩ ∧ ∀ spec, answer = .ok spec →
      SingleEntry (.allFree [⟨.ascii "GPU-0"⟩, ⟨.ascii "GPU-1"⟩]) (.ascii "1") spec.gpuPlacement :=
  ⟨by decide, (old_placement_iff twoDeviceService { uid := 7 } (oldHead 1 ++ .ascii "1")
      (oldRequest (.ascii "1")) _ _ rfl
    (by decide) rfl rfl).mpr (.inl (.inl (by decide)))⟩

/-- The devices of a list, which version 3 does not have. -/
theorem old_placement_set : decodeRequestPayload (oldHead 3 ++ .ascii "0,1") = .ok (oldRequest (.ascii "0,1")) ∧
    (twoDeviceService.admitSubmit { uid := 7 } (oldRequest (.ascii "0,1")).submit).map (·.gpuPlacement) =
      .ok ⟨.required, [⟨.ascii "GPU-0"⟩, ⟨.ascii "GPU-1"⟩]⟩ := by
  decide

end Yori
