import Yori.Ipc.RequestCodec
import Yori.Ipc.Service
import Yori.Library.FirstOccurrences

/-! What the decoder lets through, and the texts with which a placement is refused. -/

namespace Yori
open Parsing Checked ByteString IpcProtocolLimits JobSpecLimits List IpcReader Yields

variable {payload : ByteString} {request : IpcRequest} {α : Type} {version : UInt8}

theorem IpcReader.string_yields : Yields string fun text => containsNul text = false := by
  refine skip fun _ => skip fun _ => skip fun text => bind failIf fun _ clean => ?_
  exact pure (Bool.eq_false_iff.mpr clean)

theorem IpcReader.optional_yields {item : IpcReader α} {property : α → Prop} (each : Yields item property) :
    Yields (optional item) fun found => ∀ value, found = some value → property value := by
  refine skip fun present => ?_
  refine ite (each.bind fun value holds => pure ?_) (pure ?_)
  · intro _ found
    cases found
    exact holds
  · intro _ found
    cases found

/-- The heads that are accepted. -/
theorem IpcReader.header_yields :
    Yields header fun head => ipcVersionSupported head.1 = true ∧ ¬(head.2 = .inspect ∧ head.1 < 2) := by
  refine skip fun version => skip fun value => bind failIf fun _ supported => ?_
  have known : Yields (kind version value) fun kind => ¬(kind = .inspect ∧ version < 2) := by
    rw [kind]
    split
    · intro _ _ _ done
      cases done
    · exact bind failIf fun _ late => pure late
  exact known.bind fun kind late => pure ⟨Bool.of_not_eq_false supported, late⟩

/-- The names of devices in a submission have no NUL byte. -/
structure IpcSubmitRequest.CleanDevices (submit : IpcSubmitRequest) : Prop where
  required : ∀ spec, submit.gpuSpec = some spec → containsNul spec = false
  preferred : ∀ spec, submit.gpuPreferredSpec = some spec → containsNul spec = false

/-- Those that a version carries have no NUL byte, and the others are missing. -/
theorem decodeSubmit_yields : Yields (decodeSubmit version) fun submit =>
    submit.CleanDevices ∧ (¬version ≥ 4 → submit.gpuPreferredSpec = none) := by
  have versioned (carried : Prop) [Decidable carried] :
      Yields (if carried then optional string else pure none)
        fun found => (∀ spec, found = some spec → containsNul spec = false) ∧ (¬carried → found = none) := by
    split
    · rename_i carries
      intro symbols found rest read
      exact ⟨optional_yields string_yields symbols found rest read, fun other => absurd carries other⟩
    · refine pure ⟨?_, fun _ => rfl⟩
      intro _ found
      cases found
  refine skip fun argv => skip fun cwd => skip fun entries => skip fun gpuRequest =>
    skip fun launchProfile => skip fun logdir => skip fun context => ?_
  refine (versioned (version ≥ 3)).bind fun gpuSpec required => ?_
  exact (versioned (version ≥ 4)).bind fun preferredSpec preferred =>
    pure ⟨⟨required.1, preferred.1⟩, preferred.2⟩

/-- What the decoder says of the requests that reach the service. -/
structure IpcRequest.Accepted (request : IpcRequest) : Prop where
  supported : ipcVersionSupported request.version = true
  late : ¬(request.kind = .inspect ∧ request.version < 2)
  devices : request.submit.CleanDevices

theorem decodeRequestFields_yields {kind : IpcRequestKind} :
    Yields (decodeRequestFields version kind) fun request =>
      request.version = version ∧ request.kind = kind ∧ request.submit.CleanDevices ∧
        (¬version ≥ 4 → request.submit.gpuPreferredSpec = none) := by
  have none : ({} : IpcSubmitRequest).CleanDevices ∧
    (¬version ≥ 4 → ({} : IpcSubmitRequest).gpuPreferredSpec = none) := by
    refine ⟨?_, fun _ => rfl⟩
    constructor <;> intro _ found <;> cases found
  cases kind with
  | submit => exact decodeSubmit_yields.bind fun submit clean => pure ⟨rfl, rfl, clean⟩
  | ps | queue | gpu => exact pure ⟨rfl, rfl, none⟩
  | cancel | tensorboard | inspect => exact skip fun jobId => pure ⟨rfl, rfl, none⟩
  | logs => exact skip fun jobId => skip fun maxBytes => pure ⟨rfl, rfl, none⟩
  | logsFollow => exact skip fun follow => pure ⟨rfl, rfl, none⟩

theorem decodeRequestPayload_yields (decoded : decodeRequestPayload payload = .ok request) :
    request.Accepted ∧ (¬request.version ≥ 4 → request.submit.gpuPreferredSpec = none) := by
  have all : Yields decodeRequestBody fun request =>
      request.Accepted ∧ (¬request.version ≥ 4 → request.submit.gpuPreferredSpec = none) := by
    refine header_yields.bind fun head known => ?_
    refine decodeRequestFields_yields.bind fun request fields => ?_
    obtain ⟨version, kind, clean, absent⟩ := fields
    rw [← version, ← kind] at known
    rw [← version] at absent
    exact skip fun _ => pure ⟨⟨known.1, known.2, clean⟩, absent⟩
  rw [decodeRequestPayload, decodePayload] at decoded
  split at decoded
  · cases decoded
  · cases read : decodeRequestBody payload with
    | error =>
      rw [read] at decoded
      cases decoded
    | ok found =>
      rw [read] at decoded
      cases decoded
      exact all payload found.1 found.2 read

theorem decodeRequestPayload_accepted (decoded : decodeRequestPayload payload = .ok request) :
    request.Accepted := (decodeRequestPayload_yields decoded).1

/-! The texts of refused placements. Only an index that no device has, and a set as a whole, are repeated. -/

section Texts

variable {snapshot : GpuObservationSnapshot} {text entry gpuSpec : ByteString} {entries : List ByteString}
  {count : Nat}

/-- A run of digits that is the index of no observed device. -/
def UnknownIndex (snapshot : GpuObservationSnapshot) (entry : ByteString) : Prop :=
  entry ≠ [] ∧ entry.all digit = true ∧ ∀ device ∈ snapshot.devices, device.index.toNat ≠ decimal entry

/-- An unknown index that leaves no room in a string of the protocol for the words in front of it. -/
def LongIndex (snapshot : GpuObservationSnapshot) (entry : ByteString) : Prop :=
  UnknownIndex snapshot entry ∧ 21 + entry.length > maxStringBytes

def Resolves (snapshot : GpuObservationSnapshot) (entry : ByteString) : Prop :=
  ∃ uuid, resolveGpuSpec entry snapshot = .ok uuid

/-- A set that is refused with more than a string may hold: for an entry, or for one entry too many. -/
def LongSet (snapshot : GpuObservationSnapshot) (gpuSpec : ByteString) : Prop :=
  ∃ before entry after, gpuSpec.splitOn deviceComma = before ++ entry :: after ∧
    (∀ earlier ∈ before, Resolves snapshot earlier) ∧
    (before.length < JobSpecLimits.maxPlacementDevices ∧ LongIndex snapshot entry ∨
      before.length = JobSpecLimits.maxPlacementDevices ∧ 18 + gpuSpec.length > maxStringBytes)

/-- The index is looked up among the devices unless it is too large for one. -/
theorem find_index_eq_none {index : Nat} :
    (if index > 0xFFFFFFFF then none else snapshot.devices.find? (·.index = UInt32.ofNat index)) = none ↔
      ∀ device ∈ snapshot.devices, device.index.toNat ≠ index := by
  by_cases large : index > 0xFFFFFFFF
  · rw [if_pos large]
    refine ⟨fun _ device _ same => ?_, fun _ => rfl⟩
    have small := device.index.toNat_lt
    omega
  · have fits : index < UInt32.size := by
      rw [UInt32.size]
      omega
    rw [if_neg large, find?_eq_none]
    refine forall₂_congr fun device _ => not_congr ?_
    rw [decide_eq_true_iff, ← UInt32.toNat_inj, UInt32.toNat_ofNat_of_lt' fits]

theorem resolveGpuSpec_unknown (unknown : UnknownIndex snapshot entry) :
    resolveGpuSpec entry snapshot = .error (ascii "GPU_INDEX_NOT_FOUND: " ++ entry) := by
  obtain ⟨present, digits, absent⟩ := unknown
  have some : entry.isEmpty = false := isEmpty_eq_false_iff.mpr present
  rw [resolveGpuSpec, some, if_neg Bool.false_ne_true, if_pos digits]
  simp only [find_index_eq_none.mpr absent]

theorem resolveGpuSpec_error (refused : resolveGpuSpec entry snapshot = .error text) :
    text = ascii "GPU_SPEC_EMPTY" ∨ text = ascii "GPU_UUID_INVALID" ∨
      UnknownIndex snapshot entry ∧ text = ascii "GPU_INDEX_NOT_FOUND: " ++ entry ∨
      entry.length ≤ GpuUuid.maxBytes ∧ text = ascii "GPU_UUID_NOT_FOUND: " ++ entry := by
  unfold resolveGpuSpec at refused
  split at refused
  · cases refused
    exact .inl rfl
  · rename_i present
    split at refused
    · rename_i digits
      simp only at refused
      split at refused
      · cases refused
      · rename_i absent
        cases refused
        have some : entry ≠ [] := by simpa using present
        exact .inr (.inr (.inl ⟨⟨some, digits, find_index_eq_none.mp absent⟩, rfl⟩))
    · simp only at refused
      split at refused
      · cases refused
        exact .inr (.inl rfl)
      · rename_i valid
        split at refused
        · cases refused
        · cases refused
          simp only [GpuUuid.valid, Bool.not_and, Bool.or_eq_true, not_or, Bool.not_eq_eq_eq_not, Bool.not_true,
            Bool.not_false, decide_eq_false_iff_not, not_not] at valid
          exact .inr (.inr (.inr ⟨valid.1.2, rfl⟩))

/-- A single device is refused with too long a text exactly for a long unknown index. -/
theorem resolveGpuSpec_long :
    (∃ text, resolveGpuSpec entry snapshot = .error text ∧ text.length > maxStringBytes) ↔
      LongIndex snapshot entry := by
  constructor
  · rintro ⟨text, refused, long⟩
    rw [maxStringBytes] at long
    rcases resolveGpuSpec_error refused with rfl | rfl | ⟨unknown, rfl⟩ | ⟨short, rfl⟩
    · exact absurd long (by decide)
    · exact absurd long (by decide)
    · rw [length_append] at long
      exact ⟨unknown, long⟩
    · rw [length_append, show (ascii "GPU_UUID_NOT_FOUND: ").length = 20 from rfl] at long
      rw [GpuUuid.maxBytes] at short
      omega
  · rintro ⟨unknown, long⟩
    refine ⟨_, resolveGpuSpec_unknown unknown, ?_⟩
    rw [length_append]
    exact long

theorem resolveGpuSpec_clean (clean : containsNul entry = false)
    (refused : resolveGpuSpec entry snapshot = .error text) : containsNul text = false := by
  rcases resolveGpuSpec_error refused with rfl | rfl | ⟨_, rfl⟩ | ⟨_, rfl⟩
  · decide
  · decide
  · rw [containsNul_append, clean]
    decide
  · rw [containsNul_append, clean]
    decide

/-- The entries are resolved in their order, and the ninth is not looked at. -/
theorem resolveGpuEntries_error {out : List GpuUuid} (few : count ≤ maxPlacementDevices) :
    resolveGpuEntries gpuSpec snapshot count out entries = .error text ↔
    ∃ before entry after, entries = before ++ entry :: after ∧ (∀ earlier ∈ before, Resolves snapshot earlier) ∧
      (count + before.length < maxPlacementDevices ∧ resolveGpuSpec entry snapshot = .error text ∨
        count + before.length = maxPlacementDevices ∧ text = ascii "GPU_SPEC_INVALID: " ++ gpuSpec) := by
  induction entries generalizing count out with
  | nil =>
    constructor
    · intro refused
      cases refused
    · rintro ⟨before, entry, after, none, _⟩
      exact absurd none.symm (append_ne_nil_of_right_ne_nil before (cons_ne_nil entry after))
  | cons entry rest ih =>
    rw [Search.exists_place_cons]
    simp only [length_nil, length_cons, forall_mem_cons, not_mem_nil, false_imp_iff, implies_true,
      true_and, Nat.add_zero]
    rw [resolveGpuEntries]
    by_cases full : count + 1 > maxPlacementDevices
    · rw [rejectIf, if_pos full]
      constructor
      · intro refused
        cases refused
        exact .inl (.inr ⟨by omega, rfl⟩)
      · rintro ((⟨room, _⟩ | ⟨_, rfl⟩) | ⟨_, _, _, _, _, ⟨room, _⟩ | ⟨whole, _⟩⟩)
        · omega
        · rfl
        · omega
        · omega
    · rw [rejectIf_of_not full]
      cases here : resolveGpuSpec entry snapshot with
      | error failure =>
        -- nothing behind this entry is looked at
        constructor
        · intro refused
          cases refused
          exact .inl (.inl ⟨by omega, rfl⟩)
        · rintro ((⟨_, refused⟩ | ⟨whole, _⟩) | ⟨_, _, _, _, ⟨⟨_, found⟩, _⟩, _⟩)
          · cases refused
            rfl
          · omega
          · rw [here] at found
            cases found
      | ok uuid =>
        refine (ih (by omega)).trans ?_
        constructor
        · rintro ⟨before, other, after, cut, resolved, reason⟩
          rw [Nat.add_right_comm, Nat.add_assoc] at reason
          exact .inr ⟨before, other, after, cut, ⟨⟨uuid, here⟩, resolved⟩, reason⟩
        · rintro ((⟨_, refused⟩ | ⟨whole, _⟩) | ⟨before, other, after, cut, ⟨_, resolved⟩, reason⟩)
          · cases refused
          · omega
          · rw [← Nat.add_assoc, Nat.add_right_comm] at reason
            exact ⟨before, other, after, cut, resolved, reason⟩

/-- The device that an entry is resolved to. -/
def resolved (snapshot : GpuObservationSnapshot) (entry : ByteString) : GpuUuid :=
  (resolveGpuSpec entry snapshot).toOption.getD ⟨[]⟩

theorem resolved_eq {uuid : GpuUuid} (found : resolveGpuSpec entry snapshot = .ok uuid) :
    resolved snapshot entry = uuid := by
  rw [resolved, found]
  rfl

/-- The loop over the entries, from the devices it has seen so far. -/
theorem resolveGpuEntries_ok_iff (seen : List GpuUuid) {devices : List GpuUuid}
    (within : count ≤ maxPlacementDevices) :
    resolveGpuEntries gpuSpec snapshot count seen.eraseDups entries = .ok devices ↔
      count + entries.length ≤ maxPlacementDevices ∧
        (∀ entry ∈ entries, resolveGpuSpec entry snapshot = .ok (resolved snapshot entry)) ∧
        devices = (seen ++ entries.map (resolved snapshot)).eraseDups := by
  induction entries generalizing count seen with
  | nil =>
    simp only [resolveGpuEntries, Except.ok.injEq, length_nil, map_nil, append_nil]
    exact ⟨fun same => ⟨within, by simp, same.symm⟩, fun same => same.2.2.symm⟩
  | cons entry _ ih =>
    have kept : ∀ uuid, (if uuid ∈ seen.eraseDups then seen.eraseDups else seen.eraseDups ++ [uuid]) =
        (seen ++ [uuid]).eraseDups := by
      intro _
      rw [FirstOccurrences.eraseDups_concat]
      simp only [mem_eraseDups]
    rw [resolveGpuEntries, guard_bind_eq_ok, bind_eq_ok, length_cons, forall_mem_cons, map_cons, append_cons]
    constructor
    · intro ⟨room, uuid, found, later⟩
      rw [kept, ih _ (by omega), ← resolved_eq found] at later
      exact ⟨by omega, ⟨by rw [resolved_eq found, found], later.2.1⟩, later.2.2⟩
    · intro ⟨few, ⟨found, each⟩, same⟩
      refine ⟨by omega, resolved snapshot entry, found, ?_⟩
      rw [kept, ih _ (by omega)]
      exact ⟨by omega, each, same⟩

/-- A set has at least one entry, so that only its entries can refuse it. -/
theorem resolveGpuSpecList_error :
    resolveGpuSpecList gpuSpec snapshot = .error text ↔
      resolveGpuEntries gpuSpec snapshot 0 [] (gpuSpec.splitOn deviceComma) = .error text := by
  rw [resolveGpuSpecList]
  cases entries : resolveGpuEntries gpuSpec snapshot 0 [] (gpuSpec.splitOn deviceComma) with
  | error => exact Iff.rfl
  | ok devices =>
    obtain ⟨_, _, same⟩ := (resolveGpuEntries_ok_iff [] (Nat.zero_le _)).mp entries
    have present : devices ≠ [] := by
      rw [same, nil_append, ne_eq, FirstOccurrences.eraseDups_eq_nil, map_eq_nil_iff]
      exact splitOn_ne_nil deviceComma gpuSpec
    constructor
    · intro refused
      change (rejectIf (devices = []) _ >>= fun _ => _) = _ at refused
      rw [rejectIf_of_not present] at refused
      cases refused
    · intro refused
      cases refused

/-- What is cut out of a text without NUL bytes has none. -/
theorem containsNul_splitOn {piece : ByteString} {separator : UInt8} (clean : containsNul text = false)
    (member : piece ∈ text.splitOn separator) : containsNul piece = false := by
  have absent : nul ∉ text := by simpa [containsNul] using clean
  have without : nul ∉ piece := fun inside => absent ((Separated.of_mem_splitOn member).2 inside)
  simpa [containsNul] using without

theorem resolveGpuSpecList_long :
    (∃ text, resolveGpuSpecList gpuSpec snapshot = .error text ∧ text.length > maxStringBytes) ↔
      LongSet snapshot gpuSpec := by
  have length : (ascii "GPU_SPEC_INVALID: " ++ gpuSpec).length = 18 + gpuSpec.length := length_append
  simp only [resolveGpuSpecList_error, resolveGpuEntries_error (Nat.zero_le _), Nat.zero_add]
  constructor
  · rintro ⟨text, ⟨before, entry, after, cut, resolved, ⟨room, refused⟩ | ⟨whole, rfl⟩⟩, long⟩
    · exact ⟨before, entry, after, cut, resolved, .inl ⟨room, resolveGpuSpec_long.mp ⟨text, refused, long⟩⟩⟩
    · exact ⟨before, entry, after, cut, resolved, .inr ⟨whole, length ▸ long⟩⟩
  · rintro ⟨before, entry, after, cut, resolved, ⟨room, index⟩ | ⟨whole, long⟩⟩
    · obtain ⟨text, refused, long⟩ := resolveGpuSpec_long.mpr index
      exact ⟨text, ⟨before, entry, after, cut, resolved, .inl ⟨room, refused⟩⟩, long⟩
    · exact ⟨_, ⟨before, entry, after, cut, resolved, .inr ⟨whole, rfl⟩⟩, length ▸ long⟩

theorem resolveGpuSpecList_clean (clean : containsNul gpuSpec = false)
    (refused : resolveGpuSpecList gpuSpec snapshot = .error text) : containsNul text = false := by
  rw [resolveGpuSpecList_error, resolveGpuEntries_error (Nat.zero_le _)] at refused
  obtain ⟨before, entry, after, cut, _, ⟨_, refused⟩ | ⟨_, rfl⟩⟩ := refused
  · exact resolveGpuSpec_clean (containsNul_splitOn clean (cut ▸ mem_append_right _ mem_cons_self)) refused
  · rw [containsNul_append, clean]
    decide

end Texts

namespace IpcService

/-- A submission whose devices are refused with a text that no response can carry. -/
def LongRefusal (service : IpcService) (request : IpcSubmitRequest) : Prop :=
  request.gpuRequest = 1 ∧ ∃ observed, service.gpu = some observed ∧
    match request.gpuSpec, request.gpuPreferredSpec with
    | some spec, none => LongSet observed spec
    | none, some spec => LongIndex observed spec
    | _, _ => False

/-- What both kinds of placement share: the devices of a request for one device are resolved over an observation. -/
def resolvedPlacement (service : IpcService) (gpuRequest : UInt32) (mode : GpuPlacementMode)
    (resolve : GpuObservationSnapshot → Except ByteString (List GpuUuid)) :
    Except (IpcError × ByteString) GpuPlacement := do
  rejectIf (gpuRequest ≠ 1) (.invalidSpec, JobSpecErrorCode.placementGpuRequestConflict.toString)
  let snapshot ← require service.gpu (.notAvailable, ascii "no gpu observation available for placement resolution")
  let devices ← (resolve snapshot).mapError fun failure => (.invalidSpec, failure)
  return { mode, devices }

/-- The words of a refusal that is not about the devices. -/
def BriefText (text : ByteString) : Prop := text.length ≤ 64 ∧ containsNul text = false

variable {service : IpcService} {request : IpcSubmitRequest}
  {resolve : GpuObservationSnapshot → Except ByteString (List GpuUuid)} {failure : IpcError × ByteString}
  {mode : GpuPlacementMode} {spec : ByteString} {gpuRequest : UInt32}

theorem resolvedPlacement_error (refused : service.resolvedPlacement gpuRequest mode resolve = .error failure) :
    BriefText failure.2 ∨
      gpuRequest = 1 ∧ ∃ observed, service.gpu = some observed ∧ resolve observed = .error failure.2 := by
  rw [resolvedPlacement] at refused
  by_cases single : gpuRequest ≠ 1
  · rw [rejectIf, if_pos single] at refused
    cases refused
    exact .inl (by unfold BriefText; decide)
  · rw [rejectIf_of_not single] at refused
    cases observed : service.gpu with
    | none =>
      rw [observed] at refused
      cases refused
      exact .inl (by unfold BriefText; decide)
    | some snapshot =>
      rw [observed] at refused
      change ((resolve snapshot).mapError _ >>= _) = _ at refused
      cases resolved : resolve snapshot with
      | ok =>
        rw [resolved] at refused
        cases refused
      | error =>
        rw [resolved] at refused
        cases refused
        exact .inr ⟨not_not.mp single, snapshot, rfl, resolved⟩

theorem resolvedPlacement_long {Long : GpuObservationSnapshot → Prop}
    (each : ∀ observed, (∃ text, resolve observed = .error text ∧ text.length > maxStringBytes) ↔ Long observed) :
    (∃ failure, service.resolvedPlacement gpuRequest mode resolve = .error failure ∧
      failure.2.length > maxStringBytes) ↔
      gpuRequest = 1 ∧ ∃ observed, service.gpu = some observed ∧ Long observed := by
  constructor
  · rintro ⟨failure, refused, long⟩
    rcases resolvedPlacement_error refused with brief | ⟨single, observed, atObserved, resolved⟩
    · have short := brief.1
      rw [maxStringBytes] at long
      omega
    · exact ⟨single, observed, atObserved, (each observed).mp ⟨failure.2, resolved, long⟩⟩
  · rintro ⟨single, observed, atObserved, isLong⟩
    obtain ⟨text, refused, long⟩ := (each observed).mpr isLong
    refine ⟨(.invalidSpec, text), ?_, long⟩
    rw [resolvedPlacement, rejectIf_of_not (not_not.mpr single), atObserved]
    change ((resolve observed).mapError _ >>= _) = _
    rw [refused]
    rfl

theorem placementOf_required (required : request.gpuSpec = some spec) (unpreferred : request.gpuPreferredSpec = none) :
    service.placementOf request =
      service.resolvedPlacement request.gpuRequest .required (resolveGpuSpecList spec) := by
  rw [placementOf, required, unpreferred]
  rfl

theorem placementOf_preferred (unrequired : request.gpuSpec = none) (preferred : request.gpuPreferredSpec = some spec) :
    service.placementOf request = service.resolvedPlacement request.gpuRequest .preferred
      fun snapshot => (resolveGpuSpec spec snapshot).map fun target => [target] := by
  rw [placementOf, unrequired, preferred, resolvedPlacement]
  simp only
  congr 1
  funext _
  congr 1
  funext snapshot
  cases resolveGpuSpec spec snapshot with
  | error | ok => rfl

theorem map_eq_error {ε β : Type} {first : Except ε α} {f : α → β} {error : ε} :
    first.map f = .error error ↔ first = .error error := by
  cases first with
  | error | ok => simp [Except.map]

/-- A placement is refused with too long a text exactly in these cases. -/
theorem placementOf_long : (∃ failure, service.placementOf request = .error failure ∧
    failure.2.length > maxStringBytes) ↔ service.LongRefusal request := by
  rw [LongRefusal]
  cases required : request.gpuSpec with
  | none =>
    cases preferred : request.gpuPreferredSpec with
    | none =>
      constructor
      · rintro ⟨_, refused, _⟩
        rw [placementOf, required, preferred] at refused
        cases refused
      · rintro ⟨_, _, _, impossible⟩
        exact impossible.elim
    | some =>
      rw [placementOf_preferred required preferred]
      refine resolvedPlacement_long fun observed => ?_
      simp only [map_eq_error]
      exact resolveGpuSpec_long
  | some =>
    cases preferred : request.gpuPreferredSpec with
    | none =>
      rw [placementOf_required required preferred]
      exact resolvedPlacement_long fun observed => resolveGpuSpecList_long
    | some =>
      constructor
      · rintro ⟨_, refused, long⟩
        rw [placementOf, required, preferred] at refused
        cases refused
        exact absurd long (by decide)
      · rintro ⟨_, _, _, impossible⟩
        exact impossible.elim

theorem placementOf_clean (clean : request.CleanDevices) (refused : service.placementOf request = .error failure) :
    containsNul failure.2 = false := by
  cases required : request.gpuSpec with
  | none =>
    cases preferred : request.gpuPreferredSpec with
    | none =>
      rw [placementOf, required, preferred] at refused
      cases refused
    | some spec =>
      rw [placementOf_preferred required preferred] at refused
      rcases resolvedPlacement_error refused with brief | ⟨_, _, _, resolved⟩
      · exact brief.2
      · exact resolveGpuSpec_clean (clean.preferred spec preferred) (map_eq_error.mp resolved)
  | some spec =>
    cases preferred : request.gpuPreferredSpec with
    | none =>
      rw [placementOf_required required preferred] at refused
      rcases resolvedPlacement_error refused with brief | ⟨_, _, _, resolved⟩
      · exact brief.2
      · exact resolveGpuSpecList_clean (clean.required spec required) resolved
    | some =>
      rw [placementOf, required, preferred] at refused
      cases refused
      decide

end IpcService

end Yori
