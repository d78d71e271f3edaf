import Yori.Scheduler.Selection

namespace Yori
open List

/-- A device that may be given to a job: observed free and not leased. -/
structure Usable (gpuSnapshot : GpuObservationSnapshot) (snapshot : StateSnapshot) (device : GpuObservation) :
    Prop where
  observed : device ∈ gpuSnapshot.devices
  free : device.state = .free
  unleased : ∀ lease ∈ snapshot.leases, lease.gpuUuid ≠ device.uuid

/-- The device of smallest physical index with a property. -/
def Lowest (property : GpuObservation → Prop) (device : GpuObservation) : Prop :=
  property device ∧ ∀ other, property other → device.index ≤ other.index

def Satisfiable (gpuSnapshot : GpuObservationSnapshot) (snapshot : StateSnapshot) (placement : GpuPlacement) : Prop :=
  match placement.mode with
  | .required => ∃ device, Usable gpuSnapshot snapshot device ∧ device.uuid ∈ placement.devices
  | .preferred | .any => ∃ device, Usable gpuSnapshot snapshot device

/-- The choice for a job without a placement of its own, given the devices that
required jobs of the window have named. -/
def AnyChoice (gpuSnapshot : GpuObservationSnapshot) (snapshot : StateSnapshot) (named : GpuUuid → Prop)
    (device : GpuObservation) : Prop :=
  ((∃ other, Usable gpuSnapshot snapshot other ∧ ¬named other.uuid) →
    Lowest (fun other => Usable gpuSnapshot snapshot other ∧ ¬named other.uuid) device) ∧
  ((¬∃ other, Usable gpuSnapshot snapshot other ∧ ¬named other.uuid) →
    Lowest (Usable gpuSnapshot snapshot) device)

/-- The device a job receives, by the mode of its placement. -/
def Choice (gpuSnapshot : GpuObservationSnapshot) (snapshot : StateSnapshot) (named : GpuUuid → Prop)
    (placement : GpuPlacement) (device : GpuObservation) : Prop :=
  match placement.mode with
  | .required => Lowest (fun other => Usable gpuSnapshot snapshot other ∧ other.uuid ∈ placement.devices) device
  | .preferred => ∀ target, placement.devices = [target] →
      ((∃ other, Usable gpuSnapshot snapshot other ∧ other.uuid = target) →
        Usable gpuSnapshot snapshot device ∧ device.uuid = target) ∧
      ((¬∃ other, Usable gpuSnapshot snapshot other ∧ other.uuid = target) →
        AnyChoice gpuSnapshot snapshot named device)
  | .any => AnyChoice gpuSnapshot snapshot named device

variable {gpuSnapshot : GpuObservationSnapshot} {snapshot : StateSnapshot} {device : GpuObservation}
  {placement : GpuPlacement} {targets : List GpuUuid} {property : GpuObservation → Prop}
  {devices : List GpuObservation} {uuid : GpuUuid}

theorem leased_eq_false : leased snapshot uuid = false ↔ ∀ lease ∈ snapshot.leases, lease.gpuUuid ≠ uuid := by
  simp [leased]

/-- The test the search loops make before they look at an index. -/
def available (snapshot : StateSnapshot) (device : GpuObservation) : Bool :=
  device.state = .free ∧ leased snapshot device.uuid = false

theorem available_iff (observed : device ∈ gpuSnapshot.devices) :
    available snapshot device = true ↔ Usable gpuSnapshot snapshot device := by
  rw [available, decide_eq_true_iff, leased_eq_false]
  exact ⟨fun ⟨free, unleased⟩ => ⟨observed, free, unleased⟩, fun usable => ⟨usable.free, usable.unleased⟩⟩

instance decidableUsable (gpuSnapshot : GpuObservationSnapshot) (snapshot : StateSnapshot) (device : GpuObservation) :
    Decidable (Usable gpuSnapshot snapshot device) :=
  decidable_of_iff (device ∈ gpuSnapshot.devices ∧ available snapshot device = true)
    ⟨fun ⟨observed, free⟩ => (available_iff observed).mp free,
      fun usable => ⟨usable.observed, (available_iff usable.observed).mpr usable⟩⟩

/-- The device may be given to a job with this placement. -/
structure Fits (gpuSnapshot : GpuObservationSnapshot) (snapshot : StateSnapshot) (placement : GpuPlacement)
    (device : GpuObservation) : Prop where
  usable : Usable gpuSnapshot snapshot device
  named : placement.mode = .required → device.uuid ∈ placement.devices

theorem satisfiable_iff_fits :
    Satisfiable gpuSnapshot snapshot placement ↔ ∃ device, Fits gpuSnapshot snapshot placement device := by
  unfold Satisfiable
  cases mode : placement.mode with
  | required =>
    exact exists_congr fun device => ⟨fun ⟨usable, named⟩ => ⟨usable, fun _ => named⟩,
      fun fits => ⟨fits.usable, fits.named mode⟩⟩
  | preferred | any =>
    exact exists_congr fun device => ⟨fun usable => ⟨usable, by simp [mode]⟩, fun fits => fits.usable⟩

instance decidableFits (gpuSnapshot : GpuObservationSnapshot) (snapshot : StateSnapshot) (placement : GpuPlacement)
    (device : GpuObservation) : Decidable (Fits gpuSnapshot snapshot placement device) :=
  decidable_of_iff (Usable gpuSnapshot snapshot device ∧ (placement.mode = .required → device.uuid ∈ placement.devices))
    ⟨fun ⟨usable, named⟩ => ⟨usable, named⟩, fun fits => ⟨fits.usable, fits.named⟩⟩

instance decidableSatisfiable (gpuSnapshot : GpuObservationSnapshot) (snapshot : StateSnapshot)
    (placement : GpuPlacement) : Decidable (Satisfiable gpuSnapshot snapshot placement) :=
  decidable_of_iff (∃ device ∈ gpuSnapshot.devices, Fits gpuSnapshot snapshot placement device) <| by
    rw [satisfiable_iff_fits]
    exact ⟨fun ⟨device, _, fits⟩ => ⟨device, fits⟩, fun ⟨device, fits⟩ => ⟨device, fits.usable.observed, fits⟩⟩

theorem lowest_eq_argmin : devices.foldl lowerIndex none = devices.argmin (·.index.toNat) := by
  have same : lowerIndex = argAux fun a b : GpuObservation => a.index.toNat < b.index.toNat := by
    funext best device
    cases best with
    | none => rfl
    | some => simp only [lowerIndex, argAux, UInt32.lt_iff_toNat_lt]
  rw [same]
  rfl

theorem lowest_eq_none : devices.foldl lowerIndex none = none ↔ devices = [] := by
  rw [lowest_eq_argmin, argmin_eq_none]

theorem lowest_of_eq_some (found : devices.foldl lowerIndex none = some device) : Lowest (· ∈ devices) device := by
  rw [lowest_eq_argmin] at found
  refine ⟨argmin_mem found, ?_⟩
  intro other member
  have least : device.index.toNat ≤ other.index.toNat :=
    le_of_mem_argmin (f := fun device : GpuObservation => device.index.toNat) member found
  exact UInt32.le_iff_toNat_le.mpr least

theorem Lowest.congr {other : GpuObservation → Prop} (lowest : Lowest property device)
    (same : ∀ device, property device ↔ other device) : Lowest other device :=
  ⟨(same device).mp lowest.1, fun rival holds => lowest.2 rival ((same rival).mpr holds)⟩

theorem Lowest.unique {first second : GpuObservation} (valid : gpuSnapshot.Valid)
    (observed : ∀ device, property device → device ∈ gpuSnapshot.devices) (atFirst : Lowest property first)
    (atSecond : Lowest property second) : first = second := by
  by_contra different
  have apart := (valid.devices_differ (observed first atFirst.1) (observed second atSecond.1) different).2
  have above := UInt32.le_iff_toNat_le.mp (atFirst.2 second atSecond.1)
  have below := UInt32.le_iff_toNat_le.mp (atSecond.2 first atFirst.1)
  exact apart (UInt32.toNat_inj.mp (by omega))

theorem considerDevice_eq (best : Option GpuObservation × Option GpuObservation) :
    considerDevice snapshot targets best device =
      (if available snapshot device ∧ device.uuid ∉ targets then lowerIndex best.1 device else best.1,
        if available snapshot device then lowerIndex best.2 device else best.2) := by
  unfold considerDevice available
  by_cases free : device.state = .free
  · cases held : leased snapshot device.uuid with
    | true => simp
    | false => by_cases named : device.uuid ∈ targets <;> simp [free, named]
  · simp [free]

/-- The two running choices of the pass are independent searches. -/
theorem anyCandidates_eq :
    anyCandidates gpuSnapshot snapshot targets =
      ((gpuSnapshot.devices.filter fun device => available snapshot device ∧ device.uuid ∉ targets).foldl lowerIndex
          none,
        (gpuSnapshot.devices.filter (available snapshot)).foldl lowerIndex none) := by
  have both : ∀ (devices : List GpuObservation) (best : Option GpuObservation × Option GpuObservation),
      devices.foldl (considerDevice snapshot targets) best =
        ((devices.filter fun device => available snapshot device ∧ device.uuid ∉ targets).foldl lowerIndex best.1,
          (devices.filter (available snapshot)).foldl lowerIndex best.2) := by
    intro devices
    induction devices with
    | nil => exact fun _ => rfl
    | cons _ _ ih =>
      intro _
      rw [foldl_cons, ih, considerDevice_eq, foldl_filter, foldl_filter, foldl_filter,
        foldl_filter, foldl_cons, foldl_cons]
      simp only [decide_eq_true_eq]
  exact both gpuSnapshot.devices (none, none)

theorem mem_available {p : GpuObservation → Prop} [DecidablePred p] :
    device ∈ gpuSnapshot.devices.filter (fun device => available snapshot device ∧ p device) ↔
      Usable gpuSnapshot snapshot device ∧ p device := by
  rw [mem_filter, decide_eq_true_iff]
  constructor
  · intro ⟨observed, free, holds⟩
    exact ⟨(available_iff observed).mp free, holds⟩
  · intro ⟨usable, holds⟩
    exact ⟨usable.observed, (available_iff usable.observed).mpr usable, holds⟩

theorem mem_available_all :
    device ∈ gpuSnapshot.devices.filter (available snapshot) ↔ Usable gpuSnapshot snapshot device := by
  rw [mem_filter]
  exact ⟨fun ⟨observed, free⟩ => (available_iff observed).mp free,
    fun usable => ⟨usable.observed, (available_iff usable.observed).mpr usable⟩⟩

theorem selectAnyGpu_choice (found : (selectAnyGpu gpuSnapshot snapshot targets).1 = some device) :
    Usable gpuSnapshot snapshot device ∧ AnyChoice gpuSnapshot snapshot (· ∈ targets) device := by
  unfold selectAnyGpu at found
  rw [anyCandidates_eq] at found
  split at found
  · rename_i both
    cases found
    have lowest := (lowest_of_eq_some (congrArg Prod.fst both)).congr fun _ => mem_available
    exact ⟨lowest.1.1, fun _ => lowest, fun none => absurd ⟨device, lowest.1⟩ none⟩
  · rename_i both
    cases found
    have lowest := (lowest_of_eq_some (congrArg Prod.snd both)).congr fun _ => mem_available_all
    have conflicting := lowest_eq_none.mp (congrArg Prod.fst both)
    refine ⟨lowest.1, ?_, fun _ => lowest⟩
    intro ⟨_, usable⟩
    have member := (mem_available (p := fun device => device.uuid ∉ targets)).mpr usable
    rw [conflicting] at member
    simp at member
  · simp at found

theorem selectAnyGpu_none (missing : (selectAnyGpu gpuSnapshot snapshot targets).1 = none) :
    ¬∃ device, Usable gpuSnapshot snapshot device := by
  unfold selectAnyGpu at missing
  rw [anyCandidates_eq] at missing
  split at missing
  · simp at missing
  · simp at missing
  · rename_i both
    intro ⟨_, usable⟩
    have member := mem_available_all.mpr usable
    rw [lowest_eq_none.mp (congrArg Prod.snd both)] at member
    simp at member

theorem findDevice_eq_some (valid : gpuSnapshot.Valid) :
    findDevice gpuSnapshot uuid = some device ↔ device ∈ gpuSnapshot.devices ∧ device.uuid = uuid := by
  unfold findDevice
  rw [Search.find?_of_unique, beq_iff_eq]
  intro _ atA _ atB sameA sameB
  exact valid.uuid_unique atA atB ((beq_iff_eq.mp sameA).trans (beq_iff_eq.mp sameB).symm)

/-- The set's usable devices, in the order of the set. -/
def requiredCandidates (gpuSnapshot : GpuObservationSnapshot) (snapshot : StateSnapshot) (devices : List GpuUuid) :
    List GpuObservation :=
  devices.filterMap fun uuid => (findDevice gpuSnapshot uuid).filter (available snapshot)

theorem mem_requiredCandidates {devices : List GpuUuid} (valid : gpuSnapshot.Valid) :
    device ∈ requiredCandidates gpuSnapshot snapshot devices ↔
      Usable gpuSnapshot snapshot device ∧ device.uuid ∈ devices := by
  simp only [requiredCandidates, mem_filterMap, Option.filter_eq_some_iff, findDevice_eq_some valid]
  constructor
  · intro ⟨_, member, ⟨observed, same⟩, free⟩
    exact ⟨(available_iff observed).mp free, same ▸ member⟩
  · intro ⟨usable, member⟩
    exact ⟨device.uuid, member, ⟨usable.observed, rfl⟩, (available_iff usable.observed).mpr usable⟩

theorem selectRequiredGpu_eq {devices : List GpuUuid} (valid : gpuSnapshot.Valid) :
    selectRequiredGpu gpuSnapshot snapshot devices =
      (requiredCandidates gpuSnapshot snapshot devices).foldl lowerIndex none := by
  unfold selectRequiredGpu requiredCandidates
  rw [foldl_filterMap]
  congr
  funext selected uuid
  cases found : findDevice gpuSnapshot uuid with
  | none => rfl
  | some observation =>
    have same := ((findDevice_eq_some valid).mp found).2
    subst same
    by_cases free : observation.state = .free <;> cases held : leased snapshot observation.uuid <;>
      simp [Option.filter, available, free, held]

theorem preferredTarget_eq_some (valid : gpuSnapshot.Valid) :
    preferredTarget gpuSnapshot snapshot placement = some device ↔
      Usable gpuSnapshot snapshot device ∧ placement.devices.head? = some device.uuid := by
  simp only [preferredTarget, Option.bind_eq_bind, Option.bind_eq_some_iff, findDevice_eq_some valid]
  constructor
  · intro ⟨_, first, _, ⟨observed, same⟩, passed⟩
    split at passed
    · rename_i free
      cases passed
      subst same
      exact ⟨⟨observed, free.1, leased_eq_false.mp (by simpa using free.2)⟩, first⟩
    · simp at passed
  · intro ⟨usable, first⟩
    have free := leased_eq_false.mpr usable.unleased
    exact ⟨device.uuid, first, device, ⟨usable.observed, rfl⟩, by simp [usable.free, free]⟩

@[simp] theorem preferredFallback_fst (anyCandidate : Option GpuObservation) :
    (preferredFallback anyCandidate).1 = anyCandidate := by
  cases anyCandidate <;> rfl

/-- A selected device is usable and the one the placement calls for. -/
theorem selectGpu_choice (valid : gpuSnapshot.Valid)
    (found : (selectGpu gpuSnapshot snapshot (selectAnyGpu gpuSnapshot snapshot targets) placement).1 = some device) :
    Usable gpuSnapshot snapshot device ∧ Choice gpuSnapshot snapshot (· ∈ targets) placement device := by
  unfold selectGpu at found
  unfold Choice
  cases mode : placement.mode with
  | any =>
    simp only [mode] at found
    exact selectAnyGpu_choice found
  | required =>
    simp only [mode, selectRequiredGpu_eq valid] at found
    have lowest := (lowest_of_eq_some found).congr fun _ => mem_requiredCandidates valid
    exact ⟨lowest.1.1, lowest⟩
  | preferred =>
    simp only [mode] at found
    split at found
    · rename_i atTarget
      cases found
      obtain ⟨usable, first⟩ := (preferredTarget_eq_some valid).mp atTarget
      refine ⟨usable, ?_⟩
      intro target single
      have same : device.uuid = target := by simpa [single] using first.symm
      exact ⟨fun _ => ⟨usable, same⟩, fun none => absurd ⟨device, usable, same⟩ none⟩
    · rename_i missing
      rw [preferredFallback_fst] at found
      obtain ⟨usable, choice⟩ := selectAnyGpu_choice found
      refine ⟨usable, ?_⟩
      intro _ single
      refine ⟨?_, fun _ => choice⟩
      intro ⟨other, otherUsable, same⟩
      have taken : preferredTarget gpuSnapshot snapshot placement = some other :=
        (preferredTarget_eq_some valid).mpr ⟨otherUsable, by simp [single, same]⟩
      simp [missing] at taken

theorem selectGpu_none (valid : gpuSnapshot.Valid)
    (missing : (selectGpu gpuSnapshot snapshot (selectAnyGpu gpuSnapshot snapshot targets) placement).1 = none) :
    ¬Satisfiable gpuSnapshot snapshot placement := by
  unfold selectGpu at missing
  unfold Satisfiable
  cases mode : placement.mode with
  | any =>
    simp only [mode] at missing
    exact selectAnyGpu_none missing
  | required =>
    simp only [mode, selectRequiredGpu_eq valid, lowest_eq_none] at missing
    intro ⟨_, candidate⟩
    have member := (mem_requiredCandidates valid).mpr candidate
    rw [missing] at member
    simp at member
  | preferred =>
    simp only [mode] at missing
    split at missing
    · simp at missing
    · rw [preferredFallback_fst] at missing
      exact selectAnyGpu_none missing

theorem fits_of_choice {named : GpuUuid → Prop} (usable : Usable gpuSnapshot snapshot device)
    (choice : Choice gpuSnapshot snapshot named placement device) : Fits gpuSnapshot snapshot placement device := by
  refine ⟨usable, ?_⟩
  intro mode
  simp only [Choice, mode] at choice
  exact choice.1.2

end Yori
