import Yori.Ipc.Protocol
import Yori.Library.Parsing

/-! The fields of a payload: how `Writer` appends them and how `Reader` takes them off again. -/

namespace Yori
open Parsing IpcProtocolLimits IpcWriter Reader LittleEndian Inverts

namespace IpcWriter

def flag (value : Bool) : ByteString := u8 (if value then 1 else 0)

def string (value : ByteString) : Option ByteString :=
  if value.length > maxStringBytes ∨ ByteString.containsNul value then none
  else some (u32 value.length ++ value)

def optional {α : Type} (write : α → Option ByteString) : Option α → Option ByteString
  | none => some (u8 0)
  | some value => inTurn [some (u8 1), write value]

/-- A list behind its number of items. -/
def counted {α : Type} (write : α → Option ByteString) (values : List α) : Option ByteString :=
  inTurn (some (u32 values.length) :: values.map write)

def exitStatus (exit : IpcExitStatus) : Option ByteString :=
  inTurn [some (flag exit.exitedNormally), some (i32 exit.code)]

def envMetadata (metadata : IpcEnvMetadata) : Option ByteString :=
  inTurn [refuseIf (metadata.source > 2), some (u8 metadata.source), optional string metadata.pythonVersion]

end IpcWriter

abbrev IpcReader := Reader IpcDecodeError UInt8

namespace IpcReader

def u8 : IpcReader UInt8 := one .truncated

def u32 : IpcReader UInt32 := do return UInt32.ofNat (LittleEndian.number (← take 4 .truncated))

def u64 : IpcReader UInt64 := do return UInt64.ofNat (LittleEndian.number (← take 8 .truncated))

def i32 : IpcReader Int := do return Int.bmod (← u32).toNat (2 ^ 32)

def string : IpcReader ByteString := do
  let length ← u32
  failIf (length.toNat > maxStringBytes) .oversize
  let out ← take length.toNat .truncated
  failIf (ByteString.containsNul out) .badString
  return out

def bytes : IpcReader ByteString := do
  let length ← u32
  failIf (length.toNat > maxBytesFieldBytes) .oversize
  take length.toNat .truncated

def count (cap : Nat) : IpcReader Nat := do
  let out ← u32
  failIf (out.toNat > cap) .tooManyItems
  return out.toNat

def flag : IpcReader Bool := do
  let value ← u8
  failIf (value > 1) .invalidValue
  return value == 1

def optional {α : Type} (item : IpcReader α) : IpcReader (Option α) := do
  let present ← flag
  if present then return some (← item) else return none

def counted {α : Type} (cap : Nat) (item : IpcReader α) : IpcReader (List α) := do
  repeated item (← count cap)

def exitStatus : IpcReader IpcExitStatus := do
  let exitedNormally ← flag
  return { exitedNormally, code := ← i32 }

def envMetadata : IpcReader IpcEnvMetadata := do
  let source ← u8
  failIf (source > 2) .invalidValue
  return { source, pythonVersion := ← optional string }

end IpcReader

namespace Wire

variable {α : Type} {values : List α} {cap : Nat} {write : α → Option ByteString} {item : IpcReader α}

theorem u8 (value : UInt8) : Inverts IpcReader.u8 (some (u8 value)) value := one value

theorem u32 {number : Nat} (fits : number < 2 ^ 32) :
    Inverts IpcReader.u32 (some (IpcWriter.u32 number)) (UInt32.ofNat number) := by
  have taken : Inverts (take 4 .truncated : IpcReader ByteString) (some (IpcWriter.u32 number))
      (IpcWriter.u32 number) := take _ (IpcWriter.length_u32 number).symm
  have back : LittleEndian.number (IpcWriter.u32 number) = number := number_bytes (by omega)
  have whole := taken.map (f := fun symbols => UInt32.ofNat (LittleEndian.number symbols))
  rw [back] at whole
  exact whole

theorem word (value : UInt32) : Inverts IpcReader.u32 (some (IpcWriter.u32 value.toNat)) value := by
  have whole := u32 value.toNat_lt
  rwa [UInt32.ofNat_toNat] at whole

theorem long (value : UInt64) : Inverts IpcReader.u64 (some (IpcWriter.u64 value.toNat)) value := by
  have taken : Inverts (take 8 .truncated : IpcReader ByteString) (some (u64 value.toNat))
      (u64 value.toNat) := take _ (length_u64 _).symm
  have back : LittleEndian.number (u64 value.toNat) = value.toNat :=
    number_bytes value.toNat_lt
  have whole := taken.map (f := fun symbols => UInt64.ofNat (LittleEndian.number symbols))
  rwa [back, UInt64.ofNat_toNat] at whole

/-- A signed number keeps its value over its bit pattern. -/
theorem i32 {value : Int} (low : -2 ^ 31 ≤ value) (high : value < 2 ^ 31) :
    Inverts IpcReader.i32 (some (i32 value)) value := by
  have small : (value % 2 ^ 32).toNat < 2 ^ 32 := by omega
  have pattern := (u32 small).map (f := fun bits => Int.bmod bits.toNat (2 ^ 32))
  have same : ((UInt32.ofNat (value % 2 ^ 32).toNat).toNat : Int) = value % 2 ^ 32 := by
    rw [UInt32.toNat_ofNat_of_lt' small]
    omega
  have back : Int.bmod (value % 2 ^ 32) (2 ^ 32) = value := by
    rw [Int.bmod_def]
    split <;> omega
  rw [same, back] at pattern
  exact pattern

theorem string (value : ByteString) : Inverts IpcReader.string (string value) value := by
  intro written done
  by_cases bad : value.length > maxStringBytes ∨ ByteString.containsNul value
  · rw [IpcWriter.string, if_pos bad] at done
    cases done
  · rw [IpcWriter.string, if_neg bad] at done
    obtain ⟨short, clean⟩ := not_or.mp bad
    have limit : maxStringBytes < 2 ^ 32 := by decide
    have fits : value.length < 2 ^ 32 := by omega
    have same : (UInt32.ofNat value.length).toNat = value.length := UInt32.toNat_ofNat_of_lt' fits
    have whole : Inverts IpcReader.string (inTurn [some (IpcWriter.u32 value.length), some value]) value := by
      refine (u32 fits).bind (check (by rw [same]; exact short) ?_)
      exact (take value same).bind (check clean (pure value))
    exact whole written (by rw [← done]; simp [inTurn])

theorem bytes (value : ByteString) : Inverts IpcReader.bytes (IpcWriter.bytes value) value := by
  intro written done
  by_cases long : value.length > maxBytesFieldBytes
  · rw [IpcWriter.bytes, if_pos long] at done
    cases done
  · rw [IpcWriter.bytes, if_neg long] at done
    have limit : maxBytesFieldBytes < 2 ^ 32 := by decide
    have fits : value.length < 2 ^ 32 := by omega
    have same : (UInt32.ofNat value.length).toNat = value.length := UInt32.toNat_ofNat_of_lt' fits
    have whole : Inverts IpcReader.bytes (inTurn [some (IpcWriter.u32 value.length), some value]) value :=
      (u32 fits).bind (check (by rw [same]; exact long) (take value same).single)
    exact whole written (by rw [← done]; simp [inTurn])

theorem flag (value : Bool) : Inverts IpcReader.flag (some (IpcWriter.flag value)) value := by
  cases value with
  | false => exact of_single ((u8 0).bind (check (by decide) (pure false)))
  | true => exact of_single ((u8 1).bind (check (by decide) (pure true)))

theorem optional {value : Option α} (each : ∀ inner, value = some inner → Inverts item (write inner) inner) :
    Inverts (IpcReader.optional item) (optional write value) value := by
  cases value with
  | none => exact of_single ((flag false).bind (pure none))
  | some inner => exact (flag true).bind (((each inner rfl).map (f := some)).single)

theorem optionalString (value : Option ByteString) :
    Inverts (IpcReader.optional IpcReader.string) (IpcWriter.optional IpcWriter.string value) value :=
  optional fun inner _ => string inner

/-- A list within the reader's cap comes back with as many items. -/
theorem counted {γ : Type} {item : IpcReader γ} {back : α → γ} (few : values.length ≤ cap) (small : cap < 2 ^ 32)
    (each : ∀ value ∈ values, Inverts item (write value) (back value)) :
    Inverts (IpcReader.counted cap item) (counted write values) (values.map back) := by
  have fits : values.length < 2 ^ 32 := by omega
  have same : (UInt32.ofNat values.length).toNat = values.length := UInt32.toNat_ofNat_of_lt' fits
  have number : Inverts (IpcReader.count cap) (some (IpcWriter.u32 values.length))
      (UInt32.ofNat values.length).toNat := by
    refine of_single ((u32 fits).bind (check ?_ (pure _)))
    omega
  rw [same] at number
  exact number.bind (repeated each)

theorem countedSame (few : values.length ≤ cap) (small : cap < 2 ^ 32)
    (each : ∀ value ∈ values, Inverts item (write value) value) :
    Inverts (IpcReader.counted cap item) (IpcWriter.counted write values) values := by
  have whole := counted few small each
  rwa [List.map_id'] at whole

theorem strings {values : List ByteString} (few : ¬values.length > maxItemCount) :
    Inverts (IpcReader.counted maxItemCount IpcReader.string)
      (IpcWriter.counted IpcWriter.string values) values :=
  countedSame (Nat.le_of_not_lt few) (by decide) fun value _ => string value

/-- The code of an exit status is a signed 32-bit number in the source. -/
theorem exitStatus {exit : IpcExitStatus} (low : -2 ^ 31 ≤ exit.code) (high : exit.code < 2 ^ 31) :
    Inverts IpcReader.exitStatus (exitStatus exit) exit :=
  (flag exit.exitedNormally).bind ((i32 low high).bind (pure exit))

theorem envMetadata (metadata : IpcEnvMetadata) :
    Inverts IpcReader.envMetadata (IpcWriter.envMetadata metadata) metadata := by
  refine refuseIf fun known => (u8 metadata.source).bind (check known ?_)
  exact ((optionalString metadata.pythonVersion).map (f := IpcEnvMetadata.mk metadata.source)).single

end Wire

end Yori
