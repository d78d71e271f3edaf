import Mathlib.Data.List.Lex
import Yori.Library.MachineWord

namespace Yori

/-- A byte string. Lengths count bytes, and ordering is bytewise. -/
abbrev ByteString := List UInt8

namespace ByteString

def ascii (text : String) : ByteString := text.toList.map fun c => UInt8.ofNat c.toNat

def nul : UInt8 := 0

def slash : UInt8 := 47

def equalsSign : UInt8 := 61

def containsNul (bytes : ByteString) : Bool := bytes.contains nul

/-- The first byte is a slash, which is how absolute paths are recognised. -/
def absolute (bytes : ByteString) : Bool := bytes.head? == some slash

end ByteString

/-- Wall-clock instants, in nanoseconds since the Unix epoch. -/
abbrev TimePoint := Int

structure JobId where
  value : UInt64
deriving DecidableEq, Repr

namespace JobId

def valid (id : JobId) : Bool := id.value != 0

theorem value_injective : Function.Injective JobId.value := fun a b same => by
  cases a
  cases b
  cases same
  rfl

instance : LinearOrder JobId := LinearOrder.lift' JobId.value value_injective

theorem valid_iff {id : JobId} : id.valid = true ↔ id.value ≠ 0 := by
  simp [valid]

theorem lt_iff {a b : JobId} : a < b ↔ a.value < b.value := Iff.rfl

end JobId

/-- The stable identity of a device. Physical indices may be renumbered, so
leases and placements name devices by this identity only. -/
structure GpuUuid where
  value : ByteString
deriving DecidableEq, Repr

namespace GpuUuid

def maxBytes : Nat := 96

def valid (uuid : GpuUuid) : Bool :=
  !uuid.value.isEmpty && uuid.value.length ≤ maxBytes && !ByteString.containsNul uuid.value

theorem value_injective : Function.Injective GpuUuid.value := fun a b same => by
  cases a
  cases b
  cases same
  rfl

instance : LinearOrder GpuUuid := LinearOrder.lift' GpuUuid.value value_injective

end GpuUuid

end Yori
