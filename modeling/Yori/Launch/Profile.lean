import Yori.Job

namespace Yori
open Checked ByteString

/-- The device a job was given. The logical index is the number inside the
process, zero for a single device. -/
structure GpuAssignment where
  uuid : GpuUuid
  physicalIndex : UInt32 := 0
  logicalIndex : UInt32 := 0
deriving DecidableEq, Repr

inductive GpuMappingMode
  | cudaVisibleDevices | physicalArgument
deriving DecidableEq, Repr

structure LaunchProfile where
  mode : GpuMappingMode := .cudaVisibleDevices
  physicalArgument : ByteString := []
deriving Repr

namespace LaunchProfile

def maxPhysicalArgumentBytes : Nat := 64

/-- A profile named in the specification is the argument that receives the
physical index. -/
def profileFromSpec (spec : JobSpec) : LaunchProfile :=
  match spec.launchProfile with
  | none | some [] => {}
  | some argument => ⟨.physicalArgument, argument⟩

inductive ErrorCode
  | physicalArgumentMissing | physicalArgumentUnexpected | invalidPhysicalArgument | physicalArgumentTooLong
deriving Repr

def ErrorCode.toString : ErrorCode → ByteString
  | .physicalArgumentMissing => .ascii "physical_argument mode requires a physical argument name"
  | .physicalArgumentUnexpected => .ascii "physical_argument is not used in cuda_visible_devices mode"
  | .invalidPhysicalArgument => .ascii "invalid physical argument"
  | .physicalArgumentTooLong => .ascii "physical argument too long"

def hyphen : UInt8 := 45

def space : UInt8 := 32

def validate (profile : LaunchProfile) : Except ErrorCode Unit :=
  match profile.mode with
  | .cudaVisibleDevices => rejectIf (profile.physicalArgument ≠ []) .physicalArgumentUnexpected
  | .physicalArgument => do
    rejectIf (profile.physicalArgument = []) .physicalArgumentMissing
    rejectIf (profile.physicalArgument.head? ≠ some hyphen ∨ containsNul profile.physicalArgument ∨
      profile.physicalArgument.contains space ∨
      profile.physicalArgument.length > maxPhysicalArgumentBytes) .invalidPhysicalArgument

end LaunchProfile

end Yori
