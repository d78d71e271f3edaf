import Yori.Ipc.Message

namespace Yori

/-! What the service asks of the only writer of the store, and what it hears back. -/

inductive JobSubmitCode
  | submitted | storeFailed | queueRejected | unavailable
deriving DecidableEq, Repr

structure JobSubmitOutcome where
  code : JobSubmitCode
  jobId : UInt64 := 0
  detail : ByteString := []
deriving DecidableEq, Repr

inductive JobCancelCode
  | cancelled | stopping | notFound | invalidState | storeFailed | unavailable
deriving DecidableEq, Repr

structure JobCancelOutcome where
  code : JobCancelCode
  state : UInt8 := 0
  detail : ByteString := []
deriving DecidableEq, Repr

structure JobControl where
  submitJob : JobSpec → JobSubmitOutcome
  cancelJob : UInt64 → JobCancelOutcome

/-- A job manager that is not running. -/
def IpcService.stoppedControl : JobControl := ⟨fun _ => { code := .unavailable }, fun _ => { code := .unavailable }⟩

end Yori
