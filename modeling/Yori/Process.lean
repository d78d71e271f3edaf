import Yori.Identifiers

namespace Yori

/-- The recorded identity of a process. The start ticks tell two processes
apart that the kernel gave the same pid. -/
structure ProcessIdentity where
  pid : Int := 0
  pgid : Int := 0
  startTicks : UInt64 := 0
deriving DecidableEq, Repr

namespace ProcessIdentity

def valid (identity : ProcessIdentity) : Bool :=
  identity.pid > 0 && identity.pgid > 0 && identity.startTicks > 0

def isBlank (identity : ProcessIdentity) : Bool :=
  identity.pid == 0 && identity.pgid == 0 && identity.startTicks == 0

end ProcessIdentity

inductive ExitReason
  | exited | signaled | unknown
deriving DecidableEq, Repr

structure ExitStatus where
  reason : ExitReason := .unknown
  exitCode : Int := 0
  signalNumber : Int := 0
deriving DecidableEq, Repr

namespace ExitStatus

def exited (status : ExitStatus) : Bool := status.reason == .exited

def isSuccess (status : ExitStatus) : Bool := status.reason == .exited && status.exitCode == 0

end ExitStatus

/-- What a non-blocking `waitpid` reports about a pid. -/
inductive WaitResult
  | running | reaped (status : ExitStatus) | noChild | failed
deriving DecidableEq, Repr

end Yori
