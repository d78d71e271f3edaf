import Yori.Follow.LogStreamer

namespace Yori
open IpcWriter

/-- The per-cycle limit of replayed chunks of one stream. -/
def replayChunksPerCycle : Nat := 16

structure LogFollowServiceConfig where
  maxSessionBufferBytes : Nat := 2 * 1024 * 1024
  maxDrainChunksPerCycle : Nat := 32
deriving Repr

def LogFollowServiceConfig.valid (config : LogFollowServiceConfig) : Bool :=
  config.maxSessionBufferBytes != 0 && config.maxDrainChunksPerCycle != 0

structure Session.StreamState where
  replayIndex : Nat := 0
  replayCount : Nat := 0
  delivered : Nat := 0
deriving Repr

/-- The worker's side of one follow session. `frames` remembers every stream frame
that was put into the write buffer, and `written` every byte that the socket took. -/
structure Session where
  handle : LogFollowSession
  jobFinished : Bool
  jobState : UInt8
  exit : Option IpcExitStatus
  eofQueued : Bool := false
  backpressure : Bool := false
  closing : Bool := false
  streams : Streams Session.StreamState
  outgoing : ByteString
  outgoingSent : Nat := 0
  frames : List IpcStreamFrame := []
  written : ByteString := []
deriving Repr

namespace Session

def dataFrame (kind : LogStreamKind) (chunk : LogChunk) : IpcStreamFrame :=
  { kind := .logData, stream := kind.wire, beginOffset := chunk.beginOffset, endOffset := chunk.endOffset
    data := chunk.data }

def gapFrame (kind : LogStreamKind) (plan : LogReplayPlan) : IpcStreamFrame :=
  { kind := .logGap, stream := kind.wire, beginOffset := plan.startOffset - plan.gapBytes
    endOffset := plan.startOffset }

def backpressureFrame (kind : LogStreamKind) (offset : Nat) : IpcStreamFrame :=
  { kind := .logBackpressure, stream := kind.wire, beginOffset := offset }

def eofFrame (jobState : UInt8) (exit : Option IpcExitStatus) : IpcStreamFrame := { kind := .logEof, jobState, exit }

def pendingBytes (session : Session) : Nat := session.outgoing.length - session.outgoingSent

def plan (session : Session) (kind : LogStreamKind) : LogReplayPlan := session.handle.plans.get kind

/-- The result of `append_stream_frame` is ignored: a frame that cannot be encoded is left out. -/
def append (session : Session) (frame : IpcStreamFrame) : Session :=
  match appendStreamFrame frame session.outgoing with
  | none => session
  | some outgoing => { session with outgoing, frames := session.frames ++ [frame] }

def setStream (session : Session) (kind : LogStreamKind) (state : StreamState) : Session :=
  { session with streams := session.streams.set kind state }

/-- The replay loop for one stream, with the number of chunks it may still append. -/
def replayStream (limit : Nat) (kind : LogStreamKind) : Nat → Session → Session
  | 0, session => session
  | left + 1, session =>
    let state := session.streams.get kind
    if state.replayIndex < state.replayCount ∧ session.pendingBytes < limit then
      match (session.plan kind).chunks[state.replayIndex]? with
      | none => session
      | some chunk =>
        -- `delivered` stays where it is.
        replayStream limit kind left
          ((session.append (dataFrame kind chunk)).setStream kind { state with replayIndex := state.replayIndex + 1 })
    else session

def advanceReplay (config : LogFollowServiceConfig) (session : Session) : Session :=
  replayStream config.maxSessionBufferBytes .stderr replayChunksPerCycle
    (replayStream config.maxSessionBufferBytes .stdout replayChunksPerCycle session)

def replayDone (session : Session) (kind : LogStreamKind) : Bool :=
  !((session.streams.get kind).replayIndex < (session.plan kind).chunks.length)

def allReplayDone (session : Session) : Bool := session.replayDone .stdout && session.replayDone .stderr

def queueEof (session : Session) : Session :=
  if session.eofQueued then session
  else { session with eofQueued := true, closing := true }.append (eofFrame session.jobState session.exit)

def queueBackpressure (session : Session) (kind : LogStreamKind) (offset : Nat) : Session :=
  { session with backpressure := true, closing := true }.append (backpressureFrame kind offset)

/-- What the live loop does with a chunk, and whether it goes on. -/
def take (session : Session) (chunk : LogChunk) : Session × Bool :=
  match chunk.kind with
  | .eof => ({ session with jobState := chunk.jobState, exit := chunk.exit }.queueEof, false)
  | .data =>
    let state := session.streams.get chunk.stream
    if chunk.beginOffset < state.delivered then (session, true)
    else if chunk.beginOffset > state.delivered then
      (session.queueBackpressure chunk.stream chunk.beginOffset, false)
    else
      ((session.append (dataFrame chunk.stream chunk)).setStream chunk.stream
        { state with delivered := chunk.endOffset }, true)

/-- Everything that is pending has been handed to the socket. -/
def flushed (session : Session) : Session :=
  if session.pendingBytes = 0 then session
  else
    let written := session.written ++ session.outgoing.drop session.outgoingSent
    let outgoingSent := session.outgoingSent + session.pendingBytes
    if outgoingSent = session.outgoing.length then { session with outgoing := [], outgoingSent := 0, written }
    else { session with outgoingSent, written }

end Session

/-- The acknowledgement of a follow request, as a framed response. -/
def followAck (version jobState : UInt8) (plans : Streams LogReplayPlan) : Option ByteString :=
  if ipcVersionSupported version then
    let payload := u8 version ++ u8 IpcRequestKind.logsFollow.wire ++ u8 0 ++
      u32 0 ++ u8 jobState ++ u64 plans.stdout.startOffset ++
      u64 plans.stderr.startOffset
    some (u32 payload.length ++ payload)
  else none

namespace Session

/-- The worker's state for a new session. Nothing of a stream is delivered before its start. -/
def applyAdd (outgoing : ByteString) (result : LogSubscribeResult) : Session :=
  let start (plan : LogReplayPlan) : StreamState :=
    { replayIndex := 0, replayCount := plan.chunks.length, delivered := plan.startOffset }
  { handle := result.session, jobFinished := result.finished, jobState := result.jobState, exit := result.exit
    streams := ⟨start result.session.plans.stdout, start result.session.plans.stderr⟩, outgoing }

def appendGap (session : Session) (kind : LogStreamKind) : Session :=
  if (session.plan kind).gapBytes = 0 then session else session.append (gapFrame kind (session.plan kind))

/-- The session that `begin_stream` hands to the worker: the acknowledgement, then a gap
frame for each stream whose start was corrected. -/
def ofSubscription (ack : ByteString) (result : LogSubscribeResult) : Session :=
  ((applyAdd ack result).appendGap .stdout).appendGap .stderr

end Session

end Yori
