import Yori.Ipc.StreamFrame
import Yori.Library.Spans
import Yori.Library.Topic

namespace Yori

/-- One value for each of the two log streams. -/
structure Streams (α : Type) where
  stdout : α
  stderr : α
deriving DecidableEq, Repr

namespace Streams

variable {α : Type}

def get (streams : Streams α) : LogStreamKind → α
  | .stdout => streams.stdout
  | .stderr => streams.stderr

def set (streams : Streams α) (kind : LogStreamKind) (value : α) : Streams α :=
  match kind with
  | .stdout => { streams with stdout := value }
  | .stderr => { streams with stderr := value }

@[simp] theorem get_set_self (streams : Streams α) (kind : LogStreamKind) (value : α) :
    (streams.set kind value).get kind = value := by
  cases kind <;> rfl

theorem get_set_of_ne {kind other : LogStreamKind} (different : other ≠ kind) (streams : Streams α) (value : α) :
    (streams.set kind value).get other = streams.get other := by
  cases kind <;> cases other <;> first | rfl | exact absurd rfl different

@[simp] theorem set_set (streams : Streams α) (kind : LogStreamKind) (first second : α) :
    (streams.set kind first).set kind second = streams.set kind second := by
  cases kind <;> rfl

end Streams

inductive LogChunkKind
  | data | eof
deriving DecidableEq, Repr

/-- What a job's topic carries: a piece of one stream, or the end of the job. A
drop marker is a data chunk whose range is empty. -/
structure LogChunk where
  kind : LogChunkKind := .data
  stream : LogStreamKind := .stdout
  beginOffset : Nat := 0
  endOffset : Nat := 0
  data : ByteString := []
  jobState : UInt8 := 0
  exit : Option IpcExitStatus := none
deriving DecidableEq, Repr

namespace LogChunk

variable {chunk : LogChunk}

/-- The chunk of `publish_chunk`. The source compares the sum in 64 bits, and its
second test rules out a sum that wraps around. -/
def ofData (stream : LogStreamKind) (data : ByteString) (beginOffset endOffset : Nat) : Option LogChunk :=
  if data.isEmpty ∨ endOffset < beginOffset ∨ beginOffset + data.length ≠ endOffset then none
  else some { stream, beginOffset, endOffset, data }

def dropMarkerText (droppedBytes : UInt64) : ByteString :=
  .ascii "[yori] dropped " ++ .ascii (toString droppedBytes.toNat) ++ .ascii " bytes\n"

/-- The chunk of `publish_drop_marker`: the offset does not move. -/
def dropMarker (stream : LogStreamKind) (offset : Nat) (droppedBytes : UInt64) : LogChunk :=
  { stream, beginOffset := offset, endOffset := offset, data := dropMarkerText droppedBytes }

def ofEnd (jobState : UInt8) (exit : Option IpcExitStatus) : LogChunk := { kind := .eof, jobState, exit }

/-- A data chunk of the given stream. -/
def isData (kind : LogStreamKind) (chunk : LogChunk) : Bool := chunk.kind == .data && chunk.stream == kind

theorem isData_iff {kind : LogStreamKind} : chunk.isData kind = true ↔ chunk.kind = .data ∧ chunk.stream = kind := by
  simp [isData]

theorem ofData_eq_some {stream : LogStreamKind} {data : ByteString} {beginOffset endOffset : Nat}
    (made : ofData stream data beginOffset endOffset = some chunk) :
    chunk = { stream, beginOffset, endOffset, data } ∧ endOffset = beginOffset + data.length := by
  unfold ofData at made
  split at made
  · cases made
  · rename_i accepted
    cases made
    refine ⟨rfl, ?_⟩
    by_contra wrong
    exact accepted (Or.inr (Or.inr fun same => wrong same.symm))

end LogChunk

/-- A span of chunks, by their offsets. -/
abbrev ChunkSpan : Nat → List LogChunk → Nat → Prop := Spans LogChunk.beginOffset LogChunk.endOffset

structure LogStreamerConfig where
  maxSessionsPerJob : Nat := 8
  maxTotalSessions : Nat := 64
  backlogBytesPerStream : Nat := 8 * 2 ^ 20
  subscriptionCapacity : Nat := 64
deriving Repr

/-- Whole chunks leave the backlog from its front while it is over its budget. The newest always stays. -/
def trimBacklog (budget : Nat) : List LogChunk → Nat → List LogChunk × Nat
  | first :: second :: rest, bytes =>
    if bytes > budget then trimBacklog budget (second :: rest) (bytes - first.data.length)
    else (first :: second :: rest, bytes)
  | backlog, bytes => (backlog, bytes)

structure JobEntry.StreamState where
  backlog : List LogChunk := []
  backlogBytes : Nat := 0
  offset : Nat := 0
  seen : Bool := false
deriving DecidableEq, Repr

structure LogReplayPlan where
  startOffset : Nat := 0
  gapBytes : Nat := 0
  chunks : List LogChunk := []
deriving Repr

namespace JobEntry.StreamState

def push (budget : Nat) (state : StreamState) (chunk : LogChunk) : StreamState :=
  let (backlog, backlogBytes) :=
    trimBacklog budget (state.backlog ++ [chunk]) (state.backlogBytes + chunk.data.length)
  { backlog, backlogBytes, offset := chunk.endOffset, seen := true }

/-- The backlog from the first chunk on that ends after `since`, with the start corrected where
the window no longer reaches back that far. -/
def plan (state : StreamState) (since : Option Nat) : LogReplayPlan :=
  match since with
  | none => { startOffset := state.offset }
  | some since =>
    if since ≥ state.offset then { startOffset := state.offset }
    else match state.backlog.dropWhile fun chunk => chunk.endOffset ≤ since with
      | [] => { startOffset := state.offset, gapBytes := state.offset - since }
      | first :: rest =>
        if first.beginOffset > since then
          { startOffset := first.beginOffset, gapBytes := first.beginOffset - since, chunks := first :: rest }
        else { startOffset := since, chunks := first :: rest }

end JobEntry.StreamState

inductive LogPublishCode
  | published | notRegistered | jobFinished | invalidOffset
deriving DecidableEq, Repr

inductive LogFinishCode
  | finished | notFound | alreadyFinished
deriving Repr

inductive LogSubscribeCode
  | subscribed | jobUnknown | sessionLimitJob | sessionLimitTotal
deriving Repr

/-- A job's log channel. Sessions keep the entry alive after the job has left the registry. -/
structure JobEntry where
  registered : Bool := true
  topicClosed : Bool := false
  sessions : Nat := 0
  finished : Bool := false
  jobState : UInt8 := 0
  exit : Option IpcExitStatus := none
  streams : Streams JobEntry.StreamState := ⟨{}, {}⟩
deriving DecidableEq, Repr

/-- A session's share of the streamer: its subscription and the two replay plans. -/
structure LogFollowSession where
  subscription : Subscription LogChunk
  plans : Streams LogReplayPlan
deriving Repr

structure LogSubscribeResult where
  session : LogFollowSession
  finished : Bool
  jobState : UInt8
  exit : Option IpcExitStatus
deriving Repr

namespace JobEntry

/-- The first chunk of a stream sets its baseline. Every later one must begin at the stream's offset. -/
def publishLocked (config : LogStreamerConfig) (entry : JobEntry) (chunk : LogChunk) : LogPublishCode × JobEntry :=
  if chunk.kind = .data then
    let state := entry.streams.get chunk.stream
    if state.seen ∧ chunk.beginOffset ≠ state.offset then (.invalidOffset, entry)
    else
      (.published,
        { entry with streams := entry.streams.set chunk.stream (state.push config.backlogBytesPerStream chunk) })
  else (.published, entry)

def publish (config : LogStreamerConfig) (entry : JobEntry) (chunk : LogChunk) : LogPublishCode × JobEntry :=
  if !entry.registered then (.notRegistered, entry)
  else if entry.finished then (.jobFinished, entry)
  else entry.publishLocked config chunk

/-- The part of `finish_job` before the end of the job is published. -/
def finishJob (entry : JobEntry) (jobState : UInt8) (exit : Option IpcExitStatus) : LogFinishCode × JobEntry :=
  if !entry.registered then (.notFound, entry)
  else if entry.finished then (.alreadyFinished, entry)
  else (.finished, { entry with finished := true, jobState, exit })

def subscribe (config : LogStreamerConfig) (totalSessions : Nat) (entry : JobEntry)
    (sinceStdout sinceStderr : Option Nat) : Except LogSubscribeCode (JobEntry × LogSubscribeResult) :=
  if !entry.registered then .error .jobUnknown
  else if entry.sessions ≥ config.maxSessionsPerJob then .error .sessionLimitJob
  else if totalSessions ≥ config.maxTotalSessions then .error .sessionLimitTotal
  else
    -- A subscription to a topic that is closed already stays empty and reports it.
    let subscription : Subscription LogChunk :=
      { capacity := config.subscriptionCapacity, closed := entry.topicClosed }
    let plans : Streams LogReplayPlan :=
      ⟨entry.streams.stdout.plan sinceStdout, entry.streams.stderr.plan sinceStderr⟩
    .ok ({ entry with sessions := entry.sessions + 1 },
      { session := { subscription, plans }, finished := entry.finished, jobState := entry.jobState,
        exit := entry.exit })

end JobEntry

end Yori
