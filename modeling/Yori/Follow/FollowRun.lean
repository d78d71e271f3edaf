import Yori.Follow.FollowSession

namespace Yori

/-! The threads around one follow session. The log pump and the job manager publish, end and close the
job's topic. The follow worker advances the session in cycles, and every access to the
subscription is a step of its own. -/

/-- A call on the job's log channel. `finishJob` stops after the publication of the end,
and `closeTopic` is the rest of it. -/
inductive PublisherStep
  | publishChunk (stream : LogStreamKind) (data : ByteString) (beginOffset endOffset : Nat)
  | publishDropMarker (stream : LogStreamKind) (offset : Nat) (droppedBytes : UInt64)
  | finishJob (jobState : JobState) (exit : Option IpcExitStatus)
  | closeTopic
  | unregisterJob
deriving Repr

namespace JobEntry

/-- The entry afterwards, and the chunk that was handed to the topic. -/
def offer (config : LogStreamerConfig) (entry : JobEntry) (chunk : LogChunk) : JobEntry × Option LogChunk :=
  match entry.publish config chunk with
  | (.published, entry) => (entry, some chunk)
  | (_, entry) => (entry, none)

def perform (config : LogStreamerConfig) (entry : JobEntry) : PublisherStep → JobEntry × Option LogChunk
  | .publishChunk stream data beginOffset endOffset =>
    match LogChunk.ofData stream data beginOffset endOffset with
    | none => (entry, none)
    | some chunk => entry.offer config chunk
  | .publishDropMarker stream offset droppedBytes => entry.offer config (.dropMarker stream offset droppedBytes)
  | .finishJob jobState exit =>
    match entry.finishJob jobState.wire exit with
    | (.finished, entry) => (entry, some (.ofEnd jobState.wire exit))
    | (_, entry) => (entry, none)
  | .closeTopic => if entry.finished then ({ entry with topicClosed := true }, none) else (entry, none)
  | .unregisterJob => ({ entry with registered := false, topicClosed := true }, none)

/-- The channel of a newly registered job after the given calls. -/
def after (config : LogStreamerConfig) (steps : List PublisherStep) : JobEntry :=
  steps.foldl (fun entry step => (entry.perform config step).1) {}

end JobEntry

inductive SessionEnd
  | completed | disconnected | backpressure
deriving DecidableEq, Repr

/-- Where the worker is in the session's cycle. `emptied` stands between a `try_receive` that found
nothing and the call of `is_closed`. -/
inductive FollowPhase
  | idle | draining (drained : Nat) | emptied | flushing | gone (ended : SessionEnd)
deriving DecidableEq, Repr

structure FollowConfig where
  streamer : LogStreamerConfig := {}
  service : LogFollowServiceConfig := {}
deriving Repr

structure Follow where
  entry : JobEntry
  session : Session
  phase : FollowPhase := .idle
deriving Repr

inductive FollowStep
  | publisher (step : PublisherStep)
  | advance
  | write (accepted : Bool)
  | hangUp
deriving Repr

namespace Session

def subscription (session : Session) : Subscription LogChunk := session.handle.subscription

def setSubscription (session : Session) (subscription : Subscription LogChunk) : Session :=
  { session with handle := { session.handle with subscription } }

end Session

namespace Follow

/-- The topic hands on what was published, and tells that it was closed. -/
def publisher (config : LogStreamerConfig) (follow : Follow) (step : PublisherStep) : Follow :=
  let (entry, chunk) := follow.entry.perform config step
  let offered := match chunk with
    | none => follow.session.subscription
    | some chunk => follow.session.subscription.publish chunk
  let subscription := if entry.topicClosed then offered.close else offered
  { follow with entry, session := follow.session.setSubscription subscription }

def advance (config : LogFollowServiceConfig) (follow : Follow) : Follow :=
  match follow.phase with
  | .idle =>
    if follow.session.closing then { follow with phase := .flushing }
    else
      let session := follow.session.advanceReplay config
      if session.jobFinished && session.allReplayDone then
        { follow with session := session.queueEof, phase := .flushing }
      else { follow with session, phase := .draining 0 }
  | .draining drained =>
    if drained < config.maxDrainChunksPerCycle ∧ follow.session.pendingBytes < config.maxSessionBufferBytes then
      match follow.session.subscription.tryReceive with
      | none => { follow with phase := .emptied }
      | some (chunk, subscription) =>
        match (follow.session.setSubscription subscription).take chunk with
        | (session, true) => { follow with session, phase := .draining (drained + 1) }
        | (session, false) => { follow with session, phase := .flushing }
    else { follow with phase := .flushing }
  | .emptied =>
    if follow.session.subscription.closed && !follow.session.eofQueued then
      { follow with session := { follow.session with closing := true }, phase := .flushing }
    else { follow with phase := .flushing }
  | .flushing => follow
  | .gone _ => follow

/-- The session is dropped: its subscription is closed and its place is given back. -/
def retire (follow : Follow) (ended : SessionEnd) : Follow :=
  { entry := { follow.entry with sessions := follow.entry.sessions - 1 }
    session := follow.session.setSubscription follow.session.subscription.close
    phase := .gone ended }

/-- The end of a cycle: the pending bytes are written and a session that has nothing left to say is collected. -/
def write (follow : Follow) (accepted : Bool) : Follow :=
  match follow.phase with
  | .flushing =>
    if follow.session.pendingBytes > 0 && !accepted then follow.retire .disconnected
    else
      let session := follow.session.flushed
      if session.closing && session.pendingBytes == 0 then
        { follow with session }.retire (if session.backpressure then .backpressure else .completed)
      else { follow with session, phase := .idle }
  | _ => follow

def hangUp (follow : Follow) : Follow :=
  match follow.phase with
  | .idle => follow.retire .disconnected
  | _ => follow

def step (config : FollowConfig) (follow : Follow) : FollowStep → Follow
  | .publisher step => follow.publisher config.streamer step
  | .advance => follow.advance config.service
  | .write accepted => follow.write accepted
  | .hangUp => follow.hangUp

def run (config : FollowConfig) (follow : Follow) (steps : List FollowStep) : Follow :=
  steps.foldl (step config) follow

/-- `begin_stream` from the subscription on. -/
def beginStream (config : LogStreamerConfig) (totalSessions : Nat) (version jobState : UInt8) (entry : JobEntry)
    (sinceStdout sinceStderr : Option Nat) : Except IpcError Follow :=
  match entry.subscribe config totalSessions sinceStdout sinceStderr with
  | .error .jobUnknown => .error .notAvailable
  | .error _ => .error .limit
  | .ok (entry, result) =>
    match followAck version jobState result.session.plans with
    | none => .error .internal
    | some ack => .ok { entry, session := .ofSubscription ack result }

end Follow

end Yori
