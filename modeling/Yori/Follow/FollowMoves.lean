import Yori.Follow.Backlog
import Yori.Library.Guarded

namespace Yori
open Session Subscription Streams

variable {chunk : LogChunk}

/-- Bytes of a frame, none when it cannot be encoded. -/
def frameBytes (frame : IpcStreamFrame) : ByteString := (streamFrameBytes frame).getD []

def encodable (frame : IpcStreamFrame) : Bool := (streamFrameBytes frame).isSome

namespace Session

variable {kind : LogStreamKind} {session : Session}

/-- The session with some more frames in its buffer. -/
def appendAll (session : Session) (frames : List IpcStreamFrame) : Session :=
  { session with
    outgoing := session.outgoing ++ frames.flatMap frameBytes
    frames := session.frames ++ frames.filter encodable }

theorem append_eq (frame : IpcStreamFrame) : session.append frame = session.appendAll [frame] := by
  cases encoded : streamFrameBytes frame with
  | none | some => simp [append, appendStreamFrame, appendAll, frameBytes, encodable, encoded]

/-- The session after some more chunks of a replay. -/
def replayed (kind : LogStreamKind) (count : Nat) (session : Session) : Session :=
  let state := session.streams.get kind
  (session.appendAll ((((session.plan kind).chunks.drop state.replayIndex).take count).map (dataFrame kind))).setStream
    kind { state with replayIndex := state.replayIndex + count }

theorem replayed_zero (kind : LogStreamKind) (session : Session) : session.replayed kind 0 = session := by
  cases session with
  | mk =>
    cases kind <;> simp [replayed, appendAll, setStream, Streams.set, Streams.get]

@[simp] theorem replayed_plan (kind other : LogStreamKind) (count : Nat) (session : Session) :
    (session.replayed kind count).plan other = session.plan other := rfl

theorem replayed_get_self (kind : LogStreamKind) (count : Nat) (session : Session) :
    (session.replayed kind count).streams.get kind =
      { session.streams.get kind with replayIndex := (session.streams.get kind).replayIndex + count } := by
  simp only [replayed, setStream, get_set_self]

theorem replayed_get_of_ne {other : LogStreamKind} (different : other ≠ kind) (count : Nat) (session : Session) :
    (session.replayed kind count).streams.get other = session.streams.get other := by
  simp only [replayed, setStream, get_set_of_ne different, appendAll]

/-- A replay of both streams leaves everything but the buffer and the two counts. -/
theorem replays_subscription (session : Session) (stdout stderr : Nat) :
    ((session.replayed .stdout stdout).replayed .stderr stderr).subscription = session.subscription := rfl

theorem replays_jobFinished (session : Session) (stdout stderr : Nat) :
    ((session.replayed .stdout stdout).replayed .stderr stderr).jobFinished = session.jobFinished := rfl

/-- One chunk and then some more. -/
theorem replayed_succ (count : Nat)
    (here : (session.plan kind).chunks[(session.streams.get kind).replayIndex]? = some chunk) :
    ((session.append (dataFrame kind chunk)).setStream kind
      { session.streams.get kind with replayIndex := (session.streams.get kind).replayIndex + 1 }).replayed kind count =
      session.replayed kind (count + 1) := by
  obtain ⟨bound, atIndex⟩ := List.getElem?_eq_some_iff.mp here
  have window : (session.plan kind).chunks.drop (session.streams.get kind).replayIndex =
      chunk :: (session.plan kind).chunks.drop ((session.streams.get kind).replayIndex + 1) := by
    rw [List.drop_eq_getElem_cons bound, atIndex]
  have samePlan : ((session.append (dataFrame kind chunk)).setStream kind
      { session.streams.get kind with replayIndex := (session.streams.get kind).replayIndex + 1 }).plan kind =
      session.plan kind := by
    rw [append_eq]
    rfl
  rw [replayed, samePlan]
  simp only [replayed, append_eq, window, List.take_succ_cons, List.map_cons, setStream, appendAll, get_set_self,
    Streams.set_set]
  simp only [List.flatMap_cons, List.flatMap_nil, List.append_nil, List.append_assoc, List.filter_cons, List.filter_nil,
    Nat.add_assoc, Nat.add_comm 1 count]
  split <;> simp

/-- The counts of a session agree with its plans. -/
structure Ready (session : Session) : Prop where
  count : ∀ kind, (session.streams.get kind).replayCount = (session.plan kind).chunks.length
  index : ∀ kind, (session.streams.get kind).replayIndex ≤ (session.plan kind).chunks.length

theorem Ready.replayed (ready : session.Ready) {count : Nat}
    (few : (session.streams.get kind).replayIndex + count ≤ (session.plan kind).chunks.length) :
    (session.replayed kind count).Ready := by
  constructor
  · intro other
    by_cases same : other = kind
    · rw [same, replayed_get_self]
      exact ready.count kind
    · rw [replayed_get_of_ne same]
      exact ready.count other
  · intro other
    by_cases same : other = kind
    · rw [same, replayed_get_self]
      exact few
    · rw [replayed_get_of_ne same]
      exact ready.index other

/-- The replay loop queues some of the chunks that are left of the plan. -/
theorem replayStream_replayed {limit left : Nat} (ready : session.Ready) :
    ∃ count, (session.streams.get kind).replayIndex + count ≤ (session.plan kind).chunks.length ∧
      replayStream limit kind left session = session.replayed kind count := by
  induction left generalizing session with
  | zero => exact ⟨0, ready.index kind, (replayed_zero kind session).symm⟩
  | succ _ ih =>
    have counted := ready.count kind
    by_cases more : (session.streams.get kind).replayIndex < (session.streams.get kind).replayCount ∧
        session.pendingBytes < limit
    · have bound : (session.streams.get kind).replayIndex < (session.plan kind).chunks.length := by omega
      have here := List.getElem?_eq_getElem bound
      have one := replayed_succ 0 here
      rw [replayed_zero, Nat.zero_add] at one
      rw [replayStream]
      simp only [if_pos more, here, one]
      have first : (session.replayed kind 1).Ready := ready.replayed (by omega)
      obtain ⟨count, inside, same⟩ := ih first
      have both := replayed_succ count here
      rw [one] at both
      rw [both] at same
      rw [replayed_get_self, replayed_plan] at inside
      exact ⟨count + 1, by simp only at inside; omega, same⟩
    · rw [replayStream]
      simp only [if_neg more]
      exact ⟨0, ready.index kind, (replayed_zero kind session).symm⟩

/-- The session with what is left in its subscription. -/
def received (session : Session) (rest : List LogChunk) : Session :=
  session.setSubscription { session.subscription with queue := rest }

/-- What is left of a replay that is advanced by a frame or a live chunk stays in step with its plan. -/
theorem Ready.delivered (ready : session.Ready) (kind : LogStreamKind) (offset : Nat) (frames : List IpcStreamFrame)
    (rest : List LogChunk) :
    (((session.received rest).appendAll frames).setStream kind
      { session.streams.get kind with delivered := offset }).Ready := by
  constructor
  · intro other
    by_cases same : other = kind
    · rw [same]
      simp only [setStream, get_set_self]
      exact ready.count kind
    · simp only [setStream, get_set_of_ne same]
      exact ready.count other
  · intro other
    by_cases same : other = kind
    · rw [same]
      simp only [setStream, get_set_self]
      exact ready.index kind
    · simp only [setStream, get_set_of_ne same]
      exact ready.index other

theorem queueEof_eq (pending : session.eofQueued = false) :
    session.queueEof = ({ session with eofQueued := true, closing := true } : Session).appendAll
      [eofFrame session.jobState session.exit] := by
  rw [queueEof, pending, append_eq]
  rfl

end Session

namespace Follow

variable {config : FollowConfig} {follow next : Follow} {since : Streams (Option Nat)} {entry : JobEntry}
  {phase : FollowPhase} {totalSessions drained : Nat}

/-- The chunk that a call hands to the topic. -/
def handed (config : FollowConfig) (follow : Follow) : FollowStep → Option LogChunk
  | .publisher step => (follow.entry.perform config.streamer step).2
  | _ => none

/-- The chunk that the worker receives. -/
def taken (config : FollowConfig) (follow : Follow) : FollowStep → Option LogChunk
  | .advance =>
    match follow.phase with
    | .draining drained =>
      if drained < config.service.maxDrainChunksPerCycle ∧
          follow.session.pendingBytes < config.service.maxSessionBufferBytes then
        follow.session.subscription.queue.head?
      else none
    | _ => none
  | _ => none

/-- The worker reads `is_closed` and finds the topic closed before an end was queued. -/
def drops (follow : Follow) : FollowStep → Bool
  | .advance => follow.phase == .emptied && follow.session.subscription.closed && !follow.session.eofQueued
  | _ => false

/-- The worker is inside the live loop. -/
def Working (follow : Follow) : Prop := (∃ drained, follow.phase = .draining drained) ∨ follow.phase = .emptied

/-- The session has been dropped. -/
def Gone (follow : Follow) : Prop := ∃ ended, follow.phase = .gone ended

/-- A step that neither publishes nor receives nor queues: it may close the topic, move the
worker or write what is pending. -/
structure Quiet (follow next : Follow) : Prop where
  sound : follow.entry.Sound → next.entry.Sound
  working : next.Working → follow.Working
  gone : follow.Gone → next.Gone
  topic : follow.entry.topicClosed = true → next.entry.topicClosed = true
  closed : next.session.subscription.closed = true →
    follow.session.subscription.closed = true ∨ next.entry.topicClosed = true ∨ next.Gone
  streams : next.entry.streams = follow.entry.streams
  finished : next.entry.finished = follow.entry.finished
  registered : next.entry.registered = true → follow.entry.registered = true
  plans : next.session.handle.plans = follow.session.handle.plans
  queue : next.session.subscription.queue = follow.session.subscription.queue
  offered : next.session.subscription.offered = follow.session.subscription.offered
  progress : next.session.streams = follow.session.streams
  frames : next.session.frames = follow.session.frames
  eofQueued : next.session.eofQueued = follow.session.eofQueued
  backpressure : next.session.backpressure = follow.session.backpressure
  closing : next.session.closing = follow.session.closing
  jobFinished : next.session.jobFinished = follow.session.jobFinished

/-- The worker of an open session takes the first chunk of the queue. -/
structure Takes (config : FollowConfig) (follow : Follow) (step : FollowStep) (chunk : LogChunk)
    (rest : List LogChunk) : Prop where
  present : ¬follow.Gone
  open' : follow.session.closing = false
  taken : follow.taken config step = some chunk
  queued : follow.session.subscription.queue = chunk :: rest

/-- What a step can do. -/
inductive Move (config : FollowConfig) (follow : Follow) (step : FollowStep) : Follow → Prop
  | quiet {next : Follow} (quiet : Quiet follow next) (handed : follow.handed config step = none)
      (taken : follow.taken config step = none) (drops : follow.drops step = false) : Move config follow step next
  | pushed {chunk : LogChunk} (handed : follow.handed config step = some chunk)
      (registered : follow.entry.registered = true) (running : follow.entry.finished = false)
      (data : chunk.kind = .data) (ordered : chunk.beginOffset ≤ chunk.endOffset)
      (joins : (follow.entry.streams.get chunk.stream).seen = true →
        chunk.beginOffset = (follow.entry.streams.get chunk.stream).offset) :
      Move config follow step
        { follow with
          entry := { follow.entry with
            streams := follow.entry.streams.set chunk.stream
              ((follow.entry.streams.get chunk.stream).push config.streamer.backlogBytesPerStream chunk) }
          session := follow.session.setSubscription (follow.session.subscription.publish chunk) }
  | ended (jobState : JobState) (exit : Option IpcExitStatus)
      (handed : follow.handed config step = some (.ofEnd jobState.wire exit))
      (registered : follow.entry.registered = true) (running : follow.entry.finished = false) :
      Move config follow step
        { follow with
          entry := { follow.entry with finished := true, jobState := jobState.wire, exit }
          session := follow.session.setSubscription
            (follow.session.subscription.publish (.ofEnd jobState.wire exit)) }
  | replayed (stdout stderr : Nat) (open' : follow.session.closing = false) (idle : follow.phase = .idle)
      (ready : ((follow.session.replayed .stdout stdout).replayed .stderr stderr).Ready)
      (replays : follow.session.advanceReplay config.service =
        (follow.session.replayed .stdout stdout).replayed .stderr stderr)
      (more : ¬(follow.session.jobFinished = true ∧
        ((follow.session.replayed .stdout stdout).replayed .stderr stderr).allReplayDone = true)) :
      Move config follow step
        { follow with
          session := (follow.session.replayed .stdout stdout).replayed .stderr stderr
          phase := .draining 0 }
  | concluded (stdout stderr : Nat) (open' : follow.session.closing = false) (idle : follow.phase = .idle)
      (ready : ((follow.session.replayed .stdout stdout).replayed .stderr stderr).Ready)
      (finished : follow.session.jobFinished = true)
      (done : ((follow.session.replayed .stdout stdout).replayed .stderr stderr).allReplayDone = true) :
      Move config follow step
        { follow with
          session := ({ (follow.session.replayed .stdout stdout).replayed .stderr stderr with
            eofQueued := true
            closing := true } : Session).appendAll [Session.eofFrame follow.session.jobState follow.session.exit]
          phase := .flushing }
  | tookEnd {chunk : LogChunk} {rest : List LogChunk} (takes : Takes config follow step chunk rest)
      (eof : chunk.kind = .eof) :
      Move config follow step
        { follow with
          session := ({ follow.session.received rest with
            jobState := chunk.jobState
            exit := chunk.exit
            eofQueued := true
            closing := true } : Session).appendAll [Session.eofFrame chunk.jobState chunk.exit]
          phase := .flushing }
  | tookStale {chunk : LogChunk} {rest : List LogChunk} (drained : Nat) (takes : Takes config follow step chunk rest)
      (data : chunk.kind = .data) (stale : chunk.beginOffset < (follow.session.streams.get chunk.stream).delivered) :
      Move config follow step { follow with session := follow.session.received rest, phase := .draining drained }
  | tookGap {chunk : LogChunk} {rest : List LogChunk} (takes : Takes config follow step chunk rest)
      (data : chunk.kind = .data) (gap : (follow.session.streams.get chunk.stream).delivered < chunk.beginOffset) :
      Move config follow step
        { follow with
          session := ({ follow.session.received rest with backpressure := true, closing := true } : Session).appendAll
            [Session.backpressureFrame chunk.stream chunk.beginOffset]
          phase := .flushing }
  | tookNext {chunk : LogChunk} {rest : List LogChunk} (drained : Nat) (takes : Takes config follow step chunk rest)
      (data : chunk.kind = .data) (joins : chunk.beginOffset = (follow.session.streams.get chunk.stream).delivered) :
      Move config follow step
        { follow with
          session := ((follow.session.received rest).appendAll [Session.dataFrame chunk.stream chunk]).setStream
            chunk.stream { follow.session.streams.get chunk.stream with delivered := chunk.endOffset }
          phase := .draining drained }
  | dropped (drops : follow.drops step = true) (emptied : follow.phase = .emptied)
      (closed : follow.session.subscription.closed = true) (pending : follow.session.eofQueued = false) :
      Move config follow step
        { follow with session := { follow.session with closing := true }, phase := .flushing }

/-- What holds of every session, whatever it follows. -/
structure WellFormed (follow : Follow) : Prop where
  sound : follow.entry.Sound
  ready : follow.session.Ready
  working : follow.Working → follow.session.closing = false
  ended : follow.session.eofQueued = true ∨ follow.session.backpressure = true → follow.session.closing = true
  closed : follow.session.subscription.closed = true → follow.entry.topicClosed = true ∨ follow.Gone

theorem Quiet.refl (follow : Follow) : Quiet follow follow :=
  ⟨id, id, id, id, Or.inl, rfl, rfl, id, rfl, rfl, rfl, rfl, rfl, rfl, rfl, rfl, rfl⟩

/-- Moving the worker out of the live loop, or on to its end, is quiet. -/
theorem Quiet.moved (inside : ({ follow with phase } : Follow).Working → follow.Working)
    (gone : follow.Gone → ({ follow with phase } : Follow).Gone) : Quiet follow { follow with phase } :=
  ⟨id, inside, gone, id, Or.inl, rfl, rfl, id, rfl, rfl, rfl, rfl, rfl, rfl, rfl, rfl, rfl⟩

theorem not_working (flushing : follow.phase = .flushing) : ¬follow.Working := by
  rintro (⟨_, same⟩ | same) <;> rw [flushing] at same <;> cases same

theorem not_gone (here : follow.phase = phase) (present : ∀ ended, phase ≠ .gone ended) : ¬follow.Gone := by
  rintro ⟨ended, same⟩
  exact present ended (here.symm.trans same)

/-- Handing on that the topic was closed is quiet. -/
theorem Quiet.notified (sound : follow.entry.Sound → entry.Sound)
    (topic : follow.entry.topicClosed = true → entry.topicClosed = true)
    (streams : entry.streams = follow.entry.streams) (finished : entry.finished = follow.entry.finished)
    (registered : entry.registered = true → follow.entry.registered = true) :
    Quiet follow
      { follow with
        entry
        session := follow.session.setSubscription
          (if entry.topicClosed then follow.session.subscription.close else follow.session.subscription) } := by
  cases closed : entry.topicClosed with
  | true =>
    exact ⟨sound, id, id, fun _ => closed, fun _ => Or.inr (Or.inl closed), streams, finished, registered,
      rfl, rfl, rfl, rfl, rfl, rfl, rfl, rfl, rfl⟩
  | false =>
    exact ⟨sound, id, id, topic, Or.inl, streams, finished, registered, rfl, rfl, rfl, rfl, rfl, rfl, rfl, rfl, rfl⟩

section

variable (formed : follow.WellFormed)
include formed

theorem publisher_move {step : PublisherStep} :
    Move config follow (.publisher step) (follow.publisher config.streamer step) := by
  have performs : JobEntry.Performs config.streamer follow.entry (follow.entry.perform config.streamer step).1
    (follow.entry.perform config.streamer step).2 := follow.entry.perform_performs step
  have handed : follow.handed config (.publisher step) = (follow.entry.perform config.streamer step).2 := rfl
  rw [publisher]
  generalize follow.entry.perform config.streamer step = result at performs handed
  obtain ⟨entry, _⟩ := result
  simp only at performs handed
  have sound := performs.sound
  -- A topic that is still being published to is open.
  have open' : follow.entry.registered = true → follow.entry.finished = false → ¬follow.entry.topicClosed = true := by
    intro registered running closed
    rcases formed.sound.closed closed with finished | gone
    · rw [running] at finished
      cases finished
    · rw [registered] at gone
      cases gone
  cases performs with
  | refused => exact .quiet (.notified sound id rfl rfl id) handed rfl rfl
  | closed => exact .quiet (.notified sound (fun _ => rfl) rfl rfl id) handed rfl rfl
  | unregistered =>
    exact .quiet (.notified sound (fun _ => rfl) rfl rfl (fun absurd => by cases absurd)) handed rfl rfl
  | @pushed _ registered running data ordered joins =>
    simp only [if_neg (open' registered running)]
    exact .pushed handed registered running data ordered joins
  | ended registered running jobState exit =>
    simp only [if_neg (open' registered running)]
    exact .ended jobState exit handed registered running

theorem WellFormed.eofQueued (open' : follow.session.closing = false) :
    follow.session.eofQueued = false := by
  cases queued : follow.session.eofQueued with
  | false => rfl
  | true =>
    rw [formed.ended (Or.inl queued)] at open'
    cases open'

theorem idle_move (idle : follow.phase = .idle) :
    Move config follow .advance (follow.advance config.service) := by
  have taken : follow.taken config .advance = none := by simp only [taken, idle]
  have drops : follow.drops .advance = false := by simp [drops, idle]
  rw [advance, idle]
  cases open' : follow.session.closing with
  | true =>
    refine .quiet (.moved (fun working => absurd working (not_working rfl)) fun gone => ?_) rfl taken drops
    exact absurd gone (not_gone idle (by simp))
  | false =>
    simp only [Bool.false_eq_true, if_false]
    obtain ⟨stdout, inside, same⟩ := replayStream_replayed formed.ready
    have ready := formed.ready.replayed inside
    obtain ⟨stderr, inside', same'⟩ := replayStream_replayed ready
    have ready' := ready.replayed inside'
    have replays : follow.session.advanceReplay config.service =
        (follow.session.replayed .stdout stdout).replayed .stderr stderr := by
      rw [advanceReplay, same, same']
    have finished : ((follow.session.replayed .stdout stdout).replayed .stderr stderr).jobFinished =
        follow.session.jobFinished := rfl
    rw [replays, finished]
    by_cases done : (follow.session.jobFinished &&
        ((follow.session.replayed .stdout stdout).replayed .stderr stderr).allReplayDone) = true
    · rw [if_pos done]
      obtain ⟨isOver, all⟩ := (Bool.and_eq_true _ _).mp done
      rw [queueEof_eq (by exact formed.eofQueued open')]
      exact .concluded stdout stderr open' idle ready' isOver all
    · rw [if_neg done]
      refine .replayed stdout stderr open' idle ready' replays fun both => done ?_
      rw [both.1, both.2]
      rfl

/-- The four things the worker does with a chunk that it has received. -/
theorem take_move {step : FollowStep} {rest : List LogChunk} (takes : Takes config follow step chunk rest) :
    Move config follow step
      { follow with
        session := ((follow.session.received rest).take chunk).1
        phase := if ((follow.session.received rest).take chunk).2 then .draining drained else .flushing } := by
  have pending : (follow.session.received rest).eofQueued = false := formed.eofQueued takes.open'
  have streams : (follow.session.received rest).streams = follow.session.streams := rfl
  cases kind : chunk.kind with
  | eof =>
    simp only [take, kind, Bool.false_eq_true, if_false]
    rw [queueEof_eq (by exact pending)]
    exact .tookEnd takes kind
  | data =>
    rcases Nat.lt_trichotomy chunk.beginOffset (follow.session.streams.get chunk.stream).delivered
      with below | same | above
    · simp only [take, kind, streams, if_pos below, if_true]
      exact .tookStale drained takes kind below
    · have notBelow : ¬chunk.beginOffset < (follow.session.streams.get chunk.stream).delivered := by omega
      have notAbove : ¬chunk.beginOffset > (follow.session.streams.get chunk.stream).delivered := by omega
      simp only [take, kind, streams, if_neg notBelow, if_neg notAbove, if_true, append_eq]
      exact .tookNext drained takes kind same
    · have notBelow : ¬chunk.beginOffset < (follow.session.streams.get chunk.stream).delivered := by omega
      have gap : chunk.beginOffset > (follow.session.streams.get chunk.stream).delivered := above
      simp only [take, kind, streams, if_neg notBelow, if_pos gap, Bool.false_eq_true, if_false,
        queueBackpressure, append_eq]
      exact .tookGap takes kind above

theorem draining_move (draining : follow.phase = .draining drained) :
    Move config follow .advance (follow.advance config.service) := by
  have drops : follow.drops .advance = false := by simp [drops, draining]
  by_cases more : drained < config.service.maxDrainChunksPerCycle ∧
      follow.session.pendingBytes < config.service.maxSessionBufferBytes
  · have taken : follow.taken config .advance = follow.session.subscription.queue.head? := by
      simp only [taken, draining, if_pos more]
    cases received : follow.session.subscription.tryReceive with
    | none =>
      have empty := tryReceive_eq_none received
      rw [empty, List.head?_nil] at taken
      rw [advance, draining]
      simp only [if_pos more, received]
      refine .quiet (.moved (fun _ => Or.inl ⟨drained, draining⟩) fun gone => ?_) rfl taken drops
      exact absurd gone (not_gone draining (by simp))
    | some result =>
      obtain ⟨chunk, after⟩ := result
      obtain ⟨queued, same⟩ := tryReceive_eq_some received
      rw [queued, List.head?_cons] at taken
      have moved : follow.advance config.service =
          { follow with
            session := ((follow.session.setSubscription after).take chunk).1
            phase := if ((follow.session.setSubscription after).take chunk).2 then .draining (drained + 1)
              else .flushing } := by
        rw [advance, draining]
        simp only [if_pos more, received]
        cases goes : (follow.session.setSubscription after).take chunk with
        | mk _ continues => cases continues <;> rfl
      rw [moved, same]
      exact take_move formed ⟨not_gone draining (by simp), formed.working (Or.inl ⟨drained, draining⟩), taken, queued⟩
  · have taken : follow.taken config .advance = none := by simp only [taken, draining, if_neg more]
    rw [advance, draining]
    simp only [if_neg more]
    refine .quiet (.moved (fun working => absurd working (not_working rfl)) fun gone => ?_) rfl taken drops
    exact absurd gone (not_gone draining (by simp))

end

theorem emptied_move (emptied : follow.phase = .emptied) :
    Move config follow .advance (follow.advance config.service) := by
  have taken : follow.taken config .advance = none := by simp only [taken, emptied]
  have drops : follow.drops .advance = (follow.session.subscription.closed && !follow.session.eofQueued) := by
    simp [drops, emptied]
  rw [advance, emptied]
  cases ends : follow.session.subscription.closed && !follow.session.eofQueued with
  | true =>
    obtain ⟨closed, pending⟩ := (Bool.and_eq_true _ _).mp ends
    rw [Bool.not_eq_true'] at pending
    exact .dropped (drops.trans ends) emptied closed pending
  | false =>
    refine .quiet (.moved (fun working => absurd working (not_working rfl)) fun gone => ?_) rfl taken (drops.trans ends)
    exact absurd gone (not_gone emptied (by simp))

theorem advance_move (formed : follow.WellFormed) : Move config follow .advance (follow.advance config.service) := by
  have still : (∃ ended, follow.phase = .gone ended) ∨ follow.phase = .flushing →
      Move config follow .advance (follow.advance config.service) := by
    rintro (⟨_, phase⟩ | phase) <;>
      · have taken : follow.taken config .advance = none := by simp only [taken, phase]
        have drops : follow.drops .advance = false := by simp [drops, phase]
        rw [advance, phase]
        exact .quiet (.refl follow) rfl taken drops
  cases phase : follow.phase with
  | idle => exact idle_move formed phase
  | draining => exact draining_move formed phase
  | emptied => exact emptied_move phase
  | flushing => exact still (Or.inr phase)
  | gone ended => exact still (Or.inl ⟨ended, phase⟩)

/-- Dropping the session and what was written before that are quiet. -/
theorem Quiet.retired {outgoing written : ByteString} {outgoingSent : Nat} {ended : SessionEnd} :
    Quiet follow
      (({ follow with session := { follow.session with outgoing, outgoingSent, written } } : Follow).retire ended) where
  sound sound := ⟨sound.streams, sound.closed, sound.jobState⟩
  working := by rintro (⟨_, same⟩ | same) <;> cases same
  gone _ := ⟨ended, rfl⟩
  topic := id
  closed _ := Or.inr (Or.inr ⟨ended, rfl⟩)
  streams := rfl
  finished := rfl
  registered := id
  plans := rfl
  queue := rfl
  offered := rfl
  progress := rfl
  frames := rfl
  eofQueued := rfl
  backpressure := rfl
  closing := rfl
  jobFinished := rfl

/-- A flush changes the buffer only. -/
theorem flushed_eq (session : Session) : ∃ outgoing outgoingSent written,
    session.flushed = { session with outgoing, outgoingSent, written } := by
  unfold flushed
  split
  · exact ⟨session.outgoing, session.outgoingSent, session.written, rfl⟩
  · simp only
    split
    · exact ⟨_, _, _, rfl⟩
    · exact ⟨session.outgoing, _, _, rfl⟩

theorem write_quiet {accepted : Bool} : Quiet follow (follow.write accepted) := by
  unfold write
  split
  · rename_i flushing
    split
    · exact .retired
    · obtain ⟨_, _, _, same⟩ := flushed_eq follow.session
      simp only [same]
      split
      · exact .retired
      · refine ⟨id, ?_, ?_, id, Or.inl, rfl, rfl, id, rfl, rfl, rfl, rfl, rfl, rfl, rfl, rfl, rfl⟩
        · rintro (⟨_, absurd⟩ | absurd) <;> cases absurd
        · exact fun gone => absurd gone (not_gone flushing (by simp))
  · exact .refl follow

theorem hangUp_quiet : Quiet follow follow.hangUp := by
  unfold hangUp
  split
  · exact .retired
  · exact .refl follow

theorem step_move (formed : follow.WellFormed) {step : FollowStep} :
    Move config follow step (follow.step config step) := by
  cases step with
  | publisher step => exact publisher_move formed
  | advance => exact advance_move formed
  | write accepted => exact .quiet write_quiet rfl rfl rfl
  | hangUp => exact .quiet hangUp_quiet rfl rfl rfl

/-- While the session is there, its subscription is closed only with the topic. -/
theorem WellFormed.topic (formed : follow.WellFormed) (present : ¬follow.Gone)
    (closed : follow.session.subscription.closed = true) : follow.entry.topicClosed = true ∨ next.Gone :=
  Or.inl ((formed.closed closed).resolve_right present)

theorem Move.formed {step : FollowStep} (move : Move config follow step next) (formed : follow.WellFormed) :
    next.WellFormed := by
  cases move with
  | quiet quiet =>
    refine ⟨quiet.sound formed.sound, ?_, ?_, ?_, ?_⟩
    · constructor
      · intro kind
        rw [quiet.progress, plan, quiet.plans]
        exact formed.ready.count kind
      · intro kind
        rw [quiet.progress, plan, quiet.plans]
        exact formed.ready.index kind
    · intro working
      rw [quiet.closing]
      exact formed.working (quiet.working working)
    · rw [quiet.eofQueued, quiet.backpressure, quiet.closing]
      exact formed.ended
    · intro closed
      rcases quiet.closed closed with before | topic | gone
      · exact (formed.closed before).imp quiet.topic quiet.gone
      · exact Or.inl topic
      · exact Or.inr gone
  | pushed _ registered running data ordered joins =>
    have performs : JobEntry.Performs config.streamer follow.entry _ _ :=
      .pushed registered running data ordered joins
    exact ⟨performs.sound formed.sound, ⟨formed.ready.count, formed.ready.index⟩, formed.working, formed.ended,
      fun closed => formed.closed ((publish_closed _ _).symm.trans closed)⟩
  | ended jobState exit _ registered running =>
    have performs : JobEntry.Performs config.streamer follow.entry _ _ := .ended registered running jobState exit
    exact ⟨performs.sound formed.sound, ⟨formed.ready.count, formed.ready.index⟩, formed.working, formed.ended,
      fun closed => formed.closed ((publish_closed _ _).symm.trans closed)⟩
  | replayed _ _ open' idle ready =>
    exact ⟨formed.sound, ready, fun _ => open', formed.ended, formed.topic (not_gone idle (by simp))⟩
  | concluded _ _ _ idle ready =>
    exact ⟨formed.sound, ⟨ready.count, ready.index⟩, fun working => absurd working (not_working rfl), fun _ => rfl,
      formed.topic (not_gone idle (by simp))⟩
  | tookEnd takes | tookGap takes =>
    exact ⟨formed.sound, ⟨formed.ready.count, formed.ready.index⟩, fun working => absurd working (not_working rfl),
      fun _ => rfl, formed.topic takes.present⟩
  | tookStale _ takes =>
    exact ⟨formed.sound, ⟨formed.ready.count, formed.ready.index⟩, fun _ => takes.open', formed.ended,
      formed.topic takes.present⟩
  | @tookNext chunk rest _ takes =>
    exact ⟨formed.sound, formed.ready.delivered chunk.stream chunk.endOffset _ rest, fun _ => takes.open', formed.ended,
      formed.topic takes.present⟩
  | dropped _ emptied =>
    exact ⟨formed.sound, ⟨formed.ready.count, formed.ready.index⟩, fun working => absurd working (not_working rfl),
      fun _ => rfl, formed.topic (not_gone emptied (by simp))⟩

theorem WellFormed.run (formed : follow.WellFormed) (steps : List FollowStep) : (follow.run config steps).WellFormed :=
  List.foldlRecOn steps _ formed fun _ formed _ _ => (step_move formed).formed formed

/-- A session that has just been opened on a channel. -/
structure Opened (config : LogStreamerConfig) (entry : JobEntry) (since : Streams (Option Nat)) (follow : Follow) :
    Prop where
  channel : follow.entry = { entry with sessions := entry.sessions + 1 }
  registered : entry.registered = true
  phase : follow.phase = .idle
  plans : ∀ kind, follow.session.plan kind = (entry.streams.get kind).plan (since.get kind)
  subscription : follow.session.subscription =
    { capacity := config.subscriptionCapacity, closed := entry.topicClosed }
  progress : ∀ kind, follow.session.streams.get kind =
    ⟨0, (follow.session.plan kind).chunks.length, (follow.session.plan kind).startOffset⟩
  frames : ∀ frame ∈ follow.session.frames, frame.kind = .logGap
  eofQueued : follow.session.eofQueued = false
  backpressure : follow.session.backpressure = false
  closing : follow.session.closing = false
  jobFinished : follow.session.jobFinished = entry.finished
  jobState : follow.session.jobState = entry.jobState
  exit : follow.session.exit = entry.exit
  outgoingSent : follow.session.outgoingSent = 0

theorem subscribe_eq_ok {config : LogStreamerConfig} {after : JobEntry} {sinceStdout sinceStderr : Option Nat}
    {result : LogSubscribeResult}
    (subscribed : entry.subscribe config totalSessions sinceStdout sinceStderr = .ok (after, result)) :
    entry.registered = true ∧ after = { entry with sessions := entry.sessions + 1 } ∧
      result = { session := {
                   subscription := { capacity := config.subscriptionCapacity, closed := entry.topicClosed }
                   plans := ⟨entry.streams.stdout.plan sinceStdout, entry.streams.stderr.plan sinceStderr⟩ }
                 finished := entry.finished
                 jobState := entry.jobState
                 exit := entry.exit } := by
  unfold JobEntry.subscribe at subscribed
  split at subscribed
  · cases subscribed
  · rename_i registered
    split at subscribed
    · cases subscribed
    · split at subscribed
      · cases subscribed
      · cases subscribed
        exact ⟨by simpa using registered, rfl, rfl⟩

/-- Announcing a corrected start adds at most a gap frame. -/
theorem appendGap_eq {session : Session} (kind : LogStreamKind) :
    ∃ frames, (∀ frame ∈ frames, frame.kind = .logGap) ∧ session.appendGap kind = session.appendAll frames := by
  by_cases none : (session.plan kind).gapBytes = 0
  · rw [appendGap, if_pos none]
    exact ⟨[], by simp, by simp [appendAll]⟩
  · rw [appendGap, if_neg none, append_eq]
    refine ⟨[gapFrame kind (session.plan kind)], ?_, rfl⟩
    intro _ member
    rw [List.mem_singleton.mp member]
    rfl

theorem ofSubscription_eq {ack : ByteString} (result : LogSubscribeResult) :
    ∃ frames, (∀ frame ∈ frames, frame.kind = .logGap) ∧
      ofSubscription ack result = (applyAdd ack result).appendAll frames := by
  obtain ⟨first, gaps, same⟩ := appendGap_eq .stdout
  obtain ⟨second, gaps', same'⟩ := appendGap_eq .stderr
  refine ⟨first ++ second, ?_, ?_⟩
  · intro frame member
    rcases List.mem_append.mp member with early | late
    · exact gaps frame early
    · exact gaps' frame late
  · rw [ofSubscription, same, same']
    simp [appendAll, List.append_assoc]

theorem beginStream_opened {config : LogStreamerConfig} {version jobState : UInt8}
    (begun : beginStream config totalSessions version jobState entry since.stdout since.stderr = .ok follow) :
    Opened config entry since follow := by
  unfold beginStream at begun
  split at begun
  · cases begun
  · cases begun
  · rename_i subscribed
    obtain ⟨registered, rfl, rfl⟩ := subscribe_eq_ok subscribed
    split at begun
    · cases begun
    · rename_i ack _
      cases begun
      obtain ⟨_, gaps, same⟩ := ofSubscription_eq _
      rw [same]
      refine ⟨rfl, registered, rfl, ?_, rfl, ?_, ?_, rfl, rfl, rfl, rfl, rfl, rfl, rfl⟩
      · intro kind
        cases kind <;> rfl
      · intro kind
        cases kind <;> rfl
      · intro frame member
        rw [appendAll, applyAdd, List.nil_append] at member
        exact gaps frame (List.mem_filter.mp member).1

theorem Opened.formed {config : LogStreamerConfig} (opened : Opened config entry since follow) (sound : entry.Sound) :
    follow.WellFormed where
  sound := by
    rw [opened.channel]
    exact ⟨sound.streams, sound.closed, sound.jobState⟩
  ready := by
    constructor
    · intro _
      rw [opened.progress]
    · intro _
      rw [opened.progress]
      exact Nat.zero_le _
  working := by
    rintro (⟨_, same⟩ | same) <;> rw [opened.phase] at same <;> cases same
  ended := by
    rw [opened.eofQueued, opened.backpressure]
    rintro (absurd | absurd) <;> cases absurd
  closed closed := by
    rw [opened.subscription] at closed
    rw [opened.channel]
    exact Or.inl closed

/-- What each move keeps, under a condition on the steps, holds along a run of a new session. -/
theorem run_invariant {steps : List FollowStep} {Meets : Follow → FollowStep → Prop} (Inv : Follow → Prop)
    (keeps : ∀ follow step, follow.WellFormed → Meets follow step → 
      Move config follow step (follow.step config step) → Inv follow → Inv (follow.step config step))
    (opened : Opened config.streamer entry since follow) (sound : entry.Sound)
    (along : Guarded.Along (step config) Meets follow steps) (initial : Inv follow) :
    (follow.run config steps).WellFormed ∧ Inv (follow.run config steps) := by
  refine Guarded.foldl_invariant (fun follow => follow.WellFormed ∧ Inv follow) ?_ along ⟨opened.formed sound, initial⟩
  rintro follow step meets ⟨formed, held⟩
  have move : Move config follow step (follow.step config step) := step_move formed
  exact ⟨move.formed formed, keeps follow step formed meets move held⟩

end Follow

end Yori
