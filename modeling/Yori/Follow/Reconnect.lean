import Yori.Follow.Backpressure

namespace Yori

variable {kind : LogStreamKind}
open Session JobEntry IpcStreamFrame List StreamState

/-- Where a client stands in a stream: at the end of the last data frame, or at the announced start. -/
def positionAfter (start : Nat) (frames : List IpcStreamFrame) : Nat :=
  (frames.getLast?.map endOffset).getD start

/-- The since values of the command that the CLI prints for a BACKPRESSURE frame. -/
def FollowPrinter.reconnect (frame : IpcStreamFrame) : Streams (Option Nat) :=
  if frame.stream == 0 then ⟨some frame.beginOffset, none⟩ else ⟨none, some frame.beginOffset⟩

theorem FollowPrinter.reconnect_get {frame : IpcStreamFrame} (stream : frame.stream = kind.wire) :
    (reconnect frame).get kind = some frame.beginOffset := by
  rw [reconnect, stream]
  cases kind <;> rfl

/-- Where the two streams of a channel end. -/
def JobEntry.offsets (entry : JobEntry) : Streams Nat := ⟨entry.streams.stdout.offset, entry.streams.stderr.offset⟩

theorem JobEntry.offsets_get {entry : JobEntry} : entry.offsets.get kind = (entry.streams.get kind).offset := by
  cases kind <;> rfl

/-- A plan that announces no gap reaches back to what was asked for. -/
theorem JobEntry.StreamState.plan_start_le {state : StreamState} {since : Nat}
    (whole : (state.plan (some since)).gapBytes = 0) : (state.plan (some since)).startOffset ≤ since := by
  by_cases future : since ≥ state.offset
  · rw [plan, if_pos future]
    exact future
  · rw [plan, if_neg future] at whole ⊢
    cases window : state.backlog.dropWhile fun chunk => chunk.endOffset ≤ since with
    | nil =>
      rw [window] at whole
      have none : state.offset - since = 0 := whole
      omega
    | cons first =>
      rw [window] at whole
      by_cases late : first.beginOffset > since
      · simp only [if_pos late] at whole
        omega
      · simp only [if_neg late]
        exact le_rfl

namespace Follow

variable {config : FollowConfig} {follow next : Follow} {kind : LogStreamKind} {step : FollowStep}

/-- A gap is met only where the replay of the stream ends, with nothing of it left to send. After a
loss the reported offset is that of the next chunk, beyond what the client has. -/
def gapAtReplayEnd (ends : Streams Nat) (config : FollowConfig) (follow : Follow) (step : FollowStep) : Bool :=
  match follow.taken config step with
  | none => true
  | some chunk =>
    chunk.kind != .data || chunk.beginOffset ≤ follow.delivered chunk.stream ||
      (chunk.beginOffset == ends.get chunk.stream &&
        (follow.remaining chunk.stream).all fun left => left.beginOffset == left.endOffset)

/-- What the channel promises of a replay: it is gapless up to the end of the stream. -/
structure Replays (plan : LogReplayPlan) (stop : Nat) (kind : LogStreamKind) : Prop where
  spans : ∃ first ≤ plan.startOffset, ChunkSpan first plan.chunks stop
  within : plan.startOffset ≤ stop
  encodable : ∀ chunk ∈ plan.chunks, encodable (Session.dataFrame kind chunk) = true

/-- Until live chunks are delivered, what went out is the beginning of the replay. -/
structure Resumable (plan : LogReplayPlan) (stop : Nat) (kind : LogStreamKind) (follow : Follow) : Prop where
  planned : follow.session.plan kind = plan
  passed : stop ≤ (follow.channel kind).offset
  ahead : ∀ chunk ∈ follow.waiting kind, stop ≤ chunk.beginOffset ∧ chunk.beginOffset ≤ chunk.endOffset
  replay : follow.delivered kind = plan.startOffset ∧
      follow.dataFrames kind ++ (follow.remaining kind).map (Session.dataFrame kind) =
        plan.chunks.map (Session.dataFrame kind) ∨
    stop ≤ follow.delivered kind

variable {plan : LogReplayPlan} {stop : Nat} {since : Streams (Option Nat)} {entry : JobEntry}

theorem replayed_frames (replays : Replays plan stop kind) (same : follow.session.plan kind = plan) (count : Nat) :
    (((follow.remaining kind).take count).map (dataFrame kind)).filter encodable =
      ((follow.remaining kind).take count).map (dataFrame kind) := by
  rw [filter_eq_self]
  intro _ member
  obtain ⟨chunk, inside, rfl⟩ := mem_map.mp member
  refine replays.encodable chunk ?_
  rw [← same]
  exact mem_of_mem_drop (mem_of_mem_take inside)

/-- What the worker does not send for the stream changes nothing, even if it takes chunks of it. -/
theorem Resumable.steady (resumable : Resumable plan stop kind follow) (steady : Steady kind follow next)
    (unheard : Unheard kind follow next) (fewer : next.waiting kind ⊆ follow.waiting kind) :
    Resumable plan stop kind next := by
  refine ⟨steady.plan.trans resumable.planned, ?_, fun chunk member => resumable.ahead chunk (fewer member), ?_⟩
  · rw [unheard.channel]
    exact resumable.passed
  · rw [steady.delivered, steady.frames, steady.remaining]
    exact resumable.replay

theorem StreamMove.resumable (formed : follow.WellFormed) (replays : Replays plan stop kind)
    (move : StreamMove config step kind follow next) (resumable : Resumable plan stop kind follow) :
    Resumable plan stop kind next := by
  cases move with
  | unmoved steady unheard waiting => exact resumable.steady steady unheard fun _ => waiting ▸ id
  | @offered chunk steady _ _ _ _ ordered joins pushed queued =>
    have beyond : stop ≤ chunk.beginOffset := by
      have passed := resumable.passed
      cases seen : (follow.channel kind).seen with
      | true =>
        rw [joins seen]
        exact passed
      | false =>
        have zero := ((formed.sound.streams kind).fresh seen).2
        rw [show (follow.channel kind).offset = 0 from zero] at passed
        omega
    refine ⟨steady.plan.trans resumable.planned, ?_, ?_, ?_⟩
    · rw [pushed]
      exact beyond.trans ordered
    · intro other member
      rcases queued with ⟨_, queued, _⟩ | ⟨same, _⟩
      · rw [queued] at member
        rcases mem_append.mp member with old | new
        · exact resumable.ahead other old
        · rw [mem_singleton.mp new]
          exact ⟨beyond, ordered⟩
      · rw [same] at member
        exact resumable.ahead other member
    · rw [steady.delivered, steady.frames, steady.remaining]
      exact resumable.replay
  | replayed _ unheard waiting delivered _ remaining frames =>
    refine ⟨unheard.plan.trans resumable.planned, ?_, ?_, ?_⟩
    · rw [unheard.channel]
      exact resumable.passed
    · rw [waiting]
      exact resumable.ahead
    · rw [delivered, frames, remaining, replayed_frames replays resumable.planned]
      refine resumable.replay.imp (fun ⟨start, sent⟩ => ⟨start, ?_⟩) id
      rw [append_assoc, ← map_append, take_append_drop]
      exact sent
  | stale steady unheard _ _ _ waiting | gap steady unheard _ _ _ waiting =>
    exact resumable.steady steady unheard fun _ => waiting ▸ mem_cons_of_mem _
  | @next chunk unheard _ _ _ waiting _ delivered _ _ =>
    have here := resumable.ahead chunk (by rw [waiting]; exact mem_cons_self ..)
    refine ⟨unheard.plan.trans resumable.planned, ?_, ?_, Or.inr ?_⟩
    · rw [unheard.channel]
      exact resumable.passed
    · exact fun other member => resumable.ahead other (by rw [waiting]; exact mem_cons_of_mem _ member)
    · rw [delivered]
      exact here.1.trans here.2

/-- At the end of the replay the client stands at the end of the stream as it was. -/
theorem Resumable.position (replays : Replays plan stop kind) (resumable : Resumable plan stop kind follow)
    (behind : follow.delivered kind < stop) (sent : ∀ left ∈ follow.remaining kind, left.beginOffset = left.endOffset) :
    stop ≤ positionAfter plan.startOffset (follow.dataFrames kind) := by
  obtain ⟨_, whole⟩ := resumable.replay.resolve_right (by omega)
  obtain ⟨first, early, spans⟩ := replays.spans
  have frames : FrameSpan first (plan.chunks.map (dataFrame kind)) stop :=
    spans.map (fun _ _ => rfl) fun _ _ => rfl
  rw [← whole] at frames
  obtain ⟨middle, before, left⟩ := frames.split
  have done : middle = stop := by
    refine left.eq_of_forall_eq fun frame member => ?_
    obtain ⟨chunk, inside, rfl⟩ := mem_map.mp member
    exact sent chunk inside
  have reached := before.getLast
  rw [positionAfter]
  cases last : (follow.dataFrames kind).getLast? with
  | none =>
    rw [last] at reached
    have same : first = middle := reached
    omega
  | some frame =>
    rw [last] at reached
    have same : frame.endOffset = middle := reached
    show stop ≤ frame.endOffset
    omega

/-- A BACKPRESSURE frame names no offset beyond what the client has of the stream. -/
def Reported (start : LogStreamKind → Nat) (before : List IpcStreamFrame) (frame : IpcStreamFrame) : Prop :=
  frame.kind = .logBackpressure → ∃ kind : LogStreamKind, frame.stream = kind.wire ∧
    frame.beginOffset ≤ positionAfter (start kind) (before.filter (isData kind))

theorem Move.reported {plans : LogStreamKind → LogReplayPlan} {ends : Streams Nat}
    (replays : ∀ kind, Replays (plans kind) (ends.get kind) kind) (move : Move config follow step next)
    (gaps : follow.gapAtReplayEnd ends config step = true)
    (resumable : ∀ kind, Resumable (plans kind) (ends.get kind) kind follow)
    (reported : EachAfter (Reported fun kind => (plans kind).startOffset) follow.session.frames) :
    EachAfter (Reported fun kind => (plans kind).startOffset) next.session.frames := by
  obtain ⟨_, frames, appends⟩ := move.appends
  rw [frames]
  refine reported.append fun before frame after here backpressure => ?_
  obtain ⟨chunk, gap, same⟩ := appends.backpressure (by rw [here]; simp) backpressure
  rw [here] at same
  obtain ⟨rfl, rest⟩ : before = [] ∧ frame :: after = [backpressureFrame chunk.stream chunk.beginOffset] := by
    cases before with
    | nil => exact ⟨rfl, same⟩
    | cons => simp at same
  rw [cons.injEq] at rest
  obtain ⟨rfl, _⟩ := rest
  have apart := gap.gap
  rw [gapAtReplayEnd, gap.taken] at gaps
  have found : chunk.beginOffset = ends.get chunk.stream ∧
      ∀ left ∈ follow.remaining chunk.stream, left.beginOffset = left.endOffset := by
    simpa [gap.data, Nat.not_le.mpr apart] using gaps
  refine ⟨chunk.stream, rfl, ?_⟩
  rw [append_nil]
  rw [found.1] at apart ⊢
  exact (resumable chunk.stream).position (replays chunk.stream) apart found.2

theorem Opened.replays {history : List PublisherStep} {sessions : Nat}
    (opened : Opened config.streamer { after config.streamer history with sessions } since follow)
    (fits : ∀ step ∈ history, step.fitsFrame = true) (kind : LogStreamKind) :
    Replays (follow.session.plan kind) ((after config.streamer history).streams.get kind).offset kind := by
  have sound : (after config.streamer history).Sound := after_sound history
  have small : (after config.streamer history).Fits := after_fits fits
  rw [opened.plans kind]
  obtain ⟨first, early, within, spans⟩ := plan_spans (sound.streams kind) (since.get kind)
  refine ⟨⟨first, early, spans⟩, within, fun chunk member => ?_⟩
  exact encodable_dataFrame (spans.ordered chunk member) (small kind chunk (plan_subset _ _ member))

theorem Opened.resumable (opened : Opened config.streamer entry since follow) (kind : LogStreamKind) :
    Resumable (follow.session.plan kind) (entry.streams.get kind).offset kind follow where
  planned := rfl
  passed := by rw [Follow.channel, opened.channel]
  ahead chunk member := by
    rw [waiting, opened.subscription] at member
    cases member
  replay := by
    refine Or.inl ⟨?_, ?_⟩
    · rw [delivered, opened.progress]
    · rw [opened.dataFrames, remaining, opened.progress]
      rfl

theorem Opened.reported {start : LogStreamKind → Nat} (opened : Opened config.streamer entry since follow) :
    EachAfter (Reported start) follow.session.frames := by
  refine .of_forall fun frame member before backpressure => ?_
  rw [opened.frames frame member] at backpressure
  cases backpressure

/-- Where gaps are met only at the end of a replay, the offset of a BACKPRESSURE frame is no further
than what the client has, and the printed command goes on from there without a loss. -/
theorem backpressure_resumes {totalSessions sessions : Nat} {version jobState : UInt8}
    {history : List PublisherStep} {since : Streams (Option Nat)} {steps : List FollowStep}
    {before after : List IpcStreamFrame} {frame : IpcStreamFrame}
    (begun : beginStream config.streamer totalSessions version jobState
      { JobEntry.after config.streamer history with sessions } since.stdout since.stderr = .ok follow)
    (fits : ∀ step ∈ history, step.fitsFrame = true)
    (gaps : Guarded.Along (Follow.step config)
      (fun follow step => follow.gapAtReplayEnd (JobEntry.after config.streamer history).offsets config step = true)
      follow steps)
    (frames : (follow.run config steps).session.frames = before ++ frame :: after)
    (backpressure : frame.kind = .logBackpressure) :
    ∃ kind : LogStreamKind, frame.stream = kind.wire ∧
      frame.beginOffset ≤ positionAfter (follow.start kind) (before.filter (IpcStreamFrame.isData kind)) ∧
      ∀ more : List FollowStep,
        let state := ((follow.run config steps).run config more).channel kind
        let resumed := state.plan ((FollowPrinter.reconnect frame).get kind)
        resumed.gapBytes = 0 →
          ∃ first ≤ positionAfter (follow.start kind) (before.filter (isData kind)),
            ChunkSpan first resumed.chunks state.offset := by
  have opened := beginStream_opened begun
  have sound : (JobEntry.after config.streamer history).Sound := JobEntry.after_sound history
  obtain ⟨formed, _, reported⟩ := run_invariant
    (fun state =>
      (∀ kind, Resumable (follow.session.plan kind)
        ((JobEntry.after config.streamer history).offsets.get kind) kind state) ∧
      EachAfter (Reported fun kind => (follow.session.plan kind).startOffset) state.session.frames)
    (fun state step formed gaps move ⟨resumable, reported⟩ => by
      have replays := fun kind => offsets_get ▸ opened.replays fits kind
      exact ⟨fun kind => (move.stream formed kind).resumable formed (replays kind) (resumable kind),
        move.reported replays gaps resumable reported⟩)
    opened ⟨sound.streams, sound.closed, sound.jobState⟩ gaps
    ⟨fun kind => offsets_get ▸ opened.resumable kind, opened.reported⟩
  obtain ⟨kind, stream, behind⟩ := reported before frame after frames backpressure
  refine ⟨kind, stream, behind, ?_⟩
  intro more state resumed whole
  have later : ((follow.run config steps).run config more).WellFormed := formed.run more
  obtain ⟨first, early, _, spans⟩ := StreamState.plan_spans (later.sound.streams kind) (some frame.beginOffset)
  have asked : resumed = state.plan (some frame.beginOffset) :=
    congrArg state.plan (FollowPrinter.reconnect_get stream)
  rw [asked] at whole ⊢
  have reach := StreamState.plan_start_le whole
  exact ⟨first, (early.trans reach).trans behind, spans⟩

theorem backpressure_resumes_replay :
    ∃ follow, beginStream {} 0 4 2
        { JobEntry.after {} [.publishChunk .stdout [65, 66, 67, 68] 0 4] with sessions := 0 }
          (some 0) none = .ok follow ∧
      let read := [dataFrame .stdout { endOffset := 4, data := [65, 66, 67, 68] }]
      let position := positionAfter (follow.start .stdout) (read.filter (isData .stdout))
      let state := (follow.run {} resumed).channel .stdout
      4 ≤ position ∧ ∃ first ≤ position, ChunkSpan first (state.plan (some 4)).chunks state.offset := by
  refine ⟨_, rfl, ?_⟩
  obtain ⟨kind, stream, behind, resumes⟩ := @backpressure_resumes {} _ 0 0 4 2
    [.publishChunk .stdout [65, 66, 67, 68] 0 4] ⟨some 0, none⟩ resumed
    [dataFrame .stdout { endOffset := 4, data := [65, 66, 67, 68] }] [] (backpressureFrame .stdout 4) rfl
    (by decide +kernel) (by decide +kernel) (by decide +kernel) rfl
  cases kind with
  | stdout => exact ⟨behind, resumes [] (by decide +kernel)⟩
  | stderr => cases stream

/-- The fifth byte was refused. The client has four bytes, is told five, and asks again from there. -/
theorem backpressure_skips :
    ∃ follow, beginStream { subscriptionCapacity := 4 } 0 4 2
      (JobEntry.after { subscriptionCapacity := 4 } []) none none =
        .ok follow ∧
      ∃ before, (follow.run { streamer := { subscriptionCapacity := 4 } } overrun).session.frames =
          before ++ [backpressureFrame .stdout 5] ∧
        positionAfter (follow.start .stdout) (before.filter (isData .stdout)) = 4 ∧
        let state := (follow.run { streamer := { subscriptionCapacity := 4 } } overrun).channel .stdout
        let resumed := state.plan ((FollowPrinter.reconnect (backpressureFrame .stdout 5)).get .stdout)
        resumed.gapBytes = 0 ∧ ∀ chunk ∈ resumed.chunks, 5 ≤ chunk.beginOffset := by
  refine ⟨_, rfl, (List.range 4).map fun offset => dataFrame .stdout
    { beginOffset := offset, endOffset := offset + 1, data := [65] }, ?_, ?_, ?_⟩ <;> decide +kernel

end Follow

end Yori
