import Yori.Follow.FollowMoves

namespace Yori
open Session IpcStreamFrame Subscription List

/-- A data frame of the given stream. -/
def IpcStreamFrame.isData (kind : LogStreamKind) (frame : IpcStreamFrame) : Bool :=
  frame.kind == .logData && frame.stream == kind.wire

/-- A span of frames, by their offsets. -/
abbrev FrameSpan : Nat → List IpcStreamFrame → Nat → Prop :=
  Spans beginOffset endOffset

namespace Follow

variable {config : FollowConfig} {follow next : Follow} {kind : LogStreamKind} {step : FollowStep}
  {rest : List LogChunk} {after : Session} {chunk : LogChunk}

/-! One stream of a session: what the channel has of it, what waits in the subscription, what is left
of the replay, and which frames went out. -/

def channel (follow : Follow) (kind : LogStreamKind) : JobEntry.StreamState := follow.entry.streams.get kind

def start (follow : Follow) (kind : LogStreamKind) : Nat := (follow.session.plan kind).startOffset

def waiting (follow : Follow) (kind : LogStreamKind) : List LogChunk :=
  follow.session.subscription.queue.filter (LogChunk.isData kind)

def delivered (follow : Follow) (kind : LogStreamKind) : Nat := (follow.session.streams.get kind).delivered

def remaining (follow : Follow) (kind : LogStreamKind) : List LogChunk :=
  (follow.session.plan kind).chunks.drop (follow.session.streams.get kind).replayIndex

def dataFrames (follow : Follow) (kind : LogStreamKind) : List IpcStreamFrame :=
  follow.session.frames.filter (isData kind)

/-- No chunk of the stream was published since the session was opened. -/
def untouched (follow : Follow) (kind : LogStreamKind) : Bool :=
  !follow.session.subscription.published.any (LogChunk.isData kind)

/-- The chunks of the stream that the session's subscription refused. -/
def lost (follow : Follow) (kind : LogStreamKind) : List LogChunk :=
  follow.session.subscription.rejected.filter (LogChunk.isData kind)

/-- The chunks of the stream that the session's subscription accepted. -/
def heard (follow : Follow) (kind : LogStreamKind) : List LogChunk :=
  follow.session.subscription.accepted.filter (LogChunk.isData kind)

/-- The worker takes no more chunks for the session. -/
def Over (follow : Follow) : Prop := follow.session.closing = true ∨ follow.Gone

/-- What the worker has done for the stream stays as it was. -/
structure Steady (kind : LogStreamKind) (follow next : Follow) : Prop where
  plan : next.session.plan kind = follow.session.plan kind
  delivered : next.delivered kind = follow.delivered kind
  remaining : next.remaining kind = follow.remaining kind
  frames : next.dataFrames kind = follow.dataFrames kind
  lost : follow.lost kind ⊆ next.lost kind
  isOver : follow.Over → next.Over

/-- What the publishers have done for the stream stays as it was. -/
structure Unheard (kind : LogStreamKind) (follow next : Follow) : Prop where
  channel : next.channel kind = follow.channel kind
  plan : next.session.plan kind = follow.session.plan kind
  untouched : next.untouched kind = follow.untouched kind
  lost : next.lost kind = follow.lost kind
  heard : next.heard kind = follow.heard kind
  isOver : follow.Over → next.Over

/-- How a chunk that is published reaches the session: it is queued, or refused
for want of room, or the session is over. -/
def Reaches (kind : LogStreamKind) (chunk : LogChunk) (follow next : Follow) : Prop :=
  follow.session.subscription.full = false ∧ next.waiting kind = follow.waiting kind ++ [chunk] ∧
      next.lost kind = follow.lost kind ∧ next.heard kind = follow.heard kind ++ [chunk] ∨
    next.waiting kind = follow.waiting kind ∧ next.heard kind = follow.heard kind ∧
      (follow.session.subscription.full = true ∧ next.lost kind = follow.lost kind ++ [chunk] ∨
        next.lost kind = follow.lost kind ∧ next.Over)

/-- What a step can do to one stream. -/
inductive StreamMove (config : FollowConfig) (step : FollowStep) (kind : LogStreamKind) (follow next : Follow) : Prop
  | unmoved (steady : Steady kind follow next) (unheard : Unheard kind follow next)
      (waiting : next.waiting kind = follow.waiting kind)
  | offered {chunk : LogChunk} (steady : Steady kind follow next) (handed : follow.handed config step = some chunk)
      (running : follow.entry.finished = false) (registered : follow.entry.registered = true)
      (data : chunk.isData kind = true) (ordered : chunk.beginOffset ≤ chunk.endOffset)
      (joins : (follow.channel kind).seen = true → chunk.beginOffset = (follow.channel kind).offset)
      (pushed : next.channel kind = (follow.channel kind).push config.streamer.backlogBytesPerStream chunk)
      (reaches : Reaches kind chunk follow next)
  | replayed (count : Nat) (unheard : Unheard kind follow next) (waiting : next.waiting kind = follow.waiting kind)
      (delivered : next.delivered kind = follow.delivered kind) (listening : ¬follow.Over)
      (remaining : next.remaining kind = (follow.remaining kind).drop count)
      (frames : next.dataFrames kind = follow.dataFrames kind ++
        (((follow.remaining kind).take count).map (Session.dataFrame kind)).filter encodable)
  | stale {chunk : LogChunk} (steady : Steady kind follow next) (unheard : Unheard kind follow next)
      (listening : ¬follow.Over) (taken : follow.taken config step = some chunk) (data : chunk.isData kind = true)
      (waiting : follow.waiting kind = chunk :: next.waiting kind) (stale : chunk.beginOffset < follow.delivered kind)
  | gap {chunk : LogChunk} (steady : Steady kind follow next) (unheard : Unheard kind follow next)
      (listening : ¬follow.Over) (taken : follow.taken config step = some chunk) (data : chunk.isData kind = true)
      (waiting : follow.waiting kind = chunk :: next.waiting kind) (gap : follow.delivered kind < chunk.beginOffset)
      (isOver : next.Over)
  | next {chunk : LogChunk} (unheard : Unheard kind follow next) (listening : ¬follow.Over)
      (taken : follow.taken config step = some chunk) (data : chunk.isData kind = true)
      (waiting : follow.waiting kind = chunk :: next.waiting kind) (joins : chunk.beginOffset = follow.delivered kind)
      (delivered : next.delivered kind = chunk.endOffset) (remaining : next.remaining kind = follow.remaining kind)
      (frames : next.dataFrames kind = follow.dataFrames kind ++ [Session.dataFrame kind chunk].filter encodable)

theorem wire_injective {a b : LogStreamKind} (same : a.wire = b.wire) : a = b := by
  cases a <;> cases b <;> first | rfl | exact absurd same (by decide)

theorem isData_dataFrame (other : LogStreamKind) : (dataFrame other chunk).isData kind = true ↔ other = kind := by
  simp only [isData, dataFrame, beq_self_eq_true, Bool.true_and, beq_iff_eq]
  exact ⟨wire_injective, fun same => by rw [same]⟩

theorem filter_dataFrame_self (chunks : List LogChunk) :
    ((chunks.map (dataFrame kind)).filter encodable).filter (isData kind) =
      (chunks.map (dataFrame kind)).filter encodable := by
  rw [filter_eq_self]
  intro _ member
  obtain ⟨chunk, _, same⟩ := mem_map.mp (mem_filter.mp member).1
  rw [← same]
  exact (isData_dataFrame kind).mpr rfl

theorem filter_dataFrame_of_ne {other : LogStreamKind} (different : other ≠ kind) (chunks : List LogChunk) :
    ((chunks.map (dataFrame other)).filter encodable).filter (isData kind) = [] := by
  rw [filter_eq_nil_iff]
  intro _ member data
  obtain ⟨chunk, _, same⟩ := mem_map.mp (mem_filter.mp member).1
  rw [← same] at data
  exact different ((isData_dataFrame other).mp data)

/-- Frames that carry no data are no data frames of any stream. -/
theorem filter_control {frames : List IpcStreamFrame} (control : ∀ frame ∈ frames, frame.kind ≠ .logData) :
    (frames.filter encodable).filter (isData kind) = [] := by
  rw [filter_eq_nil_iff]
  intro frame member data
  refine control frame (mem_filter.mp member).1 ?_
  simp only [isData, Bool.and_eq_true, beq_iff_eq] at data
  exact data.1

section

variable (quiet : Quiet follow next)
include quiet

theorem Quiet.lost : next.lost kind = follow.lost kind := by
  rw [Follow.lost, Follow.lost, rejected, rejected, quiet.offered]

theorem Quiet.heard : next.heard kind = follow.heard kind := by
  rw [Follow.heard, Follow.heard, accepted, accepted, quiet.offered]

theorem Quiet.isOver : follow.Over → next.Over :=
  Or.imp quiet.closing.trans quiet.gone

theorem Quiet.stream : StreamMove config step kind follow next := by
  have plan : next.session.plan kind = follow.session.plan kind := by rw [plan, plan, quiet.plans]
  refine .unmoved ⟨plan, ?_, ?_, ?_, fun _ => quiet.lost.symm ▸ id, quiet.isOver⟩
    ⟨?_, plan, ?_, quiet.lost, quiet.heard, quiet.isOver⟩ ?_
  · rw [delivered, delivered, quiet.progress]
  · rw [remaining, remaining, plan, quiet.progress]
  · rw [dataFrames, dataFrames, quiet.frames]
  · rw [channel, channel, quiet.streams]
  · rw [untouched, untouched, published, published, quiet.offered]
  · rw [waiting, waiting, quiet.queue]

end

theorem not_over (present : ¬follow.Gone) (open' : follow.session.closing = false) : ¬follow.Over := by
  rintro (closing | gone)
  · rw [open'] at closing
    cases closing
  · exact present gone

theorem Takes.listening (takes : Takes config follow step chunk rest) : ¬follow.Over :=
  not_over takes.present takes.open'

/-- A publication of a chunk of another stream, or of the end of the job. -/
theorem publish_unmoved {entry : JobEntry} (other : chunk.isData kind = false)
    (same : entry.streams.get kind = follow.entry.streams.get kind) :
    StreamMove config step kind follow
      { follow with entry, session := follow.session.setSubscription (follow.session.subscription.publish chunk) } := by
  obtain ⟨queue, published, rejected, accepted⟩ := follow.session.subscription.publish_of_neg other
  refine .unmoved ⟨rfl, rfl, rfl, rfl, fun _ => (congrArg _ rejected).mpr, id⟩
    ⟨same, rfl, ?_, rejected, accepted, id⟩ queue
  rw [untouched, untouched, ← published]
  rfl

theorem replays_get (session : Session) (counts : Streams Nat) (kind : LogStreamKind) :
    ((session.replayed .stdout counts.stdout).replayed .stderr counts.stderr).streams.get kind =
      { session.streams.get kind with
        replayIndex := (session.streams.get kind).replayIndex + counts.get kind } := by
  cases kind with
  | stdout =>
    rw [replayed_get_of_ne (by simp), replayed_get_self]
    rfl
  | stderr =>
    rw [replayed_get_self, replayed_get_of_ne (by simp)]
    rfl

/-- Of the frames of a replay, those of one stream. -/
theorem replays_frames (session : Session) (counts : Streams Nat) (kind : LogStreamKind) :
    ((session.replayed .stdout counts.stdout).replayed .stderr counts.stderr).frames.filter
        (isData kind) =
      session.frames.filter (isData kind) ++
        (((((session.plan kind).chunks.drop (session.streams.get kind).replayIndex).take (counts.get kind)).map
          (dataFrame kind)).filter encodable) := by
  have frames : ((session.replayed .stdout counts.stdout).replayed .stderr counts.stderr).frames =
      session.frames ++
        (((((session.plan .stdout).chunks.drop (session.streams.get .stdout).replayIndex).take counts.stdout).map
          (dataFrame .stdout)).filter encodable) ++
        (((((session.plan .stderr).chunks.drop (session.streams.get .stderr).replayIndex).take counts.stderr).map
          (dataFrame .stderr)).filter encodable) := by
    simp only [replayed, setStream, appendAll]
    rfl
  rw [frames, filter_append, filter_append]
  cases kind with
  | stdout | stderr => rw [filter_dataFrame_self, filter_dataFrame_of_ne (by simp), append_nil]; rfl

/-- A replay, perhaps with control frames and flags after it. -/
theorem replays_stream (counts : Streams Nat) (listening : ¬follow.Over) (entry : next.entry = follow.entry)
    (session : next.session = after) (handle : after.handle = follow.session.handle)
    (streams : after.streams = ((follow.session.replayed .stdout counts.stdout).replayed .stderr counts.stderr).streams)
    (frames : after.frames.filter (isData kind) =
      ((follow.session.replayed .stdout counts.stdout).replayed .stderr counts.stderr).frames.filter (isData kind)) :
    StreamMove config step kind follow next := by
  have subscription : next.session.subscription = follow.session.subscription := by
    rw [session, subscription, handle]
    rfl
  have plan : next.session.plan kind = follow.session.plan kind := by
    rw [session, plan, handle]
    rfl
  have progress := replays_get follow.session counts kind
  rw [← streams, ← session] at progress
  refine .replayed (counts.get kind) ⟨?_, plan, ?_, ?_, ?_, fun isOver => absurd isOver listening⟩ ?_ ?_ listening ?_ ?_
  · rw [channel, channel, entry]
  · rw [untouched, untouched, subscription]
  · rw [lost, lost, subscription]
  · rw [heard, heard, subscription]
  · rw [waiting, waiting, subscription]
  · rw [delivered, progress]
    rfl
  · rw [remaining, remaining, plan, progress, drop_drop]
  · rw [dataFrames, session, frames, replays_frames]
    rfl

/-- Receiving a chunk is not heard by the publishers. -/
theorem received_unheard (listening : ¬follow.Over) (entry : next.entry = follow.entry)
    (session : next.session = after) (handle : after.handle = (follow.session.received rest).handle) :
    Unheard kind follow next := by
  have offered : next.session.subscription.offered = follow.session.subscription.offered := by
    rw [session, subscription, handle]
    rfl
  refine ⟨?_, ?_, ?_, ?_, ?_, fun isOver => absurd isOver listening⟩
  · rw [channel, channel, entry]
  · rw [session, plan, handle]
    rfl
  · rw [untouched, untouched, published, offered]
    rfl
  · rw [lost, rejected, offered]
    rfl
  · rw [heard, accepted, offered]
    rfl

/-- A session whose worker did nothing for the stream but look at a chunk. -/
theorem received_steady (unheard : Unheard kind follow next) (session : next.session = after)
    (streams : after.streams.get kind = follow.session.streams.get kind)
    (frames : after.frames.filter (isData kind) = follow.session.frames.filter (isData kind)) :
    Steady kind follow next := by
  refine ⟨unheard.plan, ?_, ?_, ?_, fun _ => unheard.lost.symm ▸ id, unheard.isOver⟩
  · rw [delivered, session, streams]
    rfl
  · rw [remaining, unheard.plan, session, streams]
    rfl
  · rw [dataFrames, session, frames]
    rfl

theorem waiting_of_data (queued : follow.session.subscription.queue = chunk :: rest) (data : chunk.isData kind = true) :
    follow.waiting kind = chunk :: rest.filter (LogChunk.isData kind) := by
  rw [waiting, queued, filter_cons_of_pos data]

/-- Taking a chunk that is no data of the stream. -/
theorem received_unmoved (listening : ¬follow.Over) (queued : follow.session.subscription.queue = chunk :: rest)
    (other : chunk.isData kind = false) (entry : next.entry = follow.entry) (session : next.session = after)
    (handle : after.handle = (follow.session.received rest).handle)
    (streams : after.streams.get kind = follow.session.streams.get kind)
    (frames : after.frames.filter (isData kind) = follow.session.frames.filter (isData kind)) :
    StreamMove config step kind follow next := by
  have unheard : Unheard kind follow next := received_unheard listening entry session handle
  refine .unmoved (received_steady unheard session streams frames) unheard ?_
  rw [waiting, waiting, session, subscription, handle, queued, filter_cons_of_neg (by simp [other])]
  rfl

/-- A chunk of data is one of the stream, or one of the other. -/
theorem data_cases (data : chunk.kind = .data) (kind : LogStreamKind) :
    chunk.isData kind = true ∧ chunk.stream = kind ∨ chunk.isData kind = false ∧ chunk.stream ≠ kind := by
  by_cases here : chunk.stream = kind
  · exact Or.inl ⟨LogChunk.isData_iff.mpr ⟨data, here⟩, here⟩
  · exact Or.inr ⟨by simp [LogChunk.isData, here], here⟩

theorem Move.stream (formed : follow.WellFormed) (move : Move config follow step next) (kind : LogStreamKind) :
    StreamMove config step kind follow next := by
  cases move with
  | quiet quiet => exact quiet.stream
  | @pushed chunk handed registered running data ordered joins =>
    obtain ⟨counts, rfl⟩ | ⟨other, here⟩ := data_cases data kind
    · refine .offered ⟨rfl, rfl, rfl, rfl, ?_, id⟩ handed running registered counts ordered joins
        (Streams.get_set_self _ _ _) ?_
      · exact filter_subset _ (follow.session.subscription.rejected_publish chunk)
      · rcases follow.session.subscription.publish_of_pos counts with
          ⟨room, queued, rejected, accepted⟩ | ⟨same, accepted, ⟨full, refused⟩ | ⟨closed, rejected⟩⟩
        · refine Or.inl ⟨room, queued, congrArg _ rejected, ?_⟩
          have added := congrArg (filter (LogChunk.isData chunk.stream)) accepted
          rw [filter_append, filter_cons_of_pos counts] at added
          exact added
        · refine Or.inr ⟨same, congrArg _ accepted, Or.inl ⟨full, ?_⟩⟩
          have added := congrArg (filter (LogChunk.isData chunk.stream)) refused
          rw [filter_append, filter_cons_of_pos counts] at added
          exact added
        · -- The topic of a running job is open, so the session itself was dropped.
          refine Or.inr ⟨same, congrArg _ accepted, Or.inr ⟨congrArg _ rejected, Or.inr ?_⟩⟩
          refine (formed.closed closed).resolve_left fun topic => ?_
          rcases formed.sound.closed topic with finished | gone
          · rw [running] at finished
            cases finished
          · rw [registered] at gone
            cases gone
    · exact publish_unmoved other (Streams.get_set_of_ne (fun same => here same.symm) _ _)
  | ended => exact publish_unmoved rfl rfl
  | replayed stdout stderr open' idle =>
    exact replays_stream ⟨stdout, stderr⟩ (not_over (not_gone idle (by simp)) open') rfl rfl rfl rfl rfl
  | concluded stdout stderr open' idle =>
    refine replays_stream ⟨stdout, stderr⟩ (not_over (not_gone idle (by simp)) open') rfl rfl rfl rfl ?_
    rw [appendAll, filter_append, filter_control (by simp [eofFrame]), append_nil]
  | tookEnd takes eof =>
    refine received_unmoved takes.listening takes.queued (by simp [LogChunk.isData, eof]) rfl rfl rfl rfl ?_
    rw [appendAll, filter_append, filter_control (by simp [eofFrame]), append_nil]
    rfl
  | @tookStale chunk rest drained takes data stale =>
    obtain ⟨counts, rfl⟩ | ⟨other, here⟩ := data_cases data kind
    · have unheard : Unheard chunk.stream follow
        { follow with session := follow.session.received rest, phase := .draining drained } :=
        received_unheard takes.listening rfl rfl rfl
      exact .stale (received_steady unheard rfl rfl rfl) unheard takes.listening takes.taken counts
        (waiting_of_data takes.queued counts) stale
    · exact received_unmoved takes.listening takes.queued other rfl rfl rfl rfl rfl
  | @tookGap chunk rest takes data gap =>
    have control : ∀ kind,
        (({ follow.session.received rest with backpressure := true, closing := true } : Session).appendAll
          [backpressureFrame chunk.stream chunk.beginOffset]).frames.filter (isData kind) =
        follow.session.frames.filter (isData kind) := by
      intro _
      rw [appendAll, filter_append, filter_control (by simp [backpressureFrame]), append_nil]
      rfl
    obtain ⟨counts, rfl⟩ | ⟨other, here⟩ := data_cases data kind
    · have unheard : Unheard chunk.stream follow
        { follow with
          session := ({ follow.session.received rest with backpressure := true, closing := true } : Session).appendAll
            [backpressureFrame chunk.stream chunk.beginOffset]
          phase := .flushing } := received_unheard takes.listening rfl rfl rfl
      exact .gap (received_steady unheard rfl rfl (control _)) unheard takes.listening takes.taken counts
        (waiting_of_data takes.queued counts) gap (Or.inl rfl)
    · exact received_unmoved takes.listening takes.queued other rfl rfl rfl rfl (control kind)
  | @tookNext chunk rest _ takes data joins =>
    obtain ⟨counts, rfl⟩ | ⟨other, here⟩ := data_cases data kind
    · have state : (((follow.session.received rest).appendAll [dataFrame chunk.stream chunk]).setStream
          chunk.stream { follow.session.streams.get chunk.stream with delivered := chunk.endOffset }).streams.get
          chunk.stream = { follow.session.streams.get chunk.stream with delivered := chunk.endOffset } :=
        Streams.get_set_self _ _ _
      refine .next (received_unheard takes.listening rfl rfl rfl) takes.listening takes.taken counts
        (waiting_of_data takes.queued counts) joins ?_ ?_ ?_
      · rw [delivered, state]
      · rw [remaining, state]
        rfl
      · rw [dataFrames, setStream, appendAll, filter_append]
        exact congrArg _ (filter_dataFrame_self [chunk])
    · refine received_unmoved takes.listening takes.queued other rfl rfl rfl ?_ ?_
      · exact Streams.get_set_of_ne (fun same => here same.symm) _ _
      · rw [setStream, appendAll, filter_append]
        have none := filter_dataFrame_of_ne here [chunk]
        rw [map_singleton] at none
        rw [none, append_nil]
        rfl
  | dropped =>
    exact .unmoved ⟨rfl, rfl, rfl, rfl, fun _ => id, fun _ => Or.inl rfl⟩
      ⟨rfl, rfl, rfl, rfl, rfl, fun _ => Or.inl rfl⟩ rfl

end Follow

end Yori
