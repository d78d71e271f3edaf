import Yori.Follow.EndOfJob
import Yori.Follow.Reconnect

namespace Yori
open Session List

namespace Follow

variable {config : FollowConfig} {follow next : Follow} {kind : LogStreamKind} {step : FollowStep}
variable {plan : LogReplayPlan} {stop : Nat} {since : Streams (Option Nat)} {chunk : LogChunk} {entry : JobEntry}

/-- Live chunks are received only once the replay before them has been queued. -/
def replaysFirst (config : FollowConfig) (follow : Follow) (step : FollowStep) : Bool :=
  match follow.taken config step with
  | none => true
  | some chunk =>
    match chunk.kind with
    | .data => follow.session.replayDone chunk.stream
    | .eof => follow.session.allReplayDone

/-- The subscription has no room for a chunk that moves the end of the stream. -/
def misses (config : FollowConfig) (kind : LogStreamKind) (follow : Follow) (step : FollowStep) : Bool :=
  match follow.handed config step with
  | none => false
  | some chunk =>
    chunk.isData kind && follow.session.subscription.full && chunk.endOffset != (follow.channel kind).offset

/-- What waits in the queue leads from a position to the end of the stream, or shows a gap at its head. -/
inductive Pending (follow : Follow) (kind : LogStreamKind) (position : Nat) : Prop
  | joined (known : (follow.channel kind).seen = true ∨ follow.waiting kind = [])
      (spans : ChunkSpan position (follow.waiting kind) (follow.channel kind).offset)
  | apart {first : LogChunk} {rest : List LogChunk} (waiting : follow.waiting kind = first :: rest)
      (gap : position < first.beginOffset)

/-- What went out so far: the beginning of the replay, or all of it and live chunks without a gap. -/
inductive Flow (plan : LogReplayPlan) (stop : Nat) (kind : LogStreamKind) (follow : Follow) : Prop
  | isOver (isOver : follow.Over)
  | replaying (delivered : follow.delivered kind = plan.startOffset)
      (sent : follow.dataFrames kind ++ (follow.remaining kind).map (Session.dataFrame kind) =
        plan.chunks.map (Session.dataFrame kind))
      (pending : follow.Pending kind stop)
  | live {first : Nat} (done : follow.remaining kind = []) (early : first ≤ plan.startOffset)
      (spans : FrameSpan first (follow.dataFrames kind) (follow.delivered kind))
      (pending : follow.Pending kind (follow.delivered kind))

/-- A stream of a session that loses nothing. -/
structure Course (plan : LogReplayPlan) (stop : Nat) (kind : LogStreamKind) (follow : Follow) : Prop where
  planned : follow.session.plan kind = plan
  carried : ∀ chunk ∈ follow.waiting kind, encodable (Session.dataFrame kind chunk) = true
  flow : Flow plan stop kind follow

section

variable (pending : follow.Pending kind stop)
include pending

theorem Pending.same (channel : next.channel kind = follow.channel kind)
    (waiting : next.waiting kind = follow.waiting kind) : next.Pending kind stop := by
  cases pending with
  | joined known spans =>
    rw [← channel] at known spans
    rw [← waiting] at known spans
    exact .joined known spans
  | apart queued gap => exact .apart (waiting.trans queued) gap

/-- The chunk at the head of the queue begins at the position, or after it. -/
theorem Pending.head (channel : next.channel kind = follow.channel kind)
    (waiting : follow.waiting kind = chunk :: next.waiting kind) :
    chunk.beginOffset = stop ∧ chunk.beginOffset ≤ chunk.endOffset ∧ next.Pending kind chunk.endOffset ∨
      stop < chunk.beginOffset := by
  cases pending with
  | joined known spans =>
    rw [waiting] at spans
    have begins : chunk.beginOffset = stop := spans.1
    have seen : (follow.channel kind).seen = true := known.resolve_right (by rw [waiting]; simp)
    refine Or.inl ⟨begins, begins ▸ spans.2.1, .joined (Or.inl (channel ▸ seen)) ?_⟩
    rw [channel]
    exact spans.2.2
  | apart queued gap =>
    rw [waiting, cons.injEq] at queued
    exact Or.inr (queued.1 ▸ gap)

theorem Pending.offered (sound : (follow.channel kind).Sound)
    (ordered : chunk.beginOffset ≤ chunk.endOffset)
    (joins : (follow.channel kind).seen = true → chunk.beginOffset = (follow.channel kind).offset)
    (seen' : (next.channel kind).seen = true) (offset' : (next.channel kind).offset = chunk.endOffset)
    (queued : next.waiting kind = follow.waiting kind ++ [chunk] ∨ next.waiting kind = follow.waiting kind ∧
      chunk.endOffset = (follow.channel kind).offset) :
    next.Pending kind stop := by
  cases pending with
  | apart waiting gap =>
    rcases queued with more | ⟨same, _⟩
    · rw [waiting] at more
      exact .apart more gap
    · exact .apart (same.trans waiting) gap
  | joined known spans =>
    rcases queued with more | ⟨same, still⟩
    · by_cases begins : chunk.beginOffset = (follow.channel kind).offset
      · refine .joined (Or.inl seen') ?_
        rw [more, offset']
        rw [← begins] at spans
        exact spans.append (Spans.singleton ordered)
      · -- Only the first chunk of a stream can begin anywhere, and nothing waits before it.
        have fresh : (follow.channel kind).seen = false := by
          cases seen : (follow.channel kind).seen with
          | false => rfl
          | true => exact absurd (joins seen) begins
        have none : follow.waiting kind = [] := known.resolve_left (by rw [fresh]; simp)
        have zero := (sound.fresh fresh).2
        have below := spans.le
        rw [none, nil_append] at more
        exact .apart more (by omega)
    · refine .joined (Or.inl seen') ?_
      rw [same, offset', still]
      exact spans

end

theorem remaining_of_done (done : follow.session.replayDone kind = true) : follow.remaining kind = [] := by
  rw [remaining, drop_eq_nil_iff]
  simpa [replayDone] using done

theorem Flow.steady (flow : Flow plan stop kind follow) (steady : Steady kind follow next)
    (waits : ∀ position, follow.Pending kind position → next.Pending kind position) : Flow plan stop kind next := by
  cases flow with
  | isOver isOver => exact .isOver (steady.isOver isOver)
  | replaying delivered sent pending =>
    refine .replaying (steady.delivered.trans delivered) ?_ (waits _ pending)
    rw [steady.frames, steady.remaining]
    exact sent
  | live done early spans pending =>
    refine .live (steady.remaining.trans done) early ?_ (steady.delivered ▸ waits _ pending)
    rw [steady.frames, steady.delivered]
    exact spans

theorem StreamMove.flow (formed : follow.WellFormed) (replays : Replays plan stop kind)
    (first : follow.replaysFirst config step = true) (heard : follow.misses config kind step = false)
    (move : StreamMove config step kind follow next) (course : Course plan stop kind follow) :
    Flow plan stop kind next := by
  cases move with
  | unmoved steady unheard waiting =>
    exact course.flow.steady steady fun _ pending => pending.same unheard.channel waiting
  | @offered chunk steady handed _ _ data ordered joins pushed queued =>
    have seen' : (next.channel kind).seen = true := by rw [pushed]; rfl
    have offset' : (next.channel kind).offset = chunk.endOffset := by rw [pushed]; rfl
    have joined : ¬next.Over → next.waiting kind = follow.waiting kind ++ [chunk] ∨
        next.waiting kind = follow.waiting kind ∧ chunk.endOffset = (follow.channel kind).offset := by
      intro listening
      rcases queued with ⟨_, more, _⟩ | ⟨same, _, ⟨full, _⟩ | ⟨_, isOver⟩⟩
      · exact Or.inl more
      · refine Or.inr ⟨same, ?_⟩
        rw [misses, handed] at heard
        simpa [data, full] using heard
      · exact absurd isOver listening
    by_cases isOver : next.Over
    · exact .isOver isOver
    · exact course.flow.steady steady fun _ pending =>
        pending.offered (formed.sound.streams kind) ordered joins seen' offset' (joined isOver)
  | replayed _ unheard waiting delivered listening remaining frames =>
    cases course.flow with
    | isOver isOver => exact absurd isOver listening
    | replaying started sent pending =>
      refine .replaying (delivered.trans started) ?_ (pending.same unheard.channel waiting)
      rw [frames, remaining, replayed_frames replays course.planned, append_assoc, ← map_append,
        take_append_drop]
      exact sent
    | live done early spans pending =>
      rw [done] at remaining frames
      refine .live (remaining.trans drop_nil) early ?_ ?_
      · rw [frames, delivered, take_nil]
        simpa using spans
      · rw [delivered]
        exact pending.same unheard.channel waiting
  | @stale _ _ unheard listening _ _ waiting _ =>
    have within := replays.within
    cases course.flow with
    | isOver isOver => exact absurd isOver listening
    | replaying _ _ pending | live _ _ _ pending =>
      rcases pending.head unheard.channel waiting with ⟨begins, _⟩ | beyond <;> omega
  | gap _ _ _ _ _ _ _ isOver => exact .isOver isOver
  | @next chunk unheard listening taken data waiting _ delivered remaining frames =>
    obtain ⟨isData, stream⟩ := LogChunk.isData_iff.mp data
    have done : follow.remaining kind = [] := by
      rw [replaysFirst, taken] at first
      simp only [isData, stream] at first
      exact remaining_of_done first
    have whole : next.dataFrames kind = follow.dataFrames kind ++ [dataFrame kind chunk] := by
      rw [frames, filter_cons_of_pos (course.carried chunk (by rw [waiting]; simp)), filter_nil]
    have within := replays.within
    cases course.flow with
    | isOver isOver => exact absurd isOver listening
    | replaying _ sent pending =>
      rcases pending.head unheard.channel waiting with ⟨begins, ordered, pending'⟩ | beyond
      · obtain ⟨begin', early, spans⟩ := replays.spans
        have replay : FrameSpan begin' (plan.chunks.map (dataFrame kind)) stop :=
          spans.map (fun _ _ => rfl) fun _ _ => rfl
        rw [← sent, done, map_nil, append_nil, ← begins] at replay
        refine .live (remaining.trans done) early ?_ (delivered ▸ pending')
        rw [whole, delivered]
        exact replay.append ⟨rfl, ordered, rfl⟩
      · omega
    | live _ early spans pending =>
      rcases pending.head unheard.channel waiting with ⟨begins, ordered, pending'⟩ | beyond
      · refine .live (remaining.trans done) early ?_ (delivered ▸ pending')
        rw [← begins] at spans
        rw [whole, delivered]
        exact spans.append ⟨rfl, ordered, rfl⟩
      · omega

theorem StreamMove.planned (move : StreamMove config step kind follow next) :
    next.session.plan kind = follow.session.plan kind := by
  cases move with
  | unmoved steady | offered steady | stale steady | gap steady => exact steady.plan
  | replayed _ unheard | next unheard => exact unheard.plan

theorem handed_fits (fits : step.fitsFrame = true) (handed : follow.handed config step = some chunk) :
    chunk.data.length ≤ IpcProtocolLimits.maxStreamDataBytes := by
  cases step with
  | publisher => exact JobEntry.perform_fits fits handed
  | advance | write | hangUp => cases handed

theorem StreamMove.carried (fits : step.fitsFrame = true) (move : StreamMove config step kind follow next)
    (carried : ∀ chunk ∈ follow.waiting kind, encodable (dataFrame kind chunk) = true) :
    ∀ chunk ∈ next.waiting kind, encodable (dataFrame kind chunk) = true := by
  cases move with
  | unmoved _ _ waiting | replayed _ _ waiting => exact waiting ▸ carried
  | @offered _ _ handed _ _ _ ordered _ _ queued =>
    rcases queued with ⟨_, more, _⟩ | ⟨same, _⟩
    · intro other member
      rw [more] at member
      rcases mem_append.mp member with old | new
      · exact carried other old
      · rw [mem_singleton.mp new]
        exact encodable_dataFrame ordered (handed_fits fits handed)
    · exact same ▸ carried
  | stale _ _ _ _ _ waiting | gap _ _ _ _ _ waiting | next _ _ _ _ waiting =>
    exact fun other member => carried other (waiting ▸ mem_cons_of_mem _ member)

theorem StreamMove.course (formed : follow.WellFormed) (replays : Replays plan stop kind) (fits : step.fitsFrame = true)
    (first : follow.replaysFirst config step = true) (heard : follow.misses config kind step = false)
    (move : StreamMove config step kind follow next) (course : Course plan stop kind follow) :
    Course plan stop kind next :=
  ⟨move.planned.trans course.planned, move.carried fits course.carried, move.flow formed replays first heard course⟩

/-- After the end of the job nothing is heard of a stream any more. -/
theorem StreamMove.unheard (move : StreamMove config step kind follow next)
    (isOver : follow.entry.finished = true ∨ follow.entry.registered = false) : Unheard kind follow next := by
  cases move with
  | unmoved _ unheard | replayed _ unheard | stale _ unheard | gap _ unheard | next unheard => exact unheard
  | offered _ _ running registered =>
    rcases isOver with finished | gone
    · rw [running] at finished
      cases finished
    · rw [registered] at gone
      cases gone

theorem Move.jobFinished (move : Move config follow step next) :
    next.session.jobFinished = follow.session.jobFinished := by
  cases move with
  | quiet quiet => exact quiet.jobFinished
  | pushed | ended => rfl
  | tookEnd | tookStale | tookGap | tookNext | dropped => rfl
  | replayed stdout stderr | concluded stdout stderr => exact follow.session.replays_jobFinished stdout stderr

theorem Move.isOver (move : Move config follow step next) :
    (follow.entry.finished = true → next.entry.finished = true) ∧
      (follow.entry.registered = false → next.entry.registered = false) := by
  cases move with
  | quiet quiet =>
    refine ⟨quiet.finished.trans, fun gone => ?_⟩
    cases still : next.entry.registered with
    | false => rfl
    | true =>
      rw [quiet.registered still] at gone
      cases gone
  | ended => exact ⟨fun _ => rfl, id⟩
  | pushed | replayed | concluded | tookEnd | tookStale | tookGap | tookNext | dropped => exact ⟨id, id⟩

/-- An EOF frame of a session on a live job stands for an end that was received as the last of the queue. -/
theorem Appends.eof {added : List IpcStreamFrame} {frame : IpcStreamFrame} (appends : Appends config follow step added)
    (live : follow.session.jobFinished = false)
    (last : EndLast follow.entry.finished follow.session.subscription.queue)
    (member : frame ∈ added) (eof : frame.kind = .logEof) :
    ¬follow.Over ∧ follow.entry.finished = true ∧ added = [frame] ∧ ∃ chunk : LogChunk, chunk.kind = .eof ∧
      follow.taken config step = some chunk ∧ follow.session.subscription.queue = [chunk] := by
  cases appends with
  | data data =>
    rw [data frame member] at eof
    cases eof
  | gap =>
    rw [mem_singleton.mp member] at eof
    cases eof
  | concluded finished =>
    rw [live] at finished
    cases finished
  | @ended _ _ listening taken queued isEnd =>
    rw [queued] at last
    obtain ⟨finished, rfl, jobState, exit, rfl⟩ := last.head isEnd
    have one : [eofFrame (LogChunk.ofEnd jobState.wire exit).jobState
        (LogChunk.ofEnd jobState.wire exit).exit].filter encodable = [eofFrame jobState.wire exit] :=
      filter_cons_of_pos (encodable_eofFrame jobState exit)
    rw [one] at member ⊢
    rw [mem_singleton.mp member]
    exact ⟨listening, finished, rfl, _, isEnd, taken, queued⟩

theorem waiting_of_end (queued : follow.session.subscription.queue = [chunk]) (eof : chunk.kind = .eof) :
    follow.waiting kind = [] := by
  rw [waiting, queued, filter_eq_nil_iff]
  intro _ member data
  rw [mem_singleton.mp member] at data
  rw [(LogChunk.isData_iff.mp data).1] at eof
  cases eof

/-- Before an EOF frame there is all of the stream. -/
def Delivered (plan : LogReplayPlan) (kind : LogStreamKind) (stop : Nat) (before : List IpcStreamFrame)
    (frame : IpcStreamFrame) : Prop :=
  frame.kind = .logEof → ∃ first ≤ plan.startOffset, FrameSpan first (before.filter (IpcStreamFrame.isData kind)) stop

theorem Course.complete (replays : Replays plan stop kind) (course : Course plan stop kind follow)
    (listening : ¬follow.Over) (done : follow.remaining kind = []) (empty : follow.waiting kind = []) :
    ∃ first ≤ plan.startOffset, FrameSpan first (follow.dataFrames kind) (follow.channel kind).offset := by
  have reached : ∀ {position : Nat}, follow.Pending kind position → position = (follow.channel kind).offset := by
    intro _ pending
    cases pending with
    | joined _ spans =>
      rw [empty] at spans
      exact spans
    | apart waiting =>
      rw [empty] at waiting
      cases waiting
  cases course.flow with
  | isOver isOver => exact absurd isOver listening
  | replaying _ sent pending =>
    obtain ⟨first, early, spans⟩ := replays.spans
    have replay : FrameSpan first (plan.chunks.map (dataFrame kind)) stop :=
      spans.map (fun _ _ => rfl) fun _ _ => rfl
    rw [← sent, done, map_nil, append_nil, reached pending] at replay
    exact ⟨first, early, replay⟩
  | @live first _ early spans pending =>
    rw [reached pending] at spans
    exact ⟨first, early, spans⟩

/-- Where an end was sent the job is over. -/
def EndTold (follow : Follow) : Prop := follow.sentEnd = true → follow.entry.finished = true

theorem Move.endTold (move : Move config follow step next) (live : follow.session.jobFinished = false)
    (last : EndLast follow.entry.finished follow.session.subscription.queue) (told : follow.EndTold) :
    next.EndTold := by
  intro sent
  obtain ⟨_, frames, appends⟩ := move.appends
  rw [sentEnd, frames, any_append, Bool.or_eq_true] at sent
  rcases sent with before | now
  · exact move.isOver.1 (told before)
  · obtain ⟨_, member, eof⟩ := any_eq_true.mp now
    exact move.isOver.1 (appends.eof live last member (beq_iff_eq.mp eof)).2.1

theorem Move.delivered (formed : follow.WellFormed) (replays : Replays plan stop kind)
    (move : Move config follow step next) (first : follow.replaysFirst config step = true)
    (live : follow.session.jobFinished = false)
    (last : EndLast follow.entry.finished follow.session.subscription.queue) (told : follow.EndTold)
    (course : Course plan stop kind follow)
    (delivered : EachAfter (Delivered plan kind (follow.channel kind).offset) follow.session.frames) :
    EachAfter (Delivered plan kind (next.channel kind).offset) next.session.frames := by
  obtain ⟨added, frames, appends⟩ := move.appends
  rw [frames]
  refine EachAfter.append ?_ ?_
  · intro before frame after here eof
    have sent : follow.sentEnd = true := by
      rw [sentEnd, here]
      simp [eof]
    rw [((move.stream formed kind).unheard (Or.inl (told sent))).channel]
    exact delivered before frame after here eof
  · intro before frame after here eof
    obtain ⟨listening, finished, alone, chunk, isEnd, taken, queued⟩ := appends.eof live last (by rw [here]; simp) eof
    obtain rfl : before = [] := by
      rw [here] at alone
      have length := congrArg length alone
      simp only [length_append, length_cons, length_nil] at length
      exact length_eq_zero_iff.mp (by omega)
    rw [((move.stream formed kind).unheard (Or.inl finished)).channel, append_nil]
    have done : follow.session.allReplayDone = true := by
      rw [replaysFirst, taken] at first
      simp only [isEnd] at first
      exact first
    obtain ⟨stdout, stderr⟩ := (Bool.and_eq_true _ _).mp done
    refine course.complete replays listening (remaining_of_done ?_) (waiting_of_end queued isEnd)
    cases kind
    · exact stdout
    · exact stderr

section

variable (opened : Opened config.streamer entry since follow)
include opened

theorem Opened.course (kind : LogStreamKind) :
    Course (follow.session.plan kind) (entry.streams.get kind).offset kind follow := by
  have none : follow.waiting kind = [] := by
    rw [waiting, opened.subscription]
    rfl
  refine ⟨rfl, by simp [none], .replaying ?_ ?_ (.joined (Or.inr none) ?_)⟩
  · rw [Follow.delivered, opened.progress]
  · rw [opened.dataFrames, remaining, opened.progress]
    rfl
  · rw [none, Follow.channel, opened.channel]
    rfl

theorem Opened.delivered :
    EachAfter (Delivered plan kind stop) follow.session.frames := by
  refine .of_forall fun frame member before eof => ?_
  rw [opened.frames frame member] at eof
  cases eof

theorem Opened.not_over : ¬follow.Over :=
  Follow.not_over (not_gone opened.phase (by simp)) opened.closing

end

end Follow

end Yori
