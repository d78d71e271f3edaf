import Yori.Follow.Frames

namespace Yori
open List JobEntry

namespace Follow

variable {config : FollowConfig} {follow next : Follow} {kind : LogStreamKind} {step : FollowStep}
  {since : Streams (Option Nat)} {chunk : LogChunk} {entry : JobEntry}

/-- A chunk that is published now would still reach the worker. -/
def listens (follow : Follow) : Bool :=
  match follow.phase with
  | .gone _ => false
  | _ => !follow.session.closing && !follow.session.subscription.full

/-- The first chunk of a stream that a session can receive begins where the
acknowledgement said that the stream starts. After a replay it does not, as
`advance_replay` leaves `delivered` behind. -/
def startsAsAnnounced (config : FollowConfig) (follow : Follow) (step : FollowStep) : Bool :=
  match follow.handed config step with
  | none => true
  | some chunk =>
    chunk.kind != .data || !follow.listens || !follow.untouched chunk.stream ||
      chunk.beginOffset == follow.start chunk.stream

/-- A chunk of the stream was refused before all of these were published. -/
def LostBefore (follow : Follow) (kind : LogStreamKind) (late : List LogChunk) : Prop :=
  ∃ chunk ∈ follow.lost kind, chunk.endOffset ≤ (follow.channel kind).offset ∧
    ∀ later ∈ late, chunk.endOffset ≤ later.beginOffset

/-- Live delivery of a stream is in step with the channel: up to the first refused chunk, what waits
begins where the delivery stands. -/
inductive Level (follow : Follow) (kind : LogStreamKind) : Prop
  | isOver (isOver : follow.Over)
  | fresh (untouched : follow.untouched kind = true) (waiting : follow.waiting kind = [])
      (delivered : follow.delivered kind = follow.start kind)
  | level {intact late : List LogChunk} {stop : Nat}
      (seen : (follow.channel kind).seen = true) (waiting : follow.waiting kind = intact ++ late)
      (spans : ChunkSpan (follow.delivered kind) intact stop)
      (whole : late = [] ∧ stop = (follow.channel kind).offset ∨ follow.LostBefore kind late)

theorem over_of_not_listens (room : follow.session.subscription.full = false) (deaf : follow.listens = false) :
    follow.Over := by
  unfold listens at deaf
  split at deaf
  · rename_i ended phase
    exact Or.inr ⟨ended, phase⟩
  · rw [room] at deaf
    exact Or.inl (by simpa using deaf)

/-- What is at the head of the queue continues the delivery, or comes after a loss. -/
theorem Level.head {rest : List LogChunk} (level : follow.Level kind) (listening : ¬follow.Over)
    (waiting : follow.waiting kind = chunk :: rest) :
    (follow.channel kind).seen = true ∧
      ((∃ intact late stop, rest = intact ++ late ∧ chunk.beginOffset = follow.delivered kind ∧
          ChunkSpan chunk.endOffset intact stop ∧
          (late = [] ∧ stop = (follow.channel kind).offset ∨ follow.LostBefore kind late)) ∨
        follow.LostBefore kind (chunk :: rest)) := by
  cases level with
  | isOver isOver => exact absurd isOver listening
  | fresh _ empty =>
    rw [empty] at waiting
    cases waiting
  | @level intact late stop seen queued spans whole =>
    refine ⟨seen, ?_⟩
    rw [queued] at waiting
    cases intact with
    | nil =>
      rw [nil_append] at waiting
      rcases whole with ⟨none, _⟩ | lost
      · rw [none] at waiting
        cases waiting
      · exact Or.inr (waiting ▸ lost)
    | cons _ intact =>
      rw [cons_append, cons.injEq] at waiting
      obtain ⟨rfl, rfl⟩ := waiting
      exact Or.inl ⟨intact, late, stop, rfl, spans.1, spans.2.2, whole⟩

theorem LostBefore.mono {late fewer : List LogChunk} (lost : follow.LostBefore kind late)
    (channel : next.channel kind = follow.channel kind) (kept : follow.lost kind ⊆ next.lost kind)
    (part : fewer ⊆ late) : next.LostBefore kind fewer := by
  obtain ⟨chunk, refused, passed, before⟩ := lost
  rw [← channel] at passed
  exact ⟨chunk, kept refused, passed, fun later member => before later (part member)⟩

/-- Dropping the head of the queue, or delivering it, keeps the rest in step. -/
theorem Level.behead (level : follow.Level kind) (listening : ¬follow.Over) (unheard : Unheard kind follow next)
    (waiting : follow.waiting kind = chunk :: next.waiting kind)
    (delivered : chunk.beginOffset = follow.delivered kind → next.delivered kind = chunk.endOffset) :
    next.Level kind := by
  obtain ⟨seen, ⟨_, _, _, split, joins, spans, whole⟩ | lost⟩ := level.head listening waiting
  · rw [← unheard.channel] at seen whole
    rw [← delivered joins] at spans
    refine .level seen split spans (whole.imp id fun lost => ?_)
    exact lost.mono unheard.channel (fun _ => unheard.lost.symm ▸ id) fun _ => id
  · rw [← unheard.channel] at seen
    refine .level seen (nil_append _).symm rfl (Or.inr ?_)
    exact lost.mono unheard.channel (fun _ => unheard.lost.symm ▸ id) fun _ => mem_cons_of_mem chunk

/-- A chunk of the stream that is published. -/
theorem Level.offered (level : follow.Level kind) (steady : Steady kind follow next)
    (starts : follow.listens = true → follow.untouched kind = true → chunk.beginOffset = follow.start kind)
    (ordered : chunk.beginOffset ≤ chunk.endOffset)
    (joins : (follow.channel kind).seen = true → chunk.beginOffset = (follow.channel kind).offset)
    (seen' : (next.channel kind).seen = true) (offset' : (next.channel kind).offset = chunk.endOffset)
    (reaches : Reaches kind chunk follow next) :
    next.Level kind := by
  have last : ∀ {chunks : List LogChunk}, next.lost kind = chunks ++ [chunk] → chunk ∈ next.lost kind := by
    intro _ lost
    rw [lost]
    exact mem_append_right _ (mem_cons_self ..)
  cases level with
  | isOver isOver => exact .isOver (steady.isOver isOver)
  | fresh untouched empty delivered =>
    rcases reaches with ⟨room, queued, _⟩ | ⟨same, _, ⟨_, lost⟩ | ⟨_, isOver⟩⟩
    · cases heard : follow.listens with
      | false => exact .isOver (steady.isOver (over_of_not_listens room heard))
      | true =>
        rw [empty, nil_append] at queued
        have begins : chunk.beginOffset = next.delivered kind := by
          rw [starts heard untouched, steady.delivered, delivered]
        refine .level seen' (queued.trans (append_nil _).symm) ?_ (Or.inl ⟨rfl, rfl⟩)
        rw [← begins, offset']
        exact Spans.singleton ordered
    · have none : next.waiting kind = [] ++ [] := same.trans empty
      exact .level seen' none rfl (Or.inr ⟨chunk, last lost, offset'.ge, by simp⟩)
    · exact .isOver isOver
  | @level _ _ _ seen waiting spans whole =>
    rw [← steady.delivered] at spans
    rcases reaches with ⟨_, queued, kept, _⟩ | ⟨same, _, ⟨_, lost⟩ | ⟨_, isOver⟩⟩
    · rcases whole with ⟨none, reached⟩ | ⟨gone, refused, passed, before⟩
      · rw [reached, ← joins seen] at spans
        rw [waiting, none, append_nil] at queued
        refine .level seen' (queued.trans (append_nil _).symm) (spans.append (Spans.singleton ordered))
          (Or.inl ⟨rfl, ?_⟩)
        exact offset'.symm
      · have begins := joins seen
        rw [waiting, append_assoc] at queued
        refine .level seen' queued spans (Or.inr ⟨gone, kept ▸ refused, by omega, ?_⟩)
        intro later member
        rcases mem_append.mp member with early | last
        · exact before later early
        · rw [mem_singleton.mp last]
          omega
    · rcases whole with ⟨none, reached⟩ | ⟨gone, before, passed, ahead⟩
      · rw [waiting, none] at same
        exact .level seen' same spans (Or.inr ⟨chunk, last lost, offset'.ge, by simp⟩)
      · have begins := joins seen
        rw [waiting] at same
        exact .level seen' same spans (Or.inr ⟨gone, steady.lost before, by omega, ahead⟩)
    · exact .isOver isOver

theorem StreamMove.level (move : StreamMove config step kind follow next)
    (starts : follow.startsAsAnnounced config step = true) (level : follow.Level kind) : next.Level kind := by
  cases move with
  | unmoved steady unheard waiting =>
    cases level with
    | isOver isOver => exact .isOver (steady.isOver isOver)
    | fresh untouched empty delivered =>
      refine .fresh (unheard.untouched.trans untouched) (waiting.trans empty) ?_
      rw [steady.delivered, delivered, start, start, steady.plan]
    | level seen queued spans whole =>
      rw [← unheard.channel] at seen whole
      rw [← steady.delivered] at spans
      exact .level seen (waiting.trans queued) spans (whole.imp id fun lost =>
        lost.mono unheard.channel steady.lost fun _ => id)
  | @offered _ steady handed _ _ data ordered joins pushed reaches =>
    obtain ⟨isData, stream⟩ := LogChunk.isData_iff.mp data
    refine level.offered steady ?_ ordered joins (by rw [pushed]; rfl) (by rw [pushed]; rfl) reaches
    intro heard untouched
    rw [startsAsAnnounced, handed] at starts
    simpa [isData, stream, heard, untouched] using starts
  | replayed _ unheard waiting delivered listening =>
    cases level with
    | isOver isOver => exact absurd isOver listening
    | fresh untouched empty delivered' =>
      refine .fresh (unheard.untouched.trans untouched) (waiting.trans empty) ?_
      rw [delivered, delivered', start, start, unheard.plan]
    | level seen queued spans whole =>
      rw [← unheard.channel] at seen whole
      rw [← delivered] at spans
      exact .level seen (waiting.trans queued) spans (whole.imp id fun lost =>
        lost.mono unheard.channel (fun _ => unheard.lost.symm ▸ id) fun _ => id)
  | stale _ unheard listening _ _ waiting | gap _ unheard listening _ _ waiting =>
    exact level.behead listening unheard waiting fun joins => by omega
  | next unheard listening _ _ waiting _ delivered =>
    exact level.behead listening unheard waiting fun _ => delivered

theorem StreamMove.lost (move : StreamMove config step kind follow next) : follow.lost kind ⊆ next.lost kind := by
  cases move with
  | unmoved steady | offered steady | stale steady | gap steady => exact steady.lost
  | replayed _ unheard | next unheard => exact fun _ => unheard.lost.symm ▸ id

/-- Every BACKPRESSURE frame tells of a chunk that was lost before its offset. -/
def Explained (follow : Follow) : Prop :=
  ∀ frame ∈ follow.session.frames, frame.kind = .logBackpressure →
    ∃ kind : LogStreamKind, frame.stream = kind.wire ∧ ∃ chunk ∈ follow.lost kind, chunk.endOffset ≤ frame.beginOffset

theorem Move.explained (formed : follow.WellFormed) (move : Move config follow step next)
    (level : ∀ kind, follow.Level kind) (explained : follow.Explained) : next.Explained := by
  intro frame member backpressure
  obtain ⟨added, frames, appends⟩ := move.appends
  rw [frames] at member
  rcases mem_append.mp member with before | now
  · obtain ⟨kind, stream, chunk, lost, behind⟩ := explained frame before backpressure
    exact ⟨kind, stream, chunk, (move.stream formed kind).lost lost, behind⟩
  · obtain ⟨chunk, gap, same⟩ := appends.backpressure now backpressure
    rw [same, mem_singleton] at now
    subst now
    obtain ⟨rest, queued⟩ := gap.queued
    obtain ⟨_, ⟨_, _, _, _, joins, _⟩ | ⟨lost, refused, _, before⟩⟩ := (level chunk.stream).head gap.listening queued
    · have apart := gap.gap
      omega
    · exact ⟨chunk.stream, rfl, lost, (move.stream formed chunk.stream).lost refused,
        before chunk (mem_cons_self ..)⟩

theorem Opened.level (opened : Opened config.streamer entry since follow) (kind : LogStreamKind) :
    follow.Level kind := by
  refine .fresh ?_ ?_ ?_
  · rw [untouched, Subscription.published, opened.subscription]
    rfl
  · rw [waiting, opened.subscription]
    rfl
  · rw [delivered, opened.progress]
    rfl

theorem Opened.explained (opened : Opened config.streamer entry since follow) : follow.Explained := by
  intro frame member backpressure
  rw [opened.frames frame member] at backpressure
  cases backpressure

/-- A session on a running or finished job whose streams start as announced is
told of BACKPRESSURE only after its subscription has refused a chunk of that stream. -/
theorem backpressure_after_loss {totalSessions sessions count : Nat} {version jobState : UInt8}
    {history : List PublisherStep} {since : Streams (Option Nat)} {steps : List FollowStep}
    (begun : beginStream config.streamer totalSessions version jobState
      { JobEntry.after config.streamer history with sessions } since.stdout since.stderr = .ok follow)
    (starts : Guarded.Along (Follow.step config) (fun follow step => follow.startsAsAnnounced config step = true)
      follow steps) :
    ∀ frame ∈ (follow.run config (steps.take count)).session.frames, frame.kind = .logBackpressure →
      ∃ kind : LogStreamKind, frame.stream = kind.wire ∧
        ∃ chunk ∈ (follow.run config (steps.take count)).lost kind, chunk.endOffset ≤ frame.beginOffset := by
  have opened := beginStream_opened begun
  have sound : (JobEntry.after config.streamer history).Sound := JobEntry.after_sound history
  have along := starts.take count
  have kept := run_invariant (fun follow => (∀ kind, follow.Level kind) ∧ follow.Explained)
    (fun follow step formed starts move ⟨level, explained⟩ =>
      ⟨fun kind => (move.stream formed kind).level starts (level kind), move.explained formed level explained⟩)
    opened ⟨sound.streams, sound.closed, sound.jobState⟩ along ⟨opened.level, opened.explained⟩
  exact kept.2.2

/-- A client that does not keep up: the fifth chunk finds the queue full, and the sixth shows it. -/
def overrun : List FollowStep :=
  (List.range 5).map (fun offset => .publisher (.publishChunk .stdout [65] offset (offset + 1))) ++
    List.replicate 7 .advance ++ [.write true, .publisher (.publishChunk .stdout [65] 5 6), .advance, .advance]

theorem backpressure_after_loss_overrun :
    ∃ follow, beginStream { subscriptionCapacity := 4 } 0 4 2
        { JobEntry.after { subscriptionCapacity := 4 } [] with sessions := 0 } none none = .ok follow ∧
      Session.backpressureFrame .stdout 5 ∈
        (follow.run { streamer := { subscriptionCapacity := 4 } } (overrun.take 20)).session.frames ∧
      ∃ kind : LogStreamKind, (Session.backpressureFrame .stdout 5).stream = kind.wire ∧
        ∃ chunk ∈ (follow.run { streamer := { subscriptionCapacity := 4 } } (overrun.take 20)).lost kind,
          chunk.endOffset ≤ (Session.backpressureFrame .stdout 5).beginOffset := by
  refine ⟨_, rfl, ?_, ?_⟩
  · decide +kernel
  · refine @backpressure_after_loss { streamer := { subscriptionCapacity := 4 } } _ 0 0 20 4 2 [] ⟨none, none⟩ overrun
      rfl ?_ _ ?_ rfl
    · decide +kernel
    · decide +kernel

/-- A client that keeps up resumes at the start of a stream of four bytes while the job goes on to write. -/
def resumed : List FollowStep :=
  [.advance, .advance, .advance, .write true, .publisher (.publishChunk .stdout [69, 70] 4 6), .advance, .advance]

theorem backpressure_without_loss :
    ∃ follow, beginStream {} 0 4 2 (JobEntry.after {} [.publishChunk .stdout [65, 66, 67, 68] 0 4]) (some 0) none =
        .ok follow ∧
      Session.backpressureFrame .stdout 4 ∈ (follow.run {} resumed).session.frames ∧
      (follow.run {} resumed).session.subscription.rejected = [] :=
  ⟨_, rfl, by decide +kernel, by decide +kernel⟩

end Follow

end Yori
