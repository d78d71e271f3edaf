import Yori.Follow.Backpressure

namespace Yori
open Session List JobEntry

variable {chunk : LogChunk} {rest : List LogChunk} {finished : Bool}

/-- The end of the job comes last in a queue, as nothing is published after it. -/
inductive EndLast : Bool → List LogChunk → Prop
  | running {finished : Bool} {data : List LogChunk} (kinds : ∀ chunk ∈ data, chunk.kind = .data) :
      EndLast finished data
  | ended {data : List LogChunk} (kinds : ∀ chunk ∈ data, chunk.kind = .data) (jobState : JobState)
      (exit : Option IpcExitStatus) : EndLast true (data ++ [.ofEnd jobState.wire exit])

theorem EndLast.tail (last : EndLast finished (chunk :: rest)) : EndLast finished rest := by
  generalize whole : chunk :: rest = queue at last
  cases last with
  | running kinds =>
    rw [← whole] at kinds
    exact .running fun other member => kinds other (mem_cons_of_mem _ member)
  | @ended data kinds jobState exit =>
    cases data with
    | nil =>
      cases whole
      exact .running (by simp)
    | cons =>
      cases whole
      exact .ended (fun other member => kinds other (mem_cons_of_mem _ member)) jobState exit

/-- Once the end is at the head of the queue it is alone there. -/
theorem EndLast.head (last : EndLast finished (chunk :: rest)) (eof : chunk.kind = .eof) :
    finished = true ∧ rest = [] ∧ ∃ (jobState : JobState) (exit : Option IpcExitStatus),
      chunk = .ofEnd jobState.wire exit := by
  generalize whole : chunk :: rest = queue at last
  cases last with
  | running kinds =>
    rw [← whole] at kinds
    rw [kinds chunk (mem_cons_self ..)] at eof
    cases eof
  | @ended data kinds jobState exit =>
    cases data with
    | nil =>
      cases whole
      exact ⟨rfl, rfl, jobState, exit, rfl⟩
    | cons =>
      cases whole
      rw [kinds chunk (mem_cons_self ..)] at eof
      cases eof

theorem EndLast.publish {finished' : Bool} {subscription : Subscription LogChunk}
    (last : EndLast finished subscription.queue) (running : finished = false)
    (new : ∀ data : List LogChunk, (∀ chunk ∈ data, chunk.kind = .data) → EndLast finished' (data ++ [chunk])) :
    EndLast finished' (subscription.publish chunk).queue := by
  have kinds : ∀ chunk ∈ subscription.queue, chunk.kind = .data := by
    rw [running] at last
    generalize subscription.queue = queue at last
    cases last with
    | running kinds => exact kinds
  obtain ⟨_, rfl | rfl, queue, _⟩ := subscription.publish_adds chunk
  · rw [queue, append_nil]
    exact .running kinds
  · rw [queue]
    exact new _ kinds

theorem encodable_eofFrame (jobState : JobState) (exit : Option IpcExitStatus) :
    encodable (eofFrame jobState.wire exit) = true := by
  have known : ¬jobState.wire > underlyingJobStateMax := by cases jobState <;> decide
  have body : ∃ body, encodeStreamFrameBody (eofFrame jobState.wire exit) = some body ∧ body.length ≤ 7 := by
    cases exit with
    | none => exact ⟨_, if_neg known, by simp [IpcWriter.u8]⟩
    | some => exact ⟨_, if_neg known, by simp [IpcWriter.u8, IpcWriter.i32]⟩
  obtain ⟨body, encoded, short⟩ := body
  obtain ⟨wire, whole, _⟩ := encodeStreamFramePayload_of_body encoded (by
    show body.length + 2 ≤ 1048576
    omega)
  rw [encodable, whole]
  rfl

/-- The client reads what it is sent and does not hang up. -/
def FollowStep.peerStays : FollowStep → Bool
  | .write accepted => accepted
  | .hangUp => false
  | _ => true

namespace Follow

variable {config : FollowConfig} {follow next : Follow} {kind : LogStreamKind} {step : FollowStep}
  {since : Streams (Option Nat)} {entry : JobEntry}

/-- The session's subscription accepted the end of the job. -/
def acceptedEnd (follow : Follow) : Bool :=
  follow.session.subscription.offered.any fun offer => offer.1.kind == .eof && offer.2

theorem acceptedEnd_iff :
    follow.acceptedEnd = true ↔ ∃ chunk ∈ follow.session.subscription.accepted, chunk.kind = .eof := by
  simp [acceptedEnd, Subscription.accepted, and_comm]

/-- An EOF frame was queued for the client. -/
def sentEnd (follow : Follow) : Bool := follow.session.frames.any fun frame => frame.kind == .logEof

def sentBackpressure (follow : Follow) : Bool := follow.session.frames.any fun frame => frame.kind == .logBackpressure

/-- The worker reads `is_closed` while the queue is still as empty as it found it. -/
def closesEmpty (follow : Follow) (step : FollowStep) : Bool :=
  !follow.drops step || follow.session.subscription.queue.isEmpty

/-- A client that stays is not dropped before the session has ended. -/
theorem step_over (stays : step.peerStays = true) (gone : (follow.step config step).Gone) : follow.Over := by
  cases step with
  | publisher => exact Or.inr gone
  | hangUp => cases stays
  | advance =>
    refine Or.inr ?_
    obtain ⟨ended, phase⟩ := gone
    rw [step, advance] at phase
    cases before : follow.phase with
    | gone ended => exact ⟨ended, before⟩
    | flushing =>
      simp only [before] at phase
      cases phase
    | idle =>
      simp only [before] at phase
      split at phase
      · cases phase
      · split at phase <;> cases phase
    | draining =>
      simp only [before] at phase
      split at phase
      · split at phase
        · cases phase
        · split at phase <;> cases phase
      · cases phase
    | emptied =>
      simp only [before] at phase
      split at phase <;> cases phase
  | write accepted =>
    have taken : accepted = true := stays
    obtain ⟨ended, phase⟩ := gone
    rw [Follow.step, write, taken] at phase
    cases before : follow.phase with
    | gone ended => exact Or.inr ⟨ended, before⟩
    | flushing =>
      obtain ⟨_, _, _, same⟩ := flushed_eq follow.session
      simp only [before, same, Bool.not_true, Bool.and_false, Bool.false_eq_true, if_false] at phase
      cases closing : follow.session.closing with
      | true => exact Or.inl closing
      | false =>
        simp only [closing, Bool.false_and, Bool.false_eq_true, if_false] at phase
        cases phase
    | idle | draining | emptied =>
      simp only [before] at phase
      cases phase

theorem Move.endLast (move : Move config follow step next)
    (last : EndLast follow.entry.finished follow.session.subscription.queue) :
    EndLast next.entry.finished next.session.subscription.queue := by
  have tail : ∀ {chunk : LogChunk} {rest : List LogChunk}, follow.session.subscription.queue = chunk :: rest →
      EndLast follow.entry.finished rest := by
    intro _ _ queued
    rw [queued] at last
    exact last.tail
  cases move with
  | quiet quiet =>
    rw [quiet.finished, quiet.queue]
    exact last
  | pushed _ _ running data =>
    refine last.publish running fun queue kinds => .running fun other member => ?_
    rcases mem_append.mp member with old | new
    · exact kinds other old
    · rw [mem_singleton.mp new]
      exact data
  | ended jobState exit _ _ running =>
    exact last.publish running fun queue kinds => .ended kinds jobState exit
  | replayed stdout stderr | concluded stdout stderr =>
    have same := follow.session.replays_subscription stdout stderr
    exact same ▸ last
  | tookEnd takes | tookStale _ takes | tookGap takes | tookNext _ takes => exact tail takes.queued
  | dropped => exact last

theorem Opened.endLast (opened : Opened config.streamer entry since follow) :
    EndLast follow.entry.finished follow.session.subscription.queue := by
  rw [opened.subscription]
  exact .running (by simp)

/-- The end of the job is on its way to the client: queued, sent, or not accepted at all. -/
structure EndKept (follow : Follow) : Prop where
  kept : follow.acceptedEnd = true →
    (∃ chunk ∈ follow.session.subscription.queue, chunk.kind = .eof) ∨ follow.sentEnd = true
  late : follow.session.jobFinished = true → follow.entry.finished = true ∧ follow.acceptedEnd = false
  isOver : follow.Over → follow.sentEnd = true ∨ follow.sentBackpressure = true ∨
    follow.acceptedEnd = false ∧ (follow.entry.finished = true ∨ follow.entry.registered = false)

theorem Quiet.endKept (quiet : Quiet follow next) (isOver : next.Gone → follow.Over) (end' : follow.EndKept) :
    next.EndKept := by
  have accepted : next.acceptedEnd = follow.acceptedEnd := by rw [acceptedEnd, acceptedEnd, quiet.offered]
  have sent : next.sentEnd = follow.sentEnd := by rw [sentEnd, sentEnd, quiet.frames]
  have pressed : next.sentBackpressure = follow.sentBackpressure := by
    rw [sentBackpressure, sentBackpressure, quiet.frames]
  refine ⟨?_, ?_, ?_⟩
  · rw [accepted, sent, quiet.queue]
    exact end'.kept
  · rw [accepted, quiet.finished, quiet.jobFinished]
    exact end'.late
  · intro ends
    have before : follow.Over := by
      rcases ends with closing | gone
      · rw [quiet.closing] at closing
        exact Or.inl closing
      · exact isOver gone
    rw [sent, pressed, accepted, quiet.finished]
    refine (end'.isOver before).imp id (Or.imp id (And.imp id (Or.imp id fun gone => ?_)))
    cases still : next.entry.registered with
    | false => rfl
    | true =>
      rw [quiet.registered still] at gone
      cases gone

/-- A publication on a running job. -/
theorem EndKept.published (end' : follow.EndKept) (registered : follow.entry.registered = true)
    (running : follow.entry.finished = false) :
    EndKept
      { follow with entry, session := follow.session.setSubscription (follow.session.subscription.publish chunk) } := by
  have late : ¬follow.session.jobFinished = true := by
    intro finished
    rw [(end'.late finished).1] at running
    cases running
  have ended : follow.Over → follow.sentEnd = true ∨ follow.sentBackpressure = true := by
    intro isOver
    rcases end'.isOver isOver with sent | pressed | ⟨_, finished | gone⟩
    · exact Or.inl sent
    · exact Or.inr pressed
    · rw [running] at finished
      cases finished
    · rw [registered] at gone
      cases gone
  refine ⟨?_, fun finished => absurd finished late, fun isOver => (ended isOver).imp id Or.inl⟩
  intro accepted
  obtain ⟨_, _, queue, taken⟩ := follow.session.subscription.publish_adds chunk
  obtain ⟨other, member, eof⟩ := acceptedEnd_iff.mp accepted
  rcases mem_append.mp (taken ▸ member) with old | new
  · refine (end'.kept (acceptedEnd_iff.mpr ⟨other, old, eof⟩)).imp (fun ⟨kept, inside, last⟩ => ⟨kept, ?_, last⟩) id
    exact queue ▸ mem_append_left _ inside
  · exact Or.inl ⟨other, queue ▸ mem_append_right _ new, eof⟩

/-- A step of the worker that leaves the end of the job where it is, in the queue or sent. -/
theorem EndKept.worked (end' : follow.EndKept) (entry : next.entry = follow.entry)
    (offered : next.session.subscription.offered = follow.session.subscription.offered)
    (finished : next.session.jobFinished = follow.session.jobFinished)
    (kept : (∃ chunk ∈ follow.session.subscription.queue, chunk.kind = .eof) ∨ follow.sentEnd = true →
      (∃ chunk ∈ next.session.subscription.queue, chunk.kind = .eof) ∨ next.sentEnd = true)
    (isOver : next.Over → next.sentEnd = true ∨ next.sentBackpressure = true ∨
      next.acceptedEnd = false ∧ (next.entry.finished = true ∨ next.entry.registered = false)) : next.EndKept := by
  have accepted : next.acceptedEnd = follow.acceptedEnd := by rw [acceptedEnd, acceptedEnd, offered]
  refine ⟨?_, ?_, isOver⟩
  · rw [accepted]
    exact fun accepted => kept (end'.kept accepted)
  · rw [accepted, finished, entry]
    exact end'.late

/-- Taking a chunk of data leaves the end behind it. -/
theorem kept_of_data (data : chunk.kind = .data) {sent sent' : Prop} (more : sent → sent')
    (kept : (∃ other ∈ chunk :: rest, other.kind = .eof) ∨ sent) : (∃ other ∈ rest, other.kind = .eof) ∨ sent' := by
  rcases kept with ⟨other, member, eof⟩ | before
  · rcases mem_cons.mp member with rfl | later
    · rw [data] at eof
      cases eof
    · exact Or.inl ⟨other, later, eof⟩
  · exact Or.inr (more before)

theorem Move.endKept (formed : follow.WellFormed) (move : Move config follow step next)
    (last : EndLast follow.entry.finished follow.session.subscription.queue)
    (gone : next.Gone → follow.Over) (closes : follow.closesEmpty step = true) (end' : follow.EndKept) :
    next.EndKept := by
  obtain ⟨_, frames, _⟩ := move.appends
  have more : follow.sentEnd = true → next.sentEnd = true := by
    intro sent
    rw [sentEnd, frames, any_append]
    exact Bool.or_eq_true_iff.mpr (Or.inl sent)
  cases move with
  | quiet quiet => exact quiet.endKept gone end'
  | pushed _ registered running | ended _ _ _ registered running =>
    exact end'.published registered running
  | replayed stdout stderr open' =>
    have same := follow.session.replays_subscription stdout stderr
    exact end'.worked rfl (congrArg _ same) (follow.session.replays_jobFinished stdout stderr)
      (Or.imp (same ▸ id) more) fun isOver => absurd isOver (not_over (not_gone rfl (by simp)) open')
  | concluded stdout stderr _ _ _ finished =>
    obtain ⟨isOver, accepted⟩ := end'.late finished
    have same := follow.session.replays_subscription stdout stderr
    exact end'.worked rfl (congrArg _ same) (follow.session.replays_jobFinished stdout stderr)
      (Or.imp (same ▸ id) more) fun _ => Or.inr (Or.inr ⟨accepted, Or.inl isOver⟩)
  | @tookEnd _ rest takes eof =>
    rw [takes.queued] at last
    obtain ⟨_, _, jobState, exit, rfl⟩ := last.head eof
    have sent : sentEnd
        { follow with
          session := ({ follow.session.received rest with
            jobState := (LogChunk.ofEnd jobState.wire exit).jobState
            exit := (LogChunk.ofEnd jobState.wire exit).exit
            eofQueued := true
            closing := true } : Session).appendAll [eofFrame jobState.wire exit]
          phase := .flushing } = true := by
      rw [sentEnd, appendAll, filter_cons_of_pos (encodable_eofFrame jobState exit), any_append]
      exact Bool.or_eq_true_iff.mpr (Or.inr rfl)
    exact end'.worked rfl rfl rfl (fun _ => Or.inr sent) fun _ => Or.inl sent
  | tookStale _ takes data | tookNext _ takes data =>
    refine end'.worked rfl rfl rfl ?_ fun isOver => absurd isOver (not_over (not_gone rfl (by simp)) takes.open')
    rw [takes.queued]
    exact kept_of_data data more
  | tookGap takes data =>
    refine end'.worked rfl rfl rfl ?_ fun _ => Or.inr (Or.inl ?_)
    · rw [takes.queued]
      exact kept_of_data data more
    · rw [sentBackpressure, appendAll, filter_cons_of_pos (encodable_backpressureFrame _ _), any_append]
      exact Bool.or_eq_true_iff.mpr (Or.inr rfl)
  | dropped drops emptied closed =>
    -- The queue is empty, so an end that was accepted has been sent.
    have empty : follow.session.subscription.queue = [] := by
      simpa [closesEmpty, drops] using closes
    refine end'.worked rfl rfl rfl (Or.imp id more) fun _ => ?_
    cases accepted : follow.acceptedEnd with
    | true =>
      rcases end'.kept accepted with ⟨_, member, _⟩ | sent
      · rw [empty] at member
        cases member
      · exact Or.inl sent
    | false =>
      have topic := (formed.closed closed).resolve_right (not_gone emptied (by simp))
      exact Or.inr (Or.inr ⟨accepted, formed.sound.closed topic⟩)

theorem Opened.endKept (opened : Opened config.streamer entry since follow) : follow.EndKept where
  kept accepted := by
    rw [acceptedEnd, opened.subscription] at accepted
    cases accepted
  late finished := by
    rw [opened.jobFinished] at finished
    rw [opened.channel, acceptedEnd, opened.subscription]
    exact ⟨finished, rfl⟩
  isOver isOver := by
    rcases isOver with closing | ⟨_, phase⟩
    · rw [opened.closing] at closing
      cases closing
    · rw [opened.phase] at phase
      cases phase

/-- A session without resume offsets that accepted everything, end included, and whose worker never
misses what was queued before the topic was closed, sends the end before it is closed. -/
theorem end_sent_before_closed {totalSessions sessions : Nat} {version jobState : UInt8} {history : List PublisherStep}
    {steps : List FollowStep}
    (begun : beginStream config.streamer totalSessions version jobState
      { JobEntry.after config.streamer history with sessions } none none = .ok follow)
    (meets : Guarded.Along (Follow.step config)
      (fun follow step => follow.startsAsAnnounced config step = true ∧ follow.closesEmpty step = true) follow steps)
    (stays : ∀ step ∈ steps, step.peerStays = true)
    (accepted : (follow.run config steps).acceptedEnd = true)
    (whole : (follow.run config steps).session.subscription.rejected = [])
    (closed : (follow.run config steps).session.closing = true ∨ (follow.run config steps).Gone) :
    (follow.run config steps).sentEnd = true := by
  have opened : Opened config.streamer _ ⟨none, none⟩ follow := beginStream_opened begun
  have sound : (JobEntry.after config.streamer history).Sound := JobEntry.after_sound history
  have along : Guarded.Along (Follow.step config) (fun follow step =>
      (follow.startsAsAnnounced config step = true ∧ follow.closesEmpty step = true) ∧ step.peerStays = true)
      follow steps := by
    rw [Guarded.along_iff_turns] at meets ⊢
    exact fun turn member => ⟨meets turn member, stays turn.2 (Guarded.input_mem_of_mem_turns member)⟩
  obtain ⟨_, _, explained, _, end'⟩ := run_invariant
    (fun follow => (∀ kind, follow.Level kind) ∧ follow.Explained ∧
      EndLast follow.entry.finished follow.session.subscription.queue ∧ follow.EndKept)
    (fun follow step formed ⟨⟨starts, closes⟩, stays⟩ move ⟨level, explained, last, end'⟩ =>
      ⟨fun kind => (move.stream formed kind).level starts (level kind), move.explained formed level explained,
        move.endLast last, move.endKept formed last (step_over stays) closes end'⟩)
    opened ⟨sound.streams, sound.closed, sound.jobState⟩ along
    ⟨opened.level, opened.explained, opened.endLast, opened.endKept⟩
  rcases end'.isOver closed with sent | pressed | ⟨none, _⟩
  · exact sent
  · -- BACKPRESSURE would tell of a chunk that was refused.
    obtain ⟨frame, member, backpressure⟩ := any_eq_true.mp pressed
    obtain ⟨_, _, _, lost, _⟩ := explained frame member (beq_iff_eq.mp backpressure)
    have refused := (mem_filter.mp lost).1
    rw [whole] at refused
    cases refused
  · rw [accepted] at none
    cases none

/-- One chunk and the end, both received in one cycle. -/
def shortJob : List FollowStep :=
  [.publisher (.publishChunk .stdout [65] 0 1), .publisher (.finishJob .finished none), .publisher .closeTopic] ++
    [.advance, .advance, .advance, .write true]

theorem end_sent_before_closed_short :
    ∃ follow, beginStream {} 0 4 2 { JobEntry.after {} [] with sessions := 0 } none none = .ok follow ∧
      (follow.run {} shortJob).phase = .gone .completed ∧ (follow.run {} shortJob).sentEnd = true := by
  refine ⟨_, rfl, by decide +kernel, ?_⟩
  refine @end_sent_before_closed {} _ 0 0 4 2 [] shortJob rfl ?_ ?_ ?_ ?_ (Or.inl ?_) <;> decide +kernel

/-- The job ends between the worker's `try_receive` and its `is_closed`. -/
def endInBetween : List FollowStep :=
  [.advance, .advance, .publisher (.finishJob .finished none), .publisher .closeTopic, .advance, .write true]

/-- The end was accepted and nothing was refused. The session is closed with the end still in its queue. -/
theorem end_lost :
    ∃ follow, beginStream {} 0 4 2 (JobEntry.after {} []) none none = .ok follow ∧
      (follow.run {} endInBetween).acceptedEnd = true ∧
      (follow.run {} endInBetween).session.subscription.rejected = [] ∧
      (∀ step ∈ endInBetween, step.peerStays = true) ∧
      (follow.run {} endInBetween).phase = .gone .completed ∧ (follow.run {} endInBetween).sentEnd = false := by
  refine ⟨_, rfl, ?_, ?_, ?_, ?_, ?_⟩ <;> decide +kernel

end Follow

end Yori
