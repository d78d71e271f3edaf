import Yori.Follow.Complete

namespace Yori
open Guarded List

namespace Follow

variable {config : FollowConfig} {follow next : Follow} {kind : LogStreamKind} {step : FollowStep}
  {since : Streams (Option Nat)} {entry : JobEntry}

/-- Chunks of the stream that were accepted after one with bytes was refused. -/
def PastLoss (follow : Follow) (kind : LogStreamKind) (gone later : LogChunk) : Prop :=
  gone ∈ follow.lost kind ∧ gone.beginOffset < gone.endOffset ∧ later ∈ follow.heard kind ∧
    gone.endOffset ≤ later.beginOffset

/-- A refused chunk cuts the queue in two, and the delivery stays before it. -/
structure Loss (kind : LogStreamKind) (follow : Follow) : Prop where
  below : follow.delivered kind ≤ (follow.channel kind).offset
  ahead : ∀ chunk ∈ follow.waiting kind,
    chunk.beginOffset ≤ chunk.endOffset ∧ chunk.endOffset ≤ (follow.channel kind).offset
  heard : ∀ chunk ∈ follow.heard kind, chunk.beginOffset ≤ (follow.channel kind).offset
  passed : ∀ gone ∈ follow.lost kind, gone.endOffset ≤ (follow.channel kind).offset
  cut : ∀ gone ∈ follow.lost kind, gone.beginOffset < gone.endOffset →
    ∀ chunk ∈ follow.waiting kind, chunk.endOffset ≤ gone.beginOffset ∨ gone.endOffset ≤ chunk.beginOffset
  behind : follow.Over ∨ ∀ gone ∈ follow.lost kind, gone.beginOffset < gone.endOffset →
    follow.delivered kind ≤ gone.beginOffset
  waits : follow.Over ∨ ∀ gone later, follow.PastLoss kind gone later → later ∈ follow.waiting kind

theorem PastLoss.before {gone later : LogChunk} (past : next.PastLoss kind gone later)
    (lost : next.lost kind = follow.lost kind) (heard : next.heard kind = follow.heard kind) :
    follow.PastLoss kind gone later := by
  obtain ⟨refused, bytes, accepted, after⟩ := past
  rw [lost] at refused
  rw [heard] at accepted
  exact ⟨refused, bytes, accepted, after⟩

/-- No refused chunk with bytes begins before the offset. -/
def BeforeLosses (follow : Follow) (kind : LogStreamKind) (offset : Nat) : Prop :=
  ∀ gone ∈ follow.lost kind, gone.beginOffset < gone.endOffset → offset ≤ gone.beginOffset

/-- A step of the worker that takes at most the head of the queue. -/
theorem Loss.worked (loss : Loss kind follow) (unheard : Unheard kind follow next)
    (fewer : next.waiting kind ⊆ follow.waiting kind)
    (delivered : next.delivered kind ≤ (follow.channel kind).offset)
    (behind : follow.BeforeLosses kind (follow.delivered kind) →
      next.Over ∨ follow.BeforeLosses kind (next.delivered kind))
    (waits : follow.BeforeLosses kind (follow.delivered kind) → next.Over ∨
      ∀ gone later, follow.PastLoss kind gone later → later ∈ follow.waiting kind → later ∈ next.waiting kind) :
    Loss kind next := by
  refine ⟨?_, ?_, ?_, ?_, ?_, ?_, ?_⟩
  · rw [unheard.channel]
    exact delivered
  · rw [unheard.channel]
    exact fun chunk member => loss.ahead chunk (fewer member)
  · rw [unheard.channel, unheard.heard]
    exact loss.heard
  · rw [unheard.channel, unheard.lost]
    exact loss.passed
  · rw [unheard.lost]
    exact fun gone refused bytes chunk member => loss.cut gone refused bytes chunk (fewer member)
  · rw [unheard.lost]
    exact loss.behind.elim (fun isOver => Or.inl (unheard.isOver isOver)) behind
  · rcases loss.behind with isOver | early
    · exact Or.inl (unheard.isOver isOver)
    · rcases loss.waits with isOver | all
      · exact Or.inl (unheard.isOver isOver)
      · refine (waits early).imp id fun stays gone later past => ?_
        have old := past.before unheard.lost unheard.heard
        exact stays gone later old (all gone later old)

theorem StreamMove.loss (formed : follow.WellFormed) (move : StreamMove config step kind follow next)
    (loss : Loss kind follow) : Loss kind next := by
  have still (unheard : Unheard kind follow next) (waiting : next.waiting kind = follow.waiting kind)
      (delivered : next.delivered kind = follow.delivered kind) : Loss kind next := by
    refine loss.worked unheard (fun _ => waiting ▸ id) (delivered ▸ loss.below) ?_ ?_
    · rw [delivered]
      exact Or.inr
    · rw [waiting]
      exact fun _ => Or.inr fun _ _ _ => id
  -- a chunk that was accepted after a loss is not at the head while the delivery is before the loss
  have taken {chunk : LogChunk} (waiting : follow.waiting kind = chunk :: next.waiting kind)
      (reached : chunk.beginOffset ≤ follow.delivered kind) (early : follow.BeforeLosses kind (follow.delivered kind))
      (gone later : LogChunk) (past : follow.PastLoss kind gone later) (member : later ∈ follow.waiting kind) :
      later ∈ next.waiting kind := by
    obtain ⟨refused, bytes, _, after⟩ := past
    rw [waiting] at member
    rcases mem_cons.mp member with rfl | rest
    · have before := early gone refused bytes
      omega
    · exact rest
  cases move with
  | unmoved steady unheard waiting => exact still unheard waiting steady.delivered
  | @offered chunk steady _ _ _ _ ordered joins pushed queued =>
    have offset' : (next.channel kind).offset = chunk.endOffset := by rw [pushed]; rfl
    have onward : (follow.channel kind).offset ≤ chunk.beginOffset := by
      cases seen : (follow.channel kind).seen with
      | true => exact (joins seen).ge
      | false =>
        have zero : (follow.channel kind).offset = 0 := ((formed.sound.streams kind).fresh seen).2
        omega
    have below := loss.below
    obtain ⟨new, refused, more, heard, lost, isNew, isRefused⟩ : ∃ new refused,
        next.waiting kind = follow.waiting kind ++ new ∧ next.heard kind = follow.heard kind ++ new ∧
        next.lost kind = follow.lost kind ++ refused ∧ (∀ other ∈ new, other = chunk ∧ refused = []) ∧
        ∀ other ∈ refused, other = chunk := by
      rcases queued with ⟨_, more, lost, heard⟩ | ⟨same, heard, ⟨_, lost⟩ | ⟨lost, _⟩⟩
      · exact ⟨[chunk], [], more, heard, by simp [lost]⟩
      · exact ⟨[], [chunk], by simp [same], by simp [heard], lost, by simp⟩
      · exact ⟨[], [], by simp [same], by simp [heard], by simp [lost]⟩
    refine ⟨?_, ?_, ?_, ?_, ?_, ?_, ?_⟩
    · rw [steady.delivered, offset']
      omega
    · rw [offset', more]
      refine forall_mem_append.mpr ⟨fun other old => ?_, fun other own => ?_⟩
      · have ahead := loss.ahead other old
        omega
      · rw [(isNew other own).1]
        exact ⟨ordered, le_rfl⟩
    · rw [offset', heard]
      refine forall_mem_append.mpr ⟨fun other old => ?_, fun other own => ?_⟩
      · have before := loss.heard other old
        omega
      · rw [(isNew other own).1]
        exact ordered
    · rw [offset', lost]
      refine forall_mem_append.mpr ⟨fun gone old => ?_, fun gone own => (isRefused gone own ▸ le_rfl)⟩
      have passed := loss.passed gone old
      omega
    · rw [lost, more]
      intro gone member bytes other inside
      rcases mem_append.mp member with old | own
      · rcases mem_append.mp inside with before | last
        · exact loss.cut gone old bytes other before
        · have passed := loss.passed gone old
          rw [(isNew other last).1]
          omega
      · rcases mem_append.mp inside with before | last
        · have ahead := loss.ahead other before
          rw [isRefused gone own]
          omega
        · rw [(isNew other last).2] at own
          cases own
    · rw [lost, steady.delivered]
      refine loss.behind.imp steady.isOver fun early => forall_mem_append.mpr ⟨early, fun gone own _ => ?_⟩
      rw [isRefused gone own]
      omega
    · refine loss.waits.imp steady.isOver fun all gone later ⟨member, bytes, accepted, after⟩ => ?_
      rw [lost] at member
      rw [heard] at accepted
      rw [more]
      rcases mem_append.mp accepted with old | own
      · refine mem_append_left _ ?_
        rcases mem_append.mp member with before | last
        · exact all gone later ⟨before, bytes, old, after⟩
        · have before := loss.heard later old
          rw [isRefused gone last] at bytes after
          omega
      · exact mem_append_right _ own
  | replayed _ unheard waiting delivered => exact still unheard waiting delivered
  | stale steady unheard _ _ _ waiting stale =>
    refine loss.worked unheard (fun _ => waiting ▸ mem_cons_of_mem _) (steady.delivered ▸ loss.below) ?_
      fun early => Or.inr (taken waiting stale.le early)
    rw [steady.delivered]
    exact Or.inr
  | gap steady unheard _ _ _ waiting _ isOver =>
    exact loss.worked unheard (fun _ => waiting ▸ mem_cons_of_mem _) (steady.delivered ▸ loss.below)
      (fun _ => Or.inl isOver) fun _ => Or.inl isOver
  | @next chunk unheard _ _ _ waiting joins _ _ _ =>
    have here : chunk ∈ follow.waiting kind := by
      rw [waiting]
      exact mem_cons_self ..
    have ahead := loss.ahead chunk here
    refine loss.worked unheard (fun _ => waiting ▸ mem_cons_of_mem _) (by omega) ?_
      fun early => Or.inr (taken waiting joins.le early)
    refine fun early => Or.inr fun gone member bytes => ?_
    have before := early gone member bytes
    have cut := loss.cut gone member bytes chunk here
    omega

/-- A session that was sent the end has missed nothing before a chunk that it accepted. -/
def Silent (kind : LogStreamKind) (follow : Follow) : Prop :=
  follow.sentEnd = true → ∀ gone later, ¬follow.PastLoss kind gone later

theorem Loss.none_waiting (loss : Loss kind follow) (listening : ¬follow.Over) (empty : follow.waiting kind = [])
    (gone later : LogChunk) : ¬follow.PastLoss kind gone later := by
  intro past
  have waits := loss.waits.resolve_left listening gone later past
  rw [empty] at waits
  cases waits

theorem Unheard.pastLoss (unheard : Unheard kind follow next) {gone later : LogChunk}
    (past : next.PastLoss kind gone later) : follow.PastLoss kind gone later :=
  past.before unheard.lost unheard.heard

/-- An end that is queued or sent was accepted. -/
def EndAccepted (follow : Follow) : Prop :=
  (∃ chunk ∈ follow.session.subscription.queue, chunk.kind = .eof) ∨ follow.sentEnd = true → follow.acceptedEnd = true

theorem EndAccepted.published {chunk : LogChunk} (accepted : follow.EndAccepted) :
    EndAccepted
      { follow with entry, session := follow.session.setSubscription (follow.session.subscription.publish chunk) } := by
  intro known
  obtain ⟨_, _, queue, taken⟩ := follow.session.subscription.publish_adds chunk
  have before (sent : follow.acceptedEnd = true) : acceptedEnd
      { follow with entry, session := follow.session.setSubscription (follow.session.subscription.publish chunk) } =
      true := by
    obtain ⟨other, old, eof⟩ := acceptedEnd_iff.mp sent
    exact acceptedEnd_iff.mpr ⟨other, taken ▸ mem_append_left _ old, eof⟩
  rcases known with ⟨other, member, eof⟩ | sent
  · rcases mem_append.mp (queue ▸ member) with old | new
    · exact before (accepted (Or.inl ⟨other, old, eof⟩))
    · exact acceptedEnd_iff.mpr ⟨other, taken ▸ mem_append_right _ new, eof⟩
  · exact before (accepted (Or.inr sent))

section

variable (live : follow.session.jobFinished = false)
  (last : EndLast follow.entry.finished follow.session.subscription.queue)
include live last

theorem Move.silent (formed : follow.WellFormed) (move : Move config follow step next) (told : follow.EndTold)
    (loss : Loss kind follow) (silent : follow.Silent kind) : next.Silent kind := by
  intro sent gone later past
  obtain ⟨_, frames, appends⟩ := move.appends
  rw [sentEnd, frames, any_append, Bool.or_eq_true] at sent
  rcases sent with before | now
  · have unheard := (move.stream formed kind).unheard (Or.inl (told before))
    exact silent before gone later (unheard.pastLoss past)
  · obtain ⟨_, member, eof⟩ := any_eq_true.mp now
    obtain ⟨listening, finished, _, _, isEnd, _, queued⟩ := appends.eof live last member (beq_iff_eq.mp eof)
    have unheard := (move.stream formed kind).unheard (Or.inl finished)
    exact loss.none_waiting listening (waiting_of_end queued isEnd) gone later (unheard.pastLoss past)

/-- A step of the worker sends no end but one from the queue. -/
theorem EndAccepted.worked (accepted : follow.EndAccepted)
    (offered : next.session.subscription.offered = follow.session.subscription.offered)
    (fewer : next.session.subscription.queue ⊆ follow.session.subscription.queue) {added : List IpcStreamFrame}
    (frames : next.session.frames = follow.session.frames ++ added) (appends : Appends config follow step added) :
    next.EndAccepted := by
  have same : next.acceptedEnd = follow.acceptedEnd := by rw [acceptedEnd, acceptedEnd, offered]
  rw [EndAccepted, same]
  rintro (⟨chunk, member, eof⟩ | sent)
  · exact accepted (Or.inl ⟨chunk, fewer member, eof⟩)
  · rw [sentEnd, frames, any_append, Bool.or_eq_true] at sent
    rcases sent with before | now
    · exact accepted (Or.inr before)
    · obtain ⟨_, member, eof⟩ := any_eq_true.mp now
      obtain ⟨_, _, _, chunk, isEnd, _, queued⟩ := appends.eof live last member (beq_iff_eq.mp eof)
      exact accepted (Or.inl ⟨chunk, by rw [queued]; exact mem_cons_self .., isEnd⟩)

theorem Move.endAccepted (move : Move config follow step next) (accepted : follow.EndAccepted) :
    next.EndAccepted := by
  obtain ⟨_, frames, appends⟩ := move.appends
  cases move with
  | quiet quiet => exact accepted.worked live last quiet.offered (fun _ => quiet.queue ▸ id) frames appends
  | pushed | ended => exact accepted.published
  | replayed stdout stderr =>
    have same := follow.session.replays_subscription stdout stderr
    exact accepted.worked live last (congrArg _ same) (fun _ => same ▸ id) frames appends
  | concluded _ _ _ _ _ finished =>
    rw [live] at finished
    cases finished
  | tookEnd takes | tookStale _ takes | tookGap takes | tookNext _ takes =>
    exact accepted.worked live last rfl (fun _ => takes.queued ▸ mem_cons_of_mem _) frames appends
  | dropped => exact accepted.worked live last rfl (fun _ => id) frames appends

/-- A session that is over was told of BACKPRESSURE, or the job ended and nothing was accepted after a loss. -/
def Closed (kind : LogStreamKind) (follow : Follow) : Prop :=
  follow.Over → follow.sentBackpressure = true ∨
    (follow.entry.finished = true ∨ follow.entry.registered = false) ∧ ∀ gone later, ¬follow.PastLoss kind gone later

theorem Move.closed (formed : follow.WellFormed) (move : Move config follow step next)
    (gone : next.Gone → follow.Over) (closes : follow.closesEmpty step = true)
    (loss : Loss kind follow) (closed : follow.Closed kind) : next.Closed kind := by
  intro isOver
  obtain ⟨_, frames, _⟩ := move.appends
  have stream := move.stream formed kind
  have ended := move.isOver
  by_cases before : follow.Over
  · rcases closed before with pressed | ⟨quiet, none⟩
    · refine Or.inl ?_
      rw [sentBackpressure, frames, any_append]
      exact Bool.or_eq_true_iff.mpr (Or.inl pressed)
    · refine Or.inr ⟨quiet.imp ended.1 ended.2, fun lost later past => ?_⟩
      exact none lost later ((stream.unheard quiet).pastLoss past)
  · -- The step itself ended the session.
    cases move with
    | quiet quiet =>
      rcases isOver with closing | away
      · rw [quiet.closing] at closing
        exact absurd (Or.inl closing) before
      · exact absurd (gone away) before
    | pushed | ended => exact absurd isOver before
    | replayed _ _ open' => exact absurd isOver (not_over (not_gone rfl (by simp)) open')
    | tookStale _ takes | tookNext _ takes => exact absurd isOver (not_over (not_gone rfl (by simp)) takes.open')
    | concluded _ _ _ _ _ finished =>
      rw [live] at finished
      cases finished
    | tookEnd takes eof =>
      rw [takes.queued] at last
      obtain ⟨finished, rfl, _⟩ := last.head eof
      refine Or.inr ⟨Or.inl finished, fun lost later past => ?_⟩
      exact loss.none_waiting before (waiting_of_end takes.queued eof) lost later
        ((stream.unheard (Or.inl finished)).pastLoss past)
    | tookGap =>
      refine Or.inl ?_
      rw [sentBackpressure, Session.appendAll, filter_cons_of_pos (encodable_backpressureFrame _ _), any_append]
      exact Bool.or_eq_true_iff.mpr (Or.inr rfl)
    | dropped drops emptied shut =>
      have topic := (formed.closed shut).resolve_right (not_gone emptied (by simp))
      have quiet := formed.sound.closed topic
      have empty : follow.session.subscription.queue = [] := by simpa [closesEmpty, drops] using closes
      have none : follow.waiting kind = [] := by rw [waiting, empty, filter_nil]
      refine Or.inr ⟨quiet, fun lost later past => ?_⟩
      exact loss.none_waiting before none lost later ((stream.unheard quiet).pastLoss past)

end

/-- What holds of every session on a live job, however its steps are ordered. -/
structure Tracked (follow : Follow) : Prop where
  live : follow.session.jobFinished = false
  last : EndLast follow.entry.finished follow.session.subscription.queue
  told : follow.EndTold
  accepted : follow.EndAccepted
  loss : ∀ kind, Loss kind follow
  silent : ∀ kind, follow.Silent kind

theorem Move.tracked (formed : follow.WellFormed) (move : Move config follow step next) (tracked : follow.Tracked) :
    next.Tracked where
  live := move.jobFinished.trans tracked.live
  last := move.endLast tracked.last
  told := move.endTold tracked.live tracked.last tracked.told
  accepted := move.endAccepted tracked.live tracked.last tracked.accepted
  loss kind := (move.stream formed kind).loss formed (tracked.loss kind)
  silent kind := move.silent tracked.live tracked.last formed tracked.told (tracked.loss kind) (tracked.silent kind)

theorem Opened.not_sentEnd (opened : Opened config.streamer entry since follow) : ¬follow.sentEnd = true := by
  intro sent
  obtain ⟨frame, member, eof⟩ := any_eq_true.mp sent
  rw [opened.frames frame member] at eof
  cases eof

theorem Opened.tracked (opened : Opened config.streamer entry since follow) (sound : entry.Sound)
    (live : entry.finished = false) : follow.Tracked where
  live := opened.jobFinished.trans live
  last := opened.endLast
  told sent := absurd sent opened.not_sentEnd
  accepted := by
    rintro (⟨_, member, _⟩ | sent)
    · rw [opened.subscription] at member
      cases member
    · exact absurd sent opened.not_sentEnd
  loss kind := by
    have none : follow.waiting kind = [] := by
      rw [waiting, opened.subscription]
      rfl
    have unheard : follow.heard kind = [] := by
      rw [heard, Subscription.accepted, opened.subscription]
      rfl
    have whole : follow.lost kind = [] := by
      rw [lost, Subscription.rejected, opened.subscription]
      rfl
    obtain ⟨_, _, within, _⟩ := JobEntry.StreamState.plan_spans (sound.streams kind) (since.get kind)
    refine ⟨?_, by simp [none], by simp [unheard], by simp [whole], by simp [whole], by simp [whole], Or.inr ?_⟩
    · rw [Follow.delivered, opened.progress, Follow.channel, opened.channel, opened.plans]
      exact within
    · intro _ _ past
      rw [PastLoss, whole] at past
      cases past.1
  silent _ sent := absurd sent opened.not_sentEnd

/-- Sessions on a live job. An EOF frame comes after all of the stream, if live chunks are
received after the replay and the subscription refused nothing that moves the stream. It stands for an
end that was accepted. A session that accepted a chunk after one with bytes was refused
is never sent an end, and is told of BACKPRESSURE before it is closed. -/
theorem end_means_delivered {totalSessions sessions : Nat} {version jobState : UInt8} {history : List PublisherStep}
    {since : Streams (Option Nat)} {steps : List FollowStep}
    (begun : beginStream config.streamer totalSessions version jobState
      { JobEntry.after config.streamer history with sessions } since.stdout since.stderr = .ok follow)
    (live : (JobEntry.after config.streamer history).finished = false)
    (fits : ∀ step ∈ history, step.fitsFrame = true) (fits' : ∀ step ∈ steps, step.fitsFrame = true)
    (kind : LogStreamKind) :
    (Guarded.Along (Follow.step config) (fun follow step => follow.replaysFirst config step = true) follow steps →
      Guarded.Along (Follow.step config) (fun follow step => follow.misses config kind step = false) follow steps →
      ∀ before frame after, (follow.run config steps).session.frames = before ++ frame :: after → frame.kind = .logEof →
        ∃ first ≤ follow.start kind, FrameSpan first (before.filter (IpcStreamFrame.isData kind))
          ((follow.run config steps).channel kind).offset) ∧
    ((follow.run config steps).sentEnd = true → (follow.run config steps).acceptedEnd = true) ∧
    ∀ gone later, (follow.run config steps).PastLoss kind gone later →
      (follow.run config steps).sentEnd = false ∧
      ((∀ step ∈ steps, step.peerStays = true) →
        Guarded.Along (Follow.step config) (fun follow step => follow.closesEmpty step = true) follow steps →
        (follow.run config steps).Over → (follow.run config steps).sentBackpressure = true) := by
  have opened := beginStream_opened begun
  have after : (JobEntry.after config.streamer history).Sound := JobEntry.after_sound history
  have sound : ({ JobEntry.after config.streamer history with sessions } : JobEntry).Sound :=
    ⟨after.streams, after.closed, after.jobState⟩
  have start : follow.Tracked := opened.tracked sound live
  have always : Along (Follow.step config) (fun _ _ => True) follow steps :=
    along_iff_turns.mpr fun _ _ => trivial
  have tracked := (run_invariant Tracked (fun _ _ formed _ move => move.tracked formed) opened sound always start).2
  refine ⟨?_, fun sent => tracked.accepted (Or.inr sent), ?_⟩
  · intro replays heard before frame after' frames eof
    have along : Along (Follow.step config) (fun follow step => follow.replaysFirst config step = true ∧
        follow.misses config kind step = false ∧ step.fitsFrame = true) follow steps := by
      rw [along_iff_turns] at replays heard ⊢
      exact fun turn member =>
        ⟨replays turn member, heard turn member, fits' turn.2 (input_mem_of_mem_turns member)⟩
    have gapless := opened.replays fits kind
    obtain ⟨_, _, _, delivered⟩ := run_invariant
      (fun state => state.Tracked ∧
        Course (follow.session.plan kind)
          ((JobEntry.after config.streamer history).streams.get kind).offset kind state ∧
        EachAfter (Delivered (follow.session.plan kind) kind (state.channel kind).offset) state.session.frames)
      (fun state step formed ⟨first, heard, fits⟩ move ⟨tracked, course, delivered⟩ =>
        ⟨move.tracked formed tracked, (move.stream formed kind).course formed gapless fits first heard course,
          move.delivered formed gapless first tracked.live tracked.last tracked.told course delivered⟩)
      opened sound along ⟨start, opened.course kind, opened.delivered⟩
    exact delivered before frame after' frames eof
  · intro gone later past
    refine ⟨?_, fun stays closes isOver => ?_⟩
    · cases sent : (follow.run config steps).sentEnd with
      | false => rfl
      | true => exact absurd past (tracked.silent kind sent gone later)
    · have along : Along (Follow.step config) (fun follow step => follow.closesEmpty step = true ∧
          step.peerStays = true) follow steps := by
        rw [along_iff_turns] at closes ⊢
        exact fun turn member => ⟨closes turn member, stays turn.2 (input_mem_of_mem_turns member)⟩
      obtain ⟨_, _, closed⟩ := run_invariant (fun state => state.Tracked ∧ state.Closed kind)
        (fun state step formed ⟨closes, stays⟩ move ⟨tracked, closed⟩ =>
          ⟨move.tracked formed tracked,
            move.closed tracked.live tracked.last formed (step_over stays) closes (tracked.loss kind) closed⟩)
        opened sound along ⟨start, fun isOver => absurd isOver opened.not_over⟩
      exact (closed isOver).resolve_right fun quiet => quiet.2 gone later past

/-- A job that ends while its log is replayed to a client. -/
def endsInReplay : List FollowStep :=
  [.advance, .publisher (.finishJob .finished none), .publisher .closeTopic, .advance, .write true]

theorem end_means_delivered_replay :
    ∃ follow, beginStream {} 0 4 2 { JobEntry.after {} [.publishChunk .stdout [65, 66] 0 2] with sessions := 0 }
        (some 0) none = .ok follow ∧
      ∃ first ≤ follow.start .stdout,
        FrameSpan first [Session.dataFrame .stdout { endOffset := 2, data := [65, 66] }]
          ((follow.run {} endsInReplay).channel .stdout).offset := by
  refine ⟨_, rfl, ?_⟩
  obtain ⟨complete, _⟩ := @end_means_delivered {} _ 0 0 4 2 [.publishChunk .stdout [65, 66] 0 2] ⟨some 0, none⟩
    endsInReplay rfl rfl (by decide +kernel) (by decide +kernel) .stdout
  exact complete (by decide +kernel) (by decide +kernel)
    [Session.dataFrame .stdout { endOffset := 2, data := [65, 66] }]
    (Session.eofFrame JobState.finished.wire none) [] (by decide +kernel) rfl

/-- The fifth chunk and the end both find the queue full. -/
def endOverrun : List FollowStep :=
  (List.range 5).map (fun offset => .publisher (.publishChunk .stdout [65] offset (offset + 1))) ++
    [.publisher (.finishJob .finished none), .publisher .closeTopic] ++ List.replicate 7 .advance ++ [.write true]

/-- The client has four of five bytes. It is told neither of BACKPRESSURE nor of an end, only disconnected. -/
theorem loss_closed_silently :
    ∃ follow, beginStream { subscriptionCapacity := 4 } 0 4 2
      (JobEntry.after { subscriptionCapacity := 4 } []) none none =
        .ok follow ∧
      let final := follow.run { streamer := { subscriptionCapacity := 4 } } endOverrun
      final.lost .stdout = [{ beginOffset := 4, endOffset := 5, data := [65] }] ∧ final.phase = .gone .completed ∧
        final.sentBackpressure = false ∧ final.sentEnd = false := by
  refine ⟨_, rfl, ?_, ?_, ?_, ?_⟩ <;> decide +kernel

end Follow

end Yori
