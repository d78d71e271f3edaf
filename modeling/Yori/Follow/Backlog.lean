import Yori.Follow.FollowRun

namespace Yori

variable {chunk : LogChunk}

theorem trimBacklog_suffix (budget : Nat) (backlog : List LogChunk) (bytes : Nat) :
    ∃ dropped, backlog = dropped ++ (trimBacklog budget backlog bytes).1 := by
  fun_induction trimBacklog budget backlog bytes with
  | case1 first _ _ _ _ ih =>
    obtain ⟨dropped, same⟩ := ih
    exact ⟨first :: dropped, by rw [List.cons_append, ← same]⟩
  | case2 | case3 => exact ⟨[], rfl⟩

namespace LogChunk

/-- A drop marker is far below the limit of a data frame. -/
theorem length_dropMarkerText (droppedBytes : UInt64) :
    (dropMarkerText droppedBytes).length ≤ IpcProtocolLimits.maxStreamDataBytes := by
  have digits : (toString droppedBytes.toNat).toList.length ≤ 20 := by
    have small : droppedBytes.toNat < 10 ^ 20 := by
      have bound := droppedBytes.toNat_lt
      omega
    rw [show toString droppedBytes.toNat = droppedBytes.toNat.repr from rfl, Nat.toList_repr]
    exact (Nat.length_toDigits_le_iff (by decide) (by decide)).mpr small
  have before : (ByteString.ascii "[yori] dropped ").length = 15 := by decide
  have after : (ByteString.ascii " bytes\n").length = 7 := by decide
  have middle : (ByteString.ascii (toString droppedBytes.toNat)).length ≤ 20 := by
    rw [ByteString.ascii, List.length_map]
    exact digits
  rw [dropMarkerText, List.length_append, List.length_append, before, after]
  show _ ≤ 262144
  omega

end LogChunk

namespace JobEntry.StreamState

variable {state : StreamState}

/-- The backlog is a gapless piece of the stream that ends at its offset. A stream that has seen nothing is at zero. -/
structure Sound (state : StreamState) : Prop where
  fresh : state.seen = false → state.backlog = [] ∧ state.offset = 0
  spans : ∃ start, ChunkSpan start state.backlog state.offset

theorem push_sound {budget : Nat} (sound : state.Sound) (ordered : chunk.beginOffset ≤ chunk.endOffset)
    (joins : state.seen = true → chunk.beginOffset = state.offset) : (state.push budget chunk).Sound := by
  have whole : ∃ start, ChunkSpan start (state.backlog ++ [chunk]) chunk.endOffset := by
    cases known : state.seen with
    | true =>
      obtain ⟨start, spans⟩ := sound.spans
      rw [← joins known] at spans
      exact ⟨start, spans.append (Spans.singleton ordered)⟩
    | false =>
      rw [(sound.fresh known).1]
      exact ⟨chunk.beginOffset, Spans.singleton ordered⟩
  refine ⟨fun unseen => absurd unseen (by simp [push]), ?_⟩
  obtain ⟨_, spans⟩ := whole
  obtain ⟨_, same⟩ := trimBacklog_suffix budget (state.backlog ++ [chunk])
    (state.backlogBytes + chunk.data.length)
  rw [same] at spans
  obtain ⟨middle, _, kept⟩ := spans.split
  exact ⟨middle, kept⟩

/-- The replay of a plan is gapless, reaches back to the announced start and ends where the stream ended. -/
theorem plan_spans (sound : state.Sound) (since : Option Nat) :
    ∃ start, start ≤ (state.plan since).startOffset ∧ (state.plan since).startOffset ≤ state.offset ∧
      ChunkSpan start (state.plan since).chunks state.offset := by
  have whole : ChunkSpan state.offset [] state.offset := rfl
  cases since with
  | none => exact ⟨state.offset, le_rfl, le_rfl, whole⟩
  | some since =>
    by_cases future : since ≥ state.offset
    · rw [plan, if_pos future]
      exact ⟨state.offset, le_rfl, le_rfl, whole⟩
    · rw [plan, if_neg future]
      obtain ⟨start, spans⟩ := sound.spans
      obtain ⟨dropped, same⟩ := List.dropWhile_suffix (l := state.backlog) fun chunk => decide (chunk.endOffset ≤ since)
      rw [← same] at spans
      obtain ⟨middle, _, kept⟩ := spans.split
      cases window : state.backlog.dropWhile fun chunk => chunk.endOffset ≤ since with
      | nil => exact ⟨state.offset, le_rfl, le_rfl, whole⟩
      | cons first =>
        rw [window] at kept
        have begins : first.beginOffset = middle := kept.1
        have below := kept.le
        by_cases late : first.beginOffset > since
        · simp only [if_pos late]
          exact ⟨middle, by omega, by omega, kept⟩
        · simp only [if_neg late]
          exact ⟨middle, by omega, by omega, kept⟩

end JobEntry.StreamState

namespace JobEntry

/-- What a call can do to a channel, with the chunk that it hands to the topic. -/
inductive Performs (config : LogStreamerConfig) (entry : JobEntry) : JobEntry → Option LogChunk → Prop
  | refused : Performs config entry entry none
  | closed (finished : entry.finished = true) : Performs config entry { entry with topicClosed := true } none
  | unregistered : Performs config entry { entry with registered := false, topicClosed := true } none
  | pushed {chunk : LogChunk} (registered : entry.registered = true) (running : entry.finished = false)
      (data : chunk.kind = .data) (ordered : chunk.beginOffset ≤ chunk.endOffset)
      (joins : (entry.streams.get chunk.stream).seen = true →
        chunk.beginOffset = (entry.streams.get chunk.stream).offset) :
      Performs config entry
        { entry with
          streams := entry.streams.set chunk.stream
            ((entry.streams.get chunk.stream).push config.backlogBytesPerStream chunk) }
        (some chunk)
  | ended (registered : entry.registered = true) (running : entry.finished = false) (jobState : JobState)
      (exit : Option IpcExitStatus) :
      Performs config entry { entry with finished := true, jobState := jobState.wire, exit }
        (some (.ofEnd jobState.wire exit))

variable {config : LogStreamerConfig}

/-- A publication is refused without a trace, or the chunk joins its stream. -/
theorem publish_cases (entry : JobEntry) {chunk : LogChunk} (data : chunk.kind = .data) :
    (∃ code, code ≠ .published ∧ entry.publish config chunk = (code, entry)) ∨
      entry.registered = true ∧ entry.finished = false ∧
        ((entry.streams.get chunk.stream).seen = true →
          chunk.beginOffset = (entry.streams.get chunk.stream).offset) ∧
        entry.publish config chunk = (.published, { entry with
          streams := entry.streams.set chunk.stream
            ((entry.streams.get chunk.stream).push config.backlogBytesPerStream chunk) }) := by
  unfold publish publishLocked
  cases registered : entry.registered with
  | false => exact .inl ⟨.notRegistered, nofun, rfl⟩
  | true =>
    cases finished : entry.finished with
    | true => exact .inl ⟨.jobFinished, nofun, rfl⟩
    | false =>
      by_cases apart : (entry.streams.get chunk.stream).seen = true ∧
          chunk.beginOffset ≠ (entry.streams.get chunk.stream).offset
      · exact .inl ⟨.invalidOffset, nofun, by simp [data, apart]⟩
      · refine .inr ⟨rfl, rfl, fun seen => ?_, by simp only [data, if_true, if_neg apart]; rfl⟩
        by_contra different
        exact apart ⟨seen, different⟩

theorem offer_performs (entry : JobEntry) (data : chunk.kind = .data) (ordered : chunk.beginOffset ≤ chunk.endOffset) :
    Performs config entry (entry.offer config chunk).1 (entry.offer config chunk).2 := by
  rcases entry.publish_cases data with ⟨code, refused, same⟩ | ⟨registered, running, joins, same⟩
  · rw [offer, same]
    cases code with
    | published => exact absurd rfl refused
    | notRegistered | jobFinished | invalidOffset => exact .refused
  · rw [offer, same]
    exact .pushed registered running data ordered joins

theorem perform_performs (entry : JobEntry) (step : PublisherStep) :
    Performs config entry (entry.perform config step).1 (entry.perform config step).2 := by
  cases step with
  | publishChunk stream data beginOffset endOffset =>
    rw [perform]
    cases made : LogChunk.ofData stream data beginOffset endOffset with
    | none => exact .refused
    | some =>
      obtain ⟨rfl, length⟩ := LogChunk.ofData_eq_some made
      exact entry.offer_performs rfl (by simp only; omega)
  | publishDropMarker => exact entry.offer_performs rfl le_rfl
  | finishJob jobState exit =>
    cases registered : entry.registered with
    | false =>
      have same : entry.perform config (.finishJob jobState exit) = (entry, none) := by
        simp [perform, finishJob, registered]
      rw [same]
      exact .refused
    | true =>
      cases finished : entry.finished with
      | true =>
        have same : entry.perform config (.finishJob jobState exit) = (entry, none) := by
          simp [perform, finishJob, registered, finished]
        rw [same]
        exact .refused
      | false =>
        have same : entry.perform config (.finishJob jobState exit) =
            ({ entry with finished := true, jobState := jobState.wire, exit },
              some (.ofEnd jobState.wire exit)) := by
          simp [perform, finishJob, registered, finished]
        rw [same]
        exact .ended registered finished jobState exit
  | closeTopic =>
    cases finished : entry.finished with
    | true =>
      have same : entry.perform config .closeTopic = ({ entry with topicClosed := true }, none) := by
        simp [perform, finished]
      rw [same]
      exact .closed finished
    | false =>
      have same : entry.perform config .closeTopic = (entry, none) := by simp [perform, finished]
      rw [same]
      exact .refused
  | unregisterJob => exact .unregistered

/-- What holds of every channel, whatever was called on it. -/
structure Sound (entry : JobEntry) : Prop where
  streams : ∀ kind, (entry.streams.get kind).Sound
  closed : entry.topicClosed = true → entry.finished = true ∨ entry.registered = false
  jobState : ∃ state : JobState, entry.jobState = state.wire

theorem sound_new : Sound {} where
  streams kind := by
    cases kind <;> exact ⟨fun _ => ⟨rfl, rfl⟩, 0, rfl⟩
  closed open' := by cases open'
  jobState := ⟨.queued, rfl⟩

theorem Performs.sound {entry next : JobEntry} {chunk : Option LogChunk} (performs : Performs config entry next chunk)
    (sound : entry.Sound) : next.Sound := by
  cases performs with
  | refused => exact sound
  | closed finished => exact ⟨sound.streams, fun _ => Or.inl finished, sound.jobState⟩
  | unregistered => exact ⟨sound.streams, fun _ => Or.inr rfl, sound.jobState⟩
  | @pushed chunk _ _ _ ordered joins =>
    refine ⟨fun kind => ?_, sound.closed, sound.jobState⟩
    by_cases same : kind = chunk.stream
    · rw [same, Streams.get_set_self]
      exact StreamState.push_sound (sound.streams _) ordered joins
    · rw [Streams.get_set_of_ne same]
      exact sound.streams kind
  | ended _ _ jobState => exact ⟨sound.streams, fun _ => Or.inl rfl, jobState, rfl⟩

theorem after_sound (steps : List PublisherStep) : (after config steps).Sound :=
  List.foldlRecOn steps _ sound_new fun entry sound step _ => (entry.perform_performs step).sound sound

end JobEntry

end Yori
