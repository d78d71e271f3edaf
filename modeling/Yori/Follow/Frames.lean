import Yori.Follow.StreamMoves
import Yori.Library.Occurrences

namespace Yori
open IpcProtocolLimits Session IpcWriter List

variable {entry : JobEntry} {chunk : LogChunk}

/-- The data of a published chunk fits into one frame. The log pump reads at
most 64 KiB at a time, which is well below. -/
def PublisherStep.fitsFrame : PublisherStep → Bool
  | .publishChunk _ data _ _ => data.length ≤ maxStreamDataBytes
  | _ => true

def FollowStep.fitsFrame : FollowStep → Bool
  | .publisher step => step.fitsFrame
  | _ => true

theorem wire_le (kind : LogStreamKind) : ¬kind.wire > underlyingStreamMax := by
  cases kind <;> decide

theorem encodable_dataFrame {kind : LogStreamKind} (ordered : chunk.beginOffset ≤ chunk.endOffset)
    (fits : chunk.data.length ≤ maxStreamDataBytes) :
    encodable (dataFrame kind chunk) = true := by
  have data : (dataFrame kind chunk).kind = .logData := rfl
  obtain ⟨_, encoded, _⟩ := streamFrameBytes_logData data (wire_le kind) ordered fits
  rw [encodable, encoded]
  rfl

theorem encodable_backpressureFrame (kind : LogStreamKind) (offset : Nat) :
    encodable (backpressureFrame kind offset) = true := by
  have body : encodeStreamFrameBody (backpressureFrame kind offset) =
      some (u8 kind.wire ++ u64 offset) := by
    rw [encodeStreamFrameBody]
    exact if_neg (wire_le kind)
  obtain ⟨_, encoded, _⟩ := encodeStreamFramePayload_of_body body (by
    simp only [u8, length_append, length_u64, length_singleton]
    decide)
  rw [encodable, encoded]
  rfl

namespace JobEntry

/-- Every chunk of the backlogs fits into one frame. -/
def Fits (entry : JobEntry) : Prop :=
  ∀ kind, ∀ chunk ∈ (entry.streams.get kind).backlog, chunk.data.length ≤ maxStreamDataBytes

variable {config : LogStreamerConfig}

theorem offer_chunk {offered : LogChunk} (published : (entry.offer config offered).2 = some chunk) :
    chunk = offered := by
  unfold offer at published
  split at published
  · cases published
    rfl
  · cases published

/-- What a call hands to the topic fits if the call does. -/
theorem perform_fits {step : PublisherStep} (fits : step.fitsFrame = true)
    (published : (entry.perform config step).2 = some chunk) :
    chunk.data.length ≤ maxStreamDataBytes := by
  cases step with
  | publishChunk stream data beginOffset endOffset =>
    rw [perform] at published
    cases made : LogChunk.ofData stream data beginOffset endOffset with
    | none =>
      rw [made] at published
      cases published
    | some =>
      rw [made] at published
      rw [offer_chunk published, (LogChunk.ofData_eq_some made).1]
      exact of_decide_eq_true fits
  | publishDropMarker _ _ droppedBytes =>
    rw [offer_chunk published]
    exact LogChunk.length_dropMarkerText droppedBytes
  | finishJob =>
    rw [perform] at published
    split at published
    · cases published
      exact Nat.zero_le _
    · cases published
  | closeTopic =>
    rw [perform] at published
    split at published <;> cases published
  | unregisterJob => cases published

theorem Performs.fits {next : JobEntry} {handed : Option LogChunk} (performs : Performs config entry next handed)
    (small : ∀ chunk, handed = some chunk → chunk.data.length ≤ maxStreamDataBytes)
    (fits : entry.Fits) : next.Fits := by
  cases performs with
  | refused | closed | unregistered => exact fits
  | @pushed chunk _ _ data _ _ =>
    intro kind other member
    by_cases same : kind = chunk.stream
    · rw [same, Streams.get_set_self] at member
      obtain ⟨_, kept⟩ := trimBacklog_suffix config.backlogBytesPerStream
        ((entry.streams.get chunk.stream).backlog ++ [chunk])
        ((entry.streams.get chunk.stream).backlogBytes + chunk.data.length)
      have inside : other ∈ (entry.streams.get chunk.stream).backlog ++ [chunk] := by
        rw [kept]
        exact mem_append_right _ member
      rcases mem_append.mp inside with old | new
      · exact fits chunk.stream other old
      · rw [mem_singleton.mp new]
        exact small chunk rfl
    · rw [Streams.get_set_of_ne same] at member
      exact fits kind other member
  | ended => exact fits

theorem after_fits {history : List PublisherStep} (fits : ∀ step ∈ history, step.fitsFrame = true) :
    (after config history).Fits := by
  refine foldlRecOn history _ ?_ fun entry fitted step member => ?_
  · intro kind _ member
    cases kind <;> cases member
  · exact (entry.perform_performs step).fits (fun chunk => perform_fits (fits step member)) fitted

end JobEntry

theorem JobEntry.StreamState.plan_subset (state : StreamState) (since : Option Nat) :
    (state.plan since).chunks ⊆ state.backlog := by
  intro chunk member
  cases since with
  | none => cases member
  | some =>
    unfold plan at member
    simp only at member
    split at member
    · cases member
    · split at member
      · cases member
      · rename_i first rest window
        have kept : chunk ∈ first :: rest := by
          split at member <;> exact member
        rw [← window] at kept
        exact (dropWhile_suffix _).subset kept

namespace Follow

variable {config : FollowConfig} {follow next : Follow} {kind : LogStreamKind} {step : FollowStep}
  {frame : IpcStreamFrame}

/-- A received chunk that the delivery does not reach up to. -/
structure GapAt (config : FollowConfig) (follow : Follow) (step : FollowStep) (chunk : LogChunk) : Prop where
  listening : ¬follow.Over
  taken : follow.taken config step = some chunk
  data : chunk.kind = .data
  queued : ∃ rest, follow.waiting chunk.stream = chunk :: rest
  gap : follow.delivered chunk.stream < chunk.beginOffset

/-- The frames that a step can append: data only, a BACKPRESSURE frame for a gap, the end of
a job that was over at subscription, or the end that was received. -/
inductive Appends (config : FollowConfig) (follow : Follow) (step : FollowStep) : List IpcStreamFrame → Prop
  | data {added : List IpcStreamFrame} (data : ∀ frame ∈ added, frame.kind = .logData) :
      Appends config follow step added
  | gap {chunk : LogChunk} (gap : GapAt config follow step chunk) :
      Appends config follow step [Session.backpressureFrame chunk.stream chunk.beginOffset]
  | concluded {added : List IpcStreamFrame} (finished : follow.session.jobFinished = true)
      (data : ∀ frame ∈ added, frame.kind = .logData) :
      Appends config follow step
        (added ++ [Session.eofFrame follow.session.jobState follow.session.exit].filter encodable)
  | ended {chunk : LogChunk} {rest : List LogChunk} (listening : ¬follow.Over)
      (taken : follow.taken config step = some chunk) (queued : follow.session.subscription.queue = chunk :: rest)
      (eof : chunk.kind = .eof) :
      Appends config follow step ([Session.eofFrame chunk.jobState chunk.exit].filter encodable)

theorem kind_of_mem_dataFrames {chunks : List LogChunk}
    (member : frame ∈ (chunks.map (dataFrame kind)).filter encodable) : frame.kind = .logData := by
  obtain ⟨_, _, same⟩ := mem_map.mp (mem_filter.mp member).1
  rw [← same]
  rfl

theorem Move.appends (move : Move config follow step next) :
    ∃ added, next.session.frames = follow.session.frames ++ added ∧ Appends config follow step added := by
  cases move with
  | quiet quiet => exact ⟨[], by rw [quiet.frames, append_nil], .data (by simp)⟩
  | pushed | ended | tookStale | dropped =>
    exact ⟨[], (append_nil _).symm, .data (by simp)⟩
  | replayed =>
    refine ⟨_, append_assoc _ _ _, .data fun frame member => ?_⟩
    rcases mem_append.mp member with early | late
    · exact kind_of_mem_dataFrames early
    · exact kind_of_mem_dataFrames late
  | concluded _ _ _ _ _ finished =>
    refine ⟨_, (congrArg (· ++ _) (append_assoc _ _ _)).trans (append_assoc _ _ _),
      .concluded finished fun frame member => ?_⟩
    rcases mem_append.mp member with early | late
    · exact kind_of_mem_dataFrames early
    · exact kind_of_mem_dataFrames late
  | tookEnd takes eof => exact ⟨_, rfl, .ended takes.listening takes.taken takes.queued eof⟩
  | tookGap takes data gap =>
    refine ⟨_, ?_, .gap ⟨takes.listening, takes.taken, data, ⟨_, waiting_of_data takes.queued ?_⟩, gap⟩⟩
    · rw [appendAll, filter_cons_of_pos (encodable_backpressureFrame _ _), filter_nil]
      rfl
    · exact LogChunk.isData_iff.mpr ⟨data, rfl⟩
  | @tookNext chunk =>
    refine ⟨_, rfl, .data fun frame member => ?_⟩
    have here : frame ∈ ([chunk].map (dataFrame chunk.stream)).filter encodable := member
    exact kind_of_mem_dataFrames here

/-- A BACKPRESSURE frame is appended alone, and for a gap. -/
theorem Appends.backpressure {added : List IpcStreamFrame} (appends : Appends config follow step added)
    (member : frame ∈ added) (backpressure : frame.kind = .logBackpressure) :
    ∃ chunk, GapAt config follow step chunk ∧
      added = [backpressureFrame chunk.stream chunk.beginOffset] := by
  cases appends with
  | data data =>
    rw [data frame member] at backpressure
    cases backpressure
  | @gap chunk gap => exact ⟨chunk, gap, rfl⟩
  | concluded _ data =>
    rcases mem_append.mp member with early | last
    · rw [data frame early] at backpressure
      cases backpressure
    · rw [mem_singleton.mp (mem_filter.mp last).1] at backpressure
      cases backpressure
  | ended =>
    rw [mem_singleton.mp (mem_filter.mp member).1] at backpressure
    cases backpressure

theorem Opened.dataFrames {since : Streams (Option Nat)} (opened : Opened config.streamer entry since follow)
    (kind : LogStreamKind) : follow.dataFrames kind = [] := by
  rw [Follow.dataFrames, filter_eq_nil_iff]
  intro frame member data
  simp only [IpcStreamFrame.isData, opened.frames frame member] at data
  cases data

end Follow

end Yori
