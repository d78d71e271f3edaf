import Yori.Follow.Backlog

/-! The registry of log channels: what the backlog of a stream holds after any
calls, and what a replay makes of it. -/

namespace Yori
open SortedMap JobEntry List

variable {state : StreamState} {accepted : List LogChunk} {chunk : LogChunk} {budget : Nat}

/-- The size of a chunk is that of its range, unless it is a drop marker. -/
def LogChunk.WellMade (chunk : LogChunk) : Prop :=
  chunk.endOffset = chunk.beginOffset + chunk.data.length ∨
    ∃ droppedBytes, chunk = .dropMarker chunk.stream chunk.beginOffset droppedBytes

def backlogSize (chunks : List LogChunk) : Nat := (chunks.map (·.data.length)).sum

/-- Trimming keeps count, stops at the budget and leaves the newest chunk. -/
theorem trimBacklog_spec (backlog : List LogChunk) (bytes : Nat) (counted : bytes = backlogSize backlog)
    (some : backlog ≠ []) :
    let (kept, bytes) := trimBacklog budget backlog bytes
    bytes = backlogSize kept ∧ kept ≠ [] ∧ (bytes ≤ budget ∨ kept.length = 1) := by
  fun_induction trimBacklog budget backlog bytes with
  | case1 _ _ _ _ _ ih =>
    refine ih ?_ (cons_ne_nil _ _)
    rw [counted, backlogSize, backlogSize, map_cons, sum_cons]
    omega
  | case2 _ _ _ _ within => exact ⟨counted, some, .inl (Nat.le_of_not_lt within)⟩
  | case3 _ _ short =>
    refine ⟨counted, some, .inr ?_⟩
    obtain ⟨first, rest, rfl⟩ := exists_cons_of_ne_nil some
    cases rest with
    | nil => rfl
    | cons second rest => exact (short first second rest rfl).elim

namespace JobEntry

namespace StreamState

/-- What the backlog is to the chunks that the stream has accepted. -/
structure Kept (budget : Nat) (accepted : List LogChunk) (state : StreamState) : Prop extends state.Sound where
  suffix : state.backlog <:+ accepted
  bytes : state.backlogBytes = backlogSize state.backlog
  budget : state.backlogBytes ≤ budget ∨ state.backlog.length = 1
  whole : ∀ chunk ∈ accepted, chunk.WellMade
  empty : state.backlog = [] → state.offset = 0

theorem push_kept (kept : state.Kept budget accepted) (ordered : chunk.beginOffset ≤ chunk.endOffset)
    (joins : state.seen = true → chunk.beginOffset = state.offset) (made : chunk.WellMade) :
    (state.push budget chunk).Kept budget (accepted ++ [chunk]) := by
  have counted : state.backlogBytes + chunk.data.length = backlogSize (state.backlog ++ [chunk]) := by
    rw [kept.bytes, backlogSize, backlogSize, map_append, sum_append]
    rfl
  obtain ⟨bytes, some, small⟩ := trimBacklog_spec _ _ counted (by simp)
  obtain ⟨dropped, same⟩ := trimBacklog_suffix budget (state.backlog ++ [chunk])
    (state.backlogBytes + chunk.data.length)
  have suffix : state.backlog ++ [chunk] <:+ accepted ++ [chunk] := by
    obtain ⟨older, all⟩ := kept.suffix
    exact ⟨older, by rw [← append_assoc, all]⟩
  refine ⟨push_sound kept.toSound ordered joins, ?_, bytes, small, ?_, fun none => absurd none some⟩
  · exact IsSuffix.trans ⟨dropped, same.symm⟩ suffix
  · exact forall_mem_append.mpr ⟨kept.whole, forall_mem_singleton.mpr made⟩

end StreamState

theorem kept_new (budget : Nat) : StreamState.Kept budget [] {} :=
  ⟨⟨fun _ => ⟨rfl, rfl⟩, 0, rfl⟩, suffix_rfl, rfl, .inl (Nat.zero_le _), by simp, fun _ => rfl⟩

end JobEntry

inductive LogRegisterCode
  | registered | invalidJob | alreadyRegistered
deriving DecidableEq, Repr

inductive LogUnregisterCode
  | unregistered | notFound
deriving Repr

structure LogStreamer where
  jobs : SortedMap JobId JobEntry := .empty

namespace LogStreamer

section Calls

variable (config : LogStreamerConfig) (job : JobId)

def registerJob (streamer : LogStreamer) : LogRegisterCode × LogStreamer :=
  if !job.valid then (.invalidJob, streamer)
  else if streamer.jobs.contains job then (.alreadyRegistered, streamer)
  else (.registered, ⟨streamer.jobs.insert job {}⟩)

/-- Sessions may keep the entry alive, but no call finds it any more. -/
def unregisterJob (streamer : LogStreamer) : LogUnregisterCode × LogStreamer :=
  if streamer.jobs.contains job then (.unregistered, ⟨streamer.jobs.erase job⟩) else (.notFound, streamer)

def publish (chunk : LogChunk) (streamer : LogStreamer) : LogPublishCode × LogStreamer :=
  match streamer.jobs.find? job with
  | none => (.notRegistered, streamer)
  | some entry =>
    let (code, entry) := entry.publish config chunk
    (code, ⟨streamer.jobs.insert job entry⟩)

def publishChunk (stream : LogStreamKind) (data : ByteString) (beginOffset endOffset : Nat) (streamer : LogStreamer) :
    LogPublishCode × LogStreamer :=
  match LogChunk.ofData stream data beginOffset endOffset with
  | none => (.invalidOffset, streamer)
  | some chunk => streamer.publish config job chunk

def publishDropMarker (stream : LogStreamKind) (offset : Nat) (droppedBytes : UInt64) (streamer : LogStreamer) :
    LogPublishCode × LogStreamer :=
  streamer.publish config job (.dropMarker stream offset droppedBytes)

/-- The topic is closed here as well, which the model of a session has as a step of its own. -/
def finishJob (jobState : JobState) (exit : Option IpcExitStatus) (streamer : LogStreamer) :
    LogFinishCode × LogStreamer :=
  match streamer.jobs.find? job with
  | none => (.notFound, streamer)
  | some entry =>
    let (code, entry) := entry.finishJob jobState.wire exit
    (code, ⟨streamer.jobs.insert job entry⟩)

end Calls

inductive Call
  | registerJob
  | unregisterJob
  | publishChunk (stream : LogStreamKind) (data : ByteString) (beginOffset endOffset : Nat)
  | publishDropMarker (stream : LogStreamKind) (offset : Nat) (droppedBytes : UInt64)
  | finishJob (jobState : JobState) (exit : Option IpcExitStatus)

/-- A streamer with the chunks that each job's channel has accepted since it was registered. -/
structure Traced where
  streamer : LogStreamer := {}
  accepted : JobId → List LogChunk := fun _ => []

namespace Traced

def published (traced : Traced) (job : JobId) (chunks : List LogChunk) (answer : LogPublishCode × LogStreamer) :
    Traced where
  streamer := answer.2
  accepted := if answer.1 = .published then Function.update traced.accepted job (traced.accepted job ++ chunks)
    else traced.accepted

def call (config : LogStreamerConfig) (traced : Traced) (job : JobId) : Call → Traced
  | .registerJob =>
    let (code, streamer) := traced.streamer.registerJob job
    ⟨streamer, if code = .registered then Function.update traced.accepted job [] else traced.accepted⟩
  | .unregisterJob => { traced with streamer := (traced.streamer.unregisterJob job).2 }
  | .publishChunk stream data beginOffset endOffset =>
    traced.published job (LogChunk.ofData stream data beginOffset endOffset).toList
      (traced.streamer.publishChunk config job stream data beginOffset endOffset)
  | .publishDropMarker stream offset droppedBytes =>
    traced.published job [.dropMarker stream offset droppedBytes]
      (traced.streamer.publishDropMarker config job stream offset droppedBytes)
  | .finishJob jobState exit => { traced with streamer := (traced.streamer.finishJob job jobState exit).2 }

/-- A streamer after the given calls. -/
def run (config : LogStreamerConfig) (calls : List (JobId × Call)) : Traced :=
  calls.foldl (fun traced (job, call) => traced.call config job call) {}

/-- Every registered channel keeps to what it has accepted. -/
def Keeps (config : LogStreamerConfig) (traced : Traced) : Prop :=
  ∀ job entry, traced.streamer.jobs.find? job = some entry → ∀ kind,
    (entry.streams.get kind).Kept config.backlogBytesPerStream ((traced.accepted job).filter (·.isData kind))

variable {config : LogStreamerConfig} {traced : Traced} {job : JobId}

theorem Keeps.insert (keeps : traced.Keeps config) (job : JobId) {entry : JobEntry} {chunks : List LogChunk}
    (own : ∀ kind, (entry.streams.get kind).Kept config.backlogBytesPerStream (chunks.filter (·.isData kind))) :
    Keeps config ⟨⟨traced.streamer.jobs.insert job entry⟩, Function.update traced.accepted job chunks⟩ := by
  intro other there found kind
  by_cases here : other = job
  · subst here
    cases (find?_insert_self ..).symm.trans found
    simpa using own kind
  · have before : traced.streamer.jobs.find? other = some there :=
      (find?_insert_of_ne _ _ here).symm.trans found
    simpa [Function.update_of_ne here] using keeps other there before kind

theorem published_keeps (keeps : traced.Keeps config) (data : chunk.kind = .data)
    (ordered : chunk.beginOffset ≤ chunk.endOffset) (made : chunk.WellMade) :
    (traced.published job [chunk] (traced.streamer.publish config job chunk)).Keeps config := by
  unfold publish
  cases found : traced.streamer.jobs.find? job with
  | none => exact keeps
  | some entry =>
    rcases @JobEntry.publish_cases config entry chunk data with ⟨_, refused, same⟩ | ⟨_, _, joins, same⟩
    · simp only [same, insert_eq_self found, published, if_neg refused]
      exact keeps
    · simp only [same, published, if_true]
      refine keeps.insert job fun kind => ?_
      have kept := keeps job entry found kind
      rw [filter_append]
      by_cases here : kind = chunk.stream
      · subst here
        have own : [chunk].filter (·.isData chunk.stream) = [chunk] := by simp [LogChunk.isData, data]
        rw [own, Streams.get_set_self]
        exact StreamState.push_kept kept ordered joins made
      · have elsewhere : [chunk].filter (·.isData kind) = [] := by simp [LogChunk.isData, Ne.symm here]
        rw [elsewhere, append_nil, Streams.get_set_of_ne here]
        exact kept

theorem call_keeps (keeps : traced.Keeps config) {call : Call} : (traced.call config job call).Keeps config := by
  cases call with
  | registerJob =>
    simp only [Traced.call, registerJob]
    split
    · exact keeps
    · split
      · exact keeps
      · exact keeps.insert job fun kind => by cases kind <;> exact kept_new _
  | unregisterJob =>
    simp only [Traced.call, unregisterJob]
    split
    · intro other entry found
      rw [find?_erase] at found
      split at found
      · cases found
      · exact keeps other entry found
    · exact keeps
  | publishChunk stream data beginOffset endOffset =>
    simp only [Traced.call, publishChunk]
    cases made : LogChunk.ofData stream data beginOffset endOffset with
    | none => exact keeps
    | some =>
      obtain ⟨rfl, length⟩ := LogChunk.ofData_eq_some made
      exact published_keeps keeps rfl (by simp only; omega) (.inl length)
  | publishDropMarker _ _ droppedBytes =>
    exact published_keeps keeps rfl le_rfl (.inr ⟨droppedBytes, rfl⟩)
  | finishJob jobState exit =>
    simp only [Traced.call, finishJob]
    cases found : traced.streamer.jobs.find? job with
    | none => exact keeps
    | some entry =>
      have same : (entry.finishJob jobState.wire exit).2.streams = entry.streams := by
        unfold JobEntry.finishJob
        split
        · rfl
        · split <;> rfl
      have kept := keeps.insert job fun kind => same.symm ▸ keeps job entry found kind
      rwa [Function.update_eq_self] at kept

theorem run_keeps {calls : List (JobId × Call)} : (run config calls).Keeps config :=
  foldlRecOn calls _ (fun _ _ found => by cases found) fun _ keeps call _ => call_keeps keeps

end Traced

variable {config : LogStreamerConfig} {streamer : LogStreamer} {job : JobId}

theorem publish_unchanged (data : chunk.kind = .data) (rejected : (streamer.publish config job chunk).1 ≠ .published) :
    (streamer.publish config job chunk).2 = streamer := by
  unfold publish at rejected ⊢
  cases found : streamer.jobs.find? job with
  | none => rfl
  | some entry =>
    rw [found] at rejected
    rcases @JobEntry.publish_cases config entry chunk data with ⟨_, _, same⟩ | ⟨_, _, _, same⟩
    · simp only [same, insert_eq_self found]
    · exact absurd (congrArg Prod.fst same) rejected

/-- What a stream keeps of the chunks it has accepted, after any calls, and what leaves it alone. -/
theorem backlog_kept (config : LogStreamerConfig) (calls : List (JobId × Call)) :
    let traced := Traced.run config calls
    (∀ job entry kind, traced.streamer.jobs.find? job = some entry →
      let state := entry.streams.get kind
      (∃ start, ChunkSpan start state.backlog state.offset) ∧ state.backlogBytes = backlogSize state.backlog ∧
        (state.backlogBytes ≤ config.backlogBytesPerStream ∨ state.backlog.length = 1) ∧
        state.backlog <:+ (traced.accepted job).filter (·.isData kind) ∧
        ∀ chunk ∈ state.backlog, chunk.WellMade) ∧
      (∀ job stream data beginOffset endOffset,
        (traced.streamer.publishChunk config job stream data beginOffset endOffset).1 ≠ .published →
          (traced.streamer.publishChunk config job stream data beginOffset endOffset).2 = traced.streamer) ∧
      (∀ job stream offset droppedBytes,
        (traced.streamer.publishDropMarker config job stream offset droppedBytes).1 ≠ .published →
          (traced.streamer.publishDropMarker config job stream offset droppedBytes).2 = traced.streamer) ∧
      ∀ job entry chunk, traced.streamer.jobs.find? job = some entry → entry.finished = true →
        (traced.streamer.publish config job chunk).1 ≠ .published := by
  refine ⟨?_, ?_, fun _ _ _ _ => publish_unchanged rfl, ?_⟩
  · intro job entry kind found
    have kept := Traced.run_keeps job entry found kind
    exact ⟨kept.spans, kept.bytes, kept.budget, kept.suffix,
      fun chunk member => kept.whole chunk (kept.suffix.subset member)⟩
  · intro _ _ _ _ _ rejected
    unfold publishChunk at rejected ⊢
    split
    · rfl
    · rename_i made
      rw [made] at rejected
      exact publish_unchanged (congrArg LogChunk.kind (LogChunk.ofData_eq_some made).1) rejected
  · intro _ entry _ found finished
    cases registered : entry.registered <;> simp [publish, found, JobEntry.publish, finished, registered]

end LogStreamer

namespace JobEntry.StreamState

/-- The backlog still has the byte at this position. -/
def holds (state : StreamState) (position : Nat) : Bool :=
  state.backlog.any fun chunk => chunk.beginOffset ≤ position && position < chunk.endOffset

/-- The bytes of a stretch that the backlog no longer has. -/
def missing (state : StreamState) (start stop : Nat) : Nat :=
  ((List.range' start (stop - start)).filter (!state.holds ·)).length

/-- Where a replay begins: at the first chunk that ends after the start. -/
theorem Kept.window {start : Nat} (kept : state.Kept budget accepted) (past : start < state.offset) :
    ∃ dropped chunk later,
      state.backlog = dropped ++ chunk :: later ∧ (∀ other ∈ dropped, other.endOffset ≤ start) ∧
      start < chunk.endOffset ∧ state.backlog.dropWhile (fun chunk => chunk.endOffset ≤ start) = chunk :: later := by
  obtain ⟨first, spans⟩ := kept.spans
  have whole : state.backlog.takeWhile (fun chunk => chunk.endOffset ≤ start) ++
      state.backlog.dropWhile (fun chunk => chunk.endOffset ≤ start) = state.backlog := takeWhile_append_dropWhile
  have early : ∀ other ∈ state.backlog.takeWhile (fun chunk => chunk.endOffset ≤ start), other.endOffset ≤ start :=
    fun other member => of_decide_eq_true (all_eq_true.mp all_takeWhile other member)
  cases left : state.backlog.dropWhile fun chunk => chunk.endOffset ≤ start with
  | nil =>
    -- the newest chunk ends at the offset, so not all of them end before
    rw [left, append_nil] at whole
    have last := spans.getLast
    cases newest : state.backlog.getLast? with
    | none =>
      have none := kept.empty (getLast?_eq_none_iff.mp newest)
      omega
    | some chunk =>
      rw [newest] at last
      have ends : chunk.endOffset = state.offset := last
      have before := early chunk (by rw [whole]; exact mem_of_getLast? newest)
      omega
  | cons chunk later =>
    have stops := head_dropWhile_not (fun chunk : LogChunk => decide (chunk.endOffset ≤ start))
      (l := state.backlog) (by simp [left])
    refine ⟨_, chunk, later, (left ▸ whole).symm, early, by simpa [left] using stops, rfl⟩

/-- A stretch of which only the front is missing. -/
theorem missing_eq {start gap stop : Nat} (within : start + gap ≤ stop)
    (gone : ∀ position, start ≤ position → position < start + gap → state.holds position = false)
    (kept : ∀ position, start + gap ≤ position → position < stop → state.holds position = true) :
    state.missing start stop = gap := by
  have parts : range' start (stop - start) =
      range' start gap ++ range' (start + gap) (stop - start - gap) := by
    rw [range'_append_1]
    congr 1
    omega
  have front : (range' start gap).filter (!state.holds ·) = range' start gap := by
    rw [filter_eq_self]
    intro position member
    obtain ⟨above, below⟩ := mem_range'_1.mp member
    simp [gone position above below]
  have back : (range' (start + gap) (stop - start - gap)).filter (!state.holds ·) = [] := by
    rw [filter_eq_nil_iff]
    intro position member
    obtain ⟨above, below⟩ := mem_range'_1.mp member
    simp [kept position above (by omega)]
  rw [missing, parts, filter_append, front, back, append_nil, length_range']

end JobEntry.StreamState

/-- A replay starts where it was asked to, or at the first byte that is left,
and goes through all of the stream from there. It is made of whole chunks: if it
is asked to start inside of one, it begins with that chunk. -/
theorem replay_covers (config : LogStreamerConfig) (calls : List (JobId × LogStreamer.Call)) (job : JobId)
    (entry : JobEntry) (found : (LogStreamer.Traced.run config calls).streamer.jobs.find? job = some entry)
    (kind : LogStreamKind) (since : Option Nat) :
    let state := entry.streams.get kind
    let plan := state.plan since
    (∀ start ∈ since, state.offset ≤ start) ∧ plan = { startOffset := state.offset } ∨
      ∃ start ∈ since, start < state.offset ∧ plan.startOffset = start + plan.gapBytes ∧
        plan.gapBytes = state.missing start state.offset ∧
        ((∀ chunk ∈ state.backlog, ¬(chunk.beginOffset < start ∧ start < chunk.endOffset)) ∧
            ChunkSpan (start + plan.gapBytes) plan.chunks state.offset ∨
          ∃ chunk ∈ state.backlog, (chunk.beginOffset < start ∧ start < chunk.endOffset) ∧ plan.gapBytes = 0 ∧
            plan.chunks.head? = some chunk ∧ ChunkSpan chunk.beginOffset plan.chunks state.offset) := by
  intro state plan
  have kept : state.Kept _ _ := LogStreamer.Traced.run_keeps job entry found kind
  cases since with
  | none => exact .inl ⟨by simp, rfl⟩
  | some start =>
    by_cases future : state.offset ≤ start
    · exact .inl ⟨fun _ asked => Option.some.inj asked ▸ future, if_pos future⟩
    · refine .inr ⟨start, rfl, Nat.lt_of_not_le future, ?_⟩
      obtain ⟨first, spans⟩ := kept.spans
      obtain ⟨dropped, chunk, later, whole, early, reaches, left⟩ := kept.window (Nat.lt_of_not_le future)
      rw [whole] at spans
      obtain ⟨middle, before, after⟩ := spans.split
      have begins : chunk.beginOffset = middle := after.1
      have planned : plan = if chunk.beginOffset > start then
          { startOffset := chunk.beginOffset, gapBytes := chunk.beginOffset - start, chunks := chunk :: later }
          else { startOffset := start, chunks := chunk :: later } := by
        show state.plan (some start) = _
        rw [StreamState.plan, if_neg (by omega), left]
      have gap : plan.gapBytes = chunk.beginOffset - start ∧ plan.chunks = chunk :: later ∧
          plan.startOffset = start + plan.gapBytes := by
        rw [planned]
        split <;> simp <;> omega
      obtain ⟨gapBytes, chunks, starts⟩ := gap
      have held : ∀ position, start ≤ position →
          (state.holds position = true ↔ chunk.beginOffset ≤ position ∧ position < state.offset) := by
        intro position above
        rw [begins, ← after.exists_holding_iff, StreamState.holds, whole]
        simp only [any_append, Bool.or_eq_true, any_eq_true, Bool.and_eq_true, decide_eq_true_eq]
        refine or_iff_right ?_
        rintro ⟨other, member, _, below⟩
        have ends := early other member
        omega
      refine ⟨starts, ?_, ?_⟩
      · refine (StreamState.missing_eq ?_ ?_ ?_).symm
        · have reach := after.le
          omega
        · intro position above below
          rw [Bool.eq_false_iff, ne_eq, held position above]
          omega
        · intro position above below
          rw [held position (by omega)]
          omega
      · rw [chunks]
        by_cases inside : chunk.beginOffset < start
        · exact .inr ⟨chunk, by rw [whole]; simp, ⟨inside, reaches⟩, by omega, rfl, begins ▸ after⟩
        · refine .inl ⟨?_, ?_⟩
          · rintro other member ⟨above, below⟩
            rw [whole] at member
            rcases mem_append.mp member with old | new
            · have ends := early other old
              omega
            · have bound := (after.bounds other new).1
              omega
          · rw [gapBytes, show start + (chunk.beginOffset - start) = middle by omega]
            exact after

/-- One chunk is published for a job. -/
def helloCalls : List (JobId × LogStreamer.Call) :=
  [(⟨1⟩, .registerJob), (⟨1⟩, .publishChunk .stdout (ByteString.ascii "hello") 0 5)]

def helloEntry : JobEntry := ((LogStreamer.Traced.run {} helloCalls).streamer.jobs.find? ⟨1⟩).getD {}

theorem replay_covers_hello :
    let state := helloEntry.streams.get .stdout
    (LogStreamer.Traced.run {} helloCalls).streamer.jobs.find? ⟨1⟩ = some helloEntry ∧
      (state.plan (some 1)).gapBytes = state.missing 1 state.offset := by
  refine ⟨by decide, ?_⟩
  rcases replay_covers {} helloCalls ⟨1⟩ helloEntry (by decide) .stdout (some 1) with
    ⟨late, _⟩ | ⟨_, asked, _, _, gap, _⟩
  · exact absurd (late 1 rfl) (by decide)
  · cases asked
    exact gap

/-- A replay from inside of a chunk sends again what comes before in it. -/
theorem replay_inside_chunk :
    let plan := (helloEntry.streams.get .stdout).plan (some 3)
    (LogStreamer.Traced.run {} helloCalls).streamer.jobs.find? ⟨1⟩ = some helloEntry ∧
      plan.startOffset = 3 ∧ plan.gapBytes = 0 ∧ plan.chunks.map (·.beginOffset) = [0] := by
  decide

end Yori
