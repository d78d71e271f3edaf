import Yori.Follow.EndOfJob

namespace Yori
open Session JobEntry List Function

variable {session : Session} {kind : LogStreamKind} {chunk : LogChunk} {count : Nat}

/-- The replay loop of one stream, by the number of chunks it may still take and the
bytes that are pending: what is pending afterwards, and what is left. A data frame has 27 bytes around its data. -/
def replaySlice (limit : Nat) : Nat → Nat → List LogChunk → Nat × List LogChunk
  | left + 1, pending, chunk :: rest =>
    if pending < limit then replaySlice limit left (pending + (27 + chunk.data.length)) rest
    else (pending, chunk :: rest)
  | _, pending, chunks => (pending, chunks)

/-- The replay of one cycle: the bytes that are pending after it, and what is left of the two plans. -/
def replayCycle (limit pending : Nat) (stdout stderr : List LogChunk) : Nat × List LogChunk × List LogChunk :=
  let (pending, stdout) := replaySlice limit replayChunksPerCycle pending stdout
  let (pending, stderr) := replaySlice limit replayChunksPerCycle pending stderr
  (pending, stdout, stderr)

/-- Every cycle that leaves chunks over fills the write buffer. A cycle that stops at the limit of chunks
does not, and the worker goes on to look at the closed topic. -/
inductive Paced (limit : Nat) : Nat → List LogChunk → List LogChunk → Prop
  | last {pending : Nat} {stdout stderr : List LogChunk}
      (done : (replayCycle limit pending stdout stderr).2 = ([], [])) : Paced limit pending stdout stderr
  | more {pending : Nat} {stdout stderr : List LogChunk} (full : limit ≤ (replayCycle limit pending stdout stderr).1)
      (rest : Paced limit 0 (replayCycle limit pending stdout stderr).2.1
        (replayCycle limit pending stdout stderr).2.2) :
      Paced limit pending stdout stderr

/-- What can be sent in one frame. -/
def LogChunk.Fits (chunk : LogChunk) : Prop :=
  chunk.beginOffset ≤ chunk.endOffset ∧ chunk.data.length ≤ IpcProtocolLimits.maxStreamDataBytes

theorem length_frameBytes (fits : chunk.Fits) :
    (frameBytes (dataFrame kind chunk)).length = 27 + chunk.data.length := by
  have data : (dataFrame kind chunk).kind = .logData := rfl
  obtain ⟨_, encoded, length⟩ := streamFrameBytes_logData data (wire_le kind) fits.1 fits.2
  rw [frameBytes, encoded]
  exact length

namespace Session

def remaining (session : Session) (kind : LogStreamKind) : List LogChunk :=
  (session.plan kind).chunks.drop (session.streams.get kind).replayIndex

theorem remaining_replayed_self (count : Nat) :
    (session.replayed kind count).remaining kind = (session.remaining kind).drop count := by
  rw [remaining, replayed_plan, replayed_get_self, remaining, drop_drop]

theorem remaining_replayed_of_ne {other : LogStreamKind} (different : other ≠ kind) :
    (session.replayed kind count).remaining other = session.remaining other := by
  rw [remaining, replayed_plan, replayed_get_of_ne different, remaining]

/-- Nothing of the buffer has been written yet. -/
def Unsent (session : Session) : Prop := session.outgoingSent = 0

theorem pendingBytes_replayed {rest : List LogChunk} (unsent : session.Unsent) (fits : chunk.Fits)
    (next : session.remaining kind = chunk :: rest) :
    (session.replayed kind 1).pendingBytes = session.pendingBytes + (27 + chunk.data.length) := by
  have window : ((session.plan kind).chunks.drop (session.streams.get kind).replayIndex).take 1 = [chunk] := by
    rw [show (session.plan kind).chunks.drop (session.streams.get kind).replayIndex = chunk :: rest from next]
    rfl
  have zero : session.outgoingSent = 0 := unsent
  have size : (frameBytes (dataFrame kind chunk)).length = 27 + chunk.data.length := length_frameBytes fits
  simp only [replayed, setStream, appendAll, pendingBytes, window, zero, map_cons, map_nil,
    flatMap_cons, flatMap_nil, append_nil, length_append, size]
  omega

/-- The loop replays a slice of what is left. -/
theorem replayStream_slice {limit left : Nat} (ready : session.Ready) (unsent : session.Unsent)
    (fits : ∀ chunk ∈ session.remaining kind, chunk.Fits) :
    ∃ count, (session.streams.get kind).replayIndex + count ≤ (session.plan kind).chunks.length ∧
      replayStream limit kind left session = session.replayed kind count ∧
      replaySlice limit left session.pendingBytes (session.remaining kind) =
        ((session.replayed kind count).pendingBytes, (session.remaining kind).drop count) := by
  induction left generalizing session with
  | zero =>
    refine ⟨0, ready.index kind, (replayed_zero kind session).symm, ?_⟩
    rw [replayed_zero, drop_zero]
    cases session.remaining kind <;> rfl
  | succ _ ih =>
    have counted := ready.count kind
    have within := ready.index kind
    cases window : session.remaining kind with
    | nil =>
      have beyond := drop_eq_nil_iff.mp window
      refine ⟨0, within, ?_, ?_⟩
      · rw [replayStream, replayed_zero]
        exact if_neg (by omega)
      · rw [replayed_zero]
        rfl
    | cons chunk rest =>
      have bound : (session.streams.get kind).replayIndex < (session.plan kind).chunks.length := by
        by_contra outside
        rw [remaining, drop_eq_nil_iff.mpr (by omega)] at window
        cases window
      have here : (session.plan kind).chunks[(session.streams.get kind).replayIndex]? = some chunk := by
        rw [remaining] at window
        rw [← head?_drop, window]
        rfl
      by_cases room : session.pendingBytes < limit
      · have one := replayed_succ 0 here
        rw [replayed_zero, Nat.zero_add] at one
        have small : chunk.Fits := fits chunk (by rw [window]; exact mem_cons_self ..)
        have next : (session.replayed kind 1).remaining kind = rest := by
          rw [remaining_replayed_self, window]
          rfl
        have first : (session.replayed kind 1).Ready := ready.replayed (by omega)
        obtain ⟨count, inside, same, slice⟩ := ih first unsent (by
          rw [next]
          exact fun other member => fits other (by rw [window]; exact mem_cons_of_mem _ member))
        have both := replayed_succ count here
        rw [one] at both
        rw [both] at same slice
        rw [replayed_get_self, replayed_plan] at inside
        rw [next, pendingBytes_replayed unsent small window] at slice
        refine ⟨count + 1, by simp only at inside; omega, ?_, ?_⟩
        · rw [replayStream]
          simp only [if_pos (And.intro (by omega : (session.streams.get kind).replayIndex <
            (session.streams.get kind).replayCount) room), here, one]
          exact same
        · rw [replaySlice, if_pos room]
          exact slice
      · refine ⟨0, within, ?_, ?_⟩
        · rw [replayStream, replayed_zero]
          exact if_neg (fun both => room both.2)
        · rw [replaySlice, if_neg room, replayed_zero, drop_zero]

/-- The replay of both streams is one cycle of the two plans. -/
theorem advanceReplay_cycle {config : LogFollowServiceConfig} (ready : session.Ready) (unsent : session.Unsent)
    (fits : ∀ kind, ∀ chunk ∈ session.remaining kind, chunk.Fits) :
    ∃ stdout stderr,
      session.advanceReplay config = (session.replayed .stdout stdout).replayed .stderr stderr ∧
      (session.advanceReplay config).Ready ∧
      replayCycle config.maxSessionBufferBytes session.pendingBytes (session.remaining .stdout)
        (session.remaining .stderr) =
        ((session.advanceReplay config).pendingBytes, (session.advanceReplay config).remaining .stdout,
          (session.advanceReplay config).remaining .stderr) := by
  obtain ⟨stdout, inside, same, slice⟩ := replayStream_slice ready
    unsent (fits .stdout)
  have ready' := ready.replayed inside
  have other : (session.replayed .stdout stdout).remaining .stderr = session.remaining .stderr :=
    remaining_replayed_of_ne (by simp)
  obtain ⟨stderr, inside', same', slice'⟩ := replayStream_slice
    ready' unsent (by rw [other]; exact fits .stderr)
  have whole : session.advanceReplay config = (session.replayed .stdout stdout).replayed .stderr stderr := by
    rw [advanceReplay, same, same']
  refine ⟨stdout, stderr, whole, by rw [whole]; exact ready'.replayed inside', ?_⟩
  have out : ((session.replayed .stdout stdout).replayed .stderr stderr).remaining .stdout =
      (session.remaining .stdout).drop stdout := by
    rw [remaining_replayed_of_ne (by simp), remaining_replayed_self]
  have err : ((session.replayed .stdout stdout).replayed .stderr stderr).remaining .stderr =
      (session.remaining .stderr).drop stderr := by
    rw [remaining_replayed_self, other]
  rw [other] at slice'
  rw [whole, out, err, replayCycle, slice]
  simp only [slice']

theorem flushed_unsent (unsent : session.Unsent) :
    ∃ written, session.flushed = { session with outgoing := [], outgoingSent := 0, written } := by
  have zero : session.outgoingSent = 0 := unsent
  by_cases none : session.pendingBytes = 0
  · rw [pendingBytes, zero] at none
    have empty : session.outgoing = [] := length_eq_zero_iff.mp (by omega)
    refine ⟨session.written, ?_⟩
    have quiet : session.pendingBytes = 0 := by rw [pendingBytes, empty]; exact Nat.zero_sub _
    rw [flushed, if_pos quiet, ← empty, ← zero]
  · refine ⟨session.written ++ session.outgoing.drop session.outgoingSent, ?_⟩
    have all : session.outgoingSent + session.pendingBytes = session.outgoing.length := by
      rw [pendingBytes, zero]
      omega
    rw [flushed, if_neg none]
    simp only [all, if_true]

end Session

namespace Follow

variable {config : FollowConfig} {follow final : Follow}

/-- What the worker does next for a session, when the socket takes every write. -/
def workerStep (follow : Follow) : FollowStep :=
  match follow.phase with
  | .flushing => .write true
  | _ => .advance

def serve (config : FollowConfig) (follow : Follow) : Follow := follow.step config follow.workerStep

/-- The state in which the worker leaves the session at last. -/
def EndsAs (config : FollowConfig) (follow final : Follow) : Prop :=
  ∃ count, (serve config)^[count] follow = final ∧ final.Gone

theorem serve_gone (gone : follow.Gone) : serve config follow = follow := by
  obtain ⟨_, phase⟩ := gone
  rw [serve, workerStep, phase]
  simp only [step, advance, phase]

theorem iterate_gone (gone : follow.Gone) : (serve config)^[count] follow = follow := by
  induction count with
  | zero => rfl
  | succ _ ih => rw [iterate_succ_apply, serve_gone gone, ih]

/-- A session ends in one way only. -/
theorem EndsAs.unique {other : Follow} (first : EndsAs config follow final) (second : EndsAs config follow other) :
    final = other := by
  obtain ⟨count, same, gone⟩ := first
  obtain ⟨count', same', gone'⟩ := second
  calc final = (serve config)^[count'] final := (iterate_gone gone).symm
    _ = (serve config)^[count' + count] follow := by rw [iterate_add_apply, same]
    _ = (serve config)^[count] other := by rw [Nat.add_comm, iterate_add_apply, same']
    _ = other := iterate_gone gone'

/-- A session on a finished job at the beginning of a cycle. -/
structure Awaiting (follow : Follow) : Prop where
  idle : follow.phase = .idle
  open' : follow.session.closing = false
  finished : follow.session.jobFinished = true
  closed : follow.session.subscription.closed = true
  empty : follow.session.subscription.queue = []
  eofQueued : follow.session.eofQueued = false
  backpressure : follow.session.backpressure = false
  unsent : follow.session.Unsent
  ready : follow.session.Ready
  state : ∃ state : JobState, follow.session.jobState = state.wire
  fits : ∀ kind, ∀ chunk ∈ (follow.session.plan kind).chunks, chunk.Fits
  unended : ∀ frame ∈ follow.session.frames, frame.kind ≠ .logEof

/-- What a cycle does before it looks at the topic, as one session. -/
def cycled (config : FollowConfig) (follow : Follow) : Session := follow.session.advanceReplay config.service

theorem Awaiting.replayed (config : FollowConfig) (awaiting : follow.Awaiting) :
    let session := follow.cycled config
    (∃ stdout stderr, session = (follow.session.replayed .stdout stdout).replayed .stderr stderr) ∧ session.Ready ∧
      replayCycle config.service.maxSessionBufferBytes follow.session.pendingBytes (follow.remaining .stdout)
          (follow.remaining .stderr) =
        (session.pendingBytes, session.remaining .stdout, session.remaining .stderr) := by
  obtain ⟨stdout, stderr, same, ready, cycle⟩ := advanceReplay_cycle awaiting.ready awaiting.unsent
    fun kind chunk member => awaiting.fits kind chunk (mem_of_mem_drop member)
  exact ⟨⟨stdout, stderr, same⟩, ready, cycle⟩

theorem allReplayDone_iff :
    session.allReplayDone = true ↔ session.remaining .stdout = [] ∧ session.remaining .stderr = [] := by
  simp [Session.allReplayDone, Session.replayDone, Session.remaining]

theorem write_flushing (unsent : session.Unsent) {entry : JobEntry} :
    ∃ written,
      (⟨entry, session, .flushing⟩ : Follow).write true =
        if session.closing then
          (⟨entry, { session with outgoing := [], outgoingSent := 0, written }, .flushing⟩ : Follow).retire
            (if session.backpressure then .backpressure else .completed)
        else ⟨entry, { session with outgoing := [], outgoingSent := 0, written }, .idle⟩ := by
  obtain ⟨written, same⟩ := flushed_unsent unsent
  refine ⟨written, ?_⟩
  simp only [write, Bool.not_true, Bool.and_false, Bool.false_eq_true, if_false, same, pendingBytes]
  cases session.closing <;> rfl

section

variable (awaiting : follow.Awaiting)
include awaiting

/-- The replay of a cycle touches the buffer and the two counts only. -/
theorem Awaiting.kept (config : FollowConfig) : ∃ outgoing streams frames,
    follow.cycled config = { follow.session with outgoing, streams, frames } := by
  obtain ⟨⟨_, _, same⟩, _⟩ := awaiting.replayed config
  exact ⟨_, _, _, same⟩

theorem Awaiting.serve_eq (config : FollowConfig) :
    serve config follow =
      if (follow.cycled config).allReplayDone then ⟨follow.entry, (follow.cycled config).queueEof, .flushing⟩
      else ⟨follow.entry, follow.cycled config, .draining 0⟩ := by
  obtain ⟨_, _, _, same⟩ := awaiting.kept config
  have finished : (follow.session.advanceReplay config.service).jobFinished = true :=
    (congrArg jobFinished same).trans awaiting.finished
  rw [serve, workerStep, awaiting.idle]
  simp only [step, advance, awaiting.idle, awaiting.open', finished, Bool.true_and, Bool.false_eq_true, if_false]
  rfl

/-- A cycle that completes the replay sends the end and closes the session. -/
theorem Awaiting.concludes
    (done : (follow.cycled config).allReplayDone = true) :
    ∃ final, (serve config)^[2] follow = final ∧ final.phase = .gone .completed ∧
      final.session.frames = (follow.cycled config).frames ++
        [eofFrame follow.session.jobState follow.session.exit] := by
  obtain ⟨outgoing, streams, frames, same⟩ := awaiting.kept config
  have first := awaiting.serve_eq config
  rw [if_pos done, queueEof_eq (by rw [same]; exact awaiting.eofQueued)] at first
  obtain ⟨jobState, state⟩ := awaiting.state
  have pressed := awaiting.backpressure
  generalize follow.cycled config = session at same first
  subst same
  have unsent : (({ follow.session with outgoing, streams, frames, eofQueued := true, closing := true } :
    Session).appendAll [eofFrame follow.session.jobState follow.session.exit]).Unsent := awaiting.unsent
  obtain ⟨_, flushed⟩ := write_flushing unsent
  refine ⟨_, rfl, ?_, ?_⟩
  · rw [iterate_succ_apply, first]
    show ((⟨follow.entry, _, .flushing⟩ : Follow).write true).phase = _
    rw [flushed]
    simp only [appendAll, if_true, pressed]
    rfl
  · rw [iterate_succ_apply, first]
    show ((⟨follow.entry, _, .flushing⟩ : Follow).write true).session.frames = _
    rw [flushed]
    simp only [appendAll, if_true, retire, setSubscription, state,
      filter_cons_of_pos (encodable_eofFrame jobState follow.session.exit), filter_nil]

/-- A cycle that leaves chunks over with room in the buffer drops the session. -/
theorem Awaiting.drops (valid : config.service.valid = true)
    (left : (follow.cycled config).allReplayDone = false)
    (room : (follow.cycled config).pendingBytes < config.service.maxSessionBufferBytes) :
    ∃ final, (serve config)^[4] follow = final ∧ final.Gone ∧
      final.session.frames = (follow.cycled config).frames := by
  obtain ⟨outgoing, streams, frames, same⟩ := awaiting.kept config
  have first := awaiting.serve_eq config
  rw [if_neg (by rw [left]; simp)] at first
  have drains : 0 < config.service.maxDrainChunksPerCycle := by
    have both := valid
    simp only [LogFollowServiceConfig.valid, Bool.and_eq_true, bne_iff_ne, ne_eq] at both
    omega
  generalize follow.cycled config = session at same first room
  have empty : session.subscription.tryReceive = none := by
    rw [Subscription.tryReceive, show session.subscription.queue = [] by rw [same]; exact awaiting.empty]
  have shut : session.subscription.closed = true := by rw [same]; exact awaiting.closed
  have unended : session.eofQueued = false := by rw [same]; exact awaiting.eofQueued
  have unsent : ({ session with closing := true } : Session).Unsent := by
    rw [same]
    exact awaiting.unsent
  have second : serve config ⟨follow.entry, session, .draining 0⟩ = ⟨follow.entry, session, .emptied⟩ := by
    simp only [serve, workerStep, step, advance, if_pos (And.intro drains room), empty]
  have third : serve config ⟨follow.entry, session, .emptied⟩ =
      ⟨follow.entry, { session with closing := true }, .flushing⟩ := by
    simp only [serve, workerStep, step, advance, shut, unended, Bool.not_false, Bool.and_self, if_true]
  obtain ⟨_, flushed⟩ := write_flushing unsent
  have fourth : (serve config)^[4] follow =
      (⟨follow.entry, { session with closing := true }, .flushing⟩ : Follow).write true := by
    rw [iterate_succ_apply, iterate_succ_apply, iterate_succ_apply, first, second, third]
    rfl
  rw [fourth, flushed]
  simp only [if_true]
  exact ⟨_, rfl, ⟨_, rfl⟩, rfl⟩

/-- A cycle that fills the buffer goes on after a flush. -/
theorem Awaiting.goes_on
    (left : (follow.cycled config).allReplayDone = false)
    (full : config.service.maxSessionBufferBytes ≤ (follow.cycled config).pendingBytes) :
    ∃ written, (serve config)^[3] follow =
      ⟨follow.entry, { follow.cycled config with outgoing := [], outgoingSent := 0, written }, .idle⟩ := by
  obtain ⟨_, _, _, same⟩ := awaiting.kept config
  have first := awaiting.serve_eq config
  rw [if_neg (by rw [left]; simp)] at first
  generalize follow.cycled config = session at same first full
  have unsent : session.Unsent := by
    rw [same]
    exact awaiting.unsent
  have open' : session.closing = false := by rw [same]; exact awaiting.open'
  have second : serve config ⟨follow.entry, session, .draining 0⟩ = ⟨follow.entry, session, .flushing⟩ := by
    simp only [serve, workerStep, step, advance, if_neg (fun both : _ ∧ _ => absurd both.2 (Nat.not_lt.mpr full))]
  obtain ⟨written, flushed⟩ := write_flushing unsent
  refine ⟨written, ?_⟩
  have third : (serve config)^[3] follow = (⟨follow.entry, session, .flushing⟩ : Follow).write true := by
    rw [iterate_succ_apply, iterate_succ_apply, first, second]
    rfl
  rw [third, flushed, if_neg (by rw [open']; simp)]

/-- A cycle moves frames from what is left to what was queued, and queues nothing but data. -/
theorem Awaiting.frames (config : FollowConfig) :
    (∀ kind, (follow.cycled config).frames.filter (IpcStreamFrame.isData kind) ++
        ((follow.cycled config).remaining kind).map (dataFrame kind) =
      follow.dataFrames kind ++ (follow.remaining kind).map (dataFrame kind)) ∧
    ∀ frame ∈ (follow.cycled config).frames, frame.kind ≠ .logEof := by
  obtain ⟨⟨stdout, stderr, same⟩, _⟩ := awaiting.replayed config
  rw [same]
  constructor
  · intro kind
    have encodes : (((follow.remaining kind).take ((⟨stdout, stderr⟩ : Streams Nat).get kind)).map
        (dataFrame kind)).filter encodable =
        ((follow.remaining kind).take ((⟨stdout, stderr⟩ : Streams Nat).get kind)).map (dataFrame kind) := by
      rw [filter_eq_self]
      intro _ member
      obtain ⟨chunk, inside, rfl⟩ := mem_map.mp member
      have fits := awaiting.fits kind chunk (mem_of_mem_drop (mem_of_mem_take inside))
      exact encodable_dataFrame fits.1 fits.2
    have left : ((follow.session.replayed .stdout stdout).replayed .stderr stderr).remaining kind =
        (follow.remaining kind).drop ((⟨stdout, stderr⟩ : Streams Nat).get kind) := by
      rw [Session.remaining, replays_get follow.session ⟨stdout, stderr⟩ kind, Follow.remaining, drop_drop]
      rfl
    have sent := replays_frames follow.session ⟨stdout, stderr⟩ kind
    rw [left]
    refine (congrArg (· ++ _) sent).trans ?_
    show _ ++ (((follow.remaining kind).take _).map _).filter encodable ++ _ = _
    rw [encodes, append_assoc, ← map_append, take_append_drop]
    rfl
  · intro frame member
    have parts : frame ∈ follow.session.frames ∨ frame.kind = .logData := by
      simp only [Session.replayed, Session.setStream, Session.appendAll] at member
      rcases mem_append.mp member with first | second
      · rcases mem_append.mp first with old | new
        · exact Or.inl old
        · exact Or.inr (kind_of_mem_dataFrames new)
      · exact Or.inr (kind_of_mem_dataFrames second)
    rcases parts with old | data
    · exact awaiting.unended frame old
    · rw [data]
      simp

/-- After a flush the session waits for its next cycle. -/
theorem Awaiting.again (config : FollowConfig) (written : ByteString) :
    Awaiting ⟨follow.entry,
      { follow.cycled config with outgoing := [], outgoingSent := 0, written }, .idle⟩ := by
  have unended := (awaiting.frames config).2
  obtain ⟨_, ready, _⟩ := awaiting.replayed config
  obtain ⟨_, _, _, same⟩ := awaiting.kept config
  generalize follow.cycled config = session at same unended ready
  subst same
  exact ⟨rfl, awaiting.open', awaiting.finished, awaiting.closed, awaiting.empty, awaiting.eofQueued,
    awaiting.backpressure, rfl, ⟨ready.count, ready.index⟩, awaiting.state, awaiting.fits, unended⟩

/-- The client has the whole replay, then one end, and the session is closed. -/
structure Served (follow final : Follow) : Prop where
  completed : final.phase = .gone .completed
  data : ∀ kind, final.dataFrames kind = follow.dataFrames kind ++ (follow.remaining kind).map (Session.dataFrame kind)
  ended : ∃ before, final.session.frames = before ++ [Session.eofFrame follow.session.jobState follow.session.exit] ∧
    ∀ frame ∈ before, frame.kind ≠ .logEof

theorem Awaiting.served_of_done
    (done : (follow.cycled config).allReplayDone = true) :
    ∃ final, EndsAs config follow final ∧ Served follow final := by
  obtain ⟨final, reached, completed, frames⟩ := awaiting.concludes done
  obtain ⟨data, unended⟩ := awaiting.frames config
  obtain ⟨stdout, stderr⟩ := allReplayDone_iff.mp done
  refine ⟨final, ⟨2, reached, .completed, completed⟩, completed, fun kind => ?_, _, frames, unended⟩
  have all : (follow.cycled config).remaining kind = [] := by
    cases kind
    · exact stdout
    · exact stderr
  have sent := data kind
  rw [all, map_nil, append_nil] at sent
  rw [← sent, dataFrames, frames, filter_append]
  simp [IpcStreamFrame.isData, eofFrame]

theorem Awaiting.served_of_paced {pending : Nat} {stdout stderr : List LogChunk}
    (paced : Paced config.service.maxSessionBufferBytes pending stdout stderr)
    (bytes : follow.session.pendingBytes = pending) (out : follow.remaining .stdout = stdout)
    (err : follow.remaining .stderr = stderr) : ∃ final, EndsAs config follow final ∧ Served follow final := by
  induction paced generalizing follow with
  | last done =>
    obtain ⟨_, _, cycle⟩ := awaiting.replayed config
    rw [bytes, out, err] at cycle
    rw [cycle] at done
    exact awaiting.served_of_done (allReplayDone_iff.mpr (by simpa using done))
  | more full _ ih =>
    obtain ⟨_, _, cycle⟩ := awaiting.replayed config
    rw [bytes, out, err] at cycle
    rw [cycle] at full ih
    cases done : (follow.cycled config).allReplayDone with
    | true => exact awaiting.served_of_done done
    | false =>
      obtain ⟨written, reached⟩ := awaiting.goes_on done full
      obtain ⟨final, ⟨count, ends, gone⟩, served⟩ := ih (awaiting.again config written) rfl rfl rfl
      obtain ⟨_, _, frames, same⟩ := awaiting.kept config
      refine ⟨final, ⟨count + 3, ?_, gone⟩, served.completed, fun kind => ?_, ?_⟩
      · rw [iterate_add_apply, reached]
        exact ends
      · rw [served.data kind]
        exact (awaiting.frames config).1 kind
      · have ended := served.ended
        rw [same] at ended
        exact ended

/-- A session that is sent its end has filled the buffer in every cycle before the last. -/
theorem Awaiting.paced_of_ended (valid : config.service.valid = true) (count : Nat)
    (ends : ((serve config)^[count] follow).Gone) (sent : ((serve config)^[count] follow).sentEnd = true) :
    Paced config.service.maxSessionBufferBytes follow.session.pendingBytes (follow.remaining .stdout)
      (follow.remaining .stderr) := by
  induction count using Nat.strong_induction_on generalizing follow with
  | _ count ih =>
    obtain ⟨_, _, cycle⟩ := awaiting.replayed config
    cases done : (follow.cycled config).allReplayDone with
    | true =>
      obtain ⟨out, err⟩ := allReplayDone_iff.mp done
      refine .last ?_
      rw [cycle, out, err]
    | false =>
      by_cases room : (follow.cycled config).pendingBytes < config.service.maxSessionBufferBytes
      · -- The session is dropped, and what ended without an end cannot end with one.
        obtain ⟨final, reached, gone, frames⟩ := awaiting.drops valid done room
        have same : (serve config)^[count] follow = final :=
          EndsAs.unique ⟨count, rfl, ends⟩ ⟨4, reached, gone⟩
        rw [same, sentEnd, frames] at sent
        obtain ⟨frame, member, eof⟩ := any_eq_true.mp sent
        exact absurd (beq_iff_eq.mp eof) ((awaiting.frames config).2 frame member)
      · obtain ⟨written, reached⟩ := awaiting.goes_on done (Nat.not_lt.mp room)
        have long : 3 ≤ count := by
          by_contra short
          have same : (serve config)^[3] follow = (serve config)^[count] follow := by
            rw [show 3 = (3 - count) + count by omega, iterate_add_apply, iterate_gone ends]
          rw [← same, reached] at ends
          obtain ⟨_, phase⟩ := ends
          cases phase
        have split : (serve config)^[count] follow = (serve config)^[count - 3] ((serve config)^[3] follow) := by
          rw [← iterate_add_apply, Nat.sub_add_cancel long]
        rw [split, reached] at ends sent
        have later := ih (count - 3) (by omega) (awaiting.again config written) ends sent
        refine .more ?_ ?_
        · rw [cycle]
          exact Nat.not_lt.mp room
        · rw [cycle]
          exact later

end

theorem Opened.awaiting {history : List PublisherStep} {sessions : Nat} {since : Streams (Option Nat)}
    (opened : Opened config.streamer { after config.streamer history with sessions } since follow)
    (finished : (after config.streamer history).finished = true)
    (closed : (after config.streamer history).topicClosed = true)
    (fits : ∀ step ∈ history, step.fitsFrame = true) : follow.Awaiting where
  idle := opened.phase
  open' := opened.closing
  finished := opened.jobFinished.trans finished
  closed := by
    rw [opened.subscription]
    exact closed
  empty := by rw [opened.subscription]
  eofQueued := opened.eofQueued
  backpressure := opened.backpressure
  unsent := opened.outgoingSent
  ready := by
    constructor
    · intro _
      rw [opened.progress]
    · intro _
      rw [opened.progress]
      exact Nat.zero_le _
  state := by
    have sound : (after config.streamer history).Sound := after_sound history
    rw [opened.jobState]
    exact sound.jobState
  fits kind chunk member := by
    have sound : (after config.streamer history).Sound := after_sound history
    have small : (after config.streamer history).Fits := after_fits fits
    rw [opened.plans kind] at member
    obtain ⟨_, _, _, spans⟩ := StreamState.plan_spans (sound.streams kind) (since.get kind)
    exact ⟨spans.ordered chunk member, small kind chunk (StreamState.plan_subset _ _ member)⟩
  unended frame member := by
    rw [opened.frames frame member]
    simp

/-- A session on a finished job gets the whole replay and then its end exactly if every cycle that leaves chunks over
fills the write buffer. -/
theorem finished_replayed_iff {totalSessions sessions : Nat} {version jobState : UInt8} {history : List PublisherStep}
    {since : Streams (Option Nat)}
    (begun : beginStream config.streamer totalSessions version jobState
      { JobEntry.after config.streamer history with sessions } since.stdout since.stderr = .ok follow)
    (finished : (JobEntry.after config.streamer history).finished = true)
    (closed : (JobEntry.after config.streamer history).topicClosed = true)
    (fits : ∀ step ∈ history, step.fitsFrame = true) (valid : config.service.valid = true) :
    (∃ final, EndsAs config follow final ∧ final.phase = .gone .completed ∧
        (∀ kind, final.dataFrames kind = (follow.session.plan kind).chunks.map (Session.dataFrame kind)) ∧
        ∃ before, final.session.frames = before ++ [Session.eofFrame (JobEntry.after config.streamer history).jobState
            (JobEntry.after config.streamer history).exit] ∧
          ∀ frame ∈ before, frame.kind ≠ .logEof) ↔
      Paced config.service.maxSessionBufferBytes follow.session.pendingBytes (follow.session.plan .stdout).chunks
        (follow.session.plan .stderr).chunks := by
  have opened := beginStream_opened begun
  have awaiting : follow.Awaiting := opened.awaiting finished closed fits
  have left : ∀ kind, follow.remaining kind = (follow.session.plan kind).chunks := by
    intro _
    rw [remaining, opened.progress]
    rfl
  constructor
  · rintro ⟨final, ⟨count, reached, gone⟩, _, _, _, frames, _⟩
    have sent : final.sentEnd = true := by
      rw [sentEnd, frames]
      simp [eofFrame]
    rw [← reached] at gone sent
    rw [← left .stdout, ← left .stderr]
    exact awaiting.paced_of_ended valid count gone sent
  · intro paced
    obtain ⟨final, ends, served⟩ := awaiting.served_of_paced paced rfl (left .stdout) (left .stderr)
    refine ⟨final, ends, served.completed, fun kind => ?_, ?_⟩
    · rw [served.data kind, opened.dataFrames, left]
      rfl
    · have ended := served.ended
      rw [opened.jobState, opened.exit] at ended
      exact ended

/-- A finished job that wrote single bytes. -/
def singleBytes (count : Nat) : List PublisherStep :=
  (List.range count).map (fun offset => .publishChunk .stdout [65] offset (offset + 1)) ++
    [.finishJob .finished none, .closeTopic]

theorem finished_replayed_two :
    ∃ follow, beginStream {} 0 4 5 { JobEntry.after {} (singleBytes 2) with sessions := 0 } (some 0) none = .ok follow ∧
      ∃ final, EndsAs {} follow final ∧ final.phase = .gone .completed := by
  refine ⟨_, rfl, ?_⟩
  obtain ⟨final, ends, completed, _⟩ := (@finished_replayed_iff {} _ 0 0 4 5 (singleBytes 2) ⟨some 0, none⟩ rfl rfl rfl
    (by decide +kernel) rfl).mpr (.last (by decide +kernel))
  exact ⟨final, ends, completed⟩

/-- Of seventeen chunks one is left after the first cycle. The session is closed without it, and without an end. -/
theorem finished_cut_off :
    ∃ follow, beginStream {} 0 4 5 (JobEntry.after {} (singleBytes 17)) (some 0) none = .ok follow ∧
      ((serve {})^[4] follow).phase = .gone .completed ∧ (((serve {})^[4] follow).dataFrames .stdout).length = 16 ∧
      ((serve {})^[4] follow).sentEnd = false := by
  refine ⟨_, rfl, ?_, ?_, ?_⟩ <;> decide +kernel

end Follow

end Yori
