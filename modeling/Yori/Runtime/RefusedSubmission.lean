import Yori.Runtime.Channel
import Yori.Runtime.SubmitCall

namespace Yori
open MachineWord MutationCore JobManager List InMemoryStateStore

variable {outcome : JobSubmitOutcome}

namespace JobManager

variable {σ : Type} {store : StateStore σ} {limits : ValidationConfig} {content : σ → StoreState}
  {config : JobManagerConfig} {id : JobId} {manager : JobManager σ}

/-- The submissions in a channel. -/
def submits (commands : List Command) : List JobSpec :=
  commands.filterMap fun
    | .submit spec => some spec
    | .cancel _ | .wake _ => none

theorem submits_append (first second : List Command) : submits (first ++ second) = submits first ++ submits second :=
  filterMap_append

theorem submits_wakes {wakes : List SchedulerTrigger} : submits (wakes.map .wake) = [] := by
  rw [submits, filterMap_map]
  exact filterMap_eq_nil_iff.mpr fun _ _ => rfl

/-- Neither a submission enters or leaves the channel, nor is the channel emptied. -/
def Step.keepsSubmits (manager : JobManager σ) : Step → Prop
  | .post (.submit _) | .stop => False
  | .command _ => ∀ spec rest, manager.commands ≠ .submit spec :: rest
  | _ => True

section Faithful

variable (faithful : Faithful limits store content)
include faithful

theorem step_submits {step : Step} (inv : StoreInvariant limits (content manager.backend))
    (keeps : step.keepsSubmits manager) :
    submits (manager.step config store step).commands = submits manager.commands := by
  cases running : manager.running with
  | false => rw [step_of_stopped running]
  | true =>
    cases step_channel faithful config step inv running with
    | kept _ _ same => rw [same, submits_append, submits_wakes, append_nil]
    | taken _ command rest _ handled was same =>
      subst handled
      rw [same, submits_append, submits_wakes, append_nil, was]
      cases command with
      | submit spec => exact absurd was (keeps spec rest)
      | cancel | wake => rfl
    | posted request handled same =>
      subst handled
      rw [same, submits_append]
      cases request with
      | submit => exact keeps.elim
      | cancel => exact append_nil _
    | emptied handled =>
      subst handled
      exact keeps.elim

end Faithful

end JobManager

namespace SubmitCall

/-- The caller has come back without a job. -/
def Refused (call : SubmitCall) : Prop := ∃ outcome, call.phase = .returned outcome ∧ outcome.code ≠ .submitted

end SubmitCall

/-- Where the command of a call is. -/
inductive CommandPlace
  | outside | channel | received | created (record : StoredJob)

/-- The ways of a call from its check to its answer. A caller may have gone before its command is received,
but not after its job was stored. `made` are the jobs that were stored for the call. -/
inductive Course (jobs : JobTable) (made : JobId → Prop) (call : SubmitCall) : CommandPlace → Prop
  | unsent (early : call.phase = .checked ∨ call.Refused) (silent : call.ack = none) (nothing : ∀ id, ¬made id) :
      Course jobs made call .outside
  | sent {place : CommandPlace} (underway : place = .channel ∨ place = .received)
      (sent : call.phase = .waiting ∨ call.Refused) (silent : call.ack = none) (nothing : ∀ id, ¬made id) :
      Course jobs made call place
  | created (snapshot : StateSnapshot) (waits : call.phase = .waiting) (silent : call.ack = none)
      (only : ∀ id, made id → id = (submissionRecord snapshot call.spec).id)
      (row : jobs.find? (submissionRecord snapshot call.spec).id = some (submissionRecord snapshot call.spec)) :
      Course jobs made call (.created (submissionRecord snapshot call.spec))
  | submitted (id : JobId) (answered : call.ack = some { code := .submitted, jobId := id.value })
      (told : call.phase = .waiting ∨ call.phase = .returned { code := .submitted, jobId := id.value })
      (stored : ∃ record, jobs.find? id = some record ∧ record.spec = call.spec) : Course jobs made call .outside
  | refused (answer : JobSubmitOutcome) (answered : call.ack = some answer) (code : answer.code ≠ .submitted)
      (told : call.phase = .waiting ∨ call.Refused)
      (settled : ∀ id, made id → ∃ record, jobs.find? id = some record ∧ record.state.isTerminal = true) :
      Course jobs made call .outside

namespace Course

variable {jobs later : JobTable} {made : JobId → Prop} {call : SubmitCall} {place : CommandPlace}

section

variable (course : Course jobs made call place)
include course

/-- Later writes leave the course of a call as it is, unless they come between its job and its answer. -/
theorem carry (kept : Kept jobs later)
    (same : ∀ record, place = .created record → later = jobs) : Course later made call place := by
  cases course with
  | unsent early silent nothing => exact .unsent early silent nothing
  | sent underway sent silent nothing => exact .sent underway sent silent nothing
  | created snapshot waits silent only row =>
    rw [same _ rfl]
    exact .created snapshot waits silent only row
  | submitted id answered told stored =>
    obtain ⟨record, found, spec⟩ := stored
    obtain ⟨still, atStill, sameSpec, _⟩ := kept id record found
    exact .submitted id answered told ⟨still, atStill, sameSpec.trans spec⟩
  | refused answer answered code told settled =>
    refine .refused answer answered code told ?_
    intro id own
    obtain ⟨record, found, terminal⟩ := settled id own
    obtain ⟨still, atStill, _, frozen⟩ := kept id record found
    exact ⟨still, atStill, by rw [frozen terminal, terminal]⟩

theorem of_checked (checked : call.phase = .checked) :
    place = .outside ∧ call.ack = none ∧ ∀ id, ¬made id := by
  have unsent : ¬(call.phase = .waiting ∨ call.Refused) := by
    rintro (waiting | ⟨_, back, _⟩)
    · cases checked.symm.trans waiting
    · cases checked.symm.trans back
  cases course with
  | unsent _ silent nothing => exact ⟨rfl, silent, nothing⟩
  | sent _ sent | refused _ _ _ sent => exact absurd sent unsent
  | created _ waits => cases checked.symm.trans waits
  | submitted _ _ told =>
    rcases told with waiting | told
    · cases checked.symm.trans waiting
    · cases checked.symm.trans told

/-- A caller may give up as long as its job is not stored. -/
theorem giveUp (silent : call.ack = none) (early : ∀ record, place ≠ .created record)
    (code : outcome.code ≠ .submitted) : Course jobs made { call with phase := .returned outcome } place := by
  have gone : SubmitCall.Refused { call with phase := .returned outcome } := ⟨outcome, rfl, code⟩
  cases course with
  | unsent _ silent nothing => exact .unsent (.inr gone) silent nothing
  | sent underway _ silent nothing => exact .sent underway (.inr gone) silent nothing
  | created => exact absurd rfl (early _)
  | submitted _ answered | refused _ answered => cases silent.symm.trans answered

theorem collect (answered : call.ack = some outcome) :
    Course jobs made { call with phase := .returned outcome } place := by
  cases course with
  | unsent _ silent _ | sent _ _ silent _ | created _ _ silent => cases silent.symm.trans answered
  | submitted id atAnswer _ stored =>
    cases answered.symm.trans atAnswer
    exact .submitted id atAnswer (.inr rfl) stored
  | refused _ atAnswer code _ settled =>
    cases answered.symm.trans atAnswer
    exact .refused outcome atAnswer code (.inr ⟨outcome, rfl, code⟩) settled

end

theorem refuse (course : Course jobs made call .received) {answer : JobSubmitOutcome}
    (code : answer.code ≠ .submitted) : Course later made { call with ack := some answer } .outside := by
  cases course with
  | sent _ sent _ nothing => exact .refused answer rfl code sent fun id own => absurd own (nothing id)

/-- What a caller that is back can rely on. -/
theorem settled (course : Course jobs made call place) (back : call.phase = .returned outcome) :
    (outcome.code ≠ .submitted → ∀ id, made id → ∃ record, jobs.find? id = some record ∧
      record.state.isTerminal = true) ∧
    (outcome.code = .submitted → ∃ record, jobs.find? ⟨outcome.jobId⟩ = some record ∧ record.spec = call.spec) := by
  have unsubmitted : call.phase = .waiting ∨ call.Refused → outcome.code ≠ .submitted := by
    rintro (waiting | ⟨_, atOther, code⟩)
    · cases back.symm.trans waiting
    · cases back.symm.trans atOther
      exact code
  cases course with
  | unsent early _ nothing =>
    refine ⟨fun _ id own => absurd own (nothing id), fun submitted => ?_⟩
    rcases early with checked | refused
    · cases back.symm.trans checked
    · exact absurd submitted (unsubmitted (.inr refused))
  | sent _ sent _ nothing =>
    exact ⟨fun _ id own => absurd own (nothing id), fun submitted => absurd submitted (unsubmitted sent)⟩
  | created _ waits => cases back.symm.trans waits
  | submitted _ _ told stored =>
    rcases told with waiting | told
    · cases back.symm.trans waiting
    · cases back.symm.trans told
      exact ⟨fun other => absurd rfl other, fun _ => stored⟩
  | refused _ _ _ told settled => exact ⟨fun _ => settled, fun submitted => absurd submitted (unsubmitted told)⟩

end Course

namespace Submissions

variable {σ : Type} {store : StateStore σ} {limits : ValidationConfig} {content : σ → StoreState}
  {config : JobManagerConfig} {state next : Submissions σ} {call : Nat} {entry : SubmitCall} {manager : JobManager σ}
  {spec : JobSpec} {revision : UInt64}

/-- The call whose submission the worker has in its hands. -/
def inHand (state : Submissions σ) : Option Nat :=
  match state.phase with
  | .idle => none
  | .received call _ | .created call _ _ => some call

def place (state : Submissions σ) (call : Nat) : CommandPlace :=
  if call ∈ state.pending then .channel
  else match state.phase with
    | .idle => .outside
    | .received other _ => if other = call then .received else .outside
    | .created other record _ => if other = call then .created record else .outside

def specOf (state : Submissions σ) (call : Nat) : Option JobSpec := state.calls[call]?.map (·.spec)

def made (state : Submissions σ) (call : Nat) (id : JobId) : Prop := (call, id) ∈ state.created

/-- What holds in every state. -/
structure Sound (limits : ValidationConfig) (content : σ → StoreState) (state : Submissions σ) : Prop where
  grounded : JobManager.Grounded limits content state.manager
  channel : state.pending.map state.specOf = (JobManager.submits state.manager.commands).map some
  distinct : (state.inHand.toList ++ state.pending).Nodup
  received : ∀ call spec, state.phase = .received call spec → state.specOf call = some spec
  revision : ∀ call record revision, state.phase = .created call record revision →
    state.calls[call]?.isSome = true ∧ revision = (content state.manager.backend).revision
  known : ∀ call id, state.made call id → state.calls[call]?.isSome = true
  course : ∀ call entry, state.calls[call]? = some entry →
    Course (content state.manager.backend).jobs (state.made call) entry (state.place call)

section Places

variable {record : StoredJob}

theorem place_channel (member : call ∈ state.pending) : state.place call = .channel := if_pos member

theorem place_congr (pending : call ∈ next.pending ↔ call ∈ state.pending) (phase : next.phase = state.phase) :
    next.place call = state.place call := by
  unfold place
  rw [phase]
  by_cases member : call ∈ state.pending
  · rw [if_pos member, if_pos (pending.mpr member)]
  · rw [if_neg member, if_neg (fun there => member (pending.mp there))]

/-- A command that is neither in the channel nor in the worker's hands is nowhere. -/
theorem place_outside_iff : state.place call = .outside ↔ call ∉ state.pending ∧ state.inHand ≠ some call := by
  unfold place inHand
  by_cases member : call ∈ state.pending
  · simp [member]
  · cases state.phase with
    | idle => simp [member]
    | received other | created other =>
      by_cases here : other = call
      · simp [member, here]
      · simp [member, here]

theorem place_elsewhere (elsewhere : state.inHand ≠ some call) :
    state.place call = if call ∈ state.pending then .channel else .outside := by
  by_cases member : call ∈ state.pending
  · rw [place_channel member, if_pos member]
  · rw [place_outside_iff.mpr ⟨member, elsewhere⟩, if_neg member]

theorem place_received (member : call ∉ state.pending) (phase : state.phase = .received call spec) :
    state.place call = .received := by
  rw [place, if_neg member, phase]
  exact if_pos rfl

theorem place_stored (member : call ∉ state.pending) (phase : state.phase = .created call record revision) :
    state.place call = .created record := by
  rw [place, if_neg member, phase]
  exact if_pos rfl

theorem place_created (at' : state.place call = .created record) :
    ∃ revision, state.phase = .created call record revision := by
  unfold place at at'
  split at at'
  · cases at'
  · split at at'
    · cases at'
    · split at at'
      · cases at'
      · cases at'
    · rename_i revision phase
      split at at'
      · rename_i here
        cases at'
        exact ⟨revision, by rw [phase, here]⟩
      · cases at'

theorem inHand_received (phase : state.phase = .received call spec) : state.inHand = some call := by
  rw [inHand, phase]

theorem inHand_created (phase : state.phase = .created call record revision) : state.inHand = some call := by
  rw [inHand, phase]

end Places

/-- A step that is about one call leaves the others as they were. -/
structure Concerns (content : σ → StoreState) (call : Nat) (state next : Submissions σ) : Prop where
  entries : ∀ other, other ≠ call → next.calls[other]? = state.calls[other]?
  places : ∀ other, other ≠ call → next.place other = state.place other
  history : ∀ other id, other ≠ call → (next.made other id ↔ state.made other id)
  kept : Kept (content state.manager.backend).jobs (content next.manager.backend).jobs
  same : ∀ other record, other ≠ call → state.place other = .created record →
    (content next.manager.backend).jobs = (content state.manager.backend).jobs

namespace Sound

variable (sound : Sound limits content state)
include sound

theorem pending_known (member : call ∈ state.pending) :
    ∃ entry, state.calls[call]? = some entry := by
  have image : state.specOf call ∈ state.pending.map state.specOf := mem_map_of_mem member
  rw [sound.channel] at image
  obtain ⟨_, _, same⟩ := mem_map.mp image
  obtain ⟨entry, found, _⟩ := Option.map_eq_some_iff.mp same.symm
  exact ⟨entry, found⟩

theorem inHand_known (hand : state.inHand = some call) :
    ∃ entry, state.calls[call]? = some entry := by
  unfold inHand at hand
  split at hand
  · cases hand
  · rename_i spec phase
    cases hand
    obtain ⟨entry, found, _⟩ := Option.map_eq_some_iff.mp (sound.received call spec phase)
    exact ⟨entry, found⟩
  · rename_i record revision phase
    cases hand
    exact Option.isSome_iff_exists.mp (sound.revision call record revision phase).1

theorem inHand_not_pending (hand : state.inHand = some call) :
    call ∉ state.pending := by
  have distinct := sound.distinct
  rw [hand, Option.toList_some, singleton_append, nodup_cons] at distinct
  exact distinct.1

/-- The courses after a step that is about one call. -/
theorem course_of_one (concerns : Concerns content call state next)
    (own : ∀ entry, next.calls[call]? = some entry →
      Course (content next.manager.backend).jobs (next.made call) entry (next.place call)) :
    ∀ other entry, next.calls[other]? = some entry →
      Course (content next.manager.backend).jobs (next.made other) entry (next.place other) := by
  intro other entry found
  by_cases here : other = call
  · subst here
    exact own entry found
  · rw [concerns.entries other here] at found
    have course := (sound.course other entry found).carry concerns.kept (fun record => concerns.same other record here)
    have made : next.made other = state.made other := funext fun id => propext (concerns.history other id here)
    rwa [made, concerns.places other here]

end Sound

section Entries

variable {calls : List SubmitCall}

theorem modify_other {other : Nat} {change : SubmitCall → SubmitCall} (different : other ≠ call) :
    (calls.modify call change)[other]? = calls[other]? :=
  getElem?_modify_ne change _ (Ne.symm different)

theorem modify_own (change : SubmitCall → SubmitCall) (found : calls[call]? = some entry) :
    (calls.modify call change)[call]? = some (change entry) := by
  rw [getElem?_modify_eq, found]
  rfl

end Entries

section Steps

variable (sound : Sound limits content state)
include sound

/-- A step that is about one call, which keeps its specification. -/
theorem Sound.of_one {changed : SubmitCall} (found : state.calls[call]? = some entry)
    (after : next.calls[call]? = some changed) (keeps : changed.spec = entry.spec)
    (grounded : Grounded limits content next.manager)
    (channel : next.pending.map state.specOf = (submits next.manager.commands).map some)
    (distinct : (next.inHand.toList ++ next.pending).Nodup)
    (received : ∀ other spec, next.phase = .received other spec → state.specOf other = some spec)
    (revision : ∀ other record revision, next.phase = .created other record revision →
      state.calls[other]?.isSome = true ∧ revision = (content next.manager.backend).revision)
    (concerns : Concerns content call state next)
    (own : Course (content next.manager.backend).jobs (next.made call) changed (next.place call)) :
    Sound limits content next := by
  have specs : ∀ other, next.specOf other = state.specOf other := by
    intro other
    unfold specOf
    by_cases here : other = call
    · rw [here, found, after, Option.map_some, Option.map_some, keeps]
    · rw [concerns.entries other here]
  have known : ∀ other : Nat, state.calls[other]?.isSome = true → next.calls[other]?.isSome = true := by
    intro other _
    by_cases here : other = call
    · rw [here, after]
      rfl
    · rwa [concerns.entries other here]
  refine ⟨grounded, ?_, distinct, ?_, ?_, ?_, ?_⟩
  · exact (map_congr_left fun other _ => specs other).trans channel
  · intro other spec atReceived
    exact (specs other).trans (received other spec atReceived)
  · intro other record stored created
    obtain ⟨there, last⟩ := revision other record stored created
    exact ⟨known other there, last⟩
  · intro other id made
    by_cases here : other = call
    · rw [here, after]
      rfl
    · exact known other (sound.known other id ((concerns.history other id here).mp made))
  · refine sound.course_of_one concerns ?_
    intro _ atLast
    cases after.symm.trans atLast
    exact own

/-- A caller moves on. -/
theorem Sound.setPhase (found : state.calls[call]? = some entry) {phase : CallPhase}
    (course : Course (content state.manager.backend).jobs (state.made call) { entry with phase } (state.place call)) :
    Sound limits content (state.setPhase call phase) := by
  have after := modify_own ({ · with phase }) found
  exact sound.of_one found after rfl sound.grounded sound.channel sound.distinct sound.received sound.revision
    ⟨fun _ => modify_other, fun _ _ => rfl, fun _ _ _ => Iff.rfl, .refl _, fun _ _ _ _ => rfl⟩ course

theorem Sound.enter (spec : JobSpec) : Sound limits content (state.enter spec) := by
  have older : ∀ other : Nat, state.calls[other]?.isSome = true → 
      (state.enter spec).calls[other]? = state.calls[other]? := by
    intro _ known
    obtain ⟨_, found⟩ := Option.isSome_iff_exists.mp known
    exact List.getElem?_append_left (List.getElem?_eq_some_iff.mp found).1
  have specs : ∀ other wanted, state.specOf other = some wanted → (state.enter spec).specOf other = some wanted := by
    intro other _ known
    obtain ⟨_, found, same⟩ := Option.map_eq_some_iff.mp known
    unfold specOf
    rw [older other (by simp [found]), found]
    exact congrArg some same
  have absent : state.calls[state.calls.length]? = none := getElem?_eq_none (Nat.le_refl _)
  have outside : (state.enter spec).place state.calls.length = .outside := by
    refine place_outside_iff.mpr ⟨?_, ?_⟩
    · intro member
      obtain ⟨_, found⟩ := sound.pending_known member
      rw [absent] at found
      cases found
    · intro hand
      obtain ⟨_, found⟩ := sound.inHand_known hand
      rw [absent] at found
      cases found
  refine ⟨sound.grounded, ?_, sound.distinct, ?_, ?_, ?_, ?_⟩
  · refine Eq.trans (map_congr_left ?_) sound.channel
    intro other member
    obtain ⟨entry, found⟩ := sound.pending_known member
    have known : state.specOf other = some entry.spec := by rw [specOf, found]; rfl
    rw [specs other _ known, known]
  · intro other wanted received
    exact specs other wanted (sound.received other wanted received)
  · intro other record revision created
    obtain ⟨known, same⟩ := sound.revision other record revision created
    rw [older other known]
    exact ⟨known, same⟩
  · intro other id made
    have known := sound.known other id made
    rw [older other known]
    exact known
  · have concerns : Concerns content state.calls.length state (state.enter spec) := by
      refine ⟨?_, fun _ _ => rfl, fun _ _ _ => Iff.rfl, .refl _, fun _ _ _ _ => rfl⟩
      intro other different
      rcases Nat.lt_or_gt_of_ne different with before | after
      · exact getElem?_append_left before
      · have short : (state.enter spec).calls.length ≤ other := by
          simp only [Submissions.enter, length_append, length_singleton]
          omega
        rw [getElem?_eq_none short, getElem?_eq_none (by omega)]
    refine sound.course_of_one concerns ?_
    intro _ found
    simp only [Submissions.enter, getElem?_concat_length] at found
    cases found
    rw [outside]
    refine .unsent ?_ rfl ?_
    · split
      · exact .inr ⟨_, rfl, nofun⟩
      · exact .inl rfl
    · intro id made
      have known := sound.known _ id made
      rw [absent] at known
      cases known

theorem Sound.send (config : JobManagerConfig) (call : Nat) :
    Sound limits content (state.send config call) := by
  unfold Submissions.send
  split
  · rename_i spec _ found
    have course := sound.course call _ found
    obtain ⟨outside, silent, nothing⟩ := course.of_checked rfl
    split
    · rename_i room
      obtain ⟨notPending, notHeld⟩ := place_outside_iff.mp outside
      have posted : state.manager.post config (.submit spec) =
          { state.manager with commands := state.manager.commands ++ [.submit spec] } := if_pos room
      rw [posted]
      refine sound.of_one found (modify_own ({ · with phase := .waiting }) found) rfl
        ⟨sound.grounded.stored, sound.grounded.busy⟩ ?_ ?_ sound.received sound.revision
        ⟨fun _ => modify_other, ?_, fun _ _ _ => Iff.rfl, .refl _, fun _ _ _ _ => rfl⟩ ?_
      · change (state.pending ++ [call]).map state.specOf =
          (submits (state.manager.commands ++ [.submit spec])).map some
        have own : state.specOf call = some spec := by
          rw [specOf, found]
          rfl
        rw [map_append, sound.channel, submits_append, map_append, map_singleton, own]
        rfl
      · change (state.inHand.toList ++ (state.pending ++ [call])).Nodup
        rw [← append_assoc, nodup_append]
        refine ⟨sound.distinct, nodup_singleton call, ?_⟩
        intro _ member _ own same
        rw [mem_singleton.mp own] at same
        rcases mem_append.mp member with held | waiting
        · exact notHeld (same ▸ Option.mem_toList.mp held)
        · exact notPending (same ▸ waiting)
      · intro other different
        refine place_congr ?_ rfl
        change other ∈ state.pending ++ [call] ↔ other ∈ state.pending
        simp [different]
      · rw [place_channel (mem_append_right _ (mem_singleton_self call))]
        exact .sent (.inl rfl) (.inl rfl) silent nothing
    · refine sound.setPhase found ?_
      rw [outside]
      exact .unsent (.inr ⟨_, rfl, nofun⟩) silent nothing
  · exact sound

theorem Sound.timeOut (early : ∀ record, state.place call ≠ .created record) :
    Sound limits content (state.timeOut call) := by
  unfold Submissions.timeOut
  split
  · rename_i found
    exact sound.setPhase found ((sound.course call _ found).giveUp rfl early nofun)
  · exact sound

theorem Sound.collect (call : Nat) :
    Sound limits content (state.collect call) := by
  unfold Submissions.collect
  split
  · rename_i found
    exact sound.setPhase found ((sound.course call _ found).collect rfl)
  · exact sound

theorem Sound.receive : Sound limits content state.receive := by
  unfold Submissions.receive
  split
  · rename_i call _ _ idle commands pending
    have channel := sound.channel
    rw [pending, commands] at channel
    obtain ⟨own, left⟩ := cons.inj channel
    obtain ⟨entry, found, _⟩ := Option.map_eq_some_iff.mp own
    have distinct := sound.distinct
    rw [pending] at distinct
    obtain ⟨apart, nodup⟩ := nodup_cons.mp (nodup_append.mp distinct).2.1
    have course := sound.course call entry found
    rw [place_channel (pending ▸ mem_cons_self ..)] at course
    refine sound.of_one found found rfl ⟨sound.grounded.stored, sound.grounded.busy⟩ left ?_ ?_ ?_
      ⟨fun _ _ => rfl, ?_, fun _ _ _ => Iff.rfl, .refl _, fun _ _ _ _ => rfl⟩ ?_
    · exact nodup_cons.mpr ⟨apart, nodup⟩
    · intro _ _ received
      cases received
      exact own
    · intro _ _ _ created
      cases created
    · intro other different
      have free : state.inHand ≠ some other := by
        rw [inHand, idle]
        nofun
      refine (place_elsewhere ?_).trans ?_
      · intro held
        exact different (Option.some.inj held).symm
      · rw [place_elsewhere free, pending]
        simp [different]
    · rw [place_received apart rfl]
      cases course with
      | sent _ sent silent nothing => exact .sent (.inr rfl) sent silent nothing
  · exact sound

/-- The answer to the submission in the worker's hands. -/
theorem Sound.answer (held : state.inHand = some call) (grounded : Grounded limits content manager)
    (commands : manager.commands = state.manager.commands)
    (kept : Kept (content state.manager.backend).jobs (content manager.backend).jobs)
    (own : ∀ entry, state.calls[call]? = some entry →
      Course (content state.manager.backend).jobs (state.made call) entry (state.place call) →
        Course (content manager.backend).jobs (state.made call) { entry with ack := some outcome } .outside) :
    Sound limits content (({ state with manager } : Submissions σ).answer config call outcome) := by
  obtain ⟨entry, found⟩ := sound.inHand_known held
  have apart := sound.inHand_not_pending held
  refine sound.of_one found (modify_own ({ · with ack := some outcome }) found) rfl ⟨grounded.stored, grounded.busy⟩
    ?_ ?_ ?_ ?_ ⟨fun _ => modify_other, ?_, fun _ _ _ => Iff.rfl, kept, ?_⟩ ?_
  · change state.pending.map state.specOf =
      (submits ((manager.emit [.submitAck outcome]).postWake config .jobSubmitted).commands).map some
    obtain ⟨_, posted⟩ := @JobManager.postWake_wakes σ config .jobSubmitted (manager.emit [.submitAck outcome])
    rw [posted, submits_append, submits_wakes, append_nil]
    exact sound.channel.trans (by rw [← commands]; rfl)
  · exact (nodup_append.mp sound.distinct).2.1
  · intro _ _ received
    cases received
  · intro _ _ _ created
    cases created
  · intro _ different
    refine (place_elsewhere ?_).trans ?_
    · intro free
      cases free
    · rw [place_elsewhere fun here => different (Option.some.inj (held.symm.trans here)).symm]
      rfl
  · intro _ _ different created
    obtain ⟨_, phase⟩ := place_created created
    rw [inHand, phase] at held
    exact absurd (Option.some.inj held) different
  · have outside : (({ state with manager } : Submissions σ).answer config call outcome).place call = .outside :=
      place_outside_iff.mpr ⟨apart, nofun⟩
    rw [outside]
    exact own entry found (sound.course call entry found)

/-- The job of a caller that still waits is stored. -/
theorem Sound.storeJob (phase : state.phase = .received call spec)
    (waits : state.calls[call]?.map (·.phase) = some .waiting) {backend : σ}
    (run : applyMutation limits (content state.manager.backend)
      (submissionMutation (content state.manager.backend).snapshot spec) = .ok (content backend))
    (last : revision = (content backend).revision) :
    let record := submissionRecord (content state.manager.backend).snapshot spec
    Sound limits content (state.stored call record revision backend) := by
  intro record
  have held := inHand_received phase
  have apart := sound.inHand_not_pending held
  have submitted := submitted_of_accepted run
  obtain ⟨entry, found⟩ := sound.inHand_known held
  have own := sound.received call spec phase
  rw [specOf, found] at own
  rw [found] at waits
  have waiting := Option.some.inj waits
  cases own
  have course := sound.course call entry found
  rw [place_received apart phase] at course
  refine sound.of_one found found rfl ⟨sound.grounded.stored.step run, ?_⟩ sound.channel ?_ ?_ ?_
    ⟨fun _ _ => rfl, ?_, ?_, applyMutation_kept run, ?_⟩ ?_
  · exact sound.grounded.busy.of_within (.of_eq rfl) fun _ record found busy =>
      ⟨record, submitted.stays found, busy⟩
  · have distinct := sound.distinct
    rw [held] at distinct
    exact distinct
  · intro _ _ received
    cases received
  · intro _ _ _ created
    cases created
    exact ⟨by rw [found]; rfl, last⟩
  · intro other different
    have elsewhere : (state.stored call record revision backend).inHand ≠ some other :=
      fun here => different (Option.some.inj here).symm
    rw [place_elsewhere elsewhere, place_elsewhere (fun here => elsewhere (held.symm.trans here))]
    rfl
  · intro other id different
    change (other, id) ∈ state.created ++ [(call, record.id)] ↔ (other, id) ∈ state.created
    simp [different]
  · intro _ _ _ created
    obtain ⟨_, at'⟩ := place_created created
    rw [phase] at at'
    cases at'
  · cases course with
    | sent _ _ silent nothing =>
      have here : (state.stored call record revision backend).place call = .created record := place_stored apart rfl
      rw [here]
      refine .created _ waiting silent ?_ submitted.row
      intro id made
      rcases mem_append.mp made with old | new
      · exact absurd old (nothing id)
      · exact (Prod.mk.inj (mem_singleton.mp new)).2

theorem Sound.create (faithful : Faithful limits store content) (config : JobManagerConfig)
    (waits : ∀ call spec, state.phase = .received call spec → state.calls[call]?.map (·.phase) = some .waiting) :
    Sound limits content (state.create config store) := by
  unfold Submissions.create
  split
  · rename_i call spec phase
    have held := inHand_received phase
    have received := place_received (sound.inHand_not_pending held) phase
    -- A submission the store does not take changes nothing.
    have failed : ∀ backend : σ, content backend = content state.manager.backend → ∀ code : StateStoreErrorCode,
        Sound limits content
          ((state.setBackend backend).answer config call { code := .storeFailed, detail := code.toString }) := by
      intro backend unchanged _
      have grounded : Grounded limits content { state.manager with backend } := by
        refine ⟨?_, ?_⟩
        · rw [unchanged]
          exact sound.grounded.stored
        · intro id job found
          rw [unchanged]
          exact sound.grounded.busy id job found
      refine sound.answer held grounded rfl ?_ ?_
      · rw [unchanged]
        exact .refl _
      · intro _ _ course
        rw [received] at course
        exact course.refuse nofun
    rcases faithful.load_cases state.manager.backend with ⟨code, loaded, load, reads⟩ | ⟨_, load, reads⟩
    · rw [load]
      exact failed loaded reads code
    · rw [load]
      simp only
      split
      · rename_i code refused
        exact failed _ ((faithful.apply_refused _ _ code refused).trans reads) code
      · rename_i accepted
        have run := faithful.apply_accepted _ _ accepted
        rw [reads] at run
        exact sound.storeJob phase (waits call spec phase) run (faithful.apply_revision _ _ accepted)
  · exact sound

/-- The last part of a submission. A job the queue refuses is taken back, which only a used-up revision can prevent. -/
theorem Sound.enqueue (reliable : Reliable limits store content) (config : JobManagerConfig)
    (below : ∀ call record revision, state.phase = .created call record revision →
      (state.manager.queue.admitJob record).1.code ≠ none → revision ≠ max64) :
    Sound limits content (state.enqueue config store) := by
  unfold Submissions.enqueue
  split
  · rename_i call record revision phase
    have held := inHand_created phase
    have stored := place_stored (sound.inHand_not_pending held) phase
    simp only
    split
    · have grounded : Grounded limits content
          { state.manager with queue := (state.manager.queue.admitJob record).2 } :=
        ⟨sound.grounded.stored, sound.grounded.busy⟩
      refine sound.answer held grounded rfl (.refl _) ?_
      intro _ _ course
      rw [stored] at course
      cases course with
      | sent underway => simp at underway
      | created _ waits _ _ row => exact .submitted _ rfl (.inl waits) ⟨_, row, rfl⟩
    · rename_i rejected
      have last := (sound.revision call record revision phase).2
      obtain ⟨entry, found⟩ := sound.inHand_known held
      have course := sound.course call entry found
      rw [stored] at course
      cases course with
      | sent underway => simp at underway
      | created snapshot waits _ only row =>
        have room := below call _ revision phase (by simp [rejected])
        rw [last] at room
        have back := (takenBack_suits row).accepted sound.grounded.stored room
        rw [← last] at back
        have accepted := reliable.apply_ok _ _ _ back
        have run := reliable.apply_accepted _ _ accepted
        have moved := compensation_rewritten run
        have grounded : Grounded limits content { state.manager with
            queue := (state.manager.queue.admitJob (submissionRecord snapshot entry.spec)).2
            backend := (store.apply state.manager.backend
              (compensation (submissionRecord snapshot entry.spec) revision)).2 } :=
          ⟨sound.grounded.stored.step run, sound.grounded.busy.of_within (.of_eq rfl) moved.neverRequeued⟩
        have cancelled := (congrArg (SortedMap.find? · _) moved.jobs).trans (SortedMap.find?_insert_self ..)
        refine sound.answer held grounded rfl (applyMutation_kept run) ?_
        intro _ atSame _
        cases found.symm.trans atSame
        refine .refused _ rfl nofun (.inl waits) ?_
        intro id made
        rw [only id made]
        exact ⟨_, cancelled, rfl⟩
  · exact sound

/-- The end of the worker answers every submission that is left. -/
theorem Sound.stop : Sound limits content state.stop := by
  unfold Submissions.stop
  split
  · rename_i ends
    obtain ⟨_, idle⟩ := ends
    have free : state.inHand = none := by rw [inHand, idle]
    refine ⟨⟨sound.grounded.stored, ?_⟩, rfl, ?_, ?_, ?_, ?_, ?_⟩
    · intro _ _ found
      simp [JobManager.stop, JobManager.stopMonitor, JobManager.abandonSupervised, JobManager.emit] at found
    · change (state.inHand.toList ++ []).Nodup
      rw [free]
      exact nodup_nil
    · intro _ _ received
      cases idle.symm.trans received
    · intro _ _ _ created
      cases idle.symm.trans created
    · intro call id made
      have known := sound.known call id made
      simpa using known
    · intro call entry found
      have outside : ({ state with pending := [] } : Submissions σ).place call = .outside :=
        place_outside_iff.mpr ⟨not_mem_nil, fun here => by cases free.symm.trans here⟩
      change Course _ _ entry (({ state with pending := [] } : Submissions σ).place call)
      rw [outside]
      rw [getElem?_mapIdx] at found
      obtain ⟨old, atOld, same⟩ := Option.map_eq_some_iff.mp found
      have course := sound.course call old atOld
      by_cases member : call ∈ state.pending
      · rw [if_pos member] at same
        rw [place_channel member] at course
        subst same
        cases course with
        | sent _ sent _ nothing => exact .refused _ rfl (by decide) sent fun id made => absurd made (nothing id)
      · rw [if_neg member] at same
        subst same
        rwa [place_elsewhere (by simp [free]), if_neg member] at course
  · exact sound

theorem Sound.work (faithful : Faithful limits store content) (config : JobManagerConfig) {step : Step}
    (keeps : step.keepsSubmits state.manager)
    (same : state.phase = .idle ∨
      content (state.manager.step config store step).backend = content state.manager.backend) :
    Sound limits content (state.work config store step) := by
  have moved := step_moves faithful config step sound.grounded
  have kept := moved.journal.kept
  refine ⟨step_grounded faithful config step sound.grounded, ?_, sound.distinct, sound.received, ?_, sound.known,
    ?_⟩
  · refine sound.channel.trans ?_
    rw [← step_submits faithful sound.grounded.stored keeps]
    rfl
  · intro call record revision created
    obtain ⟨known, last⟩ := sound.revision call record revision created
    refine ⟨known, ?_⟩
    rcases same with idle | same
    · cases idle.symm.trans created
    · exact last.trans (congrArg _ same).symm
  · intro call entry found
    refine (sound.course call entry found).carry kept ?_
    intro _ created
    obtain ⟨_, phase⟩ := place_created created
    rcases same with idle | same
    · cases idle.symm.trans phase
    · exact congrArg _ same

theorem Sound.other (faithful : Faithful limits store content) (config : JobManagerConfig) (step : Step) :
    Sound limits content (state.other config store step) := by
  have outsider : ∀ step : Step, step.keepsSubmits state.manager →
      content (state.manager.perform config store step).backend = content state.manager.backend →
      Sound limits content (state.work config store step) := by
    intro _ keeps same
    refine sound.work faithful config keeps (.inr ?_)
    cases running : state.manager.running with
    | true => rw [step_of_running running, same]
    | false => rw [step_of_stopped running]
  have insider : ∀ step : Step, step.keepsSubmits state.manager →
      Sound limits content (if state.phase = .idle then state.work config store step else state) := by
    intro _ keeps
    split
    · rename_i idle
      exact sound.work faithful config keeps (.inl idle)
    · exact sound
  cases step with
  | command =>
    simp only [Submissions.other]
    split
    · exact sound
    · rename_i idle none
      exact sound.work faithful config none (.inl idle)
    · exact sound
  | exit | pumpDone | gpuEvents => exact insider _ trivial
  | post request =>
    cases request with
    | submit => exact sound
    | cancel => exact outsider _ trivial (by rw [perform, post_frame])
  | pumpFinished => exact outsider _ trivial (by rw [perform, pumpFinished_frame])
  | escalation =>
    refine outsider _ trivial ?_
    simp only [perform, runEscalation]
    split
    · rfl
    · split
      · rfl
      · rfl
  | reaper | sample | openGate => exact outsider _ trivial rfl
  | stop => exact sound.stop

end Steps

section Runs

/-- The worker stores a job only while the caller waits for it, and no caller gives up between that write and
the answer. A job that the queue refuses can be taken back as long as the store has revisions left. -/
def CallerWaits (state : Submissions σ) : SubmitStep → Prop
  | .create =>
    match state.phase with
    | .received call _ => state.calls[call]?.map (·.phase) = some .waiting
    | _ => True
  | .timeOut call =>
    match state.phase with
    | .created other _ _ => other ≠ call
    | _ => True
  | .enqueue =>
    match state.phase with
    | .created _ record revision => (state.manager.queue.admitJob record).1.code ≠ none → revision ≠ max64
    | _ => True
  | _ => True

instance decidableCallerWaits (state : Submissions σ) (step : SubmitStep) : Decidable (CallerWaits state step) := by
  unfold CallerWaits
  split
  · split <;> infer_instance
  · split <;> infer_instance
  · split <;> infer_instance
  · infer_instance

theorem Sound.step (reliable : Reliable limits store content) (config : JobManagerConfig)
    (sound : Sound limits content state) {step : SubmitStep} (waits : CallerWaits state step) :
    Sound limits content (state.step config store step) := by
  cases step with
  | enter spec => exact sound.enter spec
  | send call => exact sound.send config call
  | timeOut =>
    refine sound.timeOut ?_
    intro _ created
    obtain ⟨_, phase⟩ := place_created created
    simp only [CallerWaits, phase] at waits
    exact waits rfl
  | collect call => exact sound.collect call
  | receive => exact sound.receive
  | create =>
    refine sound.create reliable.toFaithful config ?_
    intro _ _ phase
    simp only [CallerWaits, phase] at waits
    exact waits
  | enqueue =>
    refine sound.enqueue reliable config ?_
    intro _ _ _ phase
    simp only [CallerWaits, phase] at waits
    exact waits
  | requestStop =>
    exact ⟨⟨sound.grounded.stored, sound.grounded.busy⟩, sound.channel, sound.distinct, sound.received, sound.revision,
      sound.known, sound.course⟩
  | other step => exact sound.other reliable.toFaithful config step

theorem Sound.initial (grounded : Grounded limits content manager)
    (empty : submits manager.commands = []) : Sound limits content { manager } := by
  refine ⟨grounded, ?_, nodup_nil, ?_, ?_, ?_, ?_⟩
  · rw [empty]
    rfl
  · intro _ _ received
    cases received
  · intro _ _ _ created
    cases created
  · intro _ _ made
    exact absurd made not_mem_nil
  · intro _ _ found
    simp at found

/-- Of the calls that have come back, the refused ones have left no job that waits or runs, and for each of the
others its job is stored. -/
def Accounted (content : σ → StoreState) (state : Submissions σ) : Prop :=
  ∀ call entry outcome, state.calls[call]? = some entry → entry.phase = .returned outcome →
    (outcome.code ≠ .submitted → ∀ id, (call, id) ∈ state.created →
      ∀ record, (content state.manager.backend).jobs.find? id = some record →
        record.state ≠ .queued ∧ JobRecovery.isActive record.state = false) ∧
    (outcome.code = .submitted → ∃ record,
      (content state.manager.backend).jobs.find? ⟨outcome.jobId⟩ = some record ∧ record.spec = entry.spec)

theorem Sound.accounted (sound : Sound limits content state) : state.Accounted content := by
  intro call entry outcome found back
  obtain ⟨refused, submitted⟩ := (sound.course call entry found).settled back
  refine ⟨?_, submitted⟩
  intro code id made record atRecord
  obtain ⟨last, atLast, terminal⟩ := refused code id made
  cases atRecord.symm.trans atLast
  cases state : record.state <;> simp_all [JobState.isTerminal, JobRecovery.isActive]

/-- However the threads take turns, a submission that is refused leaves nothing behind, and one that is accepted
is stored as it was handed in, as long as no job is stored for a caller that has given up. -/
theorem submissions_accounted (reliable : Reliable limits store content) (config : JobManagerConfig)
    (manager : JobManager σ) (inv : StoreInvariant limits (content manager.backend))
    (unsupervised : manager.supervised = .empty) (unused : manager.commands = []) (input : StartInput)
    (recovery : Option RecoveryResult) (steps : List SubmitStep) :
    let started : Submissions σ := { manager := (manager.start config store input recovery).2 }
    Guarded.Along (step config store) CallerWaits started steps →
      (started.run config store steps).Accounted content := by
  intro started waits
  have base := Grounded.of_unsupervised inv unsupervised
  have faithful := reliable.toFaithful
  obtain ⟨wakes, posted⟩ := start_commands faithful config input recovery base unused
  have initial : Sound limits content started :=
    .initial (start_grounded faithful config input recovery base) (posted ▸ submits_wakes)
  have reached : Sound limits content (started.run config store steps) :=
    Guarded.foldl_invariant (Sound limits content) 
      (fun _ _ waits sound => sound.step reliable config waits) waits initial
  exact reached.accounted

/-- A new manager over an empty store, with a queue for one job. -/
def oneSeat : JobManager StoreState := { backend := .initial, queue := .empty 1 }

/-- The worker takes the wake-up at the head of the channel. -/
def wakeTurn : SubmitStep :=
  .other (.command { schedule := { launch := { spawn := .error { code := .forkFailed } } } })

/-- One submission is accepted, and the queue has no place for the second. -/
def acceptedThenRejected : List SubmitStep :=
  [wakeTurn, .enter (.minimal 1 {}), .send 0, .receive, .create, .enqueue, .collect 0, .enter (.minimal 2 {}), .send 1,
    wakeTurn, .receive, .create, .enqueue, .collect 1]

theorem submissions_accounted_rejected :
    let store := InMemoryStateStore.plainStore {}
    let started : Submissions StoreState := { manager := (oneSeat.start {} store {} none).2 }
    let reached := started.run {} store acceptedThenRejected
    reached.calls.map (·.phase) =
        [.returned { code := .submitted, jobId := 1 },
          .returned { code := .queueRejected, detail := .ascii "CAPACITY_EXCEEDED" }] ∧
      reached.created = [(0, ⟨1⟩), (1, ⟨2⟩)] ∧ reached.Accounted id := by
  refine ⟨by decide +kernel, by decide +kernel, ?_⟩
  exact submissions_accounted (InMemoryStateStore.plainStore_reliable {}) {} oneSeat (.initial {}) rfl rfl {} none
    acceptedThenRejected (by decide +kernel)

theorem not_accounted (call : Nat) (id : JobId) (outcome : JobSubmitOutcome)
    (back : state.calls[call]?.map (·.phase) = some (.returned outcome)) (code : outcome.code ≠ .submitted)
    (created : (call, id) ∈ state.created)
    (queued : ((content state.manager.backend).jobs.find? id).map (·.state) = some .queued) :
    ¬state.Accounted content := by
  intro accounted
  obtain ⟨entry, found, phase⟩ := Option.map_eq_some_iff.mp back
  obtain ⟨record, atRecord, waits⟩ := Option.map_eq_some_iff.mp queued
  exact ((accounted call entry outcome found phase).1 code id created record atRecord).1 waits

/-- The worker comes to the command after the caller's patience has ended. -/
def lateWorker : List SubmitStep :=
  [wakeTurn, .enter (.minimal 1 {}), .send 0, .timeOut 0, .receive, .create, .enqueue]

/-- The caller is told that the submission was not acknowledged, and its job waits in the queue. -/
theorem unacknowledged_job_queued :
    let store := InMemoryStateStore.plainStore {}
    let started : Submissions StoreState := { manager := (oneSeat.start {} store {} none).2 }
    let reached := started.run {} store lateWorker
    reached.calls.map (·.phase) = [.returned (.unavailable "job manager did not acknowledge submission")] ∧
      reached.created = [(0, ⟨1⟩)] ∧ (reached.manager.backend.jobs.find? ⟨1⟩).map (·.state) = some .queued ∧
      ¬reached.Accounted id := by
  refine ⟨by decide +kernel, by decide +kernel, by decide +kernel, ?_⟩
  exact not_accounted 0 ⟨1⟩ (.unavailable "job manager did not acknowledge submission") (by decide +kernel) nofun
    (by decide +kernel) (by decide +kernel)

end Runs

end Submissions

end Yori
