import Yori.Recovery.Result

namespace Yori
open SortedMap InMemoryStateStore GlobalJobQueue

theorem GlobalJobQueue.ext_entries {first second : GlobalJobQueue} (capacity : first.capacity = second.capacity)
    (entries : first.entries = second.entries) : first = second := by
  cases first
  cases second
  cases capacity
  cases entries
  rfl

namespace JobRecovery
open MachineWord MutationCore

variable {limits : ValidationConfig} {verifier : IdentityVerifier} {now later : TimePoint} {queue : GlobalJobQueue}
  {state middle : StoreState}

/-- A record without its end time. -/
def untimed (record : StoredJob) : StoredJob :=
  { record with execution := { record.execution with endTime := none } }

/-- The two stores hold the same jobs and leases, up to the end times and the
revision of the store. -/
structure SameButTimes (first second : StoreState) : Prop where
  jobs : ∀ id, (first.jobs.find? id).map untimed = (second.jobs.find? id).map untimed
  leases : first.leases = second.leases

section Rows

variable {record : StoredJob}

theorem recoveredRecord_untimed :
    untimed (recoveredRecord verifier now record) = untimed (recoveredRecord verifier later record) := by
  unfold recoveredRecord
  split
  · rfl
  · split <;> rfl

/-- What a recovery has dealt with, a later one leaves alone. -/
theorem recoveredRecord_again :
    recoveredRecord verifier later (recoveredRecord verifier now record) = recoveredRecord verifier now record :=
  recoveredRecord_of_settled recoveredRecord_settled.1 recoveredRecord_settled.2

theorem recoveredRecord_queued_iff {queued : StoredJob} (waits : queued.state = .queued) :
    recoveredRecord verifier now record = queued ↔ record = queued := by
  have idle : recoveredRecord verifier now queued = queued :=
    recoveredRecord_of_settled (by simp [abandoned, waits, isActive]) (by simp [promoted, waits])
  constructor
  · intro same
    have notLost : abandoned verifier record = false := by
      cases lost : abandoned verifier record with
      | false => rfl
      | true =>
        simp only [recoveredRecord, lost, if_true] at same
        rw [← same] at waits
        simp [lostRecord] at waits
    have notPromoted : promoted verifier record = false := by
      cases holds : promoted verifier record with
      | false => rfl
      | true =>
        simp only [recoveredRecord, notLost, holds, Bool.false_eq_true, if_false, if_true] at same
        rw [← same] at waits
        simp [promotedRecord] at waits
    rw [recoveredRecord_of_settled notLost notPromoted] at same
    exact same
  · intro same
    rw [same, idle]

end Rows

section Tables

section

variable {first second : StoreState} (inv : StoreInvariant limits state)
  (invFirst : StoreInvariant limits first) (invSecond : StoreInvariant limits second)
  (firstLeft : ∀ uuid lease, first.leases.find? uuid = some lease → state.leases.find? uuid = some lease)
  (secondLeft : ∀ uuid lease, second.leases.find? uuid = some lease → state.leases.find? uuid = some lease)
include inv invFirst invSecond firstLeft secondLeft

/-- The leases of a store are fixed by the ones they were taken from and by the
jobs that are still active. -/
theorem held_of_held (active : ∀ id, ownerLeaseable first.jobs id = ownerLeaseable second.jobs id) (uuid : GpuUuid)
    (lease : GpuLease) (held : first.leases.find? uuid = some lease) : second.leases.find? uuid = some lease := by
  have owner := invFirst.owner_leaseable (mem_values.mpr ⟨uuid, held⟩)
  rw [active] at owner
  obtain ⟨_, found, still⟩ := ownerLeaseable_iff.mp owner
  obtain ⟨place, other, atPlace, own⟩ := invSecond.held found still
  have here := inv.leasesValid.exclusive place other uuid lease (secondLeft place other atPlace)
    (firstLeft uuid lease held) own
  subst here
  rw [atPlace, ← secondLeft place other atPlace, firstLeft place lease held]

theorem SameButTimes.of_jobs (jobs : ∀ id, (first.jobs.find? id).map untimed = (second.jobs.find? id).map untimed) :
    SameButTimes first second := by
  have states : ∀ (jobs : JobTable) id,
      ownerLeaseable jobs id = ((jobs.find? id).map untimed).any (leaseable ·.state) := by
    intro jobs id
    unfold ownerLeaseable
    cases jobs.find? id <;> rfl
  have active : ∀ id, ownerLeaseable first.jobs id = ownerLeaseable second.jobs id := by
    intro id
    rw [states, states, jobs]
  refine ⟨jobs, ext_find? fun uuid => Option.ext fun lease => ⟨?_, ?_⟩⟩
  · exact held_of_held inv invFirst invSecond firstLeft secondLeft active uuid lease
  · exact held_of_held inv invSecond invFirst secondLeft firstLeft (fun id => (active id).symm) uuid lease

end

theorem Midway.queuedSame (midway : Midway verifier now state middle) : QueuedSame state.jobs middle.jobs := by
  intro id _ queued
  rcases midway.rows id with same | recovered
  · rw [same]
  · rw [recovered]
    cases state.jobs.find? id with
    | none => simp
    | some =>
      simp only [Option.map_some, Option.some.injEq]
      exact recoveredRecord_queued_iff queued

/-- The queue that a partly recovered store calls for is that of the original. -/
theorem Midway.restore_eq (midway : Midway verifier now state middle) (inv : StoreInvariant limits state)
    (next : StoreInvariant limits middle) (queue : GlobalJobQueue)
    (code : (queue.restore middle.snapshot).1.code = none ↔ (queue.restore state.snapshot).1.code = none) :
    (queue.restore middle.snapshot).2 = (queue.restore state.snapshot).2 := by
  by_cases restored : (queue.restore state.snapshot).1.code = none
  · have before := restore_applied restored
    have after := restore_applied (code.mpr restored)
    have entries := midway.queuedSame.sortedQueued_eq inv next
    exact ext_entries (after.2.trans before.2.symm) (after.1.trans (entries.trans before.1.symm))
  · have refused : (queue.restore middle.snapshot).1.code ≠ none := fun applied => restored (code.mp applied)
    rw [restore_rejected restored, restore_rejected refused]

end Tables

/-- There is room for the revisions of two recoveries. -/
structure Ample (state : StoreState) : Prop where
  room : state.revision.toNat + 2 * state.jobs.size < 2 ^ 64
  revisions : ∀ record ∈ state.jobs.values, record.revision.toNat + 2 < 2 ^ 64

theorem Midway.contains (midway : Midway verifier now state middle) (id : JobId) :
    middle.jobs.contains id = state.jobs.contains id := by
  rw [SortedMap.contains, SortedMap.contains]
  rcases midway.rows id with same | recovered
  · rw [same]
  · rw [recovered, Option.isSome_map]

theorem recoveredRecord_timely {record : StoredJob} (clock : ∀ start ∈ record.execution.startTime, start ≤ later)
    (ample : record.revision.toNat + 2 < 2 ^ 64) : Timely later (recoveredRecord verifier now record) := by
  have below : record.revision ≠ max64 := ne_max64_iff.mpr (by omega)
  have above : record.revision + 1 ≠ max64 := ne_max64_iff.mpr (by rw [toNat_succ below]; omega)
  unfold recoveredRecord
  split
  · exact ⟨clock, above⟩
  · split
    · exact ⟨clock, above⟩
    · exact ⟨clock, below⟩

/-- A partly recovered store can be recovered. -/
theorem Midway.recoverable (midway : Midway verifier now state middle)
    (revised : RevisedBy state.jobs.size state middle) (recoverable : Recoverable limits later state)
    (ample : Ample state) (next : StoreInvariant limits middle) : Recoverable limits later middle := by
  have size : middle.jobs.size = state.jobs.size := size_eq_of_contains midway.contains
  have room := ample.room
  obtain ⟨grown, bounded⟩ := revised
  refine ⟨next, ?_, by omega, ?_⟩
  · intro zero
    have before : state.revision = 0 := by
      rw [zero] at grown
      exact UInt64.toNat_inj.mp (Nat.le_zero.mp grown)
    obtain ⟨jobs, leases⟩ := recoverable.revised before
    rw [values_eq_nil_iff] at jobs leases
    refine ⟨values_eq_nil_iff.mpr fun id => ?_, values_eq_nil_iff.mpr fun uuid => ?_⟩
    · rcases midway.rows id with same | recovered
      · rw [same, jobs]
      · rw [recovered, jobs, Option.map_none]
    · by_contra present
      obtain ⟨lease, held⟩ := Option.ne_none_iff_exists'.mp present
      have old := midway.leases uuid lease held
      simp [leases uuid] at old
  · intro record member
    obtain ⟨id, found⟩ := mem_values.mp member
    rcases midway.rows id with same | recovered
    · rw [same] at found
      exact recoverable.timely record (mem_values.mpr ⟨id, found⟩)
    · rw [recovered] at found
      obtain ⟨old, atOld, target⟩ := Option.map_eq_some_iff.mp found
      have stored : old ∈ state.jobs.values := mem_values.mpr ⟨id, atOld⟩
      subst target
      exact recoveredRecord_timely (recoverable.timely old stored).clock (ample.revisions old stored)

section Runs

variable {σ τ : Type} {store : StateStore σ} {content : σ → StoreState} {backend : σ} {sound : StateStore τ}
  {whole : τ → StoreState}

theorem Midway.settled_again {full again : StoreState} {second third : TimePoint}
    (midway : Midway verifier now state middle) (settledFull : Settled verifier second state full)
    (settledAgain : Settled verifier third middle again) (id : JobId) :
    (again.jobs.find? id).map untimed = (full.jobs.find? id).map untimed := by
  rw [settledAgain.rows, settledFull.rows]
  rcases midway.rows id with same | recovered
  · rw [same]
    cases state.jobs.find? id with
    | none => rfl
    | some =>
      simp only [Option.map_some]
      rw [recoveredRecord_untimed]
  · rw [recovered]
    cases state.jobs.find? id with
    | none => rfl
    | some =>
      simp only [Option.map_some]
      rw [recoveredRecord_again, recoveredRecord_untimed]

/-- Resumed after an interruption, a recovery ends as an uninterrupted one. -/
theorem recover_resumed (reliable : Reliable limits sound whole) {second third : TimePoint} {original resumed : τ}
    (midway : Midway verifier now (whole original) (whole resumed))
    (revised : RevisedBy (whole original).jobs.size (whole original) (whole resumed))
    (next : StoreInvariant limits (whole resumed)) (recoverable : Recoverable limits second (whole original))
    (later : Recoverable limits third (whole original)) (ample : Ample (whole original)) :
    let full := recover sound verifier second queue original
    let again := recover sound verifier third queue resumed
    again.1.code = full.1.code ∧ again.2.1 = full.2.1 ∧ SameButTimes (whole again.2.2) (whole full.2.2) := by
  intro full again
  have inv := recoverable.stored
  have possible := midway.recoverable revised later ample next
  obtain ⟨readFull, wroteFull⟩ : full.1.code ≠ some .storeLoadFailed ∧ full.1.code ≠ some .storeWriteFailed :=
    recover_writes reliable recoverable
  obtain ⟨readAgain, wroteAgain⟩ : again.1.code ≠ some .storeLoadFailed ∧ again.1.code ≠ some .storeWriteFailed :=
    recover_writes reliable possible
  obtain ⟨settledFull, queueFull, codeFull⟩ :=
    (recover_outcome reliable.toFaithful inv).of_written readFull wroteFull
  obtain ⟨settledAgain, queueAgain, codeAgain⟩ :=
    (recover_outcome reliable.toFaithful next).of_written readAgain wroteAgain
  have entries : (queuedEntries (whole resumed).snapshot.jobs).length =
      (queuedEntries (whole original).snapshot.jobs).length := by
    have lists := congrArg List.length (midway.queuedSame.sortedQueued_eq inv next)
    rw [sortedQueued, sortedQueued, (LowerBound.sort_perm _ _).length_eq, (LowerBound.sort_perm _ _).length_eq] at lists
    exact lists
  have codes : (queue.restore (whole resumed).snapshot).1.code = none ↔
      (queue.restore (whole original).snapshot).1.code = none := by
    rw [restore_code_iff possible.readable next.jobIds next.specs next.queuedIff next.distinctIds,
      restore_code_iff recoverable.readable inv.jobIds inv.specs inv.queuedIff inv.distinctIds, entries]
  refine ⟨?_, ?_, ?_⟩
  · rw [codeAgain, codeFull]
    exact if_congr codes rfl rfl
  · rw [queueAgain, queueFull]
    exact midway.restore_eq inv next queue codes
  · refine .of_jobs inv (recover_invariant reliable.toFaithful next) (recover_invariant reliable.toFaithful inv) ?_
      settledFull.leases (midway.settled_again settledFull settledAgain)
    intro uuid lease left
    exact midway.leases uuid lease (settledAgain.leases uuid lease left)

/-- A store that was recovered as a whole calls for no write. -/
theorem Settled.plan_nil {after : StoreState} (settled : Settled verifier now state after)
    (next : StoreInvariant limits after) (later : TimePoint) : (plan verifier later after.snapshot).mutations = [] := by
  rw [List.eq_nil_iff_forall_not_mem]
  intro _ member
  obtain ⟨record, atRecord, planned⟩ := mem_plan.mp member
  have found := next.mem_snapshot.mp atRecord
  rw [settled.rows] at found
  obtain ⟨_, _, target⟩ := Option.map_eq_some_iff.mp found
  obtain ⟨kept, stays⟩ : abandoned verifier record = false ∧ promoted verifier record = false := by
    rw [← target]
    exact recoveredRecord_settled
  rcases planJob_entry_eq_some.mp planned with ⟨lost, _⟩ | ⟨holds, _⟩
  · simp [kept] at lost
  · simp [stays] at holds

/-- A recovery without anything to write leaves the store, and it rebuilds the
queue from it if it can. -/
theorem recover_idle (faithful : Faithful limits store content)
    (idle : (plan verifier now (content backend).snapshot).mutations = []) :
    content (recover store verifier now queue backend).2.2 = content backend ∧
      ((recover store verifier now queue backend).2.1 = queue ∨
        (recover store verifier now queue backend).2.1 = (queue.restore (content backend).snapshot).2) := by
  have run := recover_run faithful verifier now queue backend
  refine ⟨?_, ?_⟩
  · rcases run.written with same | ⟨_, reads, same⟩
    · exact same
    · rw [same, idle]
      exact reads
  · generalize recover store verifier now queue backend = result at run ⊢
    cases run with
    | unread | interrupted => exact .inl rfl
    | unqueued | finished => exact .inr rfl

/-- A recovery that was interrupted at any of its chunks can be run again on what
is left, and ends as an uninterrupted one would have, up to the end times and
the revision of the store. Run after a successful one it writes nothing and
changes nothing. -/
theorem recover_resumable_idempotent (verifier : IdentityVerifier) (first : TimePoint) (queue : GlobalJobQueue)
    (faithful : Faithful limits store content) (inv : StoreInvariant limits (content backend)) :
    let once := recover store verifier first queue backend
    (once.1.code = some .storeWriteFailed →
      ∀ {τ : Type} (sound : StateStore τ) (whole : τ → StoreState) (original resumed : τ) (second third : TimePoint),
        Reliable limits sound whole → whole original = content backend → whole resumed = content once.2.2 →
        Recoverable limits second (content backend) → Recoverable limits third (content backend) →
        Ample (content backend) →
        let full := recover sound verifier second queue original
        let again := recover sound verifier third once.2.1 resumed
        again.1.code = full.1.code ∧ again.2.1 = full.2.1 ∧ SameButTimes (whole again.2.2) (whole full.2.2)) ∧
    (once.1.code = none → ∀ later,
      let again := recover (recording store) verifier later once.2.1 (once.2.2, [])
      again.2.2.2 = [] ∧ content again.2.2.1 = content once.2.2 ∧ again.2.1 = once.2.1) := by
  intro once
  have outcome : RecoverOutcome verifier first queue (content backend) (content once.2.2) once.1.code once.2.1 :=
    recover_outcome faithful inv
  have next : StoreInvariant limits (content once.2.2) := recover_invariant faithful inv
  constructor
  · intro failed _ _ _ _ _ _ _ reliable start left recoverable possible ample
    obtain ⟨midway, revised, kept⟩ := outcome.of_interrupted failed
    rw [kept]
    rw [← start] at midway revised recoverable possible ample
    rw [← left] at midway revised next
    exact recover_resumed reliable midway revised next recoverable possible ample
  · intro done later
    obtain ⟨settled, _⟩ := outcome.of_written (by rw [done]; nofun) (by rw [done]; nofun)
    have agrees : QueueAgrees once.2.1 (content once.2.2) := (recover_agrees faithful inv done).2
    have nothing := settled.plan_nil next later
    obtain ⟨tables, queues⟩ : content (recover store verifier later once.2.1 once.2.2).2.2 = content once.2.2 ∧
        ((recover store verifier later once.2.1 once.2.2).2.1 = once.2.1 ∨
          (recover store verifier later once.2.1 once.2.2).2.1 = (once.2.1.restore (content once.2.2).snapshot).2) :=
      recover_idle faithful nothing
    intro again
    obtain ⟨log, run, _, _, silent⟩ : ∃ log, again = ((recover store verifier later once.2.1 once.2.2).1,
        (recover store verifier later once.2.1 once.2.2).2.1,
          (recover store verifier later once.2.1 once.2.2).2.2, log) ∧
        _ ∧ _ ∧ ((∀ snapshot, (store.load once.2.2).1 = .ok snapshot →
          (plan verifier later snapshot).mutations = []) → log = []) := recover_recording
    have none : log = [] := by
      refine silent fun snapshot loaded => ?_
      rw [faithful.load_snapshot _ snapshot loaded]
      exact nothing
    rw [run]
    refine ⟨none, tables, ?_⟩
    rcases queues with kept | restored
    · exact kept
    · rw [restored]
      by_cases applied : (once.2.1.restore (content once.2.2).snapshot).1.code = Option.none
      · obtain ⟨entries, capacity⟩ := restore_applied applied
        exact ext_entries capacity (entries.trans agrees.symm)
      · exact restore_rejected applied

end Runs

/-- The first write of the recovery is refused once. -/
def refusing : InMemoryStateStore := { state := crashed, nextApplyFailure := some .backendUnavailable }

def refusedRecovery : RecoveryResult × GlobalJobQueue × InMemoryStateStore :=
  recover (store {}) (fun _ => .processGone) 30 (.empty 8) refusing

theorem refusing_recoverable (late : 30 ≤ now) : Recoverable {} now refusing.state := by
  refine ⟨crashed_recoverable.stored, crashed_recoverable.revised, crashed_recoverable.room, ?_⟩
  intro record member
  have early := crashed_recoverable.timely record member
  exact ⟨fun start started => (early.clock start started).trans late, early.revision⟩

/-- The same recovery where nothing is refused. -/
def plainRecovery : RecoveryResult × GlobalJobQueue × StoreState :=
  recover (plainStore {}) (fun _ => .processGone) 40 (.empty 8) crashed

theorem recover_resumable_idempotent_refused :
    let gone : IdentityVerifier := fun _ => .processGone
    let plain := plainStore {}
    SameButTimes (id (recover plain gone 50 refusedRecovery.2.1 refusedRecovery.2.2.state).2.2)
      (id plainRecovery.2.2) ∧
      (recover (recording plain) gone 50 plainRecovery.2.1 (plainRecovery.2.2, [])).2.2.2 = [] := by
  intro gone plain
  have again := (recover_resumable_idempotent gone 30 (.empty 8) (faithful {})
    (refusing_recoverable (le_refl _)).stored).1 (by decide) plain id crashed refusedRecovery.2.2.state 40 50
    (plainStore_reliable {}) rfl rfl (refusing_recoverable (by decide))
    (refusing_recoverable (by decide)) ⟨by decide, by decide⟩
  have stored : StoreInvariant {} (id crashed) := crashed_recoverable.stored
  have idle := (recover_resumable_idempotent gone 40 (.empty 8)
    (plainStore_reliable {}).toFaithful stored).2 (by decide) 50
  exact ⟨again.2.2, idle.1⟩

end JobRecovery

end Yori
