import Yori.Recovery.Chunks

namespace Yori.JobRecovery
open MachineWord MutationCore

variable {σ : Type} {store : StateStore σ} {limits : ValidationConfig} {content : σ → StoreState} {backend : σ}
  {verifier : IdentityVerifier} {now : TimePoint} {queue : GlobalJobQueue} {state : StoreState}

/-- A stored state that a recovery at this time can bring in order: its
revisions have room, and the clock has not fallen behind a start on record. -/
structure Recoverable (limits : ValidationConfig) (now : TimePoint) (state : StoreState) : Prop where
  stored : StoreInvariant limits state
  revised : state.revision = 0 → state.jobs.values = [] ∧ state.leases.values = []
  room : state.revision.toNat + state.jobs.size < 2 ^ 64
  timely : ∀ record ∈ state.jobs.values, Timely now record

/-- What the jobs and leases are after a recovery. -/
structure RecoveredAll (verifier : IdentityVerifier) (before after : StoreState) : Prop where
  jobs : ∀ id, after.jobs.contains id = before.jobs.contains id
  lost : ∀ id old new, before.jobs.find? id = some old → after.jobs.find? id = some new →
    (new.state = .lost ↔ old.state = .lost ∨ abandoned verifier old = true)
  givenUp : ∀ id old new, before.jobs.find? id = some old → after.jobs.find? id = some new →
    abandoned verifier old = true → new.execution.failureReason.isSome ∧ new.execution.endTime.isSome ∧
      ∀ uuid lease, after.leases.find? uuid = some lease → lease.jobId ≠ id
  confirmed : ∀ id old new, before.jobs.find? id = some old → after.jobs.find? id = some new →
    old.state = .starting → confirmed verifier old = true → new.state = .running
  unchanged : ∀ id old, before.jobs.find? id = some old → abandoned verifier old = false → old.state ≠ .starting →
    after.jobs.find? id = some old
  leases : ∀ uuid lease, after.leases.find? uuid = some lease ↔ before.leases.find? uuid = some lease ∧
    ∀ owner, before.jobs.find? lease.jobId = some owner → abandoned verifier owner = false

theorem Settled.recoveredAll {after : StoreState} (settled : Settled verifier now state after)
    (inv : StoreInvariant limits state) (next : StoreInvariant limits after) : RecoveredAll verifier state after := by
  have row : ∀ id old new, state.jobs.find? id = some old → after.jobs.find? id = some new →
      new = recoveredRecord verifier now old := by
    intro _ _ _ atOld atNew
    rw [settled.rows, atOld] at atNew
    exact (Option.some.inj atNew).symm
  refine ⟨?_, ?_, ?_, ?_, ?_, fun uuid lease => settled.lease_iff inv next⟩
  · intro id
    rw [SortedMap.contains, SortedMap.contains, settled.rows]
    cases state.jobs.find? id <;> rfl
  · intro id old new atOld atNew
    rw [row id old new atOld atNew, recoveredRecord_lost_iff]
  · intro id old new atOld atNew lost
    have target := row id old new atOld atNew
    rw [recoveredRecord, if_pos lost] at target
    subst target
    refine ⟨rfl, rfl, ?_⟩
    intro _ _ left own
    have kept := ((settled.lease_iff inv next).mp left).2 old (by rw [own, atOld])
    simp [lost] at kept
  · intro id old new atOld atNew starting holds
    have target := row id old new atOld atNew
    simp only [recoveredRecord, abandoned, promoted, starting, holds] at target
    rw [target]
    rfl
  · intro _ old atOld kept other
    have stays : promoted verifier old = false := by simp [promoted, other]
    rw [settled.rows, atOld, Option.map_some, recoveredRecord_of_settled kept stays]

theorem plan_size : (plan verifier now state.snapshot).mutations.length ≤ state.jobs.size := by
  have values : state.snapshot.jobs.length = state.jobs.size := List.length_map ..
  rw [plan, List.filterMap_map, ← values]
  exact List.length_filterMap_le ..

theorem Recoverable.readable (recoverable : Recoverable limits now state) :
    ¬(state.snapshot.revision = 0 ∧ (state.snapshot.jobs ≠ [] ∨ state.snapshot.leases ≠ [])) := by
  rintro ⟨zero, jobs | leases⟩
  · exact jobs (recoverable.revised zero).1
  · exact leases (recoverable.revised zero).2

/-- How a recovery ends, as far as the tables and the queue go. -/
inductive RecoverOutcome (verifier : IdentityVerifier) (now : TimePoint) (queue : GlobalJobQueue)
    (before after : StoreState) : Option RecoveryErrorCode → GlobalJobQueue → Prop
  | unread (same : after = before) : RecoverOutcome verifier now queue before after (some .storeLoadFailed) queue
  | interrupted (midway : Midway verifier now before after) (revised : RevisedBy before.jobs.size before after) :
      RecoverOutcome verifier now queue before after (some .storeWriteFailed) queue
  | unqueued (settled : Settled verifier now before after) (full : (queue.restore before.snapshot).1.code ≠ none) :
      RecoverOutcome verifier now queue before after (some .queueRestoreFailed) queue
  | finished (settled : Settled verifier now before after) (restored : (queue.restore before.snapshot).1.code = none) :
      RecoverOutcome verifier now queue before after none (queue.restore before.snapshot).2

namespace RecoverOutcome

variable {after : StoreState} {code : Option RecoveryErrorCode} {rebuilt : GlobalJobQueue}

section

variable (outcome : RecoverOutcome verifier now queue state after code rebuilt)
include outcome

theorem of_written (read : code ≠ some .storeLoadFailed) (wrote : code ≠ some .storeWriteFailed) :
    Settled verifier now state after ∧ rebuilt = (queue.restore state.snapshot).2 ∧
      code = if (queue.restore state.snapshot).1.code = none then none else some .queueRestoreFailed := by
  cases outcome with
  | unread => exact absurd rfl read
  | interrupted => exact absurd rfl wrote
  | unqueued settled full => exact ⟨settled, (GlobalJobQueue.restore_rejected full).symm, (if_neg full).symm⟩
  | finished settled restored => exact ⟨settled, rfl, (if_pos restored).symm⟩

theorem of_success (ok : code = none) :
    Settled verifier now state after := by
  cases outcome with
  | finished settled => exact settled
  | unread | interrupted | unqueued => simp at ok

theorem of_interrupted (failed : code = some .storeWriteFailed) :
    Midway verifier now state after ∧ RevisedBy state.jobs.size state after ∧ rebuilt = queue := by
  cases outcome with
  | interrupted midway revised => exact ⟨midway, revised, rfl⟩
  | unread | unqueued | finished => simp at failed

end

end RecoverOutcome

section Faithful

theorem Midway.of_tables {current other : StoreState} (midway : Midway verifier now state current)
    (same : SameTables other current) : Midway verifier now state other :=
  ⟨fun id => by rw [same.1]; exact midway.rows id, fun uuid lease => by rw [same.2]; exact midway.leases uuid lease⟩

theorem Settled.of_tables {current other : StoreState} (settled : Settled verifier now state current)
    (same : SameTables other current) : Settled verifier now state other :=
  ⟨fun id => by rw [same.1]; exact settled.rows id, fun uuid lease => by rw [same.2]; exact settled.leases uuid lease⟩

section

variable (faithful : Faithful limits store content)
include faithful

/-- The writes of a recovery, whether they all succeed or stop somewhere. -/
theorem writeChunks_planned {revision : UInt64}
    (inv : StoreInvariant limits state) (loaded : content backend = state) :
    let written := writeChunks store (plan verifier now state.snapshot).mutations {} revision backend
    Midway verifier now state (content written.2) ∧ RevisedBy state.jobs.size state (content written.2) ∧
      ∀ next, written.1 = .ok next → Settled verifier now state (content written.2) := by
  intro written
  subst loaded
  obtain ⟨done, rest, whole, tables, revised, all⟩ : ∃ done rest, [] ++
      (plan verifier now (content backend).snapshot).mutations.map (·.rewrite) = done ++ rest ∧
      SameTables (content written.2) (appliedAll done (content backend)) ∧
      RevisedBy (0 + (plan verifier now (content backend).snapshot).mutations.length) (content backend)
        (content written.2) ∧
      ∀ next, written.1 = .ok next → rest = [] := writeChunks_applied faithful
  rw [List.nil_append] at whole
  have length : (plan verifier now (content backend).snapshot).mutations.length ≤ (content backend).jobs.size :=
    plan_size
  have bounded : RevisedBy (content backend).jobs.size (content backend) (content written.2) := by
    simp only [RevisedBy] at revised ⊢
    omega
  refine ⟨(midway_applied inv whole).of_tables tables, bounded, ?_⟩
  intro next ok
  have everything : done = (plan verifier now (content backend).snapshot).mutations.map (·.rewrite) := by
    rw [whole, all next ok, List.append_nil]
  subst everything
  exact (settled_applied inv).of_tables tables

theorem recover_outcome (inv : StoreInvariant limits (content backend)) :
    RecoverOutcome verifier now queue (content backend) (content (recover store verifier now queue backend).2.2)
      (recover store verifier now queue backend).1.code (recover store verifier now queue backend).2.1 := by
  have run := recover_run faithful verifier now queue backend
  generalize recover store verifier now queue backend = result at run ⊢
  cases run with
  | unread _ _ reads => exact .unread reads
  | interrupted _ _ _ reads written =>
    obtain ⟨midway, revised, _⟩ := writeChunks_planned faithful inv reads
    rw [written] at midway revised
    exact .interrupted midway revised
  | unqueued _ _ revision _ reads written refused =>
    obtain ⟨_, _, settled⟩ := writeChunks_planned faithful inv reads
    rw [written] at settled
    rw [GlobalJobQueue.restore_rejected (by rw [refused]; simp)]
    exact .unqueued (settled revision rfl) (by rw [refused]; simp)
  | finished _ _ revision reads written restored =>
    obtain ⟨_, _, settled⟩ := writeChunks_planned faithful inv reads
    rw [written] at settled
    exact .finished (settled revision rfl) restored

theorem recover_invariant (inv : StoreInvariant limits (content backend)) :
    StoreInvariant limits (content (recover store verifier now queue backend).2.2) :=
  (recover_progress faithful inv verifier now queue).stored

/-- What a successful recovery reports is its plan. -/
theorem recover_outcomes (recovered : (recover store verifier now queue backend).1.code = none) :
    (recover store verifier now queue backend).1.outcomes =
      (plan verifier now (content backend).snapshot).outcomes := by
  have run := recover_run faithful verifier now queue backend
  generalize recover store verifier now queue backend = result at run recovered ⊢
  cases run with
  | unread => simp at recovered
  | interrupted | unqueued | finished => rfl

end

end Faithful

section Reliable

section

variable (reliable : Reliable limits store content) (recoverable : Recoverable limits now (content backend))
include reliable recoverable

theorem recover_writes :
    (recover store verifier now queue backend).1.code ≠ some .storeLoadFailed ∧
      (recover store verifier now queue backend).1.code ≠ some .storeWriteFailed := by
  have inv := recoverable.stored
  have reads := reliable.load_content backend
  have length : (plan verifier now (content backend).snapshot).mutations.length ≤ (content backend).jobs.size :=
    plan_size
  obtain ⟨next, written⟩ : ∃ next, (writeChunks store (plan verifier now (content backend).snapshot).mutations
      (batch [] 0) (content backend).revision (store.load backend).2).1 = .ok next := by
    refine writeChunks_accepted reliable (by rw [reads]; exact inv) ?_ (by rw [reads]) (Nat.zero_le _) ?_
    · rw [reads]
      exact plan_suits inv recoverable.timely
    · have room := recoverable.room
      rw [List.length_nil]
      omega
  unfold recover
  rw [reliable.load_eq backend]
  simp only
  split
  · rename_i failed
    have ok := written.symm.trans (congrArg Prod.fst failed)
    simp at ok
  · split
    · exact ⟨nofun, nofun⟩
    · exact ⟨nofun, nofun⟩

/-- Over a store without failures of its own the tables always get settled, and
only the capacity of the queue decides how the recovery ends. -/
theorem recover_settled :
    Settled verifier now (content backend) (content (recover store verifier now queue backend).2.2) ∧
      ((recover store verifier now queue backend).1.code = none ↔
        (queuedEntries (content backend).snapshot.jobs).length ≤ queue.capacity) := by
  have inv := recoverable.stored
  obtain ⟨read, wrote⟩ : (recover store verifier now queue backend).1.code ≠ some .storeLoadFailed ∧
      (recover store verifier now queue backend).1.code ≠ some .storeWriteFailed := recover_writes reliable recoverable
  have restored : (queue.restore (content backend).snapshot).1.code = none ↔
      (queuedEntries (content backend).snapshot.jobs).length ≤ queue.capacity :=
    GlobalJobQueue.restore_code_iff recoverable.readable inv.jobIds inv.specs inv.queuedIff inv.distinctIds
  obtain ⟨settled, _, code⟩ := (recover_outcome reliable.toFaithful inv).of_written read wrote
  refine ⟨settled, ?_⟩
  rw [code, ← restored]
  split
  · rename_i applied
    exact iff_of_true rfl applied
  · rename_i refused
    exact iff_of_false nofun refused

end

/-- A recovery over a store that fails only on invalid mutations succeeds, with
chunks that fit into a mutation and are all accepted. It gives up exactly the
active jobs whose processes are not confirmed, together with their devices, and
leaves everything else, but for a confirmed process that was not yet reported. -/
theorem recover_result (verifier : IdentityVerifier) (queue : GlobalJobQueue)
    (reliable : Reliable limits store content) (recoverable : Recoverable limits now (content backend))
    (capacity : (queuedEntries (content backend).snapshot.jobs).length ≤ queue.capacity) :
    let done := recover store verifier now queue backend
    let logged := recover (recording store) verifier now queue (backend, [])
    let writes := logged.2.2.2
    done.1.code = none ∧ logged = (done.1, done.2.1, done.2.2, writes) ∧
      (∀ write ∈ writes, write.1.entryCount ≤ 64 ∧ write.2.code = none) ∧
      RecoveredAll verifier (content backend) (content done.2.2) ∧
      done.2.1.entries = sortedQueued (content done.2.2).snapshot.jobs := by
  intro done logged writes
  have inv := recoverable.stored
  obtain ⟨settled, succeeds⟩ : Settled verifier now (content backend) (content done.2.2) ∧ (done.1.code = none ↔
      (queuedEntries (content backend).snapshot.jobs).length ≤ queue.capacity) := recover_settled reliable recoverable
  have ok := succeeds.mpr capacity
  obtain ⟨next, agrees⟩ := recover_agrees reliable.toFaithful inv ok
  obtain ⟨log, run, small, accepted, _⟩ : ∃ log, logged = (done.1, done.2.1, done.2.2, log) ∧
      (∀ write ∈ log, write.1.entryCount ≤ StateMutation.maxEntries) ∧
      (done.1.code = none → ∀ write ∈ log, write.2.code = none) ∧ _ := recover_recording
  have same : writes = log := congrArg (fun result => result.2.2.2) run
  subst same
  exact ⟨ok, run, fun write member => ⟨small write member, accepted ok write member⟩, settled.recoveredAll inv next,
    agrees⟩

end Reliable

section Crashed

/-- A job as it is submitted. -/
def submittedJob (number : Nat) : StoredJob where
  id := ⟨.ofNat number⟩
  spec := .minimal number {}
  state := .queued
  revision := 0

/-- A store as a crash may leave it: the first job runs, the second was caught
before its spawn, the third waits. -/
def crashed : StoreState := runMutations {} .initial
  [{ expectedRevision := 0, createJobs := [submittedJob 1, submittedJob 2, submittedJob 3] },
    { expectedRevision := 1
      updateJobs := [{ submittedJob 1 with state := .starting, revision := 1 },
        { submittedJob 2 with state := .starting, revision := 1 }]
      acquireLeases := [⟨⟨.ascii "GPU-0"⟩, ⟨1⟩⟩, ⟨⟨.ascii "GPU-1"⟩, ⟨2⟩⟩] },
    { expectedRevision := 2
      updateJobs := [{ submittedJob 1 with
        state := .running, revision := 2, execution := { identity := ⟨100, 100, 7⟩, startTime := some 10 } }] }]

theorem crashed_recoverable : Recoverable {} 30 crashed := by
  have timely : ∀ record ∈ crashed.jobs.values,
      (∀ start ∈ record.execution.startTime, start ≤ 30) ∧ record.revision ≠ max64 := by decide
  refine ⟨runMutations_invariant _ _, by decide, by decide, ?_⟩
  intro record member
  exact ⟨(timely record member).1, (timely record member).2⟩

theorem recover_result_crashed :
    let done := recover (InMemoryStateStore.plainStore {}) (fun _ => .verified) 30 (.empty 8) crashed
    done.1.code = none ∧ RecoveredAll (fun _ => .verified) crashed done.2.2 := by
  intro _
  obtain ⟨ok, _, _, all, _⟩ := recover_result (fun _ => .verified) (.empty 8)
    (InMemoryStateStore.plainStore_reliable {}) crashed_recoverable (by decide)
  exact ⟨ok, all⟩

end Crashed

end Yori.JobRecovery
