import Yori.Recovery.JobRecovery
import Yori.Runtime.Acceptance
import Yori.Store.ExecutionSpec

namespace Yori
open SortedMap List RecoveryMutationEntry

def RecoveryMutationEntry.rewrite (entry : RecoveryMutationEntry) : Rewrite := ⟨entry.updateJob, entry.releaseGpu⟩

namespace JobRecovery
open MachineWord MutationCore

variable {entry : RecoveryMutationEntry} {uuid : GpuUuid}

/-- The recorded process is there, and it is the recorded one. -/
def confirmed (verifier : IdentityVerifier) (record : StoredJob) : Bool :=
  record.execution.hasIdentity && verifier record.execution.identity == .verified

/-- The job is active, but its process is not confirmed. -/
def abandoned (verifier : IdentityVerifier) (record : StoredJob) : Bool :=
  isActive record.state && !confirmed verifier record

/-- The job was caught between its spawn and the report of it. -/
def promoted (verifier : IdentityVerifier) (record : StoredJob) : Bool :=
  record.state == .starting && confirmed verifier record

/-- What a whole recovery makes of a record. -/
def recoveredRecord (verifier : IdentityVerifier) (now : TimePoint) (record : StoredJob) : StoredJob :=
  if abandoned verifier record then lostRecord (activeDecision verifier record) now record
  else if promoted verifier record then promotedRecord record
  else record

section Records

variable {verifier : IdentityVerifier} {now : TimePoint} {snapshot : StateSnapshot} {record : StoredJob}

theorem isActive_eq_leaseable (state : JobState) : isActive state = leaseable state := by
  cases state <;> rfl

theorem activeDecision_of_unconfirmed (unconfirmed : confirmed verifier record = false) :
    activeDecision verifier record ∈
      [RecoveryDecisionCode.lostProcessGone, .lostIdentityMismatch, .lostIdentityMissing] := by
  unfold confirmed at unconfirmed
  unfold activeDecision
  cases identified : record.execution.hasIdentity with
  | false => simp
  | true =>
    cases answer : verifier record.execution.identity with
    | verified => simp [identified, answer] at unconfirmed
    | processGone | mismatch => simp

theorem activeDecision_of_confirmed (holds : confirmed verifier record = true) :
    activeDecision verifier record = match record.state with
      | .starting => .adoptedPromotedToRunning
      | .stopping => .adoptedStoppingNeedsRecancel
      | _ => .adoptedRunning := by
  unfold confirmed at holds
  simp only [Bool.and_eq_true, beq_iff_eq] at holds
  obtain ⟨identified, verified⟩ := holds
  unfold activeDecision
  rw [identified, verified]
  cases record.state <;> rfl

theorem planJob_jobId : (planJob verifier now snapshot record).1.jobId = record.id := by
  unfold planJob
  split
  · rfl
  · simp only
    split <;> rfl

theorem planJob_decision : (planJob verifier now snapshot record).1.decision =
    if isActive record.state then activeDecision verifier record
    else if record.state = .queued then .queuedRestored else .terminalUntouched := by
  unfold planJob
  cases active : isActive record.state with
  | false => rfl
  | true =>
    simp only [Bool.not_true, Bool.false_eq_true, if_false, if_true]
    split <;> simp_all

/-- The write that the plan holds for a record. -/
theorem planJob_entry : (planJob verifier now snapshot record).2 =
    if abandoned verifier record then
      some ⟨recoveredRecord verifier now record, findLeaseGpu snapshot record.id⟩
    else if promoted verifier record then some ⟨recoveredRecord verifier now record, none⟩
    else none := by
  unfold planJob recoveredRecord
  cases active : isActive record.state with
  | false =>
    have notStarting : record.state ≠ .starting := by
      intro starting
      simp [starting, isActive] at active
    simp [abandoned, promoted, active, notStarting]
  | true =>
    cases holds : confirmed verifier record with
    | false =>
      have decision := activeDecision_of_unconfirmed holds
      simp only [mem_cons, not_mem_nil, or_false] at decision
      rcases decision with gone | mismatch | missing
      · simp [abandoned, active, holds, gone]
      · simp [abandoned, active, holds, mismatch]
      · simp [abandoned, active, holds, missing]
    | true =>
      have decision := activeDecision_of_confirmed holds
      cases atState : record.state with
      | starting | running | stopping =>
        rw [atState] at decision
        simp [abandoned, promoted, holds, decision, atState]
      | queued | finished | failed | cancelled | lost => simp [atState, isActive] at active

theorem planJob_entry_eq_some :
    (planJob verifier now snapshot record).2 = some entry ↔
      (abandoned verifier record = true ∧
        entry = ⟨recoveredRecord verifier now record, findLeaseGpu snapshot record.id⟩) ∨
      (promoted verifier record = true ∧ entry = ⟨recoveredRecord verifier now record, none⟩) := by
  rw [planJob_entry]
  cases lost : abandoned verifier record with
  | true =>
    have confirmedNot : promoted verifier record = false := by
      simp only [abandoned, Bool.and_eq_true, Bool.not_eq_true'] at lost
      simp [promoted, lost.2]
    simp [confirmedNot, eq_comm]
  | false => cases promoted verifier record <;> simp [eq_comm]

theorem planJob_record (planned : (planJob verifier now snapshot record).2 = some entry) :
    entry.updateJob = recoveredRecord verifier now record := by
  rcases planJob_entry_eq_some.mp planned with ⟨_, same⟩ | ⟨_, same⟩
  · rw [same]
  · rw [same]

@[simp] theorem recoveredRecord_id : (recoveredRecord verifier now record).id = record.id := by
  unfold recoveredRecord
  repeat' split
  all_goals rfl

/-- Nothing is left to do about a recovered record. -/
theorem recoveredRecord_settled : abandoned verifier (recoveredRecord verifier now record) = false ∧
    promoted verifier (recoveredRecord verifier now record) = false := by
  unfold recoveredRecord
  split
  · exact ⟨rfl, rfl⟩
  · rename_i kept
    split
    · rename_i holds
      simp only [promoted, Bool.and_eq_true] at holds
      have same : confirmed verifier (promotedRecord record) = true := holds.2
      exact ⟨by simp [abandoned, same], rfl⟩
    · rename_i stays
      exact ⟨by simpa using kept, by simpa using stays⟩

theorem recoveredRecord_of_settled (kept : abandoned verifier record = false)
    (stays : promoted verifier record = false) : recoveredRecord verifier now record = record := by
  simp [recoveredRecord, kept, stays]

theorem recoveredRecord_lost_iff : (recoveredRecord verifier now record).state = .lost ↔
    record.state = .lost ∨ abandoned verifier record = true := by
  unfold recoveredRecord
  split
  · rename_i lost
    exact iff_of_true rfl (.inr lost)
  · rename_i kept
    split
    · rename_i holds
      simp only [promoted, Bool.and_eq_true, beq_iff_eq] at holds
      refine iff_of_false nofun ?_
      rintro (lost | lost)
      · simp [lost] at holds
      · exact kept lost
    · simp [kept]

/-- A lost job is left without a reason to hold a device. -/
theorem recoveredRecord_leaseable : leaseable (recoveredRecord verifier now record).state =
    (leaseable record.state && !abandoned verifier record) := by
  unfold recoveredRecord
  split
  · rename_i lost
    simp [lost, lostRecord, leaseable]
  · rename_i kept
    split
    · rename_i holds
      simp only [promoted, Bool.and_eq_true, beq_iff_eq] at holds
      simp [kept, promotedRecord, holds.1, leaseable]
    · simp [kept]

end Records

section Plan

variable {limits : ValidationConfig} {state current : StoreState} {verifier : IdentityVerifier} {now : TimePoint}
  {record : StoredJob}

theorem mem_plan {snapshot : StateSnapshot} :
    entry ∈ (plan verifier now snapshot).mutations ↔
      ∃ record ∈ snapshot.jobs, (planJob verifier now snapshot record).2 = some entry := by
  simp [plan, mem_filterMap]

/-- The device that a lost job gives up is its own. -/
theorem findLeaseGpu_held (inv : StoreInvariant limits state) (found : state.jobs.find? record.id = some record)
    (active : leaseable record.state = true) :
    ∃ uuid, findLeaseGpu state.snapshot record.id = some uuid ∧
      state.leases.find? uuid = some ⟨uuid, record.id⟩ := by
  obtain ⟨place, held, atPlace, own⟩ := inv.held found active
  have some : (state.leases.values.find? (·.jobId == record.id)).isSome = true := by
    rw [find?_isSome]
    exact ⟨held, mem_values.mpr ⟨place, atPlace⟩, by simpa using own⟩
  obtain ⟨lease, atLease⟩ := Option.isSome_iff_exists.mp some
  obtain ⟨key, atKey⟩ := mem_values.mp (mem_of_find?_eq_some atLease)
  have owner : lease.jobId = record.id := by simpa using find?_some atLease
  have place := inv.leaseKeys key lease atKey
  refine ⟨lease.gpuUuid, by simp [findLeaseGpu, StoreState.snapshot, atLease], ?_⟩
  rw [← owner, place]
  cases lease
  cases place
  exact atKey

/-- What is asked of the clock and of the revisions before the writes. -/
structure Timely (now : TimePoint) (record : StoredJob) : Prop where
  clock : ∀ start ∈ record.execution.startTime, start ≤ now
  revision : record.revision ≠ max64

theorem acceptableReason_lost (unconfirmed : confirmed verifier record = false) :
    acceptableReason (recoveryFailureReason (activeDecision verifier record)) = true := by
  have decision := activeDecision_of_unconfirmed unconfirmed
  simp only [mem_cons, not_mem_nil, or_false] at decision
  rcases decision with gone | mismatch | missing
  · rw [gone]
    decide
  · rw [mismatch]
    decide
  · rw [missing]
    decide

theorem lostRecord_valid (valid : record.ExecutionValid) (lost : abandoned verifier record = true)
    (clock : ∀ start ∈ record.execution.startTime, start ≤ now) :
    (lostRecord (activeDecision verifier record) now record).ExecutionValid := by
  have unconfirmed : confirmed verifier record = false := by
    simp only [abandoned, Bool.and_eq_true, Bool.not_eq_true'] at lost
    exact lost.2
  have facts := StoredJob.executionValid_iff.mp valid
  refine StoredJob.executionValid_iff.mpr ((facts.close_iff rfl record.execution.exit (some _) now).mpr ⟨?_, clock⟩)
  intro _ same
  cases same
  exact acceptableReason_lost unconfirmed

theorem promotedRecord_valid (valid : record.ExecutionValid) (holds : promoted verifier record = true) :
    (promotedRecord record).ExecutionValid := by
  simp only [promoted, confirmed, Bool.and_eq_true, beq_iff_eq] at holds
  obtain ⟨starting, identified, _⟩ := holds
  have facts := StoredJob.executionValid_iff.mp valid
  have live : record.state.isTerminal = false := by rw [starting]; rfl
  obtain ⟨exit, endTime, reason⟩ := facts.unended live
  refine StoredJob.executionValid_iff.mpr ⟨.inr identified, fun _ => nofun, fun _ => identified, ?_,
    facts.started, ?_, ?_,
    fun path same => ⟨nofun, (facts.logPath path same).2⟩⟩
  · intro present
    simp [promotedRecord, exit] at present
  · intro _ same
    simp [promotedRecord, endTime] at same
  · intro _ same
    simp [promotedRecord, reason] at same

/-- The write about a lost job suits any tables that still hold its record and
its device. -/
theorem suits_lost (lost : abandoned verifier record = true) (valid : RecordValid record) (timely : Timely now record)
    (found : current.jobs.find? record.id = some record) (held : current.leases.find? uuid = some ⟨uuid, record.id⟩) :
    Rewrite.Suits ⟨recoveredRecord verifier now record, some uuid⟩ current record := by
  have target : recoveredRecord verifier now record = lostRecord (activeDecision verifier record) now record := by
    simp [recoveredRecord, lost]
  have active : isActive record.state = true := by
    simp only [abandoned, Bool.and_eq_true] at lost
    exact lost.1
  have allowed : canTransition record.state .lost = true := by
    revert active
    cases record.state <;> decide
  rw [target]
  refine ⟨found, rfl, rfl, timely.revision, rfl, allowed, lostRecord_valid valid.execution lost timely.clock, nofun, ?_⟩
  intro _ same
  cases same
  exact ⟨rfl, held⟩

theorem suits_promoted (holds : promoted verifier record = true) (valid : RecordValid record)
    (timely : Timely now record) (found : current.jobs.find? record.id = some record) :
    Rewrite.Suits ⟨recoveredRecord verifier now record, none⟩ current record := by
  have verified : confirmed verifier record = true ∧ record.state = .starting := by
    simp only [promoted, Bool.and_eq_true, beq_iff_eq] at holds
    exact ⟨holds.2, holds.1⟩
  have target : recoveredRecord verifier now record = promotedRecord record := by
    simp [recoveredRecord, abandoned, verified.1, holds]
  rw [target]
  refine ⟨found, rfl, rfl, timely.revision, rfl, ?_, promotedRecord_valid valid.execution holds, ?_, nofun⟩
  · rw [verified.2]
    rfl
  · intro _
    rw [verified.2]
    rfl

/-- The planned writes suit the tables one after the other: the induction is on
the records, with their rows and devices untouched by the writes about earlier
ones. -/
theorem suitAll_records (inv : StoreInvariant limits state) {records : List StoredJob}
    (stored : ∀ record ∈ records, state.jobs.find? record.id = some record) (distinct : (records.map (·.id)).Nodup)
    (timely : ∀ record ∈ records, Timely now record)
    (rows : ∀ record ∈ records, current.jobs.find? record.id = some record)
    (devices : ∀ record ∈ records, ∀ uuid, state.leases.find? uuid = some ⟨uuid, record.id⟩ →
      current.leases.find? uuid = some ⟨uuid, record.id⟩) :
    SuitAll ((records.filterMap fun record => (planJob verifier now state.snapshot record).2).map (·.rewrite))
      current := by
  induction records generalizing current with
  | nil => trivial
  | cons record rest ih =>
    obtain ⟨storedHere, storedLater⟩ := forall_mem_cons.mp stored
    obtain ⟨timelyHere, timelyLater⟩ := forall_mem_cons.mp timely
    obtain ⟨rowHere, rowsLater⟩ := forall_mem_cons.mp rows
    obtain ⟨deviceHere, devicesLater⟩ := forall_mem_cons.mp devices
    rw [map_cons, nodup_cons] at distinct
    have others : ∀ other ∈ rest, other.id ≠ record.id := by
      intro other member same
      exact distinct.1 (mem_map.mpr ⟨other, member, same⟩)
    have valid := (inv.jobsValid _ record storedHere).2
    rw [filterMap_cons]
    cases planned : (planJob verifier now state.snapshot record).2 with
    | none => exact ih storedLater distinct.2 timelyLater rowsLater devicesLater
    | some =>
      rcases planJob_entry_eq_some.mp planned with ⟨lost, same⟩ | ⟨holds, same⟩
      · have active : leaseable record.state = true := by
          simp only [abandoned, Bool.and_eq_true, isActive_eq_leaseable] at lost
          exact lost.1
        obtain ⟨uuid, atUuid, held⟩ := findLeaseGpu_held inv storedHere active
        rw [atUuid] at same
        subst same
        refine ⟨⟨record, suits_lost lost valid timelyHere rowHere (deviceHere uuid held)⟩, ?_⟩
        refine ih storedLater distinct.2 timelyLater ?_ ?_
        · intro other member
          simp only [Rewrite.applied, rewrite, recoveredRecord_id]
          rw [find?_insert_of_ne _ _ (others other member)]
          exact rowsLater other member
        · intro other member place atPlace
          have elsewhere : place ≠ uuid := by
            intro here
            subst here
            have leases := Option.some.inj (atPlace.symm.trans held)
            exact others other member (GpuLease.mk.inj leases).2
          simp only [Rewrite.applied, rewrite]
          rw [find?_erase, if_neg elsewhere]
          exact devicesLater other member place atPlace
      · subst same
        refine ⟨⟨record, suits_promoted holds valid timelyHere rowHere⟩, ?_⟩
        refine ih storedLater distinct.2 timelyLater ?_ devicesLater
        intro other member
        simp only [Rewrite.applied, rewrite, recoveredRecord_id]
        rw [find?_insert_of_ne _ _ (others other member)]
        exact rowsLater other member

theorem plan_suits (inv : StoreInvariant limits state) (timely : ∀ record ∈ state.jobs.values, Timely now record) :
    SuitAll ((plan verifier now state.snapshot).mutations.map (·.rewrite)) state := by
  have stored : ∀ record ∈ state.jobs.values, state.jobs.find? record.id = some record := fun record member =>
    inv.mem_snapshot.mp member
  rw [plan, filterMap_map]
  exact suitAll_records inv stored inv.distinctIds timely stored fun _ _ _ held => held

end Plan

section Tables

variable {limits : ValidationConfig} {state current : StoreState} {verifier : IdentityVerifier} {now : TimePoint}
  {id : JobId}

/-- The planned writes name each job once. -/
theorem plan_distinct (inv : StoreInvariant limits state) :
    ((plan verifier now state.snapshot).mutations.map (·.updateJob.id)).Nodup := by
  have ids : ∀ records : List StoredJob,
      ((records.filterMap fun record => (planJob verifier now state.snapshot record).2).map (·.updateJob.id)).Sublist
        (records.map (·.id)) := by
    intro records
    induction records with
    | nil => exact .slnil
    | cons record _ ih =>
      rw [filterMap_cons, map_cons]
      cases planned : (planJob verifier now state.snapshot record).2 with
      | none => exact ih.cons _
      | some entry =>
        have own : entry.updateJob.id = record.id := by rw [planJob_record planned, recoveredRecord_id]
        rw [map_cons, own]
        exact ih.cons_cons _
  rw [plan, filterMap_map]
  exact inv.distinctIds.sublist (ids _)

/-- A record that no write is planned for is as recovery wants it. -/
theorem recoveredRecord_unplanned (inv : StoreInvariant limits state) {record : StoredJob}
    (found : state.jobs.find? id = some record)
    (unplanned : ∀ entry ∈ (plan verifier now state.snapshot).mutations, entry.updateJob.id ≠ id) :
    recoveredRecord verifier now record = record := by
  have key := inv.jobKeys id record found
  subst key
  cases planned : (planJob verifier now state.snapshot record).2 with
  | some entry =>
    have member := mem_plan.mpr ⟨record, inv.mem_snapshot.mpr found, planned⟩
    have own : entry.updateJob.id = record.id := by rw [planJob_record planned, recoveredRecord_id]
    exact absurd own (unplanned entry member)
  | none =>
    rw [planJob_entry] at planned
    split at planned
    · simp at planned
    · rename_i kept
      split at planned
      · simp at planned
      · rename_i stays
        exact recoveredRecord_of_settled (by simpa using kept) (by simpa using stays)

/-- Part of a recovery has been carried out: each row is as before or as
recovery leaves it, and no device has been leased. -/
structure Midway (verifier : IdentityVerifier) (now : TimePoint) (state current : StoreState) : Prop where
  rows : ∀ id, current.jobs.find? id = state.jobs.find? id ∨
    current.jobs.find? id = (state.jobs.find? id).map (recoveredRecord verifier now)
  leases : ∀ uuid lease, current.leases.find? uuid = some lease → state.leases.find? uuid = some lease

/-- All of a recovery has been carried out. -/
structure Settled (verifier : IdentityVerifier) (now : TimePoint) (state current : StoreState) : Prop where
  rows : ∀ id, current.jobs.find? id = (state.jobs.find? id).map (recoveredRecord verifier now)
  leases : ∀ uuid lease, current.leases.find? uuid = some lease → state.leases.find? uuid = some lease

section Applied

variable {done rest : List Rewrite}

/-- What the first of the planned writes lead to, row by row. -/
theorem applied_written (inv : StoreInvariant limits state)
    (split : (plan verifier now state.snapshot).mutations.map (·.rewrite) = done ++ rest) {rewrite : Rewrite}
    (member : rewrite ∈ done) :
    (appliedAll done state).jobs.find? rewrite.record.id =
      (state.jobs.find? rewrite.record.id).map (recoveredRecord verifier now) := by
  have ids : ((done ++ rest).map (·.record.id)).Nodup := by
    rw [← split, map_map]
    exact plan_distinct inv
  rw [map_append, nodup_append] at ids
  have planned : rewrite ∈ (plan verifier now state.snapshot).mutations.map (·.rewrite) := by
    rw [split]
    exact mem_append_left _ member
  obtain ⟨entry, atEntry, rfl⟩ := mem_map.mp planned
  obtain ⟨record, atRecord, composed⟩ := mem_plan.mp atEntry
  have target := planJob_record composed
  have stored : state.jobs.find? entry.updateJob.id = some record := by
    rw [target, recoveredRecord_id]
    exact inv.mem_snapshot.mp atRecord
  rw [appliedAll_row_own ids.1 member]
  change some entry.updateJob = (state.jobs.find? entry.updateJob.id).map _
  rw [stored, Option.map_some, ← target]

theorem applied_unwritten (unwritten : ¬∃ rewrite ∈ done, rewrite.record.id = id) :
    (appliedAll done state).jobs.find? id = state.jobs.find? id := by
  refine appliedAll_row_other ?_
  intro rewrite member same
  exact unwritten ⟨rewrite, member, same⟩

theorem midway_applied (inv : StoreInvariant limits state)
    (split : (plan verifier now state.snapshot).mutations.map (·.rewrite) = done ++ rest) :
    Midway verifier now state (appliedAll done state) := by
  refine ⟨?_, fun _ _ => appliedAll_leases⟩
  intro id
  by_cases written : ∃ rewrite ∈ done, rewrite.record.id = id
  · obtain ⟨_, member, own⟩ := written
    subst own
    exact .inr (applied_written inv split member)
  · exact .inl (applied_unwritten written)

theorem settled_applied (inv : StoreInvariant limits state) :
    Settled verifier now state
      (appliedAll ((plan verifier now state.snapshot).mutations.map (·.rewrite)) state) := by
  refine ⟨?_, fun _ _ => appliedAll_leases⟩
  intro id
  by_cases written : ∃ rewrite ∈ (plan verifier now state.snapshot).mutations.map (·.rewrite), rewrite.record.id = id
  · obtain ⟨_, member, own⟩ := written
    subst own
    exact applied_written inv (append_nil _).symm member
  · rw [applied_unwritten written]
    cases found : state.jobs.find? id with
    | none => rfl
    | some =>
      have unplanned : ∀ entry ∈ (plan verifier now state.snapshot).mutations, entry.updateJob.id ≠ id := by
        intro entry member same
        exact written ⟨entry.rewrite, mem_map.mpr ⟨entry, member, rfl⟩, same⟩
      rw [Option.map_some, recoveredRecord_unplanned inv found unplanned]

end Applied

/-- A device stays leased exactly if its job is not given up: what is left is
part of what was there, and every active job still has its lease. -/
theorem Settled.lease_iff (settled : Settled verifier now state current) (inv : StoreInvariant limits state)
    (after : StoreInvariant limits current) {lease : GpuLease} :
    current.leases.find? uuid = some lease ↔ state.leases.find? uuid = some lease ∧
      ∀ record, state.jobs.find? lease.jobId = some record → abandoned verifier record = false := by
  constructor
  · intro left
    refine ⟨settled.leases uuid lease left, ?_⟩
    intro _ found
    obtain ⟨_, atOwner, active⟩ :=
      ownerLeaseable_iff.mp (after.owner_leaseable (mem_values.mpr ⟨uuid, left⟩))
    rw [settled.rows, found] at atOwner
    cases atOwner
    simp only [recoveredRecord_leaseable, Bool.and_eq_true, Bool.not_eq_true'] at active
    exact active.2
  · intro ⟨held, kept⟩
    obtain ⟨owner, atOwner, active⟩ :=
      ownerLeaseable_iff.mp (inv.owner_leaseable (mem_values.mpr ⟨uuid, held⟩))
    have row : current.jobs.find? lease.jobId = some (recoveredRecord verifier now owner) := by
      rw [settled.rows, atOwner, Option.map_some]
    have still : leaseable (recoveredRecord verifier now owner).state = true := by
      rw [recoveredRecord_leaseable, active, kept owner atOwner]
      rfl
    obtain ⟨place, other, atPlace, own⟩ := after.held row still
    have before := settled.leases place other atPlace
    have here := inv.leasesValid.exclusive place other uuid lease before held own
    subst here
    rw [atPlace, ← before, held]

end Tables

end JobRecovery

end Yori
