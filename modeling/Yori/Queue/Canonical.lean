import Yori.Ipc.Service
import Yori.Queue.Restore
import Yori.Scheduler.Agreement

/-! The queue after any calls is the sorted list of what it contains, however it came to contain it. -/

namespace Yori
open MutationCore LowerBound QueueEntry IpcService List

variable {capacity : Nat} {limits : ValidationConfig}

inductive QueueCall
  | admitJob (record : StoredJob)
  | remove (id : JobId)
  | restore (snapshot : StateSnapshot)

namespace GlobalJobQueue

variable {queue : GlobalJobQueue}

def call (queue : GlobalJobQueue) : QueueCall → QueueOperationResult × GlobalJobQueue
  | .admitJob record => queue.admitJob record
  | .remove id => queue.remove id
  | .restore snapshot => queue.restore snapshot

def runCalls (queue : GlobalJobQueue) (calls : List QueueCall) : GlobalJobQueue :=
  calls.foldl (fun queue call => (queue.call call).2) queue

theorem call_rejected {call : QueueCall} (rejected : (queue.call call).1.code ≠ none) :
    (queue.call call).2 = queue := by
  cases call with
  | admitJob => exact admitJob_refused rejected
  | remove => exact remove_rejected rejected
  | restore => exact restore_rejected rejected

theorem call_capacity (queue : GlobalJobQueue) (call : QueueCall) : (queue.call call).2.capacity = queue.capacity := by
  by_cases applied : (queue.call call).1.code = none
  · cases call with
    | admitJob record =>
      cases checked : queue.checkAdmission record with
      | ok => exact (admitJob_accepted checked).2.1
      | error => exact congrArg capacity (admitJob_rejected checked).2
    | remove id =>
      show (queue.remove id).2.capacity = queue.capacity
      unfold remove
      split
      · rfl
      · split <;> rfl
    | restore => exact (restore_applied applied).2
  · rw [call_rejected applied]

theorem runCalls_capacity (queue : GlobalJobQueue) (calls : List QueueCall) :
    (queue.runCalls calls).capacity = queue.capacity := by
  induction calls generalizing queue with
  | nil => rfl
  | cons call _ ih => exact (ih (queue.call call).2).trans (call_capacity queue call)

theorem create_eq_ok {fresh : GlobalJobQueue} (created : create ⟨capacity⟩ = .ok fresh) : fresh = empty capacity := by
  unfold create at created
  exact (Except.ok.inj (Checked.guard_bind_eq_ok.mp created).2).symm

/-- Jobs that a queue has room for, in the order in which they are admitted. -/
structure Admissible (queue : GlobalJobQueue) (records : List StoredJob) : Prop where
  ids : ∀ record ∈ records, record.id.valid = true
  specs : ∀ record ∈ records, record.spec.Valid
  queued : ∀ record ∈ records, record.state = .queued
  zero : ∀ record ∈ records, record.revision = 0
  distinct : (records.map (·.id)).Nodup
  absent : ∀ record ∈ records, ∀ entry ∈ queue.entries, entry.jobId ≠ record.id
  room : queue.entries.length + records.length ≤ queue.capacity

/-- All of them get in, whatever their order. -/
theorem mem_admitAll {records : List StoredJob} (fitting : queue.Admissible records) (entry : QueueEntry) :
    entry ∈ (queue.runCalls (records.map .admitJob)).entries ↔
      entry ∈ queue.entries ∨ entry ∈ records.map ofRecord := by
  induction records generalizing queue with
  | nil => simp [runCalls]
  | cons record rest ih =>
    obtain ⟨id, idLater⟩ := forall_mem_cons.mp fitting.ids
    obtain ⟨spec, specLater⟩ := forall_mem_cons.mp fitting.specs
    obtain ⟨queued, queuedLater⟩ := forall_mem_cons.mp fitting.queued
    obtain ⟨zero, zeroLater⟩ := forall_mem_cons.mp fitting.zero
    obtain ⟨absent, absentLater⟩ := forall_mem_cons.mp fitting.absent
    obtain ⟨fresh, distinctLater⟩ := nodup_cons.mp fitting.distinct
    have room := fitting.room
    rw [length_cons] at room
    have accepted : queue.checkAdmission record = .ok () :=
      checkAdmission_eq_ok.mpr ⟨id, spec, queued, zero, absent, by omega⟩
    obtain ⟨_, capacity, entries⟩ := admitJob_accepted accepted
    have later : (queue.admitJob record).2.Admissible rest := by
      refine ⟨idLater, specLater, queuedLater, zeroLater, distinctLater, ?_, ?_⟩
      · intro other member entry inside same
        rw [entries, mem_insert entryLess_iff] at inside
        rcases inside with rfl | old
        · exact fresh (mem_map.mpr ⟨other, member, same.symm⟩)
        · exact absentLater other member entry old same
      · rw [entries, capacity, length_insert entryLess_iff]
        omega
    show entry ∈ ((queue.admitJob record).2.runCalls (rest.map .admitJob)).entries ↔ _
    rw [ih later, entries, mem_insert entryLess_iff, map_cons, mem_cons]
    tauto

end GlobalJobQueue

/-- The jobs behind a listing of the queue are in the order of service. -/
theorem queuedJobs_entries (snapshot : StateSnapshot) :
    (queuedJobs snapshot).map ofRecord = sortedQueued snapshot.jobs := by
  have sameOrder : ∀ record other, queuedBefore record other =
      entryLess (ofRecord record) (ofRecord other) := fun _ _ => rfl
  exact map_sort queuedBefore sameOrder _

/-- In a store that was reached from the empty one, a revision of zero says that nothing was stored yet. -/
theorem runMutations_revised (mutations : List StateMutation) :
    let state := runMutations limits .initial mutations
    state.revision = 0 → state.jobs.values = [] ∧ state.leases.values = [] := by
  refine Rejecting.run_invariant
    (fun state : StoreState => state.revision = 0 → state.jobs.values = [] ∧ state.leases.values = []) ?_
    fun _ => ⟨rfl, rfl⟩
  intro _ _ _ accepted _ zero
  obtain ⟨_, ⟨_, _, below⟩, _, _, _, _, _, _, _, _, _, _, rfl⟩ := applyMutation_eq_ok.mp accepted
  exact absurd zero (MachineWord.succ_ne_zero below)

namespace GlobalJobQueue

/-- Admitting the queued jobs of a store one by one gives the queue that the store calls for. -/
theorem admitAll_entries {state : StoreState} {order : List StoredJob} (inv : StoreInvariant limits state)
    (fits : (queuedEntries state.snapshot.jobs).length ≤ capacity)
    (shuffled : order.Perm (state.snapshot.jobs.filter (·.state = .queued))) :
    ((empty capacity).runCalls (order.map .admitJob)).entries = sortedQueued state.snapshot.jobs := by
  have distinct : (state.snapshot.jobs.map (·.id)).Nodup := inv.distinctIds
  have stored : ∀ record ∈ order, record ∈ state.snapshot.jobs ∧ record.state = .queued := by
    intro _ member
    simpa using mem_filter.mp (shuffled.mem_iff.mp member)
  have fitting : (empty capacity).Admissible order := by
    refine ⟨?_, ?_, ?_, ?_, ?_, ?_, ?_⟩
    · exact fun record member => inv.jobIds record (stored record member).1
    · exact fun record member => inv.specs record (stored record member).1
    · exact fun record member => (stored record member).2
    · exact fun record member => (inv.queuedIff record (stored record member).1).mp (stored record member).2
    · exact (shuffled.map (·.id)).nodup_iff.mpr (distinct.sublist (filter_sublist.map _))
    · intro _ _ _ member
      cases member
    · rw [queuedEntries, length_map] at fits
      rw [shuffled.length_eq]
      show [].length + _ ≤ capacity
      rw [length_nil, Nat.zero_add]
      exact fits
  refine eq_of_same_members (GlobalJobQueue.sorted _) inv.sortedQueued_sorted fun entry => ?_
  rw [mem_admitAll fitting, sortedQueued, mem_sort, queuedEntries, (shuffled.map _).mem_iff]
  constructor
  · rintro (old | new)
    · cases old
    · exact new
  · exact .inr

/-- The queue depends on what it contains and not on the calls that led there. -/
theorem canonical_queue (capacity : Nat) (fresh : GlobalJobQueue) (calls : List QueueCall)
    (created : create ⟨capacity⟩ = .ok fresh) :
    let queue := fresh.runCalls calls
    (queue.entries.Pairwise fun entry later => entry.submitTime < later.submitTime ∨
      (entry.submitTime = later.submitTime ∧ entry.jobId < later.jobId)) ∧
    (queue.entries.map (·.jobId)).Nodup ∧ queue.entries.length ≤ capacity ∧
    (∀ call, (queue.call call).1.code ≠ none → (queue.call call).2.entries = queue.entries) ∧
    (∀ otherCapacity otherFresh otherCalls, create ⟨otherCapacity⟩ = .ok otherFresh →
      let other := otherFresh.runCalls otherCalls
      (∀ entry, entry ∈ queue.entries ↔ entry ∈ other.entries) → queue.entries = other.entries) ∧
    ∀ limits state, StoreInvariant limits state → (queuedEntries state.snapshot.jobs).length ≤ capacity →
      let listed := sortedQueued state.snapshot.jobs
      (∀ order : List StoredJob, order.Perm (state.snapshot.jobs.filter (·.state = .queued)) →
        (fresh.runCalls (order.map .admitJob)).entries = listed) ∧
      ((state.revision = 0 → state.jobs.values = [] ∧ state.leases.values = []) →
        (queue.restore state.snapshot).2.entries = listed) ∧
      ∀ (service : IpcService) peer, service.load = .ok state.snapshot →
        listed.length ≤ service.config.maxListedJobs.toNat →
        (service.handleQueue peer).queue.map (fun entry => (entry.jobId, entry.submitTimeUnixNs)) =
          listed.map fun entry => (entry.jobId.value, unixNs entry.submitTime) := by
  intro queue
  have sameCapacity : queue.capacity = capacity := by
    rw [runCalls_capacity, create_eq_ok created]
    rfl
  refine ⟨?_, queue.distinct, sameCapacity ▸ queue.fits, ?_, ?_, ?_⟩
  · refine queue.sorted.imp fun {entry later} before => ?_
    have less : entry.key < later.key := before
    rwa [key, key, Prod.Lex.toLex_lt_toLex] at less
  · intro _ rejected
    rw [call_rejected rejected]
  · intro _ _ _ _ other same
    exact eq_of_same_members queue.sorted other.sorted same
  · intro _ state inv fits listed
    refine ⟨fun order shuffled => ?_, fun written => ?_, fun service peer load short => ?_⟩
    · rw [create_eq_ok created]
      exact admitAll_entries inv fits shuffled
    · have readable : ¬(state.snapshot.revision = 0 ∧ (state.snapshot.jobs ≠ [] ∨ state.snapshot.leases ≠ [])) := by
        rintro ⟨zero, jobs | leases⟩
        · exact jobs (written zero).1
        · exact leases (written zero).2
      have applied : (queue.restore state.snapshot).1.code = none := by
        rw [restore_code_iff readable inv.jobIds inv.specs inv.queuedIff inv.distinctIds, sameCapacity]
        exact fits
      exact (restore_applied applied).1
    · simp only [listed] at short ⊢
      rw [← queuedJobs_entries, length_map] at short
      rw [handleQueue, withSnapshot, load]
      simp only [take_of_length_le short]
      rw [map_map, ← queuedJobs_entries, map_map]
      rfl

/-- Two queued jobs, the later id submitted first. -/
def twoQueued : StoreState :=
  runMutations {} .initial [{
    createJobs := [{ id := ⟨1⟩, spec := JobSpec.minimal 5 {} }, { id := ⟨2⟩, spec := JobSpec.minimal 3 {} }] }]

theorem canonical_queue_two :
    ((empty 2).runCalls ((twoQueued.snapshot.jobs.filter (·.state = .queued)).reverse.map .admitJob)).entries =
      ((empty 2).restore twoQueued.snapshot).2.entries := by
  have written : twoQueued.revision = 0 → twoQueued.jobs.values = [] ∧ twoQueued.leases.values = [] :=
    runMutations_revised _
  have stored : StoreInvariant {} twoQueued := runMutations_invariant {} _
  have fits : (queuedEntries twoQueued.snapshot.jobs).length ≤ 2 := by decide +kernel
  obtain ⟨admitted, restored, _⟩ := (canonical_queue 2 (empty 2) [] rfl).2.2.2.2.2 {} twoQueued stored fits
  exact (admitted _ (reverse_perm _)).trans (restored written).symm

end GlobalJobQueue

end Yori
