import Yori.Runtime.Closing
import Yori.Runtime.Watching

namespace Yori
open MutationCore SortedMap ProcessExitMonitor

variable {record : StoredJob}

section Noting

variable {σ : Type} {store : StateStore σ} {limits : ValidationConfig} {content : σ → StoreState} {id : JobId}
  {compose : Nat → StoredJob → Rewrite} {backend : σ × Bool}

/-- A failure stays noted. -/
theorem rewriteAttempts_latched (remaining attempt : Nat) (failed : backend.2 = false) :
    (rewriteAttempts (noting store) id compose remaining attempt backend).2.2 = false := by
  induction remaining generalizing attempt backend with
  | zero => exact failed
  | succ _ ih =>
    unfold rewriteAttempts
    have loaded : ((noting store).load backend).2.2 = false := by simp [noting, failed]
    split
    · rename_i load
      rw [load] at loaded
      exact loaded
    · rename_i snapshot after load
      rw [load] at loaded
      split
      · exact loaded
      · rename_i current _
        have written : ((noting store).apply after ((compose attempt current).mutation snapshot.revision)).2.2 =
          false := by
          have still : after.2 = false := loaded
          simp [noting, still]
        simp only
        split
        · exact ih (attempt + 1) written
        · exact written

theorem rewriteJob_latched (failed : backend.2 = false) : (rewriteJob (noting store) id compose backend).2.2 = false :=
  rewriteAttempts_latched 3 0 failed

/-- A rewrite of a stored job during which nothing failed was accepted. -/
theorem rewriteJob_noted (faithful : Faithful limits store content) (inv : StoreInvariant limits (content backend.1))
    (found : (content backend.1).jobs.find? id = some record)
    (noted : (rewriteJob (noting store) id compose backend).2.2 = true) :
    (rewriteJob (noting store) id compose backend).1.code = none := by
  have snapshots := (noting_faithful faithful).load_snapshot backend
  unfold rewriteJob at noted ⊢
  unfold rewriteAttempts at noted ⊢
  cases load : (noting store).load backend with
  | mk answer after =>
    rw [load] at snapshots
    have flag : after.2 = (backend.2 && answer.isOk) := by
      have same := congrArg (fun pair => pair.2.2) load
      have answers := congrArg Prod.fst load
      simp only [noting] at same answers
      rw [← same, ← answers]
    cases answer with
    | error =>
      rw [load] at noted
      simp only [flag] at noted
      simp [Except.isOk, Except.toBool] at noted
    | ok snapshot =>
      have same := snapshots snapshot rfl
      subst same
      rw [load] at noted
      simp only [inv.findStored_eq, found] at noted ⊢
      split at noted
      · rename_i conflict
        have failed : ((noting store).apply after ((compose 0 record).mutation
            (content backend.1).snapshot.revision)).2.2 = false := by
          have refused : (store.apply after.1 ((compose 0 record).mutation
            (content backend.1).snapshot.revision)).1.code = some .revisionConflict := conflict
          simp [noting, refused]
        rw [rewriteAttempts_latched 2 1 failed] at noted
        simp at noted
      · rename_i settled
        rw [if_neg settled]
        have accepted : (after.2 && ((noting store).apply after ((compose 0 record).mutation
          (content backend.1).snapshot.revision)).1.code.isNone) = true := noted
        rw [Bool.and_eq_true, Option.isNone_iff_eq_none] at accepted
        exact accepted.2

end Noting

section Closing

variable {limits : ValidationConfig} {before after : StoreState} {id : JobId}

theorem StoreInvariant.unheld (inv : StoreInvariant limits after) (found : after.jobs.find? id = some record)
    (idle : leaseable record.state = false) :
    ∀ uuid lease, after.leases.find? uuid = some lease → lease.jobId ≠ id := by
  intro uuid _ held own
  obtain ⟨_, atOwner, active⟩ :=
    ownerLeaseable_iff.mp (inv.owner_leaseable (mem_values.mpr ⟨uuid, held⟩))
  rw [own, found] at atOwner
  rw [← Option.some.inj atOwner, idle] at active
  simp at active

/-- An accepted write that is composed to end its job, if it has not ended yet,
leaves it without a device. -/
theorem RewriteOutcome.unheld {compose : Nat → StoredJob → Rewrite} {code : Option StateStoreErrorCode}
    (outcome : RewriteOutcome limits id compose before after code) (accepted : code = none)
    (inv : StoreInvariant limits before) (keepsId : ∀ attempt record, (compose attempt record).record.id = record.id)
    (ends : ∀ attempt current, (compose attempt current).record = current ∨
      leaseable (compose attempt current).record.state = false) :
    ∀ uuid lease, after.leases.find? uuid = some lease → lease.jobId ≠ id := by
  obtain ⟨attempt, current, found, run⟩ := outcome.accepted_run accepted
  have key := (keepsId attempt current).trans (inv.jobKeys id current found)
  have moved := (compose attempt current).rewritten run
  obtain ⟨existing, atExisting, allowed, _⟩ := moved.previous
  rw [key, found] at atExisting
  have idle : leaseable (compose attempt current).record.state = false := by
    rcases ends attempt current with same | idle
    · have forward := canTransition_stage allowed
      rw [same, Option.some.inj atExisting] at forward
      omega
    · exact idle
  refine (inv.step run).unheld ?_ idle
  rw [moved.jobs, key, find?_insert_self]

end Closing

namespace JobManager

variable {σ : Type} {store : StateStore σ} {limits : ValidationConfig} {content : σ → StoreState}
  {config : JobManagerConfig} {id other : JobId} {manager before middle after : JobManager σ} {job : SupervisedJob}

/-- Each job that holds a device has an entry that awaits the exit of the process
on record, and the monitor has that process registered, or its exit was not
handed over yet. -/
def EveryLeaseWatched (content : σ → StoreState) (manager : JobManager σ) : Prop :=
  ∀ uuid lease, (content manager.backend).leases.find? uuid = some lease →
    ∃ job record, manager.supervised.find? lease.jobId = some job ∧ job.exited = false ∧
      (content manager.backend).jobs.find? lease.jobId = some record ∧
      manager.byPid.find? record.execution.identity.pid = some lease.jobId ∧
      manager.monitor.Watches record.execution.identity.pid record.execution.identity

/-- The job is watched, and will be until its exit is handed over. -/
structure Attended (content : σ → StoreState) (manager : JobManager σ) (id : JobId) : Prop where
  entry : ∃ job, manager.supervised.find? id = some job ∧ job.exited = false
  process : ∃ record, (content manager.backend).jobs.find? id = some record ∧ record.state ≠ .queued ∧
    manager.byPid.find? record.execution.identity.pid = some id ∧
    manager.monitor.Guards record.execution.identity.pid record.execution.identity

structure Attends (content : σ → StoreState) (manager : JobManager σ) : Prop where
  leased : ∀ uuid lease, (content manager.backend).leases.find? uuid = some lease →
    Attended content manager lease.jobId
  ticketed : manager.monitor.Ticketed

theorem Attends.watched (attends : Attends content manager) : EveryLeaseWatched content manager := by
  intro uuid lease held
  obtain ⟨⟨job, atJob, waits⟩, record, found, _, mapped, guards⟩ := attends.leased uuid lease held
  exact ⟨job, record, atJob, waits, found, mapped, guards.watches⟩

/-- The part of the manager that the watch over other jobs rests on is left
alone. -/
structure Spares (id : JobId) (before after : JobManager σ) : Prop where
  entries : ∀ other, other ≠ id → after.supervised.find? other = before.supervised.find? other
  byPid : ∀ pid other, other ≠ id → before.byPid.find? pid = some other → after.byPid.find? pid = some other
  guards : ∀ pid other, other ≠ id → before.byPid.find? pid = some other → ∀ identity,
    before.monitor.Guards pid identity → after.monitor.Guards pid identity
  ticketed : before.monitor.Ticketed → after.monitor.Ticketed

theorem Spares.refl (id : JobId) (manager : JobManager σ) : Spares id manager manager :=
  ⟨fun _ _ => rfl, fun _ _ _ mapped => mapped, fun _ _ _ _ _ guards => guards, fun ticketed => ticketed⟩

theorem Spares.trans (early : Spares id before middle) (late : Spares id middle after) : Spares id before after where
  entries other different := (late.entries other different).trans (early.entries other different)
  byPid pid other different mapped := late.byPid pid other different (early.byPid pid other different mapped)
  guards pid other different mapped identity guards :=
    late.guards pid other different (early.byPid pid other different mapped) identity
      (early.guards pid other different mapped identity guards)
  ticketed ticketed := late.ticketed (early.ticketed ticketed)

theorem Attended.of_spared (attended : Attended content before other) (spares : Spares id before after)
    (different : other ≠ id)
    (rows : (content after.backend).jobs.find? other = (content before.backend).jobs.find? other) :
    Attended content after other := by
  obtain ⟨⟨job, atJob, waits⟩, record, found, busy, mapped, guards⟩ := attended
  exact ⟨⟨job, (spares.entries other different).trans atJob, waits⟩, record, rows.trans found, busy,
    spares.byPid _ other different mapped, spares.guards _ other different mapped _ guards⟩

/-- What is done about one job leaves the others attended, and that job holds no
device any more or is attended itself. -/
theorem Attends.of_spared (attends : Attends content before) (spares : Spares id before after)
    (only : OnlyJob id (content before.backend) (content after.backend))
    (own : ∀ uuid lease, (content after.backend).leases.find? uuid = some lease → lease.jobId = id →
      Attended content after id) : Attends content after := by
  refine ⟨?_, spares.ticketed attends.ticketed⟩
  intro uuid lease held
  by_cases here : lease.jobId = id
  · rw [here]
    exact own uuid lease held here
  · have earlier := (only.leases uuid lease here).mp held
    exact (attends.leased uuid lease earlier).of_spared spares here (only.rows _ here)

section Frames

theorem Spares.of_turns {turns : List ReaperAction} (supervised : after.supervised = before.supervised)
    (byPid : after.byPid = before.byPid) (monitor : after.monitor = (before.monitor.runActions turns).2) :
    Spares id before after := by
  refine ⟨fun other _ => by rw [supervised], fun pid other _ mapped => by rw [byPid]; exact mapped, ?_, ?_⟩
  · intro _ _ _ _ _ guards
    rw [monitor]
    exact runActions_guards turns guards
  · intro ticketed
    rw [monitor]
    exact runActions_ticketed turns ticketed

theorem Spares.sendSignals (calls : List KillCall) (between : List ReaperAction) (manager : JobManager σ) :
    Spares id manager (manager.sendSignals calls between) := by
  obtain ⟨_, monitor⟩ := sendSignals_turns calls between manager
  exact .of_turns rfl rfl monitor

/-- The entry of the job itself may be changed or dropped. -/
theorem Spares.of_entry (supervised : ∀ other, other ≠ id →
      after.supervised.find? other = before.supervised.find? other)
    (byPid : after.byPid = before.byPid) (monitor : after.monitor = before.monitor) : Spares id before after := by
  refine ⟨supervised, fun pid other _ mapped => by rw [byPid]; exact mapped, ?_, fun ticketed => by rwa [monitor]⟩
  intro _ _ _ _ _ _
  rwa [monitor]

theorem Spares.emit (effects : List Effect) (manager : JobManager σ) : Spares id manager (manager.emit effects) :=
  .of_entry (fun _ _ => rfl) rfl rfl

theorem Spares.runReaper (turns : List ReaperAction) (manager : JobManager σ) :
    Spares id manager (manager.runReaper turns) := by
  have monitor : (manager.runReaper turns).monitor = (manager.monitor.runActions turns).2 := rfl
  exact .of_turns rfl rfl monitor

/-- A process that no job is mapped to may be registered and forgotten. -/
theorem Spares.registerProcess (identity : ProcessIdentity) (turns : List ReaperAction) (manager : JobManager σ) :
    Spares id manager (manager.registerProcess identity turns).2 := by
  refine ⟨fun _ _ => rfl, fun _ _ _ mapped => mapped, fun _ _ _ _ _ guards => ?_, fun ticketed => ?_⟩ <;>
    simp only [JobManager.registerProcess, watch, ProcessExitMonitor.registerProcess] <;> split
  · exact guards
  · split
    · exact guards
    · exact runActions_guards turns (post_guards (by simp) guards)
  · exact ticketed
  · split
    · exact ticketed
    · exact runActions_ticketed turns (post_ticketed rfl ticketed)

theorem Spares.unregisterProcess {target : Int} (unmapped : manager.byPid.find? target = none)
    (turns : List ReaperAction) : Spares id manager (manager.unregisterProcess target turns) := by
  refine ⟨fun _ _ => rfl, fun _ _ _ mapped => mapped, ?_, fun ticketed => ?_⟩
  · intro pid _ _ mapped _ guards
    have elsewhere : pid ≠ target := by
      intro here
      rw [here, unmapped] at mapped
      simp at mapped
    exact unregisterProcess_guards elsewhere turns guards
  · simp only [JobManager.unregisterProcess, watch, ProcessExitMonitor.unregisterProcess]
    split
    · exact ticketed
    · split
      · exact ticketed
      · exact runActions_ticketed turns (post_ticketed rfl ticketed)

end Frames

section Requests

variable {input : CancelInput}

/-- A handler that keeps the entries waiting and the map as it is keeps the job
attended: a job that has left the queue keeps its process. -/
theorem Attended.of_moves {left : Prop} {asked : JobSpec → Prop} (attended : Attended content before id)
    (inv : StoreInvariant limits (content before.backend)) (move : Moves limits content left asked before after)
    (entries : ∀ job, before.supervised.find? id = some job → job.exited = false →
      ∃ next, after.supervised.find? id = some next ∧ next.exited = false)
    (byPid : after.byPid = before.byPid)
    (guards : ∀ pid identity, before.monitor.Guards pid identity → after.monitor.Guards pid identity) :
    Attended content after id := by
  obtain ⟨⟨job, atJob, waits⟩, _, found, busy, mapped, guarded⟩ := attended
  obtain ⟨later, atLater, stillBusy, same⟩ := move.identity_kept inv found busy
  refine ⟨entries job atJob waits, later, atLater, stillBusy, ?_, ?_⟩
  · rw [same, byPid]
    exact mapped
  · rw [same]
    exact guards _ _ guarded

theorem processSubmit_attends (faithful : Faithful limits store content) (spec : JobSpec)
    (inv : StoreInvariant limits (content manager.backend)) (attends : Attends content manager) :
    Attends content (manager.processSubmit store spec) := by
  obtain ⟨byPid, monitor⟩ : (manager.processSubmit store spec).byPid = manager.byPid ∧
    (manager.processSubmit store spec).monitor = manager.monitor := by
    obtain ⟨_, _, _, frame⟩ := processSubmit_frame store spec manager
    rw [frame]
    exact ⟨rfl, rfl⟩
  have move := processSubmit_submits faithful spec manager
  have moves : Moves limits content _ (Eq spec) manager (manager.processSubmit store spec) := .submitted spec rfl move
  refine ⟨?_, by rw [monitor]; exact attends.ticketed⟩
  intro uuid lease held
  rw [move.leases] at held
  refine (attends.leased uuid lease held).of_moves inv moves ?_ byPid fun _ _ guards => by rwa [monitor]
  intro job found waits
  exact ⟨job, by rw [processSubmit_supervised]; exact found, waits⟩

theorem Begun.waits (begun : Begun input id before after) (found : before.supervised.find? other = some job)
    (waits : job.exited = false) : ∃ next, after.supervised.find? other = some next ∧ next.exited = false := by
  cases begun with
  | ignored same =>
    rw [same]
    exact ⟨job, found, waits⟩
  | signalled old next _ atOld _ _ frame same =>
    rw [same]
    change ∃ entry, (before.supervised.insert id next).find? other = some entry ∧ entry.exited = false
    by_cases here : other = id
    · subst here
      have equal : old = job := Option.some.inj (atOld.symm.trans found)
      subst equal
      exact ⟨next, find?_insert_self .., frame.2.2.2.1.trans waits⟩
    · exact ⟨job, by rw [find?_insert_of_ne _ _ here, found], waits⟩

theorem processCancel_attends (faithful : Faithful limits store content) (input : CancelInput) (target : JobId)
    (inv : StoreInvariant limits (content manager.backend)) (attends : Attends content manager) :
    Attends content (manager.processCancel store input target) := by
  have move : Moves limits content False (fun _ => False) manager _ := processCancel_moves faithful input target inv
  obtain ⟨backend, _, _, middle, same, writes, begun⟩ := processCancel_cases faithful input target inv
  obtain ⟨byPid, turns, monitor⟩ := begun.turns
  rw [same] at move ⊢
  have guards : ∀ pid identity, manager.monitor.Guards pid identity → middle.monitor.Guards pid identity := by
    intro _ _ guarded
    rw [monitor]
    exact runActions_guards turns guarded
  refine ⟨?_, ?_⟩
  · intro uuid lease held
    change (content middle.backend).leases.find? uuid = some lease at held
    rw [begun.backend] at held
    exact (attends.leased uuid lease (writes.leases_left held)).of_moves inv move
      (fun _ found waits => begun.waits found waits) byPid guards
  · change middle.monitor.Ticketed
    rw [monitor]
    exact runActions_ticketed turns attends.ticketed

end Requests

section Events

/-- Handlers that leave the tables alone and keep the entries waiting. -/
theorem Attends.of_same {turns : List ReaperAction} (attends : Attends content before)
    (tables : content after.backend = content before.backend)
    (entries : ∀ id job, before.supervised.find? id = some job → job.exited = false →
      ∃ next, after.supervised.find? id = some next ∧ next.exited = false)
    (byPid : after.byPid = before.byPid) (monitor : after.monitor = (before.monitor.runActions turns).2) :
    Attends content after := by
  refine ⟨?_, by rw [monitor]; exact runActions_ticketed turns attends.ticketed⟩
  intro uuid lease held
  rw [tables] at held
  obtain ⟨⟨job, atJob, waits⟩, record, found, busy, mapped, guards⟩ := attends.leased uuid lease held
  refine ⟨entries lease.jobId job atJob waits, record, by rw [tables]; exact found,
    busy, by rw [byPid]; exact mapped, ?_⟩
  rw [monitor]
  exact runActions_guards turns guards

theorem insert_waits {next entry : SupervisedJob} (found : manager.supervised.find? id = some job)
    (same : next.exited = job.exited) (atOther : manager.supervised.find? other = some entry)
    (waits : entry.exited = false) :
    ∃ later, (manager.supervised.insert id next).find? other = some later ∧ later.exited = false := by
  by_cases here : other = id
  · subst here
    have equal : job = entry := Option.some.inj (found.symm.trans atOther)
    exact ⟨next, find?_insert_self .., by rw [same, equal]; exact waits⟩
  · exact ⟨entry, by rw [find?_insert_of_ne _ _ here, atOther], waits⟩

theorem runEscalation_attends (kill : KillInput) (now : TimePoint) (target : JobId)
    (attends : Attends content manager) : Attends content (manager.runEscalation kill now target) := by
  unfold runEscalation
  split
  · exact attends
  · rename_i job found
    split
    · rename_i armed supervisor _ _
      obtain ⟨_, monitor⟩ := sendSignals_turns (supervisor.escalate kill.group kill.leader now).2 kill.between
        { manager with supervised := manager.supervised.insert target { job with grace := some ⟨armed, false⟩ } }
      exact attends.of_same rfl (fun _ _ atEntry waits => insert_waits found rfl atEntry waits) rfl monitor
    · exact attends

/-- An entry that has seen its exit is not the one a device waits for. -/
theorem finishJob_attends (found : manager.supervised.find? id = some job) (exited : job.exited = true)
    {state : UInt8} {exit : Option IpcExitStatus} {between : List ReaperAction} (attends : Attends content manager) :
    Attends content (manager.finishJob id job state exit between) := by
  have dropped : Spares id manager
      ({ manager with supervised := manager.supervised.erase id }.emit [.streamFinished id state exit]) := by
    refine .of_entry ?_ rfl rfl
    intro other different
    change (manager.supervised.erase id).find? other = _
    rw [find?_erase, if_neg different]
  refine attends.of_spared (dropped.trans (.sendSignals ..)) (.refl id _) ?_
  intro uuid lease held own
  obtain ⟨entry, atEntry, waits⟩ := (attends.leased uuid lease held).entry
  rw [own, found] at atEntry
  rw [← Option.some.inj atEntry, exited] at waits
  simp at waits

theorem processPumpDone_attends (between : List ReaperAction) (target : JobId) (attends : Attends content manager) :
    Attends content (manager.processPumpDone between target) := by
  unfold processPumpDone
  split
  · exact attends
  · rename_i job found
    split
    · rename_i exited
      exact finishJob_attends found exited attends
    · have turns : manager.monitor = (manager.monitor.runActions []).2 := rfl
      exact attends.of_same rfl (fun _ _ atEntry waits => insert_waits found rfl atEntry waits) rfl turns

end Events

section Exits

variable {watched : JobManager (σ × Bool)} {event : ExitEvent} {rest : List ExitEvent}

/-- What the handling of an exit can do. -/
inductive ExitHandled (store : StateStore σ) (input : ExitInput) (event : ExitEvent)
    (before after : JobManager σ) : Prop
  | unmapped (none : before.byPid.find? event.pid = none) (same : after = before)
  | unsupervised (id : JobId) (mapped : before.byPid.find? event.pid = some id)
      (missing : before.supervised.find? id = none)
      (same : after = { before with byPid := before.byPid.erase event.pid })
  | closed (id : JobId) (job : SupervisedJob) (mapped : before.byPid.find? event.pid = some id)
      (found : before.supervised.find? id = some job)
      (backend : after.backend = (rewriteJob store id
        (exitRecord event (exitVerdict job.cancelling event) job.leasedGpu input.endClock) before.backend).2)
      (byPid : after.byPid = before.byPid.erase event.pid)
      (entries : ∀ other, other ≠ id → after.supervised.find? other = before.supervised.find? other)
      (monitor : ∃ turns, after.monitor = (before.monitor.runActions turns).2)

theorem processExit_handled (config : JobManagerConfig) (input : ExitInput) (event : ExitEvent)
    (manager : JobManager σ) :
    ExitHandled store input event manager (manager.processExit config store input event) := by
  unfold processExit
  split
  · rename_i unmapped
    exact .unmapped unmapped rfl
  · rename_i id mapped
    split
    · rename_i missing
      exact .unsupervised id mapped missing rfl
    · rename_i job found
      simp only
      split
      · refine .closed id job mapped found rfl rfl ?_ (sendSignals_turns job.destroy input.destroying manager)
        intro other different
        change (manager.supervised.erase id).find? other = _
        rw [find?_erase, if_neg different]
      · refine .closed id job mapped found rfl rfl ?_ ⟨[], rfl⟩
        intro other different
        change (manager.supervised.insert id _).find? other = _
        rw [find?_insert_of_ne _ _ different]

/-- Forgetting the pid of an exit event concerns the job it is mapped to. -/
theorem Spares.handOver (next : manager.monitor.events = event :: rest)
    (mapped : manager.byPid.find? event.pid = some id) :
    Spares id manager { manager with
      monitor := { manager.monitor with events := rest }, byPid := manager.byPid.erase event.pid } := by
  have elsewhere : ∀ pid other, other ≠ id → manager.byPid.find? pid = some other → pid ≠ event.pid := by
    intro _ _ different atPid here
    rw [here, mapped] at atPid
    exact different (Option.some.inj atPid).symm
  refine ⟨fun _ _ => rfl, ?_, ?_, fun ticketed => ticketed⟩
  · intro pid other different atPid
    rw [find?_erase, if_neg (elsewhere pid other different atPid)]
    exact atPid
  · intro pid other different atPid _ guards
    exact guards.of_handedOver next (elsewhere pid other different atPid)

/-- While no write fails, an exit takes its device from the job that is closed,
and the watch from nobody else. -/
theorem processExit_attends (faithful : Faithful limits store content) (config : JobManagerConfig) (input : ExitInput)
    (grounded : Grounded limits (fun backend => content backend.1) watched)
    (attends : Attends (fun backend => content backend.1) watched) (events : watched.monitor.events = event :: rest)
    (noted : (processExit config (noting store) input event
      { watched with monitor := { watched.monitor with events := rest } }).backend.2 = true) :
    Attends (fun backend => content backend.1) (processExit config (noting store) input event
      { watched with monitor := { watched.monitor with events := rest } }) := by
  let drained := { watched with monitor := { watched.monitor with events := rest } }
  have handled : ExitHandled (noting store) input event drained
    (drained.processExit config (noting store) input event) := processExit_handled config input event drained
  generalize processExit config (noting store) input event _ = after at *
  cases handled with
  | unmapped none same =>
    rw [same]
    refine ⟨?_, attends.ticketed⟩
    intro uuid lease held
    obtain ⟨entry, record, found, busy, mapped, guards⟩ := attends.leased uuid lease held
    refine ⟨entry, record, found, busy, mapped, guards.of_handedOver events ?_⟩
    intro here
    have absent : watched.byPid.find? event.pid = Option.none := none
    simp [here, absent] at mapped
  | unsupervised id mapped missing same =>
    rw [same]
    refine attends.of_spared (.handOver events mapped) (.refl id _) ?_
    intro uuid lease held own
    obtain ⟨_, found, _⟩ := (attends.leased uuid lease held).entry
    have absent : watched.supervised.find? id = none := missing
    simp [own, absent] at found
  | closed id job mapped found backend byPid entries monitor =>
    let compose := exitRecord event (exitVerdict job.cancelling event) job.leasedGpu input.endClock
    have outcome := rewriteJob_outcome (noting_faithful faithful) grounded.stored id compose
    obtain ⟨_, stored, _⟩ := grounded.busy id job found
    have written : (rewriteJob (noting store) id compose watched.backend).2.2 = true := by
      rw [backend] at noted
      exact noted
    have unheld := outcome.unheld (rewriteJob_noted faithful grounded.stored stored written) grounded.stored
      (fun _ _ => exitRecord_id ..) fun _ _ => by
        simp only [compose, exitRecord]
        split
        · exact .inl rfl
        · exact .inr (exitVerdict_reachable job.cancelling event).2
    obtain ⟨turns, monitor⟩ := monitor
    have spared : Spares id { watched with
        monitor := { watched.monitor with events := rest }, byPid := watched.byPid.erase event.pid } after := by
      refine ⟨entries, fun pid other _ atPid => by rw [byPid]; exact atPid, ?_, ?_⟩
      · intro _ _ _ _ _ guards
        rw [monitor]
        exact runActions_guards turns guards
      · intro ticketed
        rw [monitor]
        exact runActions_ticketed turns ticketed
    refine attends.of_spared (.trans (.handOver events mapped) spared) ?_ ?_
    · rw [backend]
      exact (outcome.rewrites grounded.stored fun _ _ => exitRecord_id ..).onlyJob grounded.stored
    · intro uuid lease held own
      rw [backend] at held
      exact absurd own (unheld uuid lease held)

end Exits

section Launches

variable {watched start : JobManager (σ × Bool)} {input : LaunchInput} {uuid : GpuUuid} {reason : ByteString}
  {record : StoredJob} {identity : ProcessIdentity}

/-- How a launch leaves its job: without a device, or attended. The other jobs
are spared. -/
structure Concluded (content : σ → StoreState) (id : JobId) (before after : JobManager (σ × Bool)) : Prop where
  spares : Spares id before after
  own : (∀ uuid lease, (content after.backend.1).leases.find? uuid = some lease → lease.jobId ≠ id) ∨
    Attended (fun backend => content backend.1) after id

/-- The pid that a launch maps to its job is not mapped to another one. -/
def SpawnsUnmapped (launch : LaunchInput) (manager : JobManager σ) : Prop :=
  ∀ identity, launch.spawn = .ok identity → manager.byPid.find? identity.pid = none

section Faithful

variable (faithful : Faithful limits store content)
include faithful

section

variable (inv : StoreInvariant limits (content watched.backend.1))
  (found : (content watched.backend.1).jobs.find? id = some record)
include inv found

/-- A launch that fails gives the device back, if the write about it succeeds. -/
theorem failLaunch_concluded (spares : Spares id start watched)
    (noted : (watched.failLaunch (noting store) input id uuid reason).backend.2 = true) :
    Concluded content id start (watched.failLaunch (noting store) input id uuid reason) := by
  have outcome := rewriteJob_outcome (noting_faithful faithful) inv id (failedRecord uuid reason input.endClock)
  have accepted := rewriteJob_noted faithful inv found noted
  refine ⟨spares.trans (.of_entry (fun _ _ => rfl) rfl rfl), .inl ?_⟩
  refine outcome.unheld accepted inv (failedRecord_id _) fun _ _ => ?_
  unfold failedRecord
  split
  · exact .inl rfl
  · exact .inr rfl

theorem rollBack_concluded {supervisor : ProcessSupervisor} (spares : Spares id start watched)
    (noted : (watched.rollBack (noting store) input id uuid supervisor reason).backend.2 = true) :
    Concluded content id start (watched.rollBack (noting store) input id uuid supervisor reason) := by
  have signalled : Spares id watched (watched.sendSignals supervisor.destroy input.destroying) := .sendSignals ..
  exact failLaunch_concluded faithful inv found (spares.trans signalled) noted

theorem startSpawned_concluded (unmapped : watched.byPid.find? identity.pid = none)
    (ticketed : watched.monitor.Ticketed)
    (noted : (watched.startSpawned config (noting store) input id uuid identity).backend.2 = true) :
    Concluded content id watched (watched.startSpawned config (noting store) input id uuid identity) := by
  let compose := runningRecord identity (jobDirectory config id) input.startClock
  have outcome := rewriteJob_outcome (noting_faithful faithful) inv id compose
  have rewrites := outcome.rewrites inv fun _ _ => rfl
  have saved := rewrites.invariant inv
  obtain ⟨_, atRow, _⟩ := rewrites.kept id record found
  unfold startSpawned at noted ⊢
  simp only at noted ⊢
  split at noted
  · rename_i refused
    -- the refusal is noted, whatever the second write does
    have failed : (rewriteJob (noting store) id compose watched.backend).2.2 = false := by
      by_contra kept
      have accepted := rewriteJob_noted faithful inv found (Bool.not_eq_false _ |>.mp kept)
      simp [compose, refused] at accepted
    have latched : (rewriteJob (noting store) id (failedRecord uuid _ input.endClock)
      (rewriteJob (noting store) id compose watched.backend).2).2.2 = true := noted
    rw [rewriteJob_latched failed] at latched
    simp at latched
  · rename_i accepted
    have written : Spares id watched
        { watched with backend := (rewriteJob (noting store) id compose watched.backend).2 } := .of_entry (fun _ _ => rfl) rfl rfl
    have asked := written.trans (.registerProcess identity input.registering _)
    split at noted
    · rename_i refused
      rw [if_pos refused]
      exact rollBack_concluded faithful saved atRow (asked.trans (.emit ..)) noted
    · rename_i answered
      rw [if_neg answered]
      have attaching := asked.trans (.runReaper input.attaching _)
      split at noted
      · rename_i detached
        rw [if_pos detached]
        refine rollBack_concluded faithful saved atRow ?_ noted
        refine (attaching.trans (.emit [.streamDropped id] _)).trans (.unregisterProcess ?_ input.unregistering)
        exact unmapped
      · rename_i attached
        rw [if_neg attached]
        have guards := runActions_guards input.attaching
          (registerProcess_answered ticketed (not_not.mp answered))
        refine ⟨attaching.trans ⟨?_, ?_, fun _ _ _ _ _ guards => guards, fun ticketed => ticketed⟩, .inr ?_⟩
        · intro _ different
          exact find?_insert_of_ne _ _ different
        · intro pid other _ mapped
          change watched.byPid.find? pid = some other at mapped
          rw [find?_insert, if_neg ?_]
          · exact mapped
          · intro here
            simp [here, unmapped] at mapped
        · obtain ⟨attempt, current, atCurrent, run⟩ := outcome.accepted_run accepted
          have key := inv.jobKeys id current atCurrent
          have moved := ((compose attempt current).rewritten run).jobs
          refine ⟨⟨_, find?_insert_self .., rfl⟩, (compose attempt current).record, ?_, nofun,
            find?_insert_self .., guards⟩
          change (content (rewriteJob (noting store) id compose watched.backend).2.1).jobs.find? id = _
          rw [moved, show (compose attempt current).record.id = id from key, find?_insert_self]

/-- A launch of a job that was just scheduled, during which nothing fails to be
written. -/
theorem launchScheduled_concluded (starting : record.state = .starting)
    (unmapped : ∀ identity, input.spawn = .ok identity → watched.byPid.find? identity.pid = none)
    (ticketed : watched.monitor.Ticketed)
    (noted : (watched.launchScheduled config (noting store) input id uuid).backend.2 = true) :
    Concluded content id watched (watched.launchScheduled config (noting store) input id uuid) := by
  have reads := (noting_faithful faithful).load_content watched.backend
  have snapshots := (noting_faithful faithful).load_snapshot watched.backend
  have failure : ∀ code, ((noting store).load watched.backend).1 = .error code →
      ((noting store).load watched.backend).2.2 = false := by
    intro code failed
    have answer : (store.load watched.backend.1).1 = .error code := failed
    simp [noting, answer, Except.isOk, Except.toBool]
  unfold launchScheduled at noted ⊢
  split at noted
  · rename_i code loaded load
    have failed := failure code (by rw [load])
    rw [load] at failed
    have kept : loaded.2 = true := noted
    simp [kept] at failed
  · rename_i snapshot loaded load
    rw [load] at reads snapshots
    have same := snapshots snapshot rfl
    subst same
    have invLoaded : StoreInvariant limits (content loaded.1) := by rwa [reads]
    have foundLoaded : (content loaded.1).jobs.find? id = some record := by rwa [reads]
    have loading : Spares id watched { watched with backend := loaded } := .of_entry (fun _ _ => rfl) rfl rfl
    simp only [inv.findStored_eq, found, starting, ne_eq, not_true_eq_false, if_false] at noted ⊢
    split at noted
    · exact failLaunch_concluded faithful invLoaded foundLoaded loading noted
    · split at noted
      · exact failLaunch_concluded faithful invLoaded foundLoaded
          ((loading.trans (.emit [.streamOpened id] _)).trans (.emit ..)) noted
      · rename_i identity spawned
        let opened := ({ watched with backend := loaded }.emit [.streamOpened id]).emit
          [.spawned id ⟨uuid, physicalIndex input.observed uuid, 0⟩ identity]
        have started : Concluded content id opened (opened.startSpawned config (noting store) input id uuid identity) :=
          startSpawned_concluded faithful invLoaded foundLoaded (unmapped identity spawned) ticketed noted
        have opening : Spares id watched opened := (loading.trans (.emit [.streamOpened id] _)).trans (.emit ..)
        exact ⟨opening.trans started.spares, started.own⟩

end

theorem scheduleNow_attends (config : JobManagerConfig) (input : ScheduleInput) (trigger : SchedulerTrigger)
    (inv : StoreInvariant limits (content watched.backend.1))
    (attends : Attends (fun backend => content backend.1) watched) (unmapped : watched.SpawnsUnmapped input.launch)
    (noted : (watched.scheduleNow config (noting store) input trigger).backend.2 = true) :
    Attends (fun backend => content backend.1) (watched.scheduleNow config (noting store) input trigger) := by
  cases scheduleNow_scheduled (noting_faithful faithful) config input trigger inv with
  | idle _ _ same unchanged =>
    have turns : watched.monitor = (watched.monitor.runActions []).2 := rfl
    rw [same]
    exact attends.of_same unchanged (fun _ job found waits => ⟨job, found, waits⟩) rfl turns
  | launched _ record device _ _ backend evaluation _ _ _ _ _ _ _ run tables launched same =>
    let decided := { watched with queue := (watched.queue.remove record.id).2, backend, evaluation }
    have invStarted := inv.step run
    have starting : (content backend.1).jobs.find? record.id =
        some { record with state := .starting, revision := 1 } := by
      rw [tables]
      exact find?_insert_self ..
    have only : OnlyJob record.id (content watched.backend.1) (content backend.1) := by
      rw [tables] at run ⊢
      exact started_onlyJob run
    rw [same] at noted launched ⊢
    have concluded : Concluded content record.id decided
        (decided.launchScheduled config (noting store) input.launch record.id device.uuid) :=
      launchScheduled_concluded faithful invStarted starting rfl unmapped attends.ticketed noted
    have deciding : Spares record.id watched decided := .of_entry (fun _ _ => rfl) rfl rfl
    refine attends.of_spared (deciding.trans concluded.spares)
      (only.trans (launched.rewrites.onlyJob invStarted)) ?_
    intro uuid lease held own
    rcases concluded.own with unheld | attended
    · exact absurd own (unheld uuid lease held)
    · exact attended

end Faithful

end Launches

end JobManager

end Yori
