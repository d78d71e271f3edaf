import Yori.Runtime.Moves

namespace Yori.JobManager
open MutationCore ProcessSupervisor

variable {σ : Type} {store : StateStore σ} {limits : ValidationConfig} {content : σ → StoreState}
  {config : JobManagerConfig} {input : AdoptionInput} {outcome : RecoveryJobOutcome} {id : JobId}
  {manager before after : JobManager σ}

/-- The entry of an adopted job replaces an older one; a job that was being
stopped is cancelled again. -/
def enter (input : AdoptionInput) (outcome : RecoveryJobOutcome) (pid : Int) (job : SupervisedJob)
    (manager : JobManager σ) : JobManager σ :=
  let adopted := manager.supervise outcome.jobId pid job input.destroying
  if outcome.decision = .adoptedStoppingNeedsRecancel then adopted.beginCancellation input.cancel outcome.jobId true
  else adopted

/-- The record whose process the adoption takes over, if it gets as far as
that. The monitor is asked only then. -/
def adopting (store : StateStore σ) (input : AdoptionInput) (outcome : RecoveryJobOutcome) (manager : JobManager σ) :
    Option StoredJob :=
  if !adopts outcome.decision then none
  else match (store.load manager.backend).1 with
    | .error _ => none
    | .ok snapshot =>
      (findStored snapshot outcome.jobId).filter fun record => record.execution.hasIdentity && input.verified

/-- What the adoption of one job can do. -/
inductive Armed (content : σ → StoreState) (config : JobManagerConfig) (store : StateStore σ) (input : AdoptionInput)
    (outcome : RecoveryJobOutcome) (before after : JobManager σ) : Prop
  | skipped (backend : σ) (unchanged : content backend = content before.backend)
      (untaken : before.adopting store input outcome = none) (same : after = { before with backend })
  | destroyed (backend : σ) (record : StoredJob) (unchanged : content backend = content before.backend)
      (adopted : adopts outcome.decision = true)
      (found : (content before.backend).jobs.find? outcome.jobId = some record)
      (identified : record.execution.hasIdentity = true) (taken : before.adopting store input outcome = some record)
      (refused : ({ before with backend }.registerProcess record.execution.identity input.registering).1 ≠ .registered)
      (same : after =
        ({ before with backend }.registerProcess record.execution.identity input.registering).2.sendSignals
          (spawned ⟨config.cancelGrace⟩ record.execution.identity).destroy input.destroying)
  | adopted (backend : σ) (record : StoredJob) (job : SupervisedJob)
      (unchanged : content backend = content before.backend) (adopted : adopts outcome.decision = true)
      (found : (content before.backend).jobs.find? outcome.jobId = some record)
      (identified : record.execution.hasIdentity = true) (taken : before.adopting store input outcome = some record)
      (registered :
        ({ before with backend }.registerProcess record.execution.identity input.registering).1 = .registered)
      (supervisor : job.supervisor = some (spawned ⟨config.cancelGrace⟩ record.execution.identity))
      (flags : job.adopted = true ∧ job.exited = false)
      (same : after =
        ({ before with backend }.registerProcess record.execution.identity input.registering).2.enter input
          outcome record.execution.identity.pid job)

/-- Says once what the adoption of one job does. -/
theorem armOutcome_cases (config : JobManagerConfig) (input : AdoptionInput) (outcome : RecoveryJobOutcome)
    (manager : JobManager σ) :
    let after := manager.armOutcome config store input outcome
    (manager.adopting store input outcome = none ∧ ∃ backend,
      (backend = manager.backend ∨ backend = (store.load manager.backend).2) ∧ after = { manager with backend }) ∨
    ∃ snapshot record, (store.load manager.backend).1 = .ok snapshot ∧ findStored snapshot outcome.jobId = some record ∧
      adopts outcome.decision = true ∧ record.execution.hasIdentity = true ∧
      manager.adopting store input outcome = some record ∧
      let supervisor := spawned ⟨config.cancelGrace⟩ record.execution.identity
      let asked := { manager with backend := (store.load manager.backend).2 }.registerProcess record.execution.identity
        input.registering
      after = if asked.1 ≠ .registered then asked.2.sendSignals supervisor.destroy input.destroying
        else asked.2.enter input outcome record.execution.identity.pid (adoptedJob snapshot outcome supervisor) := by
  unfold armOutcome
  split
  · rename_i other
    exact .inl ⟨by simp [adopting, other], manager.backend, .inl rfl, rfl⟩
  · rename_i decided
    have adopted : adopts outcome.decision = true := by simpa using decided
    split
    · rename_i load
      exact .inl ⟨by simp [adopting, adopted, load], _, .inr (by rw [load]), rfl⟩
    · rename_i snapshot _ load
      have answer : manager.adopting store input outcome = (findStored snapshot outcome.jobId).filter
          fun record => record.execution.hasIdentity && input.verified := by simp [adopting, adopted, load]
      rw [load]
      simp only
      split
      · rename_i missing
        exact .inl ⟨by simp [answer, missing], _, .inr rfl, rfl⟩
      · rename_i record found
        split
        · rename_i blank
          have unidentified : record.execution.hasIdentity = false := by simpa using blank
          exact .inl ⟨by simp [answer, found, unidentified], _, .inr rfl, rfl⟩
        · rename_i identified
          have identified : record.execution.hasIdentity = true := by simpa using identified
          have valid : record.execution.identity.valid = true := identified
          cases verified : input.verified with
          | false =>
            simp only [adopt, manages, valid]
            exact .inl ⟨by simp [answer, found, verified], _, .inr rfl, rfl⟩
          | true =>
            simp only [adopt, manages, valid]
            exact .inr ⟨snapshot, record, rfl, found, adopted, identified,
              by simp [answer, found, identified, verified], rfl⟩

theorem armOutcome_armed (faithful : Faithful limits store content) (config : JobManagerConfig) (input : AdoptionInput)
    (outcome : RecoveryJobOutcome) (inv : StoreInvariant limits (content manager.backend)) :
    Armed content config store input outcome manager (manager.armOutcome config store input outcome) := by
  have unchanged := faithful.load_content manager.backend
  rcases armOutcome_cases config input outcome manager with
    ⟨untaken, backend, read, same⟩ | ⟨snapshot, record, load, found, adopted, identified, taken, same⟩
  · refine .skipped backend ?_ untaken same
    rcases read with rfl | rfl
    · rfl
    · exact unchanged
  · cases faithful.load_snapshot manager.backend snapshot load
    rw [inv.findStored_eq] at found
    simp only at same
    split at same
    · rename_i refused
      exact .destroyed _ record unchanged adopted found identified taken refused same
    · rename_i registered
      exact .adopted _ record _ unchanged adopted found identified taken (not_not.mp registered) rfl ⟨rfl, rfl⟩ same

section Enter

variable {pid : Int} {job : SupervisedJob}

/-- An entry is made, and the cancellation of the job may be begun again. -/
theorem enter_begun : Begun input.cancel outcome.jobId (manager.supervise outcome.jobId pid job input.destroying)
    (manager.enter input outcome pid job) := by
  unfold enter
  split
  · exact beginCancellation_begun ..
  · exact .ignored rfl

theorem enter_backend : (manager.enter input outcome pid job).backend = manager.backend := enter_begun.backend

/-- Only the adopted job can come under supervision. -/
theorem enter_supervised {entry : SupervisedJob}
    (found : (manager.enter input outcome pid job).supervised.find? id = some entry) :
    id = outcome.jobId ∨ ∃ old, manager.supervised.find? id = some old := by
  obtain ⟨old, atOld⟩ := enter_begun.within id entry found
  obtain ⟨here, -⟩ | atOld := SortedMap.insert_cases atOld
  · exact .inl here
  · exact .inr ⟨old, atOld⟩

end Enter

section

variable (armed : Armed content config store input outcome before after)
include armed

theorem Armed.backend :
    content after.backend = content before.backend := by
  cases armed with
  | skipped _ unchanged _ same => rw [same, unchanged]
  | destroyed _ _ unchanged _ _ _ _ _ same => rw [same]; exact unchanged
  | adopted _ _ _ unchanged _ _ _ _ _ _ _ same =>
    rw [same, enter_backend]
    exact unchanged

theorem Armed.front : after.front = before.front := by
  cases armed with
  | skipped _ _ _ same | destroyed _ _ _ _ _ _ _ _ same => rw [same]; rfl
  | adopted _ _ _ _ _ _ _ _ _ _ _ same =>
    rw [same, enter_begun.front]
    rfl

theorem Armed.busy (inv : StoreInvariant limits (content before.backend)) (busy : SupervisedBusy content before) :
    SupervisedBusy content after := by
  have unchanged := armed.backend
  cases armed with
  | skipped _ _ _ same =>
    refine busy.of_within (.of_eq (by rw [same])) ?_
    rw [unchanged]
    exact .refl _
  | destroyed _ _ _ _ _ _ _ _ same =>
    refine busy.of_within (.of_eq (by rw [same]; rfl)) ?_
    rw [unchanged]
    exact .refl _
  | adopted _ record _ _ _ found identified _ _ _ _ same =>
    intro id _ atEntry
    rw [same] at atEntry
    rw [unchanged]
    rcases enter_supervised atEntry with here | ⟨old, atOld⟩
    · exact ⟨record, here ▸ found, inv.identified_busy found identified⟩
    · exact busy id old atOld

end

section Start

def recoveredOutcomes (recovery : Option RecoveryResult) : List RecoveryJobOutcome :=
  ((recovery.filter (·.ok)).map (·.outcomes)).getD []

/-- The manager after the adoptions of a start. -/
def armedManager (config : JobManagerConfig) (store : StateStore σ) (input : StartInput)
    (recovery : Option RecoveryResult) (manager : JobManager σ) : JobManager σ :=
  { manager with monitor := { manager.monitor with started := true } }.armRecovery config store input.adoption
    (recoveredOutcomes recovery)

/-- The start gets as far as the adoptions. -/
def reachesAdoption (config : JobManagerConfig) (input : StartInput) (manager : JobManager σ) : Bool :=
  !manager.running && !manager.stopRequested && config.valid.isOk && input.logRoot.isOk && input.monitor.isOk &&
    input.pump.isOk && input.wakePipe

/-- How a start ends. -/
inductive Started (config : JobManagerConfig) (store : StateStore σ) (input : StartInput)
    (recovery : Option RecoveryResult) (before after : JobManager σ) : Prop
  | refused (early : before.reachesAdoption config input = false) (same : after = before)
  | rejected (reached : before.reachesAdoption config input = true) (unstarted : input.workerStarted = false)
      (same : after = ((before.armedManager config store input recovery).destroyWorker input.destroying).stopMonitor)
  | running (reached : before.reachesAdoption config input = true) (worker : input.workerStarted = true)
      (same : after = { before.armedManager config store input recovery with running := true }.postWake config
        .recoveryCompleted)

theorem start_started (config : JobManagerConfig) (store : StateStore σ) (input : StartInput)
    (recovery : Option RecoveryResult) (manager : JobManager σ) :
    Started config store input recovery manager (manager.start config store input recovery).2 := by
  unfold start
  split
  · rename_i running
    exact .refused (by simp [reachesAdoption, running]) rfl
  · rename_i idle
    split
    · rename_i stopped
      exact .refused (by simp [reachesAdoption, stopped]) rfl
    · rename_i unstopped
      split
      · rename_i failed
        exact .refused (by simp [reachesAdoption, failed, Except.isOk, Except.toBool]) rfl
      · rename_i failed _
        exact .refused (by simp [reachesAdoption, failed, Except.isOk, Except.toBool]) rfl
      · rename_i failed _ _
        exact .refused (by simp [reachesAdoption, failed, Except.isOk, Except.toBool]) rfl
      · rename_i failed _ _ _
        exact .refused (by simp [reachesAdoption, failed, Except.isOk, Except.toBool]) rfl
      · rename_i valid logRoot monitor pump
        split
        · rename_i noPipe
          exact .refused (by simpa [reachesAdoption] using fun _ _ _ _ _ _ => by simpa using noPipe) rfl
        · rename_i pipe
          have reached : manager.reachesAdoption config input = true := by
            simpa [reachesAdoption, idle, unstopped, valid, logRoot, monitor, pump, Except.isOk, Except.toBool]
              using pipe
          split
          · rename_i unstarted
            exact .rejected reached (by simpa using unstarted) rfl
          · rename_i worker
            exact .running reached (by simpa using worker) rfl

end Start

end Yori.JobManager
