import Yori.Runtime.Handlers
import Yori.Runtime.OnlyJob

namespace Yori.JobManager
open MutationCore

variable {σ : Type} {store : StateStore σ} {limits : ValidationConfig} {content : σ → StoreState}
  {config : JobManagerConfig} {input : LaunchInput} {id : JobId} {uuid : GpuUuid} {identity : ProcessIdentity}
  {reason : ByteString} {before middle after manager : JobManager σ}

/-- The part of the manager that launches, exits and signals leave alone. -/
structure Front where
  queue : GlobalJobQueue
  gpu : GpuManager
  gateOpen : Bool
  running : Bool
  stopRequested : Bool
  commands : List Command

def front (manager : JobManager σ) : Front :=
  ⟨manager.queue, manager.gpu, manager.gateOpen, manager.running, manager.stopRequested, manager.commands⟩

/-- What the monitor can carry after a launch: what it carried, and the spawned
process. -/
def MayCarry (input : LaunchInput) (before after : JobManager σ) : Prop :=
  ∀ pid identity, after.monitor.Carries pid identity →
    before.monitor.Carries pid identity ∨ (input.spawn = .ok identity ∧ identity.pid = pid)

theorem MayCarry.refl (input : LaunchInput) (manager : JobManager σ) : MayCarry input manager manager :=
  fun _ _ carried => .inl carried

theorem MayCarry.trans (early : MayCarry input before middle) (late : MayCarry input middle after) :
    MayCarry input before after := by
  intro pid identity carried
  rcases late pid identity carried with held | new
  · exact early pid identity held
  · exact .inr new

theorem sendSignals_mayCarry {calls : List KillCall} {between : List ReaperAction} :
    MayCarry input manager (manager.sendSignals calls between) := by
  intro pid identity carried
  cases calls with
  | nil => exact .inl carried
  | cons => exact .inl (ProcessExitMonitor.runActions_carries between carried)

theorem registerProcess_mayCarry (spawned : input.spawn = .ok identity) {turns : List ReaperAction} :
    MayCarry input manager (manager.registerProcess identity turns).2 := by
  intro _ _ carried
  rcases ProcessExitMonitor.registerProcess_carries carried with held | ⟨own, same⟩
  · exact .inl held
  · exact .inr ⟨same ▸ spawned, same ▸ own⟩

/-- How a launch ends: the job was rewritten, most likely to failed, and is not
supervised, or it runs under supervision with its process on record. -/
inductive Launched (limits : ValidationConfig) (content : σ → StoreState) (input : LaunchInput) (id : JobId)
    (before after : JobManager σ) : Prop
  | dropped (rewrites : Rewrites limits id (content before.backend) (content after.backend))
      (frame : after.front = before.front) (carries : MayCarry input before after)
      (supervised : after.supervised = before.supervised) (byPid : after.byPid = before.byPid)
  | supervised (identity : ProcessIdentity) (job : SupervisedJob) (record : StoredJob)
      (rewrites : Rewrites limits id (content before.backend) (content after.backend))
      (frame : after.front = before.front) (carries : MayCarry input before after)
      (spawned : input.spawn = .ok identity) (running : (content after.backend).jobs.find? id = some record)
      (state : record.state = .running) (recorded : record.execution.identity = identity)
      (supervised : after.supervised = before.supervised.insert id job)
      (byPid : after.byPid = before.byPid.insert identity.pid id)

theorem Launched.rewrites (launched : Launched limits content input id before after) :
    Rewrites limits id (content before.backend) (content after.backend) := by
  cases launched with
  | dropped rewrites | supervised _ _ _ rewrites => exact rewrites

theorem Launched.front (launched : Launched limits content input id before after) : after.front = before.front := by
  cases launched with
  | dropped _ frame | supervised _ _ _ _ frame => exact frame

theorem failedRecord_id (clock : Nat → TimePoint) (attempt : Nat) (current : StoredJob) :
    (failedRecord uuid reason clock attempt current).record.id = current.id := by
  unfold failedRecord
  split <;> rfl

section Faithful

variable (faithful : Faithful limits store content)
include faithful

/-- A launch that fails after some rewrites of its own job is dropped. -/
theorem failLaunch_dropped (inv : StoreInvariant limits (content middle.backend))
    (rewrites : Rewrites limits id (content before.backend) (content middle.backend))
    (frame : middle.front = before.front) (carries : MayCarry input before middle)
    (supervised : middle.supervised = before.supervised) (byPid : middle.byPid = before.byPid) :
    Launched limits content input id before (middle.failLaunch store input id uuid reason) := by
  have outcome := rewriteJob_outcome faithful inv id (failedRecord uuid reason input.endClock)
  exact .dropped (rewrites.trans (outcome.rewrites inv (failedRecord_id _))) frame carries supervised byPid

theorem startSpawned_launched (inv : StoreInvariant limits (content manager.backend))
    (spawned : input.spawn = .ok identity) :
    Launched limits content input id manager (manager.startSpawned config store input id uuid identity) := by
  let compose := runningRecord identity (jobDirectory config id) input.startClock
  have outcome := rewriteJob_outcome faithful inv id compose
  have rewrites := outcome.rewrites inv (fun _ _ => rfl)
  have saved := rewrites.invariant inv
  unfold startSpawned
  simp only
  split
  · exact failLaunch_dropped faithful saved rewrites rfl sendSignals_mayCarry rfl rfl
  · rename_i accepted
    split
    · exact failLaunch_dropped faithful saved rewrites rfl
        ((registerProcess_mayCarry spawned).trans sendSignals_mayCarry) rfl rfl
    · let entered := (registerProcess identity input.registering
        { manager with backend := (rewriteJob store id compose manager.backend).2 }).2
      have carries : MayCarry input manager (entered.runReaper input.attaching) :=
        (registerProcess_mayCarry spawned).trans fun _ _ carried =>
          .inl (ProcessExitMonitor.runActions_carries input.attaching carried)
      split
      · refine failLaunch_dropped faithful saved rewrites rfl (.trans (carries.trans ?_) sendSignals_mayCarry) rfl rfl
        exact fun _ _ carried => .inl (ProcessExitMonitor.unregisterProcess_carries carried)
      · cases outcome with
        | refused failed => exact absurd accepted failed
        | accepted attempt current _ found run =>
          have key := inv.jobKeys id current found
          have moved := ((compose attempt current).rewritten run).jobs
          refine .supervised identity _ (compose attempt current).record rewrites rfl carries spawned ?_ rfl rfl rfl rfl
          change (content (rewriteJob store id compose manager.backend).2).jobs.find? id = _
          rw [moved, show (compose attempt current).record.id = id from key, SortedMap.find?_insert_self]

/-- What a launch can do, whatever the components it calls answer. -/
theorem launchScheduled_launched (config : JobManagerConfig) (input : LaunchInput) (id : JobId) (uuid : GpuUuid)
    (manager : JobManager σ) (inv : StoreInvariant limits (content manager.backend)) :
    Launched limits content input id manager (manager.launchScheduled config store input id uuid) := by
  unfold launchScheduled
  rcases faithful.load_cases manager.backend with ⟨_, _, load, reads⟩ | ⟨loaded, load, reads⟩
  · rw [load]
    exact .dropped (by rw [reads]; exact .none) rfl (.refl input _) rfl rfl
  · rw [load]
    have unwritten : Rewrites limits id (content manager.backend) (content loaded) := by
      rw [reads]
      exact .none
    have invLoaded : StoreInvariant limits (content loaded) := by rwa [reads]
    simp only
    split
    · exact .dropped unwritten rfl (.refl input _) rfl rfl
    · split
      · exact .dropped unwritten rfl (.refl input _) rfl rfl
      · split
        · exact failLaunch_dropped faithful invLoaded unwritten rfl (.refl input _) rfl rfl
        · split
          · exact failLaunch_dropped faithful invLoaded unwritten rfl (.refl input _) rfl rfl
          · rename_i identity spawned
            have launched : Launched limits content input id _ (startSpawned config store input id uuid identity
              (({ manager with backend := loaded }.emit [.streamOpened id]).emit
                [.spawned id ⟨uuid, physicalIndex input.observed uuid, 0⟩ identity])) :=
              startSpawned_launched faithful invLoaded spawned
            cases launched with
            | dropped rewrites frame carries supervised byPid =>
              exact .dropped (unwritten.trans rewrites) frame carries supervised byPid
            | supervised identity job record rewrites frame carries spawned running state recorded supervised byPid =>
              exact .supervised identity job record (unwritten.trans rewrites) frame carries spawned running state
                recorded supervised byPid

end Faithful

end Yori.JobManager
