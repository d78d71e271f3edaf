import Yori.Runtime.Journal
import Yori.Runtime.QueueAgreement

namespace Yori
open MutationCore StoreState

variable {asked : JobSpec → Prop} {before middle after : JobTable}

/-- The jobs that are new in a table have specifications that were asked for. -/
def Adds (asked : JobSpec → Prop) (before after : JobTable) : Prop :=
  ∀ id record, before.find? id = none → after.find? id = some record → asked record.spec

namespace Adds

theorem of_keys (keys : ∀ id, after.contains id = before.contains id) : Adds asked before after := by
  intro id record absent found
  have here : before.contains id = true := by
    rw [← keys id]
    exact SortedMap.contains_eq_true.mpr ⟨record, found⟩
  obtain ⟨_, atOld⟩ := SortedMap.contains_eq_true.mp here
  rw [absent] at atOld
  cases atOld

theorem of_eq (same : after = before) : Adds asked before after := .of_keys fun _ => by rw [same]

theorem trans (early : Adds asked before middle) (kept : Kept middle after) (late : Adds asked middle after) :
    Adds asked before after := by
  intro id record absent found
  cases between : middle.find? id with
  | none => exact late id record between found
  | some old =>
    obtain ⟨now, atNow, spec, _⟩ := kept id old between
    have same : now = record := Option.some.inj (atNow.symm.trans found)
    rw [← same, spec]
    exact early id old absent between

end Adds

namespace Adds

variable {limits : ValidationConfig} {state next : StoreState} {mutation : StateMutation} {queue later : GlobalJobQueue}
  {left : Prop}

theorem of_updates (none : mutation.createJobs = []) (run : applyMutation limits state mutation = .ok next) :
    Adds asked state.jobs next.jobs := by
  obtain ⟨_, _, _, _, _, _, atCreated, atJobs, _, _, _, _, rfl⟩ :=
    applyMutation_eq_ok.mp run
  rw [none] at atCreated
  cases atCreated
  exact .of_keys (updateJobs_writes atJobs).2.2

theorem of_rewrites {id : JobId} (writes : Rewrites limits id state next) : Adds asked state.jobs next.jobs := by
  induction writes with
  | none => exact .of_eq rfl
  | more _ _ _ run ih => exact ih.trans (applyMutation_kept run) (.of_updates rfl run)

theorem of_submission {spec : JobSpec} (given : asked spec)
    (run : applyMutation limits state (submissionMutation state.snapshot spec) = .ok next) :
    Adds asked state.jobs next.jobs := by
  intro _ _ absent found
  have submitted := submitted_of_accepted run
  rw [submitted.jobs, SortedMap.find?_insert] at found
  split at found
  · cases found
    exact given
  · rw [absent] at found
    cases found

/-- A move of the worker adds only the job that is submitted in it. -/
theorem of_move (move : JobManager.TableMove limits left asked queue state later next) :
    Adds asked state.jobs next.jobs := by
  cases move with
  | idle => exact .of_eq rfl
  | submitted _ given move =>
    cases move with
    | idle => exact .of_eq rfl
    | submitted run | leftBehind _ run => exact .of_submission given run
    | takenBack run back =>
      exact (of_submission given run).trans (applyMutation_kept back) (.of_updates rfl back)
  | cancelled _ _ _ _ _ _ run | rewritten _ _ _ _ _ _ _ run => exact .of_updates rfl run
  | started _ _ _ _ run rewrites =>
    exact (of_updates rfl run).trans rewrites.kept (.of_rewrites rewrites)

end Adds

/-- A job comes into the store when the worker handles the submission that asks for it. -/
theorem JobManager.step_adds {σ : Type} {store : StateStore σ} {limits : ValidationConfig} {content : σ → StoreState}
    {manager : JobManager σ} (faithful : Faithful limits store content) (config : JobManagerConfig) (step : Step)
    (grounded : Grounded limits content manager) :
    Adds (manager.Submits step) (content manager.backend).jobs
      (content (manager.step config store step).backend).jobs :=
  .of_move (step_moves faithful config step grounded)

end Yori
