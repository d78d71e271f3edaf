import Yori.Library.Checked

/-! Runs of a fallible step in which a rejected input leaves the state alone. -/

namespace Rejecting

variable {ε σ ι : Type} (step : σ → ι → Except ε σ)

def next (state : σ) (input : ι) : σ :=
  match step state input with
  | .ok after => after
  | .error _ => state

def run (start : σ) (inputs : List ι) : σ := inputs.foldl (next step) start

variable {step} {state : σ} {input : ι}

theorem next_accepted {after : σ} (accepted : step state input = .ok after) : next step state input = after := by
  simp only [next, accepted]

theorem next_rejected {error : ε} (rejected : step state input = .error error) : next step state input = state := by
  simp only [next, rejected]

theorem run_cons (start : σ) (input : ι) (rest : List ι) :
    run step start (input :: rest) = run step (next step start input) rest := rfl

theorem run_append (start : σ) (first second : List ι) :
    run step start (first ++ second) = run step (run step start first) second := List.foldl_append

/-- What every accepted step keeps holds along every run. -/
theorem run_invariant {start : σ} {inputs : List ι} (Inv : σ → Prop)
    (keeps : ∀ before input after, step before input = .ok after → Inv before → Inv after)
    (initial : Inv start) : Inv (run step start inputs) := by
  induction inputs generalizing start with
  | nil => exact initial
  | cons input _ ih =>
    rw [run_cons]
    apply ih
    cases turn : step start input with
    | error =>
      rw [next_rejected turn]
      exact initial
    | ok after =>
      rw [next_accepted turn]
      exact keeps start input after turn initial

end Rejecting
