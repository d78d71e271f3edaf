import Mathlib.Data.List.Nodup

/-! Runs of a total step whose inputs meet a condition in the states they are
taken in. -/

namespace Guarded

variable {σ ι : Type} (step : σ → ι → σ) (Meets : σ → ι → Prop)

def Along : σ → List ι → Prop
  | _, [] => True
  | state, input :: rest => Meets state input ∧ Along (step state input) rest

instance decidableAlong [meets : ∀ state input, Decidable (Meets state input)] :
    (start : σ) → (inputs : List ι) → Decidable (Along step Meets start inputs)
  | _, [] => isTrue trivial
  | start, input :: rest =>
    have := decidableAlong (step start input) rest
    inferInstanceAs (Decidable (_ ∧ _))

/-- The states of a run, each with the input it takes. -/
def turns : σ → List ι → List (σ × ι)
  | _, [] => []
  | state, input :: rest => (state, input) :: turns (step state input) rest

variable {step Meets} {inputs : List ι} {start : σ}

theorem along_iff_turns : Along step Meets start inputs ↔ ∀ turn ∈ turns step start inputs, Meets turn.1 turn.2 := by
  induction inputs generalizing start with
  | nil => simp [Along, turns]
  | cons _ _ ih => simp [Along, turns, ih]

theorem input_mem_of_mem_turns {turn : σ × ι} (member : turn ∈ turns step start inputs) : turn.2 ∈ inputs := by
  induction inputs generalizing start with
  | nil => simp [turns] at member
  | cons _ _ ih =>
    rcases List.mem_cons.mp member with here | later
    · exact here ▸ List.mem_cons_self ..
    · exact List.mem_cons_of_mem _ (ih later)

theorem turns_inputs : (turns step start inputs).map Prod.snd = inputs := by
  induction inputs generalizing start with
  | nil => rfl
  | cons _ _ ih => rw [turns, List.map_cons, ih]

/-- Inputs with names of their own take one turn each. -/
theorem turn_unique {κ : Type} {name : ι → κ} (distinct : (inputs.map name).Nodup) {first second : σ × ι}
    (atFirst : first ∈ turns step start inputs) (atSecond : second ∈ turns step start inputs)
    (same : name first.2 = name second.2) : first = second := by
  have named : ((turns step start inputs).map fun turn => name turn.2).Nodup := by
    have through : (turns step start inputs).map (fun turn => name turn.2) =
        ((turns step start inputs).map Prod.snd).map name := by rw [List.map_map]; rfl
    rwa [through, turns_inputs]
  exact List.inj_on_of_nodup_map named atFirst atSecond same

/-- What each step keeps holds in every state of the run, whatever its inputs. -/
theorem turns_invariant (Inv : σ → Prop) (keeps : ∀ state input, Inv state → Inv (step state input))
    (initial : Inv start) : ∀ turn ∈ turns step start inputs, Inv turn.1 := by
  induction inputs generalizing start with
  | nil => simp [turns]
  | cons input _ ih =>
    intro turn member
    rcases List.mem_cons.mp member with here | later
    · exact here ▸ initial
    · exact ih (keeps start input initial) turn later

/-- What each step keeps under its condition holds along the run. -/
theorem foldl_invariant (Inv : σ → Prop)
    (keeps : ∀ state input, Meets state input → Inv state → Inv (step state input))
    (along : Along step Meets start inputs) (initial : Inv start) : Inv (inputs.foldl step start) := by
  induction inputs generalizing start with
  | nil => exact initial
  | cons input _ ih =>
    obtain ⟨meets, later⟩ := along
    exact ih later (keeps start input meets initial)

/-- The condition holds along every beginning of the run. -/
theorem Along.take (along : Along step Meets start inputs) (count : Nat) :
    Along step Meets start (inputs.take count) := by
  induction inputs generalizing start count with
  | nil => simp [Along]
  | cons _ _ ih =>
    cases count with
    | zero => exact trivial
    | succ count => exact ⟨along.1, ih along.2 count⟩

/-- A run stays good exactly as long as its inputs meet their condition, if one
step from a good state does. -/
theorem along_iff_always {Inv Good : σ → Prop} (keeps : ∀ state input, Inv state → Inv (step state input))
    (exact : ∀ state input, Inv state → Good state → (Good (step state input) ↔ Meets state input))
    (initial : Inv start) (good : Good start) :
    (∀ count, Good ((inputs.take count).foldl step start)) ↔ Along step Meets start inputs := by
  induction inputs generalizing start with
  | nil => simp [Along, good]
  | cons input _ ih =>
    have turn := exact start input initial good
    constructor
    · intro always
      have next : Good (step start input) := always 1
      exact ⟨turn.mp next, (ih (keeps start input initial) next).mp fun count => always (count + 1)⟩
    · intro ⟨meets, later⟩ count
      have next := turn.mpr meets
      cases count with
      | zero => exact good
      | succ count => exact (ih (keeps start input initial) next).mpr later count

end Guarded
