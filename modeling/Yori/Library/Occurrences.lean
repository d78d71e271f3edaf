import Mathlib.Data.List.Basic

/-! Conditions on the items of a list that look at what came before them. -/

variable {α : Type}

/-- Every item is right for those before it. -/
def EachAfter (P : List α → α → Prop) (items : List α) : Prop :=
  ∀ before item after, items = before ++ item :: after → P before item

namespace EachAfter

variable {P : List α → α → Prop} {items added : List α}

theorem of_forall (all : ∀ item ∈ items, ∀ before, P before item) : EachAfter P items := by
  intro before item _ same
  exact all item (by rw [same]; exact List.mem_append_right _ (List.mem_cons_self ..)) before

/-- Items that are added at the end are right if they are after all that was there. -/
theorem append (early : EachAfter P items) (late : EachAfter (fun before => P (items ++ before)) added) :
    EachAfter P (items ++ added) := by
  intro before item after same
  rcases List.append_eq_append_iff.mp same with ⟨more, whole, rest⟩ | ⟨more, whole, rest⟩
  · rw [whole]
    exact late more item after rest
  · cases more with
    | nil =>
      rw [List.append_nil] at whole
      rw [List.nil_append] at rest
      have here : P (items ++ []) item := late [] item after rest.symm
      rw [List.append_nil, whole] at here
      exact here
    | cons _ more =>
      rw [List.cons_append, List.cons.injEq] at rest
      obtain ⟨rfl, _⟩ := rest
      exact early before item more whole

end EachAfter
