import Mathlib.Algebra.GroupWithZero.Nat

/-! Chains of checks that stop at the first failure, and loops over them. -/

namespace Checked
open List

variable {ε α β σ : Type} {step : σ → α → Except ε σ} {next : Unit → Except ε β} {first : Except ε α} {items : List α}
  {bad : Prop} {error : ε} {result : β} {value : α}

/-- One guard of a chain: report `error` exactly when `bad` holds. -/
def rejectIf (bad : Prop) [Decidable bad] (error : ε) : Except ε Unit :=
  if bad then .error error else .ok ()

@[simp] theorem rejectIf_eq_ok [Decidable bad] {u : Unit} : rejectIf bad error = .ok u ↔ ¬bad := by
  unfold rejectIf
  split <;> simp_all

theorem rejectIf_of_not [Decidable bad] (good : ¬bad) :
    rejectIf bad error = .ok () := rejectIf_eq_ok.mpr good

theorem bind_eq_ok {next : α → Except ε β} :
    (first >>= next) = .ok result ↔ ∃ value, first = .ok value ∧ next value = .ok result := by
  cases first with
  | error | ok => simp [bind, Except.bind]

theorem unit_bind_eq_ok {first : Except ε Unit} :
    (first >>= next) = .ok result ↔ first = .ok () ∧ next () = .ok result := by
  rw [bind_eq_ok]
  exact ⟨fun ⟨_, passed, rest⟩ => ⟨passed, rest⟩, fun ⟨passed, rest⟩ => ⟨(), passed, rest⟩⟩

/-- The usual step of a chain: the guard passed and the rest succeeded. -/
theorem guard_bind_eq_ok [Decidable bad] :
    (rejectIf bad error >>= next) = .ok result ↔ ¬bad ∧ next () = .ok result := by
  rw [unit_bind_eq_ok, rejectIf_eq_ok]

/-- The lookup of a chain: report `error` exactly when there is nothing. -/
def require (found : Option α) (error : ε) : Except ε α :=
  match found with
  | some value => .ok value
  | none => .error error

@[simp] theorem require_eq_ok {found : Option α} : require found error = .ok value ↔ found = some value := by
  cases found <;> simp [require]

section Rename

variable {δ : Type} {rename : ε → δ}

@[simp] theorem mapError_ok : (.ok value : Except ε α).mapError rename = .ok value := rfl

@[simp] theorem mapError_error : (.error error : Except ε α).mapError rename = .error (rename error) := rfl

theorem mapError_eq_ok : first.mapError rename = .ok value ↔ first = .ok value := by
  cases first <;> simp

end Rename

/-- A computation that does what another one does, unless it fails. -/
def FailsOr (faulty plain : Except ε α) : Prop := (∃ error, faulty = .error error) ∨ faulty = plain

theorem FailsOr.refl (plain : Except ε α) : FailsOr plain plain := .inr rfl

theorem FailsOr.rejectIf (bad : Prop) [Decidable bad] (error : ε) : FailsOr (rejectIf bad error) (.ok ()) := by
  unfold Checked.rejectIf
  split
  · exact .inl ⟨error, rfl⟩
  · exact .inr rfl

theorem FailsOr.bind {plain : Except ε α} {next plainNext : α → Except ε β} (head : FailsOr first plain)
    (tail : ∀ value, FailsOr (next value) (plainNext value)) : FailsOr (first >>= next) (plain >>= plainNext) := by
  rcases head with ⟨error, failed⟩ | same
  · rw [failed]
    exact .inl ⟨error, rfl⟩
  · rw [same]
    cases plain with
    | error error => exact .inl ⟨error, rfl⟩
    | ok value => exact tail value

/-- A loop whose every successful turn keeps `Inv` keeps it as a whole. -/
theorem foldlM_invariant {start finish : σ} (Inv : σ → Prop)
    (keeps : ∀ before item after, item ∈ items → step before item = .ok after → Inv before → Inv after)
    (run : items.foldlM step start = .ok finish) (initial : Inv start) : Inv finish := by
  induction items generalizing start with
  | nil =>
    cases run
    exact initial
  | cons item _ ih =>
    rw [foldlM_cons] at run
    obtain ⟨middle, turn, run⟩ := bind_eq_ok.mp run
    have kept := keeps start item middle (mem_cons_self ..) turn initial
    exact ih (fun before next after member => keeps before next after (mem_cons_of_mem _ member)) run kept

/-- A loop that succeeds is followed by one over the encoded items, if each of
its turns is followed by a turn. -/
theorem foldlM_follows {τ ρ : Type} {execute : τ → ρ → Option τ} {encode : α → ρ} {start finish : σ} {low : τ}
    (Follows : τ → σ → Prop)
    (turn : ∀ low before item after, step before item = .ok after → Follows low before → ∃ next,
      execute low (encode item) = some next ∧ Follows next after)
    (run : items.foldlM step start = .ok finish) (initial : Follows low start) :
    ∃ last, (items.map encode).foldlM execute low = some last ∧ Follows last finish := by
  induction items generalizing start low with
  | nil =>
    cases run
    exact ⟨low, rfl, initial⟩
  | cons item _ ih =>
    rw [foldlM_cons] at run
    obtain ⟨middle, first, run⟩ := bind_eq_ok.mp run
    obtain ⟨_, executed, follows⟩ := turn low start item middle first initial
    obtain ⟨last, later, done⟩ := ih run follows
    refine ⟨last, ?_, done⟩
    rw [map_cons, foldlM_cons, executed]
    exact later

/-- A loop that collects its results succeeds exactly when every turn does. -/
theorem mapM_eq_ok {turn : α → Except ε β} {results : List β} :
    items.mapM turn = .ok results ↔ items.map turn = results.map .ok := by
  induction items generalizing results with
  | nil =>
    rw [mapM_nil, map_nil, nil_eq, map_eq_nil_iff]
    exact ⟨fun same => (Except.ok.inj same).symm, fun none => none ▸ rfl⟩
  | cons _ _ ih =>
    rw [mapM_cons, bind_eq_ok, map_cons]
    constructor
    · intro ⟨_, first, later⟩
      obtain ⟨_, others, same⟩ := bind_eq_ok.mp later
      cases same
      rw [map_cons, first, ih.mp others]
    · intro same
      obtain ⟨value, values, rfl, first, others⟩ := map_eq_cons_iff.mp same.symm
      exact ⟨value, first.symm, bind_eq_ok.mpr ⟨values, ih.mpr others.symm, rfl⟩⟩

/-- Refuses the first item at which the sizes so far add up to more than `limit`. -/
def refuseOver (limit : Nat) (size : α → Nat) (refusal : Nat → α → ε) (items : List α) : Except ε Unit :=
  match items.zipIdx.find? fun entry => decide (limit < ((items.take (entry.2 + 1)).map size).sum) with
  | none => .ok ()
  | some (item, index) => .error (refusal index item)

/-- A loop that checks its items one by one and adds up what they take, with an
error of its own for the item that does not fit any more. -/
structure Budget (check : Nat → Nat → List α → Except ε Unit) (each : Nat → α → Except ε Unit) (good : α → Prop)
    (size : α → Nat) (limit : Nat) (refusal : Nat → α → ε) : Prop where
  empty : ∀ index total, check index total [] = .ok ()
  accepts : ∀ index item, each index item = .ok () ↔ good item
  turn : ∀ index total item rest, total ≤ limit → check index total (item :: rest) = do
    each index item
    if total + size item ≤ limit then check (index + 1) (total + size item) rest else .error (refusal index item)

section Budget
variable {check : Nat → Nat → List α → Except ε Unit} {each : Nat → α → Except ε Unit} {good : α → Prop}
  {size : α → Nat} {limit index total : Nat} {refusal : Nat → α → ε} {item : α} {rest before : List α}

theorem refuseOver_cons :
    refuseOver limit size refusal (item :: rest) =
      if limit < size item then .error (refusal 0 item)
      else refuseOver (limit - size item) size (fun index => refusal (index + 1)) rest := by
  rw [refuseOver, zipIdx_cons, find?_cons]
  by_cases large : limit < size item
  · simp [large]
  · have shifted : ∀ sum, limit < size item + sum ↔ limit - size item < sum := by omega
    simp only [zipIdx_succ, find?_map, Function.comp_def, take_succ_cons, map_cons, sum_cons,
      shifted, take_zero, map_nil, sum_nil, Nat.add_zero, large, decide_false, if_false, refuseOver]
    generalize rest.zipIdx.find? _ = found
    cases found <;> rfl

theorem refuseOver_eq_ok : refuseOver limit size refusal items = .ok () ↔ (items.map size).sum ≤ limit := by
  induction items generalizing limit refusal with
  | nil => simp [refuseOver]
  | cons item rest ih =>
    rw [refuseOver_cons, map_cons, sum_cons]
    by_cases large : limit < size item
    · simp only [large, if_true, reduceCtorEq, false_iff]
      omega
    · rw [if_neg large, ih]
      omega

namespace Budget

variable (loop : Budget check each good size limit refusal)
include loop

theorem eq_ok (within : total ≤ limit) :
    check index total items = .ok () ↔ (∀ item ∈ items, good item) ∧ total + (items.map size).sum ≤ limit := by
  induction items generalizing index total with
  | nil => simpa [loop.empty] using within
  | cons item rest ih =>
    rw [loop.turn _ _ _ _ within, unit_bind_eq_ok, loop.accepts, forall_mem_cons, map_cons, sum_cons,
      ← Nat.add_assoc, and_assoc]
    by_cases fits : total + size item ≤ limit
    · rw [if_pos fits, ih fits]
    · rw [if_neg fits]
      simp only [reduceCtorEq, and_false, false_iff, not_and, Nat.not_le]
      omega

/-- Behind the items that it passed, such a loop goes on from their sum. -/
theorem passed (within : total ≤ limit) (ran : check index total before = .ok ()) :
    check index total (before ++ rest) = check (index + before.length) (total + (before.map size).sum) rest := by
  induction before generalizing index total with
  | nil => rfl
  | cons item before ih =>
    obtain ⟨fine, sum⟩ := (loop.eq_ok within).mp ran
    rw [map_cons, sum_cons, ← Nat.add_assoc] at sum ⊢
    have fits : total + size item ≤ limit := by omega
    have turn := fun rest => loop.turn index total item rest within
    simp only [(loop.accepts _ _).mpr (fine item (mem_cons_self ..)), if_pos fits] at turn
    rw [turn before] at ran
    rw [cons_append, turn (before ++ rest), length_cons, Nat.add_comm before.length, ← Nat.add_assoc]
    exact ih fits ran

/-- Over items that pass, it refuses the first one at which the sum is too large. -/
theorem eq_refuseOver (within : total ≤ limit) (fine : ∀ item ∈ items, good item) :
    check index total items = refuseOver (limit - total) size (fun offset => refusal (index + offset)) items := by
  induction items generalizing index total with
  | nil => exact loop.empty ..
  | cons item rest ih =>
    obtain ⟨first, others⟩ := forall_mem_cons.mp fine
    rw [loop.turn _ _ _ _ within, (loop.accepts _ _).mpr first, refuseOver_cons]
    change (if total + size item ≤ limit then _ else _) = _
    by_cases fits : total + size item ≤ limit
    · rw [if_pos fits, if_neg (by omega), ih fits others, Nat.sub_sub]
      simp only [Nat.add_assoc, Nat.add_comm 1]
    · rw [if_neg fits, if_pos (by omega)]
      rfl

theorem refuses (fine : ∀ item ∈ items, good item) : check 0 0 items = refuseOver limit size refusal items := by
  rw [loop.eq_refuseOver (Nat.zero_le _) fine, Nat.sub_zero]
  simp only [Nat.zero_add]

end Budget
end Budget

end Checked
