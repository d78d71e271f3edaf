import Yori.Store.MutationCore

namespace Yori
open MutationCore

variable {config : ValidationConfig} {σ : Type} {content : σ → StoreState}

/-- What is asked of a storage backend whose data is `content`: it reads that
data, an accepted write applies the mutation to it, and neither a read nor a
refused write changes it. It may fail whenever it likes. -/
structure Faithful {σ : Type} (config : ValidationConfig) (store : StateStore σ) (content : σ → StoreState) :
    Prop where
  load_content : ∀ backend, content (store.load backend).2 = content backend
  load_snapshot : ∀ backend snapshot, (store.load backend).1 = .ok snapshot → snapshot = (content backend).snapshot
  apply_accepted : ∀ backend mutation, (store.apply backend mutation).1.code = none →
    applyMutation config (content backend) mutation = .ok (content (store.apply backend mutation).2)
  apply_revision : ∀ backend mutation, (store.apply backend mutation).1.code = none →
    (store.apply backend mutation).1.revision = (content (store.apply backend mutation).2).revision
  apply_refused : ∀ backend mutation error, (store.apply backend mutation).1.code = some error →
    content (store.apply backend mutation).2 = content backend

theorem Faithful.load_cases {store : StateStore σ} (faithful : Faithful config store content) (backend : σ) :
    (∃ code loaded, store.load backend = (.error code, loaded) ∧ content loaded = content backend) ∨
      ∃ loaded, store.load backend = (.ok (content backend).snapshot, loaded) ∧ content loaded = content backend := by
  have reads := faithful.load_content backend
  have snapshots := faithful.load_snapshot backend
  cases load : store.load backend with
  | mk answer loaded =>
    rw [load] at reads snapshots
    cases answer with
    | error code => exact .inl ⟨code, loaded, rfl, reads⟩
    | ok snapshot => exact .inr ⟨loaded, by rw [snapshots snapshot rfl], reads⟩

/-- A backend without failures of its own: it can always be read, and it takes
every write that passes the checks of the mutation core. -/
structure Reliable {σ : Type} (config : ValidationConfig) (store : StateStore σ) (content : σ → StoreState) : Prop
    extends Faithful config store content where
  load_ok : ∀ backend, ∃ snapshot, (store.load backend).1 = .ok snapshot
  apply_ok : ∀ backend mutation next, applyMutation config (content backend) mutation = .ok next →
    (store.apply backend mutation).1.code = none

theorem Reliable.load_eq {store : StateStore σ} (reliable : Reliable config store content) (backend : σ) :
    store.load backend = (.ok (content backend).snapshot, (store.load backend).2) := by
  obtain ⟨snapshot, loaded⟩ := reliable.load_ok backend
  exact Prod.ext (loaded.trans (by rw [reliable.load_snapshot backend snapshot loaded])) rfl

structure InMemoryStateStore where
  state : StoreState := .initial
  failure : Option StateStoreErrorCode := none
  nextApplyFailure : Option StateStoreErrorCode := none

namespace InMemoryStateStore

def load (memory : InMemoryStateStore) : Except StateStoreErrorCode StateSnapshot × InMemoryStateStore :=
  match memory.failure with
  | some error => (.error error, memory)
  | none => (.ok memory.state.snapshot, memory)

/-- Injected failures come before the validation; one of the two is consumed
by the write it fails. -/
def apply (config : ValidationConfig) (memory : InMemoryStateStore) (mutation : StateMutation) :
    StateStoreWriteResult × InMemoryStateStore :=
  match memory.failure, memory.nextApplyFailure with
  | some error, _ => (⟨some error, memory.state.revision⟩, memory)
  | none, some error => (⟨some error, memory.state.revision⟩, { memory with nextApplyFailure := none })
  | none, none =>
    match applyMutation config memory.state mutation with
    | .error error => (⟨some error, memory.state.revision⟩, memory)
    | .ok next => (⟨none, next.revision⟩, { memory with state := next })

def store (config : ValidationConfig) : StateStore InMemoryStateStore := ⟨load, apply config⟩

theorem faithful (config : ValidationConfig) : Faithful config (store config) state where
  load_content := by
    intro memory
    simp only [store, load]
    cases memory.failure <;> rfl
  load_snapshot := by
    intro memory _ loaded
    simp only [store, load] at loaded
    cases injected : memory.failure with
    | some => simp [injected] at loaded
    | none =>
      simp only [injected, Except.ok.injEq] at loaded
      exact loaded.symm
  apply_accepted := by
    intro memory mutation accepted
    simp only [store, apply] at accepted ⊢
    split at accepted <;> try simp at accepted
    cases outcome : applyMutation config memory.state mutation <;> simp_all
  apply_revision := by
    intro memory mutation accepted
    simp only [store, apply] at accepted ⊢
    split at accepted <;> try simp at accepted
    cases outcome : applyMutation config memory.state mutation <;> simp_all
  apply_refused := by
    intro memory mutation error refused
    simp only [store, apply] at refused ⊢
    split at refused
    · rfl
    · rfl
    · cases outcome : applyMutation config memory.state mutation <;> simp_all

/-- The store while no failures are injected. -/
def plainStore (config : ValidationConfig) : StateStore StoreState where
  load state := (.ok state.snapshot, state)
  apply state mutation :=
    match applyMutation config state mutation with
    | .error error => (⟨some error, state.revision⟩, state)
    | .ok next => (⟨none, next.revision⟩, next)

theorem plainStore_reliable (config : ValidationConfig) : Reliable config (plainStore config) id where
  load_content _ := rfl
  load_snapshot state snapshot loaded := (Except.ok.inj loaded).symm
  apply_accepted := by
    intro state mutation accepted
    simp only [plainStore] at accepted ⊢
    cases outcome : applyMutation config state mutation <;> simp_all
  apply_revision := by
    intro state mutation accepted
    simp only [plainStore] at accepted ⊢
    cases outcome : applyMutation config state mutation <;> simp_all
  apply_refused := by
    intro state mutation error refused
    simp only [plainStore] at refused ⊢
    cases outcome : applyMutation config state mutation <;> simp_all
  load_ok state := ⟨state.snapshot, rfl⟩
  apply_ok := by
    intro _ _ _ accepted
    simp only [id_eq] at accepted
    simp [plainStore, accepted]

end InMemoryStateStore

end Yori
