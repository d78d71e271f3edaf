import Mathlib.Data.List.Basic

/-! One subscriber's bounded queue of a broadcast topic. When it is full the newest item is refused. -/

/-- `offered` remembers every item that was published while the subscription was
open, in order, and whether there was room for it. -/
structure Subscription (α : Type) where
  capacity : Nat
  queue : List α := []
  closed : Bool := false
  offered : List (α × Bool) := []
deriving Repr

namespace Subscription

variable {α : Type} {subscription : Subscription α} {p : α → Bool} {item : α}

def full (subscription : Subscription α) : Bool := subscription.capacity ≤ subscription.queue.length

def publish (subscription : Subscription α) (item : α) : Subscription α :=
  if subscription.closed then subscription
  else if subscription.full then { subscription with offered := subscription.offered ++ [(item, false)] }
  else { subscription with queue := subscription.queue ++ [item], offered := subscription.offered ++ [(item, true)] }

def tryReceive (subscription : Subscription α) : Option (α × Subscription α) :=
  match subscription.queue with
  | [] => none
  | item :: rest => some (item, { subscription with queue := rest })

/-- Items that are already queued stay receivable. -/
def close (subscription : Subscription α) : Subscription α := { subscription with closed := true }

def published (subscription : Subscription α) : List α := subscription.offered.map Prod.fst

def rejected (subscription : Subscription α) : List α :=
  (subscription.offered.filter fun offer => !offer.2).map Prod.fst

def accepted (subscription : Subscription α) : List α :=
  (subscription.offered.filter fun offer => offer.2).map Prod.fst

theorem tryReceive_eq_some {after : Subscription α} (received : subscription.tryReceive = some (item, after)) :
    subscription.queue = item :: after.queue ∧ after = { subscription with queue := after.queue } := by
  unfold tryReceive at received
  split at received
  · cases received
  · rename_i queued
    cases received
    exact ⟨queued, rfl⟩

theorem tryReceive_eq_none (empty : subscription.tryReceive = none) : subscription.queue = [] := by
  unfold tryReceive at empty
  split at empty
  · assumption
  · cases empty

variable (subscription)

theorem publish_closed (item : α) :
    (subscription.publish item).closed = subscription.closed := by
  unfold publish
  split
  · rfl
  · split <;> rfl

/-- What a publication does, in three cases: nothing, one more item in the queue, or a refusal. -/
theorem publish_cases (item : α) :
    subscription.closed = true ∧ subscription.publish item = subscription ∨
      subscription.closed = false ∧ subscription.full = false ∧ subscription.publish item =
        { subscription with queue := subscription.queue ++ [item], offered := subscription.offered ++ [(item, true)] } ∨
      subscription.closed = false ∧ subscription.full = true ∧
        subscription.publish item = { subscription with offered := subscription.offered ++ [(item, false)] } := by
  unfold publish
  cases open' : subscription.closed with
  | true => exact Or.inl ⟨rfl, rfl⟩
  | false =>
    cases room : subscription.full with
    | false => exact Or.inr (Or.inl ⟨rfl, rfl, rfl⟩)
    | true => exact Or.inr (Or.inr ⟨rfl, rfl, rfl⟩)

/-- What is new in the queue was accepted, and is the item or nothing. -/
theorem publish_adds (item : α) : ∃ new, (new = [] ∨ new = [item]) ∧
    (subscription.publish item).queue = subscription.queue ++ new ∧
      (subscription.publish item).accepted = subscription.accepted ++ new := by
  rcases subscription.publish_cases item with ⟨_, same⟩ | ⟨_, _, same⟩ | ⟨_, _, same⟩
  · exact ⟨[], .inl rfl, by simp [same]⟩
  · exact ⟨[item], .inr rfl, by simp [same, accepted]⟩
  · exact ⟨[], .inl rfl, by simp [same, accepted]⟩

/-- A publication is not noticed by who looks at other items only. -/
theorem publish_of_neg (other : p item = false) :
    (subscription.publish item).queue.filter p = subscription.queue.filter p ∧
      (subscription.publish item).published.any p = subscription.published.any p ∧
      (subscription.publish item).rejected.filter p = subscription.rejected.filter p ∧
      (subscription.publish item).accepted.filter p = subscription.accepted.filter p := by
  rcases subscription.publish_cases item with ⟨_, same⟩ | ⟨_, _, same⟩ | ⟨_, _, same⟩ <;>
    simp [same, published, rejected, accepted, other]

/-- What was refused stays so. -/
theorem rejected_publish (item : α) :
    subscription.rejected ⊆ (subscription.publish item).rejected := by
  intro _ member
  rcases subscription.publish_cases item with ⟨_, same⟩ | ⟨_, _, same⟩ | ⟨_, _, same⟩
  · rw [same]
    exact member
  · rw [same]
    simpa [rejected] using member
  · rw [same]
    simp only [rejected, List.filter_append, List.map_append]
    exact List.mem_append_left _ member

/-- An item that counts is queued if there is room, refused if there is none, or the subscription is closed. -/
theorem publish_of_pos (counts : p item = true) :
    subscription.full = false ∧ (subscription.publish item).queue.filter p = subscription.queue.filter p ++ [item] ∧
        (subscription.publish item).rejected = subscription.rejected ∧
        (subscription.publish item).accepted = subscription.accepted ++ [item] ∨
      (subscription.publish item).queue.filter p = subscription.queue.filter p ∧
        (subscription.publish item).accepted = subscription.accepted ∧
        (subscription.full = true ∧ (subscription.publish item).rejected = subscription.rejected ++ [item] ∨
          subscription.closed = true ∧ (subscription.publish item).rejected = subscription.rejected) := by
  rcases subscription.publish_cases item with ⟨closed, same⟩ | ⟨_, room, same⟩ | ⟨_, full, same⟩
  · rw [same]
    exact Or.inr ⟨rfl, rfl, Or.inr ⟨closed, rfl⟩⟩
  · refine Or.inl ⟨room, ?_⟩
    simp [same, counts, rejected, accepted]
  · refine Or.inr ⟨by rw [same], by simp [same, accepted], Or.inl ⟨full, ?_⟩⟩
    simp [same, rejected]

end Subscription
