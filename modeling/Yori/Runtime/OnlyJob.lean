import Yori.Runtime.Rewrite
import Yori.Scheduler.StartMutation

namespace Yori
open MutationCore SortedMap

/-- Between the two states only the row and the leases of one job differ. -/
structure OnlyJob (id : JobId) (before after : StoreState) : Prop where
  rows : ∀ other, other ≠ id → after.jobs.find? other = before.jobs.find? other
  leases : ∀ uuid lease, lease.jobId ≠ id →
    (after.leases.find? uuid = some lease ↔ before.leases.find? uuid = some lease)

variable {limits : ValidationConfig} {id : JobId} {before middle after : StoreState} {rewrite : Rewrite}

theorem OnlyJob.refl (id : JobId) (state : StoreState) : OnlyJob id state state :=
  ⟨fun _ _ => rfl, fun _ _ _ => Iff.rfl⟩

theorem OnlyJob.trans (early : OnlyJob id before middle) (late : OnlyJob id middle after) : OnlyJob id before after :=
  ⟨fun other different => (late.rows other different).trans (early.rows other different),
    fun uuid lease different => (late.leases uuid lease different).trans (early.leases uuid lease different)⟩

theorem StoreInvariant.held (inv : StoreInvariant limits before) {record : StoredJob}
    (found : before.jobs.find? id = some record) (active : leaseable record.state = true) :
    ∃ uuid lease, before.leases.find? uuid = some lease ∧ lease.jobId = id := by
  have count : leaseCount before.leases id = 1 := by simpa [active] using inv.leaseMatrix id record found
  have some : ¬∀ lease ∈ before.leases.values, lease.jobId ≠ id := by
    rw [← leaseCount_eq_zero, count]
    omega
  simp only [not_forall, not_not, mem_values] at some
  obtain ⟨lease, ⟨uuid, atUuid⟩, same⟩ := some
  exact ⟨uuid, lease, atUuid, same⟩

/-- A lease of another job cannot be given up: that job would be left active
without one. -/
theorem Rewritten.onlyJob (moved : Rewritten before rewrite after) (inv : StoreInvariant limits before)
    (next : StoreInvariant limits after) : OnlyJob rewrite.record.id before after := by
  have rows : ∀ other, other ≠ rewrite.record.id → after.jobs.find? other = before.jobs.find? other := by
    intro _ different
    rw [moved.jobs, find?_insert_of_ne _ _ different]
  refine ⟨rows, ?_⟩
  intro uuid lease different
  cases released : rewrite.release with
  | none => rw [moved.leases, released]
  | some given =>
    have leases : after.leases = before.leases.erase given := by rw [moved.leases, released]
    rw [leases, find?_erase]
    split
    · rename_i here
      subst here
      refine iff_of_false (by simp) ?_
      intro held
      have member : lease ∈ before.leases.values := mem_values.mpr ⟨_, held⟩
      obtain ⟨owner, found, active⟩ := ownerLeaseable_iff.mp (inv.owner_leaseable member)
      have stays : after.jobs.find? lease.jobId = some owner := (rows _ different).trans found
      obtain ⟨place, other, atPlace, same⟩ := next.held stays active
      rw [leases, find?_erase] at atPlace
      split at atPlace
      · simp at atPlace
      · rename_i elsewhere
        have equal := inv.leasesValid.exclusive place other uuid lease atPlace held same
        exact elsewhere equal
    · exact Iff.rfl

/-- Any number of accepted rewrites of one job. -/
inductive Rewrites (limits : ValidationConfig) (id : JobId) (before : StoreState) : StoreState → Prop
  | none : Rewrites limits id before before
  | more {middle after : StoreState} (earlier : Rewrites limits id before middle) (rewrite : Rewrite)
      (own : rewrite.record.id = id)
      (run : applyMutation limits middle (rewrite.mutation middle.revision) = .ok after) :
      Rewrites limits id before after

namespace Rewrites

section

variable (writes : Rewrites limits id before after)
include writes

theorem invariant (inv : StoreInvariant limits before) :
    StoreInvariant limits after := by
  induction writes with
  | none => exact inv
  | more _ _ _ run ih => exact ih.step run

theorem onlyJob (inv : StoreInvariant limits before) :
    OnlyJob id before after := by
  induction writes with
  | none => exact .refl id before
  | more earlier rewrite own run ih =>
    have middle := earlier.invariant inv
    have one := (rewrite.rewritten run).onlyJob middle (middle.step run)
    rw [own] at one
    exact ih.trans one

theorem kept : Kept before.jobs after.jobs := by
  induction writes with
  | none => exact .refl _
  | more _ _ _ run ih => exact ih.trans (applyMutation_kept run)

theorem queuedSame (busy : ∀ record, before.jobs.find? id = some record → record.state ≠ .queued) :
    QueuedSame before.jobs after.jobs := by
  induction writes with
  | none => exact .refl _
  | @more _ _ _ _ own run ih =>
    refine ih.trans (applyMutation_queuedSame run rfl ?_)
    intro _ member existing found queued
    rw [List.mem_singleton.mp member, own] at found
    exact busy existing ((ih id existing queued).mp found) queued

end

end Rewrites

theorem RewriteOutcome.rewrites {compose : Nat → StoredJob → Rewrite} {code : Option StateStoreErrorCode}
    (outcome : RewriteOutcome limits id compose before after code) (inv : StoreInvariant limits before)
    (keepsId : ∀ attempt record, (compose attempt record).record.id = record.id) : Rewrites limits id before after := by
  cases outcome with
  | refused _ same => exact same ▸ .none
  | accepted attempt current _ found run =>
    exact .more .none (compose attempt current) ((keepsId attempt current).trans (inv.jobKeys id current found)) run

theorem Rewrites.trans (early : Rewrites limits id before middle) (late : Rewrites limits id middle after) :
    Rewrites limits id before after := by
  induction late with
  | none => exact early
  | more _ rewrite own run ih => exact .more ih rewrite own run

end Yori
