import Mathlib.Data.List.Induction
import Mathlib.Data.List.Nodup
import Yori.Follow.FollowSession

namespace Yori
open List

/-- A follow session of the worker, with its connection. -/
structure Served where
  fd : Int
  session : Session

/-- The sessions of the worker. Their descriptors are open, so no two are the same. -/
structure ServedSessions where
  list : List Served
  distinct : (list.map (·.fd)).Nodup

namespace Served

def pending (served : Served) : Bool := decide (served.session.pendingBytes > 0)

def flushed (served : Served) : Served := { served with session := served.session.flushed }

/-- The session has something to write, and its socket does not take it in time. -/
def fails (writable : Int → Bool) (served : Served) : Bool := served.pending && !writable served.fd

end Served

def dropSessionByFd (fd : Int) (sessions : List Served) : List Served := sessions.eraseP (·.fd == fd)

/-- `flush_session` for the session at a position: a failed write drops it from the list. -/
def flushSession (writable : Int → Bool) (sessions : List Served) (position : Nat) (served : Served) : List Served :=
  if served.session.pendingBytes = 0 then sessions
  else if writable served.fd then sessions.set position served.flushed
  else dropSessionByFd served.fd sessions

/-- A pass over the sessions: those that are left, the descriptors `flush_session` was
called for, and whether a position was used that the list does not have. -/
structure FlushPass where
  sessions : List Served
  calls : List Int := []
  strayed : Bool := false

namespace FlushPass

variable {writable : Int → Bool} {sessions before after : List Served} {served : Served} {calls : List Int}
  {strayed : Bool} {position : Nat}

def turn (writable : Int → Bool) (pass : FlushPass) (position : Nat) : FlushPass :=
  match pass.sessions[position]? with
  | none => { pass with strayed := true }
  | some served =>
    if served.pending then
      { pass with sessions := flushSession writable pass.sessions position served, calls := pass.calls ++ [served.fd] }
    else pass

/-- The loop goes to the end that the list has when it begins, whatever is dropped under way. -/
def run (writable : Int → Bool) (sessions : List Served) : FlushPass :=
  (List.range sessions.length).foldl (turn writable) { sessions }

/-- Each session with pending bytes is flushed once, exactly those whose write failed are
gone, the others stand in their order, and every position that was used existed. -/
structure Undisturbed (writable : Int → Bool) (sessions : List Served) (pass : FlushPass) : Prop where
  once : ∀ served ∈ sessions, pass.calls.count served.fd = if served.pending then 1 else 0
  kept : pass.sessions = (sessions.filter (!·.fails writable)).map Served.flushed
  placed : pass.strayed = false

theorem turn_kept (spared : served.fails writable = false) (here : before.length = position) :
    turn writable ⟨before ++ served :: after, calls, strayed⟩ position =
      ⟨before ++ served.flushed :: after, calls ++ ([served].filter Served.pending).map (·.fd), strayed⟩ := by
  subst here
  by_cases nothing : served.session.pendingBytes = 0
  · simp [turn, Served.pending, Served.flushed, Session.flushed, nothing]
  · have taken : writable served.fd = true := by
      simpa [Served.fails, Served.pending, Nat.pos_iff_ne_zero, nothing] using spared
    simp [turn, flushSession, Served.pending, Nat.pos_iff_ne_zero, nothing, taken]

theorem turn_dropped (failed : served.fails writable = true) (here : before.length = position) :
    turn writable ⟨before ++ served :: after, calls, strayed⟩ position =
      ⟨dropSessionByFd served.fd (before ++ served :: after), calls ++ [served.fd], strayed⟩ := by
  subst here
  obtain ⟨pending, refused⟩ : 0 < served.session.pendingBytes ∧ writable served.fd = false := by
    simpa [Served.fails, Served.pending] using failed
  simp [turn, flushSession, Served.pending, pending, pending.ne', refused]

/-- As long as no write fails, the loop goes over the sessions one by one. -/
theorem turns_kept (spared : ∀ served ∈ before, served.fails writable = false) :
    (range before.length).foldl (turn writable) { sessions := before ++ after } =
      ⟨before.map Served.flushed ++ after, (before.filter Served.pending).map (·.fd), false⟩ := by
  induction before using reverseRecOn generalizing after with
  | nil => rfl
  | append_singleton init last ih =>
    rw [forall_mem_append] at spared
    rw [length_append, length_singleton, range_succ, foldl_append, append_assoc,
      singleton_append, ih spared.1, foldl_cons, foldl_nil,
      turn_kept (spared.2 last (mem_singleton_self last)) (length_map _)]
    simp

theorem run_kept (distinct : (sessions.map (·.fd)).Nodup)
    (spared : ∀ served ∈ sessions.dropLast, served.fails writable = false) :
    run writable sessions =
      ⟨(sessions.filter (!·.fails writable)).map Served.flushed,
        (sessions.filter Served.pending).map (·.fd), false⟩ := by
  induction sessions using reverseRecOn with
  | nil => rfl
  | append_singleton init last _ =>
    rw [dropLast_concat] at spared
    have whole : init.filter (!·.fails writable) = init :=
      filter_eq_self.mpr fun served member => by simp [spared served member]
    rw [run, length_append, length_singleton, range_succ, foldl_append, turns_kept spared,
      foldl_cons, foldl_nil, filter_append, filter_append, whole]
    by_cases failed : last.fails writable = true
    · have pending : last.pending = true := (Bool.and_eq_true_iff.mp failed).1
      have others : ∀ other ∈ init.map Served.flushed, ¬(other.fd == last.fd) = true := by
        intro other member same
        obtain ⟨served, atServed, rfl⟩ := mem_map.mp member
        rw [map_append, nodup_append] at distinct
        exact distinct.2.2 served.fd (mem_map_of_mem atServed) last.fd (by simp) (by simpa [Served.flushed] using same)
      rw [turn_dropped failed (length_map _), dropSessionByFd, eraseP_append_right _ others]
      simp [failed, pending]
    · rw [turn_kept (Bool.not_eq_true _ ▸ failed) (length_map _)]
      simp [failed]

theorem turns_length (positions : List Nat) (pass : FlushPass) :
    (positions.foldl (turn writable) pass).sessions.length ≤ pass.sessions.length := by
  induction positions generalizing pass with
  | nil => exact le_rfl
  | cons position rest ih =>
    refine (ih (turn writable pass position)).trans ?_
    unfold turn flushSession dropSessionByFd
    repeat' split
    all_goals simp [length_eraseP_le]

/-- A session that is dropped before the last turn leaves fewer positions than there are turns. -/
theorem run_strays {bad : Served} (split : sessions.dropLast = before ++ bad :: after)
    (spared : ∀ served ∈ before, served.fails writable = false) (failed : bad.fails writable = true) :
    (run writable sessions).strayed = true := by
  obtain ⟨last, rfl⟩ : ∃ last, sessions = before ++ bad :: (after ++ [last]) := by
    cases sessions using reverseRecOn with
    | nil => simp at split
    | append_singleton init last => exact ⟨last, by simp_all⟩
  have turns : (before ++ bad :: (after ++ [last])).length = before.length + 1 + after.length + 1 := by simp; omega
  have shorter : (dropSessionByFd bad.fd (before.map Served.flushed ++ bad :: (after ++ [last]))).length =
      before.length + 1 + after.length := by
    rw [dropSessionByFd, length_eraseP_of_mem (a := bad) (by simp) (by simp)]
    simp
    omega
  rw [run, turns, range_succ, range_add, range_succ, foldl_append, foldl_append,
    foldl_append, turns_kept spared, foldl_cons, foldl_nil, foldl_cons, foldl_nil,
    turn_dropped failed (length_map _), turn, getElem?_eq_none ((turns_length _ _).trans shorter.le)]

/-- The sessions do not disturb each other exactly when no write fails but that of the last session. -/
theorem flush_undisturbed_iff (writable : Int → Bool) (sessions : ServedSessions) :
    Undisturbed writable sessions.list (run writable sessions.list) ↔
      ∀ served ∈ sessions.list.dropLast, ¬(served.session.pendingBytes > 0 ∧ writable served.fd = false) := by
  have fails : ∀ served : Served, served.fails writable = false ↔
      ¬(served.session.pendingBytes > 0 ∧ writable served.fd = false) := by
    intro served
    simp [Served.fails, Served.pending]
  simp only [← fails]
  constructor
  · intro undisturbed
    cases found : sessions.list.dropLast.find? (·.fails writable) with
    | none => simpa using found
    | some bad =>
      obtain ⟨failed, before, after, split, spared⟩ := find?_eq_some_iff_append.mp found
      have strayed := run_strays split (fun served member => by simpa using spared served member) failed
      rw [undisturbed.placed] at strayed
      cases strayed
  · intro spared
    rw [run_kept sessions.distinct spared]
    refine ⟨fun served member => ?_, rfl, rfl⟩
    have nodup : ((sessions.list.filter Served.pending).map (·.fd)).Nodup :=
      sessions.distinct.sublist (filter_sublist.map _)
    have own : served.fd ∈ (sessions.list.filter Served.pending).map (·.fd) ↔ served.pending = true := by
      rw [mem_map]
      constructor
      · rintro ⟨other, atOther, same⟩
        obtain ⟨there, pending⟩ := mem_filter.mp atOther
        rwa [← inj_on_of_nodup_map sessions.distinct there member same]
      · exact fun pending => ⟨served, mem_filter.mpr ⟨member, pending⟩, rfl⟩
    rw [nodup.count, if_congr own rfl rfl]

/-- A session with one byte to write. -/
def oneByte (fd : Int) : Served where
  fd
  session :=
    { handle := ⟨{ capacity := 1 }, {}, {}⟩, jobFinished := false, jobState := 0, exit := none, streams := ⟨{}, {}⟩
      outgoing := [0] }

/-- The first of two sessions fails: the second one is not flushed, and the pass goes on to a
position that is no longer there. -/
theorem neighbour_skipped : let sessions : ServedSessions := ⟨[oneByte 3, oneByte 4], by decide⟩
    let pass := run (· == 4) sessions.list
    pass.calls = [3] ∧ pass.strayed = true ∧ ¬Undisturbed (· == 4) sessions.list pass := by
  refine ⟨by decide, by decide, fun undisturbed => ?_⟩
  have placed := undisturbed.placed
  revert placed
  decide

end FlushPass

end Yori
