import JeuxServer.Server.Heap

/-!
# The barrier of `creg_wait_for_empty`

`creg_wait_for_empty` sets `P_flag`, posts the registry's semaphore if `client_count` is then
zero, and waits on the semaphore; it takes no lock. `creg_unregister` posts the semaphore, under
the registry's mutex, when it leaves `client_count` at zero with `P_flag` set. `P_flag` is never
cleared.

`Barrier` holds the world, whether a failed `creg_unregister` has left the registry's mutex
locked (it returns `-1` without unlocking it), and where each `creg_wait_for_empty` call is
(`WaitPc`). `Barrier.step` runs a whole `creg_register` or `creg_unregister`, which the mutex
makes atomic with respect to each other, or one step of a waiter, between which the registry
calls may fall.

A token is only ever posted into a state with no client registered (`Barrier.step_semaphore`),
so from a state whose semaphore is zero, a waiter that returns has seen such a state after its
call began (`waiter_returns_after_empty`). Both halves of the barrier's contract still fail
(`waitForEmpty_early_return_and_lost_wakeup`): a token posted by a later `creg_unregister`, when
no waiter is there to take it, lets the next waiter return at once, and one emptying posts one
token however many waiters are blocked.
-/

set_option autoImplicit false

namespace JeuxServer

/-- Where a `creg_wait_for_empty` call is: before `P_flag = 1`, before the test of
`client_count`, in `P`, or returned. -/
inductive WaitPc where
  | start
  | flagged
  | waiting
  | returned
  deriving DecidableEq, Repr

namespace World

/-- `cr->P_flag = 1`. -/
def setPFlag (w : World) : World := { w with pFlag := true }

/-- `if (cr->client_count == 0) V(&cr->semaphore)`. -/
def postIfEmpty (w : World) : World :=
  if w.clientCount = 0 then { w with semaphore := w.semaphore + 1 } else w

/-- `P(&cr->semaphore)`: it passes only while the semaphore is positive. -/
def semWait (w : World) : Option World :=
  if 0 < w.semaphore then some { w with semaphore := w.semaphore - 1 } else none

end World

/-- The registry's callers. -/
structure Barrier where
  world : World
  stuck : Bool
  waiters : List WaitPc

/-- One atomic action: a whole `creg_register(fd)` or `creg_unregister(c)`, or the next step
of the `i`-th `creg_wait_for_empty` call. -/
inductive BarrierEvent where
  | register (fd : Nat)
  | unregister (c : Nat)
  | waiter (i : Nat)
  deriving DecidableEq, Repr

namespace Barrier

/-- The next step of a waiter; `none` while it is blocked in `P`, or once it has returned. -/
def waiterStep (w : World) : WaitPc → Option (World × WaitPc)
  | .start => some (w.setPFlag, .flagged)
  | .flagged => some (w.postIfEmpty, .waiting)
  | .waiting => w.semWait.map (·, .returned)
  | .returned => none

/-- One action, `none` when it cannot be taken: a registry call while the mutex is stuck, or a
waiter that is blocked or gone. -/
def step (B : Barrier) : BarrierEvent → Option Barrier
  | .register fd => if B.stuck then none else some { B with world := (B.world.cregRegister fd).2 }
  | .unregister c =>
      if B.stuck then none
      else
        let r := B.world.cregUnregister c
        some { B with world := r.2, stuck := r.1 ≠ 0 }
  | .waiter i =>
      match B.waiters[i]? with
      | some pc => (waiterStep B.world pc).map fun r => { B with world := r.1, waiters := B.waiters.set i r.2 }
      | none => none

/-- A run of actions. -/
def run (B : Barrier) : List BarrierEvent → Option Barrier
  | [] => some B
  | e :: es => (B.step e).bind (·.run es)

/-- The start-up registry with `n` callers of `creg_wait_for_empty`. -/
def start (n : Nat) : Barrier := ⟨World.init [], false, List.replicate n .start⟩

theorem run_take_succ (B : Barrier) (e : BarrierEvent) (es : List BarrierEvent) (k : Nat) :
    B.run ((e :: es).take (k + 1)) = (B.step e).bind (·.run (es.take k)) := rfl

end Barrier

/-! ## Where the semaphore is posted -/

namespace World

theorem clientUnref_semaphore (w : World) (c : Nat) :
    (w.clientUnref c).semaphore = w.semaphore ∧ (w.clientUnref c).clientCount = w.clientCount := by
  unfold clientUnref playerUnref
  repeat' split
  all_goals exact ⟨rfl, rfl⟩

theorem attempt_semaphore (w : World) : w.attempt.2.semaphore = w.semaphore := by
  unfold attempt; split <;> rfl

theorem alloc_semaphore (w : World) : w.alloc.2.semaphore = w.semaphore := by
  have h := attempt_semaphore w
  unfold alloc
  revert h
  rcases w.attempt with ⟨_ | _ | _, w'⟩ <;> exact id

theorem cregRegister_semaphore (w : World) (fd : Nat) :
    (w.cregRegister fd).2.semaphore = w.semaphore := by
  have h := alloc_semaphore w
  unfold cregRegister
  split
  · rfl
  · revert h
    rcases w.alloc with ⟨_ | _, w'⟩ <;> exact id

/-- `creg_unregister` posts the semaphore only into a state with no client registered. -/
theorem cregUnregister_semaphore (w : World) (c : Nat) :
    (w.cregUnregister c).2.semaphore ≤ w.semaphore ∨ (w.cregUnregister c).2.clientCount = 0 := by
  have post : ∀ w1 : World, (if w1.clientCount = 0 ∧ w1.pFlag = true
      then { w1 with semaphore := w1.semaphore + 1 } else w1).semaphore ≤ w1.semaphore ∨
      (if w1.clientCount = 0 ∧ w1.pFlag = true
        then { w1 with semaphore := w1.semaphore + 1 } else w1).clientCount = 0 := fun w1 => by
    split
    · exact .inr ‹_ ∧ _›.1
    · exact .inl le_rfl
  unfold cregUnregister
  split
  · exact .inl le_rfl
  · split
    · exact .inl le_rfl
    · refine (post _).imp_left (le_of_le_of_eq · ?_)
      rw [(clientUnref_semaphore _ _).1]
      split <;> rfl

end World

namespace Barrier

/-- What one step can do: a whole registry call, which leaves the waiters where they are, or
one waiter's step. -/
theorem step_cases {B B' : Barrier} {e : BarrierEvent} (h : B.step e = some B') :
    (B'.waiters = B.waiters ∧ ((∃ fd, B'.world = (B.world.cregRegister fd).2) ∨
      ∃ c, B'.world = (B.world.cregUnregister c).2)) ∨
    ∃ i pc pc', B.waiters[i]? = some pc ∧ waiterStep B.world pc = some (B'.world, pc') ∧
      B'.waiters = B.waiters.set i pc' := by
  cases e with
  | register fd =>
      simp only [step] at h
      split at h <;> cases h
      exact .inl ⟨rfl, .inl ⟨fd, rfl⟩⟩
  | unregister c =>
      simp only [step] at h
      split at h <;> cases h
      exact .inl ⟨rfl, .inr ⟨c, rfl⟩⟩
  | waiter i =>
      simp only [step] at h
      split at h
      · rename_i pc hpc
        obtain ⟨⟨w', pc'⟩, hr, rfl⟩ := Option.map_eq_some'.1 h
        exact .inr ⟨i, pc, pc', hpc, hr, rfl⟩
      · cases h

/-- A waiter's step raises the semaphore only into a state with no client registered. -/
theorem waiterStep_semaphore {w w' : World} {pc pc' : WaitPc} (h : waiterStep w pc = some (w', pc')) :
    w'.semaphore ≤ w.semaphore ∨ w'.clientCount = 0 := by
  cases pc with
  | start => cases h; exact .inl le_rfl
  | flagged =>
      cases h
      by_cases h0 : w.clientCount = 0
      · exact .inr (by simp [World.postIfEmpty, h0])
      · exact .inl (by simp [World.postIfEmpty, h0])
  | waiting =>
      obtain ⟨w1, hw, hr⟩ := Option.map_eq_some'.1 h
      cases hr
      unfold World.semWait at hw
      split at hw <;> cases hw
      exact .inl (Nat.sub_le _ _)
  | returned => cases h

/-- A waiter returns only by passing `P` on a positive semaphore. -/
theorem waiterStep_returned {w w' : World} {pc : WaitPc} (hpc : pc ≠ .returned)
    (h : waiterStep w pc = some (w', .returned)) : 0 < w.semaphore := by
  cases pc with
  | waiting =>
      obtain ⟨w1, hw, -⟩ := Option.map_eq_some'.1 h
      unfold World.semWait at hw
      split at hw <;> cases hw
      assumption
  | returned => exact absurd rfl hpc
  | _ => cases h

/-- A step raises the semaphore only into a state with no client registered. -/
theorem step_semaphore {B B' : Barrier} {e : BarrierEvent} (h : B.step e = some B') :
    B'.world.semaphore ≤ B.world.semaphore ∨ B'.world.clientCount = 0 := by
  rcases step_cases h with ⟨-, ⟨fd, hw⟩ | ⟨c, hw⟩⟩ | ⟨i, pc, pc', -, hs, -⟩
  · rw [hw]
    exact .inl (World.cregRegister_semaphore _ _).le
  · rw [hw]
    exact World.cregUnregister_semaphore _ _
  · exact waiterStep_semaphore hs

/-- A waiter returns only by passing `P` on a positive semaphore. -/
theorem step_returned {B B' : Barrier} {e : BarrierEvent} {i : Nat} (h : B.step e = some B')
    (hi : B.waiters[i]? ≠ some .returned) (hi' : B'.waiters[i]? = some .returned) :
    0 < B.world.semaphore := by
  rcases step_cases h with ⟨hw, -⟩ | ⟨j, pc, pc', hpc, hs, hw⟩
  · rw [hw] at hi'
    exact absurd hi' hi
  by_cases hij : j = i
  · subst hij
    rw [hw, List.getElem?_set_self (List.getElem?_eq_some_iff.1 hpc).1] at hi'
    cases hi'
    exact waiterStep_returned (fun e => hi (e ▸ hpc)) hs
  · rw [hw, List.getElem?_set_ne hij] at hi'
    exact absurd hi' hi

end Barrier

/-- From a state whose semaphore holds no token, a `creg_wait_for_empty` call that returns has
seen, after it began, a state with no client registered, whatever the other waiters and the
registry calls do. -/
theorem waiter_returns_after_empty {B B' : Barrier} {i : Nat} {es : List BarrierEvent}
    (h0 : B.world.semaphore = 0) (hi : B.waiters[i]? ≠ some .returned)
    (hrun : B.run es = some B') (hret : B'.waiters[i]? = some .returned) :
    ∃ k, 0 < k ∧ k ≤ es.length ∧ ∃ Bk, B.run (es.take k) = some Bk ∧ Bk.world.clientCount = 0 := by
  suffices key : 0 < B.world.semaphore ∨
      ∃ k, 0 < k ∧ k ≤ es.length ∧ ∃ Bk, B.run (es.take k) = some Bk ∧ Bk.world.clientCount = 0 by
    simpa [h0] using key
  clear h0
  induction es generalizing B with
  | nil => cases hrun; exact absurd hret hi
  | cons e es ih =>
      obtain ⟨B1, h1, hrun1⟩ := Option.bind_eq_some.1 hrun
      by_cases hr1 : B1.waiters[i]? = some .returned
      · exact .inl (Barrier.step_returned h1 hi hr1)
      rcases ih hr1 hrun1 with hpos | ⟨k, hk0, hk, Bk, hBk, hz⟩
      · rcases Barrier.step_semaphore h1 with hle | hz
        · exact .inl (lt_of_lt_of_le hpos hle)
        · exact .inr ⟨1, Nat.one_pos, by simp, B1, by simp [Barrier.run, h1], hz⟩
      · refine .inr ⟨k + 1, Nat.succ_pos _, by simpa using hk, Bk, ?_, hz⟩
        rw [Barrier.run_take_succ, h1]
        exact hBk

/-- One client registers, the waiter starts and blocks, and the client unregisters. -/
def lateEmptyEvents : List BarrierEvent :=
  [.register 10, .waiter 0, .waiter 0, .unregister 0, .waiter 0]

theorem waiter_returns_after_empty_alone :
    ∃ B', (Barrier.start 1).run lateEmptyEvents = some B' ∧ B'.waiters[0]? = some .returned ∧
      ∃ k, 0 < k ∧ k ≤ lateEmptyEvents.length ∧
        ∃ Bk, (Barrier.start 1).run (lateEmptyEvents.take k) = some Bk ∧
          Bk.world.clientCount = 0 := by
  have h : ((Barrier.start 1).run lateEmptyEvents).map (·.waiters) = some [.returned] := by decide
  cases hB : (Barrier.start 1).run lateEmptyEvents with
  | none => simp [hB] at h
  | some B' =>
      have hret : B'.waiters[0]? = some .returned := by simp_all
      exact ⟨B', rfl, hret, waiter_returns_after_empty rfl (by decide) hB hret⟩

/-! ## The contract fails -/

/-- Waiter 0 runs to its end on the empty registry; a client registers and unregisters, which
posts a token since `P_flag` stays set; a second client registers. -/
def staleTokenEvents : List BarrierEvent :=
  [.waiter 0, .waiter 0, .waiter 0, .register 10, .unregister 0, .register 11]

/-- One client is registered; waiters 0 and 1 both block in `P`; the client unregisters, and
waiter 0 takes the one token. -/
def twoWaitersEvents : List BarrierEvent :=
  [.register 10, .waiter 0, .waiter 0, .waiter 1, .waiter 1, .unregister 0, .waiter 0]

/-- After `staleTokenEvents`, waiter 1 runs its three steps and returns, with `client_count`
equal to 1 in every state from its start to its return. After `twoWaitersEvents` no client is
registered, no registry call is in progress (the mutex is free), and waiter 1 is blocked in `P`
on a zero semaphore. -/
theorem waitForEmpty_early_return_and_lost_wakeup :
    (∀ k ≤ 3, ((Barrier.start 2).run (staleTokenEvents ++ List.replicate k (.waiter 1))).map
        (·.world.clientCount) = some 1) ∧
      ((Barrier.start 2).run (staleTokenEvents ++ List.replicate 3 (.waiter 1))).map (·.waiters) =
        some [.returned, .returned] ∧
      ((Barrier.start 2).run twoWaitersEvents).map
          (fun B => (B.world.clientCount, B.stuck, B.waiters, B.world.semaphore)) =
        some (0, false, [.returned, .waiting], 0) ∧
      (((Barrier.start 2).run twoWaitersEvents).bind (·.step (.waiter 1))).isNone := by
  decide

end JeuxServer
