import JeuxServer.Server.Service

/-!
# The state machine of an invitation

`inv_accept` and `inv_close` are the only calls that change an invitation's state. The states
are meant to move along OPEN → ACCEPTED, OPEN → CLOSED and ACCEPTED → CLOSED
(`InvitationState.Step`), with a game present exactly once the invitation has been accepted.

Along any sequence of the two calls on an invitation made by `inv_create`, under any outcome of
`game_create`'s allocation (`World.callsOn`), each call leaves the state as it was or moves it
along one of those edges: `inv_close` returns `0` exactly when it moves it and otherwise
changes nothing, `inv_accept` returns `0` only when it moves OPEN to ACCEPTED with a new game;
and a game is present only in an invitation that has left OPEN
(`invitation_calls_follow_edges`).

The converse fails: `inv_accept` sets ACCEPTED before it allocates the game and does not
undo it when the allocation fails, returning `-1` (`accept_failed_game_keeps_accepted`).
Such an invitation has no game, so `client.c`, which reads "no game" as "not accepted", lets
it be revoked and declined, and it can never be accepted again.
-/

set_option autoImplicit false

namespace JeuxServer

/-- The moves of an invitation's state. -/
def InvitationState.Step : InvitationState → InvitationState → Prop
  | .invOpenState, .invAcceptedState => True
  | .invOpenState, .invClosedState => True
  | .invAcceptedState, .invClosedState => True
  | _, _ => False

/-- A call of the invitation's state machine: `inv_accept`, or `inv_close` for a role. -/
inductive InvCall where
  | accept
  | close (role : GameRole)
  deriving DecidableEq, Repr

namespace World

/-- One call on invitation `i`, with its result. -/
def invCall (w : World) (i : Nat) : InvCall → Int × World
  | .accept => w.invAccept i
  | .close role => w.invClose i role

/-- A sequence of calls on invitation `i`. -/
def callsOn (w : World) (i : Nat) (calls : List InvCall) : World :=
  calls.foldl (fun w c => (w.invCall i c).2) w

@[simp] theorem attempt_setInvitation_fst (w : World) (i : Nat) (x : Option Invitation) :
    (w.setInvitation i x).attempt.1 = w.attempt.1 := by
  cases h : w.outcomes <;> simp [attempt, setInvitation, h]

/-- What `inv_accept` does to an OPEN invitation: ACCEPTED, with a new game when the game's
allocation succeeds, which is when it returns `0`. -/
theorem invAccept_open {w : World} {i : Nat} {inv : Invitation} (hi : w.invitations i = some inv)
    (ho : inv.state = .invOpenState) :
    ((w.invAccept i).1 = 0 ↔ w.attempt.1 = .ok) ∧
      (w.invAccept i).2.invitations i = some
        { inv with state := .invAcceptedState
                   game := if w.attempt.1 = .ok then some gameCreate else inv.game } := by
  unfold invAccept
  rw [hi]
  simp only [ho, ne_eq, not_true_eq_false, if_false]
  have h1 := (attempt_setInvitation_fst w i (some { inv with state := .invAcceptedState })).symm
  have h2 := attempt_invitations (w.setInvitation i (some { inv with state := .invAcceptedState }))
  revert h1 h2
  generalize (w.setInvitation i (some { inv with state := .invAcceptedState })).attempt = a
  rcases a with ⟨_ | _ | _, w'⟩ <;> intro h1 h2 <;> simp_all

/-- `inv_accept` changes nothing but an OPEN invitation. -/
theorem invAccept_not_open {w : World} {i : Nat}
    (h : ∀ inv, w.invitations i = some inv → inv.state ≠ .invOpenState) : w.invAccept i = (-1, w) := by
  unfold invAccept
  cases hi : w.invitations i with
  | none => rfl
  | some inv => simp [h inv hi]

/-- `inv_close` returns `0` exactly when the invitation is OPEN, or ACCEPTED, and not refused
for `NULL_ROLE` with a game; it then closes it, resigning an accepted game; otherwise it
changes nothing. -/
theorem invClose_spec (w : World) (i : Nat) (role : GameRole) :
    (∃ inv, w.invitations i = some inv ∧ ¬(role = .nullRole ∧ inv.game.isSome) ∧
      (inv.state = .invOpenState ∨ inv.state = .invAcceptedState) ∧
      w.invClose i role = (0, w.setInvitation i (some
        { inv with state := .invClosedState
                   game := if inv.state = .invAcceptedState
                     then inv.game.map fun g => (gameResign g role).getD g else inv.game }))) ∨
    w.invClose i role = (-1, w) := by
  unfold invClose
  cases hi : w.invitations i with
  | none => exact .inr rfl
  | some inv =>
      dsimp only
      by_cases hr : role = .nullRole ∧ inv.game.isSome
      · exact .inr (if_pos hr)
      · by_cases hs : inv.state ≠ .invOpenState ∧ inv.state ≠ .invAcceptedState
        · exact .inr (by rw [if_neg hr, if_pos hs])
        · refine .inl ⟨inv, rfl, hr, ?_, by rw [if_neg hr, if_neg hs]⟩
          by_cases ho : inv.state = .invOpenState
          · exact .inl ho
          · exact .inr (by simpa [ho] using hs)

theorem Step.ne_open {s t : InvitationState} (h : InvitationState.Step s t) :
    t ≠ .invOpenState := by
  cases s <;> cases t <;> simp_all [InvitationState.Step]

/-- The step lemma: one call keeps the invitation, moves its state along an edge or not at
all, and brings a game only together with ACCEPTED. -/
theorem invCall_step (w : World) (i : Nat) (c : InvCall) {inv : Invitation}
    (hi : w.invitations i = some inv) :
    ∃ inv', (w.invCall i c).2.invitations i = some inv' ∧
      (inv'.state = inv.state ∨ InvitationState.Step inv.state inv'.state) ∧
      (inv'.game.isSome → inv.game.isSome ∨ inv'.state = .invAcceptedState) := by
  cases c with
  | accept =>
      by_cases ho : inv.state = .invOpenState
      · refine ⟨_, (invAccept_open hi ho).2, .inr (by simp [ho, InvitationState.Step]), fun _ =>
          .inr rfl⟩
      · have := invAccept_not_open (w := w) (i := i) fun inv' h => by
          rw [hi] at h; cases h; exact ho
        exact ⟨inv, by simp [invCall, this, hi], .inl rfl, .inl⟩
  | close role =>
      rcases invClose_spec w i role with ⟨inv', hi', -, hs, he⟩ | he
      · rw [hi] at hi'
        cases hi'
        have hc : w.invCall i (.close role) = w.invClose i role := rfl
        refine ⟨_, by rw [hc, he]; exact setInvitation_self _ _ _, .inr ?_,
          fun hg => .inl ?_⟩
        · rcases hs with hs | hs <;> simp [hs, InvitationState.Step]
        · split at hg <;> simpa using hg
      · exact ⟨inv, by simp [invCall, he, hi], .inl rfl, .inl⟩

/-- One call keeps the invitation's invariant: a game only once it has left OPEN. -/
theorem invCall_keeps (w : World) (i : Nat) (c : InvCall) {inv : Invitation}
    (hi : w.invitations i = some inv) (hinv : inv.game.isSome → inv.state ≠ .invOpenState) :
    ∃ inv', (w.invCall i c).2.invitations i = some inv' ∧
      (inv'.state = inv.state ∨ InvitationState.Step inv.state inv'.state) ∧
      (inv'.game.isSome → inv'.state ≠ .invOpenState) := by
  obtain ⟨inv', hi', hs, hg⟩ := invCall_step w i c hi
  refine ⟨inv', hi', hs, fun hg' => ?_⟩
  rcases hg hg' with hg0 | hacc
  · rcases hs with e | e
    · exact e ▸ hinv hg0
    · exact Step.ne_open e
  · simp [hacc]

/-- The run lemma: along any calls the invitation stays, and a game is only ever present once
it has left OPEN. -/
theorem callsOn_keeps (w : World) (i : Nat) {inv : Invitation}
    (hi : w.invitations i = some inv) (hinv : inv.game.isSome → inv.state ≠ .invOpenState)
    (calls : List InvCall) :
    ∃ inv', (w.callsOn i calls).invitations i = some inv' ∧
      (inv'.game.isSome → inv'.state ≠ .invOpenState) := by
  induction calls generalizing w inv with
  | nil => exact ⟨inv, hi, hinv⟩
  | cons c calls ih =>
      obtain ⟨inv1, hi1, -, hg1⟩ := invCall_keeps w i c hi hinv
      exact ih (w.invCall i c).2 hi1 hg1

theorem callsOn_append_call (w : World) (i : Nat) (calls : List InvCall) (c : InvCall) :
    w.callsOn i (calls ++ [c]) = ((w.callsOn i calls).invCall i c).2 := by
  simp [callsOn, List.foldl_append]

end World

/-- Along any calls of `inv_accept` and `inv_close` on an invitation with no game yet, as
`inv_create` makes it, under any outcomes of `game_create`'s allocation, each call, whatever
came before it: the invitation stays allocated, the call leaves its state as it was or moves
it along one edge of `InvitationState.Step`, and the invitation has a game only once it has
left OPEN. -/
theorem invitation_calls_follow_edges (w : World) (i : Nat) {inv : Invitation}
    (hi : w.invitations i = some inv) (hg : inv.game = none)
    (calls : List InvCall) (c : InvCall) :
    ∃ inv1 inv2, (w.callsOn i calls).invitations i = some inv1 ∧
      (w.callsOn i (calls ++ [c])).invitations i = some inv2 ∧
      (inv2.state = inv1.state ∨ InvitationState.Step inv1.state inv2.state) ∧
      (inv2.game.isSome → inv2.state ≠ .invOpenState) := by
  obtain ⟨inv1, h1, hg1⟩ := w.callsOn_keeps i hi (by simp [hg]) calls
  obtain ⟨inv2, h2, hs, hg2⟩ := World.invCall_keeps _ i c h1 hg1
  exact ⟨inv1, inv2, h1, by rw [World.callsOn_append_call]; exact h2, hs, hg2⟩

theorem invitation_calls_follow_edges_opening :
    let w := ((Server.init []).run Server.openingEvents).world
    (∃ inv, w.invitations 4 = some inv ∧ inv.game = none) ∧
      ∃ inv1 inv2, (w.callsOn 4 [.accept]).invitations 4 = some inv1 ∧
        (w.callsOn 4 ([.accept] ++ [.close .firstPlayerRole])).invitations 4 = some inv2 ∧
        (inv2.state = inv1.state ∨ InvitationState.Step inv1.state inv2.state) ∧
        (inv2.game.isSome → inv2.state ≠ .invOpenState) := by
  intro w
  have h1 : (w.invitations 4).map (fun i => i.game.isSome) = some false := by decide
  cases h : w.invitations 4 with
  | none => simp [h] at h1
  | some inv =>
      have hg : inv.game = none := by simpa [h] using h1
      exact ⟨⟨inv, rfl, hg⟩, invitation_calls_follow_edges w 4 h hg _ _⟩

/-- After `openingEvents`, bob accepts, and `game_create`'s allocation, the fourteenth fallible
step, fails. -/
def acceptFailedGame : Server :=
  (Server.init (List.replicate 13 .ok ++ [.failed])).run
    (Server.openingEvents ++ [.packet 1 (.request .acceptPkt 0 0 "")])

/-- Bob accepts alice's invitation and `game_create`'s allocation, the fourteenth fallible step,
fails: the invitation is ACCEPTED with no game, bob is answered `NACK`, a second `inv_accept`
is refused, and alice can revoke the accepted invitation. -/
theorem accept_failed_game_keeps_accepted :
    (acceptFailedGame.world.invitations 4).map (fun i => (i.state, i.game.isSome)) =
        some (.invAcceptedState, false) ∧
      acceptFailedGame.world.writes.getLast?.map (fun x => (x.client, x.frame.type)) =
        some (1, .nackPkt) ∧
      (acceptFailedGame.world.invAccept 4).1 = -1 ∧
      (acceptFailedGame.world.clientRevokeInvitation 0 0).1 = 0 := by
  decide

end JeuxServer
