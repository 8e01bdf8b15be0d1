import JeuxServer.Server.Invariants
import JeuxServer.Game.Rules

/-!
# The games the server holds and the states of their invitations

An invitation owns its game from `inv_accept`, which stores a new game, to its end. The only
writes to the game are those of `inv_close`, which resigns an accepted invitation's game with
`game_resign`, and of `client_make_move`, which stores the game `game_apply_move` returns for a
move `game_parse_move` returned. The only writes to an invitation's state are those of
`inv_accept` (OPEN to ACCEPTED) and `inv_close` (OPEN or ACCEPTED to CLOSED).

Two properties of each live invitation follow, each stated as an `InvRules` (the writes of
`inv_create`, `inv_accept`, `inv_close` and of a move keep it), so that `World.InvsHold` gives
it along every run of the server:

* `Invitation.GameValid`: the game it holds is a position of the rules of `game.c`
  (`Game.Valid`, `Game/Rules.lean`): every cell holds no mark, an X or an O, the turn count is
  the number of filled cells, X has as many marks as O or one more as the turn says, and a
  game in play has no line and a free cell (`Server.run_games_valid`);
* `Invitation.StateAgrees`: an OPEN invitation holds no game, and a game still in play is held
  by an ACCEPTED invitation; `inv_close` ends the game it resigns, and a move is applied only to
  a game in play (`Server.run_states_agree`).
-/

set_option autoImplicit false

namespace JeuxServer

namespace Invitation

/-- The game the invitation holds, if any, is a valid position of the rules. -/
def GameValid (inv : Invitation) : Prop := ∀ g, inv.game = some g → g.Valid

/-- An OPEN invitation holds no game, and a game still in play is held by an ACCEPTED
invitation. -/
def StateAgrees (inv : Invitation) : Prop :=
  (inv.state = .invOpenState → inv.game = none) ∧
    ∀ g, inv.game = some g → g.terminated = false → inv.state = .invAcceptedState

end Invitation

/-- What `inv_close` stores is a game that is over: `game_resign` ends a game in play, and
refuses one that is over. -/
theorem gameResign_getD_terminated (g : Game) (r : GameRole) :
    ((gameResign g r).getD g).terminated = true := by
  unfold gameResign
  split_ifs with ht
  · exact ht
  · rfl

namespace World

/-- `game_create`, `game_resign` and a move that `game_parse_move` returned, applied by
`game_apply_move`, keep a game valid. -/
theorem gameValid_rules : InvRules Invitation.GameValid where
  reads _ hg h g e := h g (hg.symm.trans e)
  create _ _ _ _ _ hg := nomatch hg
  accept h _ := ⟨h, fun _ hg => by cases hg; exact Game.valid_gameCreate⟩
  close r h _ _ g hg := by
    split_ifs at hg
    · obtain ⟨g0, h0, rfl⟩ := Option.map_eq_some'.1 hg
      exact (h g0 h0).perform (show (GameOp.resign r).Parsed from trivial)
    · exact h g hg
  move h eg ep ea _ hg := by
    cases hg
    simpa [Game.perform, ea] using
      (h _ eg).perform (show (GameOp.move _).Parsed from ⟨_, _, _, ep⟩)

/-- `inv_accept` gives a game only to an OPEN invitation, `inv_close` stores a game that is
over, and `game_apply_move` applies a move only to a game in play. -/
theorem stateAgrees_rules : InvRules Invitation.StateAgrees where
  reads hs hg h :=
    ⟨fun ho => hg.trans (h.1 (hs ▸ ho)), fun g e ht => hs.trans (h.2 g (hg ▸ e) ht)⟩
  create _ _ _ _ := ⟨fun _ => rfl, fun _ hg => nomatch hg⟩
  accept _ _ :=
    ⟨⟨fun e => (nomatch e), fun _ _ _ => rfl⟩, ⟨fun e => (nomatch e), fun _ _ _ => rfl⟩⟩
  close r h _ h2 := by
    refine ⟨fun e => (nomatch e), fun g hg ht => ?_⟩
    dsimp only at hg
    split_ifs at hg with ha
    · obtain ⟨g0, -, rfl⟩ := Option.map_eq_some'.1 hg
      simp [gameResign_getD_terminated] at ht
    · have ho : _ = InvitationState.invOpenState := by_contra fun hne => h2 ⟨hne, ha⟩
      simp [h.1 ho] at hg
  move h eg _ ea := by
    obtain ⟨-, -, -, -, -, hrun, -⟩ := gameApplyMove_eq_some ea
    have hs := h.2 _ eg hrun
    exact ⟨fun ho => (nomatch hs.symm.trans ho), fun _ _ _ => hs⟩

end World

namespace Server

/-- Along every run of the server's events, under any outcomes of the fallible steps, every game a live
invitation holds is a position of the rules of `game.c`: each cell is empty, X or O, the turn
count is the number of filled cells, X has one mark more than O exactly when O is to move, and
a game in play has no line, fewer than nine turns and no winner. -/
theorem run_games_valid (os : List Outcome) (es : List Event) :
    ∀ i inv g, ((init os).run es).world.invitations i = some inv → inv.game = some g →
      g.Valid := fun i inv g e hg =>
  keeps_run (World.InvsHold.serviceKeeps World.gameValid_rules) (S := init os)
    (fun _ _ h => nomatch h) es i inv e g hg

/-- After the eight moves of `drawnGameEvents`, invitation 4 holds its game, and that game is a
position of the rules. -/
theorem run_games_valid_drawn :
    ∃ inv g, ((init []).run drawnGameEvents).world.invitations 4 = some inv ∧
      inv.game = some g ∧ g.Valid := by
  have h1 : (((init []).run drawnGameEvents).world.invitations 4).map (·.game.isSome) =
      some true := by decide
  cases h : ((init []).run drawnGameEvents).world.invitations 4 with
  | none => simp [h] at h1
  | some inv =>
      cases hg : inv.game with
      | none => simp [h, hg] at h1
      | some g => exact ⟨inv, g, rfl, hg, run_games_valid [] drawnGameEvents 4 inv g h hg⟩

/-- Along every run of the server's events, under any outcomes of the fallible steps, every live
invitation that is OPEN holds no game, and every game still in play is held by an ACCEPTED
invitation: no CLOSED invitation holds a game in play. -/
theorem run_states_agree (os : List Outcome) (es : List Event) :
    ∀ i inv, ((init os).run es).world.invitations i = some inv →
      (inv.state = .invOpenState → inv.game = none) ∧
        ∀ g, inv.game = some g → g.terminated = false → inv.state = .invAcceptedState :=
  keeps_run (World.InvsHold.serviceKeeps World.stateAgrees_rules) (S := init os)
    (fun _ _ h => nomatch h) es

/-- After `openingEvents`, invitation 4 is OPEN and holds no game. -/
theorem run_states_agree_opening :
    ∃ inv, ((init []).run openingEvents).world.invitations 4 = some inv ∧
      inv.state = .invOpenState ∧ inv.game = none := by
  have h1 : (((init []).run openingEvents).world.invitations 4).map
      (fun inv => decide (inv.state = .invOpenState)) = some true := by decide
  cases h : ((init []).run openingEvents).world.invitations 4 with
  | none => simp [h] at h1
  | some inv =>
      have ho : inv.state = .invOpenState := by simpa [h] using h1
      exact ⟨inv, rfl, ho, (run_states_agree [] openingEvents 4 inv h).1 ho⟩

end Server

end JeuxServer
