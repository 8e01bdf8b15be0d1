import JeuxServer.Concurrency.Objects

/-!
# The client operations at lock granularity

The operations of `client.c` and the LOGIN case of `jeux_client_service`, as thread programs
with every lock operation the code makes, in the code's order: a `CLIENT`'s lock is held
while the operation reads its list, and is still held across `client_send_packet` to the
peer in `client_make_invitation`, `client_decline_invitation`, `client_accept_invitation`
and `client_make_move`. `client_login` holds it across the registry snapshot of
`creg_all_players`.

Run alone, each program computes the function of `Server/Client.lean`
(`exec_clientMakeMoveP` and its siblings). So a schedule that runs one request's thread
alone gives the sequential model, and a schedule that runs whole requests one after another
gives the sequential model's composition (`Sys.run_serial`).

The other schedules are interleavings the sequential model does not have. Four of them, on
states the server reaches, break what the sequential model keeps: two crossed moves deadlock
(`clientMakeMove_crossed_deadlock`), a revoke and an accept of one invitation both succeed
(`revoke_accept_both_succeed`), a resignation rewrites the winner of a game that has ended
and then reads it from the freed game (`resign_overwrites_drawn_game`), and two sessions log
in under one name
(`login_same_name_twice`).
-/

set_option autoImplicit false

namespace JeuxServer

namespace Prog

open World

variable (w : World)

/-! ## Making and ending invitations -/

/-- `client_make_invitation(source, target, source_role, target_role)`: the source's lock is
held from before the `INVITED` send to the target until the end. -/
def clientMakeInvitationP (source target : Nat) (sourceRole targetRole : GameRole)
    (k : Int → Prog) : Prog :=
  invCreateP source target sourceRole targetRole fun inv? =>
  match inv? with
  | none => k (-1)
  | some inv =>
      clientAddInvitationP source inv fun clientId =>
      if clientId = -1 then invUnrefP inv (k (-1)) else
      clientAddInvitationP target inv fun targetId =>
      if targetId = -1 then invUnrefP inv (k (-1)) else
      lock (.client source) <| read fun w =>
      let sourceName := ((w.clientGetPlayer source).bind w.playerGetName).getD []
      clientSendPacketP target ⟨.invitedPkt, UInt8.ofNat targetId.toNat,
          UInt8.ofNat targetRole.toNat, sourceName.length, some sourceName⟩ fun o =>
      if o = .ok then invUnrefP inv <| unlock (.client source) (k clientId)
      else unlock (.client source) (k (-1))

@[simp] theorem exec_clientMakeInvitationP (source target : Nat) (sourceRole targetRole : GameRole)
    (k : Int → Prog) :
    (clientMakeInvitationP source target sourceRole targetRole k).exec w =
      (k (w.clientMakeInvitation source target sourceRole targetRole).1).exec
        (w.clientMakeInvitation source target sourceRole targetRole).2 := by
  simp only [clientMakeInvitationP, exec_invCreateP, World.clientMakeInvitation]
  rcases w.invCreate source target sourceRole targetRole with ⟨_ | inv, w1⟩
  · rfl
  simp only [exec_clientAddInvitationP]
  rcases w1.clientAddInvitation source inv with ⟨r1, w2⟩
  by_cases hr1 : r1 = -1
  · subst hr1; simp
  simp only [hr1, if_false, exec_clientAddInvitationP]
  rcases w2.clientAddInvitation target inv with ⟨r2, w3⟩
  by_cases hr2 : r2 = -1
  · subst hr2; simp
  simp only [hr2, if_false, exec_lock, exec_read, exec_clientSendPacketP]
  rcases w3.clientSendPacket target _ with ⟨_ | _ | _, w4⟩ <;> simp

/-- `client_revoke_invitation(client, id)`: the checks under the client's lock, then, with no
lock held, the removals and the `REVOKED` send. -/
def clientRevokeInvitationP (c id : Nat) (k : Int → Prog) : Prog :=
  lock (.client c) <| read fun w =>
  match (w.clientInvitations c).findById id with
  | none => unlock (.client c) (k (-1))
  | some node =>
      if (w.invGetGame node.invitation).isSome then unlock (.client c) (k (-1))
      else if w.invGetSource node.invitation ≠ some c then unlock (.client c) (k (-1))
      else
        unlock (.client c) <|
        clientRemoveInvitationP c node.invitation fun r =>
        if r = -1 then k (-1) else
        read fun w =>
        match w.invGetTarget node.invitation with
        | none => k (-1)
        | some target =>
            clientRemoveInvitationP target node.invitation fun targetId =>
            if targetId = -1 then k (-1) else
            clientSendPacketP target (bare .revokedPkt targetId.toNat) fun o =>
            if o = .ok then k 0 else k (-1)

@[simp] theorem exec_clientRevokeInvitationP (c id : Nat) (k : Int → Prog) :
    (clientRevokeInvitationP c id k).exec w =
      (k (w.clientRevokeInvitation c id).1).exec (w.clientRevokeInvitation c id).2 := by
  simp only [clientRevokeInvitationP, exec_lock, exec_read, World.clientRevokeInvitation]
  cases (w.clientInvitations c).findById id with
  | none => rfl
  | some node =>
      simp only
      by_cases h1 : (w.invGetGame node.invitation).isSome
      · simp [h1]
      by_cases h2 : w.invGetSource node.invitation = some c
      swap
      · simp [h1, h2]
      simp only [h1, h2, ne_eq, not_true_eq_false, Bool.false_eq_true, if_false, exec_unlock,
        exec_clientRemoveInvitationP]
      rcases w.clientRemoveInvitation c node.invitation with ⟨r, w1⟩
      by_cases hr : r = -1
      · subst hr; rfl
      simp only [hr, if_false, exec_read]
      cases w1.invGetTarget node.invitation with
      | none => rfl
      | some t =>
          simp only [exec_clientRemoveInvitationP]
          rcases w1.clientRemoveInvitation t node.invitation with ⟨r2, w2⟩
          by_cases hr2 : r2 = -1
          · subst hr2; rfl
          simp only [hr2, if_false, exec_clientSendPacketP]
          rcases w2.clientSendPacket t (bare .revokedPkt r2.toNat) with ⟨_ | _ | _, w3⟩ <;> rfl

/-- `client_decline_invitation(client, id)`: as revoking, but the client's lock is taken
again around the `DECLINED` send to the source. -/
def clientDeclineInvitationP (c id : Nat) (k : Int → Prog) : Prog :=
  lock (.client c) <| read fun w =>
  match (w.clientInvitations c).findById id with
  | none => unlock (.client c) (k (-1))
  | some node =>
      if (w.invGetGame node.invitation).isSome then unlock (.client c) (k (-1))
      else if w.invGetTarget node.invitation ≠ some c then unlock (.client c) (k (-1))
      else
        unlock (.client c) <|
        clientRemoveInvitationP c node.invitation fun r =>
        if r = -1 then k (-1) else
        read fun w =>
        match w.invGetSource node.invitation with
        | none => k (-1)
        | some source =>
            clientRemoveInvitationP source node.invitation fun sourceId =>
            if sourceId = -1 then k (-1) else
            lock (.client c) <|
            clientSendPacketP source (bare .declinedPkt sourceId.toNat) fun o =>
            unlock (.client c) (if o = .ok then k 0 else k (-1))

@[simp] theorem exec_clientDeclineInvitationP (c id : Nat) (k : Int → Prog) :
    (clientDeclineInvitationP c id k).exec w =
      (k (w.clientDeclineInvitation c id).1).exec (w.clientDeclineInvitation c id).2 := by
  simp only [clientDeclineInvitationP, exec_lock, exec_read, World.clientDeclineInvitation]
  cases (w.clientInvitations c).findById id with
  | none => rfl
  | some node =>
      simp only
      by_cases h1 : (w.invGetGame node.invitation).isSome
      · simp [h1]
      by_cases h2 : w.invGetTarget node.invitation = some c
      swap
      · simp [h1, h2]
      simp only [h1, h2, ne_eq, not_true_eq_false, Bool.false_eq_true, if_false, exec_unlock,
        exec_clientRemoveInvitationP]
      rcases w.clientRemoveInvitation c node.invitation with ⟨r, w1⟩
      by_cases hr : r = -1
      · subst hr; rfl
      simp only [hr, if_false, exec_read]
      cases w1.invGetSource node.invitation with
      | none => rfl
      | some s =>
          simp only [exec_clientRemoveInvitationP]
          rcases w1.clientRemoveInvitation s node.invitation with ⟨r2, w2⟩
          by_cases hr2 : r2 = -1
          · subst hr2; rfl
          simp only [hr2, if_false, exec_lock, exec_clientSendPacketP, exec_unlock]
          rcases w2.clientSendPacket s (bare .declinedPkt r2.toNat) with ⟨_ | _ | _, w3⟩ <;> rfl

/-- `client_accept_invitation(client, id, strp)`: the client's lock is held throughout, across
`inv_accept` and the `ACCEPTED` send to the source. The continuation receives the return
value and what is stored in `*strp`. -/
def clientAcceptInvitationP (c id : Nat) (k : Int × Option (List UInt8) → Prog) : Prog :=
  lock (.client c) <| read fun w =>
  match (w.clientInvitations c).findById id with
  | none => unlock (.client c) (k (-1, none))
  | some node =>
      match w.invitations node.invitation with
      | none => unlock (.client c) (k (-1, none))
      | some i =>
          if i.recipient ≠ c then unlock (.client c) (k (-1, none))
          else if i.game.isSome then unlock (.client c) (k (-1, none))
          else
            invAcceptP node.invitation fun r =>
            if r = -1 then unlock (.client c) (k (-1, none)) else
            read fun w =>
            match (w.clientInvitations i.sender).findByInvitation node.invitation with
            | none => unlock (.client c) (k (-1, none))
            | some sourceNode =>
                let state := gameUnparseState ((w.invGetGame node.invitation).getD gameCreate)
                if i.sourceRole = .firstPlayerRole then
                  clientSendPacketP i.sender
                      ⟨.acceptedPkt, UInt8.ofNat sourceNode.id, 0, state.length, some state⟩ fun o =>
                  unlock (.client c) (k (if o = .ok then 0 else -1, none))
                else
                  clientSendPacketP i.sender (bare .acceptedPkt sourceNode.id) fun o =>
                  unlock (.client c) (k (if o = .ok then 0 else -1, some state))

@[simp] theorem exec_clientAcceptInvitationP (c id : Nat) (k : Int × Option (List UInt8) → Prog) :
    (clientAcceptInvitationP c id k).exec w =
      (k (w.clientAcceptInvitation c id).1).exec (w.clientAcceptInvitation c id).2 := by
  simp only [clientAcceptInvitationP, exec_lock, exec_read, World.clientAcceptInvitation]
  cases (w.clientInvitations c).findById id with
  | none => rfl
  | some node =>
      simp only
      cases w.invitations node.invitation with
      | none => rfl
      | some i =>
          simp only
          by_cases h1 : i.recipient = c
          swap
          · simp [h1]
          by_cases h2 : i.game.isSome
          · simp [h1, h2]
          simp only [h1, h2, ne_eq, not_true_eq_false, Bool.false_eq_true, if_false, exec_invAcceptP]
          rcases w.invAccept node.invitation with ⟨r, w1⟩
          by_cases hr : r = -1
          · subst hr; rfl
          simp only [hr, if_false, exec_read]
          cases (w1.clientInvitations i.sender).findByInvitation node.invitation with
          | none => rfl
          | some sn =>
              by_cases h3 : i.sourceRole = .firstPlayerRole <;>
                simp only [h3, if_true, if_false, exec_clientSendPacketP, exec_unlock] <;>
                rcases w1.clientSendPacket i.sender _ with ⟨_ | _ | _, w2⟩ <;> rfl

/-- Alice's revoke and bob's accept of the same open invitation both return 0. The revoke
passes its unlocked checks (no game yet, alice is the source) and bob's accept then runs to
its end: the invitation is ACCEPTED with a game, and alice is sent `ACCEPTED`. The revoke
goes on to remove both handles and send `REVOKED`: the accepted invitation is freed with its
game. -/
theorem revoke_accept_both_succeed :
    ∃ S₁ ∈ (Sys.start ((Server.init []).run Server.openingEvents).world
        [clientRevokeInvitationP 0 0 .ret, clientAcceptInvitationP 1 0 fun r => .ret r.1]).run
        (List.replicate 3 0 ++ List.replicate 13 1),
      S₁.result 1 = some 0 ∧ (S₁.world.invitations 4).map (·.state) = some .invAcceptedState ∧
      (S₁.world.invGetGame 4).isSome ∧
      ∃ S₂ ∈ S₁.run (List.replicate 24 0),
        S₂.result 0 = some 0 ∧ S₂.result 1 = some 0 ∧ (S₂.world.invitations 4).isNone ∧
        (S₂.world.clientInvitations 0).nodes = [] ∧ (S₂.world.clientInvitations 1).nodes = [] ∧
        (S₂.world.writes.map fun x => (x.client, x.frame.type)).drop 4 =
          [(0, .acceptedPkt), (1, .revokedPkt)] := by
  decide

/-! ## Playing -/

/-- The end of `client_resign_game` after the `RESIGNED` send: the winner is read through
the `GAME` pointer taken before `inv_close`, with no lock held (`readGame`: a game the other
thread has freed since is read as it was left), `ENDED` goes to both, the invitation is removed
from both lists, and the result is posted under the client's lock. -/
def resignEndP (c id inv source target opponent opponentId : Nat) (k : Int → Prog) : Prog :=
  read fun w =>
  let winner := ((w.readGame inv).map gameGetWinner).getD .nullRole
  clientSendPacketP opponent (bare .endedPkt opponentId winner.toNat) fun o =>
  if o ≠ .ok then k (-1) else
  clientSendPacketP c (bare .endedPkt id winner.toNat) fun o =>
  if o = .failed then k (-1) else
  clientRemoveInvitationP source inv fun r =>
  if r = -1 then k (-1) else
  clientRemoveInvitationP target inv fun r =>
  if r = -1 then k (-1) else
  lock (.client c) <| read fun w =>
  playerPostResultP (w.clientGetPlayer source) (w.clientGetPlayer target)
    (if c = source then 2 else 1) <|
  unlock (.client c) (k 0)

theorem exec_resignEndP (c id inv source target opponent opponentId : Nat) (k : Int → Prog) :
    (resignEndP c id inv source target opponent opponentId k).exec w =
      (k (w.resignEnd c id inv source target opponent opponentId).1).exec
        (w.resignEnd c id inv source target opponent opponentId).2 := by
  simp only [resignEndP, exec_read, exec_clientSendPacketP, World.resignEnd]
  rcases w.clientSendPacket opponent _ with ⟨_ | _ | _, w1⟩ <;> try rfl
  simp only [ne_eq, not_true_eq_false, if_false, exec_clientSendPacketP]
  rcases w1.clientSendPacket c _ with ⟨o, w2⟩
  cases o
  case failed => rfl
  all_goals
    simp only [reduceCtorEq, if_false, exec_clientRemoveInvitationP]
    rcases w2.clientRemoveInvitation source inv with ⟨r1, w3⟩
    by_cases hr1 : r1 = -1
    · subst hr1; rfl
    simp only [hr1, if_false, exec_clientRemoveInvitationP]
    rcases w3.clientRemoveInvitation target inv with ⟨r2, w4⟩
    by_cases hr2 : r2 = -1
    · subst hr2; rfl
    simp only [hr2, if_false, exec_lock, exec_read, exec_playerPostResultP, exec_unlock]

/-- `client_resign_game(client, id)`: the checks and `inv_close` under the client's lock,
then the notifications with no lock held. -/
def clientResignGameP (c id : Nat) (k : Int → Prog) : Prog :=
  lock (.client c) <| read fun w =>
  match (w.clientInvitations c).findById id with
  | none => unlock (.client c) (k (-1))
  | some node =>
      match w.invitations node.invitation with
      | none => unlock (.client c) (k (-1))
      | some i =>
          if i.game.isNone ∨ (i.sender ≠ c ∧ i.recipient ≠ c) then unlock (.client c) (k (-1))
          else
            invCloseP node.invitation (w.roleOf c node.invitation) fun r =>
            if r = -1 then unlock (.client c) (k (-1)) else
            read fun w =>
            let opponent := if c = i.sender then i.recipient else i.sender
            match (w.clientInvitations opponent).findByInvitation node.invitation with
            | none => unlock (.client c) (k (-1))
            | some oppNode =>
                unlock (.client c) <|
                clientSendPacketP opponent (bare .resignedPkt oppNode.id) fun o =>
                if o = .ok then resignEndP c id node.invitation i.sender i.recipient opponent
                  oppNode.id k
                else k (-1)

@[simp] theorem exec_clientResignGameP (c id : Nat) (k : Int → Prog) :
    (clientResignGameP c id k).exec w =
      (k (w.clientResignGame c id).1).exec (w.clientResignGame c id).2 := by
  simp only [clientResignGameP, exec_lock, exec_read, World.clientResignGame]
  cases (w.clientInvitations c).findById id with
  | none => rfl
  | some node =>
      simp only
      cases w.invitations node.invitation with
      | none => rfl
      | some i =>
          simp only
          by_cases hg : i.game.isNone ∨ (i.sender ≠ c ∧ i.recipient ≠ c)
          · simp only [if_pos hg]; rfl
          simp only [if_neg hg, exec_invCloseP]
          rcases w.invClose node.invitation (w.roleOf c node.invitation) with ⟨r, w1⟩
          by_cases hr : r = -1
          · subst hr; rfl
          simp only [hr, if_false, exec_read]
          cases (w1.clientInvitations (if c = i.sender then i.recipient else i.sender)).findByInvitation
              node.invitation with
          | none => rfl
          | some oppNode =>
              simp only [exec_unlock, exec_clientSendPacketP]
              rcases w1.clientSendPacket _ _ with ⟨_ | _ | _, w2⟩ <;> simp [exec_resignEndP]

/-- The end of `client_make_move` once the game is over: `ENDED` to the opponent under the
mover's lock, which is then released; `ENDED` to the mover, the removals, and the result
posted under the mover's lock taken again. -/
def moveEndP (c id inv source target opponentId opponent : Nat) (winner : GameRole)
    (k : Int → Prog) : Prog :=
  clientSendPacketP opponent (bare .endedPkt opponentId winner.toNat) fun o =>
  if o ≠ .ok then unlock (.client c) (k (-1)) else
  unlock (.client c) <|
  clientSendPacketP c (bare .endedPkt id winner.toNat) fun o =>
  if o ≠ .ok then k (-1) else
  clientRemoveInvitationP source inv fun r =>
  if r = -1 then k (-1) else
  clientRemoveInvitationP target inv fun r =>
  if r = -1 then k (-1) else
  lock (.client c) <| read fun w =>
  playerPostResultP
    (if c = source then w.clientGetPlayer source else w.clientGetPlayer target)
    (if c = source then w.clientGetPlayer target else w.clientGetPlayer source)
    (moveResult winner) <|
  unlock (.client c) (k 0)

theorem exec_moveEndP (c id inv source target opponentId opponent : Nat) (winner : GameRole)
    (k : Int → Prog) :
    (moveEndP c id inv source target opponentId opponent winner k).exec w =
      (k (w.moveEnd c id inv source target opponentId opponent winner).1).exec
        (w.moveEnd c id inv source target opponentId opponent winner).2 := by
  simp only [moveEndP, exec_clientSendPacketP, World.moveEnd]
  rcases w.clientSendPacket opponent _ with ⟨_ | _ | _, w1⟩ <;> try rfl
  simp only [ne_eq, not_true_eq_false, if_false, exec_unlock, exec_clientSendPacketP]
  rcases w1.clientSendPacket c _ with ⟨_ | _ | _, w2⟩ <;> try rfl
  simp only [ne_eq, not_true_eq_false, if_false, exec_clientRemoveInvitationP]
  rcases w2.clientRemoveInvitation source inv with ⟨r1, w3⟩
  by_cases hr1 : r1 = -1
  · subst hr1; rfl
  simp only [hr1, if_false, exec_clientRemoveInvitationP]
  rcases w3.clientRemoveInvitation target inv with ⟨r2, w4⟩
  by_cases hr2 : r2 = -1
  · subst hr2; rfl
  simp only [hr2, if_false, exec_lock, exec_read, exec_playerPostResultP, exec_unlock]

/-- `client_make_move(client, id, move)`: the mover's lock is held from the start, across
`game_apply_move` and the `MOVED` send to the opponent. The game is read again after the
move, where the code reads it. -/
def clientMakeMoveP (c id : Nat) (move : List UInt8) (k : Int → Prog) : Prog :=
  lock (.client c) <| read fun w =>
  match (w.clientInvitations c).findById id with
  | none => unlock (.client c) (k (-1))
  | some node =>
      match w.invitations node.invitation with
      | none => unlock (.client c) (k (-1))
      | some i =>
          match i.game with
          | none => unlock (.client c) (k (-1))
          | some g =>
              match gameParseMove g (w.roleOf c node.invitation) move true with
              | none => unlock (.client c) (k (-1))
              | some m =>
                  act (·.attempt.2) fun w =>
                  if w.attempt.1 ≠ .ok then unlock (.client c) (k (-1)) else
                  gameApplyMoveP node.invitation m fun r =>
                  if r = -1 then unlock (.client c) (k (-1)) else
                  read fun w =>
                  let opponent := if c = i.sender then i.recipient else i.sender
                  match (w.clientInvitations opponent).findByInvitation node.invitation with
                  | none => unlock (.client c) (k (-1))
                  | some oppNode =>
                      let state := gameUnparseState ((w.invGetGame node.invitation).getD gameCreate)
                      clientSendPacketP opponent
                          ⟨.movedPkt, UInt8.ofNat oppNode.id, 0, state.length, some state⟩ fun o =>
                      if o ≠ .ok then unlock (.client c) (k (-1)) else
                      read fun w =>
                      let g' := (w.invGetGame node.invitation).getD gameCreate
                      if gameIsOver g' then
                        moveEndP c id node.invitation i.sender i.recipient oppNode.id opponent
                          (gameGetWinner g') k
                      else unlock (.client c) (k 0)

@[simp] theorem exec_clientMakeMoveP (c id : Nat) (move : List UInt8) (k : Int → Prog) :
    (clientMakeMoveP c id move k).exec w =
      (k (w.clientMakeMove c id move).1).exec (w.clientMakeMove c id move).2 := by
  simp only [clientMakeMoveP, exec_lock, exec_read, World.clientMakeMove]
  cases (w.clientInvitations c).findById id with
  | none => rfl
  | some node =>
      simp only
      cases hi : w.invitations node.invitation with
      | none => rfl
      | some i =>
          simp only
          cases hg : i.game with
          | none => rfl
          | some g =>
              simp only
              cases gameParseMove g (w.roleOf c node.invitation) move true with
              | none => rfl
              | some m =>
                  simp only [exec_act]
                  rcases ha : w.attempt with ⟨_ | _ | _, w1⟩ <;> try rfl
                  have hi1 : w1.invitations node.invitation = some i := by
                    rw [← hi, ← World.attempt_invitations w, ha]
                  simp only [ne_eq, not_true_eq_false, if_false, exec_gameApplyMoveP w1 hi1 hg]
                  cases gameApplyMove g m with
                  | none => rfl
                  | some g' =>
                      simp only
                      set w2 := w1.setInvitation node.invitation (some { i with game := some g' })
                      have hg2 : w2.invGetGame node.invitation = some g' := by
                        simp [w2, World.invGetGame, World.setInvitation]
                      rw [if_neg (by decide), exec_read]
                      cases (w2.clientInvitations _).findByInvitation node.invitation with
                      | none => rfl
                      | some oppNode =>
                          simp only [hg2, Option.getD_some, exec_clientSendPacketP]
                          rcases hs : w2.clientSendPacket _ _ with ⟨o, w3⟩
                          have hg3 : w3.invGetGame node.invitation = some g' := by
                            have h3 : w3.invitations = w2.invitations :=
                              (congrArg (·.2.invitations) hs).symm.trans
                              (World.clientSendPacket_invitations w2 _ _)
                            simpa only [World.invGetGame, h3] using hg2
                          cases o <;> simp only [reduceCtorEq, not_true_eq_false, not_false_eq_true,
                            if_true, if_false, exec_unlock, exec_read, hg3, Option.getD_some]
                          split_ifs <;> simp [exec_moveEndP]

/-! ### Interleavings of moves -/

/-- In two games between the same clients, each makes a move at once. Each thread locks its
own client and, holding it, locks the other client to send `MOVED`: the two threads are
deadlocked, and neither ever returns. -/
theorem clientMakeMove_crossed_deadlock :
    ∃ S ∈ (Sys.start ((Server.init []).run Server.crossedGames).world
        [clientMakeMoveP 0 0 (ascii "5") .ret, clientMakeMoveP 1 1 (ascii "5") .ret]).run
        (List.replicate 6 0 ++ List.replicate 6 1),
      (S.holder (.client 0) = some 0 ∧ S.holder (.client 1) = some 1) ∧ S.Deadlocked [0, 1] ∧
      ∀ us S', S.run us = some S' → ∀ t ∈ [0, 1], S'.result t = none :=
  Sys.exists_deadlocked_forever (by decide)

/-- Alice makes the last move of a game with no line while bob resigns it. Bob's
`inv_close` passes its state check and `game_resign` its unlocked check of `terminated`;
then alice's move ends the game as a draw. Bob's resignation goes on and sets the winner of
the terminated game to alice. Alice's thread sends `ENDED` for alice's win to both, removes
the invitation from both lists, which frees it with its game, and posts the result. Bob's
thread then reads the winner through the `GAME` pointer it took before `inv_close`, from the
freed game, sends `ENDED` for alice's win to both once more, and returns `-1`. -/
theorem resign_overwrites_drawn_game :
    ∃ S₁ ∈ (Sys.start ((Server.init []).run Server.drawnGameEvents).world
        [clientMakeMoveP 0 0 (ascii "9") .ret, clientResignGameP 1 0 .ret]).run
        (List.replicate 4 1 ++ List.replicate 6 0),
      (S₁.world.invGetGame 4).map (fun g => (g.terminated, g.winner)) = some (true, .nullRole) ∧
      ∃ S₂ ∈ S₁.run (List.replicate 3 1),
        (S₂.world.invGetGame 4).map (fun g => (g.terminated, g.winner)) =
          some (true, .firstPlayerRole) ∧
        ∃ S₃ ∈ S₂.run (List.replicate 4 1 ++ List.replicate 38 0),
          S₃.result 0 = some 0 ∧ (S₃.world.invitations 4).isNone ∧
          (S₃.world.writes.filter (·.frame.type = .endedPkt)).map (fun x => (x.client, x.frame.role)) =
            [(1, 1), (0, 1)] ∧
          ∃ S₄ ∈ S₃.run (List.replicate 13 1),
            S₄.result 1 = some (-1) ∧
            (S₄.world.writes.filter (·.frame.type = .endedPkt)).map
                (fun x => (x.client, x.frame.role)) = [(1, 1), (0, 1), (0, 1), (1, 1)] ∧
            S₄.world.results = [(some 2, some 3, 1)] := by
  decide

/-! ## Logging in -/

/-- The loop of `creg_all_players` over the registry nodes `cs`, with the players `acc` found
so far: each player is read, and referenced, in turn. -/
def cregAllPlayersLoop : List Nat → List Nat → (List Nat → Prog) → Prog
  | [], acc, k => k acc
  | c :: cs, acc, k =>
      if acc.length < maxClients then
        read fun w =>
        match w.clientGetPlayer c with
        | some p => playerRefP (some p) (cregAllPlayersLoop cs (acc ++ [p]) k)
        | none => cregAllPlayersLoop cs acc k
      else k acc

theorem exec_cregAllPlayersLoop (cs acc : List Nat) (k : List Nat → Prog) :
    (cregAllPlayersLoop cs acc k).exec w =
      let ps := (cs.filterMap w.clientGetPlayer).take (maxClients - acc.length)
      (k (acc ++ ps)).exec (ps.foldl (fun w p => w.playerRef (some p)) w) := by
  induction cs generalizing acc w with
  | nil => simp [cregAllPlayersLoop]
  | cons c cs ih =>
      unfold cregAllPlayersLoop
      split_ifs with hlt
      · obtain ⟨n, hn⟩ : ∃ n, maxClients - acc.length = n + 1 := ⟨_, (Nat.succ_pred_eq_of_pos (by omega)).symm⟩
        simp only [exec_read, List.filterMap_cons]
        cases w.clientGetPlayer c with
        | none => simp [ih]
        | some p =>
            have hn' : maxClients - (acc.length + 1) = n := by omega
            simp [ih, hn, hn']
      · simp [show maxClients - acc.length = 0 by omega]

/-- `creg_all_players()`, under the registry's lock. -/
def cregAllPlayersP (k : List Nat → Prog) : Prog :=
  lock .registry <| read fun w =>
  cregAllPlayersLoop w.registry [] fun ps => unlock .registry (k ps)

theorem exec_cregAllPlayersP (k : List Nat → Prog) :
    (cregAllPlayersP k).exec w = (k w.cregAllPlayers.1).exec w.cregAllPlayers.2 := by
  simp [cregAllPlayersP, exec_cregAllPlayersLoop, World.cregAllPlayers]

/-- `check_if_other_clients_logged_in_with_same_player(name)`: the snapshot, then the names
read and the references released. (The code reads each name just after releasing its
reference, which a logged-in client's own reference keeps valid.) -/
def checkIfOtherClientsLoggedInP (name : List UInt8) (k : Bool → Prog) : Prog :=
  cregAllPlayersP fun ps =>
  read fun w =>
  playerUnrefsP ps (k (ps.any fun p => w.playerGetName p == some name))

theorem exec_checkIfOtherClientsLoggedInP (name : List UInt8) (k : Bool → Prog) :
    (checkIfOtherClientsLoggedInP name k).exec w =
      (k (w.checkIfOtherClientsLoggedIn name).1).exec (w.checkIfOtherClientsLoggedIn name).2 := by
  simp [checkIfOtherClientsLoggedInP, exec_cregAllPlayersP, World.checkIfOtherClientsLoggedIn,
    World.cregAllPlayers, World.playerGetName_foldl_playerRef]

/-- `preg_register(name)`, under the player registry's lock. -/
def pregRegisterP (name : List UInt8) (k : Option Nat → Prog) : Prog :=
  lock .playerRegistry <| read fun w =>
  match w.playerRegistry.find? (·.1 == name) with
  | some (_, p) => playerRefP (some p) <| unlock .playerRegistry (k (some p))
  | none =>
      let p := w.nextAddr
      act (fun w => { w with nextAddr := p + 1 }.setPlayer p (some ⟨name, 1500, 1⟩)) fun _ =>
      act (·.attempt.2) fun w =>
      if w.attempt.1 = .ok then
        act (fun w => { w with playerRegistry := (name, p) :: w.playerRegistry }) fun _ =>
        playerRefP (some p) <| unlock .playerRegistry (k (some p))
      else playerUnrefP (some p) <| unlock .playerRegistry (k none)

theorem exec_pregRegisterP (name : List UInt8) (k : Option Nat → Prog) :
    (pregRegisterP name k).exec w =
      (k (w.pregRegister name).1).exec (w.pregRegister name).2 := by
  simp only [pregRegisterP, exec_lock, exec_read, World.pregRegister]
  cases w.playerRegistry.find? (·.1 == name) with
  | some e => simp
  | none =>
      simp only [exec_act]
      generalize ({ w with nextAddr := w.nextAddr + 1 }.setPlayer w.nextAddr
        (some ⟨name, 1500, 1⟩)) = w0
      rcases w0.attempt with ⟨_ | _ | _, w1⟩ <;> rfl

/-- `client_login(client, player)`: the client's lock is held across the name check, which
takes the registry's lock. -/
def clientLoginP (c : Nat) (player : Option Nat) (k : Int → Prog) : Prog :=
  lock (.client c) <| read fun w =>
  match w.clients c with
  | none => unlock (.client c) (k (-1))
  | some cl =>
      if cl.loggedIn then unlock (.client c) (k (-1))
      else
        checkIfOtherClientsLoggedInP ((player.bind w.playerGetName).getD []) fun taken =>
        if taken then unlock (.client c) (k (-1)) else
        act (·.setClient c (some { cl with loggedIn := true, player := player })) fun _ =>
        playerRefP player <| unlock (.client c) (k 0)

theorem exec_clientLoginP (c : Nat) (player : Option Nat) (k : Int → Prog) :
    (clientLoginP c player k).exec w = (k (w.clientLogin c player).1).exec (w.clientLogin c player).2 := by
  simp only [clientLoginP, exec_lock, exec_read, World.clientLogin]
  cases w.clients c with
  | none => rfl
  | some cl =>
      simp only
      split_ifs
      · rfl
      simp only [exec_checkIfOtherClientsLoggedInP]
      rcases w.checkIfOtherClientsLoggedIn _ with ⟨_ | _, w1⟩ <;> simp

/-- The LOGIN case of `jeux_client_service` for a session that has not logged in; the
continuation receives whether it is now logged in. -/
def loginRequestP (c : Nat) (name : List UInt8) (k : Bool → Prog) : Prog :=
  checkIfOtherClientsLoggedInP name fun taken =>
  if taken then clientSendNackP c (k false) else
  pregRegisterP name fun player =>
  clientLoginP c player fun r =>
  if r = 0 then clientSendAckP c none 0 (k true) else clientSendNackP c (k false)

@[simp] theorem exec_loginRequestP (c : Nat) (name : List UInt8) (k : Bool → Prog) :
    (loginRequestP c name k).exec w = (k (w.loginRequest c name).2).exec (w.loginRequest c name).1 := by
  simp only [loginRequestP, exec_checkIfOtherClientsLoggedInP, World.loginRequest]
  rcases w.checkIfOtherClientsLoggedIn name with ⟨_ | _, w1⟩
  · simp only [Bool.false_eq_true, if_false, exec_pregRegisterP, exec_clientLoginP]
    rcases (w1.pregRegister name).2.clientLogin c (w1.pregRegister name).1 with ⟨r, w2⟩
    by_cases hr : r = 0
    · subst hr; simp
    · simp [hr]
  · simp

/-- Two clients log in as alice at once, and both are logged in as alice. The first passes
both name checks, that of the service loop and that of `client_login` under its client's
lock, and is stopped before it sets its `logged_in`; the second then logs in. -/
theorem login_same_name_twice :
    ∃ S ∈ (Sys.start ((Server.init []).run [.connect 10, .connect 11]).world
        [loginRequestP 0 (ascii "alice") fun b => .ret (if b then 0 else -1),
          loginRequestP 1 (ascii "alice") fun b => .ret (if b then 0 else -1)]).run
        (List.replicate 15 0 ++ List.replicate 24 1 ++ List.replicate 9 0),
      S.result 0 = some 0 ∧ S.result 1 = some 0 ∧
      S.world.clientGetPlayer 0 = some 2 ∧ S.world.clientGetPlayer 1 = some 2 ∧
      S.world.playerGetName 2 = some (ascii "alice") ∧
      S.world.writes.map (fun x => (x.client, x.frame.type)) = [(1, .ackPkt), (0, .ackPkt)] := by
  decide

end Prog

end JeuxServer
