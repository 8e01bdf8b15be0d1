import JeuxServer.Server.Heap

/-!
# The client operations of `client.c`

Each operation runs as the code runs it when no other thread interferes, on one `World`, and
returns the C return value. The notifications to the peer go through `client_send_packet`,
whose outcome (and the outcome of each checked allocation) is the next one in
`World.outcomes`; an early `return -1` after a failed send is kept where the code has it.

The lock operations are not steps here; `Concurrency/Operations.lean` gives the same
operations with their locks, and shows that a thread running one of them alone computes the
function of this file.
-/

set_option autoImplicit false

namespace JeuxServer

namespace World

/-- A packet with no payload, as `make_packet(type, 0)` followed by setting `id` and `role`
builds it. -/
def bare (type : JeuxPacketType) (id : Nat) (role : Nat := 0) : Packet :=
  ⟨type, UInt8.ofNat id, UInt8.ofNat role, 0, none⟩

/-- The role a client plays in an invitation: the source role for the source, the target
role otherwise. -/
def roleOf (w : World) (c inv : Nat) : GameRole :=
  match w.invitations inv with
  | some i => if i.sender = c then i.sourceRole else i.targetRole
  | none => .nullRole

/-- The other participant of an invitation: the target for the source, the source otherwise. -/
def opponentOf (w : World) (c inv : Nat) : Option Nat :=
  match w.invitations inv with
  | some i => some (if i.sender = c then i.recipient else i.sender)
  | none => none

/-- `client_login(client, player)`. -/
def clientLogin (w : World) (c : Nat) (player : Option Nat) : Int × World :=
  match w.clients c with
  | none => (-1, w)
  | some cl =>
      if cl.loggedIn then (-1, w)
      else
        match w.checkIfOtherClientsLoggedIn ((player.bind w.playerGetName).getD []) with
        | (true, w) => (-1, w)
        | (false, w) =>
            (0, (w.setClient c (some { cl with loggedIn := true, player := player })).playerRef
              player)

/-- `client_make_invitation(source, target, source_role, target_role)`: the source's ID for the
new invitation. The `INVITED` packet carries the target's ID and role and the source's name.
When the target's insertion fails the invitation's count is dropped but the source's node
stays; when the `INVITED` send fails both nodes stay. -/
def clientMakeInvitation (w : World) (source target : Nat) (sourceRole targetRole : GameRole) :
    Int × World :=
  match w.invCreate source target sourceRole targetRole with
  | (none, w) => (-1, w)
  | (some inv, w) =>
      match w.clientAddInvitation source inv with
      | (-1, w) => (-1, w.invUnref inv)
      | (clientId, w) =>
          match w.clientAddInvitation target inv with
          | (-1, w) => (-1, w.invUnref inv)
          | (targetId, w) =>
              let sourceName := ((w.clientGetPlayer source).bind w.playerGetName).getD []
              match w.clientSendPacket target
                  ⟨.invitedPkt, UInt8.ofNat targetId.toNat, UInt8.ofNat targetRole.toNat,
                    sourceName.length, some sourceName⟩ with
              | (.ok, w) => (clientId, w.invUnref inv)
              | (_, w) => (-1, w)

/-- `client_revoke_invitation(client, id)`: only the source may revoke, and only while the
invitation has no game. The invitation's state is not changed. -/
def clientRevokeInvitation (w : World) (c id : Nat) : Int × World :=
  match (w.clientInvitations c).findById id with
  | none => (-1, w)
  | some node =>
      let inv := node.invitation
      if (w.invGetGame inv).isSome then (-1, w)
      else if w.invGetSource inv ≠ some c then (-1, w)
      else
        match w.clientRemoveInvitation c inv with
        | (-1, w) => (-1, w)
        | (_, w) =>
            match w.invGetTarget inv with
            | none => (-1, w)
            | some target =>
                match w.clientRemoveInvitation target inv with
                | (-1, w) => (-1, w)
                | (targetId, w) =>
                    match w.clientSendPacket target (bare .revokedPkt targetId.toNat) with
                    | (.ok, w) => (0, w)
                    | (_, w) => (-1, w)

/-- `client_decline_invitation(client, id)`: only the target may decline, and only while the
invitation has no game. The invitation's state is not changed. -/
def clientDeclineInvitation (w : World) (c id : Nat) : Int × World :=
  match (w.clientInvitations c).findById id with
  | none => (-1, w)
  | some node =>
      let inv := node.invitation
      if (w.invGetGame inv).isSome then (-1, w)
      else if w.invGetTarget inv ≠ some c then (-1, w)
      else
        match w.clientRemoveInvitation c inv with
        | (-1, w) => (-1, w)
        | (_, w) =>
            match w.invGetSource inv with
            | none => (-1, w)
            | some source =>
                match w.clientRemoveInvitation source inv with
                | (-1, w) => (-1, w)
                | (sourceId, w) =>
                    match w.clientSendPacket source (bare .declinedPkt sourceId.toNat) with
                    | (.ok, w) => (0, w)
                    | (_, w) => (-1, w)

/-- `client_accept_invitation(client, id, strp)`: the return value, what is stored in `*strp`
(the initial state when the source does not play first), and the world. The `ACCEPTED`
packet carries the initial state when the source plays first. -/
def clientAcceptInvitation (w : World) (c id : Nat) : (Int × Option (List UInt8)) × World :=
  match (w.clientInvitations c).findById id with
  | none => ((-1, none), w)
  | some node =>
      let inv := node.invitation
      match w.invitations inv with
      | none => ((-1, none), w)
      | some i =>
          if i.recipient ≠ c then ((-1, none), w)
          else if i.game.isSome then ((-1, none), w)
          else
            match w.invAccept inv with
            | (-1, w) => ((-1, none), w)
            | (_, w) =>
                match (w.clientInvitations i.sender).findByInvitation inv with
                | none => ((-1, none), w)
                | some sourceNode =>
                    let state := gameUnparseState ((w.invGetGame inv).getD gameCreate)
                    if i.sourceRole = .firstPlayerRole then
                      match w.clientSendPacket i.sender
                          ⟨.acceptedPkt, UInt8.ofNat sourceNode.id, 0, state.length, some state⟩ with
                      | (.ok, w) => ((0, none), w)
                      | (_, w) => ((-1, none), w)
                    else
                      match w.clientSendPacket i.sender (bare .acceptedPkt sourceNode.id) with
                      | (.ok, w) => ((0, some state), w)
                      | (_, w) => ((-1, some state), w)

/-- The `ENDED` packets, removals and rating update that end `client_resign_game`, after the
`RESIGNED` packet has gone to the opponent. The winner is read through the `GAME` pointer the
code took before `inv_close` (`game_get_winner` gives `NULL_ROLE` for `NULL`): when another
thread has freed the invitation since, the read finds what the freed game last held. -/
def resignEnd (w : World) (c id inv source target opponent opponentId : Nat) : Int × World :=
  let winner := ((w.readGame inv).map gameGetWinner).getD .nullRole
  match w.clientSendPacket opponent (bare .endedPkt opponentId winner.toNat) with
  | (.ok, w) =>
      match w.clientSendPacket c (bare .endedPkt id winner.toNat) with
      | (.failed, w) => (-1, w)
      | (_, w) =>
          match w.clientRemoveInvitation source inv with
          | (-1, w) => (-1, w)
          | (_, w) =>
              match w.clientRemoveInvitation target inv with
              | (-1, w) => (-1, w)
              | (_, w) =>
                  (0, w.playerPostResult (w.clientGetPlayer source) (w.clientGetPlayer target)
                    (if c = source then 2 else 1))
  | (_, w) => (-1, w)

/-- `client_resign_game(client, id)`: allowed while the invitation has a game. The invitation
is closed with the resigner's role, then `RESIGNED` and `ENDED` go to the opponent and `ENDED`
to the resigner (a broken pipe on that last send is tolerated), the invitation is removed
from both lists, and the result is posted with the resigner losing. -/
def clientResignGame (w : World) (c id : Nat) : Int × World :=
  match (w.clientInvitations c).findById id with
  | none => (-1, w)
  | some node =>
      let inv := node.invitation
      match w.invitations inv with
      | none => (-1, w)
      | some i =>
          if i.game.isNone ∨ (i.sender ≠ c ∧ i.recipient ≠ c) then (-1, w)
          else
            match w.invClose inv (w.roleOf c inv) with
            | (-1, w) => (-1, w)
            | (_, w) =>
                let opponent := if c = i.sender then i.recipient else i.sender
                match (w.clientInvitations opponent).findByInvitation inv with
                | none => (-1, w)
                | some oppNode =>
                    match w.clientSendPacket opponent (bare .resignedPkt oppNode.id) with
                    | (.ok, w) => w.resignEnd c id inv i.sender i.recipient opponent oppNode.id
                    | (_, w) => (-1, w)

/-- The result code `client_make_move` posts for a winner: `0.5` truncated to `0` for a draw,
`1` for `FIRST_PLAYER_ROLE`, `2` otherwise. -/
def moveResult (winner : GameRole) : Int :=
  if winner = .nullRole then 0 else if winner = .firstPlayerRole then 1 else 2

/-- The end of `client_make_move` once the game is over: `ENDED` to the opponent and to the
mover, removal from both lists, and the result posted with the mover's player first. -/
def moveEnd (w : World) (c id inv source target opponentId : Nat) (opponent : Nat)
    (winner : GameRole) : Int × World :=
  match w.clientSendPacket opponent (bare .endedPkt opponentId winner.toNat) with
  | (.ok, w) =>
      match w.clientSendPacket c (bare .endedPkt id winner.toNat) with
      | (.ok, w) =>
          match w.clientRemoveInvitation source inv with
          | (-1, w) => (-1, w)
          | (_, w) =>
              match w.clientRemoveInvitation target inv with
              | (-1, w) => (-1, w)
              | (_, w) =>
                  (0, w.playerPostResult
                    (if c = source then w.clientGetPlayer source else w.clientGetPlayer target)
                    (if c = source then w.clientGetPlayer target else w.clientGetPlayer source)
                    (moveResult winner))
      | (_, w) => (-1, w)
  | (_, w) => (-1, w)

/-- `client_make_move(client, id, move)`: parse the move for the client's role, apply it,
send `MOVED` with the new state to the opponent, and when the game is over end it as
`moveEnd` does. -/
def clientMakeMove (w : World) (c id : Nat) (move : List UInt8) : Int × World :=
  match (w.clientInvitations c).findById id with
  | none => (-1, w)
  | some node =>
      let inv := node.invitation
      match w.invitations inv with
      | none => (-1, w)
      | some i =>
          match i.game with
          | none => (-1, w)
          | some g =>
              match gameParseMove g (w.roleOf c inv) move true with
              | none => (-1, w)
              | some m =>
                  match w.attempt with
                  | (.ok, w) =>
                      match gameApplyMove g m with
                      | none => (-1, w)
                      | some g' =>
                          let w := w.setInvitation inv (some { i with game := some g' })
                          let opponent := if c = i.sender then i.recipient else i.sender
                          match (w.clientInvitations opponent).findByInvitation inv with
                          | none => (-1, w)
                          | some oppNode =>
                              let state := gameUnparseState g'
                              match w.clientSendPacket opponent
                                  ⟨.movedPkt, UInt8.ofNat oppNode.id, 0, state.length,
                                    some state⟩ with
                              | (.ok, w) =>
                                  if gameIsOver g' then
                                    w.moveEnd c id inv i.sender i.recipient oppNode.id opponent
                                      (gameGetWinner g')
                                  else (0, w)
                              | (_, w) => (-1, w)
                  | (_, w) => (-1, w)

/-- One round of `client_logout`'s walk: resign a handle with a game, revoke one the client
is the source of, decline the others. Failures are not looked at. -/
def logoutStep (c : Nat) (w : World) (node : InvitationNode) : World :=
  if (w.invGetGame node.invitation).isSome then (w.clientResignGame c node.id).2
  else if w.invGetSource node.invitation = some c then (w.clientRevokeInvitation c node.id).2
  else (w.clientDeclineInvitation c node.id).2

/-- `client_logout(client)`: `-1` for a client that is not logged in; otherwise the player
reference is released and every node of the list, in order, goes through `logoutStep`. The
logged-in flag and the player pointer are left as they are. -/
def clientLogout (w : World) (c : Nat) : Int × World :=
  match w.clients c with
  | none => (-1, w)
  | some cl =>
      if !cl.loggedIn then (-1, w)
      else
        let w := w.playerUnref cl.player
        (0, (w.clientInvitations c).nodes.foldl (logoutStep c) w)

end World

end JeuxServer
