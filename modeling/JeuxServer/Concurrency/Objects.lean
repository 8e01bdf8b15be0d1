import JeuxServer.Concurrency.Threads

/-!
# The shared objects at lock granularity

The reference counts of `client.c`, `invitation.c`, `game.c` and `player.c`,
`client_send_packet`, the insertion and removal of invitation handles, and the invitation
and game updates, as thread programs. Each takes the rest of its thread, `k`, which receives
the C return value. Each block reads the world at the point where the code reads it and
writes only the fields the code writes, so a field written under one lock is never written
back from an older copy: the game of an invitation (guarded by the game's lock) is written
by `World.setGame`, its state (guarded by the invitation's lock) by `World.setState`.

Run alone, each program has the effect of its function of `Server/Heap.lean`
(`exec_clientSendPacketP` and its siblings), so the lock operations are all they add.

Where the code frees an object without unlocking its mutex (`client_unref`, `inv_unref`,
`game_unref` at zero), the mutex is released here.
-/

set_option autoImplicit false

namespace JeuxServer

namespace World

/-- The game field of invitation `i`, written in place. -/
def setGame (w : World) (i : Nat) (g : Option Game) : World :=
  match w.invitations i with
  | some inv => w.setInvitation i (some { inv with game := g })
  | none => w

/-- The state field of invitation `i`, written in place. -/
def setState (w : World) (i : Nat) (st : InvitationState) : World :=
  match w.invitations i with
  | some inv => w.setInvitation i (some { inv with state := st })
  | none => w

@[simp] theorem setGame_outcomes (w : World) (i : Nat) (g : Option Game) :
    (w.setGame i g).outcomes = w.outcomes := by
  unfold setGame; split <;> rfl

@[simp] theorem setState_outcomes (w : World) (i : Nat) (st : InvitationState) :
    (w.setState i st).outcomes = w.outcomes := by
  unfold setState; split <;> rfl

theorem setGame_of_some {w : World} {i : Nat} {inv : Invitation} (h : w.invitations i = some inv)
    (g : Option Game) : w.setGame i g = w.setInvitation i (some { inv with game := g }) := by
  simp [setGame, h]

theorem setState_of_some {w : World} {i : Nat} {inv : Invitation} (h : w.invitations i = some inv)
    (st : InvitationState) : w.setState i st = w.setInvitation i (some { inv with state := st }) := by
  simp [setState, h]

@[simp] theorem clientSendPacket_invitations (w : World) (c : Nat) (p : Packet) :
    (w.clientSendPacket c p).2.invitations = w.invitations := by
  unfold clientSendPacket
  dsimp only
  split_ifs <;> simp

@[simp] theorem playerRef_clients (w : World) (p : Option Nat) : (w.playerRef p).clients = w.clients := by
  cases p with
  | none => rfl
  | some p => simp only [playerRef]; split <;> rfl

@[simp] theorem clientGetPlayer_playerRef (w : World) (p : Option Nat) :
    (w.playerRef p).clientGetPlayer = w.clientGetPlayer := by
  funext c; simp [clientGetPlayer]

/-- A reference count changes no name. -/
@[simp] theorem playerGetName_playerRef (w : World) (p : Option Nat) :
    (w.playerRef p).playerGetName = w.playerGetName := by
  funext q
  cases p with
  | none => rfl
  | some p =>
      simp only [playerRef]
      cases hp : w.players p with
      | none => rfl
      | some pl =>
          by_cases hq : q = p
          · subst hq; simp [playerGetName, setPlayer, hp]
          · simp [playerGetName, setPlayer, Function.update_noteq hq]

theorem playerGetName_foldl_playerRef (w : World) (ps : List Nat) :
    (ps.foldl (fun w p => w.playerRef (some p)) w).playerGetName = w.playerGetName := by
  induction ps generalizing w with
  | nil => rfl
  | cons p ps ih => simp [ih]

@[simp] theorem setInvitation_setInvitation (w : World) (i : Nat) (x y : Option Invitation) :
    (w.setInvitation i x).setInvitation i y = w.setInvitation i y := by
  simp [setInvitation]

end World

namespace Prog

open World

/-! ## Reference counts -/

/-- `player_ref(player)`. -/
def playerRefP : Option Nat → Prog → Prog
  | none, k => k
  | some p, k => lock (.player p) <| act (·.playerRef (some p)) fun _ => unlock (.player p) k

/-- `player_unref(player)`. -/
def playerUnrefP : Option Nat → Prog → Prog
  | none, k => k
  | some p, k => lock (.player p) <| act (·.playerUnref (some p)) fun _ => unlock (.player p) k

/-- `client_ref(client)`. -/
def clientRefP (c : Nat) (k : Prog) : Prog :=
  lock (.client c) <| act (·.clientRef c) fun _ => unlock (.client c) k

/-- `client_unref(client)`: at zero the client's player is released under the client's lock. -/
def clientUnrefP (c : Nat) (k : Prog) : Prog :=
  lock (.client c) <| act (fun w =>
    match w.clients c with
    | some cl =>
        if cl.refCount - 1 = 0 then w.setClient c none
        else w.setClient c (some { cl with refCount := cl.refCount - 1 })
    | none => w) fun w =>
  match w.clients c with
  | some cl =>
      if cl.refCount - 1 = 0 then playerUnrefP cl.player (unlock (.client c) k)
      else unlock (.client c) k
  | none => unlock (.client c) k

/-- `inv_ref(inv)`. -/
def invRefP (i : Nat) (k : Prog) : Prog :=
  lock (.invitation i) <| act (·.invRef i) fun _ => unlock (.invitation i) k

/-- `game_unref` of the game a freed invitation held: the game's lock is taken and the game
freed. -/
def gameUnrefP (i : Nat) : Option Game → Prog → Prog
  | some _, k => lock (.game i) <| unlock (.game i) k
  | none, k => k

/-- `inv_unref(inv)`: at zero, under the invitation's lock, the source and the target are
released and then the game. -/
def invUnrefP (i : Nat) (k : Prog) : Prog :=
  lock (.invitation i) <| act (fun w =>
    match w.invitations i with
    | some inv =>
        if inv.refCount - 1 = 0 then w.freeInvitation i
        else w.setInvitation i (some { inv with refCount := inv.refCount - 1 })
    | none => w) fun w =>
  match w.invitations i with
  | some inv =>
      if inv.refCount - 1 = 0 then
        clientUnrefP inv.sender <| clientUnrefP inv.recipient <| gameUnrefP i inv.game <|
          unlock (.invitation i) k
      else unlock (.invitation i) k
  | none => unlock (.invitation i) k

/-- A list of `player_ref` calls, in order. -/
def playerRefsP : List Nat → Prog → Prog
  | [], k => k
  | p :: ps, k => playerRefP (some p) (playerRefsP ps k)

/-- A list of `player_unref` calls, in order. -/
def playerUnrefsP : List Nat → Prog → Prog
  | [], k => k
  | p :: ps, k => playerUnrefP (some p) (playerUnrefsP ps k)

/-! ## Sending, and the invitation lists -/

/-- `client_send_packet(client, pkt, data)`: the write is made under the client's lock. -/
def clientSendPacketP (c : Nat) (p : Packet) (k : Outcome → Prog) : Prog :=
  lock (.client c) <| act (fun w => (w.clientSendPacket c p).2) fun w =>
  unlock (.client c) (k (w.clientSendPacket c p).1)

/-- `client_send_ack(client, data, datalen)`: `make_packet`'s header is allocated before the
client's lock is taken. -/
def clientSendAckP (c : Nat) (data : Option (List UInt8)) (datalen : Nat) (k : Prog) : Prog :=
  act (·.attempt.2) fun w =>
  if w.attempt.1 = .ok then clientSendPacketP c ⟨.ackPkt, 0, 0, datalen, data⟩ fun _ => k else k

/-- `client_send_nack(client)`. -/
def clientSendNackP (c : Nat) (k : Prog) : Prog :=
  act (·.attempt.2) fun w =>
  if w.attempt.1 = .ok then clientSendPacketP c ⟨.nackPkt, 0, 0, 0, none⟩ fun _ => k else k

/-- `client_add_invitation(client, inv)`: the node is allocated and linked, and `inv_ref`
called, under the client's lock. -/
def clientAddInvitationP (c inv : Nat) (k : Int → Prog) : Prog :=
  lock (.client c) <| read fun w =>
  match w.clients c, w.invitations inv with
  | some cl, some _ =>
      act (·.attempt.2) fun w =>
      if w.attempt.1 = .ok then
        act (·.setClient c (some { cl with invitations := cl.invitations.add inv })) fun _ =>
        invRefP inv <| unlock (.client c) (k (findLowestIdAvailalble cl.invitations.nodes))
      else unlock (.client c) (k (-1))
  | _, _ => unlock (.client c) (k (-1))

/-- `client_remove_invitation(client, inv)`: the node is unlinked under the client's lock,
and `inv_unref` called after it is released. -/
def clientRemoveInvitationP (c inv : Nat) (k : Int → Prog) : Prog :=
  lock (.client c) <| read fun w =>
  match w.clients c with
  | some cl =>
      match cl.invitations.findByInvitation inv with
      | some node =>
          act (·.setClient c (some { cl with invitations := cl.invitations.remove inv }))
            fun _ => unlock (.client c) <| invUnrefP inv <| k node.id
      | none => unlock (.client c) (k (-1))
  | none => unlock (.client c) (k (-1))

/-! ## Invitations and games -/

/-- `inv_create(source, target, source_role, target_role)`. -/
def invCreateP (source target : Nat) (sourceRole targetRole : GameRole)
    (k : Option Nat → Prog) : Prog :=
  read fun w =>
  match w.alloc with
  | (some i, _) =>
      act (fun w => w.alloc.2.setInvitation i (some
        { refCount := 1, sender := source, recipient := target, sourceRole := sourceRole,
          targetRole := targetRole, game := none, state := .invOpenState })) fun _ =>
      clientRefP source <| clientRefP target <| k (some i)
  | (none, _) => act (·.alloc.2) fun _ => k none

/-- `inv_accept(inv)`: under the invitation's lock the state becomes ACCEPTED, `game_create`
allocates the game and takes and releases its lock, and the game is stored. -/
def invAcceptP (i : Nat) (k : Int → Prog) : Prog :=
  lock (.invitation i) <| read fun w =>
  match w.invitations i with
  | some inv =>
      if inv.state ≠ .invOpenState then unlock (.invitation i) (k (-1))
      else
        act (fun w => (w.setState i .invAcceptedState).attempt.2) fun w =>
        if w.attempt.1 = .ok then
          lock (.game i) <| unlock (.game i) <| act (·.setGame i (some gameCreate)) fun _ =>
          unlock (.invitation i) (k 0)
        else unlock (.invitation i) (k (-1))
  | none => unlock (.invitation i) (k (-1))

/-- The `game_resign` that `inv_close` calls, whose result it does not look at: the test of
the game's flag is made before the game's lock is taken. -/
def gameResignP (i : Nat) (role : GameRole) (k : Prog) : Prog :=
  read fun w =>
  match (w.invitations i).bind (·.game) with
  | some g =>
      if g.terminated = true then k
      else
        lock (.game i) <| act (fun w =>
          match (w.invitations i).bind (·.game) with
          | some g => w.setGame i (some (g.resign role))
          | none => w) fun _ =>
        unlock (.game i) k
  | none => k

/-- `inv_close(inv, role)`: the test of `NULL_ROLE` against the game is made before the
invitation's lock is taken; the state test, the resignation and the new state under it. -/
def invCloseP (i : Nat) (role : GameRole) (k : Int → Prog) : Prog :=
  read fun w =>
  match w.invitations i with
  | none => k (-1)
  | some inv =>
      if role = .nullRole ∧ inv.game.isSome then k (-1)
      else
        lock (.invitation i) <| read fun w =>
        match w.invitations i with
        | some inv =>
            if inv.state ≠ .invOpenState ∧ inv.state ≠ .invAcceptedState then
              unlock (.invitation i) (k (-1))
            else
              (if inv.state = .invAcceptedState then gameResignP i role else id) <|
              act (·.setState i .invClosedState) fun _ => unlock (.invitation i) (k 0)
        | none => unlock (.invitation i) (k (-1))

/-- `game_apply_move(game, move)`, under the game's lock. -/
def gameApplyMoveP (i : Nat) (m : GameMove) (k : Int → Prog) : Prog :=
  lock (.game i) <| read fun w =>
  match ((w.invitations i).bind (·.game)).bind (gameApplyMove · m) with
  | some g' => act (·.setGame i (some g')) fun _ => unlock (.game i) (k 0)
  | none => unlock (.game i) (k (-1))

/-- `player_post_result(player1, player2, result)`: each player's rating is updated under its
own lock, for the result codes 0, 1 and 2. -/
def playerPostResultP (p1 p2 : Option Nat) (result : Int) (k : Prog) : Prog :=
  act (·.playerPostResult p1 p2 result) fun _ =>
  if result = 0 ∨ result = 1 ∨ result = 2 then
    match p1, p2 with
    | some a, some b => lock (.player a) <| unlock (.player a) <| lock (.player b) <|
        unlock (.player b) k
    | _, _ => k
  else k

/-! ## Run alone, the programs are the functions of the heap -/

section Exec

variable (w : World)

@[simp] theorem exec_playerRefP (p : Option Nat) (k : Prog) :
    (playerRefP p k).exec w = k.exec (w.playerRef p) := by
  cases p <;> rfl

@[simp] theorem exec_playerUnrefP (p : Option Nat) (k : Prog) :
    (playerUnrefP p k).exec w = k.exec (w.playerUnref p) := by
  cases p <;> rfl

@[simp] theorem exec_clientRefP (c : Nat) (k : Prog) :
    (clientRefP c k).exec w = k.exec (w.clientRef c) := rfl

@[simp] theorem exec_clientUnrefP (c : Nat) (k : Prog) :
    (clientUnrefP c k).exec w = k.exec (w.clientUnref c) := by
  simp only [clientUnrefP, exec_lock, exec_act, World.clientUnref]
  cases hc : w.clients c with
  | none => rfl
  | some cl => by_cases h : cl.refCount - 1 = 0 <;> simp [h]

@[simp] theorem exec_invRefP (i : Nat) (k : Prog) :
    (invRefP i k).exec w = k.exec (w.invRef i) := rfl

@[simp] theorem exec_gameUnrefP (i : Nat) (g : Option Game) (k : Prog) :
    (gameUnrefP i g k).exec w = k.exec w := by
  cases g <;> rfl

@[simp] theorem exec_invUnrefP (i : Nat) (k : Prog) :
    (invUnrefP i k).exec w = k.exec (w.invUnref i) := by
  simp only [invUnrefP, exec_lock, exec_act, World.invUnref]
  cases hi : w.invitations i with
  | none => rfl
  | some inv => by_cases h : inv.refCount - 1 = 0 <;> simp [h]

@[simp] theorem exec_playerRefsP (ps : List Nat) (k : Prog) :
    (playerRefsP ps k).exec w = k.exec (ps.foldl (fun w p => w.playerRef (some p)) w) := by
  induction ps generalizing w with
  | nil => rfl
  | cons p ps ih => simp [playerRefsP, ih]

@[simp] theorem exec_playerUnrefsP (ps : List Nat) (k : Prog) :
    (playerUnrefsP ps k).exec w = k.exec (ps.foldl (fun w p => w.playerUnref (some p)) w) := by
  induction ps generalizing w with
  | nil => rfl
  | cons p ps ih => simp [playerUnrefsP, ih]

@[simp] theorem exec_clientSendPacketP (c : Nat) (p : Packet) (k : Outcome → Prog) :
    (clientSendPacketP c p k).exec w =
      (k (w.clientSendPacket c p).1).exec (w.clientSendPacket c p).2 := rfl

@[simp] theorem exec_clientSendAckP (c : Nat) (data : Option (List UInt8)) (n : Nat) (k : Prog) :
    (clientSendAckP c data n k).exec w = k.exec (w.clientSendAck c data n) := by
  simp only [clientSendAckP, exec_act, World.clientSendAck]
  rcases w.attempt with ⟨_ | _ | _, w1⟩ <;> rfl

@[simp] theorem exec_clientSendNackP (c : Nat) (k : Prog) :
    (clientSendNackP c k).exec w = k.exec (w.clientSendNack c) := by
  simp only [clientSendNackP, exec_act, World.clientSendNack]
  rcases w.attempt with ⟨_ | _ | _, w1⟩ <;> rfl

@[simp] theorem exec_clientAddInvitationP (c inv : Nat) (k : Int → Prog) :
    (clientAddInvitationP c inv k).exec w =
      (k (w.clientAddInvitation c inv).1).exec (w.clientAddInvitation c inv).2 := by
  simp only [clientAddInvitationP, exec_lock, exec_act, exec_read, World.clientAddInvitation]
  rcases w.clients c with _ | cl <;> rcases w.invitations inv with _ | _ <;> try rfl
  cases ho : w.attempt with
  | mk o w' => cases o <;> simp [ho]

@[simp] theorem exec_clientRemoveInvitationP (c inv : Nat) (k : Int → Prog) :
    (clientRemoveInvitationP c inv k).exec w =
      (k (w.clientRemoveInvitation c inv).1).exec (w.clientRemoveInvitation c inv).2 := by
  simp only [clientRemoveInvitationP, exec_lock, exec_act, exec_read, World.clientRemoveInvitation]
  cases w.clients c with
  | none => rfl
  | some cl => cases hn : cl.invitations.findByInvitation inv <;> simp [hn]

@[simp] theorem exec_invCreateP (s t : Nat) (sr tr : GameRole) (k : Option Nat → Prog) :
    (invCreateP s t sr tr k).exec w =
      (k (w.invCreate s t sr tr).1).exec (w.invCreate s t sr tr).2 := by
  simp only [invCreateP, exec_act, exec_read, World.invCreate]
  split <;> simp_all

@[simp] theorem exec_invAcceptP (i : Nat) (k : Int → Prog) :
    (invAcceptP i k).exec w = (k (w.invAccept i).1).exec (w.invAccept i).2 := by
  simp only [invAcceptP, exec_lock, exec_act, exec_read, World.invAccept]
  cases hinv : w.invitations i with
  | none => rfl
  | some inv =>
      by_cases hst : inv.state = .invOpenState
      · let w₁ := w.setInvitation i (some { inv with state := .invAcceptedState })
        have hs : w.setState i .invAcceptedState = w₁ := by simp [World.setState, hinv, w₁]
        have hatt : w.attempt.1 = w₁.attempt.1 :=
          (World.attempt_fst_congr (show w₁.outcomes = w.outcomes from rfl)).symm
        simp only [hst, ne_eq, not_true_eq_false, ↓reduceIte, exec_act, exec_lock, exec_unlock, hs,
          hatt]
        cases ho : w₁.attempt with
        | mk o w' =>
            have hw' : w'.invitations i = some { inv with state := .invAcceptedState } := by
              have h₁ : w'.invitations = w₁.invitations := by
                simpa [ho] using World.attempt_invitations w₁
              simp [h₁, w₁, World.setInvitation]
            cases o <;> simp [hst, ho, World.setGame, hw', w₁]
      · simp [hst]

@[simp] theorem exec_playerPostResultP (p1 p2 : Option Nat) (r : Int) (k : Prog) :
    (playerPostResultP p1 p2 r k).exec w = k.exec (w.playerPostResult p1 p2 r) := by
  unfold playerPostResultP
  simp only [exec_act]
  split_ifs
  · split <;> rfl
  · rfl

/-- `inv_close` run alone. The resignation it makes is `Game.resign` when the game has not
terminated, as `gameResign` says. -/
@[simp] theorem exec_invCloseP (i : Nat) (role : GameRole) (k : Int → Prog) :
    (invCloseP i role k).exec w = (k (w.invClose i role).1).exec (w.invClose i role).2 := by
  simp only [invCloseP, exec_act, exec_read, World.invClose]
  cases hinv : w.invitations i with
  | none => rfl
  | some inv =>
      by_cases hnull : role = .nullRole ∧ inv.game.isSome
      · simp [hnull]
      by_cases hst : inv.state ≠ .invOpenState ∧ inv.state ≠ .invAcceptedState
      · simp [hnull, hst, hinv]
      by_cases hacc : inv.state = .invAcceptedState
      · cases hg : inv.game with
        | none =>
            simp [hnull, hst, hinv, hacc, hg, gameResignP, World.setState_of_some hinv]
        | some g =>
            have hrole : role ≠ .nullRole := fun h => hnull ⟨h, by simp [hg]⟩
            by_cases ht : g.terminated = true
            · simp [hrole, hst, hinv, hacc, hg, gameResignP, ht, gameResign,
                World.setState_of_some hinv]
            · have h1 : w.setGame i (some (g.resign role)) =
                  w.setInvitation i (some { inv with game := some (g.resign role) }) :=
                World.setGame_of_some hinv _
              simp [hrole, hst, hinv, hacc, hg, gameResignP, ht, gameResign, h1, World.setState,
                World.setInvitation]
      · have hopen : inv.state = .invOpenState := by_contra fun h => hst ⟨h, hacc⟩
        simp [hnull, hinv, hacc, hopen, World.setState_of_some hinv]

/-- `game_apply_move` run alone on the game `g` of invitation `i`. -/
theorem exec_gameApplyMoveP {i : Nat} {inv : Invitation} {g : Game} (hi : w.invitations i = some inv)
    (hg : inv.game = some g) (m : GameMove) (k : Int → Prog) :
    (gameApplyMoveP i m k).exec w =
      match gameApplyMove g m with
      | some g' => (k 0).exec (w.setInvitation i (some { inv with game := some g' }))
      | none => (k (-1)).exec w := by
  simp only [gameApplyMoveP, exec_lock, exec_act, exec_read, hi, hg, Option.some_bind]
  cases gameApplyMove g m <;> simp [World.setGame_of_some hi]

end Exec

end Prog

end JeuxServer
