import JeuxServer.Protocol.Codec
import Mathlib.Data.Finset.Card
import Mathlib.Data.List.Nodup

/-!
# Objects of the server and their primitive operations

The server's shared objects live in one `World`: `CLIENT`s, `INVITATION`s and `PLAYER`s
addressed by natural numbers (a freed object's address maps to `none`; what a freed game
last held stays readable through a pointer taken before, `readGame`), the client
registry's list, the player registry's list, every frame written to a client socket, and
every `player_post_result` call. Reference counts are `Int`, as in the C structures.

Every step that may fail in the code (a checked `malloc`, a socket write) takes the next
`Outcome` from `World.outcomes`, so a quantifier over the outcome list is a quantifier over
every combination of successes and failures. An allocation whose `NULL` the code
dereferences unchecked is taken to succeed.

A client's invitation list is an `InvitationList`, whose IDs are pairwise distinct by
construction: `client_add_invitation` gives a new handle `find_lowest_id_availalble`, which
no handle uses (`findLowestIdAvailalble_not_mem`). The code's `while (1)` has no bound; it
ends because `n` used IDs `0 … n - 1` take `n` nodes (`le_length_of_used`), and the fuelled
function of the model computes the same least unused ID (`findLowestIdAvailalbleLoop_eq`).
-/

set_option autoImplicit false

namespace JeuxServer

/-- `MAX_CLIENTS`. Modelled from the spec: `client_registry.h` is not under `src/`; the spec
(§4.4) gives the registry a capacity of 64. -/
def maxClients : Nat := 64

/-- `INVITATION_STATE`, in the order of the enumeration quoted in `invitation.c`. -/
inductive InvitationState where
  | invOpenState
  | invAcceptedState
  | invClosedState
  deriving DecidableEq, Repr

/-- A `PLAYER`. `rating` is the value `player_get_rating` returns, the integer part of the
`double`. The model never changes it: the Elo update of `player_post_result` is outside the
model, which records the call (`World.results`), so after a game the USERS reply
(`World.usersLines`) shows the rating the player was registered with. -/
structure Player where
  username : List UInt8
  rating : Int
  refCount : Int

/-- An `INVITATION`: `sender` is the source CLIENT and `recipient` the target. The game it
owns is stored in it. -/
structure Invitation where
  refCount : Int
  sender : Nat
  recipient : Nat
  sourceRole : GameRole
  targetRole : GameRole
  game : Option Game
  state : InvitationState

/-- An `INVITATION_NODE` of a client's list: the invitation and the client's ID for it. -/
structure InvitationNode where
  invitation : Nat
  id : Nat
  deriving DecidableEq, Repr

/-! ## Invitation lists -/

/-- `id_exists_in_client_invitation`. -/
def idExistsInClientInvitation (nodes : List InvitationNode) (id : Nat) : Bool :=
  nodes.any (·.id == id)

/-- The loop of `find_lowest_id_availalble` from `i` with `fuel` iterations left. -/
def findLowestIdFrom (nodes : List InvitationNode) : Nat → Nat → Nat
  | 0, i => i
  | fuel + 1, i => if idExistsInClientInvitation nodes i then findLowestIdFrom nodes fuel (i + 1) else i

/-- `find_lowest_id_availalble`: the first `i = 0, 1, …` that no node uses. The loop stops
within `nodes.length` rounds (`findLowestIdAvailalble_not_mem`), so that many rounds of fuel
compute it. -/
def findLowestIdAvailalble (nodes : List InvitationNode) : Nat :=
  findLowestIdFrom nodes nodes.length 0

theorem idExists_iff (nodes : List InvitationNode) (i : Nat) :
    idExistsInClientInvitation nodes i = true ↔ i ∈ nodes.map (·.id) := by
  simp [idExistsInClientInvitation]

/-- Every ID below the loop's result, from its start on, is used. -/
theorem findLowestIdFrom_used (nodes : List InvitationNode) :
    ∀ fuel i j, i ≤ j → j < findLowestIdFrom nodes fuel i → j ∈ nodes.map (·.id)
  | 0, i, j, hij, hj => by simp [findLowestIdFrom] at hj; omega
  | fuel + 1, i, j, hij, hj => by
      simp only [findLowestIdFrom] at hj
      split at hj
      · rename_i hex
        rcases Nat.eq_or_lt_of_le hij with rfl | hlt
        · exact (idExists_iff nodes i).1 hex
        · exact findLowestIdFrom_used nodes fuel (i + 1) j hlt hj
      · omega

/-- The loop's result when it stops early is unused, and it never passes `i + fuel`. -/
theorem findLowestIdFrom_spec (nodes : List InvitationNode) :
    ∀ fuel i, findLowestIdFrom nodes fuel i ≤ i + fuel ∧
      (findLowestIdFrom nodes fuel i < i + fuel → findLowestIdFrom nodes fuel i ∉ nodes.map (·.id))
  | 0, i => by simp [findLowestIdFrom]
  | fuel + 1, i => by
      simp only [findLowestIdFrom]
      split
      · have := findLowestIdFrom_spec nodes fuel (i + 1)
        exact ⟨by omega, fun h => this.2 (by omega)⟩
      · rename_i hex
        exact ⟨by omega, fun _ => by rwa [← idExists_iff]⟩

/-- `n` is the least ID that no node uses. -/
def IsLeastUnused (nodes : List InvitationNode) (n : Nat) : Prop :=
  n ∉ nodes.map (·.id) ∧ ∀ j < n, j ∈ nodes.map (·.id)

instance (nodes : List InvitationNode) (n : Nat) : Decidable (IsLeastUnused nodes n) :=
  inferInstanceAs (Decidable (_ ∧ _))

/-- Used IDs below `n`, and `n` used too, are used IDs below `n + 1`. -/
theorem used_below_succ {nodes : List InvitationNode} {n : Nat}
    (h : ∀ j < n, j ∈ nodes.map (·.id)) (hn : n ∈ nodes.map (·.id)) :
    ∀ j < n + 1, j ∈ nodes.map (·.id) :=
  fun j hj => (Nat.lt_succ_iff_lt_or_eq.1 hj).elim (h j) (· ▸ hn)

/-- The pigeonhole bound: `n` used IDs `0 … n - 1` take `n` nodes. -/
theorem le_length_of_used {nodes : List InvitationNode} {n : Nat}
    (h : ∀ j < n, j ∈ nodes.map (·.id)) : n ≤ nodes.length := by
  have hsub : Finset.range n ⊆ (nodes.map (·.id)).toFinset := fun j hj =>
    List.mem_toFinset.2 (h j (Finset.mem_range.1 hj))
  simpa using (Finset.card_le_card hsub).trans (nodes.map (·.id)).toFinset_card_le

namespace IsLeastUnused

variable {nodes : List InvitationNode} {a b : Nat}

theorem unique (ha : IsLeastUnused nodes a) (hb : IsLeastUnused nodes b) : a = b := by
  rcases Nat.lt_trichotomy a b with h | h | h
  · exact absurd (hb.2 a h) ha.1
  · exact h
  · exact absurd (ha.2 b h) hb.1

theorem le_length (h : IsLeastUnused nodes a) : a ≤ nodes.length := le_length_of_used h.2

end IsLeastUnused

/-- With at least `nodes.length` rounds of fuel, the loop from `0` finds the least unused ID:
were its result used, the IDs up to it would need more nodes than there are. -/
theorem findLowestIdFrom_isLeastUnused {nodes : List InvitationNode} {fuel : Nat}
    (hF : nodes.length ≤ fuel) : IsLeastUnused nodes (findLowestIdFrom nodes fuel 0) := by
  have hused : ∀ j < findLowestIdFrom nodes fuel 0, j ∈ nodes.map (·.id) :=
    fun j => findLowestIdFrom_used nodes fuel 0 j (Nat.zero_le j)
  refine ⟨fun hmem => ?_, hused⟩
  have := le_length_of_used (used_below_succ hused hmem)
  exact (findLowestIdFrom_spec nodes fuel 0).2 (by omega) hmem

/-- `find_lowest_id_availalble` is the least ID no node uses. -/
theorem findLowestIdAvailalble_isLeastUnused (nodes : List InvitationNode) :
    IsLeastUnused nodes (findLowestIdAvailalble nodes) :=
  findLowestIdFrom_isLeastUnused le_rfl

/-- `find_lowest_id_availalble` is at most the number of nodes. -/
theorem findLowestIdAvailalble_le (nodes : List InvitationNode) :
    findLowestIdAvailalble nodes ≤ nodes.length :=
  (findLowestIdAvailalble_isLeastUnused nodes).le_length

/-- Every ID below `find_lowest_id_availalble` is used. -/
theorem lt_findLowestIdAvailalble {nodes : List InvitationNode} {j : Nat}
    (h : j < findLowestIdAvailalble nodes) : j ∈ nodes.map (·.id) :=
  (findLowestIdAvailalble_isLeastUnused nodes).2 j h

/-- `find_lowest_id_availalble` is used by no node. -/
theorem findLowestIdAvailalble_not_mem (nodes : List InvitationNode) :
    findLowestIdAvailalble nodes ∉ nodes.map (·.id) :=
  (findLowestIdAvailalble_isLeastUnused nodes).1

/-- The loop of `find_lowest_id_availalble` as the code writes it, `while (1)` from `i` with
no bound. Every ID below `i` is used (`hused`), so while `i` is used too, `i` is below the
number of nodes (`le_length_of_used`): the loop ends within `nodes.length` rounds. -/
def findLowestIdLoop (nodes : List InvitationNode) (i : Nat)
    (hused : ∀ j < i, j ∈ nodes.map (·.id)) : Nat :=
  if hi : idExistsInClientInvitation nodes i then
    findLowestIdLoop nodes (i + 1) (used_below_succ hused ((idExists_iff nodes i).1 hi))
  else i
termination_by nodes.length - i
decreasing_by
  have := le_length_of_used (used_below_succ hused ((idExists_iff nodes i).1 hi))
  omega

/-- The unbounded loop leaves at the least unused ID. -/
theorem findLowestIdLoop_isLeastUnused (nodes : List InvitationNode) (i : Nat)
    (hused : ∀ j < i, j ∈ nodes.map (·.id)) :
    IsLeastUnused nodes (findLowestIdLoop nodes i hused) := by
  induction i, hused using findLowestIdLoop.induct with
  | case1 i hused hi ih => rw [findLowestIdLoop, dif_pos hi]; exact ih
  | case2 i hused hi =>
      rw [findLowestIdLoop, dif_neg hi]
      exact ⟨fun h => hi ((idExists_iff nodes i).2 h), hused⟩

/-- `find_lowest_id_availalble` as the code writes it: `i = 0`, then the unbounded loop. -/
def findLowestIdAvailalbleLoop (nodes : List InvitationNode) : Nat :=
  findLowestIdLoop nodes 0 fun _ h => absurd h (Nat.not_lt_zero _)

/-- The fuelled `find_lowest_id_availalble` of the model computes the code's unbounded loop. -/
theorem findLowestIdAvailalbleLoop_eq (nodes : List InvitationNode) :
    findLowestIdAvailalbleLoop nodes = findLowestIdAvailalble nodes :=
  (findLowestIdLoop_isLeastUnused nodes 0 _).unique (findLowestIdAvailalble_isLeastUnused nodes)

/-- A client's list of `INVITATION_NODE`s, head first, whose IDs are pairwise distinct. -/
structure InvitationList where
  nodes : List InvitationNode
  ids_nodup : (nodes.map (·.id)).Nodup

namespace InvitationList

/-- The empty list of a new client. -/
def empty : InvitationList := ⟨[], List.nodup_nil⟩

/-- The insertion of `client_add_invitation`: a node for `inv` with the lowest free ID, at
the head. -/
def add (l : InvitationList) (inv : Nat) : InvitationList :=
  ⟨⟨inv, findLowestIdAvailalble l.nodes⟩ :: l.nodes,
    List.nodup_cons.2 ⟨findLowestIdAvailalble_not_mem l.nodes, l.ids_nodup⟩⟩

/-- The unlinking of `client_remove_invitation`: the first node for `inv` is dropped. -/
def remove (l : InvitationList) (inv : Nat) : InvitationList :=
  ⟨l.nodes.eraseP (·.invitation == inv),
    l.ids_nodup.sublist ((List.eraseP_sublist _).map _)⟩

/-- The node the loop `while (node != NULL && node->id != id)` stops at. -/
def findById (l : InvitationList) (id : Nat) : Option InvitationNode := l.nodes.find? (·.id == id)

/-- The node the loop `while (node != NULL && node->invitation != inv)` stops at. -/
def findByInvitation (l : InvitationList) (inv : Nat) : Option InvitationNode :=
  l.nodes.find? (·.invitation == inv)

end InvitationList

/-- A `CLIENT`. -/
structure Client where
  fd : Nat
  refCount : Int
  loggedIn : Bool
  player : Option Nat
  invitations : InvitationList

/-! ## The world -/

/-- What one fallible step does: succeed, fail with `EPIPE`, or fail otherwise. -/
inductive Outcome where
  | ok
  | brokenPipe
  | failed
  deriving DecidableEq, Repr

/-- A packet as `client_send_packet` is asked to send it: the header's type, id and role,
the size given to `make_packet` (or stored later with `htons`), and the data pointer. -/
structure Packet where
  type : JeuxPacketType
  id : UInt8
  role : UInt8
  size : Nat
  data : Option (List UInt8)
  deriving DecidableEq, Repr

/-- The frame of a packet as it reaches the socket. -/
structure Frame where
  type : JeuxPacketType
  id : UInt8
  role : UInt8
  payload : List UInt8
  deriving DecidableEq, Repr

/-- One write of a frame to a client's socket, and whether it reached the socket. -/
structure Write where
  client : Nat
  frame : Frame
  delivered : Bool
  deriving DecidableEq, Repr

/-- The server's shared state. -/
structure World where
  clients : Nat → Option Client
  invitations : Nat → Option Invitation
  /-- The contents the game of each freed invitation last held: `free` leaves them in place,
  and a `GAME` pointer taken before the free still reads them. -/
  freedGames : Nat → Option Game
  players : Nat → Option Player
  nextAddr : Nat
  registry : List Nat
  clientCount : Nat
  pFlag : Bool
  semaphore : Nat
  playerRegistry : List (List UInt8 × Nat)
  writes : List Write
  results : List (Option Nat × Option Nat × Int)
  outcomes : List Outcome

namespace World

/-- The state at start-up, after `creg_init` and `preg_init`, with the outcomes `os` of the
fallible steps to come. -/
def init (os : List Outcome) : World where
  clients := fun _ => none
  invitations := fun _ => none
  freedGames := fun _ => none
  players := fun _ => none
  nextAddr := 0
  registry := []
  clientCount := 0
  pFlag := false
  semaphore := 0
  playerRegistry := []
  writes := []
  results := []
  outcomes := os

/-- The outcome of the next fallible step. -/
def attempt (w : World) : Outcome × World :=
  match w.outcomes with
  | [] => (.ok, w)
  | o :: os => (o, { w with outcomes := os })

/-- A checked `malloc`: a fresh address, or `NULL`. -/
def alloc (w : World) : Option Nat × World :=
  match w.attempt with
  | (.ok, w) => (some w.nextAddr, { w with nextAddr := w.nextAddr + 1 })
  | (_, w) => (none, w)

def setClient (w : World) (c : Nat) (cl : Option Client) : World :=
  { w with clients := Function.update w.clients c cl }

def setInvitation (w : World) (i : Nat) (inv : Option Invitation) : World :=
  { w with invitations := Function.update w.invitations i inv }

def setPlayer (w : World) (p : Nat) (pl : Option Player) : World :=
  { w with players := Function.update w.players p pl }

/-- `free(inv)`, with the `free(game)` of the game it held: the invitation leaves the heap,
and the game's memory keeps the contents it last held. -/
def freeInvitation (w : World) (i : Nat) : World :=
  { w.setInvitation i none with
    freedGames := Function.update w.freedGames i ((w.invitations i).bind (·.game)) }

@[simp] theorem freeInvitation_invitations (w : World) (i : Nat) :
    (w.freeInvitation i).invitations = Function.update w.invitations i none := rfl

@[simp] theorem freeInvitation_clients (w : World) (i : Nat) :
    (w.freeInvitation i).clients = w.clients := rfl

@[simp] theorem freeInvitation_writes (w : World) (i : Nat) :
    (w.freeInvitation i).writes = w.writes := rfl

@[simp] theorem attempt_invitations (w : World) : w.attempt.2.invitations = w.invitations := by
  unfold attempt; split <;> rfl

/-- The outcome of the next fallible step depends on the outcomes alone. -/
theorem attempt_fst_congr {w w' : World} (h : w'.outcomes = w.outcomes) :
    w'.attempt.1 = w.attempt.1 := by
  unfold attempt; rw [h]; split <;> rfl

@[simp] theorem setInvitation_self (w : World) (i : Nat) (x : Option Invitation) :
    (w.setInvitation i x).invitations i = x := by
  simp [setInvitation]

/-! ## Reference counts -/

/-- `player_ref`. -/
def playerRef (w : World) : Option Nat → World
  | none => w
  | some p =>
      match w.players p with
      | none => w
      | some pl => w.setPlayer p (some { pl with refCount := pl.refCount + 1 })

/-- `player_unref`: the player is freed when the count reaches zero. -/
def playerUnref (w : World) : Option Nat → World
  | none => w
  | some p =>
      match w.players p with
      | none => w
      | some pl =>
          if pl.refCount - 1 = 0 then w.setPlayer p none
          else w.setPlayer p (some { pl with refCount := pl.refCount - 1 })

/-- `client_ref`. -/
def clientRef (w : World) (c : Nat) : World :=
  match w.clients c with
  | none => w
  | some cl => w.setClient c (some { cl with refCount := cl.refCount + 1 })

/-- `client_unref`: at zero the client's player reference is released and it is freed. -/
def clientUnref (w : World) (c : Nat) : World :=
  match w.clients c with
  | none => w
  | some cl =>
      if cl.refCount - 1 = 0 then (w.setClient c none).playerUnref cl.player
      else w.setClient c (some { cl with refCount := cl.refCount - 1 })

/-- `inv_ref`. -/
def invRef (w : World) (i : Nat) : World :=
  match w.invitations i with
  | none => w
  | some inv => w.setInvitation i (some { inv with refCount := inv.refCount + 1 })

/-- `inv_unref`: at zero the invitation releases its source and target and is freed with its
game. -/
def invUnref (w : World) (i : Nat) : World :=
  match w.invitations i with
  | none => w
  | some inv =>
      if inv.refCount - 1 = 0 then ((w.freeInvitation i).clientUnref inv.sender).clientUnref
        inv.recipient
      else w.setInvitation i (some { inv with refCount := inv.refCount - 1 })

/-! ## Invitations (`invitation.c`) -/

/-- `inv_create`: an OPEN invitation with count one, holding its source and target. -/
def invCreate (w : World) (source target : Nat) (sourceRole targetRole : GameRole) :
    Option Nat × World :=
  match w.alloc with
  | (none, w) => (none, w)
  | (some i, w) =>
      (some i, ((w.setInvitation i (some
        { refCount := 1, sender := source, recipient := target, sourceRole := sourceRole,
          targetRole := targetRole, game := none, state := .invOpenState })).clientRef
        source).clientRef target)

/-- `inv_accept`: OPEN becomes ACCEPTED, and then the game is allocated. When that
allocation fails the state stays ACCEPTED with no game, and the result is `-1`. -/
def invAccept (w : World) (i : Nat) : Int × World :=
  match w.invitations i with
  | none => (-1, w)
  | some inv =>
      if inv.state ≠ .invOpenState then (-1, w)
      else
        let w := w.setInvitation i (some { inv with state := .invAcceptedState })
        match w.attempt with
        | (.ok, w) =>
            (0, w.setInvitation i (some { inv with state := .invAcceptedState,
                                                   game := some gameCreate }))
        | (_, w) => (-1, w)

/-- `inv_close(inv, role)`: refused for `NULL_ROLE` while there is a game and for a CLOSED
invitation; an ACCEPTED invitation's game is resigned by `role`, and `game_resign`'s result is
not looked at. -/
def invClose (w : World) (i : Nat) (role : GameRole) : Int × World :=
  match w.invitations i with
  | none => (-1, w)
  | some inv =>
      if role = .nullRole ∧ inv.game.isSome then (-1, w)
      else if inv.state ≠ .invOpenState ∧ inv.state ≠ .invAcceptedState then (-1, w)
      else
        let game := if inv.state = .invAcceptedState
          then inv.game.map fun g => (gameResign g role).getD g else inv.game
        (0, w.setInvitation i (some { inv with game := game, state := .invClosedState }))

/-- `inv_get_source`. -/
def invGetSource (w : World) (i : Nat) : Option Nat := (w.invitations i).map (·.sender)

/-- `inv_get_target`. -/
def invGetTarget (w : World) (i : Nat) : Option Nat := (w.invitations i).map (·.recipient)

/-- `inv_get_game`. -/
def invGetGame (w : World) (i : Nat) : Option Game := (w.invitations i).bind (·.game)

/-- What a `GAME` pointer taken with `inv_get_game` reads later: the live game while its
invitation holds it, and once `inv_unref` has freed both, the contents the game last held.
(A game is freed only with its invitation: nothing else takes a reference to it.) -/
def readGame (w : World) (i : Nat) : Option Game :=
  match w.invitations i with
  | some inv => inv.game
  | none => w.freedGames i

/-! ## Clients (`client.c`) -/

/-- A client's invitation list (empty for a freed client). -/
def clientInvitations (w : World) (c : Nat) : InvitationList :=
  ((w.clients c).map (·.invitations)).getD .empty

/-- `client_get_player`: the player of a logged-in client. -/
def clientGetPlayer (w : World) (c : Nat) : Option Nat :=
  match w.clients c with
  | some cl => if cl.loggedIn then cl.player else none
  | none => none

/-- `player_get_name`. -/
def playerGetName (w : World) (p : Nat) : Option (List UInt8) := (w.players p).map (·.username)

/-- `client_add_invitation`: the new node's ID, or `-1` when the node's allocation fails. -/
def clientAddInvitation (w : World) (c inv : Nat) : Int × World :=
  match w.clients c, w.invitations inv with
  | some cl, some _ =>
      match w.attempt with
      | (.ok, w) =>
          (findLowestIdAvailalble cl.invitations.nodes,
            (w.setClient c (some { cl with invitations := cl.invitations.add inv })).invRef inv)
      | (_, w) => (-1, w)
  | _, _ => (-1, w)

/-- `client_remove_invitation`: the removed node's ID, or `-1` when `inv` is not listed. -/
def clientRemoveInvitation (w : World) (c inv : Nat) : Int × World :=
  match w.clients c with
  | none => (-1, w)
  | some cl =>
      match cl.invitations.findByInvitation inv with
      | none => (-1, w)
      | some node =>
          (node.id, (w.setClient c (some { cl with invitations := cl.invitations.remove inv
            })).invUnref inv)

/-- `client_send_packet`, through `proto_send_packet`. Every call is recorded as a `Write`;
it reaches the socket only when the client is live, the size agrees with the data pointer
(otherwise `proto_send_packet` refuses it with `errno` cleared) and the write succeeds. -/
def clientSendPacket (w : World) (c : Nat) (p : Packet) : Outcome × World :=
  let n := p.size % 65536
  let frame : Frame := ⟨p.type, p.id, p.role, if 0 < n then (p.data.getD []).take n else []⟩
  if (w.clients c).isNone ∨ (n = 0 ∧ p.data.isSome) ∨ (n ≠ 0 ∧ p.data.isNone) then
    (.failed, { w with writes := w.writes ++ [⟨c, frame, false⟩] })
  else
    match w.attempt with
    | (o, w) => (o, { w with writes := w.writes ++ [⟨c, frame, o = .ok⟩] })

/-- `player_post_result(player1, player2, result)`, recorded. -/
def playerPostResult (w : World) (player1 player2 : Option Nat) (result : Int) : World :=
  { w with results := w.results ++ [(player1, player2, result)] }

/-! ## Registries (`client_registry.c`, `player_registry.c`) -/

/-- `fd_already_used`, as a test: some registered client has this file descriptor. -/
def fdAlreadyUsed (w : World) (fd : Nat) : Bool :=
  w.registry.any fun c => (w.clients c).map (·.fd) == some fd

/-- `creg_register`: a new logged-out client with count one, at the head of the registry. -/
def cregRegister (w : World) (fd : Nat) : Option Nat × World :=
  if w.fdAlreadyUsed fd ∨ maxClients ≤ w.clientCount then (none, w)
  else
    match w.alloc with
    | (none, w) => (none, w)
    | (some c, w) =>
        (some c, { w.setClient c (some ⟨fd, 1, false, none, .empty⟩) with
                   registry := c :: w.registry, clientCount := w.clientCount + 1 })

/-- `creg_unregister`: `-1` when the client's descriptor is not registered; otherwise the
client's node is removed, the registry's reference released, and the barrier released when
the count reaches zero while a waiter is registered. -/
def cregUnregister (w : World) (c : Nat) : Int × World :=
  match w.clients c with
  | none => (-1, w)
  | some cl =>
      if !w.fdAlreadyUsed cl.fd then (-1, w)
      else
        let w := if c ∈ w.registry
          then { w with registry := w.registry.erase c, clientCount := w.clientCount - 1 } else w
        let w := w.clientUnref c
        (0, if w.clientCount = 0 ∧ w.pFlag = true then { w with semaphore := w.semaphore + 1 }
            else w)

/-- `creg_lookup(user)`: the first registered client logged in under the name, with its count
incremented. -/
def cregLookup (w : World) (user : Option (List UInt8)) : Option Nat × World :=
  match user with
  | none => (none, w)
  | some u =>
      match w.registry.find? (fun c => ((w.clientGetPlayer c).bind w.playerGetName) == some u) with
      | some c => (some c, w.clientRef c)
      | none => (none, w)

/-- `creg_all_players`: the players of the registered logged-in clients, at most
`MAX_CLIENTS`, each with its count incremented. -/
def cregAllPlayers (w : World) : List Nat × World :=
  let ps := (w.registry.filterMap w.clientGetPlayer).take maxClients
  (ps, ps.foldl (fun w p => w.playerRef (some p)) w)

/-- `check_if_other_clients_logged_in_with_same_player(name)` (and its copy
`check_if_other_clients_logged_in_with_same_name` in `server.c`): the snapshot's references
are released, and some player of it has the name. -/
def checkIfOtherClientsLoggedIn (w : World) (name : List UInt8) : Bool × World :=
  let (ps, w') := w.cregAllPlayers
  (ps.any fun p => w.playerGetName p == some name,
    ps.foldl (fun w p => w.playerUnref (some p)) w')

/-- `preg_register(name)`: the registered player of that name with its count incremented,
or a new player, rated `PLAYER_INITIAL_RATING` (1500, from the spec), registered with count
two. `player_create` allocates with `Malloc`, which
exits on failure; the registry node's allocation is checked. -/
def pregRegister (w : World) (name : List UInt8) : Option Nat × World :=
  match w.playerRegistry.find? (·.1 == name) with
  | some (_, p) => (some p, w.playerRef (some p))
  | none =>
      let p := w.nextAddr
      let w := { w with nextAddr := p + 1 }.setPlayer p (some ⟨name, 1500, 1⟩)
      match w.attempt with
      | (.ok, w) =>
          (some p, ({ w with playerRegistry := (name, p) :: w.playerRegistry }).playerRef (some p))
      | (_, w) => (none, w.playerUnref (some p))

end World

end JeuxServer
