import JeuxServer.Server.Accounting
import JeuxServer.Server.Shutdown
import JeuxServer.Server.PlayerNodes

/-!
# Reference counts of the players

A `PLAYER` is freed when its count reaches zero. Its pointers live in the player registry's
nodes, which no code removes, and in the `player` field of the clients logged in as it. The
field is released twice: `client_logout`, at the end of the client's service thread, releases
it once without clearing it, and `client_unref` releases it again when it frees the client.
The count is paid for at login: `preg_register` hands its caller a reference that the LOGIN
case never releases, and `client_login` takes one more.

`PlayersAccounted` is the accounting of these references, with `op` the references the running
code holds itself. The count of every player covers its registry nodes and the releases still
to come on the clients' pointers to it (`World.playerNeed`). Every operation keeps it and moves
`op` as the code says (`PlayersAccounted.pregRegister`, `PlayersAccounted.clientLogin`,
`PlayersAccounted.clientLogout`, ...), and so does each event of the server. Along every run,
no PLAYER that the player registry or a live client points to is freed
(`Server.run_players_accounted`). The counts may be higher than this: the references of failed
logins are never released. Shutting the server down is not an event of these runs:
`creg_shutdown_all` logs a client out once more than this accounting allows
(`Server.shutdownAll_logs_out_and_unregisters`).
-/

set_option autoImplicit false

namespace JeuxServer

open Finset

/-- A player's reference count, and zero once it is freed. -/
def playerRefs (x : Option Player) : Int :=
  match x with
  | some pl => pl.refCount
  | none => 0

/-- The `player_unref` calls still to come on a client's pointer to player `p`: the one
`client_unref` makes when it frees the client and, while the client is registered and logged
in, the one `client_logout` makes when its service thread ends. -/
def releasesOf (x : Option Client) (registered : Bool) (p : Nat) : Nat :=
  match x with
  | some cl => if cl.player = some p then (if cl.loggedIn && registered then 2 else 1) else 0
  | none => 0

/-- The references player `p`'s count has to cover: its player-registry nodes, and the
releases still to come on the live clients' pointers to it. -/
def World.playerNeed (w : World) (p : Nat) : Nat :=
  w.playerRegistry.countP (·.2 == p) +
    ∑ c ∈ range w.nextAddr, releasesOf (w.clients c) (decide (c ∈ w.registry)) p

/-- The accounting of the players, with `op` the references the running code holds itself. -/
structure PlayersAccounted (op : Nat → Int) (w : World) : Prop where
  /-- Nothing is allocated beyond the allocation frontier. -/
  fresh : ∀ a, w.nextAddr ≤ a → w.clients a = none ∧ w.players a = none
  players : ∀ p, (w.playerNeed p : Int) + op p ≤ playerRefs (w.players p)

@[simp] theorem playerRefs_none : playerRefs none = 0 := rfl

@[simp] theorem releasesOf_none (r : Bool) (p : Nat) : releasesOf none r p = 0 := rfl

/-- A client's releases depend on its logged-in flag and player only. -/
theorem releasesOf_login {cl cl' : Client} (hl : cl'.login = cl.login) (r : Bool) (p : Nat) :
    releasesOf (some cl') r p = releasesOf (some cl) r p := by
  simp only [Client.login, Prod.mk.injEq] at hl
  simp [releasesOf, hl]

/-- `client_get_player` reads the logged-in flag and the player only. -/
theorem World.clientGetPlayer_of_login {w v : World} {c : Nat}
    (e : (v.clients c).map Client.login = (w.clients c).map Client.login) :
    v.clientGetPlayer c = w.clientGetPlayer c := by
  unfold clientGetPlayer
  cases hv : v.clients c <;> cases hw : w.clients c <;> simp_all [Client.login]

/-- `player_ref` changes no pointer to a player. -/
theorem World.playerNeed_playerRef (w : World) (x : Option Nat) :
    (w.playerRef x).playerNeed = w.playerNeed := by
  have hk := World.heapKept_playerRef w x
  funext p
  simp only [World.playerNeed, hk.clients, hk.registry, hk.nextAddr, World.playerRef_playerRegistry]

/-- A new player-registry node is one more pointer to its player. -/
theorem World.playerNeed_pregCons (w : World) (n : List UInt8) (p q : Nat) :
    ({ w with playerRegistry := (n, p) :: w.playerRegistry } : World).playerNeed q =
      w.playerNeed q + if p = q then 1 else 0 := by
  simp only [World.playerNeed, List.countP_cons, beq_iff_eq]; omega

/-- A player-registry node is one of the pointers to its player. -/
theorem World.one_le_playerNeed {w : World} {n : List UInt8} {p : Nat}
    (hm : (n, p) ∈ w.playerRegistry) : 1 ≤ w.playerNeed p := by
  have : 0 < w.playerRegistry.countP (·.2 == p) := List.countP_pos_iff.2 ⟨_, hm, by simp⟩
  unfold World.playerNeed; omega

namespace PlayersAccounted

variable {op : Nat → Int} {w v : World}

/-! ## What the invariant gives -/

theorem lt_of_client (h : PlayersAccounted op w) {c : Nat} {cl : Client}
    (hc : w.clients c = some cl) : c < w.nextAddr :=
  Nat.lt_of_not_le fun hle => by simp [(h.fresh c hle).1] at hc

/-- A player whose count must cover more than the running code owes is allocated. -/
theorem player_isSome (h : PlayersAccounted op w) {p : Nat} (hp : 0 < (w.playerNeed p : Int) + op p) :
    (w.players p).isSome := by
  have := h.players p
  cases hw : w.players p <;> simp_all
  omega

theorem lt_of_player (h : PlayersAccounted op w) {p : Nat} (hp : (w.players p).isSome) :
    p < w.nextAddr :=
  Nat.lt_of_not_le fun hle => by simp [(h.fresh p hle).2] at hp

/-! ## Changing the invariant's data -/

theorem mono (h : PlayersAccounted op w) {op' : Nat → Int} (ho : ∀ p, op' p ≤ op p) :
    PlayersAccounted op' w :=
  ⟨h.fresh, fun p => (add_le_add_left (ho p) _).trans (h.players p)⟩

/-- A world with the same clients, players, registries and frontier keeps the invariant. -/
theorem of_eq (h : PlayersAccounted op w) (hc : v.clients = w.clients)
    (hp : v.players = w.players) (hr : v.registry = w.registry)
    (hpr : v.playerRegistry = w.playerRegistry) (ha : v.nextAddr = w.nextAddr) :
    PlayersAccounted op v := by
  have need : v.playerNeed = w.playerNeed := by
    funext p; simp only [World.playerNeed, hc, hr, hpr, ha]
  exact ⟨fun a hle => by rw [hc, hp]; exact h.fresh a (ha ▸ hle),
    fun p => by rw [need, hp]; exact h.players p⟩

/-- Moving the frontier past a free address. -/
theorem grow (h : PlayersAccounted op w) :
    PlayersAccounted op { w with nextAddr := w.nextAddr + 1 } := by
  have hc := (h.fresh w.nextAddr le_rfl).1
  refine ⟨fun a hle => h.fresh a (by simp at hle; omega), fun p => ?_⟩
  simpa [World.playerNeed, sum_range_succ, hc] using h.players p

/-- A write to one client: the change in the releases on its player pointer moves into the
running code's references. -/
theorem setClient (h : PlayersAccounted op w) {c : Nat} (hc : c < w.nextAddr)
    (x : Option Client) :
    PlayersAccounted (fun p => op p + releasesOf (w.clients c) (decide (c ∈ w.registry)) p -
      releasesOf x (decide (c ∈ w.registry)) p) (w.setClient c x) := by
  refine ⟨fun a hle => ?_, fun p => ?_⟩
  · have ha : a ≠ c := by rintro rfl; exact absurd hle (Nat.not_le.2 hc)
    simpa [World.setClient, Function.update_noteq ha] using h.fresh a hle
  · have hs := sum_range_write (f := fun d => releasesOf (w.clients d) (decide (d ∈ w.registry)) p)
      (g := fun d => releasesOf ((w.setClient c x).clients d) (decide (d ∈ w.registry)) p) hc
      (fun j hj => by simp [World.setClient, Function.update_noteq hj])
    have := h.players p
    simp only [World.setClient, Function.update_same] at hs
    simp only [World.playerNeed, World.setClient] at this ⊢
    omega

/-- A write to a client that keeps its logged-in flag and player. -/
theorem setClient_login (h : PlayersAccounted op w) {c : Nat} {cl cl' : Client}
    (e : w.clients c = some cl) (hl : cl'.login = cl.login) :
    PlayersAccounted op (w.setClient c (some cl')) :=
  (h.setClient (h.lt_of_client e) _).mono fun p => by simp [e, releasesOf_login hl]

/-- A write to one player: the change in its count moves into the running code's
references. -/
theorem setPlayer (h : PlayersAccounted op w) {p : Nat} (hp : p < w.nextAddr) (x : Option Player) :
    PlayersAccounted (fun q => if q = p then op q + playerRefs x - playerRefs (w.players p) else op q)
      (w.setPlayer p x) := by
  refine ⟨fun a hle => ?_, fun q => ?_⟩
  · have ha : a ≠ p := by rintro rfl; exact absurd hle (Nat.not_le.2 hp)
    simpa [World.setPlayer, Function.update_noteq ha] using h.fresh a hle
  · have := h.players q
    rw [show (w.setPlayer p x).playerNeed q = w.playerNeed q from rfl]
    by_cases e : q = p
    · subst e; simp only [World.setPlayer, Function.update_same, eq_self_iff_true, if_true]; omega
    · simpa [World.setPlayer, Function.update_noteq e, e] using this

/-- A new node at the head of the player registry is paid by a reference of the running
code. -/
theorem pregCons (h : PlayersAccounted op w) (name : List UInt8) (p : Nat) :
    PlayersAccounted (fun q => op q - if q = p then 1 else 0)
      { w with playerRegistry := (name, p) :: w.playerRegistry } := by
  refine ⟨h.fresh, fun q => ?_⟩
  have := h.players q
  simp only [World.playerNeed, List.countP_cons, beq_iff_eq] at this ⊢
  split_ifs <;> omega

/-- A client at the head of the registry adds no release when it points to no player. -/
theorem registerCons (h : PlayersAccounted op w) {c : Nat} (hc : (w.clients c).bind (·.player) = none)
    (n : Nat) : PlayersAccounted op { w with registry := c :: w.registry, clientCount := n } := by
  have need : ∀ p, ({ w with registry := c :: w.registry, clientCount := n } : World).playerNeed p =
      w.playerNeed p := fun p => by
    refine congrArg _ (sum_congr rfl fun d _ => ?_)
    by_cases e : d = c
    · subst e
      cases hd : w.clients d <;> simp_all [releasesOf]
    · simp [e]
  exact ⟨h.fresh, fun p => by rw [need]; exact h.players p⟩

/-- Taking a client out of a registry that holds it once: the release `client_logout` would
have made on its player pointer is no longer to come. -/
theorem unregister (h : PlayersAccounted op w) {c : Nat} (hc : c ∈ w.registry)
    (hnd : w.registry.Nodup) {cl : Client} (e : w.clients c = some cl) (n : Nat) :
    PlayersAccounted (fun p => op p + if w.clientGetPlayer c = some p then 1 else 0)
      { w with registry := w.registry.erase c, clientCount := n } := by
  refine ⟨h.fresh, fun p => ?_⟩
  have hs := sum_range_write
    (f := fun d => releasesOf (w.clients d) (decide (d ∈ w.registry)) p)
    (g := fun d => releasesOf (w.clients d) (decide (d ∈ w.registry.erase c)) p) (h.lt_of_client e)
    (fun j hj => by simp [List.mem_erase_of_ne hj])
  have hf : releasesOf (w.clients c) (decide (c ∈ w.registry)) p = releasesOf (some cl) true p := by
    rw [e, decide_eq_true hc]
  have hg : releasesOf (w.clients c) (decide (c ∈ w.registry.erase c)) p =
      releasesOf (some cl) false p := by
    rw [e, decide_eq_false hnd.not_mem_erase]
  have hd : releasesOf (some cl) true p =
      releasesOf (some cl) false p + if w.clientGetPlayer c = some p then 1 else 0 := by
    rw [World.clientGetPlayer, e]
    cases hl : cl.loggedIn <;> by_cases hp : cl.player = some p <;> simp [releasesOf, hl, hp]
  have := h.players p
  dsimp only at hs
  rw [hf, hg] at hs
  simp only [World.playerNeed] at this ⊢
  split_ifs at hd ⊢ <;> omega

/-! ## Operations that leave the players alone -/

theorem attempt (h : PlayersAccounted op w) : PlayersAccounted op w.attempt.2 := by
  unfold World.attempt; split <;> exact h.of_eq rfl rfl rfl rfl rfl

theorem of_pair {α : Type} {p : α × World} (h : PlayersAccounted op p.2) {a : α}
    (e : p = (a, v)) : PlayersAccounted op v := by
  subst e; exact h

theorem of_attempt (h : PlayersAccounted op w) {o : Outcome} (e : w.attempt = (o, v)) :
    PlayersAccounted op v :=
  h.attempt.of_pair e

theorem setInvitation (h : PlayersAccounted op w) (i : Nat) (x : Option Invitation) :
    PlayersAccounted op (w.setInvitation i x) :=
  h.of_eq rfl rfl rfl rfl rfl

theorem freeInvitation (h : PlayersAccounted op w) (i : Nat) :
    PlayersAccounted op (w.freeInvitation i) :=
  h.of_eq rfl rfl rfl rfl rfl

theorem playerPostResult (h : PlayersAccounted op w) (p q : Option Nat) (r : Int) :
    PlayersAccounted op (w.playerPostResult p q r) :=
  h.of_eq rfl rfl rfl rfl rfl

theorem clientSendPacket (h : PlayersAccounted op w) (c : Nat) (p : Packet) :
    PlayersAccounted op (w.clientSendPacket c p).2 := by
  unfold World.clientSendPacket; dsimp only
  split_ifs <;> first
    | exact h.of_eq rfl rfl rfl rfl rfl | exact h.attempt.of_eq rfl rfl rfl rfl rfl

theorem clientSendAck (h : PlayersAccounted op w) (c : Nat) (d : Option (List UInt8)) (n : Nat) :
    PlayersAccounted op (w.clientSendAck c d n) := by
  unfold World.clientSendAck; split <;> rename_i e
  · exact (h.of_attempt e).clientSendPacket _ _
  · exact h.of_attempt e

theorem clientSendNack (h : PlayersAccounted op w) (c : Nat) :
    PlayersAccounted op (w.clientSendNack c) := by
  unfold World.clientSendNack; split <;> rename_i e
  · exact (h.of_attempt e).clientSendPacket _ _
  · exact h.of_attempt e

theorem alloc (h : PlayersAccounted op w) : PlayersAccounted op w.alloc.2 := by
  unfold World.alloc; split <;> rename_i e
  · exact (h.of_attempt e).grow
  · exact h.of_attempt e

theorem of_alloc (h : PlayersAccounted op w) {x : Option Nat} (e : w.alloc = (x, v)) :
    PlayersAccounted op v :=
  h.alloc.of_pair e

/-! ## Reference counts -/

/-- `player_ref` of an allocated player adds a reference of the running code. -/
theorem playerRef (h : PlayersAccounted op w) {x : Option Nat}
    (hx : ∀ p, x = some p → (w.players p).isSome) :
    PlayersAccounted (fun q => op q + if x = some q then 1 else 0) (w.playerRef x) := by
  unfold World.playerRef
  split
  · simpa using h
  · rename_i p
    split
    · rename_i e; exact absurd (hx p rfl) (by simp [e])
    · rename_i pl e
      refine (h.setPlayer (h.lt_of_player (p := p) (by simp [e])) _).mono fun q => ?_
      simp only [e, playerRefs, Option.some.injEq]; split_ifs <;> omega

/-- `player_unref` spends a reference of the running code. -/
theorem playerUnref (h : PlayersAccounted op w) (x : Option Nat) :
    PlayersAccounted (fun q => op q - if x = some q then 1 else 0) (w.playerUnref x) := by
  unfold World.playerUnref
  split
  · simpa using h
  · rename_i p
    split
    · exact h.mono fun q => by split_ifs <;> omega
    · rename_i pl e
      have hp := h.lt_of_player (p := p) (by simp [e])
      split
      · refine (h.setPlayer hp none).mono fun q => ?_
        simp only [e, playerRefs, Option.some.injEq]; split_ifs <;> omega
      · refine (h.setPlayer hp _).mono fun q => ?_
        simp only [e, playerRefs, Option.some.injEq]; split_ifs <;> omega

theorem clientRef (h : PlayersAccounted op w) (c : Nat) : PlayersAccounted op (w.clientRef c) := by
  unfold World.clientRef; split
  · exact h
  · rename_i cl e; exact h.setClient_login e rfl

/-- `client_unref` that frees a client makes the release `client_unref` owes on its player
pointer. -/
theorem clientUnref (h : PlayersAccounted op w) (c : Nat) :
    PlayersAccounted op (w.clientUnref c) := by
  unfold World.clientUnref
  split
  · exact h
  · rename_i cl e
    split
    · refine ((h.setClient (h.lt_of_client e) none).playerUnref cl.player).mono fun p => ?_
      simp only [e, releasesOf, releasesOf_none]
      split_ifs <;> omega
    · exact h.setClient_login e rfl

theorem invRef (h : PlayersAccounted op w) (i : Nat) : PlayersAccounted op (w.invRef i) := by
  unfold World.invRef; split
  · exact h
  · exact h.setInvitation _ _

theorem invUnref (h : PlayersAccounted op w) (i : Nat) : PlayersAccounted op (w.invUnref i) := by
  unfold World.invUnref
  (repeat' split) <;> apply_rules [PlayersAccounted.clientUnref, PlayersAccounted.setInvitation,
    PlayersAccounted.freeInvitation]

/-! ## Invitations and lists -/

theorem invCreate (h : PlayersAccounted op w) (s t : Nat) (sr tr : GameRole) :
    PlayersAccounted op (w.invCreate s t sr tr).2 := by
  unfold World.invCreate
  split <;> rename_i e
  · exact h.of_alloc e
  · exact (((h.of_alloc e).setInvitation _ _).clientRef s).clientRef t

theorem invAccept (h : PlayersAccounted op w) (i : Nat) : PlayersAccounted op (w.invAccept i).2 := by
  unfold World.invAccept
  (repeat' (first | split | dsimp only)) <;> (try simp only [World.pair_eq_iff] at *) <;>
    (try casesm* _ ∧ _) <;> subst_vars <;>
    apply_rules [PlayersAccounted.setInvitation, PlayersAccounted.attempt]

theorem invClose (h : PlayersAccounted op w) (i : Nat) (r : GameRole) :
    PlayersAccounted op (w.invClose i r).2 := by
  unfold World.invClose
  (repeat' (first | split | dsimp only)) <;> apply_rules [PlayersAccounted.setInvitation]

theorem clientAddInvitation (h : PlayersAccounted op w) (c inv : Nat) :
    PlayersAccounted op (w.clientAddInvitation c inv).2 := by
  unfold World.clientAddInvitation
  split
  · rename_i cl x e ei
    split <;> rename_i e1
    · obtain rfl : _ = w.attempt.2 := by rw [e1]
      have e' : w.attempt.2.clients c = some cl := by rw [World.attempt_clients]; exact e
      have h1 : PlayersAccounted op (w.attempt.2.setClient c
          (some { cl with invitations := cl.invitations.add inv })) := h.attempt.setClient_login e' rfl
      exact h1.invRef inv
    · exact h.of_attempt e1
  · exact h

theorem clientRemoveInvitation (h : PlayersAccounted op w) (c inv : Nat) :
    PlayersAccounted op (w.clientRemoveInvitation c inv).2 := by
  unfold World.clientRemoveInvitation
  split
  · exact h
  · rename_i cl e
    split
    · exact h
    · have h1 : PlayersAccounted op (w.setClient c
          (some { cl with invitations := cl.invitations.remove inv })) := h.setClient_login e rfl
      exact h1.invUnref inv

/-! ## The client operations -/

theorem clientMakeInvitation (h : PlayersAccounted op w) (s t : Nat) (sr tr : GameRole) :
    PlayersAccounted op (w.clientMakeInvitation s t sr tr).2 := by
  unfold World.clientMakeInvitation
  (repeat' (first | split | dsimp only)) <;> (try simp only [World.pair_eq_iff] at *) <;>
    (try casesm* _ ∧ _) <;> subst_vars <;>
    apply_rules [PlayersAccounted.invCreate, PlayersAccounted.clientAddInvitation,
      PlayersAccounted.invUnref, PlayersAccounted.clientSendPacket]

/-- The accounting is kept by the steps of the invitation calls. -/
theorem callsKeep : World.CallsKeep (PlayersAccounted op) :=
  ⟨attempt, clientSendPacket, clientRemoveInvitation, playerPostResult, invAccept, invClose,
    fun h _ _ _ _ _ _ _ _ _ _ _ => h.setInvitation _ _⟩

theorem cregLookup (h : PlayersAccounted op w) (u : Option (List UInt8)) :
    PlayersAccounted op (w.cregLookup u).2 := by
  rcases World.cregLookup_cases w u with e | ⟨c, -, e⟩ <;> rw [e]
  exacts [h, h.clientRef c]

/-! ## The players -/

/-- A client that is registered and logged in as `p` is owed two releases on its pointer. -/
theorem two_le_need (h : PlayersAccounted op w) {c p : Nat} (hc : c ∈ w.registry)
    (e : w.clientGetPlayer c = some p) : 2 ≤ w.playerNeed p := by
  unfold World.clientGetPlayer at e
  split at e
  · rename_i cl ec
    split_ifs at e with hl
    have hr : releasesOf (w.clients c) (decide (c ∈ w.registry)) p = 2 := by
      simp [ec, releasesOf, e, hl, hc]
    have := le_sum_range (f := fun d => releasesOf (w.clients d) (decide (d ∈ w.registry)) p)
      (h.lt_of_client ec)
    dsimp only at this
    rw [hr] at this
    unfold World.playerNeed; omega
  · simp at e

/-- The references `creg_all_players` takes, one for each player of its snapshot. -/
theorem foldl_playerRef (h : PlayersAccounted op w) (hop : ∀ q, 0 ≤ op q) (ps : List Nat)
    (hs : ∀ p ∈ ps, 0 < w.playerNeed p) :
    PlayersAccounted (fun q => op q + ps.count q) (ps.foldl (fun w p => w.playerRef (some p)) w) := by
  induction ps generalizing op w with
  | nil => simpa using h
  | cons p ps ih =>
      have hp : (w.players p).isSome := h.player_isSome (by
        have := hs p (List.mem_cons_self _ _); have := hop p; omega)
      have h1 := h.playerRef (x := some p) fun q hq => by cases hq; exact hp
      refine (ih h1 (fun q => by have := hop q; split_ifs <;> omega) fun q hq => ?_).mono
        fun q => ?_
      · rw [World.playerNeed_playerRef]; exact hs q (List.mem_cons_of_mem _ hq)
      · simp only [List.count_cons, beq_iff_eq, Option.some.injEq]; split_ifs <;> omega

theorem foldl_playerUnref (h : PlayersAccounted op w) (ps : List Nat) :
    PlayersAccounted (fun q => op q - ps.count q)
      (ps.foldl (fun w p => w.playerUnref (some p)) w) := by
  induction ps generalizing op w with
  | nil => simpa using h
  | cons p ps ih =>
      refine (ih (h.playerUnref (some p))).mono fun q => ?_
      simp only [List.count_cons, beq_iff_eq, Option.some.injEq]; split_ifs <;> omega

/-- The USERS loop releases the snapshot's references, one for each player. -/
theorem usersLines (h : PlayersAccounted op w) (ps : List Nat) :
    PlayersAccounted (fun q => op q - ps.count q) (w.usersLines ps).1 := by
  induction ps generalizing op w with
  | nil => simpa using h
  | cons p ps ih =>
      refine (ih (h.playerUnref (some p))).mono fun q => ?_
      simp only [List.count_cons, beq_iff_eq, Option.some.injEq]; split_ifs <;> omega

theorem cregAllPlayers (h : PlayersAccounted op w) (hop : ∀ q, 0 ≤ op q) :
    PlayersAccounted (fun q => op q + w.cregAllPlayers.1.count q) w.cregAllPlayers.2 :=
  h.foldl_playerRef hop _ fun p hp => by
    obtain ⟨c, hc, e⟩ := List.mem_filterMap.1 (List.mem_of_mem_take hp)
    have := h.two_le_need hc e; omega

theorem checkIfOtherClientsLoggedIn (h : PlayersAccounted op w) (hop : ∀ q, 0 ≤ op q)
    (name : List UInt8) : PlayersAccounted op (w.checkIfOtherClientsLoggedIn name).2 :=
  ((h.cregAllPlayers hop).foldl_playerUnref w.cregAllPlayers.1).mono fun q => by omega

/-- The USERS case: the snapshot's references are taken, then released by the loop. -/
theorem cregAllPlayers_usersLines (h : PlayersAccounted op w) (hop : ∀ q, 0 ≤ op q) :
    PlayersAccounted op (w.cregAllPlayers.2.usersLines w.cregAllPlayers.1).1 :=
  ((h.cregAllPlayers hop).usersLines _).mono fun q => by simp

/-- `preg_register` hands its caller a reference to the player it returns: an existing
player's count is incremented, and a new player is created with count one, which its
registry node takes, and incremented. -/
theorem pregRegister (h : PlayersAccounted op w) (hop : ∀ q, 0 ≤ op q) (name : List UInt8) :
    PlayersAccounted (fun q => op q + if (w.pregRegister name).1 = some q then 1 else 0)
      (w.pregRegister name).2 := by
  unfold World.pregRegister
  split
  · rename_i n p hf
    refine h.playerRef fun q hq => ?_
    cases hq
    have := World.one_le_playerNeed (List.mem_of_find?_eq_some hf)
    exact h.player_isSome (by have := hop p; omega)
  · dsimp only
    have hp : w.players w.nextAddr = none := (h.fresh _ le_rfl).2
    have h1 : PlayersAccounted (fun q => op q + if q = w.nextAddr then 1 else 0)
        ({ w with nextAddr := w.nextAddr + 1 }.setPlayer w.nextAddr (some ⟨name, 1500, 1⟩)) :=
      (h.grow.setPlayer (Nat.lt_succ_self _) _).mono fun q => by
        dsimp only; rw [hp]; simp only [playerRefs]; split_ifs <;> omega
    split <;> rename_i e <;> dsimp only
    · have h2 := (h1.of_attempt e).pregCons name w.nextAddr
      refine (h2.playerRef fun q hq => h2.player_isSome ?_).mono fun q => ?_
      · cases hq
        rw [World.playerNeed_pregCons]
        have := hop w.nextAddr
        simp only [if_true]; omega
      · simp only [Option.some.injEq]; split_ifs <;> omega
    · refine ((h1.of_attempt e).playerUnref _).mono fun q => ?_
      simp only [Option.some.injEq, reduceCtorEq, if_false]; split_ifs <;> omega

/-- `client_login` takes its own reference to the player, and pays with it and with the
caller's for the two releases the logged-in client's pointer is owed. -/
theorem clientLogin {player : Option Nat}
    (h : PlayersAccounted (fun q => if player = some q then 1 else 0) w) (c : Nat) :
    PlayersAccounted 0 (w.clientLogin c player).2 := by
  have own : ∀ q, (0 : Nat → Int) q ≤ if player = some q then 1 else 0 := fun q => by
    simp only [Pi.zero_apply]; split_ifs <;> omega
  unfold World.clientLogin
  split
  · exact h.mono own
  · rename_i cl e
    split_ifs
    · exact h.mono own
    · have hk := World.heapKept_checkIfOtherClientsLoggedIn w ((player.bind w.playerGetName).getD [])
      have h1 := h.checkIfOtherClientsLoggedIn (fun q => by split_ifs <;> omega)
        ((player.bind w.playerGetName).getD [])
      split <;> rename_i e1 <;> rw [e1] at hk h1 <;> dsimp only at hk h1
      · exact h1.mono own
      · have e' := hk.clients ▸ e
        refine ((h1.setClient (h1.lt_of_client e') _).playerRef fun q hq =>
          h1.player_isSome (by simp [hq])).mono fun q => ?_
        simp only [e', releasesOf, Pi.zero_apply]; split_ifs <;> omega

/-- The LOGIN case keeps the accounting with nothing owed: `client_login`, when it runs, uses
the reference `preg_register` returned. -/
theorem loginRequest (h : PlayersAccounted 0 w) (c : Nat) (name : List UInt8) :
    PlayersAccounted 0 (w.loginRequest c name).1 := by
  have h1 := h.checkIfOtherClientsLoggedIn (fun _ => le_rfl) name
  unfold World.loginRequest
  split <;> rename_i e1 <;> rw [e1] at h1 <;> dsimp only at h1
  · exact h1.clientSendNack c
  · split
    rename_i player v e2
    have h2 := h1.pregRegister (fun _ => le_rfl) name
    rw [e2] at h2
    have h3 : PlayersAccounted (fun q => if player = some q then 1 else 0) v :=
      h2.mono fun q => by simp
    have h4 := h3.clientLogin c
    split <;> rename_i e3 <;> rw [e3] at h4
    · exact h4.clientSendAck c none 0
    · exact h4.clientSendNack c

end PlayersAccounted

namespace Server

/-- Alice logs in: her player's count is 3, for its player-registry node and one logged-in
session. Bob then invites her with the role byte 0 and her connection ends: no session is
logged in as alice, and her player's count is 2. -/
theorem login_player_count :
    aliceLoggedIn.world.playerRegistry = [(ascii "alice", 2)] ∧
      aliceLoggedIn.sessions.map (·.loggedIn) = [true, false] ∧
      (aliceLoggedIn.world.players 2).map (·.refCount) = some 3 ∧
      ((badRoleInvite 1 "alice").run [.hangup 0]).world.playerRegistry =
        [(ascii "bob", 3), (ascii "alice", 2)] ∧
      ((badRoleInvite 1 "alice").run [.hangup 0]).sessions.map (·.client) = [1] ∧
      (((badRoleInvite 1 "alice").run [.hangup 0]).world.players 2).map (·.refCount) =
        some 2 := by
  decide

end Server

namespace PlayersAccounted

variable {op : Nat → Int} {w v : World}

/-- `client_logout` of a logged-in client makes the release it owes on the client's player
pointer. -/
theorem clientLogout (h : PlayersAccounted op w) (c : Nat) :
    PlayersAccounted (fun p => op p - if w.clientGetPlayer c = some p then 1 else 0)
      (w.clientLogout c).2 := by
  unfold World.clientLogout
  split
  · rename_i e; exact h.mono fun p => by simp [World.clientGetPlayer, e]
  · rename_i cl e
    split
    · rename_i hl; exact h.mono fun p => by simp_all [World.clientGetPlayer]
    · rename_i hl
      have hg : w.clientGetPlayer c = cl.player := by simp_all [World.clientGetPlayer]
      rw [hg]
      exact callsKeep.foldl_logoutStep c _ (h.playerUnref cl.player)

/-! ## The client registry -/

/-- `creg_register` registers a new client, which points to no player. -/
theorem cregRegister (h : PlayersAccounted op w) (fd : Nat) :
    PlayersAccounted op (w.cregRegister fd).2 := by
  unfold World.cregRegister
  split_ifs
  · exact h
  · split <;> rename_i e
    · exact h.of_alloc e
    · obtain ⟨rfl, rfl⟩ := World.alloc_some e
      have hc := (h.attempt.fresh _ le_rfl).1
      refine ((h.attempt.grow.setClient (Nat.lt_succ_self _) _).mono fun p => ?_).registerCons
        (by simp [World.setClient]) _
      simp [hc, releasesOf]

/-- `creg_unregister` of a client registered once: the release `client_logout` owed on its
player pointer is no longer to come. -/
theorem cregUnregister (h : PlayersAccounted op w) {c : Nat} (hc : c ∈ w.registry)
    (hnd : w.registry.Nodup) (hs : (w.clients c).isSome) :
    PlayersAccounted (fun p => op p + if w.clientGetPlayer c = some p then 1 else 0)
      (w.cregUnregister c).2 := by
  obtain ⟨cl, e⟩ := Option.isSome_iff_exists.1 hs
  have hfd : w.fdAlreadyUsed cl.fd = true := List.any_eq_true.2 ⟨c, hc, by simp [e]⟩
  have h1 := (h.unregister hc hnd e (w.clientCount - 1)).clientUnref c
  unfold World.cregUnregister
  rw [e]; dsimp only
  rw [if_neg (by simp [hfd]), if_pos hc]
  split_ifs
  · exact h1.of_eq rfl rfl rfl rfl rfl
  · exact h1

/-! ## The service loop -/

/-- The handling of one packet keeps the accounting with nothing owed. -/
theorem jeuxClientService (h : PlayersAccounted 0 w) (s : Session) (pkt : InPacket) :
    PlayersAccounted 0 (JeuxServer.jeuxClientService w s pkt).1 := by
  have K : World.CallsKeep (PlayersAccounted 0) := callsKeep
  have nack := h.clientSendNack s.client
  have answer : ∀ {r : Int × World}, PlayersAccounted 0 r.2 →
      PlayersAccounted 0 (match r with
        | (-1, w) => (w.clientSendNack s.client, s)
        | (_, w) => (w.clientSendAck s.client none 0, s)).1 := fun h1 => by
    split
    exacts [h1.clientSendNack _, h1.clientSendAck _ _ _]
  unfold JeuxServer.jeuxClientService
  dsimp only
  split
  case h_1 =>
    split
    · have h1 := h.loginRequest s.client (cString ((pkt.payload.getD []).take pkt.size))
      split <;> rename_i e <;> rw [e] at h1 <;> exact h1
    · exact nack
  case h_2 =>
    have h1 := h.cregAllPlayers_usersLines fun _ => le_rfl
    split
    · exact nack
    · split <;> rename_i e
      exacts [(h1.of_attempt e).clientSendAck _ _ _, (h1.of_attempt e).clientSendNack _]
  case h_3 =>
    have h1 := h.cregLookup (pkt.payload.map cString)
    split
    · exact nack
    · split <;> rename_i e <;> replace h1 := h1.of_pair e
      · exact h1.clientSendNack _
      · split_ifs
        · exact (h1.clientUnref _).clientSendNack _
        all_goals first
          | exact h1.clientSendNack _
          | dsimp only
            split <;> rename_i e2
            · exact (h1.clientMakeInvitation _ _ _ _ |>.of_pair e2).clientSendNack _
            · exact ((h1.clientMakeInvitation _ _ _ _ |>.of_pair e2).clientUnref _).clientSendPacket
                _ _
  case h_6 =>
    have h1 := K.clientAcceptInvitation h s.client pkt.id.toNat
    split
    · exact nack
    · split <;> rename_i e
      exacts [(h1.of_pair e).clientSendNack _, (h1.of_pair e).clientSendPacket _ _]
  case h_9 => exact h
  all_goals split
  all_goals try exact nack
  case h_4.isFalse => exact answer (K.clientRevokeInvitation h _ _)
  case h_5.isFalse => exact answer (K.clientDeclineInvitation h _ _)
  case h_7.isFalse => exact answer (K.clientMakeMove h _ _ _)
  case h_8.isFalse => exact answer (K.clientResignGame h _ _)

/-- The end of a connection: `client_logout` makes its release on the client's player pointer,
and `creg_unregister`, taking the client out of the registry, ends the need for it. -/
theorem serviceExit (h : PlayersAccounted 0 w) {s : Session}
    (hc : s.client ∈ (w.clientLogout s.client).2.registry)
    (hnd : (w.clientLogout s.client).2.registry.Nodup)
    (hs : ((w.clientLogout s.client).2.clients s.client).isSome) :
    PlayersAccounted 0 (JeuxServer.serviceExit w s) := by
  have e := World.clientGetPlayer_of_login ((World.loginKept_clientLogout w s.client).login_eq hs)
  refine ((h.clientLogout s.client).cregUnregister hc hnd hs).mono fun p => ?_
  rw [e]; simp

/-! ## No dangling pointer to a player -/

/-- Every player the player registry holds is allocated. -/
theorem registered_isSome (h : PlayersAccounted 0 w) {n : List UInt8} {p : Nat}
    (hm : (n, p) ∈ w.playerRegistry) : (w.players p).isSome :=
  h.player_isSome (by have := World.one_le_playerNeed hm; simp; omega)

/-- The player of every live client is allocated. -/
theorem pointed_isSome (h : PlayersAccounted 0 w) {c : Nat} {cl : Client}
    (e : w.clients c = some cl) {p : Nat} (hp : cl.player = some p) : (w.players p).isSome := by
  refine h.player_isSome ?_
  have := le_sum_range (f := fun d => releasesOf (w.clients d) (decide (d ∈ w.registry)) p)
    (h.lt_of_client e)
  have hr : 1 ≤ releasesOf (w.clients c) (decide (c ∈ w.registry)) p := by
    simp only [e, releasesOf, hp, if_true]; split_ifs <;> omega
  dsimp only at this
  simp only [World.playerNeed, Pi.zero_apply, add_zero]
  omega

end PlayersAccounted

namespace Server

/-- The server's invariant, with the players' accounting and nothing owed by a running
handler. -/
structure PlayersSafe (S : Server) : Prop where
  safe : Safe S
  players : PlayersAccounted 0 S.world

theorem playersSafe_init (os : List Outcome) : PlayersSafe (init os) :=
  ⟨safe_init os, fun _ _ => ⟨rfl, rfl⟩, fun _ => by simp [World.playerNeed, init, World.init]⟩

theorem PlayersSafe.step {S : Server} (h : PlayersSafe S) (e : Event) : PlayersSafe (S.step e) := by
  refine ⟨h.safe.step e, ?_⟩
  cases e with
  | connect fd =>
      have hp := h.players.cregRegister fd
      simp only [Server.step]
      split <;> rename_i heq <;> rw [heq] at hp <;> exact hp
  | packet k pkt =>
      simp only [Server.step]
      split
      · exact h.players.jeuxClientService _ pkt
      · exact h.players
  | hangup k =>
      simp only [Server.step]
      split
      · rename_i s hk
        have ha := h.safe.accounted.clientLogout s.client
        have hc := h.safe.mem hk
        exact h.players.serviceExit (ha.registry ▸ hc) (ha.registry ▸ h.safe.nodup)
          (ha.isSome_of_mem le_rfl hc)
      · exact h.players

theorem PlayersSafe.run {S : Server} (h : PlayersSafe S) : ∀ es, PlayersSafe (S.run es)
  | [] => h
  | e :: es => (h.step e).run es

/-- Along every run of the server's events, under any outcomes of the fallible steps, the count of every
PLAYER covers the pointers to it: its player-registry nodes and, for each live client pointing
to it, the `player_unref` that `client_unref` will make and, while the client is registered and
logged in, the one `client_logout` will make. So no pointer to a freed PLAYER remains: every
player the player registry holds, and the player of every live client, is allocated. -/
theorem run_players_accounted (os : List Outcome) (es : List Event) :
    (∀ p, (((init os).run es).world.playerNeed p : Int) ≤
      playerRefs (((init os).run es).world.players p)) ∧
    (∀ n p, (n, p) ∈ ((init os).run es).world.playerRegistry →
      (((init os).run es).world.players p).isSome) ∧
    (∀ c cl p, ((init os).run es).world.clients c = some cl → cl.player = some p →
      (((init os).run es).world.players p).isSome) := by
  have h := ((playersSafe_init os).run es).players
  exact ⟨fun p => by simpa using h.players p, fun n p hm => h.registered_isSome hm,
    fun c cl p e hp => h.pointed_isSome e hp⟩

end Server

end JeuxServer
