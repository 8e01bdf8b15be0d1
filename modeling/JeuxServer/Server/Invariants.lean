import JeuxServer.Server.Accounting

/-!
# Invariants kept by every event of the server

Some invariants of the `World` read only its clients, its invitations and its next address,
and are kept by every call that leaves these as they were. Such an invariant is kept by every
request as soon as it is kept by a few calls, which `World.RequestKeeps` lists: the steps of
the invitation calls (`CallsKeep`), every step that changes none of the heap's links
(`HeapKept`), `client_ref`, `client_unref`, `client_make_invitation`, and the registry's
`creg_register` and `creg_unregister`. From these, every case of `jeux_client_service` keeps
it but the LOGIN of a session not yet logged in, which is `World.loginRequest`
(`RequestKeeps.jeuxClientService`), and so does the end of a connection
(`RequestKeeps.serviceExit`).

`World.ServiceKeeps` adds the two calls of the LOGIN case, `preg_register` and
`client_login`; an invariant kept by them is kept by every event
(`ServiceKeeps.jeuxClientService`), hence by every run of the server (`Server.keeps_run`).
The reference accountings (`Accounted`, `PlayersAccounted`) are not of this kind: the
references a running call holds change their ghost part.

The invariants that say something of every live invitation (`InvsHold Q`) need less: a
property `Q` that reads only an invitation's state and game, and holds of what `inv_create`,
`inv_accept`, `inv_close` and a move write, is kept by every event (`InvsHold.serviceKeeps`).
-/

set_option autoImplicit false

namespace JeuxServer

namespace World

/-- The calls an invariant of the heap must be kept by to be kept by every request but a
LOGIN, and by the end of a connection. -/
structure RequestKeeps (P : World → Prop) : Prop where
  calls : CallsKeep P
  kept : ∀ {w v : World}, P w → HeapKept w v → P v
  clientRef : ∀ {w : World}, P w → ∀ c : Nat, P (w.clientRef c)
  clientUnref : ∀ {w : World}, P w → ∀ c : Nat, P (w.clientUnref c)
  /-- The INVITE case calls `client_make_invitation` only for a target other than the
  source. -/
  clientMakeInvitation : ∀ {w : World}, P w → ∀ (s t : Nat) (sr tr : GameRole), s ≠ t →
    P (w.clientMakeInvitation s t sr tr).2
  cregRegister : ∀ {w : World}, P w → ∀ fd : Nat, P (w.cregRegister fd).2
  cregUnregister : ∀ {w : World}, P w → ∀ c : Nat, P (w.cregUnregister c).2

/-- The calls an invariant of the heap must be kept by to be kept by every event: also the two
calls of the LOGIN case. -/
structure ServiceKeeps (P : World → Prop) extends RequestKeeps P : Prop where
  clientLogin : ∀ {w : World}, P w → ∀ (c : Nat) (p : Option Nat), P (w.clientLogin c p).2
  pregRegister : ∀ {w : World}, P w → ∀ name : List UInt8, P (w.pregRegister name).2

namespace RequestKeeps

variable {P : World → Prop} {w v : World}

theorem of_pair {α : Type} {p : α × World} (h : P p.2) {a : α} (e : p = (a, v)) : P v := by
  subst e; exact h

theorem clientSendAck (K : RequestKeeps P) (h : P w) (c : Nat) (d : Option (List UInt8))
    (n : Nat) : P (w.clientSendAck c d n) :=
  K.kept h (heapKept_clientSendAck w c d n)

theorem clientSendNack (K : RequestKeeps P) (h : P w) (c : Nat) : P (w.clientSendNack c) :=
  K.kept h (heapKept_clientSendNack w c)

theorem cregLookup (K : RequestKeeps P) (h : P w) (u : Option (List UInt8)) :
    P (w.cregLookup u).2 := by
  rcases cregLookup_cases w u with e | ⟨c, -, e⟩ <;> rw [e]
  exacts [h, K.clientRef h c]

/-- The snapshot of `creg_all_players` and the loop of the USERS case over it. -/
theorem usersLines (K : RequestKeeps P) (h : P w) :
    P (w.cregAllPlayers.2.usersLines w.cregAllPlayers.1).1 :=
  K.kept h ((heapKept_foldl_playerRef w _).trans (heapKept_usersLines _ _))

theorem clientLogout (K : RequestKeeps P) (h : P w) (c : Nat) : P (w.clientLogout c).2 := by
  unfold World.clientLogout
  split
  · exact h
  · split
    · exact h
    · exact K.calls.foldl_logoutStep c _ (K.kept h (heapKept_playerUnref _ _))

/-- The handling of one packet keeps the invariant, or is the LOGIN case of a session not yet
logged in. -/
theorem jeuxClientService (K : RequestKeeps P) (h : P w) (s : Session) (pkt : InPacket) :
    P (JeuxServer.jeuxClientService w s pkt).1 ∨
      (JeuxServer.jeuxClientService w s pkt).1 =
        (w.loginRequest s.client (cString ((pkt.payload.getD []).take pkt.size))).1 := by
  have nack := K.clientSendNack h s.client
  have answer : ∀ {r : Int × World}, P r.2 →
      P (match r with
        | (-1, w) => (w.clientSendNack s.client, s)
        | (_, w) => (w.clientSendAck s.client none 0, s)).1 := fun h1 => by
    split
    exacts [K.clientSendNack h1 _, K.clientSendAck h1 _ _ _]
  unfold JeuxServer.jeuxClientService
  dsimp only
  split
  case h_1 =>
    split
    · exact .inr (by split <;> rename_i e <;> rw [e])
    · exact .inl nack
  all_goals refine .inl ?_
  case h_2 =>
    have h1 := K.usersLines h
    split
    · exact nack
    · split <;> rename_i e
      exacts [K.clientSendAck (K.calls.of_attempt h1 e) _ _ _,
        K.clientSendNack (K.calls.of_attempt h1 e) _]
  case h_3 =>
    have h1 := K.cregLookup h (pkt.payload.map cString)
    split
    · exact nack
    · split <;> rename_i e <;> replace h1 := of_pair h1 e
      · exact K.clientSendNack h1 _
      · split_ifs with ht
        · exact K.clientSendNack (K.clientUnref h1 _) _
        all_goals first
          | exact K.clientSendNack h1 _
          | dsimp only
            split <;> rename_i e2
            · exact K.clientSendNack
                (of_pair (K.clientMakeInvitation h1 _ _ _ _ (Ne.symm ht)) e2) _
            · exact K.calls.clientSendPacket
                (K.clientUnref (of_pair (K.clientMakeInvitation h1 _ _ _ _ (Ne.symm ht)) e2) _) _ _
  case h_6 =>
    have h1 := K.calls.clientAcceptInvitation h s.client pkt.id.toNat
    split
    · exact nack
    · split <;> rename_i e
      exacts [K.clientSendNack (of_pair h1 e) _, K.calls.clientSendPacket (of_pair h1 e) _ _]
  case h_9 => exact h
  all_goals split
  all_goals try exact nack
  case h_4.isFalse => exact answer (K.calls.clientRevokeInvitation h _ _)
  case h_5.isFalse => exact answer (K.calls.clientDeclineInvitation h _ _)
  case h_7.isFalse => exact answer (K.calls.clientMakeMove h _ _ _)
  case h_8.isFalse => exact answer (K.calls.clientResignGame h _ _)

/-- The end of a connection: `client_logout`, then `creg_unregister`. -/
theorem serviceExit (K : RequestKeeps P) (h : P w) (s : Session) :
    P (JeuxServer.serviceExit w s) :=
  K.cregUnregister (K.clientLogout h s.client) s.client

end RequestKeeps

namespace ServiceKeeps

variable {P : World → Prop} {w : World}

theorem loginRequest (K : ServiceKeeps P) (h : P w) (c : Nat) (name : List UInt8) :
    P (w.loginRequest c name).1 := by
  have h1 := K.kept h (heapKept_checkIfOtherClientsLoggedIn w name)
  unfold World.loginRequest
  split <;> rename_i e1 <;> rw [e1] at h1
  · exact K.clientSendNack h1 c
  · split
    rename_i player v e2
    have h2 := RequestKeeps.of_pair (K.pregRegister h1 name) e2
    split <;> rename_i e3
    · exact K.clientSendAck (RequestKeeps.of_pair (K.clientLogin h2 c player) e3) c none 0
    · exact K.clientSendNack (RequestKeeps.of_pair (K.clientLogin h2 c player) e3) c

/-- The handling of one packet keeps the invariant. -/
theorem jeuxClientService (K : ServiceKeeps P) (h : P w) (s : Session) (pkt : InPacket) :
    P (JeuxServer.jeuxClientService w s pkt).1 :=
  (K.toRequestKeeps.jeuxClientService h s pkt).elim id fun e => e ▸ K.loginRequest h _ _

end ServiceKeeps

/-! ## Invariants of every live invitation -/

/-- Every live invitation has the property `Q`. -/
def InvsHold (Q : Invitation → Prop) (w : World) : Prop :=
  ∀ i inv, w.invitations i = some inv → Q inv

/-- A property of an invitation that reads only its state and its game, and that the writes of
`inv_create`, `inv_accept`, `inv_close` and of a move keep. The hypotheses of each field are
the tests the code makes before the write. -/
structure InvRules (Q : Invitation → Prop) : Prop where
  reads : ∀ {inv inv' : Invitation}, inv'.state = inv.state → inv'.game = inv.game → Q inv →
    Q inv'
  create : ∀ (s t : Nat) (sr tr : GameRole), Q ⟨1, s, t, sr, tr, none, .invOpenState⟩
  accept : ∀ {inv : Invitation}, Q inv → inv.state = .invOpenState →
    Q { inv with state := .invAcceptedState } ∧
      Q { inv with state := .invAcceptedState, game := some gameCreate }
  close : ∀ {inv : Invitation} (r : GameRole), Q inv →
    ¬(r = .nullRole ∧ inv.game.isSome = true) →
    ¬(inv.state ≠ .invOpenState ∧ inv.state ≠ .invAcceptedState) →
    Q { inv with
      game := if inv.state = .invAcceptedState
        then inv.game.map fun g => (gameResign g r).getD g else inv.game
      state := .invClosedState }
  move : ∀ {inv : Invitation} {g g' : Game} {m : GameMove} {r : GameRole} {str : List UInt8},
    Q inv → inv.game = some g → gameParseMove g r str true = some m →
    gameApplyMove g m = some g' → Q { inv with game := some g' }

namespace InvsHold

variable {Q : Invitation → Prop} {w v : World}

theorem of_invitations (h : InvsHold Q w) (e : v.invitations = w.invitations) : InvsHold Q v := by
  unfold InvsHold; rw [e]; exact h

theorem kept (h : InvsHold Q w) (hk : HeapKept w v) : InvsHold Q v :=
  h.of_invitations hk.invitations

theorem of_pair {α : Type} {p : α × World} (h : InvsHold Q p.2) {a : α} (e : p = (a, v)) :
    InvsHold Q v := by
  subst e; exact h

/-- A write of one invitation that has the property. -/
theorem setInvitation (h : InvsHold Q w) (i : Nat) {x : Option Invitation}
    (hx : ∀ inv, x = some inv → Q inv) : InvsHold Q (w.setInvitation i x) := by
  intro j inv hj
  by_cases e : j = i
  · subst e; exact hx inv (by simpa [World.setInvitation] using hj)
  · exact h j inv (by simpa [World.setInvitation, Function.update_noteq e] using hj)

/-- A write of an invitation that keeps its state and its game. -/
theorem setInvitation_same (R : InvRules Q) (h : InvsHold Q w) {i : Nat} {inv inv' : Invitation}
    (e : w.invitations i = some inv) (hs : inv'.state = inv.state) (hg : inv'.game = inv.game) :
    InvsHold Q (w.setInvitation i (some inv')) :=
  h.setInvitation i fun _ hx => by cases hx; exact R.reads hs hg (h i inv e)

theorem setClient (h : InvsHold Q w) (c : Nat) (x : Option Client) :
    InvsHold Q (w.setClient c x) :=
  h.of_invitations rfl

theorem clientRef (h : InvsHold Q w) (c : Nat) : InvsHold Q (w.clientRef c) := by
  unfold World.clientRef; split
  · exact h
  · exact h.setClient _ _

theorem clientUnref (h : InvsHold Q w) (c : Nat) : InvsHold Q (w.clientUnref c) := by
  unfold World.clientUnref; split
  · exact h
  · split
    · exact (h.setClient c none).kept (heapKept_playerUnref _ _)
    · exact h.setClient _ _

theorem invRef (R : InvRules Q) (h : InvsHold Q w) (i : Nat) : InvsHold Q (w.invRef i) := by
  unfold World.invRef; split
  · exact h
  · rename_i e; exact h.setInvitation_same R e rfl rfl

theorem invUnref (R : InvRules Q) (h : InvsHold Q w) (i : Nat) : InvsHold Q (w.invUnref i) := by
  unfold World.invUnref; split
  · exact h
  · rename_i e
    split
    · exact (((h.setInvitation i (x := none) fun _ hx => nomatch hx).kept
        (heapKept_freeInvitation w i)).clientUnref _).clientUnref _
    · exact h.setInvitation_same R e rfl rfl

theorem alloc (h : InvsHold Q w) : InvsHold Q w.alloc.2 := by
  unfold World.alloc; split <;> rename_i e
  · exact (h.kept (heapKept_of_attempt e)).of_invitations rfl
  · exact h.kept (heapKept_of_attempt e)

theorem invCreate (R : InvRules Q) (h : InvsHold Q w) (s t : Nat) (sr tr : GameRole) :
    InvsHold Q (w.invCreate s t sr tr).2 := by
  unfold World.invCreate
  split <;> rename_i e
  · exact h.alloc.of_pair e
  · exact (((h.alloc.of_pair e).setInvitation _ fun _ hx => by
      cases hx; exact R.create s t sr tr).clientRef s).clientRef t

theorem invAccept (R : InvRules Q) (h : InvsHold Q w) (i : Nat) :
    InvsHold Q (w.invAccept i).2 := by
  unfold World.invAccept
  split
  · exact h
  · rename_i inv e
    split_ifs with hs
    · exact h
    · have hq := R.accept (h i inv e) (not_not.1 hs)
      have h1 : InvsHold Q (w.setInvitation i (some { inv with state := .invAcceptedState })) :=
        h.setInvitation i fun _ hx => by cases hx; exact hq.1
      dsimp only
      split <;> rename_i e1
      · exact (h1.kept (heapKept_of_attempt e1)).setInvitation i fun _ hx => by
          cases hx; exact hq.2
      · exact h1.kept (heapKept_of_attempt e1)

theorem invClose (R : InvRules Q) (h : InvsHold Q w) (i : Nat) (r : GameRole) :
    InvsHold Q (w.invClose i r).2 := by
  unfold World.invClose
  split
  · exact h
  · rename_i inv e
    by_cases h1 : r = .nullRole ∧ inv.game.isSome = true
    · rw [if_pos h1]; exact h
    rw [if_neg h1]
    by_cases h2 : inv.state ≠ .invOpenState ∧ inv.state ≠ .invAcceptedState
    · rw [if_pos h2]; exact h
    rw [if_neg h2]
    exact h.setInvitation i fun _ hx => by cases hx; exact R.close r (h i inv e) h1 h2

theorem clientAddInvitation (R : InvRules Q) (h : InvsHold Q w) (c inv : Nat) :
    InvsHold Q (w.clientAddInvitation c inv).2 := by
  unfold World.clientAddInvitation
  split
  · split <;> rename_i e1
    · exact ((h.kept (heapKept_of_attempt e1)).setClient _ _).invRef R inv
    · exact h.kept (heapKept_of_attempt e1)
  · exact h

theorem clientRemoveInvitation (R : InvRules Q) (h : InvsHold Q w) (c inv : Nat) :
    InvsHold Q (w.clientRemoveInvitation c inv).2 := by
  unfold World.clientRemoveInvitation
  split
  · exact h
  · split
    · exact h
    · exact (h.setClient _ _).invUnref R inv

theorem callsKeep (R : InvRules Q) : CallsKeep (InvsHold Q) :=
  ⟨fun h => h.kept (heapKept_attempt _), fun h c p => h.kept (heapKept_clientSendPacket _ c p),
    fun h => h.clientRemoveInvitation R, fun h _ _ _ => h.of_invitations rfl,
    fun h => h.invAccept R, fun h => h.invClose R,
    fun h _ inv _ _ _ _ _ e eg ep ea => h.setInvitation _ fun _ hx => by
      cases hx; exact R.move (h _ inv e) eg ep ea⟩

theorem clientMakeInvitation (R : InvRules Q) (h : InvsHold Q w) (s t : Nat) (sr tr : GameRole) :
    InvsHold Q (w.clientMakeInvitation s t sr tr).2 := by
  have h0 := h.invCreate R s t sr tr
  unfold World.clientMakeInvitation
  split <;> rename_i e
  · exact h0.of_pair e
  replace h0 := h0.of_pair e
  dsimp only
  split <;> rename_i e2
  · exact ((h0.clientAddInvitation R _ _).of_pair e2).invUnref R _
  have h2 := (h0.clientAddInvitation R _ _).of_pair e2
  split <;> rename_i e3
  · exact ((h2.clientAddInvitation R _ _).of_pair e3).invUnref R _
  have h3 := (h2.clientAddInvitation R _ _).of_pair e3
  split <;> rename_i e4
  · exact ((h3.kept (heapKept_clientSendPacket _ _ _)).of_pair e4).invUnref R _
  · exact (h3.kept (heapKept_clientSendPacket _ _ _)).of_pair e4

theorem pregRegister (h : InvsHold Q w) (name : List UInt8) :
    InvsHold Q (w.pregRegister name).2 := by
  unfold World.pregRegister
  split <;> dsimp only
  · exact h.kept (heapKept_playerRef _ _)
  · have h1 : InvsHold Q ({ w with nextAddr := w.nextAddr + 1 }.setPlayer w.nextAddr
        (some ⟨name, 1500, 1⟩)) := h.of_invitations rfl
    split <;> rename_i e <;> dsimp only
    · refine InvsHold.kept ?_ (heapKept_playerRef _ _)
      exact (h1.kept (heapKept_of_attempt e)).of_invitations rfl
    · exact (h1.kept (heapKept_of_attempt e)).kept (heapKept_playerUnref _ _)

theorem clientLogin (h : InvsHold Q w) (c : Nat) (p : Option Nat) :
    InvsHold Q (w.clientLogin c p).2 := by
  unfold World.clientLogin
  split
  · exact h
  · split_ifs
    · exact h
    · have hk := heapKept_checkIfOtherClientsLoggedIn w ((p.bind w.playerGetName).getD [])
      split <;> rename_i e1 <;> rw [e1] at hk <;> dsimp only at hk
      · exact h.kept hk
      · exact ((h.kept hk).setClient _ _).kept (heapKept_playerRef _ _)

theorem cregRegister (h : InvsHold Q w) (fd : Nat) : InvsHold Q (w.cregRegister fd).2 := by
  unfold World.cregRegister
  split_ifs
  · exact h
  · split <;> rename_i e
    · exact h.alloc.of_pair e
    · exact (h.alloc.of_pair e).of_invitations rfl

theorem cregUnregister (h : InvsHold Q w) (c : Nat) : InvsHold Q (w.cregUnregister c).2 := by
  unfold World.cregUnregister
  split
  · exact h
  · split
    · exact h
    · dsimp only
      split_ifs
      all_goals first
        | exact InvsHold.clientUnref
            (w := { w with registry := w.registry.erase c, clientCount := w.clientCount - 1 }) h c
        | exact h.clientUnref c

/-- A property of each live invitation that the invitation functions keep is kept by every
event. -/
theorem serviceKeeps (R : InvRules Q) : ServiceKeeps (InvsHold Q) :=
  ⟨⟨callsKeep R, kept, clientRef, clientUnref,
    fun h s t sr tr _ => h.clientMakeInvitation R s t sr tr, cregRegister, cregUnregister⟩,
    clientLogin, pregRegister⟩

end InvsHold

end World

namespace Server

variable {P : World → Prop}

/-- The step lemma: each event keeps an invariant that the calls keep. -/
theorem keeps_step (K : World.ServiceKeeps P) {S : Server} (h : P S.world) (e : Event) :
    P (S.step e).world := by
  cases e with
  | connect fd =>
      simp only [Server.step]
      split <;> rename_i heq <;> exact World.RequestKeeps.of_pair (K.cregRegister h fd) heq
  | packet k pkt =>
      simp only [Server.step]
      split
      · exact K.jeuxClientService h _ pkt
      · exact h
  | hangup k =>
      simp only [Server.step]
      split
      · exact K.serviceExit h _
      · exact h

/-- The run lemma. -/
theorem keeps_run (K : World.ServiceKeeps P) {S : Server} (h : P S.world) :
    ∀ es, P (S.run es).world
  | [] => h
  | e :: es => keeps_run K (keeps_step K h e) es

end Server

end JeuxServer
