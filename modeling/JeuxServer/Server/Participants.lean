import JeuxServer.Server.Invariants

/-!
# The links of the clients' invitation lists

A client's invitation list holds nodes that point to `INVITATION`s. The functions of
`client.c` read a node's invitation through `inv_get_source` and `inv_get_target` and compare
the result with the client: `client_revoke_invitation` lets only the source revoke,
`client_decline_invitation` only the target decline, `client_logout` revokes what the client
sent and declines the rest, and the role and the opponent of a client in a game are read the
same way. They find a node by its invitation and remove the first one they find. Nodes are
made only by `client_add_invitation`, whose one caller, `client_make_invitation`, adds the new
invitation to its source's list and to its target's. No code changes an invitation's source or
target afterwards.

`World.ListsParticipate` says that every node of a live client's list points to an address
already handed out and, while the invitation there is live, the client is its source or its
target; `World.ListsDistinct` says that no list names an invitation twice. `World.LinksKept`
says what every other call may do to the links: a live client's list only loses nodes (or is
the empty list of a new client), an invitation keeps its source and target (or is new, at an
address not yet handed out), and the next address only grows. Every call but
`client_add_invitation` is of that kind. The INVITE case of `jeux_client_service` refuses an
invitation whose target is the source itself, so `client_make_invitation` adds a new invitation
to two different lists. Along every run of the server's events, then, every node of a client's list
names an invitation of which the client is the source or the target
(`Server.run_lists_participate`), and no list holds two nodes for one invitation
(`Server.run_lists_distinct`).
-/

set_option autoImplicit false

namespace JeuxServer

namespace World

/-- Invitation `i` is at an address already handed out and, while live, has `c` as its
source or its target. -/
def Names (w : World) (i c : Nat) : Prop :=
  i < w.nextAddr ∧ ∀ inv, w.invitations i = some inv → inv.sender = c ∨ inv.recipient = c

/-- Every node of a live client's invitation list names an invitation the client takes part
in. -/
def ListsParticipate (w : World) : Prop :=
  ∀ c cl, w.clients c = some cl → ∀ n ∈ cl.invitations.nodes, w.Names n.invitation c

/-- No client's list holds two nodes for the same invitation. -/
def ListsDistinct (w : World) : Prop :=
  ∀ c cl, w.clients c = some cl → (cl.invitations.nodes.map (·.invitation)).Nodup

/-- What a step may do to the links: the list of a live client only loses nodes (a new
client's list is empty), an invitation keeps its source and target (a new one is at an
address not yet handed out), and the next address only grows. -/
structure LinksKept (w v : World) : Prop where
  nextAddr : w.nextAddr ≤ v.nextAddr
  clients : ∀ c cl', v.clients c = some cl' → cl'.invitations.nodes = [] ∨
    ∃ cl, w.clients c = some cl ∧ cl'.invitations.nodes.Sublist cl.invitations.nodes
  invitations : ∀ i inv', v.invitations i = some inv' → w.nextAddr ≤ i ∨
    ∃ inv, w.invitations i = some inv ∧ inv'.sender = inv.sender ∧
      inv'.recipient = inv.recipient

namespace LinksKept

variable {u v w : World}

theorem of_eq (hc : v.clients = w.clients) (hi : v.invitations = w.invitations)
    (hn : v.nextAddr = w.nextAddr) : LinksKept w v :=
  ⟨hn.ge, fun _ cl' e => .inr ⟨cl', hc ▸ e, .refl _⟩,
    fun _ inv' e => .inr ⟨inv', hi ▸ e, rfl, rfl⟩⟩

theorem refl (w : World) : LinksKept w w := of_eq rfl rfl rfl

theorem of_heapKept (hk : HeapKept w v) : LinksKept w v :=
  of_eq hk.clients hk.invitations hk.nextAddr

theorem trans (h1 : LinksKept u v) (h2 : LinksKept v w) : LinksKept u w where
  nextAddr := h1.nextAddr.trans h2.nextAddr
  clients c cl'' e := by
    rcases h2.clients c cl'' e with h0 | ⟨cl', e', hsub⟩
    · exact .inl h0
    rcases h1.clients c cl' e' with h0 | ⟨cl, e0, hsub'⟩
    · exact .inl (List.sublist_nil.1 (h0 ▸ hsub))
    · exact .inr ⟨cl, e0, hsub.trans hsub'⟩
  invitations i inv'' e := by
    rcases h2.invitations i inv'' e with hle | ⟨inv', e', hs, hr⟩
    · exact .inl (h1.nextAddr.trans hle)
    rcases h1.invitations i inv' e' with hle | ⟨inv, e0, hs', hr'⟩
    · exact .inl hle
    · exact .inr ⟨inv, e0, hs.trans hs', hr.trans hr'⟩

end LinksKept

theorem Names.of_linksKept {w v : World} {i c : Nat} (h : w.Names i c) (k : LinksKept w v) :
    v.Names i c := by
  refine ⟨lt_of_lt_of_le h.1 k.nextAddr, fun inv' e => ?_⟩
  rcases k.invitations i inv' e with hle | ⟨inv, e0, hs, hr⟩
  · exact absurd h.1 (not_lt.2 hle)
  · rw [hs, hr]; exact h.2 inv e0

theorem ListsParticipate.of_linksKept {w v : World} (h : w.ListsParticipate)
    (k : LinksKept w v) : v.ListsParticipate := fun c cl' e n hn => by
  rcases k.clients c cl' e with h0 | ⟨cl, e0, hsub⟩
  · simp [h0] at hn
  · exact (h c cl e0 n (hsub.subset hn)).of_linksKept k

/-! ## What each call does to the links -/

section Calls

variable {w : World}

theorem linksKept_setClient (c : Nat) {x : Option Client}
    (hx : ∀ cl', x = some cl' → cl'.invitations.nodes = [] ∨ ∃ cl, w.clients c = some cl ∧
      cl'.invitations.nodes.Sublist cl.invitations.nodes) :
    LinksKept w (w.setClient c x) := by
  refine ⟨le_rfl, fun d cl' e => ?_, fun _ inv' e => .inr ⟨inv', e, rfl, rfl⟩⟩
  by_cases hd : d = c
  · subst hd; exact hx cl' (by simpa [setClient] using e)
  · exact .inr ⟨cl', by simpa [setClient, Function.update_noteq hd] using e, .refl _⟩

theorem linksKept_setInvitation (i : Nat) {x : Option Invitation}
    (hx : ∀ inv', x = some inv' → ∃ inv, w.invitations i = some inv ∧
      inv'.sender = inv.sender ∧ inv'.recipient = inv.recipient) :
    LinksKept w (w.setInvitation i x) := by
  refine ⟨le_rfl, fun _ cl' e => .inr ⟨cl', e, .refl _⟩, fun j inv' e => .inr ?_⟩
  by_cases hj : j = i
  · subst hj; exact hx inv' (by simpa [setInvitation] using e)
  · exact ⟨inv', by simpa [setInvitation, Function.update_noteq hj] using e, rfl, rfl⟩

/-- A write of a live invitation that keeps its source and target. -/
theorem linksKept_setInvitation_same {i : Nat} {inv inv' : Invitation}
    (e : w.invitations i = some inv) (hs : inv'.sender = inv.sender)
    (hr : inv'.recipient = inv.recipient) : LinksKept w (w.setInvitation i (some inv')) :=
  linksKept_setInvitation i fun _ hx => by cases hx; exact ⟨inv, e, hs, hr⟩

theorem linksKept_alloc : LinksKept w w.alloc.2 := by
  unfold alloc; split <;> rename_i e
  · exact LinksKept.of_heapKept (heapKept_of_attempt e) |>.trans ⟨Nat.le_succ _,
      fun _ cl' e => .inr ⟨cl', e, .refl _⟩, fun _ inv' e => .inr ⟨inv', e, rfl, rfl⟩⟩
  · exact LinksKept.of_heapKept (heapKept_of_attempt e)

theorem linksKept_clientRef (c : Nat) : LinksKept w (w.clientRef c) := by
  unfold clientRef; split
  · exact .refl w
  · rename_i cl e
    exact linksKept_setClient c fun _ hx => by cases hx; exact .inr ⟨cl, e, .refl _⟩

theorem linksKept_clientUnref (c : Nat) : LinksKept w (w.clientUnref c) := by
  unfold clientUnref; split
  · exact .refl w
  · rename_i cl e
    split
    · exact (linksKept_setClient c (x := none) fun _ hx => nomatch hx).trans
        (.of_heapKept (heapKept_playerUnref _ _))
    · exact linksKept_setClient c fun _ hx => by cases hx; exact .inr ⟨cl, e, .refl _⟩

theorem linksKept_invRef (i : Nat) : LinksKept w (w.invRef i) := by
  unfold invRef; split
  · exact .refl w
  · rename_i e; exact linksKept_setInvitation_same e rfl rfl

theorem linksKept_invUnref (i : Nat) : LinksKept w (w.invUnref i) := by
  unfold invUnref; split
  · exact .refl w
  · rename_i e
    split
    · exact (((linksKept_setInvitation i (x := none) fun _ hx => nomatch hx).trans
        (.of_heapKept (heapKept_freeInvitation w i))).trans (linksKept_clientUnref _)).trans
        (linksKept_clientUnref _)
    · exact linksKept_setInvitation_same e rfl rfl

/-- `inv_create` puts its invitation at the address `malloc` hands out. -/
theorem linksKept_invCreate (s t : Nat) (sr tr : GameRole) :
    LinksKept w (w.invCreate s t sr tr).2 := by
  unfold invCreate
  split <;> rename_i e
  · simpa [e] using linksKept_alloc (w := w)
  · obtain ⟨rfl, rfl⟩ := alloc_some e
    have hn := (heapKept_attempt w).nextAddr
    refine (LinksKept.trans ⟨?_, fun _ cl' e => .inr ⟨cl', (heapKept_attempt w).clients ▸ e,
      .refl _⟩, fun j inv' e => ?_⟩ (linksKept_clientRef s)).trans (linksKept_clientRef t)
    · simp only [setInvitation]; omega
    · by_cases hj : j = w.attempt.2.nextAddr
      · exact .inl (by omega)
      · refine .inr ⟨inv', ?_, rfl, rfl⟩
        simpa [setInvitation, Function.update_noteq hj, heapKept_attempt] using e

theorem linksKept_invAccept (i : Nat) : LinksKept w (w.invAccept i).2 := by
  unfold invAccept
  split
  · exact .refl w
  · rename_i inv e
    split_ifs
    · exact .refl w
    · have h1 : LinksKept w (w.setInvitation i (some { inv with state := .invAcceptedState })) :=
        linksKept_setInvitation_same e rfl rfl
      dsimp only
      split <;> rename_i e1
      · have hk := heapKept_of_attempt e1
        exact (h1.trans (.of_heapKept hk)).trans (linksKept_setInvitation_same
          ((congrFun hk.invitations i).trans (setInvitation_self _ _ _)) rfl rfl)
      · exact h1.trans (.of_heapKept (heapKept_of_attempt e1))

theorem linksKept_invClose (i : Nat) (r : GameRole) : LinksKept w (w.invClose i r).2 := by
  unfold invClose
  split
  · exact .refl w
  · rename_i e
    split_ifs
    · exact .refl w
    · exact .refl w
    all_goals exact linksKept_setInvitation_same e rfl rfl

theorem linksKept_clientRemoveInvitation (c inv : Nat) :
    LinksKept w (w.clientRemoveInvitation c inv).2 := by
  unfold clientRemoveInvitation
  split
  · exact .refl w
  · split
    · exact .refl w
    · refine (linksKept_setClient c fun _ hx => ?_).trans (linksKept_invUnref inv)
      cases hx
      exact .inr ⟨_, ‹_›, List.eraseP_sublist _⟩

theorem linksKept_clientLogin (c : Nat) (p : Option Nat) : LinksKept w (w.clientLogin c p).2 := by
  unfold clientLogin
  split
  · exact .refl w
  · rename_i cl e
    split_ifs
    · exact .refl w
    · have hk := heapKept_checkIfOtherClientsLoggedIn w ((p.bind w.playerGetName).getD [])
      split <;> rename_i e1 <;> rw [e1] at hk <;> dsimp only at hk
      · exact .of_heapKept hk
      · refine ((LinksKept.of_heapKept hk).trans (linksKept_setClient c fun _ hx => ?_)).trans
          (.of_heapKept (heapKept_playerRef _ _))
        cases hx
        exact .inr ⟨cl, (congrFun hk.clients c).trans e, .refl _⟩

/-- `preg_register` takes the next address for a new player. -/
theorem linksKept_pregRegister (name : List UInt8) : LinksKept w (w.pregRegister name).2 := by
  unfold pregRegister
  split <;> dsimp only
  · exact .of_heapKept (heapKept_playerRef _ _)
  · have h1 : LinksKept w
        ({ w with nextAddr := w.nextAddr + 1 }.setPlayer w.nextAddr (some ⟨name, 1500, 1⟩)) :=
      ⟨Nat.le_succ _, fun _ cl' e => .inr ⟨cl', e, .refl _⟩,
        fun _ inv' e => .inr ⟨inv', e, rfl, rfl⟩⟩
    split <;> rename_i e <;> dsimp only <;>
      refine (h1.trans (.of_heapKept (heapKept_of_attempt e))).trans ?_
    · refine LinksKept.trans ?_ (.of_heapKept (heapKept_playerRef _ _))
      exact .of_eq rfl rfl rfl
    · exact .of_heapKept (heapKept_playerUnref _ _)

/-- `creg_register` makes a client with an empty list, at the address `malloc` hands out. -/
theorem linksKept_cregRegister (fd : Nat) : LinksKept w (w.cregRegister fd).2 := by
  unfold cregRegister
  split_ifs
  · exact .refl w
  · split
    · exact ‹w.alloc = _› ▸ linksKept_alloc
    · rename_i c v e
      have h1 : LinksKept w v := by have := linksKept_alloc (w := w); rwa [e] at this
      refine (h1.trans (linksKept_setClient c (x := some ⟨fd, 1, false, none, .empty⟩)
        fun _ hx => by cases hx; exact .inl rfl)).trans ?_
      exact .of_eq rfl rfl rfl

theorem linksKept_cregUnregister (c : Nat) : LinksKept w (w.cregUnregister c).2 := by
  unfold cregUnregister
  split
  · exact .refl w
  · split
    · exact .refl w
    · have hr : LinksKept w
          { w with registry := w.registry.erase c, clientCount := w.clientCount - 1 } :=
        .of_eq rfl rfl rfl
      dsimp only
      split_ifs <;> first
        | exact (hr.trans (linksKept_clientUnref c)).trans (.of_eq rfl rfl rfl)
        | exact (linksKept_clientUnref c).trans (.of_eq rfl rfl rfl)

end Calls

theorem Names.setClient {w : World} {i d : Nat} (h : w.Names i d) (c : Nat) (x : Option Client) :
    (w.setClient c x).Names i d :=
  h

/-- `client_add_invitation` keeps every invitation's source and target. -/
theorem Names.clientAddInvitation {w v : World} {i d c j : Nat} {r : Int} (h : w.Names i d)
    (e : w.clientAddInvitation c j = (r, v)) : v.Names i d := by
  unfold World.clientAddInvitation at e
  split at e
  · split at e <;> rename_i e1 <;> simp only [Prod.mk.injEq] at e <;> obtain ⟨-, rfl⟩ := e
    · exact ((h.of_linksKept (.of_heapKept (heapKept_of_attempt e1))).setClient _ _).of_linksKept
        (linksKept_invRef j)
    · exact h.of_linksKept (.of_heapKept (heapKept_of_attempt e1))
  · simp only [Prod.mk.injEq] at e
    exact e.2 ▸ h

/-- The invitation `inv_create` returns names its source and its target. -/
theorem Names.invCreate {w v : World} {s t i : Nat} {sr tr : GameRole}
    (e : w.invCreate s t sr tr = (some i, v)) : v.Names i s ∧ v.Names i t := by
  unfold World.invCreate at e
  split at e
  · cases e
  · rename_i w1 e1
    obtain ⟨rfl, rfl⟩ := alloc_some e1
    simp only [Prod.mk.injEq, Option.some.injEq] at e
    obtain ⟨rfl, rfl⟩ := e
    have hn : ∀ c, c = s ∨ c = t →
        ({ w.attempt.2 with nextAddr := w.attempt.2.nextAddr + 1 }.setInvitation
          w.attempt.2.nextAddr (some ⟨1, s, t, sr, tr, none, .invOpenState⟩)).Names
          w.attempt.2.nextAddr c := fun c hc => ⟨by simp [setInvitation], fun inv e => by
        simp only [setInvitation_self, Option.some.injEq] at e
        subst e; rcases hc with rfl | rfl
        exacts [.inl rfl, .inr rfl]⟩
    exact ⟨((hn s (.inl rfl)).of_linksKept (linksKept_clientRef s)).of_linksKept
        (linksKept_clientRef t),
      ((hn t (.inr rfl)).of_linksKept (linksKept_clientRef s)).of_linksKept
        (linksKept_clientRef t)⟩

/-- `inv_create` puts its invitation at the next address. -/
theorem invCreate_addr {w v : World} {s t i : Nat} {sr tr : GameRole}
    (e : w.invCreate s t sr tr = (some i, v)) : i = w.nextAddr := by
  unfold World.invCreate at e
  split at e
  · cases e
  · rename_i w1 e1
    obtain ⟨rfl, -⟩ := alloc_some e1
    simp only [Prod.mk.injEq, Option.some.injEq] at e
    exact e.1.symm.trans (heapKept_attempt w).nextAddr

/-- `client_add_invitation(c, inv)` writes no other client. -/
theorem clientAddInvitation_clients {w v : World} {c i d : Nat} {r : Int}
    (e : w.clientAddInvitation c i = (r, v)) (hd : d ≠ c) : v.clients d = w.clients d := by
  unfold World.clientAddInvitation at e
  split at e
  · split at e <;> rename_i e1 <;> simp only [Prod.mk.injEq] at e <;> obtain ⟨-, rfl⟩ := e
    · simp [invRef_clients, setClient, Function.update_noteq hd, (heapKept_of_attempt e1).clients]
    · exact congrFun (heapKept_of_attempt e1).clients d
  · simp only [Prod.mk.injEq] at e
    rw [← e.2]

/-! ## The invariant -/

namespace ListsParticipate

variable {w v : World}

theorem kept (h : w.ListsParticipate) (hk : HeapKept w v) : v.ListsParticipate :=
  h.of_linksKept (.of_heapKept hk)

/-- A write of a client whose nodes all name invitations it takes part in. -/
theorem setClient (h : w.ListsParticipate) (c : Nat) {cl' : Client}
    (hn : ∀ n ∈ cl'.invitations.nodes, w.Names n.invitation c) :
    (w.setClient c (some cl')).ListsParticipate := fun d cl e n hm => by
  by_cases hd : d = c
  · subst hd
    obtain rfl : cl' = cl := by simpa [World.setClient] using e
    exact hn n hm
  · exact h d cl (by simpa [World.setClient, Function.update_noteq hd] using e) n hm

/-- `client_add_invitation(c, inv)` for an invitation that `c` takes part in. -/
theorem clientAddInvitation (h : w.ListsParticipate) {c i : Nat} (hi : w.Names i c) :
    (w.clientAddInvitation c i).2.ListsParticipate := by
  unfold World.clientAddInvitation
  split
  · rename_i cl _ e _
    split <;> rename_i e1
    · have hk := heapKept_of_attempt e1
      refine ((h.kept hk).setClient c fun n hn => ?_).of_linksKept (linksKept_invRef i)
      simp only [InvitationList.add, List.mem_cons] at hn
      rcases hn with rfl | hn
      · exact hi.of_linksKept (.of_heapKept hk)
      · exact (h c cl e n hn).of_linksKept (.of_heapKept hk)
    · exact h.kept (heapKept_of_attempt e1)
  · exact h

/-- The nodes of the lists after `inv_create` point below the invitation it made. -/
theorem unlisted_invCreate (h : w.ListsParticipate) {s t i : Nat} {sr tr : GameRole}
    (e : w.invCreate s t sr tr = (some i, v)) :
    ∀ c cl, v.clients c = some cl → ∀ n ∈ cl.invitations.nodes, n.invitation ≠ i := by
  intro c cl ec n hn
  have k : LinksKept w v := by have := linksKept_invCreate (w := w) s t sr tr; rwa [e] at this
  rcases k.clients c cl ec with h0 | ⟨cl0, e0, hsub⟩
  · simp [h0] at hn
  · exact (invCreate_addr e ▸ (h c cl0 e0 n (hsub.subset hn)).1).ne

end ListsParticipate

namespace ListsDistinct

variable {w v : World}

theorem of_linksKept (h : w.ListsDistinct) (k : LinksKept w v) : v.ListsDistinct :=
  fun c cl' e => by
    rcases k.clients c cl' e with h0 | ⟨cl, e0, hsub⟩
    · simp [h0]
    · exact (h c cl e0).sublist (hsub.map _)

theorem setClient (h : w.ListsDistinct) (c : Nat) {cl' : Client}
    (hn : (cl'.invitations.nodes.map (·.invitation)).Nodup) :
    (w.setClient c (some cl')).ListsDistinct := fun d cl e => by
  by_cases hd : d = c
  · subst hd
    obtain rfl : cl' = cl := by simpa [World.setClient] using e
    exact hn
  · exact h d cl (by simpa [World.setClient, Function.update_noteq hd] using e)

/-- `client_add_invitation(c, inv)` for an invitation that `c` does not list. -/
theorem clientAddInvitation (h : w.ListsDistinct) {c i : Nat}
    (hi : ∀ cl, w.clients c = some cl → ∀ n ∈ cl.invitations.nodes, n.invitation ≠ i) :
    (w.clientAddInvitation c i).2.ListsDistinct := by
  unfold World.clientAddInvitation
  split
  · rename_i cl _ e _
    split <;> rename_i e1
    · have hk := heapKept_of_attempt e1
      refine ((h.of_linksKept (.of_heapKept hk)).setClient c ?_).of_linksKept (linksKept_invRef i)
      simp only [InvitationList.add, List.map_cons, List.nodup_cons, List.mem_map]
      exact ⟨fun ⟨n, hn, hni⟩ => hi cl e n hn hni, h c cl e⟩
    · exact h.of_linksKept (.of_heapKept (heapKept_of_attempt e1))
  · exact h

end ListsDistinct

/-- The links of the clients' lists: every node names an invitation its client takes part in,
and no list names an invitation twice. -/
structure ListsHold (w : World) : Prop where
  participate : w.ListsParticipate
  distinct : w.ListsDistinct

namespace ListsHold

variable {w v : World}

theorem of_linksKept (h : w.ListsHold) (k : LinksKept w v) : v.ListsHold :=
  ⟨h.participate.of_linksKept k, h.distinct.of_linksKept k⟩

theorem kept (h : w.ListsHold) (hk : HeapKept w v) : v.ListsHold := h.of_linksKept (.of_heapKept hk)

theorem of_pair {α : Type} {p : α × World} (h : p.2.ListsHold) {a : α} (e : p = (a, v)) :
    v.ListsHold := by
  subst e; exact h

theorem clientAddInvitation (h : w.ListsHold) {c i : Nat} (hn : w.Names i c)
    (hi : ∀ cl, w.clients c = some cl → ∀ n ∈ cl.invitations.nodes, n.invitation ≠ i) :
    (w.clientAddInvitation c i).2.ListsHold :=
  ⟨h.participate.clientAddInvitation hn, h.distinct.clientAddInvitation hi⟩

/-- `client_make_invitation(source, target, ...)`, for a target other than the source, adds the
new invitation once to the source's list and once to the target's. -/
theorem clientMakeInvitation (h : w.ListsHold) {s t : Nat} (sr tr : GameRole) (hst : s ≠ t) :
    (w.clientMakeInvitation s t sr tr).2.ListsHold := by
  have h0 := h.of_linksKept (linksKept_invCreate s t sr tr)
  unfold World.clientMakeInvitation
  split <;> rename_i e
  · exact h0.of_pair e
  obtain ⟨hs, ht⟩ := Names.invCreate e
  have hu := h.participate.unlisted_invCreate e
  replace h0 := h0.of_pair e
  dsimp only
  split <;> rename_i e2
  · exact ((h0.clientAddInvitation hs (hu s)).of_pair e2).of_linksKept (linksKept_invUnref _)
  have h2 := ((h0.clientAddInvitation hs (hu s)).of_pair e2).clientAddInvitation
    (ht.clientAddInvitation e2) fun cl ec =>
      hu t cl ((clientAddInvitation_clients e2 (Ne.symm hst)).symm.trans ec)
  split <;> rename_i e3
  · exact (h2.of_pair e3).of_linksKept (linksKept_invUnref _)
  have h3 := h2.of_pair e3
  split <;> rename_i e4
  · exact ((h3.kept (heapKept_clientSendPacket _ _ _)).of_pair e4).of_linksKept
      (linksKept_invUnref _)
  · exact (h3.kept (heapKept_clientSendPacket _ _ _)).of_pair e4

/-- Every event of the server keeps the links of the lists. -/
theorem serviceKeeps : ServiceKeeps ListsHold :=
  ⟨⟨⟨fun h => h.kept (heapKept_attempt _),
      fun h c p => h.kept (heapKept_clientSendPacket _ c p),
      fun h c i => h.of_linksKept (linksKept_clientRemoveInvitation c i),
      fun h _ _ _ => h.kept ⟨rfl, rfl, rfl, rfl, rfl⟩,
      fun h i => h.of_linksKept (linksKept_invAccept i),
      fun h i r => h.of_linksKept (linksKept_invClose i r),
      fun h _ _ _ _ _ _ _ e _ _ _ => h.of_linksKept (linksKept_setInvitation_same e rfl rfl)⟩,
    kept, fun h c => h.of_linksKept (linksKept_clientRef c),
    fun h c => h.of_linksKept (linksKept_clientUnref c),
    fun h _ _ sr tr hst => h.clientMakeInvitation sr tr hst,
    fun h fd => h.of_linksKept (linksKept_cregRegister fd),
    fun h c => h.of_linksKept (linksKept_cregUnregister c)⟩,
    fun h c p => h.of_linksKept (linksKept_clientLogin c p),
    fun h name => h.of_linksKept (linksKept_pregRegister name)⟩

end ListsHold


end World

namespace Server

/-- Along every run of the server's events, under any outcomes of its fallible steps, every node of a
client's invitation list points to a live invitation of which the client is the source or the
target, as `inv_get_source` and `inv_get_target` read them. -/
theorem run_lists_participate (os : List Outcome) (es : List Event) (c : Nat) :
    ∀ n ∈ (((init os).run es).world.clientInvitations c).nodes,
      ((init os).run es).world.invGetSource n.invitation = some c ∨
        ((init os).run es).world.invGetTarget n.invitation = some c := by
  intro n hn
  have h := (keeps_run World.ListsHold.serviceKeeps (S := init os)
    ⟨fun _ _ e => (nomatch e), fun _ _ e => nomatch e⟩ es).participate
  unfold World.clientInvitations at hn
  rcases e : ((init os).run es).world.clients c with _ | cl <;> rw [e] at hn
  · simp [InvitationList.empty] at hn
  · obtain ⟨inv, ei⟩ := Option.isSome_iff_exists.1
      (((safe_init os).run es).accounted.listed_isSome e hn)
    simp only [World.invGetSource, World.invGetTarget, ei, Option.map_some', Option.some.injEq]
    exact (h c cl e n hn).2 inv ei

/-- After `openingEvents`, bob's list holds invitation 4 under ID 0, and bob is its target. -/
theorem run_lists_participate_opening :
    ⟨4, 0⟩ ∈ (((init []).run openingEvents).world.clientInvitations 1).nodes ∧
      (((init []).run openingEvents).world.invGetSource 4 = some 1 ∨
        ((init []).run openingEvents).world.invGetTarget 4 = some 1) := by
  have hn : (⟨4, 0⟩ : InvitationNode) ∈
      (((init []).run openingEvents).world.clientInvitations 1).nodes := by decide
  exact ⟨hn, run_lists_participate [] openingEvents 1 ⟨4, 0⟩ hn⟩

/-- Along every run of the server's events, under any outcomes of its fallible steps, no client's
invitation list holds two nodes for the same invitation: `client_make_invitation` adds a new
invitation once to its source's list and once to its target's, and the INVITE case refuses a
target that is the source itself. -/
theorem run_lists_distinct (os : List Outcome) (es : List Event) (c : Nat) :
    ((((init os).run es).world.clientInvitations c).nodes.map (·.invitation)).Nodup := by
  have h := (keeps_run World.ListsHold.serviceKeeps (S := init os)
    ⟨fun _ _ e => (nomatch e), fun _ _ e => nomatch e⟩ es).distinct
  unfold World.clientInvitations
  rcases e : ((init os).run es).world.clients c with _ | cl
  · simp [InvitationList.empty]
  · exact h c cl e

end Server

end JeuxServer
