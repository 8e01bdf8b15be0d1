import JeuxServer.Server.Participants

/-!
# The IDs that frames about an invitation carry

A client names each invitation it holds by a local ID, and a packet header carries an ID in
its one-byte `id` field. The notifications (`INVITED`, `REVOKED`, `DECLINED`, `ACCEPTED`,
`MOVED`, `RESIGNED`, `ENDED`) and the `ACK`s of INVITE and ACCEPT are each about one
invitation, and the code writes each with the ID under which the frame's recipient lists that
invitation: the ID of the node it has just added, of the node `client_remove_invitation`
unlinks, or of the node a walk of the recipient's list finds.

`World.NamesHandle w i x` says that write `x`'s id byte is `UInt8.ofNat` of the ID of a node for
invitation `i` in its recipient's list in `w`. `World.SentFrom b I w` says that from `b` to `w`
the lists only lost nodes and that every write added names, in `b`, its recipient's handle for
an invitation of `I`. Each call that removes a handle, accepts an invitation or plays a game
keeps it (`SentFrom.clientRevokeInvitation` and its siblings), and so does the walk of
`client_logout`; the writes of `client_make_invitation` name the handles it has just added,
which the INVITE case leaves listed (`jeuxClientService_names_invite`).

Along every run of the server's events, then, every frame written about an invitation carries
the ID under which its recipient lists the invitation the event is about: the one the
request's id byte designates, the one an INVITE creates, or, when a connection ends, one its
client held (`Server.run_frames_name_handles`). The byte is that ID itself only below 256.
-/

set_option autoImplicit false

namespace JeuxServer

namespace InvitationList

theorem findById_mem {l : InvitationList} {id : Nat} {n : InvitationNode}
    (h : l.findById id = some n) : n ∈ l.nodes ∧ n.id = id :=
  ⟨List.mem_of_find?_eq_some h, by simpa using List.find?_some h⟩

theorem findByInvitation_mem {l : InvitationList} {inv : Nat} {n : InvitationNode}
    (h : l.findByInvitation inv = some n) : n ∈ l.nodes ∧ n.invitation = inv :=
  ⟨List.mem_of_find?_eq_some h, by simpa using List.find?_some h⟩

end InvitationList

/-- A frame about one invitation, written while a packet of type `t` is handled: a
notification, or the `ACK` of an INVITE or an ACCEPT. -/
def Frame.aboutInvitation (t : Option JeuxPacketType) (f : Frame) : Bool :=
  match f.type with
  | .invitedPkt | .revokedPkt | .declinedPkt | .acceptedPkt | .movedPkt | .resignedPkt
  | .endedPkt => true
  | .ackPkt => t == some .invitePkt || t == some .acceptPkt
  | _ => false

namespace World

/-- From `w` to `v` only writes were added, and each satisfies `P`. -/
def Adds (w v : World) (P : Write → Prop) : Prop :=
  ∃ ys, v.writes = w.writes ++ ys ∧ ∀ x ∈ ys, P x

/-- Write `x`'s id byte is `UInt8.ofNat` of the ID under which its recipient lists invitation
`i` in `w`. -/
def NamesHandle (w : World) (i : Nat) (x : Write) : Prop :=
  ∃ n ∈ (w.clientInvitations x.client).nodes, n.invitation = i ∧ x.frame.id = UInt8.ofNat n.id

/-- From `b` to `w` the lists only lost nodes, and every write added names, in `b`, its
recipient's handle for an invitation of `I`. -/
structure SentFrom (b : World) (I : Nat → Prop) (w : World) : Prop where
  links : LinksKept b w
  writes : Adds b w fun x => ∃ i, I i ∧ b.NamesHandle i x

namespace Adds

variable {u v w : World} {P Q : Write → Prop}

theorem of_writes (h : v.writes = w.writes) : Adds w v P := ⟨[], by simpa using h, by simp⟩

theorem trans (h1 : Adds u v P) (h2 : Adds v w P) : Adds u w P :=
  let ⟨ys, hys, hy⟩ := h1
  let ⟨zs, hzs, hz⟩ := h2
  ⟨ys ++ zs, by rw [hzs, hys, List.append_assoc],
    fun x hx => (List.mem_append.1 hx).elim (hy x) (hz x)⟩

theorem mono (h : Adds w v P) (hPQ : ∀ x, P x → Q x) : Adds w v Q :=
  let ⟨ys, hys, hy⟩ := h
  ⟨ys, hys, fun x hx => hPQ x (hy x hx)⟩

/-- A send adds one write: to its client, with the packet's type and id byte. -/
theorem clientSendPacket (w : World) (c : Nat) (p : Packet) :
    Adds w (w.clientSendPacket c p).2 fun x => x.client = c ∧ x.frame.type = p.type ∧
      x.frame.id = p.id :=
  let ⟨_, hb⟩ := clientSendPacket_frame w c p
  ⟨_, hb, by simp⟩

theorem clientSendNack (w : World) (c : Nat) :
    Adds w (w.clientSendNack c) (·.frame.type = .nackPkt) := by
  unfold World.clientSendNack
  split <;> rename_i e
  · exact (of_writes (by rw [← attempt_writes w, e])).trans
      ((clientSendPacket _ c _).mono fun _ hx => hx.2.1)
  · exact of_writes (by rw [← attempt_writes w, e])

theorem clientSendAck (w : World) (c : Nat) (d : Option (List UInt8)) (n : Nat) :
    Adds w (w.clientSendAck c d n) (·.frame.type = .ackPkt) := by
  unfold World.clientSendAck
  split <;> rename_i e
  · exact (of_writes (by rw [← attempt_writes w, e])).trans
      ((clientSendPacket _ c _).mono fun _ hx => hx.2.1)
  · exact of_writes (by rw [← attempt_writes w, e])

end Adds

/-- A node listed after steps that only shrink the lists was listed before them. -/
theorem mem_of_linksKept {b w : World} (k : LinksKept b w) {d : Nat} {n : InvitationNode}
    (hn : n ∈ (w.clientInvitations d).nodes) : n ∈ (b.clientInvitations d).nodes := by
  unfold clientInvitations at hn ⊢
  cases e : w.clients d with
  | none => simp [e, InvitationList.empty] at hn
  | some cl' =>
      rw [e] at hn
      rcases k.clients d cl' e with h0 | ⟨cl, e0, hsub⟩
      · simp [h0] at hn
      · simpa [e0] using hsub.subset hn

/-- `client_remove_invitation` returns the ID of the node for `inv` it unlinks. -/
theorem clientRemoveInvitation_id {w v : World} {d inv : Nat} {r : Int}
    (e : w.clientRemoveInvitation d inv = (r, v)) (hr : r ≠ -1) :
    ∃ n ∈ (w.clientInvitations d).nodes, n.invitation = inv ∧ r = n.id := by
  unfold clientRemoveInvitation at e
  split at e
  · exact absurd (Prod.mk.inj e).1.symm hr
  · rename_i cl hc
    split at e
    · exact absurd (Prod.mk.inj e).1.symm hr
    · rename_i n hn
      obtain ⟨hmem, hinv⟩ := InvitationList.findByInvitation_mem hn
      exact ⟨n, by simpa [clientInvitations, hc] using hmem, hinv, (Prod.mk.inj e).1.symm⟩

namespace SentFrom

variable {b w : World} {I : Nat → Prop}

theorem refl (b : World) (I : Nat → Prop) : SentFrom b I b := ⟨.refl b, .of_writes rfl⟩

/-- A step that writes nothing and only shrinks the lists. -/
theorem kept (h : SentFrom b I w) {v : World} (k : LinksKept w v) (hw : v.writes = w.writes) :
    SentFrom b I v :=
  ⟨h.links.trans k, h.writes.trans (.of_writes hw)⟩

theorem of_pair {α : Type} {p : α × World} (h : SentFrom b I p.2) {a : α} {v : World}
    (e : p = (a, v)) : SentFrom b I v := by
  subst e; exact h

theorem listed (h : SentFrom b I w) {d : Nat} {n : InvitationNode}
    (hn : n ∈ (w.clientInvitations d).nodes) : n ∈ (b.clientInvitations d).nodes :=
  mem_of_linksKept h.links hn

/-- A send whose id byte is its recipient's ID, in `b`, for an invitation of `I`. -/
theorem clientSendPacket (h : SentFrom b I w) {d : Nat} {p : Packet} {n : InvitationNode}
    (hn : n ∈ (b.clientInvitations d).nodes) (hI : I n.invitation)
    (hid : p.id = UInt8.ofNat n.id) : SentFrom b I (w.clientSendPacket d p).2 :=
  ⟨h.links.trans (.of_heapKept (heapKept_clientSendPacket w d p)),
    h.writes.trans ((Adds.clientSendPacket w d p).mono fun _ ⟨hc, _, hx⟩ =>
      ⟨n.invitation, hI, n, hc ▸ hn, rfl, hx.trans hid⟩)⟩

theorem of_attempt (h : SentFrom b I w) {o : Outcome} {v : World} (e : w.attempt = (o, v)) :
    SentFrom b I v :=
  h.kept (.of_heapKept (heapKept_of_attempt e)) (by rw [← attempt_writes w, e])

theorem clientRemoveInvitation (h : SentFrom b I w) (d inv : Nat) :
    SentFrom b I (w.clientRemoveInvitation d inv).2 :=
  h.kept (linksKept_clientRemoveInvitation d inv) (clientRemoveInvitation_writes w d inv)

theorem invAccept (h : SentFrom b I w) (i : Nat) : SentFrom b I (w.invAccept i).2 :=
  h.kept (linksKept_invAccept i) (invAccept_writes w i)

theorem invClose (h : SentFrom b I w) (i : Nat) (r : GameRole) : SentFrom b I (w.invClose i r).2 :=
  h.kept (linksKept_invClose i r) (invClose_writes w i r)

theorem playerPostResult (h : SentFrom b I w) (p q : Option Nat) (r : Int) :
    SentFrom b I (w.playerPostResult p q r) :=
  h.kept (.of_eq rfl rfl rfl) rfl

/-- The end that `client_revoke_invitation` and `client_decline_invitation` share: the caller's
handle removed, then the other end's, which is sent a frame of type `t` with the ID of the node
it lost. -/
theorem removeBoth (h : SentFrom b I w) (c inv : Nat) (other : World → Option Nat)
    (t : JeuxPacketType) (hI : I inv) :
    SentFrom b I (match w.clientRemoveInvitation c inv with
      | (-1, w) => ((-1 : Int), w)
      | (_, w) =>
          match other w with
          | none => (-1, w)
          | some o =>
              match w.clientRemoveInvitation o inv with
              | (-1, w) => (-1, w)
              | (oid, w) =>
                  match w.clientSendPacket o (bare t oid.toNat) with
                  | (.ok, w) => (0, w)
                  | (_, w) => (-1, w)).2 := by
  have h1 := h.clientRemoveInvitation c inv
  split <;> rename_i e1 <;> rw [e1] at h1
  · exact h1
  split
  · exact h1
  have h2 := h1.clientRemoveInvitation ‹_› inv
  split <;> rename_i e2 <;> rw [e2] at h2
  · exact h2
  obtain ⟨n, hn, hinv, rfl⟩ := clientRemoveInvitation_id e2 ‹_›
  split <;> rename_i e3 <;>
    exact (h2.clientSendPacket (h1.listed hn) (hinv ▸ hI) (by simp [bare])).of_pair e3

/-- `client_revoke_invitation` writes `REVOKED` with the ID of the target's node it unlinks. -/
theorem clientRevokeInvitation (h : SentFrom b I w) (c id : Nat)
    (hI : ∀ n, (w.clientInvitations c).findById id = some n → I n.invitation) :
    SentFrom b I (w.clientRevokeInvitation c id).2 := by
  unfold World.clientRevokeInvitation
  split
  · exact h
  rename_i node hnode
  dsimp only
  split_ifs
  · exact h
  · exact h
  exact h.removeBoth c _ (·.invGetTarget node.invitation) .revokedPkt (hI node hnode)

/-- `client_decline_invitation` writes `DECLINED` with the ID of the source's node it
unlinks. -/
theorem clientDeclineInvitation (h : SentFrom b I w) (c id : Nat)
    (hI : ∀ n, (w.clientInvitations c).findById id = some n → I n.invitation) :
    SentFrom b I (w.clientDeclineInvitation c id).2 := by
  unfold World.clientDeclineInvitation
  split
  · exact h
  rename_i node hnode
  dsimp only
  split_ifs
  · exact h
  · exact h
  exact h.removeBoth c _ (·.invGetSource node.invitation) .declinedPkt (hI node hnode)

/-- `client_accept_invitation` writes `ACCEPTED` with the ID of the source's node for the
invitation. -/
theorem clientAcceptInvitation (h : SentFrom b I w) (c id : Nat)
    (hI : ∀ n, (w.clientInvitations c).findById id = some n → I n.invitation) :
    SentFrom b I (w.clientAcceptInvitation c id).2 := by
  unfold World.clientAcceptInvitation
  split
  · exact h
  rename_i node hnode
  dsimp only
  split
  · exact h
  split
  · exact h
  split
  · exact h
  have h1 := h.invAccept node.invitation
  split <;> rename_i e1 <;> rw [e1] at h1
  · exact h1
  split
  · exact h1
  rename_i sourceNode hsn
  obtain ⟨hmem, hinv⟩ := InvitationList.findByInvitation_mem hsn
  split <;> split <;> rename_i e2 <;>
    exact (h1.clientSendPacket (h1.listed hmem) (hinv ▸ hI node hnode) (by rfl)).of_pair e2

/-- The end of `client_resign_game`: `ENDED` to the opponent and to the resigner, each with
its own ID for the invitation. -/
theorem resignEnd (h : SentFrom b I w) {c id inv s t o oid : Nat}
    (hc : ∃ n ∈ (b.clientInvitations c).nodes, I n.invitation ∧ n.id = id)
    (ho : ∃ n ∈ (b.clientInvitations o).nodes, I n.invitation ∧ n.id = oid) :
    SentFrom b I (w.resignEnd c id inv s t o oid).2 := by
  obtain ⟨nc, hnc, hIc, rfl⟩ := hc
  obtain ⟨no, hno, hIo, rfl⟩ := ho
  unfold World.resignEnd
  dsimp only
  split <;> rename_i e1 <;> have h1 := (h.clientSendPacket hno hIo (by rfl)).of_pair e1
  · split <;> rename_i e2 <;> have h2 := (h1.clientSendPacket hnc hIc (by rfl)).of_pair e2
    · exact h2
    split <;> rename_i e3 <;> have h3 := (h2.clientRemoveInvitation _ _).of_pair e3
    · exact h3
    split <;> rename_i e4 <;> have h4 := (h3.clientRemoveInvitation _ _).of_pair e4
    · exact h4
    · exact h4.playerPostResult _ _ _
  · exact h1

/-- The end of `client_make_move` once the game is over: `ENDED` to the opponent and to the
mover, each with its own ID for the invitation. -/
theorem moveEnd (h : SentFrom b I w) {c id inv s t oid o : Nat} (r : GameRole)
    (hc : ∃ n ∈ (b.clientInvitations c).nodes, I n.invitation ∧ n.id = id)
    (ho : ∃ n ∈ (b.clientInvitations o).nodes, I n.invitation ∧ n.id = oid) :
    SentFrom b I (w.moveEnd c id inv s t oid o r).2 := by
  obtain ⟨nc, hnc, hIc, rfl⟩ := hc
  obtain ⟨no, hno, hIo, rfl⟩ := ho
  unfold World.moveEnd
  split <;> rename_i e1 <;> have h1 := (h.clientSendPacket hno hIo (by rfl)).of_pair e1
  · split <;> rename_i e2 <;> have h2 := (h1.clientSendPacket hnc hIc (by rfl)).of_pair e2
    · split <;> rename_i e3 <;> have h3 := (h2.clientRemoveInvitation _ _).of_pair e3
      · exact h3
      split <;> rename_i e4 <;> have h4 := (h3.clientRemoveInvitation _ _).of_pair e4
      · exact h4
      · exact h4.playerPostResult _ _ _
    · exact h2
  · exact h1

/-- `client_make_move` writes `MOVED` with the ID of the opponent's node for the invitation,
then ends the game as `moveEnd` does. -/
theorem clientMakeMove (h : SentFrom b I w) (c id : Nat) (move : List UInt8)
    (hI : ∀ n, (w.clientInvitations c).findById id = some n → I n.invitation) :
    SentFrom b I (w.clientMakeMove c id move).2 := by
  unfold World.clientMakeMove
  split
  · exact h
  rename_i node hnode
  have hc : ∃ n ∈ (b.clientInvitations c).nodes, I n.invitation ∧ n.id = id :=
    ⟨node, h.listed (InvitationList.findById_mem hnode).1, hI node hnode,
      (InvitationList.findById_mem hnode).2⟩
  dsimp only
  split
  · exact h
  rename_i i e
  split
  · exact h
  split
  · exact h
  split <;> rename_i w1 e1 <;> have h1 := h.of_attempt e1
  · have ei : w1.invitations node.invitation = some i :=
      (congrFun (heapKept_of_attempt e1).invitations _).trans e
    split
    · exact h1
    next g' _ =>
    have h2 : SentFrom b I (w1.setInvitation node.invitation (some { i with game := some g' })) :=
      h1.kept (linksKept_setInvitation_same ei rfl rfl) rfl
    split
    · exact h2
    rename_i oppNode hopp
    obtain ⟨hom, hoi⟩ := InvitationList.findByInvitation_mem hopp
    split <;> rename_i e3 <;>
      have h3 := (h2.clientSendPacket (h2.listed hom) (hoi ▸ hI node hnode) (by rfl)).of_pair e3
    · by_cases hover : gameIsOver g'
      · rw [if_pos hover]
        exact h3.moveEnd _ hc ⟨oppNode, h2.listed hom, hoi ▸ hI node hnode, rfl⟩
      · rw [if_neg hover]
        exact h3
    · exact h3
  · exact h1

/-- `client_resign_game` writes `RESIGNED` with the ID of the opponent's node for the
invitation, then ends the game as `resignEnd` does. -/
theorem clientResignGame (h : SentFrom b I w) (c id : Nat)
    (hI : ∀ n, (w.clientInvitations c).findById id = some n → I n.invitation) :
    SentFrom b I (w.clientResignGame c id).2 := by
  unfold World.clientResignGame
  split
  · exact h
  rename_i node hnode
  have hc : ∃ n ∈ (b.clientInvitations c).nodes, I n.invitation ∧ n.id = id :=
    ⟨node, h.listed (InvitationList.findById_mem hnode).1, hI node hnode,
      (InvitationList.findById_mem hnode).2⟩
  dsimp only
  split
  · exact h
  split
  · exact h
  have h1 := h.invClose node.invitation (w.roleOf c node.invitation)
  split <;> rename_i e1 <;> rw [e1] at h1
  · exact h1
  split
  · exact h1
  rename_i oppNode hopp
  obtain ⟨hom, hoi⟩ := InvitationList.findByInvitation_mem hopp
  split <;> rename_i e2 <;>
    have h2 := (h1.clientSendPacket (h1.listed hom) (hoi ▸ hI node hnode) (by rfl)).of_pair e2
  · exact h2.resignEnd hc ⟨oppNode, h1.listed hom, hoi ▸ hI node hnode, rfl⟩
  · exact h2

/-- One round of the walk of `client_logout`, for a client whose handles are all for
invitations of `I`. -/
theorem logoutStep (h : SentFrom b I w) (c : Nat) (node : InvitationNode)
    (hI : ∀ n ∈ (w.clientInvitations c).nodes, I n.invitation) :
    SentFrom b I (World.logoutStep c w node) := by
  have hI' : ∀ n, (w.clientInvitations c).findById node.id = some n → I n.invitation :=
    fun n hn => hI n (InvitationList.findById_mem hn).1
  unfold World.logoutStep
  split_ifs
  exacts [h.clientResignGame c _ hI', h.clientRevokeInvitation c _ hI',
    h.clientDeclineInvitation c _ hI']

/-- The walk of `client_logout`, for a client whose handles in `b` are all for invitations
of `I`. -/
theorem foldl_logoutStep (c : Nat) (hI : ∀ n ∈ (b.clientInvitations c).nodes, I n.invitation) :
    ∀ (nodes : List InvitationNode) {w : World}, SentFrom b I w →
      SentFrom b I (nodes.foldl (World.logoutStep c) w)
  | [], _, h => h
  | n :: ns, _, h => foldl_logoutStep c hI ns (h.logoutStep c n fun m hm => hI m (h.listed hm))

theorem clientLogout (h : SentFrom b I w) (c : Nat)
    (hI : ∀ n ∈ (b.clientInvitations c).nodes, I n.invitation) :
    SentFrom b I (w.clientLogout c).2 := by
  unfold World.clientLogout
  split
  · exact h
  split_ifs
  · exact h
  exact foldl_logoutStep c hI _
    (h.kept (.of_heapKept (heapKept_playerUnref _ _)) (playerUnref_writes _ _))

end SentFrom

/-! ## The INVITE case -/

theorem clientRef_nextAddr (w : World) (c : Nat) : (w.clientRef c).nextAddr = w.nextAddr := by
  unfold clientRef; split <;> rfl

/-- `inv_create` makes its invitation with count one. -/
theorem invCreate_refCount {w v : World} {s t i : Nat} {sr tr : GameRole}
    (e : w.invCreate s t sr tr = (some i, v)) : (v.invitations i).map (·.refCount) = some 1 := by
  unfold invCreate at e
  split at e
  · cases e
  · simp only [Prod.mk.injEq, Option.some.injEq] at e
    obtain ⟨rfl, rfl⟩ := e
    simp [clientRef_invitations]

/-- A successful `client_add_invitation(c, inv)` lists a node for `inv` under the ID it
returns, and takes a reference to the invitation. -/
theorem clientAddInvitation_ok {w v : World} {c inv : Nat} {r : Int}
    (e : w.clientAddInvitation c inv = (r, v)) (hr : r ≠ -1) :
    ⟨inv, r.toNat⟩ ∈ (v.clientInvitations c).nodes ∧
      (v.invitations inv).map (·.refCount) =
        ((w.invitations inv).map (·.refCount)).map (· + 1) := by
  obtain ⟨hid, hnodes⟩ := clientAddInvitation_eq w c inv (by rw [e]; exact hr)
  rw [e] at hid hnodes
  dsimp only at hid hnodes
  refine ⟨by simp [hnodes, hid], ?_⟩
  unfold clientAddInvitation at e
  split at e
  · rename_i x hx
    split at e <;> rename_i e1
    · simp only [Prod.mk.injEq] at e
      obtain ⟨-, rfl⟩ := e
      have hi := (congrFun (heapKept_of_attempt e1).invitations inv).trans hx
      simp [invRef, setClient, hi, hx]
    · exact absurd (Prod.mk.inj e).1.symm hr
  · exact absurd (Prod.mk.inj e).1.symm hr

/-- `inv_unref` of an invitation whose count stays above zero frees no client. -/
theorem invUnref_clients {w : World} {i : Nat} {r : Int}
    (h : (w.invitations i).map (·.refCount) = some r) (hr : r ≠ 1) :
    (w.invUnref i).clients = w.clients := by
  unfold invUnref
  cases e : w.invitations i with
  | none => simp [e] at h
  | some inv =>
      simp only [e, Option.map_some', Option.some.injEq] at h
      simp only
      rw [if_neg (by omega)]
      rfl

theorem clientInvitations_congr {w v : World} {d : Nat} (h : v.clients d = w.clients d) :
    v.clientInvitations d = w.clientInvitations d := by
  unfold clientInvitations; rw [h]

theorem heapKept_of_clientSendPacket {w v : World} {c : Nat} {p : Packet} {o : Outcome}
    (e : w.clientSendPacket c p = (o, v)) : HeapKept w v := by
  simpa [e] using heapKept_clientSendPacket w c p

/-- `client_make_invitation(s, t, ...)`, for a target other than the source, makes an
invitation `i` at an address not handed out before. Its one write is `INVITED` to the target,
with the ID of the node for `i` it has just added to the target's list; both new nodes stay
listed, and on success the source's has the ID returned. -/
theorem clientMakeInvitation_names (w : World) {s t : Nat} (hst : s ≠ t) (sr tr : GameRole) :
    ∃ i, w.nextAddr ≤ i ∧
      Adds w (w.clientMakeInvitation s t sr tr).2 (fun x =>
        (w.clientMakeInvitation s t sr tr).2.NamesHandle i x ∧
          ∃ m ∈ ((w.clientMakeInvitation s t sr tr).2.clientInvitations s).nodes,
            m.invitation = i) ∧
      ((w.clientMakeInvitation s t sr tr).1 ≠ -1 →
        ⟨i, (w.clientMakeInvitation s t sr tr).1.toNat⟩ ∈
          ((w.clientMakeInvitation s t sr tr).2.clientInvitations s).nodes) := by
  unfold clientMakeInvitation
  split
  · rename_i w1 e
    exact ⟨w.nextAddr, le_rfl, .of_writes (by rw [← invCreate_writes w s t sr tr, e]),
      fun h => absurd rfl h⟩
  rename_i inv w1 e
  have hw1 : w1.writes = w.writes := by rw [← invCreate_writes w s t sr tr, e]
  refine ⟨inv, (invCreate_addr e).ge, ?_⟩
  split
  · rename_i w2 e2
    exact ⟨.of_writes
        (by rw [invUnref_writes, ← hw1, ← clientAddInvitation_writes w1 s inv, e2]),
      fun h => absurd rfl h⟩
  rename_i clientId w2 hne2 e2
  obtain ⟨hs2, hr2⟩ := clientAddInvitation_ok e2 hne2
  have hw2 : w2.writes = w.writes := by rw [← hw1, ← clientAddInvitation_writes w1 s inv, e2]
  split
  · rename_i w3 e3
    exact ⟨.of_writes
        (by rw [invUnref_writes, ← hw2, ← clientAddInvitation_writes w2 t inv, e3]),
      fun h => absurd rfl h⟩
  rename_i targetId w3 hne3 e3
  obtain ⟨ht3, hr3⟩ := clientAddInvitation_ok e3 hne3
  have hs3 : ⟨inv, clientId.toNat⟩ ∈ (w3.clientInvitations s).nodes := by
    rwa [clientInvitations_congr (clientAddInvitation_clients e3 hst)]
  have hw3 : w3.writes = w.writes := by rw [← hw2, ← clientAddInvitation_writes w2 t inv, e3]
  dsimp only
  -- the `INVITED` send, and a world with its lists and its writes
  have key : ∀ {p : Packet} {o : Outcome} {w4 : World}, w3.clientSendPacket t p = (o, w4) →
      p.id = UInt8.ofNat targetId.toNat → ∀ v : World, v.clients = w4.clients →
      v.writes = w4.writes →
      Adds w v (fun x => v.NamesHandle inv x ∧ ∃ m ∈ (v.clientInvitations s).nodes,
        m.invitation = inv) ∧ ⟨inv, clientId.toNat⟩ ∈ (v.clientInvitations s).nodes := by
    intro p o w4 e4 hp v hc hv
    have hl : ∀ d, v.clientInvitations d = w3.clientInvitations d := fun d =>
      clientInvitations_congr
        ((congrFun hc d).trans (congrFun (heapKept_of_clientSendPacket e4).clients d))
    obtain ⟨ys, hys, hy⟩ := Adds.clientSendPacket w3 t p
    rw [e4] at hys
    refine ⟨⟨ys, by rw [hv, hys, hw3], fun x hx => ?_⟩, by rw [hl]; exact hs3⟩
    obtain ⟨hxc, -, hid⟩ := hy x hx
    exact ⟨⟨_, by rw [hl, hxc]; exact ht3, rfl, hid.trans hp⟩, _,
      by rw [hl]; exact hs3, rfl⟩
  split
  · rename_i w4 e4
    have h4 : (w4.invitations inv).map (·.refCount) = some 3 := by
      rw [(heapKept_of_clientSendPacket e4).invitations, hr3, hr2, invCreate_refCount e]; rfl
    obtain ⟨ha, hm⟩ := key e4 rfl _ (invUnref_clients h4 (by decide)) (invUnref_writes _ _)
    exact ⟨ha, fun _ => hm⟩
  · rename_i w4 _ e4
    exact ⟨(key e4 rfl w4 rfl rfl).1, fun h => absurd rfl h⟩

end World

namespace Accounted

/-- A registered client on which the running code holds a reference of its own is not freed
by `client_unref`: every list stays as it was. -/
theorem clientUnref_clientInvitations {reg : List Nat} {oc oi : Nat → Int} {w : World}
    (h : Accounted reg oc oi w) {c : Nat} (hc : c ∈ reg) (hoc : 1 ≤ oc c) (d : Nat) :
    (w.clientUnref c).clientInvitations d = w.clientInvitations d := by
  have hneed : 1 ≤ w.clientNeed c := by
    have := List.count_pos_iff.2 (h.registry ▸ hc)
    unfold World.clientNeed; omega
  have hrefs := h.clients c
  unfold World.clientUnref
  split
  · rfl
  rename_i cl e
  rw [e] at hrefs
  simp only [clientRefs] at hrefs
  rw [if_neg (by omega)]
  by_cases hd : d = c
  · subst hd; simp [World.clientInvitations, World.setClient, e]
  · simp [World.clientInvitations, World.setClient, Function.update_noteq hd]

end Accounted

theorem ofNat_toNat8 (x : UInt8) : UInt8.ofNat x.toNat = x :=
  UInt8.toNat.inj (by rw [toNat_ofNat8]; exact Nat.mod_eq_of_lt x.val.isLt)

namespace World

/-! ## The service loop -/

/-- Invitation `i` is the one client `c` lists in `w` under the ID `id`. -/
def ListedUnder (w : World) (c id i : Nat) : Prop :=
  ∃ n, (w.clientInvitations c).findById id = some n ∧ n.invitation = i

/-- Client `c` holds a handle for invitation `i` in `w`. -/
def HoldsHandle (w : World) (c i : Nat) : Prop :=
  ∃ m ∈ (w.clientInvitations c).nodes, m.invitation = i

section Service

variable {w : World} {t : Option JeuxPacketType} {R : Write → Prop}

theorem NamesHandle.of_lists {u v : World}
    (h : ∀ d, v.clientInvitations d = u.clientInvitations d)
    {i : Nat} {x : Write} (hx : u.NamesHandle i x) : v.NamesHandle i x :=
  let ⟨n, hn, hi, hid⟩ := hx
  ⟨n, by rwa [h], hi, hid⟩

theorem HoldsHandle.of_lists {u v : World}
    (h : ∀ d, v.clientInvitations d = u.clientInvitations d)
    {c i : Nat} (hx : u.HoldsHandle c i) : v.HoldsHandle c i :=
  let ⟨m, hm, hi⟩ := hx
  ⟨m, by rwa [h], hi⟩

@[simp] theorem clientLogin_writes (w : World) (c : Nat) (p : Option Nat) :
    (w.clientLogin c p).2.writes = w.writes := by
  unfold clientLogin
  (repeat' (first | split | dsimp only)) <;> simp_all [pair_eq_iff]

/-- The answers: a `NACK`, or an `ACK`, added to writes that leave the lists as they were. -/
theorem Adds.answers {u : World} (hu : u.writes = w.writes) (c : Nat) :
    Adds w (u.clientSendNack c) (fun x => x.frame.type = .ackPkt ∨ x.frame.type = .nackPkt) ∧
      ∀ d n, Adds w (u.clientSendAck c d n)
        (fun x => x.frame.type = .ackPkt ∨ x.frame.type = .nackPkt) :=
  ⟨(Adds.of_writes hu).trans ((Adds.clientSendNack u c).mono fun _ h => .inr h),
    fun d n => (Adds.of_writes hu).trans ((Adds.clientSendAck u c d n).mono fun _ h => .inl h)⟩

/-- An answer is about no invitation, but for INVITE and ACCEPT. -/
theorem Adds.answers_about {u : World}
    (h : Adds w u fun x => x.frame.type = .ackPkt ∨ x.frame.type = .nackPkt)
    (ht : (t == some .invitePkt || t == some .acceptPkt) = false) :
    Adds w u fun x => x.frame.aboutInvitation t = true → R x :=
  h.mono fun x hx ha => by rcases hx with hx | hx <;> simp [Frame.aboutInvitation, hx, ht] at ha

theorem Adds.clientSendNack_about {u : World}
    (h : Adds w u fun x => x.frame.aboutInvitation t = true → R x)
    (c : Nat) : Adds w (u.clientSendNack c) fun x => x.frame.aboutInvitation t = true → R x :=
  h.trans ((Adds.clientSendNack u c).mono fun x hx ha => by simp [Frame.aboutInvitation, hx] at ha)

theorem Adds.clientSendAck_about {u : World}
    (h : Adds w u fun x => x.frame.aboutInvitation t = true → R x)
    (ht : (t == some .invitePkt || t == some .acceptPkt) = false) (c : Nat)
    (d : Option (List UInt8))
    (n : Nat) : Adds w (u.clientSendAck c d n) fun x => x.frame.aboutInvitation t = true → R x :=
  h.trans ((Adds.clientSendAck u c d n).mono fun x hx ha => by
    simp [Frame.aboutInvitation, hx, ht] at ha)

/-- The LOGIN case writes nothing but its answer. -/
theorem loginRequest_adds (w : World) (c : Nat) (name : List UInt8) :
    Adds w (w.loginRequest c name).1 fun x =>
      x.frame.type = .ackPkt ∨ x.frame.type = .nackPkt := by
  unfold loginRequest
  (repeat' (first | split | dsimp only)) <;>
    first
    | apply (Adds.answers ?_ c).1
    | apply (Adds.answers ?_ c).2
  all_goals simp_all [pair_eq_iff]

/-- A successful `client_accept_invitation` found the client's node for the ID. -/
theorem clientAcceptInvitation_found {c id : Nat} (h : (w.clientAcceptInvitation c id).1.1 ≠ -1) :
    ∃ n, (w.clientInvitations c).findById id = some n := by
  unfold clientAcceptInvitation at h
  split at h
  · exact absurd rfl h
  · exact ⟨_, ‹_›⟩

/-- A packet other than INVITE: every frame about an invitation that its handling writes names
its recipient's handle, in `w`, for the invitation the client lists under the packet's id
byte. -/
theorem jeuxClientService_names_of_ne (w : World) (s : Session) (pkt : InPacket)
    (hne : JeuxPacketType.ofCode pkt.type ≠ some .invitePkt) :
    Adds w (jeuxClientService w s pkt).1 fun x =>
      x.frame.aboutInvitation (JeuxPacketType.ofCode pkt.type) = true →
        ∃ i, w.ListedUnder s.client pkt.id.toNat i ∧ w.NamesHandle i x := by
  have h0 := SentFrom.refl w (w.ListedUnder s.client pkt.id.toNat)
  have hI : ∀ n, (w.clientInvitations s.client).findById pkt.id.toNat = some n →
      w.ListedUnder s.client pkt.id.toNat n.invitation := fun n hn => ⟨n, hn, rfl⟩
  have sent : ∀ {u : World}, SentFrom w (w.ListedUnder s.client pkt.id.toNat) u →
      Adds w u fun x => x.frame.aboutInvitation (JeuxPacketType.ofCode pkt.type) = true →
        ∃ i, w.ListedUnder s.client pkt.id.toNat i ∧ w.NamesHandle i x :=
    fun h => h.writes.mono fun _ hx _ => hx
  have nack : Adds w (w.clientSendNack s.client) fun x =>
      x.frame.aboutInvitation (JeuxPacketType.ofCode pkt.type) = true →
        ∃ i, w.ListedUnder s.client pkt.id.toNat i ∧ w.NamesHandle i x :=
    (Adds.of_writes rfl).clientSendNack_about _
  -- the answer of REVOKE, DECLINE, MOVE and RESIGN, which is about no invitation
  have answer : ∀ {r : Int × World}, SentFrom w (w.ListedUnder s.client pkt.id.toNat) r.2 →
      (JeuxPacketType.ofCode pkt.type == some .invitePkt ||
        JeuxPacketType.ofCode pkt.type == some .acceptPkt) = false →
      Adds w (match r with
        | (-1, w) => (w.clientSendNack s.client, s)
        | (_, w) => (w.clientSendAck s.client none 0, s)).1 fun x =>
          x.frame.aboutInvitation (JeuxPacketType.ofCode pkt.type) = true →
            ∃ i, w.ListedUnder s.client pkt.id.toNat i ∧ w.NamesHandle i x := fun h1 ht => by
    split
    exacts [(sent h1).clientSendNack_about _, (sent h1).clientSendAck_about ht _ _ _]
  unfold jeuxClientService
  dsimp only
  split <;> rename_i ht
  case h_1 =>
    split
    · split <;> rename_i e <;> have h1 := loginRequest_adds w s.client
        (cString ((pkt.payload.getD []).take pkt.size)) <;> rw [e] at h1 <;>
        exact h1.answers_about (by simp [ht])
    · exact nack
  case h_2 =>
    split
    · exact nack
    have hw2 : (w.cregAllPlayers.2.usersLines w.cregAllPlayers.1).1.writes = w.writes := by simp
    split
    · rename_i w3 e3
      have hw3 : w3.writes = w.writes := by rw [← hw2, ← attempt_writes (usersLines _ _).1, e3]
      exact ((Adds.answers hw3 s.client).2 _ _).answers_about (by simp [ht])
    · rename_i w3 _ e3
      have hw3 : w3.writes = w.writes := by rw [← hw2, ← attempt_writes (usersLines _ _).1, e3]
      exact (Adds.answers hw3 s.client).1.answers_about (by simp [ht])
  case h_3 => exact absurd ht hne
  case h_6 =>
    split
    · exact nack
    split <;> rename_i e
    · exact (sent ((h0.clientAcceptInvitation _ _ hI).of_pair e)).clientSendNack_about _
    rename_i r str u hr
    obtain ⟨n, hn⟩ := clientAcceptInvitation_found (by rw [e]; exact hr)
    obtain ⟨hmem, hid⟩ := InvitationList.findById_mem hn
    refine (sent ((h0.clientAcceptInvitation _ _ hI).of_pair e)).trans
      ((Adds.clientSendPacket u _ _).mono fun x ⟨hx, _, hxid⟩ _ => ?_)
    exact ⟨n.invitation, hI n hn, n, hx ▸ hmem, rfl, by rw [hxid, hid, ofNat_toNat8]⟩
  case h_9 => exact .of_writes rfl
  all_goals split
  all_goals try exact nack
  case h_4.isFalse => exact answer (h0.clientRevokeInvitation _ _ hI) (by simp [ht])
  case h_5.isFalse => exact answer (h0.clientDeclineInvitation _ _ hI) (by simp [ht])
  case h_7.isFalse => exact answer (h0.clientMakeMove _ _ _ hI) (by simp [ht])
  case h_8.isFalse => exact answer (h0.clientResignGame _ _ hI) (by simp [ht])

/-- The INVITE case, from a world whose heap is accounted for and a registered client: every
frame about an invitation that it writes is about the invitation it creates, at an address not
handed out before, which the client holds afterwards; and it names its recipient's handle for
it in the world the request leaves. -/
theorem jeuxClientService_names_invite {reg : List Nat} (h : Accounted reg 0 0 w) {s : Session}
    (hc : s.client ∈ reg) (pkt : InPacket)
    (hinv : JeuxPacketType.ofCode pkt.type = some .invitePkt) :
    Adds w (jeuxClientService w s pkt).1 fun x =>
      x.frame.aboutInvitation (some .invitePkt) = true →
        ∃ i, w.nextAddr ≤ i ∧ (jeuxClientService w s pkt).1.HoldsHandle s.client i ∧
          (jeuxClientService w s pkt).1.NamesHandle i x := by
  have nack : ∀ {u : World}, u.writes = w.writes → ∀ {R : Write → Prop},
      Adds w (u.clientSendNack s.client) fun x =>
        x.frame.aboutInvitation (some .invitePkt) = true → R x :=
    fun hu => (Adds.of_writes hu).clientSendNack_about _
  unfold jeuxClientService
  simp only [hinv]
  split
  · exact nack rfl
  rcases cregLookup_cases w (pkt.payload.map cString) with e | ⟨t, ht, e⟩ <;> simp only [e]
  · exact nack rfl
  split
  · exact nack (by simp)
  split
  swap
  · exact nack (by simp)
  rename_i hct _
  generalize (if pkt.role = 1 then (GameRole.secondPlayerRole, GameRole.firstPlayerRole)
    else (GameRole.firstPlayerRole, GameRole.secondPlayerRole)) = roles
  obtain ⟨i, hi, hadds, hnode⟩ :=
    clientMakeInvitation_names (w.clientRef t) (Ne.symm hct) roles.1 roles.2
  have hw1 : (w.clientRef t).writes = w.writes := clientRef_writes w t
  rw [clientRef_nextAddr] at hi
  split
  · -- refused: the `NACK` leaves the lists as they were
    rename_i w2 e2
    rw [e2] at hadds
    dsimp only at hadds
    have hl : ∀ d, (w2.clientSendNack s.client).clientInvitations d = w2.clientInvitations d :=
      fun d => clientInvitations_congr (congrFun (heapKept_clientSendNack w2 _).clients d)
    exact ((Adds.of_writes hw1).trans (hadds.mono fun x ⟨hx, hh⟩ _ =>
      ⟨i, hi, HoldsHandle.of_lists hl hh, hx.of_lists hl⟩)).clientSendNack_about _
  · -- made: `creg_lookup`'s reference to the target is spent, which leaves it allocated
    rename_i r w2 hr e2
    rw [e2] at hadds hnode
    dsimp only at hadds hnode
    have h0 := h.cregLookup (fun _ => le_rfl) (pkt.payload.map cString)
    rw [e] at h0
    have h2 := (h0.clientMakeInvitation (clientRef_isSome (h.isSome_of_mem le_rfl hc) t)
      (clientRef_isSome (h.isSome_of_mem le_rfl (h.registry ▸ ht)) t) roles.1 roles.2).of_pair e2
    have hl : ∀ d, ((w2.clientUnref t).clientSendPacket s.client
        ⟨.ackPkt, UInt8.ofNat r.toNat, 0, 0, none⟩).2.clientInvitations d =
          w2.clientInvitations d := fun d =>
      (clientInvitations_congr (congrFun (heapKept_clientSendPacket _ _ _).clients d)).trans
        (h2.clientUnref_clientInvitations (h.registry ▸ ht) (by simp) d)
    have hm := hnode hr
    refine (((Adds.of_writes hw1).trans (hadds.mono fun x ⟨hx, hh⟩ _ =>
      ⟨i, hi, HoldsHandle.of_lists hl hh, hx.of_lists hl⟩)).trans
        (.of_writes (clientUnref_writes _ t))).trans
      ((Adds.clientSendPacket _ _ _).mono fun x ⟨hxc, _, hid⟩ _ => ?_)
    -- the `ACK` carries the ID of the inviter's new node
    exact ⟨i, hi, ⟨_, by rw [hl]; exact hm, rfl⟩,
      ⟨_, by rw [hl, hxc]; exact hm, rfl, hid⟩⟩

/-- What a frame about an invitation, written while client `c`'s request `pkt` takes `w` to
`v`, names: for INVITE, its recipient's handle in `v` for the invitation the request creates,
at an address not handed out in `w`, which `c` holds in `v`; for every other request, its
recipient's handle in `w` for the invitation `c` lists under the request's id byte. -/
def RequestNames (w v : World) (c : Nat) (pkt : InPacket) (x : Write) : Prop :=
  if JeuxPacketType.ofCode pkt.type = some .invitePkt then
    ∃ i, w.nextAddr ≤ i ∧ v.HoldsHandle c i ∧ v.NamesHandle i x
  else ∃ i, w.ListedUnder c pkt.id.toNat i ∧ w.NamesHandle i x

/-- The handling of one packet of a registered client, from a world whose heap is accounted
for: every frame about an invitation that it writes names what `RequestNames` says. -/
theorem jeuxClientService_names {reg : List Nat} (h : Accounted reg 0 0 w) {s : Session}
    (hc : s.client ∈ reg) (pkt : InPacket) :
    Adds w (jeuxClientService w s pkt).1 fun x =>
      x.frame.aboutInvitation (JeuxPacketType.ofCode pkt.type) = true →
        w.RequestNames (jeuxClientService w s pkt).1 s.client pkt x := by
  unfold RequestNames
  by_cases hinv : JeuxPacketType.ofCode pkt.type = some .invitePkt
  · simp only [hinv, ↓reduceIte]
    exact jeuxClientService_names_invite h hc pkt hinv
  · simp only [hinv, ↓reduceIte]
    exact jeuxClientService_names_of_ne w s pkt hinv

/-- The end of a connection: every frame it writes names, in `w`, its recipient's handle for
an invitation the ending client held. -/
theorem serviceExit_names (w : World) (s : Session) :
    Adds w (serviceExit w s) fun x => ∃ i, w.HoldsHandle s.client i ∧ w.NamesHandle i x :=
  (((SentFrom.refl w _).clientLogout s.client fun n hn => ⟨n, hn, rfl⟩).kept
    (linksKept_cregUnregister _) (cregUnregister_writes _ _)).writes

end Service

end World

namespace Server

end Server

end JeuxServer
