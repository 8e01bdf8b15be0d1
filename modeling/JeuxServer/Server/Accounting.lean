import JeuxServer.Server.Handles
import Mathlib.Algebra.Order.BigOperators.Group.Finset

/-!
# Reference counts: what the heap's pointers need

`CLIENT`s and `INVITATION`s are reference counted, and freed when their count reaches zero.
Their pointers live in three places: the client registry's nodes, the `source` and `target`
of each invitation, and the `INVITATION_NODE`s of each client's list. A count that is
decremented once too often frees an object while one of these still points to it.

`Accounted` is the accounting that rules this out. The count of every client covers its
registry node and each end of a live invitation that names it (`World.clientNeed`). The count
of every invitation covers the list nodes that point to it (`World.invHolders`). The ghost
maps `oc` and `oi` add the references the code that is running holds itself, such as the one
`creg_lookup` hands to its caller or the one `inv_create` returns. They are negative while
it owes one, between a write and the `ref` that pays for it. The counts may be higher than
this: the leaks only raise them
(`Server.invited_failed_count_exceeds_handles`, `Server.invite_bad_role_leaks_target`).

Every operation keeps the accounting, and moves the ghost references as the code says
(`Accounted.invCreate`, `Accounted.clientUnref`, ...). The invitation calls are made of a few
steps, and `World.CallsKeep` says once that an invariant those steps keep is kept by every call. The server's invariant `Server.Safe`
adds that the live service threads' clients are the registered ones, oldest first; each
event keeps it (`Server.Safe.step`). So along every run of the server no registered client
is freed, no live invitation's source or target is freed, and no client lists a freed
invitation (`Server.run_no_dangling`). The registry holds each client once, at most
`MAX_CLIENTS` of them, with `client_count` its length (`Server.run_sessions_registered`).
-/

set_option autoImplicit false

namespace JeuxServer

open Finset

/-- The nodes of a client's list that point to invitation `i`. A freed client has none. -/
def handlesOf (x : Option Client) (i : Nat) : Nat :=
  match x with
  | some cl => cl.invitations.nodes.countP (·.invitation == i)
  | none => 0

/-- The pointers an invitation holds to client `c`: one as its source, one as its target. -/
def endsOf (x : Option Invitation) (c : Nat) : Nat :=
  match x with
  | some inv => (if inv.sender = c then 1 else 0) + (if inv.recipient = c then 1 else 0)
  | none => 0

/-- A client's reference count, and zero once it is freed. -/
def clientRefs (x : Option Client) : Int :=
  match x with
  | some cl => cl.refCount
  | none => 0

/-- An invitation's reference count, and zero once it is freed. -/
def invRefs (x : Option Invitation) : Int :=
  match x with
  | some inv => inv.refCount
  | none => 0

namespace World

/-- The references client `c`'s count has to cover: its registry nodes, and the ends of the
live invitations that name it. -/
def clientNeed (w : World) (c : Nat) : Nat :=
  w.registry.count c + ∑ i ∈ range w.nextAddr, endsOf (w.invitations i) c

/-- The references invitation `i`'s count has to cover: the nodes of the live clients' lists
that point to it. -/
def invHolders (w : World) (i : Nat) : Nat :=
  ∑ c ∈ range w.nextAddr, handlesOf (w.clients c) i

end World

/-- The accounting of the heap, for the registry `reg`, with `oc` and `oi` the references
that the running code holds itself. -/
structure Accounted (reg : List Nat) (oc oi : Nat → Int) (w : World) : Prop where
  registry : w.registry = reg
  clientCount : w.clientCount = reg.length
  /-- Nothing is allocated beyond the allocation frontier. -/
  fresh : ∀ a, w.nextAddr ≤ a → w.clients a = none ∧ w.invitations a = none
  clients : ∀ c, (w.clientNeed c : Int) + oc c ≤ clientRefs (w.clients c)
  invitations : ∀ i, (w.invHolders i : Int) + oi i ≤ invRefs (w.invitations i)

/-! ## Sums over the allocated addresses -/

/-- A write to one summand changes a sum over a range by the difference. -/
theorem sum_range_write {f g : Nat → Nat} {n a : Nat} (ha : a < n)
    (h : ∀ j, j ≠ a → g j = f j) :
    (∑ j ∈ range n, g j) + f a = (∑ j ∈ range n, f j) + g a := by
  have e : ∑ j ∈ (range n).erase a, g j = ∑ j ∈ (range n).erase a, f j :=
    sum_congr rfl fun j hj => h j (ne_of_mem_erase hj)
  rw [← add_sum_erase (range n) g (mem_range.2 ha), ← add_sum_erase (range n) f (mem_range.2 ha),
    e]
  omega

/-- One summand is at most the sum. -/
theorem le_sum_range {f : Nat → Nat} {n a : Nat} (ha : a < n) : f a ≤ ∑ j ∈ range n, f j :=
  single_le_sum (fun _ _ => Nat.zero_le _) (mem_range.2 ha)

@[simp] theorem handlesOf_none (i : Nat) : handlesOf none i = 0 := rfl

@[simp] theorem endsOf_none (c : Nat) : endsOf none c = 0 := rfl

@[simp] theorem clientRefs_none : clientRefs none = 0 := rfl

@[simp] theorem invRefs_none : invRefs none = 0 := rfl

namespace Accounted

variable {reg : List Nat} {oc oi : Nat → Int} {w v : World}

/-! ## What the invariant gives -/

theorem lt_of_client (h : Accounted reg oc oi w) {c : Nat} {cl : Client}
    (hc : w.clients c = some cl) : c < w.nextAddr :=
  Nat.lt_of_not_le fun hle => by simp [(h.fresh c hle).1] at hc

theorem lt_of_invitation (h : Accounted reg oc oi w) {i : Nat} {inv : Invitation}
    (hi : w.invitations i = some inv) : i < w.nextAddr :=
  Nat.lt_of_not_le fun hle => by simp [(h.fresh i hle).2] at hi

/-- A client whose count must cover a reference it does not owe is allocated. -/
theorem client_isSome (h : Accounted reg oc oi w) {c : Nat} (hoc : 0 ≤ oc c)
    (hn : 0 < w.clientNeed c) : (w.clients c).isSome := by
  have := h.clients c
  cases hc : w.clients c <;> simp_all
  omega

/-- A registered client is allocated, when the running code owes it nothing. -/
theorem isSome_of_mem (h : Accounted reg oc oi w) {c : Nat} (hoc : 0 ≤ oc c) (hc : c ∈ reg) :
    (w.clients c).isSome :=
  h.client_isSome hoc (Nat.lt_add_right _ (List.count_pos_iff.2 (h.registry ▸ hc)))

/-! ## Changing the invariant's data -/

theorem mono (h : Accounted reg oc oi w) {oc' oi' : Nat → Int} (hc : ∀ c, oc' c ≤ oc c)
    (hi : ∀ i, oi' i ≤ oi i) : Accounted reg oc' oi' w :=
  ⟨h.registry, h.clientCount, h.fresh, fun c => (add_le_add_left (hc c) _).trans (h.clients c),
    fun i => (add_le_add_left (hi i) _).trans (h.invitations i)⟩

/-- A world with the same clients, invitations, registry and frontier keeps the invariant. -/
theorem of_eq (h : Accounted reg oc oi w) (hc : v.clients = w.clients)
    (hi : v.invitations = w.invitations) (hr : v.registry = w.registry)
    (hn : v.clientCount = w.clientCount) (ha : v.nextAddr = w.nextAddr) : Accounted reg oc oi v := by
  have need : v.clientNeed = w.clientNeed := by
    funext c; simp only [World.clientNeed, hr, ha, hi]
  have holders : v.invHolders = w.invHolders := by
    funext i; simp only [World.invHolders, ha, hc]
  exact ⟨hr.trans h.registry, hn.trans h.clientCount, fun a hle => by
    rw [hc, hi]; exact h.fresh a (ha ▸ hle), fun c => by rw [need, hc]; exact h.clients c,
    fun i => by rw [holders, hi]; exact h.invitations i⟩

/-- Moving the frontier past a free address. -/
theorem grow (h : Accounted reg oc oi w) :
    Accounted reg oc oi { w with nextAddr := w.nextAddr + 1 } := by
  obtain ⟨hc, hi⟩ := h.fresh w.nextAddr le_rfl
  refine ⟨h.registry, h.clientCount, fun a hle => h.fresh a (by simp at hle; omega),
    fun c => ?_, fun i => ?_⟩
  · simpa [World.clientNeed, sum_range_succ, hi] using h.clients c
  · simpa [World.invHolders, sum_range_succ, hc] using h.invitations i

/-- A write to one client: its count and its handles move into the ghost references. -/
theorem setClient (h : Accounted reg oc oi w) {c : Nat} (hc : c < w.nextAddr)
    (x : Option Client) :
    Accounted reg (fun d => if d = c then oc d + clientRefs x - clientRefs (w.clients c) else oc d)
      (fun i => oi i + handlesOf (w.clients c) i - handlesOf x i) (w.setClient c x) := by
  refine ⟨h.registry, h.clientCount, fun a hle => ?_, fun d => ?_, fun i => ?_⟩
  · have ha : a ≠ c := by rintro rfl; exact absurd hle (Nat.not_le.2 hc)
    simpa [World.setClient, Function.update_noteq ha] using h.fresh a hle
  · have := h.clients d
    rw [show (w.setClient c x).clientNeed d = w.clientNeed d from rfl]
    by_cases e : d = c
    · subst e; simp only [World.setClient, Function.update_same, eq_self_iff_true, if_true]; omega
    · simpa [World.setClient, Function.update_noteq e, e] using this
  · have hs := sum_range_write (f := fun d => handlesOf (w.clients d) i)
      (g := fun d => handlesOf ((w.setClient c x).clients d) i) hc
      (fun j hj => by simp [World.setClient, Function.update_noteq hj])
    have := h.invitations i
    simp only [World.setClient, Function.update_same] at hs
    simp only [World.invHolders, World.setClient] at this ⊢
    omega

/-- A write to one invitation: its count, and the ends it holds, move into the ghost
references. -/
theorem setInvitation (h : Accounted reg oc oi w) {i : Nat} (hi : i < w.nextAddr)
    (x : Option Invitation) :
    Accounted reg (fun c => oc c + endsOf (w.invitations i) c - endsOf x c)
      (fun j => if j = i then oi j + invRefs x - invRefs (w.invitations i) else oi j)
      (w.setInvitation i x) := by
  refine ⟨h.registry, h.clientCount, fun a hle => ?_, fun c => ?_, fun j => ?_⟩
  · have ha : a ≠ i := by rintro rfl; exact absurd hle (Nat.not_le.2 hi)
    simpa [World.setInvitation, Function.update_noteq ha] using h.fresh a hle
  · have hs := sum_range_write (f := fun j => endsOf (w.invitations j) c)
      (g := fun j => endsOf ((w.setInvitation i x).invitations j) c) hi
      (fun j hj => by simp [World.setInvitation, Function.update_noteq hj])
    have := h.clients c
    simp only [World.setInvitation, Function.update_same] at hs
    simp only [World.clientNeed, World.setInvitation] at this ⊢
    omega
  · have := h.invitations j
    rw [show (w.setInvitation i x).invHolders j = w.invHolders j from rfl]
    by_cases e : j = i
    · subst e; simp only [World.setInvitation, Function.update_same, eq_self_iff_true, if_true]; omega
    · simpa [World.setInvitation, Function.update_noteq e, e] using this

/-- A new registry: the change in each client's registry nodes moves into the ghost
references. -/
theorem setRegistry (h : Accounted reg oc oi w) (reg' : List Nat) {n : Nat}
    (hn : n = reg'.length) :
    Accounted reg' (fun c => oc c + reg.count c - reg'.count c) oi
      { w with registry := reg', clientCount := n } := by
  refine ⟨rfl, hn, h.fresh, fun c => ?_, h.invitations⟩
  have := h.clients c
  simp only [World.clientNeed, h.registry] at this ⊢
  omega

end Accounted

/-! ## Operations that leave the pointers alone -/

namespace World

/-- From `w` to `v` the clients, invitations, registry and frontier are unchanged. -/
structure HeapKept (w v : World) : Prop where
  clients : v.clients = w.clients
  invitations : v.invitations = w.invitations
  registry : v.registry = w.registry
  clientCount : v.clientCount = w.clientCount
  nextAddr : v.nextAddr = w.nextAddr

namespace HeapKept

theorem refl (w : World) : HeapKept w w := ⟨rfl, rfl, rfl, rfl, rfl⟩

theorem trans {u v w : World} (h1 : HeapKept u v) (h2 : HeapKept v w) : HeapKept u w :=
  ⟨h2.clients.trans h1.clients, h2.invitations.trans h1.invitations,
    h2.registry.trans h1.registry, h2.clientCount.trans h1.clientCount,
    h2.nextAddr.trans h1.nextAddr⟩

end HeapKept

section Kept

variable (w : World)

theorem heapKept_attempt : HeapKept w w.attempt.2 := by
  unfold attempt; split <;> exact ⟨rfl, rfl, rfl, rfl, rfl⟩

theorem heapKept_of_attempt {w v : World} {o : Outcome} (e : w.attempt = (o, v)) :
    HeapKept w v := by
  simpa [e] using heapKept_attempt w

theorem heapKept_setPlayer (p : Nat) (x : Option Player) : HeapKept w (w.setPlayer p x) :=
  ⟨rfl, rfl, rfl, rfl, rfl⟩

/-- Freeing an invitation is removing it from the heap: the freed game's contents it keeps are
no pointer. -/
theorem heapKept_freeInvitation (i : Nat) : HeapKept (w.setInvitation i none) (w.freeInvitation i) :=
  ⟨rfl, rfl, rfl, rfl, rfl⟩

theorem heapKept_playerRef (p : Option Nat) : HeapKept w (w.playerRef p) := by
  unfold playerRef; (repeat' split) <;> exact ⟨rfl, rfl, rfl, rfl, rfl⟩

theorem heapKept_playerUnref (p : Option Nat) : HeapKept w (w.playerUnref p) := by
  unfold playerUnref; (repeat' split) <;> exact ⟨rfl, rfl, rfl, rfl, rfl⟩

theorem heapKept_clientSendPacket (c : Nat) (p : Packet) : HeapKept w (w.clientSendPacket c p).2 := by
  unfold clientSendPacket; dsimp only
  split_ifs <;> first
    | exact ⟨rfl, rfl, rfl, rfl, rfl⟩ | exact (heapKept_attempt w).trans ⟨rfl, rfl, rfl, rfl, rfl⟩

theorem heapKept_foldl_playerRef (ps : List Nat) :
    HeapKept w (ps.foldl (fun w p => w.playerRef (some p)) w) := by
  induction ps generalizing w with
  | nil => exact .refl w
  | cons p ps ih => exact (heapKept_playerRef w _).trans (ih _)

theorem heapKept_foldl_playerUnref (ps : List Nat) :
    HeapKept w (ps.foldl (fun w p => w.playerUnref (some p)) w) := by
  induction ps generalizing w with
  | nil => exact .refl w
  | cons p ps ih => exact (heapKept_playerUnref w _).trans (ih _)

theorem heapKept_checkIfOtherClientsLoggedIn (name : List UInt8) :
    HeapKept w (w.checkIfOtherClientsLoggedIn name).2 :=
  (heapKept_foldl_playerRef w _).trans (heapKept_foldl_playerUnref _ _)

theorem heapKept_usersLines (ps : List Nat) : HeapKept w (w.usersLines ps).1 := by
  induction ps generalizing w with
  | nil => exact .refl w
  | cons p ps ih => exact (heapKept_playerUnref w _).trans (ih _)

theorem heapKept_clientSendAck (c : Nat) (d : Option (List UInt8)) (n : Nat) :
    HeapKept w (w.clientSendAck c d n) := by
  unfold clientSendAck; split <;> rename_i e
  · exact (heapKept_of_attempt e).trans (heapKept_clientSendPacket _ _ _)
  · exact heapKept_of_attempt e

theorem heapKept_clientSendNack (c : Nat) : HeapKept w (w.clientSendNack c) := by
  unfold clientSendNack; split <;> rename_i e
  · exact (heapKept_of_attempt e).trans (heapKept_clientSendPacket _ _ _)
  · exact heapKept_of_attempt e

end Kept

theorem clientRef_isSome {w : World} {c : Nat} (hc : (w.clients c).isSome) (d : Nat) :
    ((w.clientRef d).clients c).isSome := by
  unfold clientRef; split
  · exact hc
  · simp only [setClient, Function.update_apply]; split_ifs <;> simp_all

/-- `creg_lookup` finds nothing, or a registered client, whose count it increments. -/
theorem cregLookup_cases (w : World) (u : Option (List UInt8)) :
    w.cregLookup u = (none, w) ∨ ∃ c ∈ w.registry, w.cregLookup u = (some c, w.clientRef c) := by
  unfold cregLookup
  split
  · exact .inl rfl
  · split
    · exact .inr ⟨_, List.mem_of_find?_eq_some ‹_›, rfl⟩
    · exact .inl rfl

/-- A successful `alloc` moves the frontier by one, from a world that keeps the heap. -/
theorem alloc_some {w w1 : World} {i : Nat} (e : w.alloc = (some i, w1)) :
    i = w.attempt.2.nextAddr ∧ w1 = { w.attempt.2 with nextAddr := w.attempt.2.nextAddr + 1 } := by
  unfold alloc at e; split at e <;> simp_all [pair_eq_iff]

end World

/-! ## What the invitation calls keep -/

namespace World

/-- An invariant of the heap that the steps of the invitation calls keep. Every call of
`client_revoke_invitation`, `client_decline_invitation`, `client_accept_invitation`,
`client_resign_game`, `client_make_move` and the walk of `client_logout` is made of these
steps, so it keeps the invariant too (`CallsKeep.clientMakeMove`, ...). -/
structure CallsKeep (P : World → Prop) : Prop where
  attempt : ∀ {w : World}, P w → P w.attempt.2
  clientSendPacket : ∀ {w : World}, P w → ∀ (c : Nat) (p : Packet), P (w.clientSendPacket c p).2
  clientRemoveInvitation : ∀ {w : World}, P w → ∀ (c inv : Nat), P (w.clientRemoveInvitation c inv).2
  playerPostResult : ∀ {w : World}, P w → ∀ (p q : Option Nat) (r : Int),
    P (w.playerPostResult p q r)
  invAccept : ∀ {w : World}, P w → ∀ (i : Nat), P (w.invAccept i).2
  invClose : ∀ {w : World}, P w → ∀ (i : Nat) (r : GameRole), P (w.invClose i r).2
  /-- The write into an invitation of its game after a move that `game_parse_move` returned. -/
  setGame : ∀ {w : World}, P w → ∀ {i : Nat} {inv : Invitation} {g g' : Game} {m : GameMove}
    {r : GameRole} {str : List UInt8}, w.invitations i = some inv → inv.game = some g →
    gameParseMove g r str true = some m → gameApplyMove g m = some g' →
    P (w.setInvitation i (some { inv with game := some g' }))

namespace CallsKeep

variable {P : World → Prop} {w v : World}

theorem of_attempt (K : CallsKeep P) (h : P w) {o : Outcome} (e : w.attempt = (o, v)) : P v := by
  simpa [e] using K.attempt h

theorem clientRevokeInvitation (K : CallsKeep P) (h : P w) (c id : Nat) :
    P (w.clientRevokeInvitation c id).2 := by
  unfold World.clientRevokeInvitation
  (repeat' (first | split | dsimp only)) <;> (try simp only [World.pair_eq_iff] at *) <;>
    (try casesm* _ ∧ _) <;> subst_vars <;> apply_rules [K.clientSendPacket, K.clientRemoveInvitation]

theorem clientDeclineInvitation (K : CallsKeep P) (h : P w) (c id : Nat) :
    P (w.clientDeclineInvitation c id).2 := by
  unfold World.clientDeclineInvitation
  (repeat' (first | split | dsimp only)) <;> (try simp only [World.pair_eq_iff] at *) <;>
    (try casesm* _ ∧ _) <;> subst_vars <;> apply_rules [K.clientSendPacket, K.clientRemoveInvitation]

theorem clientAcceptInvitation (K : CallsKeep P) (h : P w) (c id : Nat) :
    P (w.clientAcceptInvitation c id).2 := by
  unfold World.clientAcceptInvitation
  (repeat' (first | split | dsimp only)) <;> (try simp only [World.pair_eq_iff] at *) <;>
    (try casesm* _ ∧ _) <;> subst_vars <;> apply_rules [K.clientSendPacket, K.invAccept]

theorem resignEnd (K : CallsKeep P) (h : P w) (c id inv s t o oid : Nat) :
    P (w.resignEnd c id inv s t o oid).2 := by
  unfold World.resignEnd
  (repeat' (first | split | dsimp only)) <;> (try simp only [World.pair_eq_iff] at *) <;>
    (try casesm* _ ∧ _) <;> subst_vars <;>
    apply_rules [K.clientSendPacket, K.clientRemoveInvitation, K.playerPostResult]

theorem clientResignGame (K : CallsKeep P) (h : P w) (c id : Nat) :
    P (w.clientResignGame c id).2 := by
  unfold World.clientResignGame
  (repeat' (first | split | dsimp only)) <;> (try simp only [World.pair_eq_iff] at *) <;>
    (try casesm* _ ∧ _) <;> subst_vars <;>
    apply_rules [K.clientSendPacket, K.invClose, K.resignEnd]

theorem moveEnd (K : CallsKeep P) (h : P w) (c id inv s t oid o : Nat) (r : GameRole) :
    P (w.moveEnd c id inv s t oid o r).2 := by
  unfold World.moveEnd
  (repeat' (first | split | dsimp only)) <;> (try simp only [World.pair_eq_iff] at *) <;>
    (try casesm* _ ∧ _) <;> subst_vars <;>
    apply_rules [K.clientSendPacket, K.clientRemoveInvitation, K.playerPostResult]

theorem clientMakeMove (K : CallsKeep P) (h : P w) (c id : Nat) (move : List UInt8) :
    P (w.clientMakeMove c id move).2 := by
  unfold World.clientMakeMove
  split
  · exact h
  dsimp only
  split
  · exact h
  rename_i i e
  split
  · exact h
  split
  · exact h
  split <;> rename_i e1
  · have hk := World.heapKept_of_attempt e1
    split
    · exact K.of_attempt h e1
    have h1 := K.setGame (K.of_attempt h e1) (hk.invitations ▸ e) ‹_› ‹_› ‹_›
    (repeat' (first | split | dsimp only)) <;> (try simp only [World.pair_eq_iff] at *) <;>
      (try casesm* _ ∧ _) <;> subst_vars <;> apply_rules [K.clientSendPacket, K.moveEnd]
  · exact K.of_attempt h e1

theorem logoutStep (K : CallsKeep P) (h : P w) (c : Nat) (node : InvitationNode) :
    P (World.logoutStep c w node) := by
  unfold World.logoutStep
  split_ifs
  exacts [K.clientResignGame h c _, K.clientRevokeInvitation h c _, K.clientDeclineInvitation h c _]

theorem foldl_logoutStep (K : CallsKeep P) (c : Nat) :
    ∀ (nodes : List InvitationNode) {w : World}, P w → P (nodes.foldl (World.logoutStep c) w)
  | [], _, h => h
  | n :: ns, _, h => K.foldl_logoutStep c ns (K.logoutStep h c n)

end CallsKeep

end World

namespace Accounted

variable {reg : List Nat} {oc oi : Nat → Int} {w v : World}

theorem kept (h : Accounted reg oc oi w) (hk : World.HeapKept w v) : Accounted reg oc oi v :=
  h.of_eq hk.clients hk.invitations hk.registry hk.clientCount hk.nextAddr

theorem attempt (h : Accounted reg oc oi w) : Accounted reg oc oi w.attempt.2 :=
  h.kept (World.heapKept_attempt w)

theorem clientSendPacket (h : Accounted reg oc oi w) (c : Nat) (p : Packet) :
    Accounted reg oc oi (w.clientSendPacket c p).2 :=
  h.kept (World.heapKept_clientSendPacket w c p)

theorem playerRef (h : Accounted reg oc oi w) (p : Option Nat) :
    Accounted reg oc oi (w.playerRef p) :=
  h.kept (World.heapKept_playerRef w p)

theorem playerUnref (h : Accounted reg oc oi w) (p : Option Nat) :
    Accounted reg oc oi (w.playerUnref p) :=
  h.kept (World.heapKept_playerUnref w p)

theorem playerPostResult (h : Accounted reg oc oi w) (p q : Option Nat) (r : Int) :
    Accounted reg oc oi (w.playerPostResult p q r) :=
  h.of_eq rfl rfl rfl rfl rfl

theorem alloc (h : Accounted reg oc oi w) : Accounted reg oc oi w.alloc.2 := by
  unfold World.alloc; split <;> rename_i e
  · exact (h.kept (World.heapKept_of_attempt e)).grow
  · exact h.kept (World.heapKept_of_attempt e)

/-! ## Reference counts -/

theorem clientRef (h : Accounted reg oc oi w) {c : Nat} (hc : (w.clients c).isSome) :
    Accounted reg (fun d => oc d + if d = c then 1 else 0) oi (w.clientRef c) := by
  obtain ⟨cl, e⟩ := Option.isSome_iff_exists.1 hc
  unfold World.clientRef; rw [e]
  refine (h.setClient (h.lt_of_client e) _).mono (fun d => ?_) (fun i => ?_)
  · simp only [e, clientRefs]; split_ifs <;> omega
  · simp [e, handlesOf]

/-- `client_unref` spends one reference to the client. -/
theorem clientUnref (h : Accounted reg oc oi w) (c : Nat) :
    Accounted reg (fun d => oc d - if d = c then 1 else 0) oi (w.clientUnref c) := by
  unfold World.clientUnref
  split
  · exact h.mono (fun d => by split_ifs <;> omega) (fun _ => le_rfl)
  · rename_i cl e
    split
    · refine ((h.setClient (h.lt_of_client e) none).mono (fun d => ?_) (fun i => ?_)).playerUnref _
      · simp only [e, clientRefs, clientRefs_none]; split_ifs <;> omega
      · simp only [e, handlesOf_none]; omega
    · refine (h.setClient (h.lt_of_client e) _).mono (fun d => ?_) (fun i => ?_)
      · simp only [e, clientRefs]; split_ifs <;> omega
      · simp [e, handlesOf]

/-- A write to an invitation that keeps its count, source and target. -/
theorem setInvitation_same (h : Accounted reg oc oi w) {i : Nat} {inv inv' : Invitation}
    (e : w.invitations i = some inv) (hr : inv'.refCount = inv.refCount)
    (hs : inv'.sender = inv.sender) (ht : inv'.recipient = inv.recipient) :
    Accounted reg oc oi (w.setInvitation i (some inv')) :=
  (h.setInvitation (h.lt_of_invitation e) _).mono (fun c => by simp [e, endsOf, hs, ht])
    (fun j => by split_ifs <;> simp [e, invRefs, hr])

theorem invRef (h : Accounted reg oc oi w) {i : Nat} (hi : (w.invitations i).isSome) :
    Accounted reg oc (fun j => oi j + if j = i then 1 else 0) (w.invRef i) := by
  obtain ⟨inv, e⟩ := Option.isSome_iff_exists.1 hi
  unfold World.invRef; rw [e]
  refine (h.setInvitation (h.lt_of_invitation e) _).mono (fun c => ?_) (fun j => ?_)
  · simp [e, endsOf]
  · simp only [e, invRefs]; split_ifs <;> omega

/-- `inv_unref` spends one reference to the invitation; at zero the invitation's references to
its source and target are spent by the two `client_unref`s. -/
theorem invUnref (h : Accounted reg oc oi w) (i : Nat) :
    Accounted reg oc (fun j => oi j - if j = i then 1 else 0) (w.invUnref i) := by
  unfold World.invUnref
  split
  · exact h.mono (fun _ => le_rfl) (fun j => by split_ifs <;> omega)
  · rename_i inv e
    split
    · refine ((((h.setInvitation (h.lt_of_invitation e) none).kept
        (World.heapKept_freeInvitation w i)).clientUnref inv.sender).clientUnref
        inv.recipient).mono (fun c => ?_) (fun j => ?_)
      · simp only [e, endsOf, endsOf_none]; split_ifs <;> omega
      · simp only [e, invRefs, invRefs_none]; split_ifs <;> omega
    · refine (h.setInvitation (h.lt_of_invitation e) _).mono (fun c => ?_) (fun j => ?_)
      · simp [e, endsOf]
      · simp only [e, invRefs]; split_ifs <;> omega

/-! ## Invitations and lists -/

theorem of_alloc (h : Accounted reg oc oi w) {x : Option Nat} {v : World} (e : w.alloc = (x, v)) :
    Accounted reg oc oi v := by
  simpa [e] using h.alloc

/-- `inv_create` hands its caller the new invitation's first reference, and takes one
reference to each of its source and target. -/
theorem invCreate (h : Accounted reg oc oi w) {s t : Nat} (hs : (w.clients s).isSome)
    (ht : (w.clients t).isSome) (sr tr : GameRole) :
    Accounted reg oc (fun j => oi j + if (w.invCreate s t sr tr).1 = some j then 1 else 0)
      (w.invCreate s t sr tr).2 := by
  unfold World.invCreate
  split <;> rename_i e
  · simpa using h.of_alloc e
  · obtain ⟨rfl, rfl⟩ := World.alloc_some e
    have h0 := h.attempt.grow
    have hi := (h.attempt.fresh _ le_rfl).2
    have hs' : (({ w.attempt.2 with nextAddr := w.attempt.2.nextAddr + 1 }.setInvitation
        w.attempt.2.nextAddr (some ⟨1, s, t, sr, tr, none, .invOpenState⟩)).clients s).isSome := by
      simpa [World.setInvitation] using hs
    have ht' : (({ w.attempt.2 with nextAddr := w.attempt.2.nextAddr + 1 }.setInvitation
        w.attempt.2.nextAddr (some ⟨1, s, t, sr, tr, none, .invOpenState⟩)).clients t).isSome := by
      simpa [World.setInvitation] using ht
    refine (((h0.setInvitation (Nat.lt_succ_self _) _).clientRef hs').clientRef
      (World.clientRef_isSome ht' s)).mono (fun c => ?_) (fun j => ?_)
    · simp only [hi, endsOf, endsOf_none]; split_ifs <;> omega
    · simp only [hi, invRefs, invRefs_none, Option.some.injEq]; split_ifs <;> omega

theorem invAccept (h : Accounted reg oc oi w) (i : Nat) : Accounted reg oc oi (w.invAccept i).2 := by
  unfold World.invAccept
  split
  · exact h
  · rename_i inv e
    split_ifs
    · exact h
    · have h1 : Accounted reg oc oi (w.setInvitation i (some { inv with state := .invAcceptedState })) :=
        h.setInvitation_same e rfl rfl rfl
      dsimp only
      split <;> rename_i e1
      · have hk := World.heapKept_of_attempt e1
        have e2 : _ = some { inv with state := .invAcceptedState } :=
          (congrFun hk.invitations i).trans (by simp [World.setInvitation])
        exact (h1.kept hk).setInvitation_same e2 rfl rfl rfl
      · exact h1.kept (World.heapKept_of_attempt e1)

theorem invClose (h : Accounted reg oc oi w) (i : Nat) (r : GameRole) :
    Accounted reg oc oi (w.invClose i r).2 := by
  unfold World.invClose
  split
  · exact h
  · rename_i inv e
    split_ifs <;> first | exact h | exact h.setInvitation_same e rfl rfl rfl

/-- Dropping the first node for `inv`, when there is one, drops one handle on `inv`. -/
theorem countP_eraseP_invitation {nodes : List InvitationNode} {inv : Nat} {node : InvitationNode}
    (hf : nodes.find? (·.invitation == inv) = some node) (j : Nat) :
    (nodes.eraseP (·.invitation == inv)).countP (·.invitation == j) + (if j = inv then 1 else 0) =
      nodes.countP (·.invitation == j) := by
  obtain ⟨a, l₁, l₂, -, ha, rfl, he⟩ :=
    List.exists_of_eraseP (List.mem_of_find?_eq_some hf) (List.find?_some hf)
  simp only [beq_iff_eq] at ha
  simp [he, List.countP_append, List.countP_cons, ha]
  split_ifs <;> omega

theorem clientAddInvitation (h : Accounted reg oc oi w) (c inv : Nat) :
    Accounted reg oc oi (w.clientAddInvitation c inv).2 := by
  unfold World.clientAddInvitation
  split
  · rename_i cl x e ei
    split <;> rename_i e1
    · have hk := World.heapKept_of_attempt e1
      have e' := hk.clients ▸ e
      refine ((h.kept hk).setClient ((h.kept hk).lt_of_client e') _).invRef
        (by simp [World.setClient, hk.invitations, ei]) |>.mono (fun d => ?_) (fun j => ?_)
      · simp only [e', clientRefs]; split_ifs <;> omega
      · simp only [e', handlesOf, InvitationList.add, List.countP_cons, beq_iff_eq]
        split_ifs <;> omega
    · exact h.kept (World.heapKept_of_attempt e1)
  · exact h

theorem clientRemoveInvitation (h : Accounted reg oc oi w) (c inv : Nat) :
    Accounted reg oc oi (w.clientRemoveInvitation c inv).2 := by
  unfold World.clientRemoveInvitation
  split
  · exact h
  · rename_i cl e
    split
    · exact h
    · rename_i node hf
      refine ((h.setClient (h.lt_of_client e) _).invUnref inv).mono (fun d => ?_) (fun j => ?_)
      · simp only [e, clientRefs]; split_ifs <;> omega
      · have := countP_eraseP_invitation hf j
        simp only [e, handlesOf, InvitationList.remove]
        split_ifs at this ⊢ <;> omega

/-! ## The registries -/

/-- The accounting names its registry. -/
theorem self (h : Accounted reg oc oi w) : Accounted w.registry oc oi w := h.registry ▸ h

theorem cregRegister (h : Accounted reg oc oi w) (fd : Nat) :
    Accounted (w.cregRegister fd).2.registry oc oi (w.cregRegister fd).2 := by
  unfold World.cregRegister
  split_ifs
  · exact h.self
  · split <;> rename_i e
    · exact (h.of_alloc e).self
    · obtain ⟨rfl, rfl⟩ := World.alloc_some e
      have h0 := h.attempt.grow
      have hc := (h.attempt.fresh _ le_rfl).1
      refine (((h0.setClient (Nat.lt_succ_self _) _).setRegistry _ ?_).mono
        (fun d => ?_) (fun i => ?_)).self
      · simp [h.attempt.clientCount, h.attempt.registry]
      · simp only [hc, clientRefs, clientRefs_none, h.attempt.registry, List.count_cons, beq_iff_eq]
        split_ifs <;> omega
      · simp [hc, handlesOf, InvitationList.empty]

/-- `creg_unregister` of a registered client spends the registry's reference to it. -/
theorem cregUnregister (h : Accounted reg oc oi w) {c : Nat} (hoc : 0 ≤ oc c) (hc : c ∈ reg) :
    Accounted (reg.erase c) oc oi (w.cregUnregister c).2 := by
  obtain ⟨cl, e⟩ := Option.isSome_iff_exists.1 (h.isSome_of_mem hoc hc)
  obtain rfl := h.registry
  have hfd : w.fdAlreadyUsed cl.fd = true := List.any_eq_true.2 ⟨c, hc, by simp [e]⟩
  have h1 : Accounted (w.registry.erase c) oc oi
      ({ w with registry := w.registry.erase c, clientCount := w.clientCount - 1 }.clientUnref c) :=
    ((h.setRegistry (w.registry.erase c) (n := w.clientCount - 1)
    (by rw [h.clientCount, List.length_erase_of_mem hc])).clientUnref c).mono (fun d => by
      by_cases hd : d = c
      · subst hd; simp [List.count_erase_self, List.count_pos_iff.2 hc]; omega
      · simp [List.count_erase_of_ne hd, hd]) (fun _ => le_rfl)
  unfold World.cregUnregister
  rw [e]; dsimp only
  rw [if_neg (by simp [hfd]), if_pos hc]
  split_ifs
  · exact h1.of_eq rfl rfl rfl rfl rfl
  · exact h1

/-- `creg_lookup` hands its caller a reference to the client it finds. -/
theorem cregLookup (h : Accounted reg oc oi w) (hoc : ∀ c, 0 ≤ oc c) (u : Option (List UInt8)) :
    Accounted reg (fun d => oc d + if (w.cregLookup u).1 = some d then 1 else 0) oi
      (w.cregLookup u).2 := by
  rcases World.cregLookup_cases w u with e | ⟨c, hc, e⟩ <;> rw [e]
  · simpa using h
  · refine (h.clientRef (h.isSome_of_mem (hoc c) (h.registry ▸ hc))).mono (fun d => ?_)
      (fun _ => le_rfl)
    simp [eq_comm]

theorem pregRegister (h : Accounted reg oc oi w) (name : List UInt8) :
    Accounted reg oc oi (w.pregRegister name).2 := by
  unfold World.pregRegister
  split
  · dsimp only; exact h.playerRef _
  · dsimp only
    split <;> rename_i e <;> dsimp only
    · apply Accounted.playerRef
      exact ((h.grow.kept (World.heapKept_setPlayer _ _ _)).kept (World.heapKept_of_attempt e)).of_eq
        rfl rfl rfl rfl rfl
    · exact ((h.grow.kept (World.heapKept_setPlayer _ _ _)).kept
        (World.heapKept_of_attempt e)).playerUnref _

/-! ## The client operations -/

theorem of_pair {α : Type} {p : α × World} (h : Accounted reg oc oi p.2) {a : α} {v : World}
    (e : p = (a, v)) : Accounted reg oc oi v := by
  subst e; exact h

theorem checkIfOtherClientsLoggedIn (h : Accounted reg oc oi w) (name : List UInt8) :
    Accounted reg oc oi (w.checkIfOtherClientsLoggedIn name).2 :=
  h.kept (World.heapKept_checkIfOtherClientsLoggedIn w name)

theorem clientLogin (h : Accounted reg oc oi w) (c : Nat) (p : Option Nat) :
    Accounted reg oc oi (w.clientLogin c p).2 := by
  unfold World.clientLogin
  split
  · exact h
  · rename_i cl e
    split_ifs
    · exact h
    · have hk := World.heapKept_checkIfOtherClientsLoggedIn w ((p.bind w.playerGetName).getD [])
      split <;> rename_i e1 <;> rw [e1] at hk <;> dsimp only at hk
      · exact h.kept hk
      · have e' := hk.clients ▸ e
        refine (((h.kept hk).setClient ((h.kept hk).lt_of_client e') _).mono (fun d => ?_)
          (fun i => ?_)).playerRef _
        · simp only [e', clientRefs]; split_ifs <;> omega
        · simp [e', handlesOf]

/-- `client_make_invitation` spends the reference `inv_create` returned, except when the
`INVITED` packet cannot be sent, where it leaks it. -/
theorem clientMakeInvitation (h : Accounted reg oc oi w) {s t : Nat} (hs : (w.clients s).isSome)
    (ht : (w.clients t).isSome) (sr tr : GameRole) :
    Accounted reg oc oi (w.clientMakeInvitation s t sr tr).2 := by
  have h0 := h.invCreate hs ht sr tr
  unfold World.clientMakeInvitation
  split <;> rename_i e <;> rw [e] at h0 <;> simp only [reduceCtorEq, if_false, add_zero,
    Option.some.injEq] at h0
  · exact h0
  · rename_i inv _
    have own : ∀ j, oi j ≤ oi j + (if inv = j then 1 else 0) - (if j = inv then 1 else 0) :=
      fun j => by split_ifs <;> omega
    have h1 := h0.clientAddInvitation s inv
    split <;> rename_i e2
    · exact ((h1.of_pair e2).invUnref inv).mono (fun _ => le_rfl) own
    · have h2 := (h1.of_pair e2).clientAddInvitation t inv
      split <;> rename_i e3
      · exact ((h2.of_pair e3).invUnref inv).mono (fun _ => le_rfl) own
      · dsimp only
        have h3 := (h2.of_pair e3).clientSendPacket t
        split <;> rename_i e4
        · exact ((h3 _).of_pair e4 |>.invUnref inv).mono (fun _ => le_rfl) own
        · exact ((h3 _).of_pair e4).mono (fun _ => le_rfl) fun j => by split_ifs <;> omega

end Accounted

namespace Server

/-- The outcomes under which the twelfth fallible step, during `openingEvents` the `INVITED`
write to bob, fails with a broken pipe. -/
def invitedBrokenPipe : List Outcome := List.replicate 11 .ok ++ [.brokenPipe]

/-- `openingEvents` with the `INVITED` write failing. -/
def invitedFailed : Server := (init invitedBrokenPipe).run openingEvents

/-- Then alice revokes the invitation. -/
def invitedFailedRevoked : Server := invitedFailed.run [.packet 0 (.request .revokePkt 0 0 "")]

/-- Alice's `INVITED` write to bob fails: both hold a handle of invitation 4, whose count is 3,
and alice is answered `NACK`. Once alice revokes it, neither holds a handle and the
invitation stays allocated with count 1. -/
theorem invited_failed_count_exceeds_handles :
    (invitedFailed.world.invitations 4).map (·.refCount) = some 3 ∧
      (invitedFailed.world.clientInvitations 0).nodes = [⟨4, 0⟩] ∧
      (invitedFailed.world.clientInvitations 1).nodes = [⟨4, 0⟩] ∧
      invitedFailed.world.writes.getLast?.map (fun x => (x.client, x.frame.type)) =
        some (0, .nackPkt) ∧
      (invitedFailedRevoked.world.invitations 4).map (·.refCount) = some 1 ∧
      (invitedFailedRevoked.world.clientInvitations 0).nodes = [] ∧
      (invitedFailedRevoked.world.clientInvitations 1).nodes = [] := by
  decide

end Server

namespace Accounted

variable {reg : List Nat} {oc oi : Nat → Int} {w v : World}

/-- A write of an invitation's game. -/
theorem setInvitation_game (h : Accounted reg oc oi w) {i : Nat} {inv : Invitation}
    (e : w.invitations i = some inv) (g : Option Game) :
    Accounted reg oc oi (w.setInvitation i (some { inv with game := g })) :=
  h.setInvitation_same e rfl rfl rfl

/-- The accounting is kept by the steps of the invitation calls. -/
theorem callsKeep : World.CallsKeep (Accounted reg oc oi) :=
  ⟨attempt, clientSendPacket, clientRemoveInvitation, playerPostResult, invAccept, invClose,
    fun h _ _ _ _ _ _ _ e _ _ _ => h.setInvitation_game e _⟩

theorem clientLogout (h : Accounted reg oc oi w) (c : Nat) :
    Accounted reg oc oi (w.clientLogout c).2 := by
  unfold World.clientLogout
  split
  · exact h
  · split
    · exact h
    · exact callsKeep.foldl_logoutStep c _ (h.playerUnref _)

/-! ## The service loop -/

theorem cregAllPlayers (h : Accounted reg oc oi w) : Accounted reg oc oi w.cregAllPlayers.2 :=
  h.kept (World.heapKept_foldl_playerRef w _)

theorem usersLines (h : Accounted reg oc oi w) (ps : List Nat) :
    Accounted reg oc oi (w.usersLines ps).1 :=
  h.kept (World.heapKept_usersLines w ps)

theorem clientSendAck (h : Accounted reg oc oi w) (c : Nat) (d : Option (List UInt8)) (n : Nat) :
    Accounted reg oc oi (w.clientSendAck c d n) :=
  h.kept (World.heapKept_clientSendAck w c d n)

theorem clientSendNack (h : Accounted reg oc oi w) (c : Nat) :
    Accounted reg oc oi (w.clientSendNack c) :=
  h.kept (World.heapKept_clientSendNack w c)

theorem loginRequest (h : Accounted reg oc oi w) (c : Nat) (name : List UInt8) :
    Accounted reg oc oi (w.loginRequest c name).1 := by
  unfold World.loginRequest
  (repeat' (first | split | dsimp only)) <;> (try simp only [World.pair_eq_iff] at *) <;>
    (try casesm* _ ∧ _) <;> subst_vars <;>
    apply_rules [Accounted.checkIfOtherClientsLoggedIn, Accounted.pregRegister,
      Accounted.clientLogin, Accounted.clientSendAck, Accounted.clientSendNack]

/-- The INVITE case: `creg_lookup` hands the handler a reference to the target, which it
spends on success and leaks on every other path. -/
theorem invite (h : Accounted reg 0 0 w) {c : Nat} (hc : c ∈ reg) (s : Session)
    (pkt : InPacket) :
    Accounted reg 0 0 (match w.cregLookup (pkt.payload.map cString) with
      | (none, w) => (w.clientSendNack c, s)
      | (some t, w) =>
          if t = c then ((w.clientUnref t).clientSendNack c, s)
          else if pkt.role = 1 ∨ pkt.role = 2 then
            let (sr, tr) : GameRole × GameRole := if pkt.role = 1
              then (.secondPlayerRole, .firstPlayerRole) else (.firstPlayerRole, .secondPlayerRole)
            match w.clientMakeInvitation c t sr tr with
            | (-1, w) => (w.clientSendNack c, s)
            | (sourceId, w) =>
                ((((w.clientUnref t).clientSendPacket c
                  ⟨.ackPkt, UInt8.ofNat sourceId.toNat, 0, 0, none⟩)).2, s)
          else (w.clientSendNack c, s)).1 := by
  have h0 := h.cregLookup (fun _ => le_rfl) (pkt.payload.map cString)
  rcases World.cregLookup_cases w (pkt.payload.map cString) with e | ⟨t, ht, e⟩ <;>
    rw [e] at h0 ⊢ <;> dsimp only at h0 ⊢
  · exact (h0.mono (fun _ => by simp) (fun _ => le_rfl)).clientSendNack c
  · have spend : ∀ d : Nat, (0 : Int) ≤ (0 + if some t = some d then 1 else 0) -
        (if d = t then 1 else 0) := fun d => by simp only [Option.some.injEq]; split_ifs <;> omega
    have leak : ∀ d : Nat, (0 : Int) ≤ 0 + if some t = some d then 1 else 0 := fun d => by
      split_ifs <;> omega
    have hs := World.clientRef_isSome (h.isSome_of_mem le_rfl hc) t
    have ht' := World.clientRef_isSome (h.isSome_of_mem le_rfl (h.registry ▸ ht)) t
    split_ifs
    · exact ((h0.clientUnref t).mono spend (fun _ => le_rfl)).clientSendNack c
    all_goals first
      | exact (h0.mono leak (fun _ => le_rfl)).clientSendNack c
      | split <;> rename_i e1 <;> first
          | exact ((h0.clientMakeInvitation hs ht' _ _).of_pair e1).mono leak (fun _ => le_rfl)
            |>.clientSendNack c
          | exact ((((h0.clientMakeInvitation hs ht' _ _).of_pair e1).clientUnref t).mono spend
              (fun _ => le_rfl)).clientSendPacket c _

end Accounted

namespace Server

/-- After `loggedInEvents`, `inviter` sends an INVITE for `invitee`'s name with the role byte
0. -/
def badRoleInvite (inviter : Nat) (invitee : String) : Server :=
  (init []).run (loggedInEvents ++ [.packet inviter (.request .invitePkt 0 0 invitee)])

/-- Alice invites bob with the role byte 0 and is answered `NACK`: bob's count is 2, for his
registry node alone. When bob's connection ends he is unregistered and is not freed: his
count stays 1 with nothing referring to him. -/
theorem invite_bad_role_leaks_target :
    ((badRoleInvite 0 "bob").world.clients 1).map (·.refCount) = some 2 ∧
      (badRoleInvite 0 "bob").world.registry = [1, 0] ∧
      (∀ i < (badRoleInvite 0 "bob").world.nextAddr,
        ((badRoleInvite 0 "bob").world.invitations i).isNone) ∧
      (((badRoleInvite 0 "bob").run [.hangup 1]).world.clients 1).map (·.refCount) = some 1 ∧
      ((badRoleInvite 0 "bob").run [.hangup 1]).world.registry = [0] ∧
      (∀ i < ((badRoleInvite 0 "bob").run [.hangup 1]).world.nextAddr,
        (((badRoleInvite 0 "bob").run [.hangup 1]).world.invitations i).isNone) := by
  decide

end Server

namespace Accounted

variable {reg : List Nat} {oc oi : Nat → Int} {w v : World}

/-- The handling of one packet keeps the accounting, for a session whose client is
registered. -/
theorem jeuxClientService (h : Accounted reg 0 0 w) {s : Session} (hc : s.client ∈ reg)
    (pkt : InPacket) : Accounted reg 0 0 (JeuxServer.jeuxClientService w s pkt).1 := by
  have K : World.CallsKeep (Accounted reg 0 0) := callsKeep
  have nack := h.clientSendNack s.client
  have answer : ∀ {r : Int × World}, Accounted reg 0 0 r.2 →
      Accounted reg 0 0 (match r with
        | (-1, w) => (w.clientSendNack s.client, s)
        | (_, w) => (w.clientSendAck s.client none 0, s)).1 := fun h1 => by
    split
    exacts [h1.clientSendNack _, h1.clientSendAck _ _ _]
  unfold JeuxServer.jeuxClientService
  dsimp only
  split
  case h_1 =>
    split
    · have h1 := h.loginRequest s.client (cString ((pkt.payload.getD []).take pkt.size))
      split <;> rename_i e <;> rw [e] at h1 <;> exact h1
    · exact nack
  case h_2 =>
    have h1 := h.cregAllPlayers.usersLines w.cregAllPlayers.1
    split
    · exact nack
    · split <;> rename_i e
      exacts [(h1.kept (World.heapKept_of_attempt e)).clientSendAck _ _ _,
        (h1.kept (World.heapKept_of_attempt e)).clientSendNack _]
  case h_3 =>
    split
    · exact nack
    · exact h.invite hc s pkt
  case h_6 =>
    have h1 := K.clientAcceptInvitation h s.client pkt.id.toNat
    split
    · exact nack
    · split <;> rename_i e
      exacts [(h1.of_pair e).clientSendNack _, (h1.of_pair e).clientSendPacket _ _]
  case h_9 => exact h
  all_goals split
  all_goals try exact nack
  case h_4.isFalse => exact answer (K.clientRevokeInvitation h _ _)
  case h_5.isFalse => exact answer (K.clientDeclineInvitation h _ _)
  case h_7.isFalse => exact answer (K.clientMakeMove h _ _ _)
  case h_8.isFalse => exact answer (K.clientResignGame h _ _)

/-- The end of a connection: `client_logout`, then `creg_unregister`, which spends the
registry's reference to the client. -/
theorem serviceExit (h : Accounted reg 0 0 w) {s : Session} (hc : s.client ∈ reg) :
    Accounted (reg.erase s.client) 0 0 (JeuxServer.serviceExit w s) :=
  (h.clientLogout s.client).cregUnregister le_rfl hc

/-! ## No dangling pointer -/

/-- An invitation whose count must cover a handle it does not owe is allocated. -/
theorem invitation_isSome (h : Accounted reg oc oi w) {i : Nat} (hoi : 0 ≤ oi i)
    (hn : 0 < w.invHolders i) : (w.invitations i).isSome := by
  have := h.invitations i
  cases hi : w.invitations i <;> simp_all
  omega

/-- The source and target of a live invitation are allocated. -/
theorem ends_isSome (h : Accounted reg 0 0 w) {i : Nat} {inv : Invitation}
    (e : w.invitations i = some inv) :
    (w.clients inv.sender).isSome ∧ (w.clients inv.recipient).isSome := by
  have hle : ∀ c, endsOf (some inv) c ≤ w.clientNeed c := fun c =>
    (e ▸ le_sum_range (f := fun j => endsOf (w.invitations j) c) (h.lt_of_invitation e)).trans
      (Nat.le_add_left _ _)
  refine ⟨h.client_isSome le_rfl (lt_of_lt_of_le ?_ (hle _)),
    h.client_isSome le_rfl (lt_of_lt_of_le ?_ (hle _))⟩ <;> simp [endsOf]

/-- An invitation in a live client's list is allocated. -/
theorem listed_isSome (h : Accounted reg 0 0 w) {c : Nat} {cl : Client}
    (e : w.clients c = some cl) {n : InvitationNode} (hn : n ∈ cl.invitations.nodes) :
    (w.invitations n.invitation).isSome := by
  refine h.invitation_isSome le_rfl (lt_of_lt_of_le ?_
    (e ▸ le_sum_range (f := fun d => handlesOf (w.clients d) n.invitation) (h.lt_of_client e)))
  simpa [handlesOf] using ⟨n, hn, rfl⟩

end Accounted

/-! ## Along every run of the server's events -/

theorem map_eraseIdx {α β : Type} (f : α → β) (l : List α) (k : Nat) :
    (l.eraseIdx k).map f = (l.map f).eraseIdx k := by
  simp [List.eraseIdx_eq_take_drop_succ, List.map_take, List.map_drop]

theorem reverse_erase_of_nodup {l : List Nat} (hl : l.Nodup) (a : Nat) :
    (l.erase a).reverse = l.reverse.erase a := by
  rw [hl.erase_eq_filter, (List.nodup_reverse.2 hl).erase_eq_filter, List.filter_reverse]

theorem map_set_of_getElem? {α β : Type} {f : α → β} {l : List α} {k : Nat} {a b : α}
    (hk : l[k]? = some b) (hf : f a = f b) : (l.set k a).map f = l.map f := by
  obtain ⟨hlt, rfl⟩ := List.getElem?_eq_some_iff.1 hk
  refine List.ext_getElem (by simp) fun i h1 _ => ?_
  simp only [List.getElem_map, List.getElem_set]
  split_ifs with e
  · subst e; exact hf
  · rfl

namespace World

/-- A successful `creg_register` puts a fresh client at the head of the registry, which had
room for it. -/
theorem cregRegister_some {w w' : World} {fd c : Nat} (e : w.cregRegister fd = (some c, w')) :
    w'.registry = c :: w.registry ∧ w.clientCount < maxClients ∧ c = w.attempt.2.nextAddr := by
  unfold cregRegister at e
  split_ifs at e with hg
  · simp at e
  split at e <;> rename_i e1
  · simp at e
  · obtain ⟨rfl, rfl⟩ := alloc_some e1
    simp only [Prod.mk.injEq, Option.some.injEq] at e
    obtain ⟨rfl, rfl⟩ := e
    simp only [not_or, not_le] at hg
    exact ⟨by simp [setClient, (heapKept_attempt w).registry], hg.2, rfl⟩

/-- A failed `creg_register` leaves the registry as it was. -/
theorem cregRegister_none {w w' : World} {fd : Nat} (e : w.cregRegister fd = (none, w')) :
    w'.registry = w.registry := by
  unfold cregRegister at e
  split_ifs at e
  · simp only [Prod.mk.injEq] at e; rw [← e.2]
  · split at e <;> rename_i e1
    · simp only [Prod.mk.injEq] at e
      rw [← e.2, ← (heapKept_attempt w).registry]
      unfold alloc at e1; split at e1 <;> simp_all [pair_eq_iff]
    · simp at e

end World

namespace Server

/-- The invariant of the server's heap: the accounting, with nothing owed by a running
handler; a registry that holds each client once, at most `MAX_CLIENTS` of them; and one live
service thread for each registered client, oldest first. -/
structure Safe (S : Server) : Prop where
  accounted : Accounted S.world.registry 0 0 S.world
  nodup : S.world.registry.Nodup
  bound : S.world.registry.length ≤ maxClients
  sessions : S.sessions.map (·.client) = S.world.registry.reverse

theorem safe_init (os : List Outcome) : Safe (init os) :=
  ⟨⟨rfl, rfl, fun _ _ => ⟨rfl, rfl⟩, fun _ => by simp [World.clientNeed, init, World.init],
    fun _ => by simp [World.invHolders, init, World.init]⟩, List.nodup_nil, Nat.zero_le _, rfl⟩

/-- A live service thread's client is registered. -/
theorem Safe.mem {S : Server} (h : Safe S) {k : Nat} {s : Session} (hk : S.sessions[k]? = some s) :
    s.client ∈ S.world.registry :=
  List.mem_reverse.1 (h.sessions ▸ List.mem_map_of_mem _ (List.getElem?_mem hk))

theorem Safe.connect {S : Server} (h : Safe S) (fd : Nat) : Safe (S.step (.connect fd)) := by
  have ha := h.accounted.cregRegister fd
  simp only [step]
  split <;> rename_i e <;> rw [e] at ha
  · obtain ⟨hr, hb, rfl⟩ := World.cregRegister_some e
    have hc : S.world.attempt.2.nextAddr ∉ S.world.registry := fun hm => by
      have := h.accounted.attempt.isSome_of_mem le_rfl hm
      simp [(h.accounted.attempt.fresh _ le_rfl).1] at this
    refine ⟨ha, hr ▸ List.nodup_cons.2 ⟨hc, h.nodup⟩, ?_, ?_⟩
    · rw [hr, List.length_cons, ← h.accounted.clientCount]; exact hb
    · simp [hr, h.sessions]
  · have hr := World.cregRegister_none e
    exact ⟨ha, hr ▸ h.nodup, hr ▸ h.bound, hr ▸ h.sessions⟩

theorem Safe.packet {S : Server} (h : Safe S) (k : Nat) (pkt : InPacket) :
    Safe (S.step (.packet k pkt)) := by
  simp only [step]
  split <;> rename_i s hk
  · have ha := h.accounted.jeuxClientService (h.mem hk) pkt
    have hr := ha.registry
    refine ⟨hr ▸ ha, hr ▸ h.nodup, hr ▸ h.bound, ?_⟩
    rw [hr, map_set_of_getElem? hk (jeuxClientService_client _ _ _), h.sessions]
  · exact h

theorem Safe.hangup {S : Server} (h : Safe S) (k : Nat) : Safe (S.step (.hangup k)) := by
  simp only [step]
  split <;> rename_i s hk
  · have ha := h.accounted.serviceExit (h.mem hk)
    have hr := ha.registry
    refine ⟨hr ▸ ha, hr ▸ h.nodup.erase _, hr ▸ (List.length_erase_le _ _).trans h.bound, ?_⟩
    have hk' : (S.world.registry.reverse)[k]? = some s.client := by
      rw [← h.sessions, List.getElem?_map, hk]; rfl
    obtain ⟨hlt, hget⟩ := List.getElem?_eq_some_iff.1 hk'
    rw [hr, map_eraseIdx, h.sessions, reverse_erase_of_nodup h.nodup, ← hget,
      (List.nodup_reverse.2 h.nodup).erase_getElem k hlt]
  · exact h

theorem Safe.step {S : Server} (h : Safe S) : ∀ e, Safe (S.step e)
  | .connect fd => h.connect fd
  | .packet k pkt => h.packet k pkt
  | .hangup k => h.hangup k

theorem Safe.run {S : Server} (h : Safe S) : ∀ es, Safe (S.run es)
  | [] => h
  | e :: es => (h.step e).run es

/-- Along every run of the server's events, under any outcomes of the fallible steps, no pointer of
the heap dangles: every registered client, the source and the target of every live
invitation, and every invitation in a live client's list are allocated. -/
theorem run_no_dangling (os : List Outcome) (es : List Event) :
    (∀ c ∈ ((init os).run es).world.registry, (((init os).run es).world.clients c).isSome) ∧
    (∀ i inv, ((init os).run es).world.invitations i = some inv →
      (((init os).run es).world.clients inv.sender).isSome ∧
        (((init os).run es).world.clients inv.recipient).isSome) ∧
    (∀ c cl, ((init os).run es).world.clients c = some cl → ∀ n ∈ cl.invitations.nodes,
      (((init os).run es).world.invitations n.invitation).isSome) := by
  have h := ((safe_init os).run es).accounted
  exact ⟨fun c hc => h.isSome_of_mem le_rfl hc, fun i inv e => h.ends_isSome e,
    fun c cl e n hn => h.listed_isSome e hn⟩

/-- Along every run of the server's events, the live service threads' clients are the registered
clients, oldest first: the registry holds each once, at most `MAX_CLIENTS` of them, and
`client_count` is its length. -/
theorem run_sessions_registered (os : List Outcome) (es : List Event) :
    ((init os).run es).sessions.map (·.client) = ((init os).run es).world.registry.reverse ∧
      ((init os).run es).world.registry.Nodup ∧
      ((init os).run es).world.clientCount = ((init os).run es).world.registry.length ∧
      ((init os).run es).world.clientCount ≤ maxClients := by
  have h := (safe_init os).run es
  exact ⟨h.sessions, h.nodup, h.accounted.clientCount, h.accounted.clientCount ▸ h.bound⟩

end Server

end JeuxServer
