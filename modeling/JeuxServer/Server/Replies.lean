import JeuxServer.Server.Service

/-!
# Replies to requests

Only `client_send_packet` writes to a socket. Every other primitive leaves the log of writes
as it is, and the operations of `client.c` and of the registries call `client_send_packet`
only with notifications (`INVITED`, `REVOKED`, `DECLINED`, `ACCEPTED`, `MOVED`, `RESIGNED`,
`ENDED`). So none of them writes an `ACK` or a `NACK` (`replies_clientMakeInvitation` and its
siblings): those are written by the service loop alone. A packet whose type the dispatch
`switch` names gets one answer call, the last thing its handling does (`Answer`); it hands
`client_send_packet` one `ACK` or `NACK`, unless `make_packet` cannot allocate the header of a
`client_send_ack` or `client_send_nack`, when it writes nothing (`jeuxClientService_answers`,
`serve_replies`). Any other type byte gets no answer at all.

The log of writes records every call of `client_send_packet` with whether its frame reached
the socket, so the answers counted here are answer calls: a broken connection loses the frame,
and `proto_send_packet` refuses an `ACK` whose payload length `htons` has cut to 0.
-/

set_option autoImplicit false

namespace JeuxServer

/-- A frame that answers a request: `ACK` or `NACK`. -/
def Frame.isReply (f : Frame) : Bool := f.type == .ackPkt || f.type == .nackPkt

namespace World

/-- The `ACK` and `NACK` calls among a log of writes, whether or not their frames reached the
socket. -/
def replies (ws : List Write) : List Write := ws.filter (·.frame.isReply)

theorem pair_eq_iff {α β : Type} {p : α × β} {a : α} {b : β} :
    p = (a, b) ↔ a = p.1 ∧ b = p.2 := by
  cases p; simp [eq_comm]

/-! ## Primitives that write nothing -/

section Writes

variable (w : World)

@[simp] theorem attempt_writes : w.attempt.2.writes = w.writes := by
  unfold attempt; split <;> rfl

@[simp] theorem alloc_writes : w.alloc.2.writes = w.writes := by
  unfold alloc; split <;> simp_all [pair_eq_iff]

@[simp] theorem setClient_writes (c : Nat) (cl : Option Client) :
    (w.setClient c cl).writes = w.writes := rfl

@[simp] theorem setInvitation_writes (i : Nat) (inv : Option Invitation) :
    (w.setInvitation i inv).writes = w.writes := rfl

@[simp] theorem setPlayer_writes (p : Nat) (pl : Option Player) :
    (w.setPlayer p pl).writes = w.writes := rfl

@[simp] theorem playerRef_writes (p : Option Nat) : (w.playerRef p).writes = w.writes := by
  unfold playerRef; (repeat' split) <;> simp

@[simp] theorem playerUnref_writes (p : Option Nat) : (w.playerUnref p).writes = w.writes := by
  unfold playerUnref; (repeat' split) <;> simp

@[simp] theorem clientRef_writes (c : Nat) : (w.clientRef c).writes = w.writes := by
  unfold clientRef; split <;> simp

@[simp] theorem clientRef_invitations (c : Nat) : (w.clientRef c).invitations = w.invitations := by
  unfold clientRef; split <;> rfl

@[simp] theorem clientUnref_writes (c : Nat) : (w.clientUnref c).writes = w.writes := by
  unfold clientUnref; (repeat' split) <;> simp

@[simp] theorem invRef_writes (i : Nat) : (w.invRef i).writes = w.writes := by
  unfold invRef; split <;> simp

@[simp] theorem invUnref_writes (i : Nat) : (w.invUnref i).writes = w.writes := by
  unfold invUnref; (repeat' split) <;> simp

@[simp] theorem invCreate_writes (s t : Nat) (sr tr : GameRole) :
    (w.invCreate s t sr tr).2.writes = w.writes := by
  unfold invCreate; (repeat' split) <;> simp_all [pair_eq_iff]

@[simp] theorem invAccept_writes (i : Nat) : (w.invAccept i).2.writes = w.writes := by
  unfold invAccept; (repeat' (first | split | dsimp only)) <;> simp_all [pair_eq_iff]

@[simp] theorem invClose_writes (i : Nat) (r : GameRole) : (w.invClose i r).2.writes = w.writes := by
  unfold invClose; (repeat' split) <;> simp

@[simp] theorem clientAddInvitation_writes (c i : Nat) :
    (w.clientAddInvitation c i).2.writes = w.writes := by
  unfold clientAddInvitation; (repeat' split) <;> simp_all [pair_eq_iff]

@[simp] theorem clientRemoveInvitation_writes (c i : Nat) :
    (w.clientRemoveInvitation c i).2.writes = w.writes := by
  unfold clientRemoveInvitation; (repeat' split) <;> simp

@[simp] theorem playerPostResult_writes (p q : Option Nat) (r : Int) :
    (w.playerPostResult p q r).writes = w.writes := rfl

@[simp] theorem foldl_playerRef_writes (ps : List Nat) :
    (ps.foldl (fun w p => w.playerRef (some p)) w).writes = w.writes := by
  induction ps generalizing w with
  | nil => rfl
  | cons p ps ih => simp [ih]

@[simp] theorem foldl_playerUnref_writes (ps : List Nat) :
    (ps.foldl (fun w p => w.playerUnref (some p)) w).writes = w.writes := by
  induction ps generalizing w with
  | nil => rfl
  | cons p ps ih => simp [ih]

@[simp] theorem cregAllPlayers_writes : w.cregAllPlayers.2.writes = w.writes := by
  simp [cregAllPlayers]

@[simp] theorem checkIfOtherClientsLoggedIn_writes (name : List UInt8) :
    (w.checkIfOtherClientsLoggedIn name).2.writes = w.writes := by
  simp [checkIfOtherClientsLoggedIn]

@[simp] theorem pregRegister_writes (name : List UInt8) :
    (w.pregRegister name).2.writes = w.writes := by
  unfold pregRegister; (repeat' (first | split | dsimp only)) <;> simp_all [pair_eq_iff]

@[simp] theorem cregLookup_writes (u : Option (List UInt8)) :
    (w.cregLookup u).2.writes = w.writes := by
  unfold cregLookup; (repeat' split) <;> simp

@[simp] theorem cregRegister_writes (fd : Nat) : (w.cregRegister fd).2.writes = w.writes := by
  unfold cregRegister; (repeat' (first | split | dsimp only)) <;> simp_all [pair_eq_iff]

@[simp] theorem cregUnregister_writes (c : Nat) : (w.cregUnregister c).2.writes = w.writes := by
  unfold cregUnregister; (repeat' (first | split | dsimp only)) <;> simp

@[simp] theorem usersLines_writes (ps : List Nat) : (w.usersLines ps).1.writes = w.writes := by
  induction ps generalizing w with
  | nil => rfl
  | cons p ps ih => simp [usersLines, ih]

/-- A send appends one write to its client: the packet's type, ID and role, and the first
`size % 65536` bytes of its data, the size `htons` leaves in the header. -/
theorem clientSendPacket_frame (c : Nat) (p : Packet) :
    ∃ b, (w.clientSendPacket c p).2.writes = w.writes ++
      [⟨c, ⟨p.type, p.id, p.role,
        if 0 < p.size % 65536 then (p.data.getD []).take (p.size % 65536) else []⟩, b⟩] := by
  unfold clientSendPacket
  (repeat' (first | split | dsimp only)) <;> simp only [pair_eq_iff] at * <;> casesm* _ ∧ _ <;>
    subst_vars <;> simp

/-- A send appends one write, to its client and with the packet's type. -/
theorem clientSendPacket_writes (c : Nat) (p : Packet) :
    ∃ x, (w.clientSendPacket c p).2.writes = w.writes ++ [x] ∧ x.client = c ∧
      x.frame.type = p.type :=
  let ⟨_, h⟩ := clientSendPacket_frame w c p
  ⟨_, h, rfl, rfl⟩

/-- A notification adds no `ACK` or `NACK`. -/
@[simp] theorem replies_clientSendPacket (c : Nat) (p : Packet) (hack : p.type ≠ .ackPkt)
    (hnack : p.type ≠ .nackPkt) :
    replies (w.clientSendPacket c p).2.writes = replies w.writes := by
  obtain ⟨x, h, -, hx⟩ := clientSendPacket_writes w c p
  simp [replies, h, Frame.isReply, hx, hack, hnack]

/-- An answer adds one `ACK` or `NACK`, to its client. -/
theorem replies_clientSendPacket_reply (c : Nat) (p : Packet)
    (hp : p.type = .ackPkt ∨ p.type = .nackPkt) :
    ∃ x, replies (w.clientSendPacket c p).2.writes = replies w.writes ++ [x] ∧ x.client = c := by
  obtain ⟨x, h, hc, hx⟩ := clientSendPacket_writes w c p
  refine ⟨x, ?_, hc⟩
  rcases hp with hp | hp <;> simp [replies, h, Frame.isReply, hx, hp]

end Writes

@[simp] theorem bare_type (t : JeuxPacketType) (id role : Nat) : (bare t id role).type = t := rfl

/-! ## Operations that send only notifications -/

section Operations

variable (w : World)

@[simp] theorem replies_clientLogin (c : Nat) (p : Option Nat) :
    replies (w.clientLogin c p).2.writes = replies w.writes := by
  unfold clientLogin
  (repeat' (first | split | dsimp only)) <;> simp_all [pair_eq_iff]

@[simp] theorem replies_clientMakeInvitation (s t : Nat) (sr tr : GameRole) :
    replies (w.clientMakeInvitation s t sr tr).2.writes = replies w.writes := by
  unfold clientMakeInvitation
  (repeat' (first | split | dsimp only)) <;> simp only [pair_eq_iff] at * <;> casesm* _ ∧ _ <;>
    subst_vars <;> simp

@[simp] theorem replies_clientRevokeInvitation (c id : Nat) :
    replies (w.clientRevokeInvitation c id).2.writes = replies w.writes := by
  unfold clientRevokeInvitation
  (repeat' (first | split | dsimp only)) <;> simp only [pair_eq_iff] at * <;> casesm* _ ∧ _ <;>
    subst_vars <;> simp

@[simp] theorem replies_clientDeclineInvitation (c id : Nat) :
    replies (w.clientDeclineInvitation c id).2.writes = replies w.writes := by
  unfold clientDeclineInvitation
  (repeat' (first | split | dsimp only)) <;> simp only [pair_eq_iff] at * <;> casesm* _ ∧ _ <;>
    subst_vars <;> simp

@[simp] theorem replies_clientAcceptInvitation (c id : Nat) :
    replies (w.clientAcceptInvitation c id).2.writes = replies w.writes := by
  unfold clientAcceptInvitation
  (repeat' (first | split | dsimp only)) <;> simp only [pair_eq_iff] at * <;> casesm* _ ∧ _ <;>
    subst_vars <;> simp

@[simp] theorem replies_resignEnd (c id inv s t o oid : Nat) :
    replies (w.resignEnd c id inv s t o oid).2.writes = replies w.writes := by
  unfold resignEnd
  generalize (if c = s then (2 : Int) else 1) = r
  (repeat' (first | split | dsimp only)) <;> simp only [pair_eq_iff] at * <;> casesm* _ ∧ _ <;>
    subst_vars <;> simp

@[simp] theorem replies_clientResignGame (c id : Nat) :
    replies (w.clientResignGame c id).2.writes = replies w.writes := by
  unfold clientResignGame
  (repeat' (first | split | dsimp only)) <;> simp only [pair_eq_iff] at * <;> casesm* _ ∧ _ <;>
    subst_vars <;> simp

@[simp] theorem replies_moveEnd (c id inv s t oid o : Nat) (r : GameRole) :
    replies (w.moveEnd c id inv s t oid o r).2.writes = replies w.writes := by
  unfold moveEnd
  (repeat' (first | split | dsimp only)) <;> simp only [pair_eq_iff] at * <;> casesm* _ ∧ _ <;>
    subst_vars <;> simp

@[simp] theorem replies_clientMakeMove (c id : Nat) (m : List UInt8) :
    replies (w.clientMakeMove c id m).2.writes = replies w.writes := by
  unfold clientMakeMove
  (repeat' (first | split | dsimp only)) <;> simp_all [pair_eq_iff]

@[simp] theorem replies_logoutStep (c : Nat) (node : InvitationNode) :
    replies (logoutStep c w node).writes = replies w.writes := by
  unfold logoutStep; split_ifs <;> simp

@[simp] theorem replies_clientLogout (c : Nat) :
    replies (w.clientLogout c).2.writes = replies w.writes := by
  unfold clientLogout
  split
  · rfl
  · split
    · rfl
    · dsimp only
      generalize (clientInvitations _ c).nodes = nodes
      suffices ∀ w', replies (nodes.foldl (logoutStep c) w').writes = replies w'.writes by simp [this]
      induction nodes with
      | nil => intro; rfl
      | cons n ns ih => intro w'; simp [ih]

end Operations

/-! ## Answers -/

/-- `w'` follows `w₁` by one answer to client `c`: one `ACK` or `NACK` written to `c`, or none
because the allocation of the answer's header failed, which is then all that happened. -/
def Answer (w₁ w' : World) (c : Nat) : Prop :=
  ∃ xs, replies w'.writes = replies w₁.writes ++ xs ∧ (∀ x ∈ xs, x.client = c) ∧
    (xs.length = 1 ∨ xs = [] ∧ w₁.attempt.1 ≠ .ok ∧ w' = w₁.attempt.2)

theorem answer_clientSendPacket (w₁ : World) (c : Nat) (p : Packet)
    (hp : p.type = .ackPkt ∨ p.type = .nackPkt) : Answer w₁ (w₁.clientSendPacket c p).2 c := by
  obtain ⟨x, hx, hc⟩ := replies_clientSendPacket_reply w₁ c p hp
  exact ⟨[x], hx, by simpa using hc, Or.inl rfl⟩

/-- An answer whose header is allocated first. -/
theorem answer_of_attempt {w₁ w' : World} {c : Nat} (p : Packet)
    (hp : p.type = .ackPkt ∨ p.type = .nackPkt)
    (h : w₁.attempt.1 = .ok ∧ w' = (w₁.attempt.2.clientSendPacket c p).2 ∨
      w₁.attempt.1 ≠ .ok ∧ w' = w₁.attempt.2) : Answer w₁ w' c := by
  rcases h with ⟨-, rfl⟩ | ⟨ho, rfl⟩
  · obtain ⟨x, hx, hc⟩ := replies_clientSendPacket_reply w₁.attempt.2 c p hp
    exact ⟨[x], by simpa using hx, by simpa using hc, Or.inl rfl⟩
  · exact ⟨[], by simp, by simp, Or.inr ⟨rfl, ho, rfl⟩⟩

theorem answer_clientSendAck (w₁ : World) (c : Nat) (data : Option (List UInt8)) (n : Nat) :
    Answer w₁ (w₁.clientSendAck c data n) c :=
  answer_of_attempt ⟨.ackPkt, 0, 0, n, data⟩ (Or.inl rfl) <| by
    unfold clientSendAck; rcases w₁.attempt with ⟨_ | _ | _, _⟩ <;> simp

theorem answer_clientSendNack (w₁ : World) (c : Nat) : Answer w₁ (w₁.clientSendNack c) c :=
  answer_of_attempt ⟨.nackPkt, 0, 0, 0, none⟩ (Or.inr rfl) <| by
    unfold clientSendNack; rcases w₁.attempt with ⟨_ | _ | _, _⟩ <;> simp

section Exists

variable {w w' : World} {c : Nat}

/-! An answer made from a world with the answers of `w`: the three forms in which the cases of
the service loop end. -/

theorem exists_answer_clientSendNack (h : replies w'.writes = replies w.writes) :
    ∃ w₁, replies w₁.writes = replies w.writes ∧ Answer w₁ (w'.clientSendNack c) c :=
  ⟨w', h, answer_clientSendNack w' c⟩

theorem exists_answer_clientSendAck {data : Option (List UInt8)} {n : Nat}
    (h : replies w'.writes = replies w.writes) :
    ∃ w₁, replies w₁.writes = replies w.writes ∧ Answer w₁ (w'.clientSendAck c data n) c :=
  ⟨w', h, answer_clientSendAck w' c data n⟩

theorem exists_answer_clientSendPacket {p : Packet} (hp : p.type = .ackPkt ∨ p.type = .nackPkt)
    (h : replies w'.writes = replies w.writes) :
    ∃ w₁, replies w₁.writes = replies w.writes ∧ Answer w₁ (w'.clientSendPacket c p).2 c :=
  ⟨w', h, answer_clientSendPacket w' c p hp⟩

end Exists

end World

open World

theorem JeuxPacketType.code_of_ofCode {b : UInt8} {t : JeuxPacketType} (h : ofCode b = some t) :
    t.code = b := by
  simpa using List.find?_some h

/-! ## The service loop -/

/-- A LOGIN is answered once, to its client, after steps that write no answer. -/
theorem answer_loginRequest (w : World) (c : Nat) (name : List UInt8) :
    ∃ w₁, replies w₁.writes = replies w.writes ∧ Answer w₁ (w.loginRequest c name).1 c := by
  unfold loginRequest
  (repeat' (first | split | dsimp only)) <;>
    first
    | with_reducible apply exists_answer_clientSendNack
    | with_reducible apply exists_answer_clientSendAck
  all_goals first | rfl | simp_all [pair_eq_iff]

/-- A LOGIN that logs the session in is answered with `ACK`. -/
theorem loginRequest_ack (w : World) (c : Nat) (name : List UInt8) :
    (w.loginRequest c name).2 = false ∨
      ∃ w' : World, w.loginRequest c name = (w'.clientSendAck c none 0, true) := by
  unfold loginRequest
  (repeat' (first | split | dsimp only)) <;> simp_all
  exact ⟨_, rfl⟩

section Service

variable (w : World) (s : Session) (pkt : InPacket)

/-- Each request gets one answer call, to the session's own client, after steps that write no
answer. -/
theorem jeuxClientService_reply (h : isRequest pkt.type = true) :
    ∃ w₁, replies w₁.writes = replies w.writes ∧
      Answer w₁ (jeuxClientService w s pkt).1 s.client := by
  unfold jeuxClientService isRequest at *
  split <;> (repeat' (first | split | dsimp only)) <;>
    first
    | with_reducible apply exists_answer_clientSendNack
    | with_reducible apply exists_answer_clientSendAck
    | with_reducible apply exists_answer_clientSendPacket (Or.inl rfl)
    | skip
  all_goals first | rfl | simp_all [pair_eq_iff, answer_loginRequest]

theorem jeuxClientService_ignored (h : isRequest pkt.type = false) :
    jeuxClientService w s pkt = (w, s) := by
  unfold jeuxClientService isRequest at *
  split <;> simp_all

theorem jeuxClientService_not_loggedIn (hl : s.loggedIn = false) (h : isRequest pkt.type = true)
    (hlogin : pkt.type ≠ JeuxPacketType.loginPkt.code) :
    jeuxClientService w s pkt = (w.clientSendNack s.client, s) := by
  unfold jeuxClientService isRequest at *
  split <;> simp_all
  exact absurd (JeuxPacketType.code_of_ofCode ‹_›).symm hlogin

/-- The session changes only when a LOGIN is answered with `ACK`, which logs it in. -/
theorem jeuxClientService_session :
    (jeuxClientService w s pkt).2 = s ∨
      (JeuxPacketType.ofCode pkt.type = some .loginPkt ∧ s.loggedIn = false ∧
        (jeuxClientService w s pkt).2 = { s with loggedIn := true } ∧
        ∃ w' : World, (jeuxClientService w s pkt).1 = w'.clientSendAck s.client none 0) := by
  unfold jeuxClientService
  split
  · have hl := loginRequest_ack w s.client (cString ((pkt.payload.getD []).take pkt.size))
    (repeat' (first | split | dsimp only)) <;> first | exact .inl rfl | simp_all
  all_goals (repeat' (first | split | dsimp only)) <;> exact .inl rfl

theorem jeuxClientService_client : (jeuxClientService w s pkt).2.client = s.client := by
  rcases jeuxClientService_session w s pkt with h | ⟨-, -, h, -⟩ <;> simp [h]

end Service

end JeuxServer
