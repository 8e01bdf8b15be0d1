import JeuxServer.Server.Client

/-!
# The service loop of `server.c` and the server as a whole

`jeux_client_service` registers its connection's file descriptor, then reads packets and
dispatches each on its type byte, keeping in a local variable whether the session has logged
in; at end of stream it logs the client out and unregisters it. `jeuxClientService` is the
handling of one received packet, with every `client_send_ack`, `client_send_nack` and
`client_send_packet` call it makes.

The server is the world and the list of live service threads. A `Server.Event` is one
request handled to completion (a connection accepted, a packet handled by its session's
thread, or a session's end of stream); a run is any sequence of them from the start-up
state, which is how `Reachable` quantifies over every state the requests reach when they
are executed one at a time.

The buffers `server.c` allocates for itself (the copy of a LOGIN name, each USERS line and
the growing payload, `construct_packet`'s `Malloc`) are taken to be allocated: the code
dereferences their `NULL` without a check. Two allocations are checked, and may fail: the
last `realloc` of the USERS payload (the request is then answered with `NACK`), and the
header that `make_packet` allocates for `client_send_ack` and `client_send_nack` (then
nothing is sent).
-/

set_option autoImplicit false

namespace JeuxServer

/-- The local state of one `jeux_client_service` thread. -/
structure Session where
  fd : Nat
  client : Nat
  loggedIn : Bool
  deriving DecidableEq, Repr

/-- A packet as `proto_recv_packet` hands it to the loop: the header's type, id and role, the
size in host order, and the payload buffer (`none` for `NULL`). -/
structure InPacket where
  type : UInt8
  id : UInt8
  role : UInt8
  size : Nat
  payload : Option (List UInt8)
  deriving DecidableEq, Repr

/-- A request as a client sends it: the type, id and role, and the text `s` as payload (none
for the empty text). -/
def InPacket.request (t : JeuxPacketType) (id role : UInt8) (s : String) : InPacket :=
  ⟨t.code, id, role, (ascii s).length, if s = "" then none else some (ascii s)⟩

namespace World

/-- `client_send_ack(client, data, datalen)`: nothing is sent when `make_packet` cannot
allocate the header. -/
def clientSendAck (w : World) (c : Nat) (data : Option (List UInt8)) (datalen : Nat) : World :=
  match w.attempt with
  | (.ok, w) => (w.clientSendPacket c ⟨.ackPkt, 0, 0, datalen, data⟩).2
  | (_, w) => w

/-- `client_send_nack(client)`: nothing is sent when `make_packet` cannot allocate the
header. -/
def clientSendNack (w : World) (c : Nat) : World :=
  match w.attempt with
  | (.ok, w) => (w.clientSendPacket c ⟨.nackPkt, 0, 0, 0, none⟩).2
  | (_, w) => w

/-- The LOGIN case of `jeux_client_service` for a session that has not logged in: the name
check, `preg_register`, `client_login`, and the answer; whether the session is now logged
in. -/
def loginRequest (w : World) (c : Nat) (name : List UInt8) : World × Bool :=
  match w.checkIfOtherClientsLoggedIn name with
  | (true, w) => (w.clientSendNack c, false)
  | (false, w) =>
      match w.pregRegister name with
      | (player, w) =>
          match w.clientLogin c player with
          | (0, w) => (w.clientSendAck c none 0, true)
          | (_, w) => (w.clientSendNack c, false)

/-- One line of the USERS payload: the name, a TAB, the rating in decimal, a newline. -/
def usersLine (name : List UInt8) (rating : Int) : List UInt8 :=
  name ++ ascii "\t" ++ ascii (toString rating) ++ ascii "\n"

/-- The loop of the USERS case over the snapshot `ps`: each player's reference is released,
then its name and rating are read into the next line of the payload. -/
def usersLines (w : World) : List Nat → World × List UInt8
  | [] => (w, [])
  | p :: ps =>
      let w := w.playerUnref (some p)
      let line := match w.players p with
        | some pl => usersLine pl.username pl.rating
        | none => []
      let r := usersLines w ps
      (r.1, line ++ r.2)

end World

/-- The handling of one packet by `jeux_client_service`: the world and the session after it.
The `switch` has no `default`: a type byte that names no case is ignored, and so is
`JEUX_NO_PKT`. -/
def jeuxClientService (w : World) (s : Session) (pkt : InPacket) : World × Session :=
  let c := s.client
  match JeuxPacketType.ofCode pkt.type with
  | some .loginPkt =>
      if !s.loggedIn then
        match w.loginRequest c (cString ((pkt.payload.getD []).take pkt.size)) with
        | (w, true) => (w, { s with loggedIn := true })
        | (w, false) => (w, s)
      else (w.clientSendNack c, s)
  | some .usersPkt =>
      if !s.loggedIn then (w.clientSendNack c, s)
      else
        match w.cregAllPlayers with
        | (ps, w) =>
            match w.usersLines ps with
            | (w, payload) =>
                match w.attempt with
                | (.ok, w) => (w.clientSendAck c (some payload) payload.length, s)
                | (_, w) => (w.clientSendNack c, s)
  | some .invitePkt =>
      if !s.loggedIn then (w.clientSendNack c, s)
      else
        match w.cregLookup (pkt.payload.map cString) with
        | (none, w) => (w.clientSendNack c, s)
        | (some t, w) =>
            if t = c then ((w.clientUnref t).clientSendNack c, s)
            else if pkt.role = 1 ∨ pkt.role = 2 then
              let (sr, tr) : GameRole × GameRole := if pkt.role = 1
                then (.secondPlayerRole, .firstPlayerRole) else (.firstPlayerRole, .secondPlayerRole)
              match w.clientMakeInvitation c t sr tr with
              | (-1, w) => (w.clientSendNack c, s)
              | (sourceId, w) =>
                  ((((w.clientUnref t).clientSendPacket c
                    ⟨.ackPkt, UInt8.ofNat sourceId.toNat, 0, 0, none⟩)).2, s)
            else (w.clientSendNack c, s)
  | some .revokePkt =>
      if !s.loggedIn then (w.clientSendNack c, s)
      else
        match w.clientRevokeInvitation c pkt.id.toNat with
        | (-1, w) => (w.clientSendNack c, s)
        | (_, w) => (w.clientSendAck c none 0, s)
  | some .declinePkt =>
      if !s.loggedIn then (w.clientSendNack c, s)
      else
        match w.clientDeclineInvitation c pkt.id.toNat with
        | (-1, w) => (w.clientSendNack c, s)
        | (_, w) => (w.clientSendAck c none 0, s)
  | some .acceptPkt =>
      if !s.loggedIn then (w.clientSendNack c, s)
      else
        match w.clientAcceptInvitation c pkt.id.toNat with
        | ((-1, _), w) => (w.clientSendNack c, s)
        | ((_, str), w) =>
            ((w.clientSendPacket c ⟨.ackPkt, pkt.id, 0, (str.map List.length).getD 0, str⟩).2, s)
  | some .movePkt =>
      if !s.loggedIn then (w.clientSendNack c, s)
      else
        match w.clientMakeMove c pkt.id.toNat (cString ((pkt.payload.getD []).take pkt.size)) with
        | (-1, w) => (w.clientSendNack c, s)
        | (_, w) => (w.clientSendAck c none 0, s)
  | some .resignPkt =>
      if !s.loggedIn then (w.clientSendNack c, s)
      else
        match w.clientResignGame c pkt.id.toNat with
        | (-1, w) => (w.clientSendNack c, s)
        | (_, w) => (w.clientSendAck c none 0, s)
  | _ => (w, s)

/-- The type bytes the `switch` of `jeux_client_service` has a case for: the requests. -/
def isRequest (b : UInt8) : Bool :=
  match JeuxPacketType.ofCode b with
  | some .loginPkt | some .usersPkt | some .invitePkt | some .revokePkt | some .declinePkt
  | some .acceptPkt | some .movePkt | some .resignPkt => true
  | _ => false

/-- The loop of `jeux_client_service` over the packets its connection receives, until
`proto_recv_packet` fails. -/
def serve (w : World) (s : Session) : List InPacket → World × Session
  | [] => (w, s)
  | pkt :: pkts =>
      let r := jeuxClientService w s pkt
      serve r.1 r.2 pkts

/-- The end of `jeux_client_service`: the `player_unref` of its `NULL` local does nothing,
then `client_logout` and `creg_unregister`. -/
def serviceExit (w : World) (s : Session) : World :=
  ((w.clientLogout s.client).2.cregUnregister s.client).2

/-! ## The server -/

/-- The server: the shared world and the live service threads. -/
structure Server where
  world : World
  sessions : List Session

namespace Server

/-- The start-up state, with the outcomes `os` of the fallible steps to come. -/
def init (os : List Outcome) : Server := ⟨World.init os, []⟩

/-- One request handled to completion: a connection accepted, a packet handled by its
connection's thread, or the end of a connection. The events of a run are handled one after
another, each whole; the interleavings of the service threads are those of `Concurrency/`.
The SIGHUP path, `creg_shutdown_all` and then each service thread's exit path, is not an
event: the invariants of the `Server.run_*` theorems are about runs without it. -/
inductive Event where
  | connect (fd : Nat)
  | packet (k : Nat) (pkt : InPacket)
  | hangup (k : Nat)
  deriving DecidableEq, Repr

/-- The effect of one event: a new connection registers (its thread ends at once if
`creg_register` fails); a packet is handled by the `k`-th thread; the `k`-th thread's
connection ends. -/
def step (S : Server) : Event → Server
  | .connect fd =>
      match S.world.cregRegister fd with
      | (some c, w) => ⟨w, S.sessions ++ [⟨fd, c, false⟩]⟩
      | (none, w) => ⟨w, S.sessions⟩
  | .packet k pkt =>
      match S.sessions[k]? with
      | some s =>
          let r := jeuxClientService S.world s pkt
          ⟨r.1, S.sessions.set k r.2⟩
      | none => S
  | .hangup k =>
      match S.sessions[k]? with
      | some s => ⟨serviceExit S.world s, S.sessions.eraseIdx k⟩
      | none => S

/-- A run of events. -/
def run (S : Server) (es : List Event) : Server := es.foldl step S

theorem run_append (S : Server) (es fs : List Event) : S.run (es ++ fs) = (S.run es).run fs :=
  List.foldl_append _ _ _ _

/-- The states reached from start-up by requests handled one at a time, under any outcomes
of the fallible steps. -/
def Reachable (S : Server) : Prop := ∃ os es, S = (init os).run es

theorem reachable_init (os : List Outcome) : Reachable (init os) := ⟨os, [], rfl⟩

theorem Reachable.run {S : Server} (h : Reachable S) (es : List Event) : Reachable (S.run es) := by
  obtain ⟨os, es0, rfl⟩ := h
  exact ⟨os, es0 ++ es, (run_append _ _ _).symm⟩

/-- The packets of one connection, handled one after the other by its thread, are the
service loop over them. -/
theorem run_packets {S : Server} {k : Nat} {s : Session} (hs : S.sessions[k]? = some s)
    (pkts : List InPacket) :
    S.run (pkts.map (.packet k)) =
      ⟨(serve S.world s pkts).1, S.sessions.set k (serve S.world s pkts).2⟩ := by
  induction pkts generalizing S s with
  | nil =>
      have hset : S.sessions.set k s = S.sessions := List.ext_getElem? fun i => by
        by_cases h : k = i
        · subst h; simp [hs, (List.getElem?_eq_some_iff.1 hs).1]
        · simp [List.getElem?_set_ne h]
      simp [run, serve, hset]
  | cons pkt pkts ih =>
      have hk : k < S.sessions.length := (List.getElem?_eq_some_iff.1 hs).1
      have h1 : (S.step (.packet k pkt)).sessions[k]? = some (jeuxClientService S.world s pkt).2 := by
        simp [step, hs, hk]
      simp only [List.map_cons, run, List.foldl_cons] at ih ⊢
      rw [ih h1]
      simp [step, hs, serve]

/-- Packets for a connection the server does not have are dropped. -/
theorem run_packets_none {S : Server} {k : Nat} (hs : S.sessions[k]? = none)
    (pkts : List InPacket) : S.run (pkts.map (.packet k)) = S := by
  induction pkts with
  | nil => rfl
  | cons pkt pkts ih => simpa [run, step, hs] using ih

/-- The requests of connections served one after the other: for each connection `t` of `ts`
in turn, the packets `pkts t` it receives. -/
def serialEvents (pkts : Nat → List InPacket) (ts : List Nat) : List Event :=
  ts.flatMap fun t => (pkts t).map (.packet t)

/-- The world after connection `t` of `S` is served the packets `pkts t` from `w`. -/
def serveAt (S : Server) (pkts : Nat → List InPacket) (w : World) (t : Nat) : World :=
  match S.sessions[t]? with
  | some s => (serve w s (pkts t)).1
  | none => w

/-- Connections served one after the other, each once: each is served from the world the
previous one left, starting from its session in `S`. -/
theorem run_serialEvents (S : Server) (pkts : Nat → List InPacket) {ts : List Nat}
    (hnd : ts.Nodup) : (S.run (serialEvents pkts ts)).world = ts.foldl (S.serveAt pkts) S.world := by
  induction ts generalizing S with
  | nil => rfl
  | cons t ts ih =>
      rw [List.nodup_cons] at hnd
      rw [serialEvents, List.flatMap_cons, run_append, ← serialEvents, List.foldl_cons]
      cases hs : S.sessions[t]? with
      | none => rw [run_packets_none hs, ih _ hnd.2, serveAt, hs]
      | some s =>
          rw [run_packets hs, ih _ hnd.2, serveAt, hs]
          refine List.foldl_ext _ _ _ fun w u hu => ?_
          have hut : t ≠ u := fun e => hnd.1 (e ▸ hu)
          simp only [serveAt, List.getElem?_set_ne hut]

/-! ## Runs of two clients -/

/-- Two clients connect and log in as alice and bob. -/
def loggedInEvents : List Event :=
  [.connect 10, .connect 11, .packet 0 (.request .loginPkt 0 0 "alice"),
    .packet 1 (.request .loginPkt 0 0 "bob")]

/-- Alice alone has logged in. -/
def aliceLoggedIn : Server := (init []).run (loggedInEvents.take 3)

/-- Two clients connect and log in as alice and bob, and alice invites bob to play second. -/
def openingEvents : List Event :=
  [.connect 10, .connect 11, .packet 0 (.request .loginPkt 0 0 "alice"),
    .packet 1 (.request .loginPkt 0 0 "bob"), .packet 0 (.request .invitePkt 0 2 "bob")]

/-- After `openingEvents`, bob accepts, invites alice to play second, and alice accepts: two
games between the same two clients, invitation 4 (ID 0 for both, alice plays first) and
invitation 5 (ID 1 for both, bob plays first). -/
def crossedGames : List Event :=
  openingEvents ++ [.packet 1 (.request .acceptPkt 0 0 ""),
    .packet 1 (.request .invitePkt 0 2 "alice"), .packet 0 (.request .acceptPkt 1 0 "")]

/-- After `openingEvents`, bob accepts and the two play eight moves with no line made; alice's
ninth move, at 9, fills the board with no line either. -/
def drawnGameEvents : List Event :=
  openingEvents ++ [.packet 1 (.request .acceptPkt 0 0 ""),
    .packet 0 (.request .movePkt 0 0 "1"), .packet 1 (.request .movePkt 0 0 "2"),
    .packet 0 (.request .movePkt 0 0 "3"), .packet 1 (.request .movePkt 0 0 "5"),
    .packet 0 (.request .movePkt 0 0 "4"), .packet 1 (.request .movePkt 0 0 "6"),
    .packet 0 (.request .movePkt 0 0 "8"), .packet 1 (.request .movePkt 0 0 "7")]

/-- Bob accepts, and the two play 1, 4, 2, 5, 7, 6: bob, playing second, completes 4-5-6. -/
def secondPlayerWon : Server :=
  (init []).run (openingEvents ++ [.packet 1 (.request .acceptPkt 0 0 ""),
    .packet 0 (.request .movePkt 0 0 "1"), .packet 1 (.request .movePkt 0 0 "4"),
    .packet 0 (.request .movePkt 0 0 "2"), .packet 1 (.request .movePkt 0 0 "5"),
    .packet 0 (.request .movePkt 0 0 "7"), .packet 1 (.request .movePkt 0 0 "6")])

/-- Bob wins by his own move. Both are sent `ENDED` for `SECOND_PLAYER_ROLE`, and
`player_post_result` gets bob's player first with the code 2, "the second argument won": the
result is posted as alice's win. -/
theorem secondPlayer_win_posted_for_loser :
    secondPlayerWon.world.playerGetName 2 = some (ascii "alice") ∧
      secondPlayerWon.world.playerGetName 3 = some (ascii "bob") ∧
      (secondPlayerWon.world.writes.filter (·.frame.type = .endedPkt)).map
        (fun x => (x.client, x.frame.role)) = [(0, 2), (1, 2)] ∧
      secondPlayerWon.world.results = [(some 3, some 2, 2)] := by
  decide

/-- After `openingEvents`, alice revokes, and the fourteenth fallible step, the `REVOKED` write
to bob, fails with a broken pipe. -/
def revokedBrokenPipe : Server :=
  (init (List.replicate 13 .ok ++ [.brokenPipe])).run
    (openingEvents ++ [.packet 0 (.request .revokePkt 0 0 "")])

/-- Both handles of the invitation were listed and are gone, yet `client_revoke_invitation`
returns `-1` and alice is answered `NACK`. -/
theorem revoke_failed_notification_removes :
    (((init []).run openingEvents).world.clientInvitations 0).nodes = [⟨4, 0⟩] ∧
      (((init []).run openingEvents).world.clientInvitations 1).nodes = [⟨4, 0⟩] ∧
      (revokedBrokenPipe.world.clientInvitations 0).nodes = [] ∧
      (revokedBrokenPipe.world.clientInvitations 1).nodes = [] ∧
      revokedBrokenPipe.world.writes.getLast?.map (fun x => (x.client, x.frame.type)) =
        some (0, .nackPkt) := by
  decide

/-- After `openingEvents`, bob accepts and alice resigns, and the seventeenth fallible step, the
`RESIGNED` write to bob, fails with a broken pipe. -/
def resignedBrokenPipe : Server :=
  (init (List.replicate 16 .ok ++ [.brokenPipe])).run
    (openingEvents ++ [.packet 1 (.request .acceptPkt 0 0 ""), .packet 0 (.request .resignPkt 0 0 "")])

/-- The invitation is CLOSED, both handles stay listed, and alice is answered `NACK`. -/
theorem resign_failed_notification_keeps_closed :
    (resignedBrokenPipe.world.invitations 4).map (·.state) = some .invClosedState ∧
      (resignedBrokenPipe.world.clientInvitations 0).nodes = [⟨4, 0⟩] ∧
      (resignedBrokenPipe.world.clientInvitations 1).nodes = [⟨4, 0⟩] ∧
      resignedBrokenPipe.world.writes.getLast?.map (fun x => (x.client, x.frame.type)) =
        some (0, .nackPkt) := by
  decide

end Server

end JeuxServer
