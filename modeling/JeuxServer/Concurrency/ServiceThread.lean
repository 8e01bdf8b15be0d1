import JeuxServer.Concurrency.Operations

/-!
# The service thread at lock granularity

`jeux_client_service` as a thread program: for each packet its connection receives, the case
of the `switch` for the packet's type, with the lock operations of every function it calls
(`jeuxClientServiceP`), and the loop over the packets (`serveP`).

Run alone, the program for one packet computes `jeuxClientService`
(`exec_jeuxClientServiceP`), and the loop computes `serve` (`exec_serveP`). So a schedule
that runs the threads of the server's connections one after the other, each to its end, ends
in the world that the sequential server reaches by handling the first connection's packets,
then the second's, and so on (`serveP_run_serial`): on connections served one after another,
the threaded server and the sequential server of `Server/Service.lean` agree.
-/

set_option autoImplicit false

namespace JeuxServer

namespace Prog

open World

variable (w : World)

/-! ## The registry lookups of the loop -/

/-- `creg_lookup(user)`: the registry's lock is held across the search and the `client_ref`
of the client found. -/
def cregLookupP (user : Option (List UInt8)) (k : Option Nat → Prog) : Prog :=
  match user with
  | none => k none
  | some u =>
      lock .registry <| read fun w =>
      match w.registry.find? (fun c => ((w.clientGetPlayer c).bind w.playerGetName) == some u) with
      | some c => clientRefP c <| unlock .registry (k (some c))
      | none => unlock .registry (k none)

@[simp] theorem exec_cregLookupP (user : Option (List UInt8)) (k : Option Nat → Prog) :
    (cregLookupP user k).exec w = (k (w.cregLookup user).1).exec (w.cregLookup user).2 := by
  cases user with
  | none => rfl
  | some u =>
      simp only [cregLookupP, exec_lock, exec_read, World.cregLookup]
      cases w.registry.find? (fun c => ((w.clientGetPlayer c).bind w.playerGetName) == some u) <;>
        simp

/-- The loop of the USERS case over the snapshot: each `player_unref` under the player's lock,
then the name and the rating read with no lock held. -/
def usersLinesP : List Nat → (List UInt8 → Prog) → Prog
  | [], k => k []
  | p :: ps, k =>
      playerUnrefP (some p) <| read fun w =>
      let line := match w.players p with
        | some pl => usersLine pl.username pl.rating
        | none => []
      usersLinesP ps fun rest => k (line ++ rest)

@[simp] theorem exec_usersLinesP (ps : List Nat) (k : List UInt8 → Prog) :
    (usersLinesP ps k).exec w = (k (w.usersLines ps).2).exec (w.usersLines ps).1 := by
  induction ps generalizing w k with
  | nil => rfl
  | cons p ps ih => simp only [usersLinesP, exec_playerUnrefP, exec_read, ih]; rfl

/-! ## One packet, and the loop -/

/-- The handling of one packet by `jeux_client_service`, with the lock operations of the
functions it calls; the continuation receives the session after it. -/
def jeuxClientServiceP (s : Session) (pkt : InPacket) (k : Session → Prog) : Prog :=
  let c := s.client
  match JeuxPacketType.ofCode pkt.type with
  | some .loginPkt =>
      if !s.loggedIn then
        loginRequestP c (cString ((pkt.payload.getD []).take pkt.size)) fun b =>
        k (if b then { s with loggedIn := true } else s)
      else clientSendNackP c (k s)
  | some .usersPkt =>
      if !s.loggedIn then clientSendNackP c (k s)
      else
        cregAllPlayersP fun ps =>
        usersLinesP ps fun payload =>
        act (·.attempt.2) fun w =>
        if w.attempt.1 = .ok then clientSendAckP c (some payload) payload.length (k s)
        else clientSendNackP c (k s)
  | some .invitePkt =>
      if !s.loggedIn then clientSendNackP c (k s)
      else
        cregLookupP (pkt.payload.map cString) fun target =>
        match target with
        | none => clientSendNackP c (k s)
        | some t =>
            if t = c then clientUnrefP t (clientSendNackP c (k s))
            else if pkt.role = 1 ∨ pkt.role = 2 then
              let (sr, tr) : GameRole × GameRole := if pkt.role = 1
                then (.secondPlayerRole, .firstPlayerRole) else (.firstPlayerRole, .secondPlayerRole)
              clientMakeInvitationP c t sr tr fun sourceId =>
              if sourceId = -1 then clientSendNackP c (k s)
              else
                clientUnrefP t <|
                clientSendPacketP c ⟨.ackPkt, UInt8.ofNat sourceId.toNat, 0, 0, none⟩ fun _ => k s
            else clientSendNackP c (k s)
  | some .revokePkt =>
      if !s.loggedIn then clientSendNackP c (k s)
      else
        clientRevokeInvitationP c pkt.id.toNat fun r =>
        if r = -1 then clientSendNackP c (k s) else clientSendAckP c none 0 (k s)
  | some .declinePkt =>
      if !s.loggedIn then clientSendNackP c (k s)
      else
        clientDeclineInvitationP c pkt.id.toNat fun r =>
        if r = -1 then clientSendNackP c (k s) else clientSendAckP c none 0 (k s)
  | some .acceptPkt =>
      if !s.loggedIn then clientSendNackP c (k s)
      else
        clientAcceptInvitationP c pkt.id.toNat fun r =>
        if r.1 = -1 then clientSendNackP c (k s)
        else
          clientSendPacketP c ⟨.ackPkt, pkt.id, 0, (r.2.map List.length).getD 0, r.2⟩ fun _ =>
          k s
  | some .movePkt =>
      if !s.loggedIn then clientSendNackP c (k s)
      else
        clientMakeMoveP c pkt.id.toNat (cString ((pkt.payload.getD []).take pkt.size)) fun r =>
        if r = -1 then clientSendNackP c (k s) else clientSendAckP c none 0 (k s)
  | some .resignPkt =>
      if !s.loggedIn then clientSendNackP c (k s)
      else
        clientResignGameP c pkt.id.toNat fun r =>
        if r = -1 then clientSendNackP c (k s) else clientSendAckP c none 0 (k s)
  | _ => k s

/-- Run alone, the handling of a packet is `jeuxClientService`. -/
theorem exec_jeuxClientServiceP (s : Session) (pkt : InPacket) (k : Session → Prog) :
    (jeuxClientServiceP s pkt k).exec w =
      (k (jeuxClientService w s pkt).2).exec (jeuxClientService w s pkt).1 := by
  unfold jeuxClientServiceP jeuxClientService
  cases JeuxPacketType.ofCode pkt.type with
  | none => rfl
  | some t =>
    cases t
    case loginPkt =>
      cases s.loggedIn
      · simp only [Bool.not_false, if_true, exec_loginRequestP]
        rcases w.loginRequest _ _ with ⟨w1, _ | _⟩ <;> rfl
      · simp
    case usersPkt =>
      cases s.loggedIn
      · simp
      · simp only [Bool.not_true, Bool.false_eq_true, if_false, exec_cregAllPlayersP,
          exec_usersLinesP, exec_act]
        rcases w.cregAllPlayers with ⟨ps, w1⟩
        rcases w1.usersLines ps with ⟨w2, payload⟩
        rcases w2.attempt with ⟨_ | _ | _, w3⟩ <;> simp
    case invitePkt =>
      cases s.loggedIn
      · simp
      · simp only [Bool.not_true, Bool.false_eq_true, if_false, exec_cregLookupP]
        rcases w.cregLookup _ with ⟨_ | t, w1⟩
        · simp
        · dsimp only
          split_ifs
          · simp
          iterate 2
            simp only [exec_clientMakeInvitationP]
            rcases w1.clientMakeInvitation _ _ _ _ with ⟨r, w2⟩
            by_cases hr : r = -1
            · subst hr; simp
            · simp [hr]
          simp
    case revokePkt | declinePkt | movePkt | resignPkt | acceptPkt =>
      cases s.loggedIn
      · simp
      · simp only [Bool.not_true, Bool.false_eq_true, if_false, exec_clientRevokeInvitationP,
          exec_clientDeclineInvitationP, exec_clientMakeMoveP, exec_clientResignGameP,
          exec_clientAcceptInvitationP]
        split <;> split <;> rename_i hx <;> simp only [hx] at * <;> first | rfl | simp_all
    all_goals rfl

/-- The loop of `jeux_client_service` over the packets its connection receives; the
continuation receives the session at end of stream. -/
def serveP (s : Session) : List InPacket → (Session → Prog) → Prog
  | [], k => k s
  | pkt :: pkts, k => jeuxClientServiceP s pkt fun s => serveP s pkts k

/-- Run alone, a connection's thread is `serve`. -/
theorem exec_serveP (s : Session) (pkts : List InPacket) (k : Session → Prog) :
    (serveP s pkts k).exec w = (k (serve w s pkts).2).exec (serve w s pkts).1 := by
  induction pkts generalizing w s with
  | nil => rfl
  | cons pkt pkts ih => simp only [serveP, exec_jeuxClientServiceP, ih, serve]

/-! ## Connections served one after the other -/

/-- The service threads of the server's connections, the `t`-th serving the packets
`pkts t`. -/
def serviceThreads (S : Server) (pkts : Nat → List InPacket) : List Prog :=
  S.sessions.mapIdx fun t s => serveP s (pkts t) fun _ => .ret 0

/-- Thread `t` alone serves connection `t`. -/
theorem exec_serviceThread (S : Server) (pkts : Nat → List InPacket) {t : Nat} {p : Prog}
    (hp : (serviceThreads S pkts)[t]? = some p) : (p.exec w).2 = S.serveAt pkts w t := by
  simp only [serviceThreads, List.getElem?_mapIdx, Option.map_eq_some'] at hp
  obtain ⟨s, hs, rfl⟩ := hp
  simp [exec_serveP, Server.serveAt, hs]

/-- The threads of a server's connections, run one after the other, each to its end (`blocks`
lists the threads with their numbers of steps): the world is the one the sequential server
reaches by handling the packets of the first connection run, then those of the second, and
so on. -/
theorem serveP_run_serial {S : Server} {S' : Sys} (pkts : Nat → List InPacket)
    (blocks : List (Nat × Nat)) (hnd : (blocks.map (·.1)).Nodup)
    (h : (Sys.start S.world (serviceThreads S pkts)).run (Sys.serial blocks) = some S')
    (hfin : ∀ b ∈ blocks, ∃ r, S'.result b.1 = some r) :
    S'.world = (S.run (Server.serialEvents pkts (blocks.map (·.1)))).world := by
  have hp : ∀ b ∈ blocks, (serviceThreads S pkts)[b.1]? =
      some ((serviceThreads S pkts)[b.1]?.getD (.ret 0)) := fun b hb => by
    obtain ⟨r, hr⟩ := hfin b hb
    have hlt := (List.getElem?_eq_some_iff.1 (Sys.result_eq_some.1 hr)).1
    rw [Sys.run_length h] at hlt
    simp [List.getElem?_eq_getElem (show b.1 < (serviceThreads S pkts).length from hlt)]
  rw [@Sys.run_serial _ _ (fun t => (serviceThreads S pkts)[t]?.getD (.ret 0)) blocks hnd hp h hfin,
    Server.run_serialEvents S pkts hnd, List.foldl_map]
  exact List.foldl_ext _ _ _ fun w b hb => exec_serviceThread w S pkts (hp b hb)

/-- Connection 0 logs in as alice and asks for the users; the others do the same as bob. -/
def loginUsers (t : Nat) : List InPacket :=
  [.request .loginPkt 0 0 (if t = 0 then "alice" else "bob"), .request .usersPkt 0 0 ""]

/-- Two fresh connections. -/
def twoConnections : Server := (Server.init []).run [.connect 10, .connect 11]

/-- Alice's thread runs to its end, then bob's. -/
theorem serveP_run_serial_logins :
    ∃ S' ∈ (Sys.start twoConnections.world (serviceThreads twoConnections loginUsers)).run
        (Sys.serial [(0, 37), (1, 58)]),
      S'.world = (twoConnections.run (Server.serialEvents loginUsers [0, 1])).world := by
  obtain ⟨S', hS', hr₀, hr₁⟩ : ∃ S' ∈ (Sys.start twoConnections.world
      (serviceThreads twoConnections loginUsers)).run (Sys.serial [(0, 37), (1, 58)]),
      S'.result 0 = some 0 ∧ S'.result 1 = some 0 := by
    decide
  exact ⟨S', hS', serveP_run_serial loginUsers [(0, 37), (1, 58)] (by decide) hS'
    (by simpa using ⟨⟨0, hr₀⟩, ⟨0, hr₁⟩⟩)⟩

end Prog

end JeuxServer
