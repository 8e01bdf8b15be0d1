import JeuxServer.Server.Accounting

/-!
# Logging out and shutting down

`client_logout` walks the client's list once, resigning, revoking or declining each handle, and
does not look at what the calls return. A handle whose call fails stays in both lists, and
`client_logout` still returns `0` (`logout_keeps_failed_resign`).

`creg_shutdown_all` is meant to shut down the read side of each registered socket and nothing
more, leaving the logout and the unregistration to each service thread when it sees the end of
its stream. It also calls `client_logout` and `creg_unregister` on each registered client
itself (`World.cregShutdownAll`). The registry is emptied, the counts change, a client with no
other reference is freed under its thread, and a client that survives is logged out a second
time by its own thread, whose `creg_unregister` then fails
(`shutdownAll_logs_out_and_unregisters`).
-/

set_option autoImplicit false

namespace JeuxServer

/-- The logged-in flag and the player of a client. -/
def Client.login (cl : Client) : Bool × Option Nat := (cl.loggedIn, cl.player)

namespace World

/-- From `w` to `w'` no client's logged-in flag or player has changed: every client of `w'`
was a client of `w` with the same flag and player. Clients may have been freed. -/
def LoginKept (w w' : World) : Prop :=
  ∀ c, w'.clients c = none ∨ (w'.clients c).map Client.login = (w.clients c).map Client.login

namespace LoginKept

variable {w v v' : World}

theorem refl (w : World) : LoginKept w w := fun _ => .inr rfl

theorem trans (h1 : LoginKept w v) (h2 : LoginKept v v') : LoginKept w v' := fun c =>
  (h2 c).elim .inl fun e2 => (h1 c).elim
    (fun e1 => .inl (by simpa [e1] using e2)) (fun e1 => .inr (e2.trans e1))

theorem of_clients (h : LoginKept w v) (hc : v'.clients = v.clients) : LoginKept w v' :=
  fun c => by rw [hc]; exact h c

/-- A client still allocated after steps that keep logins has the flag and player it had. -/
theorem login_eq (h : LoginKept w v) {c : Nat} (hs : (v.clients c).isSome) :
    (v.clients c).map Client.login = (w.clients c).map Client.login :=
  (h c).resolve_left fun e => by simp [e] at hs

end LoginKept

section Primitives

variable {w v : World}

theorem loginKept_attempt (h : LoginKept w v) : LoginKept w v.attempt.2 :=
  h.of_clients (attempt_clients v)

theorem loginKept_setInvitation (h : LoginKept w v) (i : Nat) (x : Option Invitation) :
    LoginKept w (v.setInvitation i x) := h.of_clients rfl

theorem loginKept_setPlayer (h : LoginKept w v) (p : Nat) (x : Option Player) :
    LoginKept w (v.setPlayer p x) := h.of_clients rfl

theorem loginKept_playerPostResult (h : LoginKept w v) (p q : Option Nat) (r : Int) :
    LoginKept w (v.playerPostResult p q r) := h.of_clients rfl

theorem loginKept_playerUnref (h : LoginKept w v) (p : Option Nat) :
    LoginKept w (v.playerUnref p) :=
  h.of_clients (by unfold playerUnref; (repeat' split) <;> rfl)

theorem loginKept_setClient_none (h : LoginKept w v) (c : Nat) :
    LoginKept w (v.setClient c none) := fun x => by
  by_cases e : x = c
  · exact .inl (by simp [setClient, e])
  · simpa [setClient, Function.update_noteq e] using h x

theorem loginKept_setClient (h : LoginKept w v) {c : Nat} {cl cl' : Client}
    (hc : v.clients c = some cl) (hl : cl'.login = cl.login) :
    LoginKept w (v.setClient c (some cl')) := fun x => by
  by_cases e : x = c
  · subst e
    rcases h x with h0 | h0
    · simp [hc] at h0
    · exact .inr (by simp [setClient, ← h0, hc, hl])
  · simpa [setClient, Function.update_noteq e] using h x

theorem loginKept_clientUnref (h : LoginKept w v) (c : Nat) :
    LoginKept w (v.clientUnref c) := by
  unfold clientUnref
  split
  · exact h
  · split
    · exact loginKept_playerUnref (loginKept_setClient_none h c) _
    · rename_i cl hc _
      exact loginKept_setClient h hc rfl

theorem loginKept_invUnref (h : LoginKept w v) (i : Nat) : LoginKept w (v.invUnref i) := by
  unfold invUnref
  (repeat' split) <;>
    solve_by_elim [loginKept_clientUnref, loginKept_setInvitation]

theorem loginKept_invClose (h : LoginKept w v) (i : Nat) (r : GameRole) :
    LoginKept w (v.invClose i r).2 :=
  h.of_clients (by unfold invClose; (repeat' split) <;> rfl)

theorem loginKept_clientSendPacket (h : LoginKept w v) (c : Nat) (p : Packet) :
    LoginKept w (v.clientSendPacket c p).2 :=
  h.of_clients (by unfold clientSendPacket; dsimp only; split_ifs <;> simp)

theorem loginKept_clientRemoveInvitation (h : LoginKept w v) (c i : Nat) :
    LoginKept w (v.clientRemoveInvitation c i).2 := by
  unfold clientRemoveInvitation
  (repeat' split) <;> solve_by_elim [loginKept_invUnref, loginKept_setClient]

end Primitives

section Calls

variable {w v : World}

theorem loginKept_resignEnd (h : LoginKept w v) (c id inv s t o oid : Nat) :
    LoginKept w (v.resignEnd c id inv s t o oid).2 := by
  unfold resignEnd
  (repeat' (first | split | dsimp only)) <;> (try simp only [pair_eq_iff] at *) <;>
    (try casesm* _ ∧ _) <;> subst_vars <;>
    solve_by_elim [loginKept_clientSendPacket, loginKept_clientRemoveInvitation,
      loginKept_playerPostResult]

theorem loginKept_clientResignGame (h : LoginKept w v) (c id : Nat) :
    LoginKept w (v.clientResignGame c id).2 := by
  unfold clientResignGame
  (repeat' (first | split | dsimp only)) <;> (try simp only [pair_eq_iff] at *) <;>
    (try casesm* _ ∧ _) <;> subst_vars <;>
    solve_by_elim [loginKept_clientSendPacket, loginKept_invClose, loginKept_resignEnd]

theorem loginKept_clientRevokeInvitation (h : LoginKept w v) (c id : Nat) :
    LoginKept w (v.clientRevokeInvitation c id).2 := by
  unfold clientRevokeInvitation
  (repeat' (first | split | dsimp only)) <;> (try simp only [pair_eq_iff] at *) <;>
    (try casesm* _ ∧ _) <;> subst_vars <;>
    solve_by_elim [loginKept_clientSendPacket, loginKept_clientRemoveInvitation]

theorem loginKept_clientDeclineInvitation (h : LoginKept w v) (c id : Nat) :
    LoginKept w (v.clientDeclineInvitation c id).2 := by
  unfold clientDeclineInvitation
  (repeat' (first | split | dsimp only)) <;> (try simp only [pair_eq_iff] at *) <;>
    (try casesm* _ ∧ _) <;> subst_vars <;>
    solve_by_elim [loginKept_clientSendPacket, loginKept_clientRemoveInvitation]

theorem loginKept_logoutStep (h : LoginKept w v) (c : Nat) (node : InvitationNode) :
    LoginKept w (logoutStep c v node) := by
  unfold logoutStep
  split_ifs
  exacts [loginKept_clientResignGame h c _, loginKept_clientRevokeInvitation h c _,
    loginKept_clientDeclineInvitation h c _]

theorem loginKept_foldl_logoutStep (c : Nat) :
    ∀ (nodes : List InvitationNode) {v : World}, LoginKept w v →
      LoginKept w (nodes.foldl (logoutStep c) v)
  | [], _, h => h
  | n :: ns, _, h => loginKept_foldl_logoutStep c ns (loginKept_logoutStep h c n)

/-- `client_logout` changes no client's logged-in flag or player. -/
theorem loginKept_clientLogout (w : World) (c : Nat) : LoginKept w (w.clientLogout c).2 := by
  unfold clientLogout
  split
  · exact .refl w
  · split
    · exact .refl w
    · exact loginKept_foldl_logoutStep c _ (loginKept_playerUnref (.refl w) _)

end Calls

/-- `client_logout` of a logged-in client returns `0` and logs no one out: every client it
leaves allocated keeps its logged-in flag and its player. So when the client itself is still
allocated, `client_get_player` returns the player it returned before, and a second
`client_logout` returns `0` again. -/
theorem clientLogout_keeps_login (w : World) (c : Nat)
    (hl : (w.clients c).map (·.loggedIn) = some true) :
    (w.clientLogout c).1 = 0 ∧ LoginKept w (w.clientLogout c).2 ∧
      (((w.clientLogout c).2.clients c).isSome →
        (w.clientLogout c).2.clientGetPlayer c = w.clientGetPlayer c ∧
          ((w.clientLogout c).2.clientLogout c).1 = 0) := by
  have first : ∀ v : World, (v.clients c).map (·.loggedIn) = some true →
      (v.clientLogout c).1 = 0 := by
    intro v hv
    obtain ⟨cl, hc, hcl⟩ := Option.map_eq_some'.1 hv
    simp [clientLogout, hc, hcl]
  have hk := loginKept_clientLogout w c
  refine ⟨first w hl, hk, fun hs => ?_⟩
  have he := hk.login_eq hs
  obtain ⟨cl, hc, hcl⟩ := Option.map_eq_some'.1 hl
  obtain ⟨cl', hc', hcl'⟩ : ∃ cl', (w.clientLogout c).2.clients c = some cl' ∧
      cl'.login = cl.login := by
    simpa [hc] using he
  simp only [Client.login, Prod.mk.injEq] at hcl'
  refine ⟨by simp [clientGetPlayer, hc, hc', hcl', hcl], first _ (by simp [hc', hcl', hcl])⟩

/-- Alice, logged in, logs out. -/
theorem clientLogout_keeps_login_alice :
    (Server.aliceLoggedIn.world.clients 0).map (·.loggedIn) = some true ∧
      (Server.aliceLoggedIn.world.clientLogout 0).1 = 0 ∧
      LoginKept Server.aliceLoggedIn.world (Server.aliceLoggedIn.world.clientLogout 0).2 ∧
      (((Server.aliceLoggedIn.world.clientLogout 0).2.clients 0).isSome →
        (Server.aliceLoggedIn.world.clientLogout 0).2.clientGetPlayer 0 =
          Server.aliceLoggedIn.world.clientGetPlayer 0 ∧
        ((Server.aliceLoggedIn.world.clientLogout 0).2.clientLogout 0).1 = 0) :=
  ⟨by decide, clientLogout_keeps_login _ 0 (by decide)⟩

/-- `creg_shutdown_all`: for each registered client, from the head of the list,
`shutdown(fd, SHUT_RD)`, then `client_logout` and `creg_unregister`. The walk reads the next
node before the current client is unregistered, so it visits the list as it was; the
descriptors shut down are returned in order. -/
def cregShutdownAll (w : World) : List Nat × World :=
  w.registry.foldl (fun acc c =>
    (acc.1 ++ ((acc.2.clients c).map (·.fd)).toList,
      ((acc.2.clientLogout c).2.cregUnregister c).2)) ([], w)

end World

namespace Server

/-- After `openingEvents`, bob accepts; the seventeenth fallible step is then, during alice's
logout, the `RESIGNED` write to bob, and it fails with a broken pipe. -/
def acceptedGame : Server :=
  (init (List.replicate 16 .ok ++ [.brokenPipe])).run
    (openingEvents ++ [.packet 1 (.request .acceptPkt 0 0 "")])

/-- Alice logs out during a game and the `RESIGNED` write fails: `client_logout` returns `0`
and the invitation, CLOSED, is still listed by both clients. -/
theorem logout_keeps_failed_resign :
    (acceptedGame.world.clientLogout 0).1 = 0 ∧
      ((acceptedGame.world.clientLogout 0).2.clientInvitations 0).nodes = [⟨4, 0⟩] ∧
      ((acceptedGame.world.clientLogout 0).2.clientInvitations 1).nodes = [⟨4, 0⟩] ∧
      ((acceptedGame.world.clientLogout 0).2.invitations 4).map (·.state) =
        some .invClosedState := by
  decide

/-- Alice and bob are logged in and bob's invitation to alice with the role byte 0 has left a
reference to alice. -/
def beforeShutdown : World := (badRoleInvite 1 "alice").world

/-- The world `creg_shutdown_all` leaves. -/
def afterShutdown : World := beforeShutdown.cregShutdownAll.2

/-- `creg_shutdown_all` shuts both sockets down, empties the registry, frees bob and releases
alice's player once. Alice's thread, at the end of its stream, logs her out again, releasing
her player a second time, and its `creg_unregister` fails (in the code with the registry's
mutex still held). -/
theorem shutdownAll_logs_out_and_unregisters :
    beforeShutdown.registry = [1, 0] ∧ beforeShutdown.clientCount = 2 ∧
      (beforeShutdown.players 2).map (·.refCount) = some 3 ∧
      beforeShutdown.cregShutdownAll.1 = [11, 10] ∧
      afterShutdown.registry = [] ∧ afterShutdown.clientCount = 0 ∧
      (afterShutdown.clients 1).isNone ∧ (afterShutdown.players 2).map (·.refCount) = some 2 ∧
      (afterShutdown.clientLogout 0).1 = 0 ∧
      ((afterShutdown.clientLogout 0).2.players 2).map (·.refCount) = some 1 ∧
      ((afterShutdown.clientLogout 0).2.cregUnregister 0).1 = -1 := by
  decide

/-- Alice, logged in, logs out: `client_logout` returns `0`, yet `client_get_player` still
returns her player, `creg_all_players` still reports it and `creg_lookup` still finds her. A
second `client_logout` returns `0` again and releases her player's reference once more. -/
theorem logout_keeps_player :
    aliceLoggedIn.Reachable ∧ (aliceLoggedIn.world.clientLogout 0).1 = 0 ∧
      (aliceLoggedIn.world.clientLogout 0).2.clientGetPlayer 0 = some 2 ∧
      (aliceLoggedIn.world.clientLogout 0).2.cregAllPlayers.1 = [2] ∧
      ((aliceLoggedIn.world.clientLogout 0).2.cregLookup (some (ascii "alice"))).1 = some 0 ∧
      ((aliceLoggedIn.world.clientLogout 0).2.clientLogout 0).1 = 0 ∧
      (aliceLoggedIn.world.players 2).map (·.refCount) = some 3 ∧
      ((aliceLoggedIn.world.clientLogout 0).2.players 2).map (·.refCount) = some 2 ∧
      (((aliceLoggedIn.world.clientLogout 0).2.clientLogout 0).2.players 2).map (·.refCount) =
        some 1 :=
  ⟨⟨[], _, rfl⟩, by decide⟩

end Server

end JeuxServer
