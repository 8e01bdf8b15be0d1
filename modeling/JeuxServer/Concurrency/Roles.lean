import JeuxServer.Concurrency.ServiceThread
import JeuxServer.Game.Rules
import JeuxServer.Server.Replies

/-!
# Every invitation gives both its clients a player's role

`client_make_move` parses the move for the mover's role in the invitation, and
`game_parse_move` checks the turn only for a role other than `NULL_ROLE`. `inv_create` is the
only code that sets an invitation's roles, and its one caller, the INVITE case of
`jeux_client_service`, passes `FIRST_PLAYER_ROLE` and `SECOND_PLAYER_ROLE` in one order or the
other, so every invitation the server holds names two player roles (`World.RolesSet`).

`Prog.Keeps P held p` says that every block of the thread program `p`, run holding the mutexes
`held`, keeps `P` and writes only to clients whose mutex is in `held`. Each program of the
server keeps `RolesSet` in this sense (`keeps_jeuxClientServiceP` and the lemmas before it), so
the invariant holds after any interleaving of the service threads (`rolesSet_interleaving`)
and, through `exec`, in every state the server reaches (`rolesSet_reachable`); and every frame
a thread writes goes to a client whose mutex the thread holds (`writes_under_lock`). In such a
state, a move that changes a game's board is made by the client whose turn it is, and fills one
empty cell with that client's mark (`clientMakeMove_marks_turn`).
-/

set_option autoImplicit false

namespace JeuxServer

/-! ## Programs that keep a predicate of the world and write under the client's lock -/

namespace Prog

/-- What a block may do to the log of writes, run by a thread that holds the mutexes `held`:
nothing, or one write to a client whose lock it holds. -/
def WritesUnder (held : List Mutex) (w w' : World) : Prop :=
  w'.writes = w.writes ∨ ∃ x, Mutex.client x.client ∈ held ∧ w'.writes = w.writes ++ [x]

/-- Every block of the program, run by a thread that holds the mutexes `held`, keeps `P` and
writes as `WritesUnder` allows; a lock adds its mutex to `held`, an unlock removes it. -/
inductive Keeps (P : World → Prop) : List Mutex → Prog → Prop
  | ret {held : List Mutex} (r : Int) : Keeps P held (.ret r)
  | lock {held : List Mutex} (m : Mutex) {k : Prog} :
      Keeps P (m :: held) k → Keeps P held (.lock m k)
  | unlock {held : List Mutex} (m : Mutex) {k : Prog} :
      Keeps P (held.erase m) k → Keeps P held (.unlock m k)
  | act {held : List Mutex} {f : World → World} {k : World → Prog} :
      (∀ w, P w → P (f w)) → (∀ w, WritesUnder held w (f w)) →
      (∀ w, Keeps P held (k w)) → Keeps P held (.act f k)

section Keeps

variable {P : World → Prop} {held : List Mutex}

/-- Releasing the lock taken last. -/
theorem Keeps.release {m : Mutex} {k : Prog} (hk : Keeps P held k) :
    Keeps P (m :: held) (.unlock m k) :=
  .unlock m (by rwa [List.erase_cons_head])

theorem Keeps.read {k : World → Prog} (hk : ∀ w, Keeps P held (k w)) : Keeps P held (read k) :=
  .act (fun _ => id) (fun _ => .inl rfl) hk

theorem Keeps.ite {c : Prop} [Decidable c] {a b : Prog} (ha : Keeps P held a)
    (hb : Keeps P held b) : Keeps P held (if c then a else b) := by
  split <;> assumption

/-- Run alone from a world with `P`, a program that keeps `P` ends in one. -/
theorem Keeps.exec {p : Prog} (hp : Keeps P held p) {w : World} (hw : P w) : P (p.exec w).2 := by
  induction hp generalizing w with
  | ret => exact hw
  | lock _ _ ih | unlock _ _ ih => exact ih hw
  | act hf _ _ ih => exact ih _ (hf _ hw)

/-- A run of blocks keeps `P`, writes only to clients whose locks are held, and what is left
of the program still keeps `P`. -/
theorem Keeps.settle {p : Prog} (hp : Keeps P held p) {w : World} (hw : P w) :
    P (p.settle w).1 ∧ Keeps P held (p.settle w).2 ∧
      ∃ xs, (p.settle w).1.writes = w.writes ++ xs ∧
        ∀ x ∈ xs, Mutex.client x.client ∈ held := by
  induction hp generalizing w with
  | ret r => exact ⟨hw, .ret r, [], (List.append_nil _).symm, by simp⟩
  | lock m hk _ => exact ⟨hw, .lock m hk, [], (List.append_nil _).symm, by simp⟩
  | unlock m hk _ => exact ⟨hw, .unlock m hk, [], (List.append_nil _).symm, by simp⟩
  | act hf hwr _ ih =>
      rw [Prog.settle]
      obtain ⟨h1, h2, xs, hxs, hall⟩ := ih _ (hf _ hw)
      refine ⟨h1, h2, ?_⟩
      rcases hwr w with he | ⟨x, hx, he⟩
      · exact ⟨xs, by rw [hxs, he], hall⟩
      · refine ⟨x :: xs, by rw [hxs, he, List.append_assoc, List.singleton_append], ?_⟩
        rintro y (_ | ⟨_, hy⟩)
        exacts [hx, hall y hy]

end Keeps

end Prog

namespace Sys

variable {P : World → Prop}

/-- Thread `t` runs `p` holding the mutexes of some `held`, from which `p` keeps `P`. -/
def ThreadKeeps (P : World → Prop) (S : Sys) (t : Nat) (p : Prog) : Prop :=
  ∃ held : List Mutex, Prog.Keeps P held p ∧ held.Nodup ∧ ∀ m ∈ held, S.holder m = some t

/-- The world has `P`, and every thread keeps it from the mutexes it holds. -/
def Keeps (P : World → Prop) (S : Sys) : Prop :=
  P S.world ∧ ∀ t p, S.threads[t]? = some p → S.ThreadKeeps P t p

theorem start_keeps {w : World} {ps : List Prog} (hw : P w)
    (hps : ∀ p ∈ ps, Prog.Keeps P [] p) : (start w ps).Keeps P :=
  ⟨hw, fun _ p hp => ⟨[], hps p (List.getElem?_mem hp), List.nodup_nil, by simp⟩⟩

/-- Replacing thread `t`'s program keeps the threads' part of `Keeps`, when the new program
keeps `P` and the other threads keep the mutexes they hold. -/
theorem Keeps.set {S S' : Sys} {t : Nat} {p : Prog}
    (hS : ∀ t q, S.threads[t]? = some q → S.ThreadKeeps P t q)
    (hthreads : S'.threads = S.threads.set t p) (hp : S'.ThreadKeeps P t p)
    (hother : ∀ t', t' ≠ t → ∀ m, S.holder m = some t' → S'.holder m = some t') :
    ∀ t' q, S'.threads[t']? = some q → S'.ThreadKeeps P t' q := by
  intro t' q hq
  rw [hthreads, List.getElem?_set] at hq
  split_ifs at hq with e
  · cases hq
    exact e ▸ hp
  · obtain ⟨held, hk, hnd, hh⟩ := hS t' q hq
    exact ⟨held, hk, hnd, fun m hm => hother t' (Ne.symm e) m (hh m hm)⟩

/-- The step lemma: a step of any thread keeps `Keeps`, and every write it makes goes to a
client whose lock the thread holds. -/
theorem Keeps.step {S S' : Sys} {t : Nat} (hS : S.Keeps P) (h : S.step t = some S') :
    S'.Keeps P ∧ ∃ xs, S'.world.writes = S.world.writes ++ xs ∧
      ∀ x ∈ xs, S.holder (.client x.client) = some t := by
  unfold Sys.step at h
  split at h
  · rename_i m k hp
    split at h
    · rename_i hfree
      cases h
      obtain ⟨held, hk, hnd, hheld⟩ := hS.2 t _ hp
      cases hk with
      | lock _ hk =>
        have hm : m ∉ held := fun hm => by rw [hheld m hm] at hfree; cases hfree
        refine ⟨⟨hS.1, Keeps.set hS.2 rfl ⟨m :: held, hk, List.nodup_cons.2 ⟨hm, hnd⟩,
          fun m' hm' => ?_⟩ fun t' _ m' hm' => ?_⟩, [], by simp, by simp⟩
        · rcases List.mem_cons.1 hm' with rfl | hm'
          · exact Function.update_same _ _ _
          · exact (Function.update_noteq (fun e : m' = m => hm (e ▸ hm')) _ _).trans
              (hheld m' hm')
        · have hne : m' ≠ m := fun e => by rw [e, hfree] at hm'; cases hm'
          exact (Function.update_noteq hne _ _).trans hm'
    · cases h
  · rename_i m k hp
    split at h
    · rename_i hmine
      cases h
      obtain ⟨held, hk, hnd, hheld⟩ := hS.2 t _ hp
      cases hk with
      | unlock _ hk =>
        refine ⟨⟨hS.1, Keeps.set hS.2 rfl ⟨held.erase m, hk, hnd.erase m,
          fun m' hm' => ?_⟩ fun t' ht' m' hm' => ?_⟩, [], by simp, by simp⟩
        · obtain ⟨hne, hm'⟩ := (hnd.mem_erase_iff).1 hm'
          exact (Function.update_noteq hne _ _).trans (hheld m' hm')
        · have hne : m' ≠ m := fun e => by
            rw [e, hmine] at hm'
            exact ht' (Option.some.inj hm').symm
          exact (Function.update_noteq hne _ _).trans hm'
    · cases h
  · rename_i f k hp
    cases h
    obtain ⟨held, hk, hnd, hheld⟩ := hS.2 t _ hp
    obtain ⟨h1, h2, xs, hxs, hall⟩ := hk.settle hS.1
    exact ⟨⟨h1, Keeps.set hS.2 rfl ⟨held, h2, hnd, hheld⟩ fun _ _ _ h => h⟩, xs, hxs,
      fun x hx => hheld _ (hall x hx)⟩
  · cases h

/-- The run lemma: every interleaving keeps `Keeps`. -/
theorem Keeps.run {S S' : Sys} {ts : List Nat} (hS : S.Keeps P) (h : S.run ts = some S') :
    S'.Keeps P := by
  induction ts generalizing S with
  | nil => obtain rfl : S = S' := Option.some.inj h; exact hS
  | cons t ts ih =>
      obtain ⟨S1, h1, h⟩ := run_cons.1 h
      exact ih (hS.step h1).1 h

end Sys

/-! ## The roles of the invitations -/

namespace World

/-- Every invitation names a player's role for its source and for its target. -/
def RolesSet (w : World) : Prop :=
  ∀ i inv, w.invitations i = some inv → inv.sourceRole ≠ .nullRole ∧ inv.targetRole ≠ .nullRole

section Frame

variable (w : World)

@[simp] theorem setClient_invitations (c : Nat) (cl : Option Client) :
    (w.setClient c cl).invitations = w.invitations := rfl

@[simp] theorem setPlayer_invitations (p : Nat) (pl : Option Player) :
    (w.setPlayer p pl).invitations = w.invitations := rfl

@[simp] theorem playerPostResult_invitations (p q : Option Nat) (r : Int) :
    (w.playerPostResult p q r).invitations = w.invitations := rfl

@[simp] theorem alloc_invitations : w.alloc.2.invitations = w.invitations := by
  have h := attempt_invitations w
  unfold alloc
  revert h
  rcases w.attempt with ⟨_ | _ | _, w'⟩ <;> exact id

@[simp] theorem playerRef_invitations (p : Option Nat) :
    (w.playerRef p).invitations = w.invitations := by
  unfold playerRef; (repeat' split) <;> rfl

@[simp] theorem playerUnref_invitations (p : Option Nat) :
    (w.playerUnref p).invitations = w.invitations := by
  unfold playerUnref; (repeat' split) <;> rfl

@[simp] theorem clientUnref_invitations (c : Nat) :
    (w.clientUnref c).invitations = w.invitations := by
  unfold clientUnref; (repeat' split) <;> simp

@[simp] theorem cregRegister_invitations (fd : Nat) :
    (w.cregRegister fd).2.invitations = w.invitations := by
  have h := alloc_invitations w
  unfold cregRegister
  split
  · rfl
  · revert h
    rcases w.alloc with ⟨_ | _, w'⟩ <;> exact id

@[simp] theorem setGame_writes (i : Nat) (g : Option Game) : (w.setGame i g).writes = w.writes := by
  unfold setGame; split <;> rfl

@[simp] theorem setState_writes (i : Nat) (st : InvitationState) :
    (w.setState i st).writes = w.writes := by
  unfold setState; split <;> rfl

@[simp] theorem cregUnregister_invitations (c : Nat) :
    (w.cregUnregister c).2.invitations = w.invitations := by
  unfold cregUnregister; (repeat' (first | split | dsimp only)) <;> simp

end Frame

section Roles

variable {w : World}

theorem RolesSet.congr {w' : World} (h : w'.invitations = w.invitations) (hw : w.RolesSet) :
    w'.RolesSet := by
  unfold RolesSet; rw [h]; exact hw

theorem RolesSet.setInvitation (hw : w.RolesSet) (i : Nat) {x : Option Invitation}
    (hx : ∀ inv, x = some inv → inv.sourceRole ≠ .nullRole ∧ inv.targetRole ≠ .nullRole) :
    (w.setInvitation i x).RolesSet := by
  intro j inv hj
  by_cases e : j = i
  · subst e; exact hx inv (by simpa [World.setInvitation] using hj)
  · exact hw j inv (by simpa [World.setInvitation, Function.update_noteq e] using hj)

/-- Writing an invitation back with the roles it had keeps them set. -/
theorem RolesSet.setInvitation_roles (hw : w.RolesSet) {i : Nat} {inv inv' : Invitation}
    (hi : w.invitations i = some inv) (hs : inv'.sourceRole = inv.sourceRole)
    (ht : inv'.targetRole = inv.targetRole) : (w.setInvitation i (some inv')).RolesSet :=
  hw.setInvitation i fun _ h => by cases h; rw [hs, ht]; exact hw i inv hi

theorem RolesSet.setGame (hw : w.RolesSet) (i : Nat) (g : Option Game) :
    (w.setGame i g).RolesSet := by
  unfold World.setGame
  split
  · rename_i hi; exact hw.setInvitation_roles hi rfl rfl
  · exact hw

theorem RolesSet.setState (hw : w.RolesSet) (i : Nat) (st : InvitationState) :
    (w.setState i st).RolesSet := by
  unfold World.setState
  split
  · rename_i hi; exact hw.setInvitation_roles hi rfl rfl
  · exact hw

/-- A client's role in an invitation with its roles set is a player's role. -/
theorem RolesSet.roleOf_ne (hw : w.RolesSet) {c j : Nat} {i : Invitation}
    (hi : w.invitations j = some i) : w.roleOf c j ≠ .nullRole := by
  obtain ⟨hs, ht⟩ := hw j i hi
  unfold roleOf
  rw [hi]
  dsimp only
  split_ifs <;> assumption

theorem RolesSet.invRef (hw : w.RolesSet) (i : Nat) : (w.invRef i).RolesSet := by
  unfold World.invRef
  split
  · exact hw
  · rename_i hi; exact hw.setInvitation_roles hi rfl rfl

end Roles

end World

/-! ## Every program keeps the roles and writes under the client's lock -/

namespace Prog

open World

/-- A block that leaves the invitations and the writes alone. -/
theorem keeps_frame {held : List Mutex} {f : World → World} {k : World → Prog}
    (hf : ∀ w, (f w).invitations = w.invitations) (hw : ∀ w, (f w).writes = w.writes)
    (hk : ∀ w, Keeps RolesSet held (k w)) : Keeps RolesSet held (act f k) :=
  .act (fun w h => h.congr (hf w)) (fun w => .inl (hw w)) hk

/-- The allocation `make_packet` and the other checked `malloc`s make. -/
theorem keeps_attempt {held : List Mutex} {k : World → Prog}
    (hk : ∀ w, Keeps RolesSet held (k w)) : Keeps RolesSet held (act (·.attempt.2) k) :=
  keeps_frame (fun w => attempt_invitations w) (fun w => attempt_writes w) hk

section Objects

variable {held : List Mutex}

theorem keeps_playerRefP (p : Option Nat) {k : Prog} (hk : Keeps RolesSet held k) :
    Keeps RolesSet held (playerRefP p k) :=
  match p with
  | none => hk
  | some _ => .lock _ <| keeps_frame (fun w => playerRef_invitations w _)
      (fun w => playerRef_writes w _) fun _ => .release hk

theorem keeps_playerUnrefP (p : Option Nat) {k : Prog} (hk : Keeps RolesSet held k) :
    Keeps RolesSet held (playerUnrefP p k) :=
  match p with
  | none => hk
  | some _ => .lock _ <| keeps_frame (fun w => playerUnref_invitations w _)
      (fun w => playerUnref_writes w _) fun _ => .release hk

theorem keeps_clientRefP (c : Nat) {k : Prog} (hk : Keeps RolesSet held k) :
    Keeps RolesSet held (clientRefP c k) :=
  .lock _ <| keeps_frame (fun w => clientRef_invitations w c) (fun w => clientRef_writes w c)
    fun _ => .release hk

theorem keeps_clientUnrefP (c : Nat) {k : Prog} (hk : Keeps RolesSet held k) :
    Keeps RolesSet held (clientUnrefP c k) :=
  .lock _ <| keeps_frame (fun w => by split <;> (try split) <;> rfl)
    (fun w => by split <;> (try split) <;> rfl) fun w =>
    match w.clients c with
    | some _ => .ite (keeps_playerUnrefP _ (.release hk)) (.release hk)
    | none => .release hk

theorem keeps_invRefP (i : Nat) {k : Prog} (hk : Keeps RolesSet held k) :
    Keeps RolesSet held (invRefP i k) :=
  .lock _ <| .act (fun _ hw => hw.invRef i) (fun w => .inl (invRef_writes w i)) fun _ =>
    .release hk

theorem keeps_gameUnrefP (i : Nat) (g : Option Game) {k : Prog} (hk : Keeps RolesSet held k) :
    Keeps RolesSet held (gameUnrefP i g k) :=
  match g with
  | none => hk
  | some _ => .lock _ (.release hk)

theorem keeps_invUnrefP (i : Nat) {k : Prog} (hk : Keeps RolesSet held k) :
    Keeps RolesSet held (invUnrefP i k) := by
  refine .lock _ (.act (fun w hw => ?_) (fun w => .inl (by split <;> (try split) <;> rfl))
    fun w => ?_)
  · split
    · split
      · exact hw.setInvitation i fun _ h => nomatch h
      · rename_i hi _; exact hw.setInvitation_roles hi rfl rfl
    · exact hw
  · split
    · exact .ite (keeps_clientUnrefP _ <| keeps_clientUnrefP _ <| keeps_gameUnrefP _ _ <|
        .release hk) (.release hk)
    · exact .release hk

theorem keeps_playerRefsP (ps : List Nat) {k : Prog} (hk : Keeps RolesSet held k) :
    Keeps RolesSet held (playerRefsP ps k) := by
  induction ps with
  | nil => exact hk
  | cons p ps ih => exact keeps_playerRefP _ ih

theorem keeps_playerUnrefsP (ps : List Nat) {k : Prog} (hk : Keeps RolesSet held k) :
    Keeps RolesSet held (playerUnrefsP ps k) := by
  induction ps with
  | nil => exact hk
  | cons p ps ih => exact keeps_playerUnrefP _ ih

/-- `client_send_packet` writes to its client under the client's lock. -/
theorem keeps_clientSendPacketP (c : Nat) (p : Packet) {k : Outcome → Prog}
    (hk : ∀ o, Keeps RolesSet held (k o)) : Keeps RolesSet held (clientSendPacketP c p k) := by
  refine .lock _ <| .act (fun w hw => hw.congr (clientSendPacket_invitations w c p))
    (fun w => ?_) fun _ => .release (hk _)
  obtain ⟨x, hx, hc, -⟩ := clientSendPacket_writes w c p
  exact .inr ⟨x, hc ▸ List.mem_cons_self _ _, hx⟩

theorem keeps_clientSendAckP (c : Nat) (data : Option (List UInt8)) (n : Nat) {k : Prog}
    (hk : Keeps RolesSet held k) : Keeps RolesSet held (clientSendAckP c data n k) :=
  keeps_attempt fun _ => .ite (keeps_clientSendPacketP _ _ fun _ => hk) hk

theorem keeps_clientSendNackP (c : Nat) {k : Prog} (hk : Keeps RolesSet held k) :
    Keeps RolesSet held (clientSendNackP c k) :=
  keeps_attempt fun _ => .ite (keeps_clientSendPacketP _ _ fun _ => hk) hk

theorem keeps_clientAddInvitationP (c inv : Nat) {k : Int → Prog}
    (hk : ∀ r, Keeps RolesSet held (k r)) :
    Keeps RolesSet held (clientAddInvitationP c inv k) := by
  refine .lock _ (.read fun w => ?_)
  split
  · exact keeps_attempt fun _ =>
      .ite (keeps_frame (fun _ => rfl) (fun _ => rfl) fun _ => keeps_invRefP _ (.release (hk _)))
        (.release (hk _))
  · exact .release (hk _)

theorem keeps_clientRemoveInvitationP (c inv : Nat) {k : Int → Prog}
    (hk : ∀ r, Keeps RolesSet held (k r)) :
    Keeps RolesSet held (clientRemoveInvitationP c inv k) := by
  refine .lock _ (.read fun w => ?_)
  split
  · split
    · exact keeps_frame (fun _ => rfl) (fun _ => rfl) fun _ => .release (keeps_invUnrefP _ (hk _))
    · exact .release (hk _)
  · exact .release (hk _)

/-- `inv_create` keeps the roles set when it is given two player roles. -/
theorem keeps_invCreateP (source target : Nat) {sourceRole targetRole : GameRole}
    (hs : sourceRole ≠ .nullRole) (ht : targetRole ≠ .nullRole) {k : Option Nat → Prog}
    (hk : ∀ r, Keeps RolesSet held (k r)) :
    Keeps RolesSet held (invCreateP source target sourceRole targetRole k) := by
  refine .read fun w => ?_
  split
  · refine .act (fun w hw => ?_) (fun w => .inl (alloc_writes w)) fun _ =>
      keeps_clientRefP _ (keeps_clientRefP _ (hk _))
    exact (hw.congr (alloc_invitations w)).setInvitation _ fun _ h => by cases h; exact ⟨hs, ht⟩
  · exact keeps_frame (fun w => alloc_invitations w) (fun w => alloc_writes w) fun _ => hk _

theorem keeps_invAcceptP (i : Nat) {k : Int → Prog} (hk : ∀ r, Keeps RolesSet held (k r)) :
    Keeps RolesSet held (invAcceptP i k) := by
  refine .lock _ (.read fun w => ?_)
  split
  · exact .ite (.release (hk _)) <|
      .act (fun w hw => (hw.setState _ _).congr (attempt_invitations _))
        (fun w => .inl ((attempt_writes _).trans (setState_writes _ _ _))) fun _ =>
      .ite (.lock _ <| .release <| .act (fun w hw => hw.setGame _ _)
          (fun w => .inl (setGame_writes _ _ _)) fun _ => .release (hk _))
        (.release (hk _))
  · exact .release (hk _)

theorem keeps_gameResignP (i : Nat) (role : GameRole) {k : Prog} (hk : Keeps RolesSet held k) :
    Keeps RolesSet held (gameResignP i role k) := by
  refine .read fun w => ?_
  split
  · refine .ite hk (.lock _ (.act (fun w hw => ?_) (fun w => .inl ?_) fun _ => .release hk))
    · split
      · exact hw.setGame _ _
      · exact hw
    · split
      · exact setGame_writes _ _ _
      · rfl
  · exact hk

theorem keeps_invCloseP (i : Nat) (role : GameRole) {k : Int → Prog}
    (hk : ∀ r, Keeps RolesSet held (k r)) : Keeps RolesSet held (invCloseP i role k) := by
  have hclose : Keeps RolesSet (.invitation i :: held) (act (·.setState i .invClosedState)
      fun _ => unlock (.invitation i) (k 0)) :=
    .act (fun w hw => hw.setState _ _) (fun w => .inl (setState_writes _ _ _)) fun _ =>
      .release (hk _)
  refine .read fun w => ?_
  split
  · exact hk _
  · refine .ite (hk _) (.lock _ (.read fun w => ?_))
    split
    · refine .ite (.release (hk _)) ?_
      split
      · exact keeps_gameResignP _ _ hclose
      · exact hclose
    · exact .release (hk _)

theorem keeps_gameApplyMoveP (i : Nat) (m : GameMove) {k : Int → Prog}
    (hk : ∀ r, Keeps RolesSet held (k r)) : Keeps RolesSet held (gameApplyMoveP i m k) := by
  refine .lock _ (.read fun w => ?_)
  split
  · exact .act (fun w hw => hw.setGame _ _) (fun w => .inl (setGame_writes _ _ _)) fun _ =>
      .release (hk _)
  · exact .release (hk _)

theorem keeps_playerPostResultP (p1 p2 : Option Nat) (result : Int) {k : Prog}
    (hk : Keeps RolesSet held k) : Keeps RolesSet held (playerPostResultP p1 p2 result k) := by
  refine keeps_frame (fun _ => rfl) (fun _ => rfl) fun _ => .ite ?_ hk
  split
  · exact .lock _ (.release (.lock _ (.release hk)))
  · exact hk

end Objects

section Operations

variable {held : List Mutex}

theorem keeps_clientMakeInvitationP (source target : Nat) {sourceRole targetRole : GameRole}
    (hs : sourceRole ≠ .nullRole) (ht : targetRole ≠ .nullRole) {k : Int → Prog}
    (hk : ∀ r, Keeps RolesSet held (k r)) :
    Keeps RolesSet held (clientMakeInvitationP source target sourceRole targetRole k) := by
  refine keeps_invCreateP _ _ hs ht fun inv? => ?_
  split
  · exact hk _
  · exact keeps_clientAddInvitationP _ _ fun _ => .ite (keeps_invUnrefP _ (hk _)) <|
      keeps_clientAddInvitationP _ _ fun _ => .ite (keeps_invUnrefP _ (hk _)) <|
      .lock _ <| .read fun _ => keeps_clientSendPacketP _ _ fun _ =>
      .ite (keeps_invUnrefP _ (.release (hk _))) (.release (hk _))

theorem keeps_clientRevokeInvitationP (c id : Nat) {k : Int → Prog}
    (hk : ∀ r, Keeps RolesSet held (k r)) :
    Keeps RolesSet held (clientRevokeInvitationP c id k) := by
  refine .lock _ (.read fun w => ?_)
  split
  · exact .release (hk _)
  refine .ite (.release (hk _)) <| .ite (.release (hk _)) <| .release <|
    keeps_clientRemoveInvitationP _ _ fun _ => .ite (hk _) <| .read fun w => ?_
  split
  · exact hk _
  · exact keeps_clientRemoveInvitationP _ _ fun _ => .ite (hk _) <|
      keeps_clientSendPacketP _ _ fun _ => .ite (hk _) (hk _)

theorem keeps_clientDeclineInvitationP (c id : Nat) {k : Int → Prog}
    (hk : ∀ r, Keeps RolesSet held (k r)) :
    Keeps RolesSet held (clientDeclineInvitationP c id k) := by
  refine .lock _ (.read fun w => ?_)
  split
  · exact .release (hk _)
  refine .ite (.release (hk _)) <| .ite (.release (hk _)) <| .release <|
    keeps_clientRemoveInvitationP _ _ fun _ => .ite (hk _) <| .read fun w => ?_
  split
  · exact hk _
  · exact keeps_clientRemoveInvitationP _ _ fun _ => .ite (hk _) <|
      .lock _ <| keeps_clientSendPacketP _ _ fun _ => .release (.ite (hk _) (hk _))

theorem keeps_clientAcceptInvitationP (c id : Nat) {k : Int × Option (List UInt8) → Prog}
    (hk : ∀ r, Keeps RolesSet held (k r)) :
    Keeps RolesSet held (clientAcceptInvitationP c id k) := by
  refine .lock _ (.read fun w => ?_)
  split
  · exact .release (hk _)
  split
  · exact .release (hk _)
  refine .ite (.release (hk _)) <| .ite (.release (hk _)) <|
    keeps_invAcceptP _ fun _ => .ite (.release (hk _)) <| .read fun w => ?_
  split
  · exact .release (hk _)
  · exact .ite (keeps_clientSendPacketP _ _ fun _ => .release (hk _))
      (keeps_clientSendPacketP _ _ fun _ => .release (hk _))

theorem keeps_resignEndP (c id inv source target opponent opponentId : Nat) {k : Int → Prog}
    (hk : ∀ r, Keeps RolesSet held (k r)) :
    Keeps RolesSet held (resignEndP c id inv source target opponent opponentId k) :=
  .read fun _ => keeps_clientSendPacketP _ _ fun _ => .ite (hk _) <|
  keeps_clientSendPacketP _ _ fun _ => .ite (hk _) <|
  keeps_clientRemoveInvitationP _ _ fun _ => .ite (hk _) <|
  keeps_clientRemoveInvitationP _ _ fun _ => .ite (hk _) <|
  .lock _ <| .read fun _ => keeps_playerPostResultP _ _ _ (.release (hk _))

theorem keeps_clientResignGameP (c id : Nat) {k : Int → Prog}
    (hk : ∀ r, Keeps RolesSet held (k r)) : Keeps RolesSet held (clientResignGameP c id k) := by
  refine .lock _ (.read fun w => ?_)
  split
  · exact .release (hk _)
  split
  · exact .release (hk _)
  refine .ite (.release (hk _)) <| keeps_invCloseP _ _ fun _ => .ite (.release (hk _)) <|
    .read fun w => ?_
  -- the opponent, then its handle
  split <;> dsimp only <;> split
  all_goals first
    | exact .release (hk _)
    | exact .release <| keeps_clientSendPacketP _ _ fun _ =>
        .ite (keeps_resignEndP _ _ _ _ _ _ _ hk) (hk _)

/-- The end of a game's last move is entered holding the mover's lock, which it releases
before it writes to the mover. -/
theorem keeps_moveEndP (c id inv source target opponentId opponent : Nat) (winner : GameRole)
    {k : Int → Prog} (hk : ∀ r, Keeps RolesSet held (k r)) :
    Keeps RolesSet (.client c :: held)
      (moveEndP c id inv source target opponentId opponent winner k) :=
  keeps_clientSendPacketP _ _ fun _ => .ite (.release (hk _)) <|
  .release <| keeps_clientSendPacketP _ _ fun _ => .ite (hk _) <|
  keeps_clientRemoveInvitationP _ _ fun _ => .ite (hk _) <|
  keeps_clientRemoveInvitationP _ _ fun _ => .ite (hk _) <|
  .lock _ <| .read fun _ => keeps_playerPostResultP _ _ _ (.release (hk _))

theorem keeps_clientMakeMoveP (c id : Nat) (move : List UInt8) {k : Int → Prog}
    (hk : ∀ r, Keeps RolesSet held (k r)) :
    Keeps RolesSet held (clientMakeMoveP c id move k) := by
  refine .lock _ (.read fun w => ?_)
  split
  · exact .release (hk _)
  split
  · exact .release (hk _)
  split
  · exact .release (hk _)
  split
  · exact .release (hk _)
  refine keeps_attempt fun _ => .ite (.release (hk _)) <|
    keeps_gameApplyMoveP _ _ fun _ => .ite (.release (hk _)) <| .read fun w => ?_
  -- the opponent, then its handle
  split <;> dsimp only <;> split
  all_goals first
    | exact .release (hk _)
    | exact keeps_clientSendPacketP _ _ fun _ => .ite (.release (hk _)) <| .read fun _ =>
        .ite (keeps_moveEndP _ _ _ _ _ _ _ _ hk) (.release (hk _))

theorem keeps_cregAllPlayersLoop (cs acc : List Nat) {k : List Nat → Prog}
    (hk : ∀ ps, Keeps RolesSet held (k ps)) :
    Keeps RolesSet held (cregAllPlayersLoop cs acc k) := by
  induction cs generalizing acc with
  | nil => exact hk _
  | cons c cs ih =>
      refine .ite (.read fun w => ?_) (hk _)
      split
      · exact keeps_playerRefP _ (ih _)
      · exact ih _

theorem keeps_cregAllPlayersP {k : List Nat → Prog} (hk : ∀ ps, Keeps RolesSet held (k ps)) :
    Keeps RolesSet held (cregAllPlayersP k) :=
  .lock _ <| .read fun _ => keeps_cregAllPlayersLoop _ _ fun _ => .release (hk _)

theorem keeps_checkIfOtherClientsLoggedInP (name : List UInt8) {k : Bool → Prog}
    (hk : ∀ b, Keeps RolesSet held (k b)) :
    Keeps RolesSet held (checkIfOtherClientsLoggedInP name k) :=
  keeps_cregAllPlayersP fun _ => .read fun _ => keeps_playerUnrefsP _ (hk _)

theorem keeps_pregRegisterP (name : List UInt8) {k : Option Nat → Prog}
    (hk : ∀ p, Keeps RolesSet held (k p)) : Keeps RolesSet held (pregRegisterP name k) := by
  refine .lock _ (.read fun w => ?_)
  split
  · exact keeps_playerRefP _ (.release (hk _))
  · exact keeps_frame (fun _ => rfl) (fun _ => rfl) fun _ => keeps_attempt fun _ =>
      .ite (keeps_frame (fun _ => rfl) (fun _ => rfl) fun _ =>
          keeps_playerRefP _ (.release (hk _)))
        (keeps_playerUnrefP _ (.release (hk _)))

theorem keeps_clientLoginP (c : Nat) (player : Option Nat) {k : Int → Prog}
    (hk : ∀ r, Keeps RolesSet held (k r)) : Keeps RolesSet held (clientLoginP c player k) := by
  refine .lock _ (.read fun w => ?_)
  split
  · exact .release (hk _)
  · exact .ite (.release (hk _)) <| keeps_checkIfOtherClientsLoggedInP _ fun _ =>
      .ite (.release (hk _)) <| keeps_frame (fun _ => rfl) (fun _ => rfl) fun _ =>
      keeps_playerRefP _ (.release (hk _))

theorem keeps_loginRequestP (c : Nat) (name : List UInt8) {k : Bool → Prog}
    (hk : ∀ b, Keeps RolesSet held (k b)) : Keeps RolesSet held (loginRequestP c name k) :=
  keeps_checkIfOtherClientsLoggedInP _ fun _ => .ite (keeps_clientSendNackP _ (hk _)) <|
  keeps_pregRegisterP _ fun _ => keeps_clientLoginP _ _ fun _ =>
  .ite (keeps_clientSendAckP _ _ _ (hk _)) (keeps_clientSendNackP _ (hk _))

end Operations

section Service

variable {held : List Mutex}

theorem keeps_cregLookupP (user : Option (List UInt8)) {k : Option Nat → Prog}
    (hk : ∀ c, Keeps RolesSet held (k c)) : Keeps RolesSet held (cregLookupP user k) := by
  cases user with
  | none => exact hk _
  | some u =>
      refine .lock _ (.read fun w => ?_)
      split
      · exact keeps_clientRefP _ (.release (hk _))
      · exact .release (hk _)

theorem keeps_usersLinesP (ps : List Nat) {k : List UInt8 → Prog}
    (hk : ∀ payload, Keeps RolesSet held (k payload)) :
    Keeps RolesSet held (usersLinesP ps k) := by
  induction ps generalizing k with
  | nil => exact hk _
  | cons p ps ih => exact keeps_playerUnrefP _ (.read fun _ => ih fun _ => hk _)

/-- The handling of any packet keeps every invitation's roles set: the INVITE case creates an
invitation only with the roles `(SECOND, FIRST)` or `(FIRST, SECOND)`. -/
theorem keeps_jeuxClientServiceP (s : Session) (pkt : InPacket) {k : Session → Prog}
    (hk : ∀ s, Keeps RolesSet held (k s)) : Keeps RolesSet held (jeuxClientServiceP s pkt k) := by
  have nack := keeps_clientSendNackP s.client (hk s)
  have answer : ∀ r : Int, Keeps RolesSet held
      (if r = -1 then clientSendNackP s.client (k s) else clientSendAckP s.client none 0 (k s)) :=
    fun _ => .ite nack (keeps_clientSendAckP _ _ _ (hk s))
  unfold jeuxClientServiceP
  split
  · exact .ite (keeps_loginRequestP _ _ fun _ => hk _) nack
  · exact .ite nack <| keeps_cregAllPlayersP fun _ => keeps_usersLinesP _ fun _ =>
      keeps_attempt fun _ => .ite (keeps_clientSendAckP _ _ _ (hk _)) nack
  · refine .ite nack <| keeps_cregLookupP _ fun _ => ?_
    split
    · exact nack
    refine .ite (keeps_clientUnrefP _ nack) (.ite ?_ nack)
    split
    rename_i hroles
    refine keeps_clientMakeInvitationP _ _ ?_ ?_ fun _ =>
      .ite nack (keeps_clientUnrefP _ (keeps_clientSendPacketP _ _ fun _ => hk _))
    all_goals split at hroles <;> cases hroles <;> decide
  · exact .ite nack (keeps_clientRevokeInvitationP _ _ answer)
  · exact .ite nack (keeps_clientDeclineInvitationP _ _ answer)
  · exact .ite nack <| keeps_clientAcceptInvitationP _ _ fun _ =>
      .ite nack (keeps_clientSendPacketP _ _ fun _ => hk _)
  · exact .ite nack (keeps_clientMakeMoveP _ _ _ answer)
  · exact .ite nack (keeps_clientResignGameP _ _ answer)
  · exact hk _

theorem keeps_serveP (s : Session) (pkts : List InPacket) {k : Session → Prog}
    (hk : ∀ s, Keeps RolesSet held (k s)) : Keeps RolesSet held (serveP s pkts k) := by
  induction pkts generalizing s with
  | nil => exact hk _
  | cons pkt pkts ih => exact keeps_jeuxClientServiceP _ _ fun _ => ih _

end Service

end Prog

/-! ## The server keeps the roles -/

namespace World

open Prog

variable {w : World}

theorem RolesSet.jeuxClientService (hw : w.RolesSet) (s : Session) (pkt : InPacket) :
    (jeuxClientService w s pkt).1.RolesSet := by
  simpa [exec_jeuxClientServiceP] using
    (keeps_jeuxClientServiceP s pkt fun _ => .ret 0 : Keeps RolesSet [] _).exec hw

theorem RolesSet.logoutStep (hw : w.RolesSet) (c : Nat) (node : InvitationNode) :
    (logoutStep c w node).RolesSet := by
  unfold World.logoutStep
  split_ifs
  · simpa using
      (keeps_clientResignGameP c node.id fun r => .ret r : Keeps RolesSet [] _).exec hw
  · simpa using
      (keeps_clientRevokeInvitationP c node.id fun r => .ret r : Keeps RolesSet [] _).exec hw
  · simpa using
      (keeps_clientDeclineInvitationP c node.id fun r => .ret r : Keeps RolesSet [] _).exec hw

theorem RolesSet.clientLogout (hw : w.RolesSet) (c : Nat) : (w.clientLogout c).2.RolesSet := by
  have walk : ∀ (nodes : List InvitationNode) (w : World), w.RolesSet →
      (nodes.foldl (World.logoutStep c) w).RolesSet := by
    intro nodes
    induction nodes with
    | nil => exact fun _ h => h
    | cons n ns ih => exact fun w h => ih _ (h.logoutStep c n)
  unfold World.clientLogout
  split
  · exact hw
  · split
    · exact hw
    · exact walk _ _ (hw.congr (playerUnref_invitations w _))

end World

namespace Server

/-- The step lemma of the roles invariant: every request keeps it. -/
theorem rolesSet_step {S : Server} (hS : S.world.RolesSet) (e : Event) :
    (S.step e).world.RolesSet := by
  cases e with
  | connect fd =>
      have h := hS.congr (World.cregRegister_invitations S.world fd)
      simp only [step]
      revert h
      rcases S.world.cregRegister fd with ⟨_ | c, w⟩ <;> exact id
  | packet k pkt =>
      simp only [step]
      split
      · exact hS.jeuxClientService _ _
      · exact hS
  | hangup k =>
      simp only [step]
      split
      · exact (hS.clientLogout _).congr (World.cregUnregister_invitations _ _)
      · exact hS

/-- In every state the server reaches, every invitation names two player roles. -/
theorem rolesSet_reachable {S : Server} (hS : S.Reachable) : S.world.RolesSet := by
  obtain ⟨os, es, rfl⟩ := hS
  suffices ∀ S : Server, S.world.RolesSet → (S.run es).world.RolesSet from
    this _ fun _ _ h => nomatch h
  induction es with
  | nil => exact fun _ h => h
  | cons e es ih => exact fun S h => ih _ (rolesSet_step h e)

end Server

/-- The service threads start from a state the server reaches holding no mutex, and keep the
roles and the writes discipline from there. -/
theorem Server.serviceThreads_keeps {S : Server} (hS : S.Reachable) (pkts : Nat → List InPacket) :
    (Sys.start S.world (Prog.serviceThreads S pkts)).Keeps World.RolesSet := by
  refine Sys.start_keeps (Server.rolesSet_reachable hS) fun p hp => ?_
  obtain ⟨t, ht, rfl⟩ := List.mem_mapIdx.1 hp
  exact Prog.keeps_serveP _ _ fun _ => .ret 0

/-- From any state the server reaches, every interleaving of its service threads at lock
granularity, on any packets, keeps every invitation's two roles those of players. -/
theorem rolesSet_interleaving {S : Server} (hS : S.Reachable) (pkts : Nat → List InPacket)
    {ts : List Nat} {T : Sys} (h : (Sys.start S.world (Prog.serviceThreads S pkts)).run ts = some T) :
    T.world.RolesSet :=
  ((Server.serviceThreads_keeps hS pkts).run h).1

/-- Alice's connection logs in and invites bob to play second; bob's logs in. -/
def inviteAfterLogins : Nat → List InPacket := fun t =>
  if t = 0 then [.request .loginPkt 0 0 "alice", .request .invitePkt 0 2 "bob"]
  else [.request .loginPkt 0 0 "bob"]

/-- Bob's thread runs its LOGIN in the middle of alice's; alice's thread then goes on into its
INVITE, which has made invitation 4 when the schedule stops. -/
theorem rolesSet_interleaving_invite :
    ∃ T ∈ (Sys.start Prog.twoConnections.world
        (Prog.serviceThreads Prog.twoConnections inviteAfterLogins)).run
        (Sys.serial [(0, 10), (1, 24), (0, 40)]),
      (T.world.invitations 4).isSome ∧ T.world.RolesSet := by
  obtain ⟨T, hT, h4⟩ : ∃ T ∈ (Sys.start Prog.twoConnections.world
      (Prog.serviceThreads Prog.twoConnections inviteAfterLogins)).run
      (Sys.serial [(0, 10), (1, 24), (0, 40)]), (T.world.invitations 4).isSome := by
    decide
  exact ⟨T, hT, h4, rolesSet_interleaving ⟨[], _, rfl⟩ inviteAfterLogins hT⟩

/-! ## Writes under the client's lock -/

/-- From any state the server reaches, in every interleaving of its service threads at lock
granularity, on any packets, every step of a thread only appends to the log of writes, and each
frame it appends goes to a client whose mutex that thread holds: the one write of the server,
in `client_send_packet`, is made between `pthread_mutex_lock` and `pthread_mutex_unlock` of the
client's mutex. -/
theorem writes_under_lock {S : Server} (hS : S.Reachable) (pkts : Nat → List InPacket)
    {ts : List Nat} {T T' : Sys} {t : Nat}
    (h : (Sys.start S.world (Prog.serviceThreads S pkts)).run ts = some T)
    (h' : T.step t = some T') :
    ∃ xs, T'.world.writes = T.world.writes ++ xs ∧
      ∀ x ∈ xs, T.holder (.client x.client) = some t :=
  (((Server.serviceThreads_keeps hS pkts).run h).step h').2

/-- Alice's thread, 22 steps into its LOGIN, writes the ACK to its client, whose mutex it
holds. -/
theorem writes_under_lock_ack :
    ∃ T ∈ (Sys.start Prog.twoConnections.world
        (Prog.serviceThreads Prog.twoConnections inviteAfterLogins)).run (List.replicate 22 0),
      ∃ T' ∈ T.step 0, T'.world.writes ≠ T.world.writes ∧
        ∃ xs, T'.world.writes = T.world.writes ++ xs ∧
          ∀ x ∈ xs, T.holder (.client x.client) = some 0 := by
  obtain ⟨T, hT, T', hT', hne⟩ : ∃ T ∈ (Sys.start Prog.twoConnections.world
      (Prog.serviceThreads Prog.twoConnections inviteAfterLogins)).run (List.replicate 22 0),
      ∃ T' ∈ T.step 0, T'.world.writes ≠ T.world.writes := by
    decide
  exact ⟨T, hT, T', hT', hne, writes_under_lock ⟨[], _, rfl⟩ inviteAfterLogins hT hT'⟩

/-! ## Moves -/

namespace World

/-- The game of invitation `i` in `w'` is the one it has in `w`, or the invitation is gone. -/
def GameKept (i : Nat) (w w' : World) : Prop :=
  w'.invGetGame i = w.invGetGame i ∨ w'.invGetGame i = none

namespace GameKept

variable {i : Nat} {w w' w'' : World}

theorem refl (i : Nat) (w : World) : GameKept i w w := .inl rfl

theorem trans (h1 : GameKept i w w') (h2 : GameKept i w' w'') : GameKept i w w'' := by
  rcases h2 with h2 | h2
  · rcases h1 with h1 | h1
    · exact .inl (h2.trans h1)
    · exact .inr (h2.trans h1)
  · exact .inr h2

theorem of_invitations (h : w'.invitations = w.invitations) : GameKept i w w' :=
  .inl (by simp [invGetGame, h])

theorem eq_of_invitations (h : w'.invitations = w.invitations) :
    w'.invGetGame i = w.invGetGame i := by
  simp [invGetGame, h]

theorem eq_some (h : GameKept i w w') {g : Game} (hw : w.invGetGame i = some g) :
    w'.invGetGame i = some g ∨ w'.invGetGame i = none := by
  rw [← hw]; exact h

theorem of_pair {α : Type} {x : α × World} {a : α} (hx : GameKept i w x.2) (h : x = (a, w')) :
    GameKept i w w' := by
  subst h; exact hx

end GameKept

theorem gameKept_invUnref (w : World) (j i : Nat) : GameKept i w (w.invUnref j) := by
  unfold invUnref
  split
  · exact .refl i w
  · rename_i inv hj
    by_cases e : i = j
    · subst e
      split
      · exact .inr (by simp [invGetGame, setInvitation])
      · exact .inl (by simp [invGetGame, setInvitation, hj])
    · exact .inl (by split <;> simp [invGetGame, setInvitation, Function.update_noteq e])

theorem gameKept_clientRemoveInvitation (w : World) (c j i : Nat) :
    GameKept i w (w.clientRemoveInvitation c j).2 := by
  unfold clientRemoveInvitation
  split
  · exact .refl i w
  · split
    · exact .refl i w
    · exact (GameKept.of_invitations rfl).trans (gameKept_invUnref _ j i)

theorem gameKept_clientSendPacket (w : World) (c : Nat) (p : Packet) (i : Nat) :
    GameKept i w (w.clientSendPacket c p).2 :=
  .of_invitations (clientSendPacket_invitations w c p)

/-- The end of a game's last move keeps its game or frees its invitation. -/
theorem gameKept_moveEnd (w : World) (c id inv s t oid o : Nat) (r : GameRole) (i : Nat) :
    GameKept i w (w.moveEnd c id inv s t oid o r).2 := by
  unfold moveEnd
  have h1 := gameKept_clientSendPacket w o (bare .endedPkt oid r.toNat) i
  revert h1
  rcases w.clientSendPacket o _ with ⟨_ | _ | _, w1⟩ <;> intro h1 <;> dsimp only <;> try exact h1
  have h2 := h1.trans (gameKept_clientSendPacket w1 c (bare .endedPkt id r.toNat) i)
  revert h2
  rcases w1.clientSendPacket c _ with ⟨_ | _ | _, w2⟩ <;> intro h2 <;> dsimp only <;> try exact h2
  have h3 := gameKept_clientRemoveInvitation w2 s inv i
  split
  · exact h2.trans (.of_pair h3 ‹_›)
  · rename_i w3 _ hw3
    have h4 := gameKept_clientRemoveInvitation w3 t inv i
    split
    · exact (h2.trans (.of_pair h3 hw3)).trans (.of_pair h4 ‹_›)
    · rename_i hw4
      exact ((h2.trans (.of_pair h3 hw3)).trans (.of_pair h4 hw4)).trans (.of_invitations rfl)

/-- What `client_make_move` leaves as the game of the handle's invitation: the game it had, or
the result of the move parsed for the mover's role, which stays in place unless the invitation
is freed as the game ends. -/
theorem clientMakeMove_game (w : World) (c id : Nat) (move : List UInt8) {node : InvitationNode}
    {i : Invitation} {g : Game} (hn : (w.clientInvitations c).findById id = some node)
    (hi : w.invitations node.invitation = some i) (hg : i.game = some g) :
    (w.clientMakeMove c id move).2.invGetGame node.invitation = some g ∨
      ∃ m g', gameParseMove g (w.roleOf c node.invitation) move true = some m ∧
        gameApplyMove g m = some g' ∧
        ((w.clientMakeMove c id move).2.invGetGame node.invitation = some g' ∨
          (w.clientMakeMove c id move).2.invGetGame node.invitation = none) := by
  have hw : w.invGetGame node.invitation = some g := by simp [invGetGame, hi, hg]
  unfold clientMakeMove
  simp only [hn, hi, hg]
  cases hp : gameParseMove g (w.roleOf c node.invitation) move true with
  | none => exact .inl hw
  | some m =>
      have ha := attempt_invitations w
      revert ha
      rcases w.attempt with ⟨_ | _ | _, w1⟩ <;> intro ha <;> dsimp only at ha ⊢
      · cases hap : gameApplyMove g m with
        | none => exact .inl ((GameKept.eq_of_invitations ha).trans hw)
        | some g' =>
            refine .inr ⟨m, g', rfl, hap, ?_⟩
            dsimp only
            generalize hw2 : w1.setInvitation node.invitation (some { i with game := some g' }) = w2
            have h2 : w2.invGetGame node.invitation = some g' := by
              simp [← hw2, invGetGame, setInvitation]
            refine GameKept.eq_some ?_ h2
            split
            · exact .refl _ _
            · split
              · rename_i hs
                have h3 := GameKept.of_pair (gameKept_clientSendPacket w2 _ _ node.invitation) hs
                split
                · exact h3.trans (gameKept_moveEnd _ _ _ _ _ _ _ _ _ _)
                · exact h3
              · exact .of_pair (gameKept_clientSendPacket w2 _ _ node.invitation) ‹_›
      all_goals exact .inl ((GameKept.eq_of_invitations ha).trans hw)

end World

/-- In every state the server reaches, for every client, handle ID and move text, when the
handle's invitation has a game, `client_make_move` either leaves that game as it was or applies
the move `game_parse_move` returns for the client's role in the invitation (its source role if
it is the source, its target role otherwise). That role is then the one whose turn it was, and
the move fills one cell that was empty with that role's mark and changes no other cell; the new
game stays in the invitation unless the invitation is freed as the game ends. -/
theorem clientMakeMove_marks_turn {S : Server} (hS : S.Reachable) (c id : Nat)
    (move : List UInt8) {node : InvitationNode} {i : Invitation} {g : Game}
    (hn : (S.world.clientInvitations c).findById id = some node)
    (hi : S.world.invitations node.invitation = some i) (hg : i.game = some g) :
    (S.world.clientMakeMove c id move).2.invGetGame node.invitation = some g ∨
      ∃ m g', gameParseMove g (S.world.roleOf c node.invitation) move true = some m ∧
        gameApplyMove g m = some g' ∧
        S.world.roleOf c node.invitation = g.turnRole ∧
        (∃ sq, g.board sq = 0 ∧
          g'.board = Function.update g.board sq (S.world.roleOf c node.invitation).toNat) ∧
        ((S.world.clientMakeMove c id move).2.invGetGame node.invitation = some g' ∨
          (S.world.clientMakeMove c id move).2.invGetGame node.invitation = none) := by
  rcases World.clientMakeMove_game S.world c id move hn hi hg with h | ⟨m, g', hp, ha, hpost⟩
  · exact .inl h
  · obtain ⟨hturn, hcell⟩ := parsed_move_marks ((Server.rolesSet_reachable hS).roleOf_ne hi) hp ha
    exact .inr ⟨m, g', hp, ha, hturn, hcell, hpost⟩

/-- After `openingEvents`, bob accepts: alice, who plays first, holds invitation 4, with its
new game, under ID 0. -/
def gameStarted : Server :=
  (Server.init []).run (Server.openingEvents ++ [.packet 1 (.request .acceptPkt 0 0 "")])

theorem clientMakeMove_marks_turn_centre :
    ∃ i g, gameStarted.world.invitations 4 = some i ∧ i.game = some g ∧
      (gameStarted.world.clientInvitations 0).findById 0 = some ⟨4, 0⟩ ∧
      ((gameStarted.world.clientMakeMove 0 0 (ascii "5")).2.invGetGame 4 = some g ∨
        ∃ m g', gameParseMove g (gameStarted.world.roleOf 0 4) (ascii "5") true = some m ∧
          gameApplyMove g m = some g' ∧
          gameStarted.world.roleOf 0 4 = g.turnRole ∧
          (∃ sq, g.board sq = 0 ∧
            g'.board = Function.update g.board sq (gameStarted.world.roleOf 0 4).toNat) ∧
          ((gameStarted.world.clientMakeMove 0 0 (ascii "5")).2.invGetGame 4 = some g' ∨
            (gameStarted.world.clientMakeMove 0 0 (ascii "5")).2.invGetGame 4 = none)) := by
  have h1 : (gameStarted.world.invitations 4).map (·.game.isSome) = some true := by decide
  have hn : (gameStarted.world.clientInvitations 0).findById 0 = some ⟨4, 0⟩ := by decide
  cases h : gameStarted.world.invitations 4 with
  | none => simp [h] at h1
  | some i =>
      cases hg : i.game with
      | none => simp [h, hg] at h1
      | some g =>
          exact ⟨i, g, rfl, hg, hn,
            @clientMakeMove_marks_turn _ ⟨[], _, rfl⟩ 0 0 (ascii "5") ⟨4, 0⟩ i g hn h hg⟩

end JeuxServer
