import JeuxServer.Concurrency.Operations
import JeuxServer.Server.PlayerNodes

/-!
# The player registry under any interleaving of `preg_register`

`preg_register(name)` holds the registry's lock from its search of the list to the insertion
of a new node. The block it runs just after the lock is therefore where the call does what
`World.pregRegister` does to the registry: nothing when a node has the name, and otherwise one
new node at the head, or nothing when that node's `malloc` fails (`World.pregRegister_cases`).
Everything the thread runs after that block, `player_ref` and the unlocks, leaves the registry
alone (`Prog.KeepsRegistry`, `Prog.registerThread_block`).

Over any interleaving of threads that each call `preg_register` once, with any names, the
registry's names stay distinct and no node is removed. A call that returns a player returns one
registered under its name. A call whose name is registered when it starts returns the player
of that node, and so all calls with one name that return a player return the same one
(`preg_register_interleaving`). The proof is one invariant of the threads' stages
(`RegisterInv`), kept by every step (`RegisterInv.step`) and so by every run.

A name is the bytes of its C string before the NUL, so `strcmp` compares the lists. The copy
of the name in the node (`copy_payload_v2`, whose `malloc` is not checked) is taken to succeed;
a `NULL` copy would be dereferenced by the next search's `strcmp`.
-/

set_option autoImplicit false

namespace JeuxServer

/-! ## Programs that leave the registry alone -/

namespace Prog

/-- Every block of the program leaves the player registry as it is, and the program returns a
result with `R`. -/
inductive KeepsRegistry (R : Int → Prop) : Prog → Prop
  | ret {r : Int} : R r → KeepsRegistry R (.ret r)
  | lock (m : Mutex) {k : Prog} : KeepsRegistry R k → KeepsRegistry R (.lock m k)
  | unlock (m : Mutex) {k : Prog} : KeepsRegistry R k → KeepsRegistry R (.unlock m k)
  | act {f : World → World} {k : World → Prog} :
      (∀ w, (f w).playerRegistry = w.playerRegistry) → (∀ w, KeepsRegistry R (k w)) →
      KeepsRegistry R (.act f k)

section KeepsRegistry

variable {R : Int → Prop} {k : Prog}

theorem KeepsRegistry.mono {R' : Int → Prop} {p : Prog} (h : KeepsRegistry R p)
    (hR : ∀ r, R r → R' r) : KeepsRegistry R' p := by
  induction h with
  | ret hr => exact .ret (hR _ hr)
  | lock m _ ih => exact .lock m ih
  | unlock m _ ih => exact .unlock m ih
  | act hf _ ih => exact .act hf ih

/-- A run of blocks leaves the registry, and what is left still keeps it. -/
theorem KeepsRegistry.settle {p : Prog} (h : KeepsRegistry R p) (w : World) :
    (p.settle w).1.playerRegistry = w.playerRegistry ∧ KeepsRegistry R (p.settle w).2 := by
  induction h generalizing w with
  | ret hr => exact ⟨rfl, .ret hr⟩
  | lock m hk _ => exact ⟨rfl, .lock m hk⟩
  | unlock m hk _ => exact ⟨rfl, .unlock m hk⟩
  | act hf _ ih => exact ⟨(ih w _).1.trans (hf w), (ih w _).2⟩

theorem keepsRegistry_playerRefP (p : Option Nat) (hk : KeepsRegistry R k) :
    KeepsRegistry R (playerRefP p k) := by
  cases p with
  | none => exact hk
  | some p => exact .lock _ (.act (by simp) fun _ => .unlock _ hk)

theorem keepsRegistry_playerUnrefP (p : Option Nat) (hk : KeepsRegistry R k) :
    KeepsRegistry R (playerUnrefP p k) := by
  cases p with
  | none => exact hk
  | some p => exact .lock _ (.act (by simp) fun _ => .unlock _ hk)

end KeepsRegistry

/-- The result a thread gives for the PLAYER its call returned: the address, `-1` for `NULL`. -/
def playerResult : Option Nat → Int
  | none => -1
  | some p => p

/-- A thread whose one call is `preg_register(name)`, returning the PLAYER it gets. -/
def registerThread (name : List UInt8) : Prog :=
  pregRegisterP name fun r => .ret (playerResult r)

/-- The block after the registry's lock is a run of blocks. -/
theorem registerThread_body {name : List UInt8} {p : Prog}
    (hp : lock .playerRegistry p = registerThread name) : ∃ f k, p = act f k :=
  ⟨_, _, (lock.inj hp).2⟩

theorem settle_act (w : World) (f : World → World) (k : World → Prog) :
    (act f k).settle w = (k w).settle (f w) := rfl

@[simp] theorem settle_playerRefP (w : World) (p : Nat) (k : Prog) :
    (playerRefP (some p) k).settle w = (w, playerRefP (some p) k) := rfl

@[simp] theorem settle_playerUnrefP (w : World) (p : Nat) (k : Prog) :
    (playerUnrefP (some p) k).settle w = (w, playerUnrefP (some p) k) := rfl

/-- The linearization point of `preg_register`: the block after the registry's lock, run on
any world, changes the registry as `World.pregRegister` does, and what the thread has left
keeps the registry and returns what `World.pregRegister` returns. -/
theorem registerThread_block {name : List UInt8} {p : Prog}
    (hp : lock .playerRegistry p = registerThread name) (w : World) :
    (p.settle w).1.playerRegistry = (w.pregRegister name).2.playerRegistry ∧
      (p.settle w).2.KeepsRegistry (· = playerResult (w.pregRegister name).1) := by
  obtain rfl := (lock.inj hp).2
  simp only [read, settle_act, World.pregRegister]
  cases w.playerRegistry.find? (·.1 == name) with
  | some e =>
      obtain ⟨n, q⟩ := e
      simp only [settle_playerRefP]
      exact ⟨by simp, keepsRegistry_playerRefP _ (.unlock _ (.ret rfl))⟩
  | none =>
      dsimp only
      split <;> rename_i heq
      · simp only [heq, settle_act, settle_playerRefP, if_true]
        exact ⟨by simp, keepsRegistry_playerRefP _ (.unlock _ (.ret rfl))⟩
      · simp only [heq, settle_act, settle_playerUnrefP, if_neg ‹¬_›]
        exact ⟨by simp, keepsRegistry_playerUnrefP _ (.unlock _ (.ret rfl))⟩

end Prog

/-! ## The threads' invariant -/

open Prog

/-- A result of `preg_register(name)` that the registry `reg` accounts for: `NULL`, or a player
registered under `name`. -/
def Registered (reg : List (List UInt8 × Nat)) (name : List UInt8) (r : Int) : Prop :=
  r = -1 ∨ ∃ p : Nat, r = p ∧ (name, p) ∈ reg

theorem Registered.mono {reg reg' : List (List UInt8 × Nat)} {name : List UInt8} {r : Int}
    (h : Registered reg name r) (hs : reg <:+ reg') : Registered reg' name r :=
  h.imp_right fun ⟨p, hr, hp⟩ => ⟨p, hr, hs.subset hp⟩

/-- Where a thread of `preg_register(name)` is: before the registry's lock, just after it, or
past the block that searches and inserts, with a rest that keeps the registry and returns a
result with `R`. -/
def RegisterStage (name : List UInt8) (R : Int → Prop) (p : Prog) : Prop :=
  p = registerThread name ∨ lock .playerRegistry p = registerThread name ∨ p.KeepsRegistry R

namespace RegisterStage

variable {name : List UInt8} {R : Int → Prop} {p : Prog}

theorem mono {R' : Int → Prop} (h : RegisterStage name R p) (hR : ∀ r, R r → R' r) :
    RegisterStage name R' p :=
  h.imp_right (Or.imp_right (KeepsRegistry.mono · hR))

/-- A finished thread's result has `R`. -/
theorem ret {r : Int} (h : RegisterStage name R (.ret r)) : R r := by
  rcases h with h | h | h
  · cases h
  · obtain ⟨_, _, h⟩ := registerThread_body h
    cases h
  · cases h
    assumption

/-- A lock or an unlock moves a thread to a stage with the same result. -/
theorem next {p' : Prog} (h : RegisterStage name R p)
    (hp : ∃ m, p = .lock m p' ∨ p = .unlock m p') : RegisterStage name R p' := by
  obtain ⟨m, hp⟩ := hp
  rcases h with rfl | h | h
  · rcases hp with h | h
    · obtain ⟨rfl, rfl⟩ := lock.inj h
      exact .inr (.inl rfl)
    · cases h
  · obtain ⟨_, _, rfl⟩ := registerThread_body h
    rcases hp with h | h <;> cases h
  · rcases hp with rfl | rfl <;> cases h <;> exact .inr (.inr ‹_›)

end RegisterStage

/-- The invariant of threads that each call `preg_register` once, thread `t` with the name
`names[t]`: the registry's names are distinct, and every thread is at a stage of its call whose
result the registry accounts for. A thread `t` with `pins t = some p` returns `p`, registered
under its name. -/
structure RegisterInv (names : List (List UInt8)) (pins : Nat → Option Nat) (S : Sys) :
    Prop where
  nodup : (S.world.playerRegistry.map Prod.fst).Nodup
  pinned : ∀ t n p, names[t]? = some n → pins t = some p → (n, p) ∈ S.world.playerRegistry
  threads : ∀ t p, S.threads[t]? = some p → ∃ n, names[t]? = some n ∧
    RegisterStage n (fun r => Registered S.world.playerRegistry n r ∧ ∀ q, pins t = some q → r = q)
      p

namespace RegisterInv

variable {names : List (List UInt8)} {pins : Nat → Option Nat}

/-- The calls starting together on a world whose registry's names are distinct. -/
theorem start (w : World) (hw : (w.playerRegistry.map Prod.fst).Nodup) :
    RegisterInv names (fun _ => none) (Sys.start w (names.map registerThread)) := by
  refine ⟨hw, fun _ _ _ _ h => Option.noConfusion h, fun t p hp => ?_⟩
  change (names.map registerThread)[t]? = some p at hp
  rw [List.getElem?_map, Option.map_eq_some'] at hp
  obtain ⟨n, hn, rfl⟩ := hp
  exact ⟨n, hn, .inl rfl⟩

/-- A thread that has not started its call can be pinned to the player registered under its
name. -/
theorem pin {S : Sys} (hS : RegisterInv names (fun _ => none) S) {t : Nat} {n : List UInt8}
    {p : Nat} (hn : names[t]? = some n) (ht : S.threads[t]? = some (registerThread n))
    (hp : (n, p) ∈ S.world.playerRegistry) :
    RegisterInv names (Function.update (fun _ => none) t (some p)) S := by
  refine ⟨hS.nodup, fun t' n' q hn' hq => ?_, fun t' q hq => ?_⟩
  · by_cases e : t' = t
    · subst e
      rw [hn, Option.some.injEq] at hn'
      rw [Function.update_same, Option.some.injEq] at hq
      exact hn' ▸ hq ▸ hp
    · simp [Function.update_noteq e] at hq
  · by_cases e : t' = t
    · subst e
      rw [ht, Option.some.injEq] at hq
      exact ⟨n, hn, .inl hq.symm⟩
    · obtain ⟨n', hn', hst⟩ := hS.threads t' q hq
      exact ⟨n', hn', hst.mono fun r hr => ⟨hr.1, by simp [Function.update_noteq e]⟩⟩

/-- The step lemma: every step keeps the invariant and changes the registry only as
`RegistryStep` allows. -/
theorem step {S S' : Sys} {u : Nat} (hS : RegisterInv names pins S) (h : S.step u = some S') :
    RegisterInv names pins S' ∧ RegistryStep S.world.playerRegistry S'.world.playerRegistry := by
  obtain ⟨p, p', hp, hthreads, hcase⟩ := Sys.step_world h
  obtain ⟨n, hn, hst⟩ := hS.threads u p hp
  -- what thread `u` does: the registry's step, and the stage it moves to
  obtain ⟨hreg, hst'⟩ : RegistryStep S.world.playerRegistry S'.world.playerRegistry ∧
      RegisterStage n (fun r => Registered S'.world.playerRegistry n r ∧
        ∀ q, pins u = some q → r = q) p' := by
    rcases hcase with ⟨hlk, hw⟩ | ⟨hact, hset⟩
    · rw [hw]
      exact ⟨.inl rfl, hst.next hlk⟩
    · rcases hst with rfl | hbody | hk
      · obtain ⟨_, _, h⟩ := hact
        cases h
      · obtain ⟨hr, hk⟩ := registerThread_block hbody S.world
        rw [hset] at hr hk
        refine ⟨hr ▸ S.world.pregRegister_registryStep n, .inr (.inr (hk.mono ?_))⟩
        rintro r rfl
        have hpin : ∀ q, pins u = some q → (n, q) ∈ S.world.playerRegistry :=
          fun q hq => hS.pinned u n q hn hq
        rcases S.world.pregRegister_cases n with ⟨q, hq, h1, h2⟩ | ⟨hnot, ⟨h1, h2⟩ | ⟨h1, h2⟩⟩ <;>
          rw [h1] <;> rw [h2] at hr
        · exact ⟨.inr ⟨q, rfl, hr ▸ hq⟩, fun q' hq' =>
            congrArg _ (player_eq_of_mem hS.nodup hq (hpin q' hq'))⟩
        · exact ⟨.inr ⟨_, rfl, hr ▸ List.mem_cons_self _ _⟩, fun q hq =>
            absurd (List.mem_map_of_mem Prod.fst (hpin q hq)) hnot⟩
        · exact ⟨.inl rfl, fun q hq => absurd (List.mem_map_of_mem Prod.fst (hpin q hq)) hnot⟩
      · obtain ⟨hr, hk⟩ := hk.settle S.world
        rw [hset] at hr hk
        exact ⟨.inl hr, .inr (.inr (hk.mono fun r h => ⟨hr ▸ h.1, h.2⟩))⟩
  refine ⟨⟨hreg.nodup hS.nodup, fun t n p hn hp => hreg.suffix.subset (hS.pinned t n p hn hp),
    fun t q hq => ?_⟩, hreg⟩
  by_cases e : t = u
  · subst e
    rw [hthreads, List.getElem?_set_self (List.getElem?_eq_some_iff.1 hp).1,
      Option.some.injEq] at hq
    exact ⟨n, hn, hq ▸ hst'⟩
  · rw [Sys.step_other h (Ne.symm e)] at hq
    obtain ⟨n', hn', hst⟩ := hS.threads t q hq
    exact ⟨n', hn', hst.mono fun r hr => ⟨hr.1.mono hreg.suffix, hr.2⟩⟩

/-- The run lemma: every run keeps the invariant, and the registry it ends with extends the
one it started with. -/
theorem run {S S' : Sys} {us : List Nat} (hS : RegisterInv names pins S)
    (h : S.run us = some S') :
    RegisterInv names pins S' ∧ S.world.playerRegistry <:+ S'.world.playerRegistry := by
  induction us generalizing S with
  | nil =>
      obtain rfl : S = S' := Option.some.inj h
      exact ⟨hS, List.suffix_refl _⟩
  | cons u us ih =>
      obtain ⟨S1, h1, h⟩ := Sys.run_cons.1 h
      obtain ⟨hS1, hr1⟩ := hS.step h1
      obtain ⟨hS', hr⟩ := ih hS1 h
      exact ⟨hS', hr1.suffix.trans hr⟩

/-- A finished thread's result is accounted for by the registry, and is its pin. -/
theorem result {S : Sys} (hS : RegisterInv names pins S) {t : Nat} {n : List UInt8} {r : Int}
    (hn : names[t]? = some n) (hr : S.result t = some r) :
    Registered S.world.playerRegistry n r ∧ ∀ q, pins t = some q → r = q := by
  obtain ⟨n', hn', hst⟩ := hS.threads t _ (Sys.result_eq_some.1 hr)
  rw [hn, Option.some.injEq] at hn'
  exact hn' ▸ hst.ret

end RegisterInv

/-- Any interleaving of threads that each call `preg_register` once, thread `t` with the name
`names[t]`, from a world whose registry's names are distinct: at every later state `S2` the
registry's names are distinct, and every node of an earlier state `S1` is still there. A call
that returns a player returns one registered under its name. A call that has not started at
`S1`, whose name is registered at `S1`, returns the player of that node. Two calls with one
name that return players return the same player. -/
theorem preg_register_interleaving (w : World) (names : List (List UInt8))
    (hw : (w.playerRegistry.map Prod.fst).Nodup) {ts us : List Nat} {S1 S2 : Sys}
    (h1 : (Sys.start w (names.map registerThread)).run ts = some S1) (h2 : S1.run us = some S2) :
    (S2.world.playerRegistry.map Prod.fst).Nodup ∧
    S1.world.playerRegistry <:+ S2.world.playerRegistry ∧
    (∀ t n r, names[t]? = some n → S2.result t = some r →
      r = -1 ∨ ∃ p : Nat, r = p ∧ (n, p) ∈ S2.world.playerRegistry) ∧
    (∀ t n p r, names[t]? = some n → S1.threads[t]? = some (registerThread n) →
      (n, p) ∈ S1.world.playerRegistry → S2.result t = some r → r = p) ∧
    (∀ t t' n (p p' : Nat), names[t]? = some n → names[t']? = some n →
      S2.result t = some p → S2.result t' = some p' → p = p') := by
  obtain ⟨hS1, -⟩ := (RegisterInv.start w hw).run h1
  obtain ⟨hS2, hsuf⟩ := hS1.run h2
  have hres : ∀ t n r, names[t]? = some n → S2.result t = some r →
      Registered S2.world.playerRegistry n r := fun t n r hn hr => (hS2.result hn hr).1
  refine ⟨hS2.nodup, hsuf, hres, fun t n p r hn ht hp hr => ?_, fun t t' n p p' hn hn' hr hr' => ?_⟩
  · exact ((((hS1.pin hn ht hp).run h2).1.result hn hr).2 p (Function.update_same _ _ _))
  · have hmem : ∀ {t} {p : Nat}, names[t]? = some n → S2.result t = some p →
        (n, p) ∈ S2.world.playerRegistry := fun hn hr => by
      rcases hres _ n _ hn hr with h | ⟨q, hq, hm⟩
      · omega
      · exact (Int.ofNat_inj.1 hq) ▸ hm
    exact player_eq_of_mem hS2.nodup (hmem hn hr) (hmem hn' hr')

/-- Three calls, with the names `al`, `alice` and `al`: the first registers `al` as player 0;
the third starts after that and gets player 0 too, and `alice` gets player 1. -/
theorem preg_register_interleaving_al :
    ∃ S1 ∈ (Sys.start (World.init [])
        ([ascii "al", ascii "alice", ascii "al"].map registerThread)).run [0, 0],
      ∃ S2 ∈ S1.run [0, 0, 0, 0, 2, 2, 2, 2, 2, 2, 1, 1, 1, 1, 1, 1],
        S2.result 0 = some 0 ∧ S2.result 1 = some 1 ∧ S2.result 2 = some 0 ∧
        (S2.world.playerRegistry.map Prod.fst).Nodup ∧
        S1.world.playerRegistry <:+ S2.world.playerRegistry ∧
        (∀ t n r, [ascii "al", ascii "alice", ascii "al"][t]? = some n → S2.result t = some r →
          r = -1 ∨ ∃ p : Nat, r = p ∧ (n, p) ∈ S2.world.playerRegistry) ∧
        (∀ t n p r, [ascii "al", ascii "alice", ascii "al"][t]? = some n →
          S1.threads[t]? = some (registerThread n) → (n, p) ∈ S1.world.playerRegistry →
          S2.result t = some r → r = p) ∧
        (∀ t t' n (p p' : Nat), [ascii "al", ascii "alice", ascii "al"][t]? = some n →
          [ascii "al", ascii "alice", ascii "al"][t']? = some n →
          S2.result t = some p → S2.result t' = some p' → p = p') := by
  obtain ⟨S1, h1, S2, h2, hr⟩ : ∃ S1 ∈ (Sys.start (World.init [])
      ([ascii "al", ascii "alice", ascii "al"].map registerThread)).run [0, 0],
      ∃ S2 ∈ S1.run [0, 0, 0, 0, 2, 2, 2, 2, 2, 2, 1, 1, 1, 1, 1, 1],
        S2.result 0 = some 0 ∧ S2.result 1 = some 1 ∧ S2.result 2 = some 0 := by
    decide
  exact ⟨S1, h1, S2, h2, hr.1, hr.2.1, hr.2.2,
    preg_register_interleaving (World.init []) _ List.nodup_nil h1 h2⟩

end JeuxServer
