import JeuxServer.Server.Heap
import JeuxServer.Server.Links

/-!
# The player registry, as a list and in memory

`player_registry.c` keeps the registry as a doubly-linked list of nodes from `preg->head`, each
with a copy of a name and its PLAYER; no code removes a node. The `World` keeps the payloads
of the nodes, from the head, as the list `playerRegistry`. `preg_register(name)` does one of
three things to it (`World.pregRegister_cases`). When a node has the name, nothing changes and
the node's player is returned. Otherwise a new player gets a new node at the head, or, when
that node's `malloc` fails, nothing changes. So a call keeps the names distinct and removes no
node (`RegistryStep`).

In memory, the call's search walks `next` from the head and compares each node's name with
`strcmp`, and the new node is linked in at the head (`pregRegisterNodes`). On a well-formed
list holding the `World`'s registry, the walk returns what `World.pregRegister` returns, and the
list it leaves is well formed and holds the registry `World.pregRegister` leaves
(`pregRegisterNodes_rep`). Along any sequence of calls the nodes keep holding the `World`'s
registry (`pregRegister_nodes`). `player_registry_insert` and `player_registry_remove` are
never called: `preg_register` links its node in itself.
-/

set_option autoImplicit false

namespace JeuxServer

/-! ## What one call does to the registry -/

/-- What a call may do to the player registry: leave it, or add one node at the head under a
name no node has. -/
def RegistryStep (reg reg' : List (List UInt8 × Nat)) : Prop :=
  reg' = reg ∨ ∃ n p, reg' = (n, p) :: reg ∧ n ∉ reg.map Prod.fst

namespace RegistryStep

variable {reg reg' : List (List UInt8 × Nat)}

theorem nodup (h : RegistryStep reg reg') (hnd : (reg.map Prod.fst).Nodup) :
    (reg'.map Prod.fst).Nodup := by
  rcases h with rfl | ⟨n, p, rfl, hn⟩
  · exact hnd
  · exact List.nodup_cons.2 ⟨hn, hnd⟩

theorem suffix (h : RegistryStep reg reg') : reg <:+ reg' := by
  rcases h with rfl | ⟨n, p, rfl, -⟩
  · exact List.suffix_refl _
  · exact List.suffix_cons _ _

end RegistryStep

/-- Two nodes of a registry with distinct names and the same name are one node. -/
theorem player_eq_of_mem {reg : List (List UInt8 × Nat)} (hnd : (reg.map Prod.fst).Nodup)
    {n : List UInt8} {p q : Nat} (hp : (n, p) ∈ reg) (hq : (n, q) ∈ reg) : p = q :=
  congrArg Prod.snd (List.inj_on_of_nodup_map hnd hp hq rfl)

namespace World

@[simp] theorem attempt_playerRegistry (w : World) :
    w.attempt.2.playerRegistry = w.playerRegistry := by
  unfold attempt; split <;> rfl

@[simp] theorem setPlayer_playerRegistry (w : World) (p : Nat) (pl : Option Player) :
    (w.setPlayer p pl).playerRegistry = w.playerRegistry := rfl

@[simp] theorem playerRef_playerRegistry (w : World) (p : Option Nat) :
    (w.playerRef p).playerRegistry = w.playerRegistry := by
  unfold playerRef; (repeat' split) <;> rfl

@[simp] theorem playerUnref_playerRegistry (w : World) (p : Option Nat) :
    (w.playerUnref p).playerRegistry = w.playerRegistry := by
  unfold playerUnref; (repeat' split) <;> rfl

/-- What `preg_register(name)` does to the registry and what it returns: the player of the
node of `name`, the registry as it was; or, when no node has the name, a new player at a new
node at the head, or `NULL` and the registry as it was. -/
theorem pregRegister_cases (w : World) (name : List UInt8) :
    (∃ p, (name, p) ∈ w.playerRegistry ∧ (w.pregRegister name).1 = some p ∧
      (w.pregRegister name).2.playerRegistry = w.playerRegistry) ∨
    name ∉ w.playerRegistry.map Prod.fst ∧
      ((w.pregRegister name).1 = some w.nextAddr ∧
          (w.pregRegister name).2.playerRegistry = (name, w.nextAddr) :: w.playerRegistry ∨
        (w.pregRegister name).1 = none ∧
          (w.pregRegister name).2.playerRegistry = w.playerRegistry) := by
  cases hf : w.playerRegistry.find? (·.1 == name) with
  | some e =>
      obtain ⟨n, p⟩ := e
      obtain rfl : n = name := by simpa using List.find?_some hf
      exact .inl ⟨p, List.mem_of_find?_eq_some hf, by simp [pregRegister, hf]⟩
  | none =>
      refine .inr ⟨fun hm => ?_, ?_⟩
      · obtain ⟨⟨n, p⟩, hm', rfl⟩ := List.mem_map.1 hm
        simpa using List.find?_eq_none.1 hf _ hm'
      · simp only [pregRegister, hf]
        split <;> rename_i heq <;> have hreg := congrArg (·.2.playerRegistry) heq <;>
          simp only [attempt_playerRegistry, setPlayer_playerRegistry] at hreg <;> simp [← hreg]

/-- `preg_register` changes the registry only as `RegistryStep` allows. -/
theorem pregRegister_registryStep (w : World) (name : List UInt8) :
    RegistryStep w.playerRegistry (w.pregRegister name).2.playerRegistry := by
  rcases w.pregRegister_cases name with ⟨-, -, -, h⟩ | ⟨hn, ⟨-, h⟩ | ⟨-, h⟩⟩
  · exact .inl h
  · exact .inr ⟨name, _, h, hn⟩
  · exact .inl h

end World

/-! ## The registry's nodes in memory -/

open DList

/-- What `preg_register(name)` does to the registry's nodes in memory, for a new player at `p`
whose node's `malloc` has outcome `o`. The walk from the head stops at the first node whose name
`strcmp` finds equal to `name`, and that node's player is returned. When the walk reaches
`NULL` and the `malloc` succeeds, a node holding the name and `p` becomes the head. -/
def pregRegisterNodes (l : DList (List UInt8 × Nat)) (name : List UInt8) (p : Nat)
    (o : Outcome) : Option Nat × DList (List UInt8 × Nat) :=
  match l.find (·.1 == name) with
  | some (_, q) => (some q, l)
  | none => if o = .ok then (some p, l.insertHead (name, p)) else (none, l)

/-- A sequence of `preg_register` calls on the `World`. -/
def pregRun (w : World) (names : List (List UInt8)) : World :=
  names.foldl (fun w n => (w.pregRegister n).2) w

/-- The same calls on the registry's nodes in memory, each with the address and the
`malloc` outcome that the `World` gives its new player. -/
def pregRunNodes (l : DList (List UInt8 × Nat)) (w : World) :
    List (List UInt8) → DList (List UInt8 × Nat)
  | [] => l
  | n :: ns =>
      pregRunNodes (pregRegisterNodes l n w.nextAddr w.attempt.1).2 (w.pregRegister n).2 ns

/-- The step lemma: on a well-formed list holding the `World`'s registry, the walk returns
what `World.pregRegister` returns and leaves a well-formed list holding its registry. -/
theorem pregRegisterNodes_rep {l : DList (List UInt8 × Nat)} {w : World}
    (h : l.Rep w.playerRegistry) (name : List UInt8) :
    (pregRegisterNodes l name w.nextAddr w.attempt.1).1 = (w.pregRegister name).1 ∧
      (pregRegisterNodes l name w.nextAddr w.attempt.1).2.Rep
        (w.pregRegister name).2.playerRegistry := by
  unfold pregRegisterNodes World.pregRegister
  rw [h.find]
  cases w.playerRegistry.find? (·.1 == name) with
  | some e => exact ⟨rfl, by simpa using h⟩
  | none =>
      dsimp only
      have hnode : ∀ {o w2}, ({ w with nextAddr := w.nextAddr + 1 }.setPlayer w.nextAddr
          (some ⟨name, 1500, 1⟩)).attempt = (o, w2) →
          w.attempt.1 = o ∧ w2.playerRegistry = w.playerRegistry := fun heq =>
        ⟨(World.attempt_fst_congr (by rfl)).symm.trans (congrArg Prod.fst heq),
          by simpa using (congrArg (·.2.playerRegistry) heq).symm⟩
      split <;> rename_i ho <;> split <;> rename_i heq <;> obtain ⟨hx, hreg⟩ := hnode heq
      · exact ⟨rfl, by simpa [hreg] using h.insertHead (name, w.nextAddr)⟩
      · exact absurd (hx.symm.trans ho) ‹_›
      · exact absurd hx ho
      · exact ⟨rfl, by simpa [hreg] using h⟩

/-- The run lemma: along any sequence of calls, the nodes keep holding the `World`'s registry,
whose names stay distinct and which only grows. -/
theorem pregRunNodes_rep (l : DList (List UInt8 × Nat)) (w : World) (h : l.Rep w.playerRegistry)
    (hnd : (w.playerRegistry.map Prod.fst).Nodup) :
    ∀ names, (pregRunNodes l w names).Rep (pregRun w names).playerRegistry ∧
      ((pregRun w names).playerRegistry.map Prod.fst).Nodup ∧
      w.playerRegistry <:+ (pregRun w names).playerRegistry
  | [] => ⟨h, hnd, List.suffix_refl _⟩
  | n :: ns => by
      have hs := w.pregRegister_registryStep n
      obtain ⟨h1, h2, h3⟩ := pregRunNodes_rep _ _ (pregRegisterNodes_rep h n).2 (hs.nodup hnd) ns
      exact ⟨h1, h2, hs.suffix.trans h3⟩

/-- Along any sequence of `preg_register` calls from a well-formed list of nodes holding the
`World`'s registry, whose names are distinct: the nodes keep holding the registry the `World`
keeps, its names stay distinct and no node is removed; and the next call's walk returns what
`World.pregRegister` returns and leaves a well-formed list holding the registry it leaves. -/
theorem pregRegister_nodes (l : DList (List UInt8 × Nat)) (w : World)
    (h : l.Rep w.playerRegistry) (hnd : (w.playerRegistry.map Prod.fst).Nodup)
    (names : List (List UInt8)) (name : List UInt8) :
    let l' := pregRunNodes l w names
    let w' := pregRun w names
    l'.Rep w'.playerRegistry ∧ (w'.playerRegistry.map Prod.fst).Nodup ∧
      w.playerRegistry <:+ w'.playerRegistry ∧
      (pregRegisterNodes l' name w'.nextAddr w'.attempt.1).1 = (w'.pregRegister name).1 ∧
      (pregRegisterNodes l' name w'.nextAddr w'.attempt.1).2.Rep
        (w'.pregRegister name).2.playerRegistry :=
  let hr := pregRunNodes_rep l w h hnd names
  ⟨hr.1, hr.2.1, hr.2.2, pregRegisterNodes_rep hr.1 name⟩

/-- A fresh registry in memory, then `al` and `alice` registered, and `al` registered again. -/
theorem pregRegister_nodes_al :
    (DList.empty : DList (List UInt8 × Nat)).Rep (World.init []).playerRegistry ∧
    ((World.init []).playerRegistry.map Prod.fst).Nodup ∧
    let l' := pregRunNodes .empty (World.init []) [ascii "al", ascii "alice"]
    let w' := pregRun (World.init []) [ascii "al", ascii "alice"]
    l'.Rep w'.playerRegistry ∧ (w'.playerRegistry.map Prod.fst).Nodup ∧
      (World.init []).playerRegistry <:+ w'.playerRegistry ∧
      (pregRegisterNodes l' (ascii "al") w'.nextAddr w'.attempt.1).1 =
        (w'.pregRegister (ascii "al")).1 ∧
      (pregRegisterNodes l' (ascii "al") w'.nextAddr w'.attempt.1).2.Rep
        (w'.pregRegister (ascii "al")).2.playerRegistry :=
  ⟨Rep.empty, List.nodup_nil,
    pregRegister_nodes .empty (World.init []) Rep.empty List.nodup_nil _ (ascii "al")⟩

end JeuxServer
