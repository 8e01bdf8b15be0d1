import Mathlib.Data.Finset.Card
import Mathlib.Data.List.Nodup

/-!
# The doubly-linked lists of the server, in memory

Three lists of the server are doubly-linked lists of `malloc`'d nodes: the client registry's
`CLIENT_NODE`s, each client's `INVITATION_NODE`s and the player registry's nodes. The same
two pieces of code change them: a new node goes to the head (`insert_client`,
`client_add_invitation`, `preg_register`), and the first node whose payload passes a test is
found by walking `next` from the head and unlinked (`remove_client`,
`client_remove_invitation`).

`DList` is such a list as memory holds it: the node at each address, with its payload and its
`prev` and `next` pointers, and the head pointer. `Links nodes stop prev start as` says that
walking `next` from `start` visits the nodes at the addresses `as`, each node's `prev`
pointing at the node visited before it (at `prev` for the first), and then reaches `stop`. A
list is well formed with its nodes at `as` (`DList.Shape`) when the walk from the head, with
`NULL` before it, visits distinct allocated nodes and ends at `NULL`: the head's `prev` is
`NULL` and each node's `next` has the node as its `prev`. Its payloads, in order, are its
view.

`insertHead` and `remove` keep a list well formed and act on its view as `List.cons` and
`List.eraseP` do, `remove` returning what `List.find?` finds, and leaving the list as it was
when nothing is found (`Rep.insertHead`, `Rep.remove`, `Rep.remove_none`); the search loop
alone, `find`, returns what `List.find?` finds (`Rep.find`). So the pointer code refines the
lists the rest of the development works with.
-/

set_option autoImplicit false

namespace JeuxServer

/-- A node of a doubly-linked list: its payload and the addresses of the previous and the next
node (`none` is `NULL`). -/
structure DNode (α : Type) where
  val : α
  prev : Option Nat
  next : Option Nat

/-- A doubly-linked list in memory: the node at each address (`none` where nothing is
allocated), the head pointer, and the address the next `malloc` returns. -/
structure DList (α : Type) where
  nodes : Nat → Option (DNode α)
  head : Option Nat
  fresh : Nat

namespace DList

variable {α : Type}

/-- A list with no node: the head is `NULL`. -/
def empty : DList α := ⟨fun _ => none, none, 0⟩

/-- `node->prev = p` for the node at `a`. -/
def setPrev (nodes : Nat → Option (DNode α)) (a : Nat) (p : Option Nat) :
    Nat → Option (DNode α) :=
  Function.update nodes a ((nodes a).map fun n => { n with prev := p })

/-- `node->next = q` for the node at `a`. -/
def setNext (nodes : Nat → Option (DNode α)) (a : Nat) (q : Option Nat) :
    Nat → Option (DNode α) :=
  Function.update nodes a ((nodes a).map fun n => { n with next := q })

/-- `if (b != NULL) b->prev = p`. -/
def setPrevOf (nodes : Nat → Option (DNode α)) :
    Option Nat → Option Nat → Nat → Option (DNode α)
  | some b, p => setPrev nodes b p
  | none, _ => nodes

/-- `if (b != NULL) b->next = q`. -/
def setNextOf (nodes : Nat → Option (DNode α)) :
    Option Nat → Option Nat → Nat → Option (DNode α)
  | some b, q => setNext nodes b q
  | none, _ => nodes

/-- The insertion at the head: a new node whose `prev` is `NULL` and whose `next` is the old
head; the old head, if any, takes the new node as its `prev`, and the new node becomes the
head. -/
def insertHead (l : DList α) (x : α) : DList α where
  nodes := setPrevOf (Function.update l.nodes l.fresh (some ⟨x, none, l.head⟩)) l.head
    (some l.fresh)
  head := some l.fresh
  fresh := l.fresh + 1

/-- The walk `while (node != NULL && !test(node)) node = node->next` from `start`, for at most
`fuel` nodes: the address of the first node whose payload passes `p`. -/
def seek (nodes : Nat → Option (DNode α)) (p : α → Bool) : Nat → Option Nat → Option Nat
  | 0, _ => none
  | _ + 1, none => none
  | fuel + 1, some a =>
      match nodes a with
      | some n => if p n.val then some a else seek nodes p fuel n.next
      | none => none

/-- The unlinking and `free` of the node at `a`: its previous node, or the head pointer when it
has none, takes its `next`; its next node, if any, takes its `prev`. -/
def unlink (l : DList α) (a : Nat) : DList α :=
  match l.nodes a with
  | none => l
  | some n =>
      { nodes := Function.update (setPrevOf (setNextOf l.nodes n.prev n.next) n.next n.prev) a none
        head := match n.prev with
          | some _ => l.head
          | none => n.next
        fresh := l.fresh }

/-- The removal of the first node whose payload passes `p`: that payload, and the list
without the node; nothing changes when no node passes. The code's walk has no bound; it is
given here the number of addresses allocated so far, which a well-formed list never exceeds
(`Shape.length_le`). -/
def remove (l : DList α) (p : α → Bool) : Option α × DList α :=
  match seek l.nodes p l.fresh l.head with
  | some a => ((l.nodes a).map (·.val), l.unlink a)
  | none => (none, l)

/-- The search loop of a walk from the head, such as the one of `preg_register`: the payload
of the first node whose payload passes `p`, found as `remove` finds it. -/
def find (l : DList α) (p : α → Bool) : Option α :=
  (seek l.nodes p l.fresh l.head).bind fun a => (l.nodes a).map (·.val)

/-! ## Well-formed lists -/

/-- The payloads of the nodes at `as`, in order. -/
def view (nodes : Nat → Option (DNode α)) (as : List Nat) : List α :=
  as.filterMap fun a => (nodes a).map (·.val)

/-- Walking `next` from `start` visits the nodes at `as`, each with the node visited before it
(`prev` for the first) as its `prev`, and then reaches `stop`. -/
inductive Links (nodes : Nat → Option (DNode α)) (stop : Option Nat) :
    Option Nat → Option Nat → List Nat → Prop
  | nil {prev : Option Nat} : Links nodes stop prev stop []
  | cons {prev : Option Nat} {a : Nat} {n : DNode α} {rest : List Nat} :
      nodes a = some n → n.prev = prev → Links nodes stop (some a) n.next rest →
      Links nodes stop prev (some a) (a :: rest)

/-- The list is well formed with its nodes at `as`: the walk from the head, with `NULL` before
it, visits distinct nodes at `as`, all allocated below `fresh`, and ends at `NULL`. -/
structure Shape (l : DList α) (as : List Nat) : Prop where
  links : Links l.nodes none none l.head as
  nodup : as.Nodup
  lt_fresh : ∀ a ∈ as, a < l.fresh

/-- The list is well formed and its payloads are `xs`. -/
def Rep (l : DList α) (xs : List α) : Prop :=
  ∃ as, l.Shape as ∧ view l.nodes as = xs

section Nodes

variable {nodes nodes' : Nat → Option (DNode α)} {a b : Nat}

@[simp] theorem setPrev_self (p : Option Nat) :
    setPrev nodes a p a = (nodes a).map fun n => { n with prev := p } :=
  Function.update_same _ _ _

theorem setPrev_ne (p : Option Nat) (h : b ≠ a) : setPrev nodes a p b = nodes b :=
  Function.update_noteq h _ _

@[simp] theorem setNext_self (q : Option Nat) :
    setNext nodes a q a = (nodes a).map fun n => { n with next := q } :=
  Function.update_same _ _ _

theorem setNext_ne (q : Option Nat) (h : b ≠ a) : setNext nodes a q b = nodes b :=
  Function.update_noteq h _ _

/-- The payloads do not depend on the pointers. -/
theorem view_congr {as : List Nat}
    (h : ∀ x ∈ as, (nodes' x).map (·.val) = (nodes x).map (·.val)) :
    view nodes' as = view nodes as :=
  List.filterMap_congr h

theorem val_setPrev (p : Option Nat) (x : Nat) :
    (setPrev nodes a p x).map (·.val) = (nodes x).map (·.val) := by
  by_cases e : x = a
  · subst e; rw [setPrev_self]; cases nodes x <;> rfl
  · rw [setPrev_ne _ e]

theorem val_setNext (q : Option Nat) (x : Nat) :
    (setNext nodes a q x).map (·.val) = (nodes x).map (·.val) := by
  by_cases e : x = a
  · subst e; rw [setNext_self]; cases nodes x <;> rfl
  · rw [setNext_ne _ e]

theorem val_setPrevOf (b p : Option Nat) (x : Nat) :
    (setPrevOf nodes b p x).map (·.val) = (nodes x).map (·.val) := by
  cases b
  · rfl
  · exact val_setPrev _ _

theorem val_setNextOf (b q : Option Nat) (x : Nat) :
    (setNextOf nodes b q x).map (·.val) = (nodes x).map (·.val) := by
  cases b
  · rfl
  · exact val_setNext _ _

/-- A payload of the view comes from a node whose test is the payload's. -/
theorem any_of_mem_view {as : List Nat} {y : α} (hy : y ∈ view nodes as) (p : α → Bool) :
    ∃ x ∈ as, (nodes x).any (fun n => p n.val) = p y := by
  obtain ⟨x, hx, hxy⟩ := List.mem_filterMap.1 hy
  obtain ⟨n, hn, rfl⟩ := Option.map_eq_some'.1 hxy
  exact ⟨x, hx, by simp [hn]⟩

end Nodes

namespace Links

variable {nodes nodes' : Nat → Option (DNode α)} {stop prev start : Option Nat} {as : List Nat}

/-- The frame lemma: a walk reads only the nodes it visits. -/
theorem frame (h : Links nodes stop prev start as) (heq : ∀ x ∈ as, nodes' x = nodes x) :
    Links nodes' stop prev start as := by
  induction h with
  | nil => exact .nil
  | cons hn hp _ ih =>
      exact .cons ((heq _ (List.mem_cons_self _ _)).trans hn) hp
        (ih fun x hx => heq x (List.mem_cons_of_mem _ hx))

/-- Every node a walk visits is allocated. -/
theorem isSome (h : Links nodes stop prev start as) : ∀ x ∈ as, (nodes x).isSome := by
  induction h with
  | nil => exact fun _ h => nomatch h
  | cons hn _ _ ih =>
      rintro x (_ | ⟨_, hx⟩)
      exacts [by simp [hn], ih x hx]

theorem getLast?_cons_or (x : Nat) (xs : List Nat) (p : Option Nat) :
    (x :: xs).getLast?.or p = xs.getLast?.or (some x) := by
  rw [List.getLast?_cons]
  cases xs.getLast? <;> rfl

/-- A walk cut in two: up to the node after the last of `as`, and from there. -/
theorem append_iff {bs : List Nat} :
    Links nodes stop prev start (as ++ bs) ↔
      ∃ m, Links nodes m prev start as ∧ Links nodes stop (as.getLast?.or prev) m bs := by
  induction as generalizing prev start with
  | nil =>
      refine ⟨fun h => ⟨start, .nil, h⟩, ?_⟩
      rintro ⟨m, hm, h⟩
      cases hm
      exact h
  | cons x xs ih =>
      rw [List.cons_append, getLast?_cons_or]
      constructor
      · rintro (_ | ⟨hn, hp, h⟩)
        obtain ⟨m, h1, h2⟩ := ih.1 h
        exact ⟨m, .cons hn hp h1, h2⟩
      · rintro ⟨m, (_ | ⟨hn, hp, h1⟩), h2⟩
        exact .cons hn hp (ih.2 ⟨m, h1, h2⟩)

/-- A walk over no node stops where it starts. -/
theorem nil_eq (h : Links nodes stop prev start []) : start = stop := by
  cases h; rfl

/-- A walk over nodes starts at the first of them. -/
theorem cons_start {c : Nat} {rest : List Nat} (h : Links nodes stop prev start (c :: rest)) :
    start = some c := by
  cases h; rfl

/-- The first node of a walk may be given another `prev`. -/
theorem setPrev_head {c : Nat} {rest : List Nat} (h : Links nodes stop prev (some c) (c :: rest))
    (hc : c ∉ rest) (p : Option Nat) :
    Links (setPrev nodes c p) stop p (some c) (c :: rest) := by
  cases h with
  | @cons _ _ n _ hn _ h =>
      exact .cons (by simp [hn] : setPrev nodes c p c = some { n with prev := p }) rfl
        (h.frame fun x hx => setPrev_ne _ fun e : x = c => hc (e ▸ hx))

/-- The last node of a walk may be given another `next`, which the walk then reaches. -/
theorem setNext_last {b : Nat} {m : Option Nat} (h : Links nodes m prev start (as ++ [b]))
    (hb : b ∉ as) (q : Option Nat) :
    Links (setNext nodes b q) q prev start (as ++ [b]) := by
  obtain ⟨m', h1, h2⟩ := append_iff.1 h
  cases h2 with
  | @cons _ _ n _ hn hp _ =>
      refine append_iff.2 ⟨some b,
        h1.frame fun x hx => setNext_ne _ fun e : x = b => hb (e ▸ hx),
        .cons (by simp [hn] : setNext nodes b q b = some { n with next := q }) hp .nil⟩

/-- A walk that ends at `NULL` finds the first node whose payload passes `p` within as many
rounds as it has nodes. -/
theorem seek_eq (h : Links nodes none prev start as) (p : α → Bool) {fuel : Nat}
    (hfuel : as.length ≤ fuel) :
    seek nodes p fuel start = as.find? fun x => (nodes x).any fun n => p n.val := by
  induction h generalizing fuel with
  | nil => cases fuel <;> rfl
  | @cons _ x n rest hn _ _ ih =>
      obtain ⟨f, rfl⟩ : ∃ f, fuel = f + 1 := ⟨fuel - 1, by simp at hfuel; omega⟩
      simp only [seek, hn, List.find?_cons, Option.any_some]
      split <;> simp_all

end Links

/-! ## The operations on well-formed lists -/

section Unlink

variable {l : DList α}

/-- Unlinking leaves the payloads of the other nodes as they were. -/
theorem val_unlink {a x : Nat} (hx : x ≠ a) :
    ((l.unlink a).nodes x).map (·.val) = (l.nodes x).map (·.val) := by
  unfold DList.unlink
  split
  · rfl
  · dsimp only
    rw [Function.update_noteq hx, val_setPrevOf, val_setNextOf]

@[simp] theorem fresh_unlink (a : Nat) : (l.unlink a).fresh = l.fresh := by
  unfold DList.unlink; split <;> rfl

end Unlink

namespace Shape

variable {l : DList α} {as : List Nat}

/-- A well-formed list has at most as many nodes as addresses were allocated. -/
theorem length_le (h : l.Shape as) : as.length ≤ l.fresh := by
  have hsub : as.toFinset ⊆ Finset.range l.fresh := fun x hx =>
    Finset.mem_range.2 (h.lt_fresh x (List.mem_toFinset.1 hx))
  simpa [List.toFinset_card_of_nodup h.nodup] using Finset.card_le_card hsub

theorem insertHead (h : l.Shape as) (x : α) : (l.insertHead x).Shape (l.fresh :: as) := by
  have hfresh : l.fresh ∉ as := fun hm => Nat.lt_irrefl _ (h.lt_fresh _ hm)
  have hframe : ∀ y ∈ as,
      Function.update l.nodes l.fresh (some ⟨x, none, l.head⟩) y = l.nodes y :=
    fun y hy => Function.update_noteq (fun e : y = l.fresh => hfresh (e ▸ hy)) _ _
  have hl := h.links.frame hframe
  refine ⟨?_, List.nodup_cons.2 ⟨hfresh, h.nodup⟩, ?_⟩
  · cases hh : l.head with
    | none =>
        rw [hh] at hl
        rcases as with _ | ⟨c, rest⟩
        · exact .cons (by simp [DList.insertHead, hh, setPrevOf] :
            (l.insertHead x).nodes l.fresh = some ⟨x, none, none⟩) rfl .nil
        · cases hl
    | some c =>
        rw [hh] at hl
        rcases as with _ | ⟨c', rest⟩
        · cases hl.nil_eq
        · obtain rfl : c = c' := by cases hl; rfl
          have hne : l.fresh ≠ c := fun e => hfresh (e ▸ List.mem_cons_self _ _)
          refine .cons (by simp [DList.insertHead, hh, setPrevOf, setPrev_ne _ hne] :
            (l.insertHead x).nodes l.fresh = some ⟨x, none, some c⟩) rfl ?_
          simpa [DList.insertHead, hh, setPrevOf] using
            hl.setPrev_head (List.nodup_cons.1 h.nodup).1 (some l.fresh)
  · rintro y (_ | ⟨_, hy⟩)
    exacts [Nat.lt_succ_self _, Nat.lt_succ_of_lt (h.lt_fresh y hy)]

theorem view_insertHead (h : l.Shape as) (x : α) :
    view (l.insertHead x).nodes (l.fresh :: as) = x :: view l.nodes as := by
  have hfresh : l.fresh ∉ as := fun hm => Nat.lt_irrefl _ (h.lt_fresh _ hm)
  have hval : ∀ y, ((l.insertHead x).nodes y).map (·.val) =
      (Function.update l.nodes l.fresh (some ⟨x, none, l.head⟩) y).map (·.val) := by
    intro y
    exact val_setPrevOf _ _ _
  have hx : ((l.insertHead x).nodes l.fresh).map (·.val) = some x := by rw [hval]; simp
  simp only [view, List.filterMap_cons, hx]
  congr 1
  exact view_congr fun y hy => by
    rw [hval, Function.update_noteq fun e : y = l.fresh => hfresh (e ▸ hy)]

/-- Unlinking a node of a well-formed list leaves the list of the other nodes. -/
theorem unlink {pre post : List Nat} {a : Nat} (h : l.Shape (pre ++ a :: post)) :
    (l.unlink a).Shape (pre ++ post) := by
  have hnd := h.nodup
  simp only [List.nodup_append, List.nodup_cons, List.disjoint_cons_right] at hnd
  obtain ⟨hpreNd, ⟨haPost, hpostNd⟩, haPre, hdisj⟩ := hnd
  obtain ⟨m, hpre, hmid⟩ := Links.append_iff.1 h.links
  cases hmid with
  | @cons _ _ n _ hn hp hpost =>
  have hfresh : ∀ x ∈ pre ++ post, x < l.fresh := fun x hx =>
    h.lt_fresh x (by rcases List.mem_append.1 hx with hx | hx <;> simp [hx])
  have hnd' : (pre ++ post).Nodup := List.nodup_append.2 ⟨hpreNd, hpostNd, hdisj⟩
  refine ⟨?_, hnd', by simpa using hfresh⟩
  rcases List.eq_nil_or_concat pre with rfl | ⟨pre', b, rfl⟩
  · -- the head is unlinked: its next node becomes the head, with `NULL` before it
    have hprev : n.prev = none := hp
    rcases post with _ | ⟨c, post'⟩
    · have hnext : n.next = none := hpost.nil_eq
      simp only [DList.unlink, setPrevOf, setNextOf, hn, hprev, hnext, List.append_nil]
      exact .nil
    · have hnext : n.next = some c := hpost.cons_start
      rw [hnext] at hpost
      simp only [DList.unlink, setPrevOf, setNextOf, hn, hprev, hnext, List.nil_append]
      exact (hpost.setPrev_head (List.nodup_cons.1 hpostNd).1 none).frame fun x hx =>
        Function.update_noteq (fun e : x = a => haPost (e ▸ hx)) _ _
  · -- an inner node is unlinked: its previous node takes its next
    simp only [List.concat_eq_append] at *
    have hb : b ∉ pre' := fun hm =>
      (List.nodup_append.1 hpreNd).2.2 hm (List.mem_singleton_self b)
    have hprev : n.prev = some b := by simpa using hp
    have hba : b ≠ a := fun e => haPre (e ▸ by simp)
    rcases post with _ | ⟨c, post'⟩
    · have hnext : n.next = none := hpost.nil_eq
      simp only [DList.unlink, setPrevOf, setNextOf, hn, hprev, hnext, List.append_nil]
      exact (hpre.setNext_last hb none).frame fun x hx =>
        Function.update_noteq (fun e : x = a => haPre (e ▸ hx)) _ _
    · have hnext : n.next = some c := hpost.cons_start
      rw [hnext] at hpost
      have hcb : c ≠ b := fun e : c = b =>
        hdisj (show b ∈ pre' ++ [b] by simp)
          (show b ∈ c :: post' from e ▸ List.mem_cons_self c post')
      simp only [DList.unlink, setPrevOf, setNextOf, hn, hprev, hnext]
      refine Links.append_iff.2 ⟨some c, ?_, ?_⟩
      · refine (hpre.setNext_last hb (some c)).frame fun x hx => ?_
        have hxa : x ≠ a := fun e => haPre (e ▸ hx)
        have hxc : x ≠ c := fun e => hdisj hx (e ▸ List.mem_cons_self c post')
        rw [Function.update_noteq hxa, setPrev_ne _ hxc]
      · rw [List.getLast?_append, List.getLast?_singleton]
        refine (hpost.setPrev_head (List.nodup_cons.1 hpostNd).1 (some b)).frame fun x hx => ?_
        have hxa : x ≠ a := fun e => haPost (e ▸ hx)
        rw [Function.update_noteq hxa]
        by_cases hxc : x = c
        · subst hxc; simp [setNext_ne _ hcb]
        · have hxb : x ≠ b := fun e => hdisj (by simp) (e ▸ hx)
          rw [setPrev_ne _ hxc, setPrev_ne _ hxc, setNext_ne _ hxb]

/-- The walk from the head finds the first node whose payload passes `p`. -/
theorem seek_eq (h : l.Shape as) (p : α → Bool) :
    seek l.nodes p l.fresh l.head = as.find? fun x => (l.nodes x).any fun n => p n.val :=
  h.links.seek_eq p h.length_le

end Shape

namespace Rep

variable {l : DList α} {xs : List α}

theorem empty : (DList.empty : DList α).Rep [] :=
  ⟨[], ⟨.nil, List.nodup_nil, fun _ h => nomatch h⟩, rfl⟩

/-- A list holds at most as many payloads as addresses were ever allocated for it. -/
theorem length_le (h : l.Rep xs) : xs.length ≤ l.fresh := by
  obtain ⟨as, hs, rfl⟩ := h
  exact (List.length_filterMap_le _ _).trans hs.length_le

/-- The insertion at the head puts the payload in front of the view. -/
theorem insertHead (h : l.Rep xs) (x : α) : (l.insertHead x).Rep (x :: xs) := by
  obtain ⟨as, hs, rfl⟩ := h
  exact ⟨_, hs.insertHead x, hs.view_insertHead x⟩

/-- The walk of a search loop, such as `fd_already_used` or `id_exists_in_client_invitation`,
finds a node exactly when some payload passes the test. -/
theorem seek_isSome (h : l.Rep xs) (p : α → Bool) :
    (seek l.nodes p l.fresh l.head).isSome = xs.any p := by
  obtain ⟨as, hs, rfl⟩ := h
  rw [hs.seek_eq, Bool.eq_iff_iff, List.find?_isSome, List.any_eq_true]
  constructor
  · rintro ⟨x, hx, hqx⟩
    obtain ⟨n, hn⟩ := Option.isSome_iff_exists.1 (hs.links.isSome x hx)
    exact ⟨n.val, List.mem_filterMap.2 ⟨x, hx, by simp [hn]⟩, by simpa [hn] using hqx⟩
  · rintro ⟨y, hy, hpy⟩
    obtain ⟨x, hx, hxy⟩ := any_of_mem_view hy p
    exact ⟨x, hx, hxy.trans hpy⟩

/-- When no payload passes `p`, the removal finds nothing and changes nothing. -/
theorem remove_none (h : l.Rep xs) {p : α → Bool} (hp : xs.find? p = none) :
    l.remove p = (none, l) := by
  obtain ⟨as, hs, rfl⟩ := h
  have hq : as.find? (fun x => (l.nodes x).any fun n => p n.val) = none :=
    List.find?_eq_none.2 fun x hx hqx => by
      obtain ⟨n, hn⟩ := Option.isSome_iff_exists.1 (hs.links.isSome x hx)
      refine List.find?_eq_none.1 hp n.val (List.mem_filterMap.2 ⟨x, hx, by simp [hn]⟩) ?_
      simpa [hn] using hqx
  simp only [DList.remove, hs.seek_eq, hq]

/-- The removal returns the first payload that passes `p` and unlinks its node: the view loses
that payload, as `List.eraseP` drops it. -/
theorem remove (h : l.Rep xs) (p : α → Bool) :
    (l.remove p).1 = xs.find? p ∧ (l.remove p).2.Rep (xs.eraseP p) := by
  cases hf : xs.find? p with
  | none =>
      rw [h.remove_none hf, List.eraseP_of_forall_not fun y hy => List.find?_eq_none.1 hf y hy]
      exact ⟨rfl, h⟩
  | some y =>
      obtain ⟨as, hs, rfl⟩ := h
      cases hq : as.find? (fun x => (l.nodes x).any fun n => p n.val) with
      | none =>
          obtain ⟨x, hx, hxy⟩ := any_of_mem_view (List.mem_of_find?_eq_some hf) p
          exact absurd (hxy.trans (List.find?_some hf))
            (by simpa using List.find?_eq_none.1 hq x hx)
      | some a =>
          obtain ⟨hqa, pre, post, rfl, hpre⟩ := List.find?_eq_some.1 hq
          obtain ⟨n, hn⟩ := Option.isSome_iff_exists.1 (hs.links.isSome a (by simp))
          have hpn : p n.val = true := by simpa [hn] using hqa
          have hpre' : ∀ z ∈ view l.nodes pre, ¬p z := fun z hz hpz => by
            obtain ⟨x, hx, hxz⟩ := any_of_mem_view hz p
            simpa [hxz, hpz] using hpre x hx
          have hv : view l.nodes (pre ++ a :: post) =
              view l.nodes pre ++ n.val :: view l.nodes post := by
            simp [view, List.filterMap_append, hn]
          have hna : ∀ x ∈ pre ++ post, x ≠ a := by
            have hnd := hs.nodup
            simp only [List.nodup_append, List.nodup_cons] at hnd
            rintro x hx rfl
            rcases List.mem_append.1 hx with hx | hx
            exacts [hnd.2.2 hx (List.mem_cons_self _ _), hnd.2.1.1 hx]
          have hpost : view (l.unlink a).nodes (pre ++ post) =
              view l.nodes pre ++ view l.nodes post := by
            rw [view_congr fun x hx => val_unlink (hna x hx), view, List.filterMap_append]
            rfl
          have hrem : l.remove p = (some n.val, l.unlink a) := by
            simp only [DList.remove, hs.seek_eq, hq, hn, Option.map_some']
          rw [hrem, ← hf, hv, List.find?_append, List.find?_eq_none.2 hpre',
            List.find?_cons_of_pos _ hpn, List.eraseP_append_right _ hpre',
            List.eraseP_cons_of_pos hpn]
          exact ⟨rfl, pre ++ post, hs.unlink, hpost⟩

/-- The search loop returns the first payload that passes `p`. -/
theorem find (h : l.Rep xs) (p : α → Bool) : l.find p = xs.find? p := by
  rw [← (h.remove p).1]
  unfold DList.find DList.remove
  cases seek l.nodes p l.fresh l.head <;> rfl

end Rep

end DList

end JeuxServer
