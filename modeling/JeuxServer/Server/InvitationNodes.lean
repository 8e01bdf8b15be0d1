import JeuxServer.Server.Heap
import JeuxServer.Server.Links

/-!
# A client's invitation list, in memory

`client.c` keeps a client's invitations in a doubly-linked list of `INVITATION_NODE`s from
`invitations_head`. Here that list is a `DList InvitationNode`, and the list work of the code
walks it: `idExistsIn` is the loop of `id_exists_in_client_invitation`, `findLowestIdIn` the
loop of `find_lowest_id_availalble` over it, and `addInvitationNode` and
`removeInvitationNode` what `client_add_invitation` and `client_remove_invitation` do to the
list.

The walks compute on the nodes what the functions of the list model compute on the list's view
(`idExistsIn_eq`, `findLowestIdAvailalbleIn_eq`), so each call refines the operation of
`InvitationList` that the `World` uses (`invStep_rep`), and every sequence of calls from a
well-formed list leaves a well-formed list whose IDs are pairwise distinct (`invRun_rep`).
-/

set_option autoImplicit false

namespace JeuxServer

open DList

/-- `id_exists_in_client_invitation`: walk `next` from the head until a node has the ID. The
walk is given `fresh` rounds, more than a well-formed list has nodes. -/
def idExistsIn (l : DList InvitationNode) (id : Nat) : Bool :=
  (seek l.nodes (·.id == id) l.fresh l.head).isSome

/-- The loop of `find_lowest_id_availalble` over the list in memory, from `i` with `fuel`
rounds. -/
def findLowestIdIn (l : DList InvitationNode) : Nat → Nat → Nat
  | 0, i => i
  | fuel + 1, i => if idExistsIn l i then findLowestIdIn l fuel (i + 1) else i

/-- `find_lowest_id_availalble` on the list in memory, with `fresh` rounds. -/
def findLowestIdAvailalbleIn (l : DList InvitationNode) : Nat :=
  findLowestIdIn l l.fresh 0

/-- What a call does to a client's list: `client_add_invitation(client, inv)`, whose node's
`malloc` has outcome `o`, or `client_remove_invitation(client, inv)`. -/
inductive ListCall where
  | add (inv : Nat) (o : Outcome)
  | remove (inv : Nat)
  deriving DecidableEq, Repr

/-- The list work of `client_add_invitation`: `-1` when the node's `malloc` fails; otherwise
the new node gets the lowest free ID and becomes the head. -/
def addInvitationNode (l : DList InvitationNode) (inv : Nat) (o : Outcome) :
    Int × DList InvitationNode :=
  if o = .ok then (findLowestIdAvailalbleIn l, l.insertHead ⟨inv, findLowestIdAvailalbleIn l⟩)
  else (-1, l)

/-- The list work of `client_remove_invitation`: the walk stops at the first node of `inv`,
which is unlinked, and its ID is returned; `-1` when the walk reaches `NULL`. -/
def removeInvitationNode (l : DList InvitationNode) (inv : Nat) : Int × DList InvitationNode :=
  match l.remove (·.invitation == inv) with
  | (some n, l') => (n.id, l')
  | (none, l') => (-1, l')

/-- One call on the list in memory. -/
def invStep (l : DList InvitationNode) : ListCall → Int × DList InvitationNode
  | .add inv o => addInvitationNode l inv o
  | .remove inv => removeInvitationNode l inv

/-- A sequence of calls on the list in memory. -/
def invRun (l : DList InvitationNode) (calls : List ListCall) : DList InvitationNode :=
  calls.foldl (fun l c => (invStep l c).2) l

/-- The same call on the list the `World` keeps, as `World.clientAddInvitation` and
`World.clientRemoveInvitation` change it. -/
def InvitationList.step (xs : InvitationList) : ListCall → Int × InvitationList
  | .add inv o => if o = .ok then (findLowestIdAvailalble xs.nodes, xs.add inv) else (-1, xs)
  | .remove inv =>
      match xs.findByInvitation inv with
      | some n => (n.id, xs.remove inv)
      | none => (-1, xs)

/-- A sequence of calls on the list the `World` keeps. -/
def InvitationList.run (xs : InvitationList) (calls : List ListCall) : InvitationList :=
  calls.foldl (fun xs c => (xs.step c).2) xs

@[simp] theorem invRun_nil (l : DList InvitationNode) : invRun l [] = l := rfl

@[simp] theorem invRun_cons (l : DList InvitationNode) (c : ListCall) (calls : List ListCall) :
    invRun l (c :: calls) = invRun (invStep l c).2 calls := rfl

@[simp] theorem InvitationList.run_cons (xs : InvitationList) (c : ListCall)
    (calls : List ListCall) : xs.run (c :: calls) = (xs.step c).2.run calls := rfl

section Walks

variable {l : DList InvitationNode} {xs : List InvitationNode}

/-- The walk of `id_exists_in_client_invitation` answers as the list model does on the view. -/
theorem idExistsIn_eq (h : l.Rep xs) (id : Nat) :
    idExistsIn l id = idExistsInClientInvitation xs id :=
  h.seek_isSome _

theorem findLowestIdIn_eq (h : l.Rep xs) :
    ∀ fuel i, findLowestIdIn l fuel i = findLowestIdFrom xs fuel i
  | 0, _ => rfl
  | fuel + 1, i => by
      simp only [findLowestIdIn, findLowestIdFrom, idExistsIn_eq h, findLowestIdIn_eq h fuel]

/-- On a well-formed list, `fresh` rounds are enough: the loop in memory finds the lowest free
ID of the view. -/
theorem findLowestIdAvailalbleIn_eq (h : l.Rep xs) :
    findLowestIdAvailalbleIn l = findLowestIdAvailalble xs :=
  (findLowestIdIn_eq h _ 0).trans ((findLowestIdFrom_isLeastUnused h.length_le).unique
    (findLowestIdAvailalble_isLeastUnused xs))

end Walks

/-- The first element passing `p` in `pre ++ y :: post`, when none of `pre` does, is `y`, and
erasing it leaves `pre ++ post`. -/
theorem find?_eraseP_of_first {α : Type} {p : α → Bool} {pre post : List α} {y : α}
    (hy : p y) (hpre : ∀ m ∈ pre, ¬p m) :
    (pre ++ y :: post).find? p = some y ∧ (pre ++ y :: post).eraseP p = pre ++ post := by
  rw [List.find?_append, List.find?_eq_none.2 hpre, List.find?_cons_of_pos _ hy,
    List.eraseP_append_right _ hpre, List.eraseP_cons_of_pos hy]
  exact ⟨rfl, rfl⟩

section Calls

variable {l : DList InvitationNode} {xs : List InvitationNode}

/-- `client_add_invitation` on a well-formed list puts a node with the lowest free ID at the
head. -/
theorem addInvitationNode_ok (h : l.Rep xs) (inv : Nat) :
    addInvitationNode l inv .ok = (((findLowestIdAvailalble xs : Nat) : Int),
      l.insertHead ⟨inv, findLowestIdAvailalble xs⟩) := by
  simp [addInvitationNode, findLowestIdAvailalbleIn_eq h]

/-- `client_remove_invitation` returns the ID of the first node of `inv`, or `-1`, and its
list is the view with that node erased. -/
theorem removeInvitationNode_rep (h : l.Rep xs) (inv : Nat) :
    (removeInvitationNode l inv).1 =
        ((xs.find? (·.invitation == inv)).map fun n => (n.id : Int)).getD (-1) ∧
      (removeInvitationNode l inv).2.Rep (xs.eraseP (·.invitation == inv)) := by
  obtain ⟨h1, h2⟩ := h.remove (·.invitation == inv)
  rw [removeInvitationNode, ← h1]
  rcases hr : l.remove (·.invitation == inv) with ⟨_ | n, l'⟩ <;> rw [hr] at h2 <;>
    exact ⟨rfl, h2⟩

/-- A call not finding `inv` returns `-1` and leaves the list as it was. -/
theorem removeInvitationNode_none (h : l.Rep xs) {inv : Nat}
    (hnone : ∀ m ∈ xs, m.invitation ≠ inv) : removeInvitationNode l inv = (-1, l) := by
  have hf : xs.find? (·.invitation == inv) = none :=
    List.find?_eq_none.2 fun m hm => by simpa using hnone m hm
  rw [removeInvitationNode, h.remove_none hf]

end Calls

/-- Each call on a well-formed list refines the call on its view: same result, and the list
in memory stays well formed with the new view. -/
theorem invStep_rep {l : DList InvitationNode} {xs : InvitationList} (h : l.Rep xs.nodes) :
    ∀ c, (invStep l c).1 = (xs.step c).1 ∧ (invStep l c).2.Rep (xs.step c).2.nodes
  | .add inv o => by
      by_cases ho : o = .ok
      · subst ho
        rw [invStep, InvitationList.step, addInvitationNode_ok h, if_pos rfl]
        exact ⟨rfl, h.insertHead _⟩
      · rw [invStep, InvitationList.step, addInvitationNode, if_neg ho, if_neg ho]
        exact ⟨rfl, h⟩
  | .remove inv => by
      obtain ⟨h1, h2⟩ := removeInvitationNode_rep h inv
      rw [invStep, InvitationList.step, h1, InvitationList.findByInvitation]
      cases hf : xs.nodes.find? (·.invitation == inv) with
      | none =>
          rw [List.eraseP_of_forall_not fun y hy => List.find?_eq_none.1 hf y hy] at h2
          exact ⟨rfl, h2⟩
      | some n => exact ⟨rfl, h2⟩

/-- Every sequence of calls from a well-formed list keeps it well formed, with the view that
the same calls give the `World`'s list. -/
theorem invRun_rep {l : DList InvitationNode} {xs : InvitationList} (h : l.Rep xs.nodes)
    (calls : List ListCall) : (invRun l calls).Rep (xs.run calls).nodes := by
  induction calls generalizing l xs with
  | nil => exact h
  | cons c calls ih => exact ih (invStep_rep h c).2

/-- A client's invitation list under `client_add_invitation` and `client_remove_invitation`:
from a well-formed list with distinct IDs, after any sequence of calls, the list is well
formed with distinct IDs; `find_lowest_id_availalble` ends on every list at the least unused
ID, which is at most the length, and the next `client_add_invitation` gives its new head node
that ID; `client_remove_invitation(inv)` unlinks exactly the first node of `inv` and returns
its ID, or returns `-1` and leaves the list as it was when no node holds `inv`. -/
theorem invitation_list_calls (l : DList InvitationNode) (xs : List InvitationNode)
    (h : l.Rep xs) (hids : (xs.map (·.id)).Nodup) (calls : List ListCall) :
    (∀ nodes : List InvitationNode, IsLeastUnused nodes (findLowestIdAvailalbleLoop nodes) ∧
      findLowestIdAvailalbleLoop nodes ≤ nodes.length) ∧
    let l' := invRun l calls
    ∃ ys : List InvitationNode, l'.Rep ys ∧ (ys.map (·.id)).Nodup ∧
      (∀ inv, (addInvitationNode l' inv .ok).1 = findLowestIdAvailalbleLoop ys ∧
        (addInvitationNode l' inv .ok).2.Rep (⟨inv, findLowestIdAvailalbleLoop ys⟩ :: ys)) ∧
      (∀ inv pre n post, ys = pre ++ n :: post → n.invitation = inv →
        (∀ m ∈ pre, m.invitation ≠ inv) →
        (removeInvitationNode l' inv).1 = n.id ∧
          (removeInvitationNode l' inv).2.Rep (pre ++ post)) ∧
      (∀ inv, (∀ m ∈ ys, m.invitation ≠ inv) → removeInvitationNode l' inv = (-1, l')) := by
  refine ⟨fun nodes => ?_, ?_⟩
  · rw [findLowestIdAvailalbleLoop_eq]
    exact ⟨findLowestIdAvailalble_isLeastUnused nodes, findLowestIdAvailalble_le nodes⟩
  · intro l'
    let ys := InvitationList.run ⟨xs, hids⟩ calls
    have hr : l'.Rep ys.nodes := invRun_rep h calls
    refine ⟨ys.nodes, hr, ys.ids_nodup, fun inv => ?_, fun inv pre n post hys hn hpre => ?_,
      fun inv hnone => removeInvitationNode_none hr hnone⟩
    · rw [addInvitationNode_ok hr, findLowestIdAvailalbleLoop_eq]
      exact ⟨rfl, hr.insertHead _⟩
    · obtain ⟨h1, h2⟩ := removeInvitationNode_rep hr inv
      obtain ⟨hf, he⟩ := @find?_eraseP_of_first _ (·.invitation == inv) pre post n
        (by simpa using hn) fun m hm => by simpa using hpre m hm
      rw [hys, hf] at h1
      rw [hys, he] at h2
      exact ⟨h1, h2⟩

/-- A new client's empty list, then two invitations added and the first removed. -/
theorem invitation_list_calls_new_client :
    (DList.empty : DList InvitationNode).Rep [] ∧ (([] : List InvitationNode).map (·.id)).Nodup ∧
    (∀ nodes : List InvitationNode, IsLeastUnused nodes (findLowestIdAvailalbleLoop nodes) ∧
      findLowestIdAvailalbleLoop nodes ≤ nodes.length) ∧
    let l' := invRun .empty [.add 3 .ok, .add 5 .ok, .remove 3]
    ∃ ys : List InvitationNode, l'.Rep ys ∧ (ys.map (·.id)).Nodup ∧
      (∀ inv, (addInvitationNode l' inv .ok).1 = findLowestIdAvailalbleLoop ys ∧
        (addInvitationNode l' inv .ok).2.Rep (⟨inv, findLowestIdAvailalbleLoop ys⟩ :: ys)) ∧
      (∀ inv pre n post, ys = pre ++ n :: post → n.invitation = inv →
        (∀ m ∈ pre, m.invitation ≠ inv) →
        (removeInvitationNode l' inv).1 = n.id ∧
          (removeInvitationNode l' inv).2.Rep (pre ++ post)) ∧
      (∀ inv, (∀ m ∈ ys, m.invitation ≠ inv) → removeInvitationNode l' inv = (-1, l')) :=
  ⟨Rep.empty, List.nodup_nil,
    invitation_list_calls .empty [] Rep.empty List.nodup_nil [.add 3 .ok, .add 5 .ok, .remove 3]⟩

end JeuxServer
