import JeuxServer.Server.Accounting
import JeuxServer.Server.Links

/-!
# The client registry's nodes in memory

`client_registry.c` keeps its clients in a doubly-linked list of `CLIENT_NODE`s, beside a
`client_count` that it maintains on its own. `insert_client` puts a node at the head and
increments the count. `remove_client` walks from the head to the first node whose client is
the one given, unlinks and frees it, and decrements the count only when it found one.
`fd_already_used` walks the same list and reads each client's descriptor.

`cregRegisterNodes` and `cregUnregisterNodes` are `creg_register` and `creg_unregister` on the
list and the count, with the `CLIENT` objects in the `World`. On a list that holds the
`World`'s registry, each does to the list and the count what `World.cregRegister` and
`World.cregUnregister` do to the registry and `client_count` (`cregRegisterNodes_hold`,
`cregUnregisterNodes_hold`). A run of the server changes the registry only where a connection
starts or ends. So the list and the count, driven by the same events, hold the server's
registry along every run, and the count is the number of nodes (`Server.runNodes_hold`).
-/

set_option autoImplicit false

namespace JeuxServer

open DList

/-- `fd_already_used(cr, fd)`, as a test: the walk from the head finds a node whose client's
descriptor, as `client_get_fd` reads it, is `fd`. -/
def fdAlreadyUsedNodes (l : DList Nat) (w : World) (fd : Nat) : Bool :=
  (seek l.nodes (fun c => (w.clients c).map (·.fd) == some fd) l.fresh l.head).isSome

/-- `insert_client`: a node for the client at the head, and the count incremented. The node's
`malloc` is not checked. -/
def insertClient (l : DList Nat) (count c : Nat) : DList Nat × Nat :=
  (l.insertHead c, count + 1)

/-- `remove_client`: the walk from the head stops at the first node whose client is `c`, which
is unlinked and freed, and the count is decremented; when no node holds `c`, nothing
changes. -/
def removeClient (l : DList Nat) (count c : Nat) : DList Nat × Nat :=
  match l.remove (· == c) with
  | (some _, l') => (l', count - 1)
  | (none, l') => (l', count)

/-- `creg_register(cr, fd)` on the list and the count. The `CLIENT` is the one `client_create`
allocates in the `World`. -/
def cregRegisterNodes (l : DList Nat) (count : Nat) (w : World) (fd : Nat) : DList Nat × Nat :=
  if fdAlreadyUsedNodes l w fd ∨ maxClients ≤ count then (l, count)
  else
    match w.alloc.1 with
    | some c => insertClient l count c
    | none => (l, count)

/-- `creg_unregister(cr, client)` on the list and the count: nothing changes when the client's
descriptor is on no node, and otherwise `remove_client` runs. -/
def cregUnregisterNodes (l : DList Nat) (count : Nat) (w : World) (c : Nat) : DList Nat × Nat :=
  match w.clients c with
  | none => (l, count)
  | some cl => if !fdAlreadyUsedNodes l w cl.fd then (l, count) else removeClient l count c

/-- The list and the count hold the registry and `client_count` of the `World`. -/
def NodesHold (ln : DList Nat × Nat) (w : World) : Prop :=
  ln.1.Rep w.registry ∧ ln.2 = w.clientCount

namespace World

theorem clientUnref_registry (w : World) (c : Nat) :
    (w.clientUnref c).registry = w.registry ∧ (w.clientUnref c).clientCount = w.clientCount := by
  unfold clientUnref
  split
  · exact ⟨rfl, rfl⟩
  · split
    · have hk := heapKept_playerUnref (w.setClient c none) ‹Client›.player
      exact ⟨hk.registry, hk.clientCount⟩
    · exact ⟨rfl, rfl⟩

end World

variable {l : DList Nat} {n : Nat} {w : World}

/-- On a list holding the registry, the walk of `fd_already_used` answers as the registry
does. -/
theorem fdAlreadyUsedNodes_eq (h : l.Rep w.registry) (fd : Nat) :
    fdAlreadyUsedNodes l w fd = w.fdAlreadyUsed fd :=
  h.seek_isSome _

/-- `creg_register` on the nodes does what `World.cregRegister` does to the registry. -/
theorem cregRegisterNodes_hold (h : NodesHold (l, n) w) (fd : Nat) :
    NodesHold (cregRegisterNodes l n w fd) (w.cregRegister fd).2 := by
  obtain ⟨hl, rfl⟩ := h
  unfold cregRegisterNodes World.cregRegister
  rw [fdAlreadyUsedNodes_eq hl]
  split_ifs
  · exact ⟨hl, rfl⟩
  · have hr := (World.heapKept_attempt w).registry
    have hn := (World.heapKept_attempt w).clientCount
    rcases hA : w.alloc with ⟨_ | c, w1⟩
    · obtain rfl : w1 = w.attempt.2 := by
        unfold World.alloc at hA; split at hA <;> simp_all [World.pair_eq_iff]
      exact ⟨hr ▸ hl, hn.symm⟩
    · obtain ⟨rfl, rfl⟩ := World.alloc_some hA
      exact ⟨by simpa [World.setClient, hr] using hl.insertHead _,
        by simp [World.setClient, hn, insertClient]⟩

/-- The registry and count after `creg_unregister`'s last steps: `client_unref` and the
barrier's `V` change neither. -/
theorem World.cregUnregister_tail (v : World) (c : Nat) :
    let v' := v.clientUnref c
    let v'' := if v'.clientCount = 0 ∧ v'.pFlag = true then { v' with semaphore := v'.semaphore + 1 }
      else v'
    v''.registry = v.registry ∧ v''.clientCount = v.clientCount := by
  dsimp only
  split_ifs <;> exact World.clientUnref_registry v c

/-- `creg_unregister` on the nodes does what `World.cregUnregister` does to the registry. -/
theorem cregUnregisterNodes_hold (h : NodesHold (l, n) w) (c : Nat) :
    NodesHold (cregUnregisterNodes l n w c) (w.cregUnregister c).2 := by
  obtain ⟨hl, rfl⟩ := h
  unfold cregUnregisterNodes World.cregUnregister
  rcases w.clients c with _ | cl
  · exact ⟨hl, rfl⟩
  · dsimp only
    rw [fdAlreadyUsedNodes_eq hl]
    by_cases hfd : (!w.fdAlreadyUsed cl.fd) = true
    · rw [if_pos hfd, if_pos hfd]; exact ⟨hl, rfl⟩
    · rw [if_neg hfd, if_neg hfd]
      obtain ⟨hr1, hr2⟩ := hl.remove (· == c)
      unfold removeClient
      rcases hR : l.remove (· == c) with ⟨_ | x, l'⟩ <;> rw [hR] at hr1 hr2 <;> dsimp only at hr1 hr2 ⊢
      · have hc : c ∉ w.registry := fun hc => by
          simpa using List.find?_eq_none.1 hr1.symm c hc
        rw [if_neg hc]
        obtain ⟨e1, e2⟩ := World.cregUnregister_tail w c
        rw [List.eraseP_of_forall_not fun y hy => List.find?_eq_none.1 hr1.symm y hy] at hr2
        exact ⟨e1 ▸ hr2, e2.symm⟩
      · have hx := List.find?_some hr1.symm
        simp only [beq_iff_eq] at hx
        subst hx
        rw [if_pos (List.mem_of_find?_eq_some hr1.symm)]
        obtain ⟨e1, e2⟩ := World.cregUnregister_tail
          { w with registry := w.registry.erase x, clientCount := w.clientCount - 1 } x
        exact ⟨e1 ▸ (List.erase_eq_eraseP' x w.registry ▸ hr2), e2.symm⟩

namespace Server

/-- What an event does to the registry's list and count: `creg_register` when a connection
starts, nothing while a packet is handled, and `creg_unregister`, after `client_logout`, when
a connection ends. -/
def stepNodes (S : Server) (ln : DList Nat × Nat) : Event → DList Nat × Nat
  | .connect fd => cregRegisterNodes ln.1 ln.2 S.world fd
  | .packet _ _ => ln
  | .hangup k =>
      match S.sessions[k]? with
      | some s => cregUnregisterNodes ln.1 ln.2 (S.world.clientLogout s.client).2 s.client
      | none => ln

/-- The list and the count along a run of the server. -/
def runNodes (S : Server) (ln : DList Nat × Nat) : List Event → DList Nat × Nat
  | [] => ln
  | e :: es => (S.step e).runNodes (S.stepNodes ln e) es

/-- The step lemma: from a safe state, each event leaves the list and the count holding the
registry. -/
theorem Safe.stepNodes {S : Server} (h : Safe S) {ln : DList Nat × Nat}
    (hn : NodesHold ln S.world) (e : Event) : NodesHold (S.stepNodes ln e) (S.step e).world := by
  obtain ⟨l, n⟩ := ln
  cases e with
  | connect fd =>
      have hr := cregRegisterNodes_hold hn fd
      simp only [Server.stepNodes, Server.step]
      split <;> rename_i heq <;> rw [heq] at hr <;> exact hr
  | packet k pkt =>
      simp only [Server.stepNodes, Server.step]
      rcases hk : S.sessions[k]? with _ | s
      · exact hn
      · have ha := h.accounted.jeuxClientService (h.mem hk) pkt
        exact ⟨ha.registry ▸ hn.1, hn.2.trans (h.accounted.clientCount.trans ha.clientCount.symm)⟩
  | hangup k =>
      simp only [Server.stepNodes, Server.step]
      rcases hk : S.sessions[k]? with _ | s
      · exact hn
      · have ha := h.accounted.clientLogout s.client
        exact cregUnregisterNodes_hold ⟨ha.registry ▸ hn.1,
          hn.2.trans (h.accounted.clientCount.trans ha.clientCount.symm)⟩ s.client

/-- The run lemma. -/
theorem Safe.runNodes {S : Server} (h : Safe S) {ln : DList Nat × Nat}
    (hn : NodesHold ln S.world) : ∀ es, NodesHold (S.runNodes ln es) (S.run es).world
  | [] => hn
  | e :: es => (h.step e).runNodes (h.stepNodes hn e) es

/-- Along every run of the server's events, the `CLIENT_NODE` list and `client_count` of
`client_registry.c`, driven by the same events from an empty registry, hold the server's
registry: the list is well formed, its nodes hold the registered clients in order, and
`client_count` is the number of its nodes. -/
theorem runNodes_hold (os : List Outcome) (es : List Event) :
    ((init os).runNodes (.empty, 0) es).1.Rep ((init os).run es).world.registry ∧
      ((init os).runNodes (.empty, 0) es).2 = ((init os).run es).world.registry.length := by
  have h := (safe_init os).runNodes
    (show NodesHold (.empty, 0) (init os).world from ⟨Rep.empty, rfl⟩) es
  exact ⟨h.1, h.2.trans ((safe_init os).run es).accounted.clientCount⟩

end Server

end JeuxServer
