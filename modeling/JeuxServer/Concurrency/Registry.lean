import JeuxServer.Concurrency.Objects
import JeuxServer.Server.Shutdown

/-!
# Registering and unregistering clients, with the registry's mutex

`creg_register` and `creg_unregister` work under the client registry's mutex. Every return
of `creg_register` releases it. `creg_unregister` returns `-1` without releasing it when the
client's descriptor is not registered, which happens when a client is unregistered twice, as
`creg_shutdown_all` and the client's own thread do at shutdown. The mutex is then held by a
thread that has returned: no registration, unregistration, lookup or snapshot of the registry
can take place any more (`unregister_keeps_registry_lock`).

`creg_unregister` also tests the client's descriptor, not the client: a client no longer
registered whose descriptor a new client now has is "unregistered" again with result `0`, the
registry unchanged and a reference it does not hold released.
-/

set_option autoImplicit false

namespace JeuxServer

namespace Prog

/-- `creg_register(cr, fd)`: the check, `client_create` and `insert_client`, under the
registry's lock, which every return releases. -/
def cregRegisterP (fd : Nat) (k : Option Nat → Prog) : Prog :=
  lock .registry <| act (fun w => (w.cregRegister fd).2) fun w =>
  unlock .registry (k (w.cregRegister fd).1)

/-- `creg_unregister(cr, client)`: `-1` for a `NULL` client; then, under the registry's lock,
`-1` when the client's descriptor is not registered, the lock still held; otherwise
`remove_client`, `client_unref`, the barrier's `V` and the unlock, and `0`. -/
def cregUnregisterP (c : Nat) (k : Int → Prog) : Prog :=
  read fun w =>
  match w.clients c with
  | none => k (-1)
  | some cl =>
      lock .registry <| read fun w =>
      if !w.fdAlreadyUsed cl.fd then k (-1)
      else
        act (fun w => if c ∈ w.registry
          then { w with registry := w.registry.erase c, clientCount := w.clientCount - 1 }
          else w) fun _ =>
        clientUnrefP c <|
        act (fun w => if w.clientCount = 0 ∧ w.pFlag = true
          then { w with semaphore := w.semaphore + 1 } else w) fun _ =>
        unlock .registry (k 0)

variable {w : World}

@[simp] theorem exec_cregRegisterP (fd : Nat) (k : Option Nat → Prog) :
    (cregRegisterP fd k).exec w = (k (w.cregRegister fd).1).exec (w.cregRegister fd).2 := rfl

@[simp] theorem exec_cregUnregisterP (c : Nat) (k : Int → Prog) :
    (cregUnregisterP c k).exec w = (k (w.cregUnregister c).1).exec (w.cregUnregister c).2 := by
  simp only [cregUnregisterP, exec_read, World.cregUnregister]
  cases w.clients c with
  | none => rfl
  | some cl =>
      simp only [exec_lock, exec_read]
      split <;> simp_all

end Prog

/-- Alice's thread, at the end of its stream after `creg_shutdown_all` has unregistered her,
unregisters her client; a new connection registers the descriptor 12. -/
def unregisterAgain : Sys :=
  Sys.start Server.afterShutdown
    [Prog.cregUnregisterP 0 .ret, Prog.cregRegisterP 12 fun c => .ret (if c.isSome then 0 else -1)]

/-- Alice's second `creg_unregister` returns `-1` holding the registry's mutex: whatever the
schedule, the mutex stays held and the registration waits for it forever. And a client no
longer registered whose descriptor a new client has is unregistered with result `0`: the
registry is unchanged and the client's count drops to zero. -/
theorem unregister_keeps_registry_lock :
    (∃ S1, unregisterAgain.run [0, 0, 0] = some S1 ∧ S1.result 0 = some (-1) ∧
      (S1.threads[1]?).bind Prog.waitingOn = some .registry ∧
      ∀ us S2, S1.run us = some S2 → S2.holder .registry = some 0 ∧ S2.result 1 = none) ∧
    let w := (((World.init []).cregRegister 10).2.clientRef 0).cregUnregister 0 |>.2
    (w.cregRegister 10).1 = some 1 ∧ ((w.cregRegister 10).2.cregUnregister 0).1 = 0 ∧
      ((w.cregRegister 10).2.cregUnregister 0).2.registry = [1] ∧
      (((w.cregRegister 10).2.cregUnregister 0).2.clients 0).isNone := by
  refine ⟨?_, by decide⟩
  obtain ⟨S1, hS, hr, hh, hw⟩ : ∃ S1 ∈ unregisterAgain.run [0, 0, 0], S1.result 0 = some (-1) ∧
      S1.holder .registry = some 0 ∧ (S1.threads[1]?).bind Prog.waitingOn = some .registry := by
    decide
  have ho : S1.Orphaned .registry 0 := ⟨hh, -1, Sys.result_eq_some.1 hr⟩
  refine ⟨S1, hS, hr, hw, fun us S2 h2 => ?_⟩
  obtain ⟨⟨hh2, -⟩, ht⟩ := ho.run hw h2
  exact ⟨hh2, Sys.result_none_of_waiting (by rw [ht]; exact hw)⟩

end JeuxServer
