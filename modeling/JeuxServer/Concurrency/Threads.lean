import JeuxServer.Server.Service

/-!
# Threads and mutexes

The server runs one `jeux_client_service` thread per connection. The threads share the
objects of the `World`, each guarded by one of the mutexes of `Mutex`. A thread is a
`Prog`: what it has left to run, cut at its lock operations. A `Prog.act` is a block of code
with no lock operation in it, run atomically; its continuation is chosen from the world the
block saw, which is how the block's reads reach the code after it.

A `Sys` holds the world, the holder of each mutex, and every thread's program.
`Sys.step` runs one lock operation of one thread, or its next run of blocks. Locking a held
mutex, or unlocking one the thread does not hold, is not enabled. A schedule, a list of
thread indices, is therefore an interleaving at the granularity of the code between lock
acquisitions and releases (`Sys.run`).

`Prog.exec` is a program's meaning when it runs alone, with its lock operations doing
nothing. A thread that takes steps alone keeps the `exec` of its program
(`Sys.exec_step_self`), so what it returns is what `exec` says (`Sys.run_solo_exec`), and a
schedule that runs whole threads one after another computes them in that order
(`Sys.run_serial`).
`Concurrency/Operations.lean` writes the operations of `client.c` as programs and proves
that `exec` of each is the function of `Server/Client.lean`.

`Sys.Deadlocked` is the state of a set of threads each waiting to lock a mutex held by another
thread of the set. Such threads never step again, whatever the other threads do
(`Sys.Deadlocked.run`). A mutex held by a thread that has returned is `Sys.Orphaned`: it stays
held, and a thread waiting for it never steps again (`Sys.Orphaned.run`).
-/

set_option autoImplicit false

namespace JeuxServer

/-- The mutexes of the server: the client registry's, the player registry's, and those of
each CLIENT, INVITATION, GAME (the game of invitation `i` is `game i`) and PLAYER. -/
inductive Mutex where
  | registry
  | playerRegistry
  | client (c : Nat)
  | invitation (i : Nat)
  | game (i : Nat)
  | player (p : Nat)
  deriving DecidableEq, Repr

/-- What a thread has left to run: return a result, lock or unlock a mutex, or run a block of
code between lock operations, whose continuation is chosen from the world the block saw. -/
inductive Prog where
  | ret (r : Int)
  | lock (m : Mutex) (k : Prog)
  | unlock (m : Mutex) (k : Prog)
  | act (f : World → World) (k : World → Prog)

namespace Prog

/-- A block that only reads the world. -/
def read (k : World → Prog) : Prog := act (fun w => w) k

/-- The result and the world of a program that runs alone. -/
def exec (w : World) : Prog → Int × World
  | ret r => (r, w)
  | lock _ k => exec w k
  | unlock _ k => exec w k
  | act f k => exec (f w) (k w)

/-- A thread's consecutive blocks, up to its next lock operation or its end. -/
def settle (w : World) : Prog → World × Prog
  | act f k => settle (f w) (k w)
  | p => (w, p)

/-- The mutex a thread waits for, when its next step is a lock. -/
def waitingOn : Prog → Option Mutex
  | lock m _ => some m
  | _ => none

/-- The result of a finished thread. -/
def result : Prog → Option Int
  | ret r => some r
  | _ => none

@[simp] theorem exec_ret (w : World) (r : Int) : (ret r).exec w = (r, w) := rfl

@[simp] theorem exec_lock (w : World) (m : Mutex) (k : Prog) : (lock m k).exec w = k.exec w := rfl

@[simp] theorem exec_unlock (w : World) (m : Mutex) (k : Prog) :
    (unlock m k).exec w = k.exec w := rfl

@[simp] theorem exec_act (w : World) (f : World → World) (k : World → Prog) :
    (act f k).exec w = (k w).exec (f w) := rfl

@[simp] theorem exec_read (w : World) (k : World → Prog) : (read k).exec w = (k w).exec w := rfl

/-- Running blocks keeps the meaning. -/
theorem exec_settle (w : World) (p : Prog) : (p.settle w).2.exec (p.settle w).1 = p.exec w := by
  induction p generalizing w with
  | act f k ih => exact ih w (f w)
  | _ => rfl

end Prog

/-- The threads and the state they share: the world, the holder of each mutex, and what each
thread has left to run. -/
structure Sys where
  world : World
  holder : Mutex → Option Nat
  threads : List Prog

namespace Sys

/-- Threads `ps` starting together on the world `w`, no mutex held. -/
def start (w : World) (ps : List Prog) : Sys := ⟨w, fun _ => none, ps⟩

/-- One step of thread `t`: its next lock operation, or its next run of blocks. -/
def step (S : Sys) (t : Nat) : Option Sys :=
  match S.threads[t]? with
  | some (.lock m k) =>
      if S.holder m = none then
        some { S with holder := Function.update S.holder m (some t), threads := S.threads.set t k }
      else none
  | some (.unlock m k) =>
      if S.holder m = some t then
        some { S with holder := Function.update S.holder m none, threads := S.threads.set t k }
      else none
  | some (.act f k) =>
      let r := (Prog.act f k).settle S.world
      some { S with world := r.1, threads := S.threads.set t r.2 }
  | _ => none

/-- A schedule run step by step; `none` when some step is not enabled. -/
def run (S : Sys) : List Nat → Option Sys
  | [] => some S
  | t :: ts => (S.step t).bind fun S' => S'.run ts

/-- The schedule that runs, for each `b` of `blocks` in turn, thread `b.1` for `b.2` steps. -/
def serial (blocks : List (Nat × Nat)) : List Nat :=
  blocks.flatMap fun b => List.replicate b.2 b.1

/-- The result of thread `t`, once it has finished. -/
def result (S : Sys) (t : Nat) : Option Int := (S.threads[t]?).bind Prog.result

/-- The thread that holds the mutex thread `t` waits for. -/
def blockedBy (S : Sys) (t : Nat) : Option Nat :=
  ((S.threads[t]?).bind Prog.waitingOn).bind S.holder

/-- The threads `ts` are deadlocked: each waits for a mutex that another of them holds. -/
def Deadlocked (S : Sys) (ts : List Nat) : Prop :=
  ts ≠ [] ∧ ∀ t ∈ ts, ∃ t' ∈ ts, S.blockedBy t = some t'

instance (S : Sys) (ts : List Nat) : Decidable (S.Deadlocked ts) := by
  unfold Deadlocked; infer_instance

theorem run_append (S : Sys) (ts us : List Nat) :
    S.run (ts ++ us) = (S.run ts).bind fun S' => S'.run us := by
  induction ts generalizing S with
  | nil => rfl
  | cons t ts ih =>
      simp only [List.cons_append, run]
      cases S.step t <;> simp [ih]

/-- A run that goes through starts with an enabled step. -/
theorem run_cons {S S' : Sys} {u : Nat} {us : List Nat} :
    S.run (u :: us) = some S' ↔ ∃ S1, S.step u = some S1 ∧ S1.run us = some S' :=
  Option.bind_eq_some

/-! ## A thread alone -/

/-- Everything a step of thread `t` does: it replaces `t`'s program by one with the same
meaning, changes no other thread, and takes for `t` a free mutex or releases one `t` holds. -/
theorem step_cases {S S' : Sys} {t : Nat} (h : S.step t = some S') :
    ∃ p p', S.threads[t]? = some p ∧ S'.threads = S.threads.set t p' ∧
      p'.exec S'.world = p.exec S.world ∧
      ∀ m, S'.holder m = S.holder m ∨ S.holder m = none ∧ S'.holder m = some t ∨
        S.holder m = some t := by
  unfold step at h
  split at h
  iterate 2
    rename_i m k hp
    split at h <;> simp only [Option.some.injEq, reduceCtorEq] at h
    subst h
    refine ⟨_, k, hp, rfl, rfl, fun m' => ?_⟩
    by_cases e : m' = m
    · subst e; simp_all
    · simp [Function.update_noteq e]
  · rename_i f k hp
    simp only [Option.some.injEq] at h
    subst h
    exact ⟨_, _, hp, rfl, Prog.exec_settle _ _, fun _ => .inl rfl⟩
  · simp at h

/-- What a step of thread `t` does to the world and to `t`'s program: a lock or an unlock
leaves the world and passes to its continuation, and a run of blocks is `Prog.settle`. -/
theorem step_world {S S' : Sys} {t : Nat} (h : S.step t = some S') :
    ∃ p p', S.threads[t]? = some p ∧ S'.threads = S.threads.set t p' ∧
      ((∃ m, p = .lock m p' ∨ p = .unlock m p') ∧ S'.world = S.world ∨
        (∃ f k, p = .act f k) ∧ p.settle S.world = (S'.world, p')) := by
  unfold step at h
  split at h
  iterate 2
    rename_i m k hp
    split at h <;> simp only [Option.some.injEq, reduceCtorEq] at h
    subst h
    exact ⟨_, k, hp, rfl, .inl ⟨⟨m, by simp⟩, rfl⟩⟩
  · rename_i f k hp
    simp only [Option.some.injEq] at h
    subst h
    exact ⟨_, _, hp, rfl, .inr ⟨⟨f, k, rfl⟩, rfl⟩⟩
  · simp at h

/-- A step of thread `t` keeps the meaning of its program. -/
theorem exec_step_self {S S' : Sys} {t : Nat} (h : S.step t = some S') :
    ∃ p p', S.threads[t]? = some p ∧ S'.threads[t]? = some p' ∧
      p'.exec S'.world = p.exec S.world := by
  obtain ⟨p, p', hp, hs, he, -⟩ := step_cases h
  exact ⟨p, p', hp, by simp [hs, (List.getElem?_eq_some_iff.1 hp).1], he⟩

/-- A step of thread `u` leaves every other thread's program as it was. -/
theorem step_other {S S' : Sys} {u t : Nat} (h : S.step u = some S') (hne : u ≠ t) :
    S'.threads[t]? = S.threads[t]? := by
  obtain ⟨_, _, -, hs, -⟩ := step_cases h
  rw [hs, List.getElem?_set_ne hne]

/-- Steps keep the number of threads. -/
theorem run_length {S S' : Sys} {us : List Nat} (h : S.run us = some S') :
    S'.threads.length = S.threads.length := by
  induction us generalizing S with
  | nil =>
      simp only [run, Option.some.injEq] at h
      rw [h]
  | cons u us ih =>
      obtain ⟨S1, hs, h⟩ := run_cons.1 h
      obtain ⟨_, _, -, hs1, -⟩ := step_cases hs
      rw [ih h, hs1, List.length_set]

/-- Steps of threads other than `t` leave thread `t`'s program as it was. -/
theorem run_not_mem {S S' : Sys} {t : Nat} {us : List Nat} (h : S.run us = some S')
    (ht : t ∉ us) : S'.threads[t]? = S.threads[t]? := by
  induction us generalizing S with
  | nil =>
      simp only [run, Option.some.injEq] at h
      rw [h]
  | cons u us ih =>
      obtain ⟨S1, hs, h⟩ := run_cons.1 h
      rw [ih h fun hm => ht (List.mem_cons_of_mem u hm),
        step_other hs fun e => ht (List.mem_cons.2 (.inl e.symm))]

/-- A thread has finished with `r` when its program is `ret r`. -/
theorem result_eq_some {S : Sys} {t : Nat} {r : Int} :
    S.result t = some r ↔ S.threads[t]? = some (.ret r) := by
  unfold result
  cases S.threads[t]? with
  | none => simp
  | some p => cases p <;> simp [Prog.result]

/-- A thread that runs alone to its end returns what `exec` says, and leaves the world `exec`
gives. -/
theorem run_solo_exec {S S' : Sys} {t : Nat} {p : Prog} {r : Int} (n : Nat)
    (hp : S.threads[t]? = some p) (h : S.run (List.replicate n t) = some S')
    (hr : S'.threads[t]? = some (.ret r)) : p.exec S.world = (r, S'.world) := by
  induction n generalizing S p with
  | zero =>
      simp only [List.replicate, run, Option.some.injEq] at h
      subst h
      rw [hp, Option.some.injEq] at hr
      subst hr
      rfl
  | succ n ih =>
      obtain ⟨S1, hs, h⟩ := run_cons.1 h
      obtain ⟨p0, p1, h0, h1, he⟩ := exec_step_self hs
      rw [hp, Option.some.injEq] at h0
      subst h0
      rw [← he]
      exact ih h1 h

/-- A schedule that runs whole threads one after another, each to its end, computes their
programs in that order, as the sequential model does. `blocks` lists the threads run, each
with its number of steps. -/
theorem run_serial {S S' : Sys} {progs : Nat → Prog} (blocks : List (Nat × Nat))
    (hnd : (blocks.map (·.1)).Nodup) (hp : ∀ b ∈ blocks, S.threads[b.1]? = some (progs b.1))
    (h : S.run (serial blocks) = some S') (hfin : ∀ b ∈ blocks, ∃ r, S'.result b.1 = some r) :
    S'.world = blocks.foldl (fun w b => ((progs b.1).exec w).2) S.world := by
  induction blocks generalizing S with
  | nil =>
      simp only [serial, List.flatMap_nil, run, Option.some.injEq] at h
      rw [← h]; rfl
  | cons b bs ih =>
      obtain ⟨t, n⟩ := b
      simp only [List.map_cons, List.nodup_cons, List.mem_map, not_exists, not_and] at hnd
      rw [serial, List.flatMap_cons, run_append, ← serial] at h
      obtain ⟨S1, h1, h⟩ := Option.bind_eq_some.1 h
      have hrest : t ∉ serial bs := by
        simp only [serial, List.mem_flatMap, List.mem_replicate, not_exists, not_and]
        exact fun b hb _ e => hnd.1 b hb e.symm
      obtain ⟨r, hr⟩ := hfin (t, n) (List.mem_cons_self _ _)
      have hr1 : S1.threads[t]? = some (.ret r) := by
        rw [← run_not_mem h hrest]; exact result_eq_some.1 hr
      rw [List.foldl_cons, run_solo_exec n (hp _ (List.mem_cons_self _ _)) h1 hr1]
      refine ih hnd.2 (fun b hb => ?_) h fun b hb => hfin b (List.mem_cons_of_mem _ hb)
      have hbt : b.1 ∉ List.replicate n t := fun hm => hnd.1 b hb (List.eq_of_mem_replicate hm)
      rw [run_not_mem h1 hbt]
      exact hp b (List.mem_cons_of_mem _ hb)

/-! ## Deadlock -/

/-- A deadlocked thread has no enabled step. -/
theorem Deadlocked.step_none {S : Sys} {ts : List Nat} (h : S.Deadlocked ts) {t : Nat}
    (ht : t ∈ ts) : S.step t = none := by
  obtain ⟨t', -, hb⟩ := h.2 t ht
  unfold blockedBy at hb
  unfold step
  cases hp : S.threads[t]? with
  | none => rfl
  | some p =>
      cases p with
      | lock m k =>
          simp only [hp, Option.some_bind, Prog.waitingOn] at hb
          simp [hb]
      | _ => simp [hp, Prog.waitingOn] at hb

/-- A step by a thread outside a deadlocked set leaves the set deadlocked: its threads keep
their programs, and the mutexes they hold keep their holders. -/
theorem Deadlocked.step {S S' : Sys} {ts : List Nat} (h : S.Deadlocked ts) {u : Nat}
    (hu : S.step u = some S') : S'.Deadlocked ts := by
  have hut : u ∉ ts := fun hu' => by simp [h.step_none hu'] at hu
  have hthreads : ∀ t ∈ ts, S'.threads[t]? = S.threads[t]? :=
    fun t ht => step_other hu fun e => hut (e ▸ ht)
  have hholder : ∀ m t', t' ∈ ts → S.holder m = some t' → S'.holder m = some t' := by
    intro m t' ht' hm
    obtain ⟨_, _, -, -, -, hh⟩ := step_cases hu
    rcases hh m with e | ⟨e, -⟩ | e
    · rw [e, hm]
    · simp [e] at hm
    · cases hm.symm.trans e
      exact absurd ht' hut
  refine ⟨h.1, fun t ht => ?_⟩
  obtain ⟨t', ht', hb⟩ := h.2 t ht
  refine ⟨t', ht', ?_⟩
  unfold blockedBy at hb ⊢
  rw [hthreads t ht]
  cases hw : (S.threads[t]?).bind Prog.waitingOn with
  | none => simp [hw] at hb
  | some m =>
      rw [hw] at hb
      exact hholder m t' ht' hb

/-- A deadlock is for good: whatever the other threads do, the set stays deadlocked, and none
of its threads finishes. -/
theorem Deadlocked.run {S S' : Sys} {ts : List Nat} (h : S.Deadlocked ts) {us : List Nat}
    (hr : S.run us = some S') : S'.Deadlocked ts ∧ ∀ t ∈ ts, S'.result t = none := by
  induction us generalizing S with
  | nil =>
      simp only [Sys.run, Option.some.injEq] at hr
      subst hr
      refine ⟨h, fun t ht => ?_⟩
      obtain ⟨t', -, hb⟩ := h.2 t ht
      unfold blockedBy at hb
      unfold result
      cases hp : S.threads[t]? with
      | none => rfl
      | some p => cases p <;> simp_all [Prog.waitingOn, Prog.result]
  | cons u us ih =>
      obtain ⟨S1, hs, hr⟩ := run_cons.1 hr
      exact ih (h.step hs) hr

/-- A run that reaches a deadlock reaches a state from which the deadlocked threads never
finish. -/
theorem exists_deadlocked_forever {o : Option Sys} {ts : List Nat} {P : Sys → Prop}
    (h : ∃ S ∈ o, P S ∧ S.Deadlocked ts) :
    ∃ S ∈ o, P S ∧ S.Deadlocked ts ∧
      ∀ us S', S.run us = some S' → ∀ t ∈ ts, S'.result t = none := by
  obtain ⟨S, hS, hP, hd⟩ := h
  exact ⟨S, hS, hP, hd, fun _ _ hr => (hd.run hr).2⟩

/-! ## A mutex its holder never releases -/

/-- Mutex `m` is held by thread `t`, which has returned: nothing will release it. -/
def Orphaned (S : Sys) (m : Mutex) (t : Nat) : Prop :=
  S.holder m = some t ∧ ∃ r, S.threads[t]? = some (.ret r)

/-- A thread whose next step locks an orphaned mutex has no enabled step. -/
theorem Orphaned.step_none {S : Sys} {m : Mutex} {t u : Nat} (h : S.Orphaned m t)
    (hu : (S.threads[u]?).bind Prog.waitingOn = some m) : S.step u = none := by
  unfold step
  cases hp : S.threads[u]? with
  | none => rfl
  | some p =>
      cases p with
      | lock m' k =>
          simp only [hp, Option.some_bind, Prog.waitingOn, Option.some.injEq] at hu
          subst hu
          simp [h.1]
      | _ => simp [hp, Prog.waitingOn] at hu

/-- Every step keeps an orphaned mutex orphaned, and every thread waiting for it waiting. -/
theorem Orphaned.step {S S' : Sys} {m : Mutex} {t u : Nat} (h : S.Orphaned m t)
    (hs : S.step u = some S') :
    S'.Orphaned m t ∧ ∀ v : Nat, (S.threads[v]?).bind Prog.waitingOn = some m →
      S'.threads[v]? = S.threads[v]? := by
  obtain ⟨hh, r, hr⟩ := h
  have hut : u ≠ t := by
    rintro rfl
    unfold Sys.step at hs
    simp [hr] at hs
  obtain ⟨_, _, -, -, -, hm⟩ := step_cases hs
  refine ⟨⟨?_, r, by rw [step_other hs hut]; exact hr⟩, fun v hv => step_other hs ?_⟩
  · rcases hm m with e | ⟨e, -⟩ | e
    · rw [e, hh]
    · simp [e] at hh
    · exact absurd (Option.some.inj (hh.symm.trans e)) (Ne.symm hut)
  · rintro rfl
    simp [Orphaned.step_none ⟨hh, r, hr⟩ hv] at hs

/-- Whatever the schedule, an orphaned mutex stays held by its returned thread, and a thread
waiting for it neither steps nor finishes. -/
theorem Orphaned.run {S S' : Sys} {m : Mutex} {t u : Nat} (h : S.Orphaned m t)
    (hu : (S.threads[u]?).bind Prog.waitingOn = some m) {us : List Nat}
    (hr : S.run us = some S') : S'.Orphaned m t ∧ S'.threads[u]? = S.threads[u]? := by
  induction us generalizing S with
  | nil =>
      simp only [Sys.run, Option.some.injEq] at hr
      subst hr
      exact ⟨h, rfl⟩
  | cons v us ih =>
      obtain ⟨S1, hs, hr⟩ := run_cons.1 hr
      obtain ⟨h1, hw⟩ := h.step hs
      have hu1 := hw u hu
      obtain ⟨h2, e⟩ := ih h1 (by rw [hu1]; exact hu) hr
      exact ⟨h2, e.trans hu1⟩

/-- A thread waiting for a mutex has not finished. -/
theorem result_none_of_waiting {S : Sys} {u : Nat} {m : Mutex}
    (hu : (S.threads[u]?).bind Prog.waitingOn = some m) : S.result u = none := by
  unfold result
  cases hp : S.threads[u]? with
  | none => rfl
  | some p => cases p <;> simp_all [Prog.waitingOn, Prog.result]

end Sys

end JeuxServer
