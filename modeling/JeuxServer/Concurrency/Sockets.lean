import JeuxServer.Protocol.Codec
import Mathlib.Data.List.Basic

/-!
# The bytes on a client's socket

`client_send_packet` takes the client's lock and calls `proto_send_packet`, which writes the
header image with one `rio_writen` and then the payload with another; the other threads may
run between any two bytes of a `rio_writen`. `proto_send_packet` is the only code that writes
to a socket, and `client_send_packet` its only caller.

A `Wire` is what a thread has left to do as the sockets see it: take or release a client's
lock, or write one byte to a client's socket, a write that fails once the connection is broken
(a broken pipe stays broken). `Wire.Outside` is a thread whose writes all go through
`client_send_packet`. `Sockets.step` runs one lock operation or one byte of one thread, or
breaks a connection, so `Sockets.run` is any interleaving at the granularity of single bytes.

The bytes written to a client's socket are complete frames, each a header image followed by
as many payload bytes as its size field announces, and after them at most part of one more
frame: the part written so far by the thread inside `client_send_packet` on that client,
which holds the client's lock and whose bytes still to write complete that frame, or, once the
connection is broken, the part written before the failure, after which nothing more is written
in any continuation of the run (`sockets_frames`). A connection broken
between a header and its payload leaves the header alone at the end of the stream
(`brokenPayload_cuts_frame`).
-/

set_option autoImplicit false

namespace JeuxServer

/-- What a thread has left to do, as the sockets see it: take or release client `c`'s lock, or
write byte `b` to client `c`'s socket, going on with `ok`, or with `fail` when the connection
is broken. -/
inductive Wire where
  | done
  | lock (c : Nat) (k : Wire)
  | unlock (c : Nat) (k : Wire)
  | put (c : Nat) (b : UInt8) (ok fail : Wire)
  deriving DecidableEq, Repr

namespace Wire

/-- `rio_writen(fd, buf, n)` on client `c`'s socket. Modelled from the spec: `csapp.c` is not
under `src/`. The bytes go out one after the other, other threads running between them; a write
that fails, the connection being broken, ends it, returning `-1`. -/
def rioWriten (c : Nat) : List UInt8 → Wire → Wire → Wire
  | [], ok, _ => ok
  | b :: bs, ok, fail => put c b (rioWriten c bs ok fail) fail

/-- `proto_send_packet(fd, hdr, data)` on client `c`'s socket, with the clock reading `sec`,
`nsec`; the continuation receives the return value. -/
def protoSendPacketW (c : Nat) (hdr : JeuxPacketHeader) (data : Option (List UInt8))
    (sec nsec : Nat) (k : Int → Wire) : Wire :=
  let payloadSize := (htons hdr.size).toNat
  if (payloadSize = 0 ∧ data.isSome) ∨ (payloadSize ≠ 0 ∧ data.isNone) then k (-1)
  else
    let hdr := { hdr with timestampSec := htonl (UInt32.ofNat sec),
                          timestampNsec := htonl (UInt32.ofNat nsec) }
    rioWriten c (headerBytes hdr)
      (if 0 < payloadSize ∧ data.isSome then
        rioWriten c ((data.getD []).take payloadSize) (k 0) (k (-1))
      else k 0)
      (k (-1))

/-- `client_send_packet(client, pkt, data)`: `proto_send_packet` under the client's lock. -/
def clientSendPacketW (c : Nat) (hdr : JeuxPacketHeader) (data : Option (List UInt8))
    (sec nsec : Nat) (k : Int → Wire) : Wire :=
  lock c <| protoSendPacketW c hdr data sec nsec fun r => unlock c (k r)

/-- A thread outside `client_send_packet` that writes only through it: besides its sends it
takes and releases client locks. Each send's buffer holds the payload its header announces. -/
inductive Outside : Wire → Prop
  | done : Outside done
  | lock (c : Nat) {k : Wire} : Outside k → Outside (lock c k)
  | unlock (c : Nat) {k : Wire} : Outside k → Outside (unlock c k)
  | send (c : Nat) {hdr : JeuxPacketHeader} {data : Option (List UInt8)} (sec nsec : Nat)
      {k : Int → Wire} (hdata : ∀ d, data = some d → (htons hdr.size).toNat ≤ d.length) :
      (∀ r, Outside (k r)) → Outside (clientSendPacketW c hdr data sec nsec k)

/-- A thread inside `client_send_packet` on client `c`, with the bytes `rest` of its frame
still to write; it then releases the lock and goes on outside. -/
def Writing (c : Nat) (rest : List UInt8) (p : Wire) : Prop :=
  rest ≠ [] ∧ ∃ k : Int → Wire, (∀ r, Outside (k r)) ∧
    p = rioWriten c rest (unlock c (k 0)) (unlock c (k (-1)))

/-! ## What a send writes -/

theorem rioWriten_append (c : Nat) (xs ys : List UInt8) (ok fail : Wire) :
    rioWriten c (xs ++ ys) ok fail = rioWriten c xs (rioWriten c ys ok fail) fail := by
  induction xs with
  | nil => rfl
  | cons x xs ih => simp [rioWriten, ih]

/-- `proto_send_packet` writes, in its two `rio_writen` calls, the bytes of the frame
`protoSendPacket` makes, or nothing when it refuses the packet. -/
theorem protoSendPacketW_eq (c : Nat) (hdr : JeuxPacketHeader) (data : Option (List UInt8))
    (sec nsec : Nat) (k : Int → Wire) :
    protoSendPacketW c hdr data sec nsec k =
      if (protoSendPacket hdr data sec nsec).1 = 0 then
        rioWriten c (protoSendPacket hdr data sec nsec).2 (k 0) (k (-1))
      else k (-1) := by
  unfold protoSendPacketW protoSendPacket
  by_cases hv : ((htons hdr.size).toNat = 0 ∧ data.isSome) ∨
      ((htons hdr.size).toNat ≠ 0 ∧ data.isNone)
  · simp only [hv, if_true]
    rfl
  · simp only [hv, if_false, if_true, rioWriten_append]
    by_cases hn : 0 < (htons hdr.size).toNat
    · have hd : data.isSome := by cases data <;> simp_all
      simp [hn, hd]
    · simp [hn, rioWriten]

/-! ## The shape of a thread -/

theorem Outside.not_put {c : Nat} {b : UInt8} {ok fail : Wire} :
    ¬ Outside (Wire.put c b ok fail) := by
  intro h
  cases h

theorem Outside.of_unlock {c : Nat} {k : Wire} (h : Outside (Wire.unlock c k)) : Outside k := by
  cases h
  assumption

/-- A thread inside `client_send_packet` writes its next byte. -/
theorem Writing.eq_put {c : Nat} {rest : List UInt8} {p : Wire} (h : Writing c rest p) :
    ∃ (b : UInt8) (rest' : List UInt8) (k : Int → Wire), rest = b :: rest' ∧ (∀ r, Outside (k r)) ∧
      p = put c b (rioWriten c rest' (unlock c (k 0)) (unlock c (k (-1)))) (unlock c (k (-1))) := by
  obtain ⟨hne, k, hk, rfl⟩ := h
  cases rest with
  | nil => exact absurd rfl hne
  | cons b rest' => exact ⟨b, rest', k, rfl, hk, rfl⟩

theorem Writing.not_outside {c : Nat} {rest : List UInt8} {p : Wire} (h : Writing c rest p) :
    ¬ Outside p := by
  obtain ⟨_, _, _, _, _, rfl⟩ := h.eq_put
  exact Outside.not_put

theorem Writing.not_lock {c c' : Nat} {rest : List UInt8} {k : Wire} :
    ¬ Writing c rest (lock c' k) := fun h => by
  obtain ⟨_, _, _, _, _, h⟩ := h.eq_put
  cases h

theorem Writing.not_unlock {c c' : Nat} {rest : List UInt8} {k : Wire} :
    ¬ Writing c rest (unlock c' k) := fun h => by
  obtain ⟨_, _, _, _, _, h⟩ := h.eq_put
  cases h

/-- What is left of a frame, written before the lock's release, is read off the thread. -/
theorem rioWriten_unlock_inj {c : Nat} : ∀ {xs ys : List UInt8} {a a' f f' : Wire},
    rioWriten c xs (unlock c a) f = rioWriten c ys (unlock c a') f' → xs = ys
  | [], [], _, _, _, _, _ => rfl
  | [], _ :: _, _, _, _, _, h => by simp [rioWriten] at h
  | _ :: _, [], _, _, _, _, h => by simp [rioWriten] at h
  | x :: xs, y :: ys, _, _, _, _, h => by
      simp only [rioWriten, put.injEq, true_and] at h
      rw [h.1, rioWriten_unlock_inj h.2.1]

/-- A thread inside `client_send_packet` has one frame's rest left to write. -/
theorem Writing.rest_eq {c : Nat} {rest rest' : List UInt8} {p : Wire} (h : Writing c rest p)
    (h' : Writing c rest' p) : rest = rest' := by
  obtain ⟨-, k, -, rfl⟩ := h
  obtain ⟨-, k', -, e⟩ := h'
  exact rioWriten_unlock_inj e

/-- A thread writes inside one `client_send_packet` at a time. -/
theorem Writing.client_eq {c c' : Nat} {rest rest' : List UInt8} {p : Wire} (h : Writing c rest p)
    (h' : Writing c' rest' p) : c = c' := by
  obtain ⟨_, _, _, _, _, rfl⟩ := h.eq_put
  obtain ⟨_, _, _, _, _, h'⟩ := h'.eq_put
  exact (put.inj h').1

end Wire

/-- A complete frame: a header image followed by as many payload bytes as its size field, in
host order, announces. -/
def IsFrame (f : List UInt8) : Prop :=
  ∃ hdr p, (htons hdr.size).toNat = p.length ∧ f = headerBytes hdr ++ p

/-- A packet `proto_send_packet` accepts, from a buffer holding the payload its header
announces, is sent as one frame. -/
theorem isFrame_protoSendPacket {hdr : JeuxPacketHeader} {data : Option (List UInt8)}
    {sec nsec : Nat} (hdata : ∀ d, data = some d → (htons hdr.size).toNat ≤ d.length)
    (h0 : (protoSendPacket hdr data sec nsec).1 = 0) :
    IsFrame (protoSendPacket hdr data sec nsec).2 := by
  unfold protoSendPacket at h0 ⊢
  dsimp only at h0 ⊢
  split at h0
  · simp at h0
  · rename_i hv
    rw [if_neg hv]
    refine ⟨_, _, ?_, rfl⟩
    split
    · cases data with
      | none => simp_all
      | some d => simp [hdata d rfl]
    · simp only [List.length_nil]; omega

theorem IsFrame.ne_nil {f : List UInt8} (h : IsFrame f) : f ≠ [] := by
  obtain ⟨hdr, p, -, rfl⟩ := h
  simp [headerBytes]

/-- A thread that takes a client's lock is a plain lock operation, or the start of a send whose
whole frame it is about to write. -/
theorem Wire.Outside.after_lock {c : Nat} {k : Wire} (h : Outside (Wire.lock c k)) :
    Outside k ∨ ∃ f, IsFrame f ∧ Writing c f k := by
  cases h with
  | lock _ hk => exact .inl hk
  | send _ sec nsec hdata hk =>
      rw [protoSendPacketW_eq]
      split
      · rename_i h0
        have hf : IsFrame (protoSendPacket _ _ sec nsec).2 := isFrame_protoSendPacket hdata h0
        exact .inr ⟨_, hf, hf.ne_nil, _, hk, rfl⟩
      · exact .inl (.unlock _ (hk _))

/-- The clients' sockets and the threads that write to them: the bytes written to each
client's socket, whether its connection is broken, the holder of each client's lock, and
what each thread has left to do. -/
structure Sockets where
  wire : Nat → List UInt8
  broken : Nat → Bool
  holder : Nat → Option Nat
  threads : List Wire

/-- One step: thread `t`'s next lock operation or byte, or client `c`'s connection breaking. -/
inductive SocketEvent where
  | thread (t : Nat)
  | hangUp (c : Nat)
  deriving DecidableEq, Repr

namespace Sockets

/-- Threads `ps` starting on empty sockets, no lock held, no connection broken. -/
def start (ps : List Wire) : Sockets := ⟨fun _ => [], fun _ => false, fun _ => none, ps⟩

/-- One step; `none` when thread `t` cannot take it: it waits for a held lock, releases one it
does not hold, or has finished. A write is not checked against the locks. -/
def step (S : Sockets) : SocketEvent → Option Sockets
  | .hangUp c => some { S with broken := Function.update S.broken c true }
  | .thread t =>
      match S.threads[t]? with
      | some (.lock c k) =>
          if S.holder c = none then
            some { S with holder := Function.update S.holder c (some t),
                          threads := S.threads.set t k }
          else none
      | some (.unlock c k) =>
          if S.holder c = some t then
            some { S with holder := Function.update S.holder c none, threads := S.threads.set t k }
          else none
      | some (.put c b ok fail) =>
          if S.broken c then some { S with threads := S.threads.set t fail }
          else
            some { S with wire := Function.update S.wire c (S.wire c ++ [b]),
                          threads := S.threads.set t ok }
      | _ => none

/-- A run of steps; `none` when some step cannot be taken. -/
def run (S : Sockets) : List SocketEvent → Option Sockets
  | [] => some S
  | e :: es => (S.step e).bind (·.run es)

/-! ## The invariant -/

/-- Client `c`'s socket holds complete frames `fs`, then the start `pre` of one more. While the
connection works, `pre` is empty or begun by a thread inside `client_send_packet` on `c`, and
each such thread's remaining bytes complete it; once it is broken, `pre` is empty or the start
of a frame. -/
def WireOk (S : Sockets) (c : Nat) : Prop :=
  ∃ (fs : List (List UInt8)) (pre : List UInt8), (∀ f ∈ fs, IsFrame f) ∧
    S.wire c = fs.flatten ++ pre ∧
    (S.broken c = true ∧ (pre = [] ∨ ∃ rest, IsFrame (pre ++ rest)) ∨
      S.broken c = false ∧
        (pre ≠ [] → ∃ (t : Nat) (p : Wire) (rest : List UInt8),
          S.threads[t]? = some p ∧ Wire.Writing c rest p) ∧
        ∀ (t : Nat) (p : Wire), S.threads[t]? = some p → (∃ rest, Wire.Writing c rest p) →
          ∃ rest, Wire.Writing c rest p ∧ IsFrame (pre ++ rest))

/-- Each thread is outside `client_send_packet`, or inside it on a client whose lock it holds;
each socket is as `WireOk` says. -/
structure Inv (S : Sockets) : Prop where
  threads : ∀ (t : Nat) (p : Wire), S.threads[t]? = some p →
    Wire.Outside p ∨ ∃ c rest, Wire.Writing c rest p ∧ S.holder c = some t
  wire : ∀ c, S.WireOk c

theorem Inv.holds {S : Sockets} (hS : S.Inv) {t c : Nat} {p : Wire} {rest : List UInt8}
    (ht : S.threads[t]? = some p) (hw : Wire.Writing c rest p) : S.holder c = some t := by
  rcases hS.threads t p ht with h | ⟨c', rest', hw', hh⟩
  · exact absurd h hw.not_outside
  · rwa [hw.client_eq hw']

/-- `WireOk` depends only on the socket's bytes, whether it is broken, and the threads inside
`client_send_packet` on it. -/
theorem WireOk.congr {S S' : Sockets} {c : Nat} (h : S.WireOk c) (hw : S'.wire c = S.wire c)
    (hb : S'.broken c = S.broken c)
    (hwr : ∀ (t : Nat) (p : Wire), (∃ rest, Wire.Writing c rest p) →
      (S'.threads[t]? = some p ↔ S.threads[t]? = some p)) : S'.WireOk c := by
  obtain ⟨fs, pre, hfs, hwire, hpre⟩ := h
  refine ⟨fs, pre, hfs, hw.trans hwire, ?_⟩
  rw [hb]
  rcases hpre with hbr | ⟨hbr, hne, hall⟩
  · exact .inl hbr
  · refine .inr ⟨hbr, fun hp => ?_, fun t p ht hwp => hall t p ((hwr t p hwp).1 ht) hwp⟩
    obtain ⟨t, p, rest, ht, hwp⟩ := hne hp
    exact ⟨t, p, rest, (hwr t p ⟨rest, hwp⟩).2 ht, hwp⟩

theorem getElem?_set_of {ps : List Wire} {t : Nat} {p : Wire} (ht : ps[t]? = some p) (q : Wire)
    (t' : Nat) : (ps.set t q)[t']? = if t' = t then some q else ps[t']? := by
  split
  · subst_vars
    exact List.getElem?_set_self (List.getElem?_eq_some_iff.1 ht).1
  · exact List.getElem?_set_ne (Ne.symm ‹_›)

/-- Replacing thread `t`'s program, when neither the old nor the new one writes to `c`, leaves
the threads inside `client_send_packet` on `c` as they were. -/
theorem writers_set {ps : List Wire} {t c : Nat} {old new : Wire} (ht : ps[t]? = some old)
    (hold : ∀ rest, ¬ Wire.Writing c rest old) (hnew : ∀ rest, ¬ Wire.Writing c rest new)
    (t' : Nat) (p : Wire) (hp : ∃ rest, Wire.Writing c rest p) :
    (ps.set t new)[t']? = some p ↔ ps[t']? = some p := by
  obtain ⟨rest, hw⟩ := hp
  rw [getElem?_set_of ht]
  split
  · subst_vars
    rw [ht]
    constructor <;> rintro ⟨⟩
    · exact absurd hw (hnew rest)
    · exact absurd hw (hold rest)
  · rfl

/-- After thread `t`'s program is replaced by `new`, a thread writing to `c` runs `new`, when no
other thread was writing to `c`. -/
theorem writer_set {ps : List Wire} {t c : Nat} {old new : Wire} (ht : ps[t]? = some old)
    (hother : ∀ t1 p r, t1 ≠ t → ps[t1]? = some p → ¬ Wire.Writing c r p) {t1 : Nat} {p : Wire}
    {r : List UInt8} (hp : (ps.set t new)[t1]? = some p) (hw : Wire.Writing c r p) : p = new := by
  rw [getElem?_set_of ht] at hp
  split at hp
  · exact (Option.some.inj hp).symm
  · exact absurd hw (hother t1 p r ‹_› hp)

/-! ## One step keeps the invariant -/

section
variable {S : Sockets} (hS : S.Inv)
include hS

/-- Replacing thread `t`'s program by `new` keeps the threads' part of the invariant for the
locks `holder`, when `new` is outside a send or holds the lock it writes under, and the other
threads keep the locks they hold. -/
theorem Inv.threads_set {t : Nat} {old new : Wire} (ht : S.threads[t]? = some old)
    {holder : Nat → Option Nat}
    (hnew : Wire.Outside new ∨ ∃ c rest, Wire.Writing c rest new ∧ holder c = some t)
    (hkeep : ∀ c t', t' ≠ t → S.holder c = some t' → holder c = some t') (t' : Nat) (p : Wire)
    (hp : (S.threads.set t new)[t']? = some p) :
    Wire.Outside p ∨ ∃ c rest, Wire.Writing c rest p ∧ holder c = some t' := by
  rw [getElem?_set_of ht] at hp
  split at hp
  · cases hp
    subst_vars
    exact hnew
  · rcases hS.threads t' p hp with h | ⟨c, rest, hw, hh⟩
    · exact .inl h
    · exact .inr ⟨c, rest, hw, hkeep c t' ‹_› hh⟩

/-- While thread `t` holds client `c`'s lock, it is the only thread writing to `c`. -/
theorem Inv.writer_eq {t t1 c : Nat} {p : Wire} {rest : List UInt8} (hh : S.holder c = some t)
    (hp : S.threads[t1]? = some p) (hw : Wire.Writing c rest p) : t1 = t :=
  Option.some.inj ((hS.holds hp hw).symm.trans hh)

/-- A connection breaking ends the frame being written on it; nothing else changes. -/
theorem Inv.hangUp (c : Nat) : ({ S with broken := Function.update S.broken c true } : Sockets).Inv := by
  refine ⟨hS.threads, fun c' => ?_⟩
  by_cases hc : c' = c
  · subst hc
    obtain ⟨fs, pre, hfs, hw, hpre⟩ := hS.wire c'
    refine ⟨fs, pre, hfs, hw, .inl ⟨by simp, ?_⟩⟩
    rcases hpre with ⟨-, h⟩ | ⟨-, hne, hall⟩
    · exact h
    · by_cases hp : pre = []
      · exact .inl hp
      · obtain ⟨t, p, rest, ht, hwp⟩ := hne hp
        obtain ⟨rest', -, hf⟩ := hall t p ht ⟨rest, hwp⟩
        exact .inr ⟨rest', hf⟩
  · exact (hS.wire c').congr rfl (by simp [Function.update_noteq hc]) fun _ _ _ => Iff.rfl

/-- Taking a free lock: a send that starts then owns the client's socket, whose stream it finds
between frames. -/
theorem Inv.lock {t c : Nat} {k : Wire} (ht : S.threads[t]? = some (.lock c k))
    (hfree : S.holder c = none) :
    ({ S with holder := Function.update S.holder c (some t), threads := S.threads.set t k } :
      Sockets).Inv := by
  have hk : Wire.Outside k ∨ ∃ f, IsFrame f ∧ Wire.Writing c f k := by
    rcases hS.threads t _ ht with h | ⟨_, _, hw, _⟩
    · exact h.after_lock
    · exact absurd hw Wire.Writing.not_lock
  have hnone : ∀ t1 p r, S.threads[t1]? = some p → ¬ Wire.Writing c r p := fun _ _ _ hp hw => by
    rw [hS.holds hp hw] at hfree
    cases hfree
  refine ⟨hS.threads_set ht ?_ fun c' t' _ hh => ?_, fun c' => ?_⟩
  · rcases hk with h | ⟨f, -, hwf⟩
    exacts [.inl h, .inr ⟨c, f, hwf, by simp⟩]
  · have hc : c' ≠ c := fun e => by rw [e, hfree] at hh; cases hh
    exact (Function.update_noteq hc _ _).trans hh
  by_cases hc : c' = c
  · subst hc
    obtain ⟨fs, pre, hfs, hw, hbr | ⟨hbr, hne, -⟩⟩ := hS.wire c'
    · exact ⟨fs, pre, hfs, hw, .inl hbr⟩
    have hpre : pre = [] := by
      by_contra hp
      obtain ⟨t0, p0, rest, hp0, hw0⟩ := hne hp
      exact hnone t0 p0 rest hp0 hw0
    subst hpre
    refine ⟨fs, [], hfs, hw, .inr ⟨hbr, fun h => absurd rfl h, fun t1 p1 hp1 ⟨rest, hw1⟩ => ?_⟩⟩
    cases writer_set ht (fun t1 p r _ => hnone t1 p r) hp1 hw1
    rcases hk with h | ⟨f, hf, hwf⟩
    exacts [absurd h hw1.not_outside, ⟨f, hwf, hf⟩]
  · refine (hS.wire c').congr rfl rfl
      (writers_set ht (fun _ => Wire.Writing.not_lock) fun rest hw => ?_)
    rcases hk with h | ⟨f, -, hwf⟩
    exacts [hw.not_outside h, hc (hw.client_eq hwf)]

/-- Releasing a held lock. -/
theorem Inv.unlock {t c : Nat} {k : Wire} (ht : S.threads[t]? = some (.unlock c k))
    (hheld : S.holder c = some t) :
    ({ S with holder := Function.update S.holder c none, threads := S.threads.set t k } :
      Sockets).Inv := by
  have hk : Wire.Outside k := by
    rcases hS.threads t _ ht with h | ⟨_, _, hw, _⟩
    · exact h.of_unlock
    · exact absurd hw Wire.Writing.not_unlock
  refine ⟨hS.threads_set ht (.inl hk) fun c' t' ht' hh => ?_, fun c' => (hS.wire c').congr rfl rfl
    (writers_set ht (fun _ => Wire.Writing.not_unlock) fun _ hw => hw.not_outside hk)⟩
  have hc : c' ≠ c := fun e => by rw [e, hheld] at hh; cases hh; contradiction
  exact (Function.update_noteq hc _ _).trans hh

/-- A thread writing a byte is inside `client_send_packet` on that byte's client, whose lock it
holds. -/
theorem Inv.put_writing {t c : Nat} {b : UInt8} {ok fail : Wire}
    (ht : S.threads[t]? = some (.put c b ok fail)) :
    ∃ rest, Wire.Writing c rest (.put c b ok fail) ∧ S.holder c = some t := by
  rcases hS.threads t _ ht with h | ⟨c', rest, hw, hh⟩
  · exact absurd h Wire.Outside.not_put
  · obtain ⟨_, _, _, _, _, hput⟩ := hw.eq_put
    cases (Wire.put.inj hput).1
    exact ⟨rest, hw, hh⟩

/-- A write to a broken connection fails: the thread leaves `client_send_packet` and the socket
is unchanged. -/
theorem Inv.putBroken {t c : Nat} {b : UInt8} {ok fail : Wire}
    (ht : S.threads[t]? = some (.put c b ok fail)) (hb : S.broken c = true) :
    ({ S with threads := S.threads.set t fail } : Sockets).Inv := by
  obtain ⟨rest, hw, -⟩ := hS.put_writing ht
  have hfail : Wire.Outside fail := by
    obtain ⟨_, _, k, -, hk, hput⟩ := hw.eq_put
    rw [(Wire.put.inj hput).2.2.2]
    exact .unlock _ (hk _)
  refine ⟨hS.threads_set ht (.inl hfail) fun _ _ _ => id, fun c' => ?_⟩
  by_cases hc : c' = c
  · subst hc
    obtain ⟨fs, pre, hfs, hwire, hbr | ⟨hbr, -⟩⟩ := hS.wire c'
    · exact ⟨fs, pre, hfs, hwire, .inl hbr⟩
    · rw [hb] at hbr
      cases hbr
  · exact (hS.wire c').congr rfl rfl
      (writers_set ht (fun _ hw' => hc (hw'.client_eq hw)) fun _ hw' => hw'.not_outside hfail)

/-- A write to a working connection appends the byte; the frame being written is complete when
its last byte is. -/
theorem Inv.putOk {t c : Nat} {b : UInt8} {ok fail : Wire}
    (ht : S.threads[t]? = some (.put c b ok fail)) (hb : S.broken c = false) :
    ({ S with wire := Function.update S.wire c (S.wire c ++ [b]), threads := S.threads.set t ok } :
      Sockets).Inv := by
  obtain ⟨rest, hw, hh⟩ := hS.put_writing ht
  obtain ⟨fs, pre, hfs, hwire, ⟨hbr, -⟩ | ⟨-, -, hall⟩⟩ := hS.wire c
  · rw [hb] at hbr
    cases hbr
  obtain ⟨rest0, hw0, hf0⟩ := hall t _ ht ⟨rest, hw⟩
  obtain ⟨b0, rest', k, rfl, hk, hput⟩ := hw0.eq_put
  obtain ⟨-, rfl, rfl, -⟩ := Wire.put.inj hput
  -- the thread goes on with the rest of its frame, or leaves the send after its last byte
  have hok : rest' = [] ∧ Wire.Outside (Wire.rioWriten c rest' (.unlock c (k 0)) (.unlock c (k (-1))))
      ∨ Wire.Writing c rest' (Wire.rioWriten c rest' (.unlock c (k 0)) (.unlock c (k (-1)))) := by
    cases rest' with
    | nil => exact .inl ⟨rfl, .unlock _ (hk 0)⟩
    | cons _ _ => exact .inr ⟨List.cons_ne_nil _ _, k, hk, rfl⟩
  refine ⟨hS.threads_set ht ?_ fun _ _ _ => id, fun c' => ?_⟩
  · rcases hok with ⟨-, h⟩ | h
    exacts [.inl h, .inr ⟨c, rest', h, hh⟩]
  by_cases hc : c' = c
  · subst hc
    -- after the step, the only thread writing to `c'` is `t`
    have hother : ∀ t1 p r, t1 ≠ t → S.threads[t1]? = some p → ¬ Wire.Writing c' r p :=
      fun _ _ _ hne hp hw => hne (hS.writer_eq hh hp hw)
    rcases hok with ⟨rfl, hout⟩ | hwok
    · refine ⟨fs ++ [pre ++ [b]], [], ?_, by simp [hwire], .inr ⟨hb, fun h => absurd rfl h, ?_⟩⟩
      · simpa [or_imp, forall_and] using ⟨hfs, hf0⟩
      · rintro t1 p1 hp1 ⟨r, hw1⟩
        cases writer_set ht hother hp1 hw1
        exact absurd hout hw1.not_outside
    · refine ⟨fs, pre ++ [b], hfs, by simp [hwire], .inr ⟨hb, fun _ => ?_, ?_⟩⟩
      · exact ⟨t, _, rest', by simp [getElem?_set_of ht], hwok⟩
      · rintro t1 p1 hp1 ⟨r, hw1⟩
        cases writer_set ht hother hp1 hw1
        exact ⟨rest', hwok, by simpa using hf0⟩
  · refine (hS.wire c').congr (by simp [Function.update_noteq hc]) rfl
      (writers_set ht (fun _ hw' => hc (hw'.client_eq hw)) fun r hw' => ?_)
    rcases hok with ⟨-, h⟩ | h
    exacts [hw'.not_outside h, hc (hw'.client_eq h)]

end
/-- Every step keeps the invariant. -/
theorem Inv.step {S S' : Sockets} (hS : S.Inv) {e : SocketEvent} (h : S.step e = some S') :
    S'.Inv := by
  cases e with
  | hangUp c =>
      cases h
      exact hS.hangUp c
  | thread t =>
      simp only [Sockets.step] at h
      split at h
      · rename_i ht
        split at h
        · cases h
          exact hS.lock ht ‹_›
        · cases h
      · rename_i ht
        split at h
        · cases h
          exact hS.unlock ht ‹_›
        · cases h
      · rename_i ht
        split at h
        · cases h
          exact hS.putBroken ht ‹_›
        · cases h
          exact hS.putOk ht (Bool.eq_false_iff.2 ‹_›)
      · cases h

/-- Every run keeps the invariant. -/
theorem Inv.run {S S' : Sockets} (hS : S.Inv) {es : List SocketEvent} (h : S.run es = some S') :
    S'.Inv := by
  induction es generalizing S with
  | nil =>
      cases h
      exact hS
  | cons e es ih =>
      obtain ⟨S1, h1, h2⟩ := Option.bind_eq_some.1 h
      exact ih (hS.step h1) h2

/-- A broken connection stays broken, and no byte is written to it any more: a write to it
fails, and every other write goes to another socket. -/
theorem step_broken {S S' : Sockets} {e : SocketEvent} (h : S.step e = some S') {c : Nat}
    (hb : S.broken c = true) : S'.broken c = true ∧ S'.wire c = S.wire c := by
  cases e with
  | hangUp c' =>
      cases h
      by_cases hc : c = c'
      · subst hc; simp
      · simp [Function.update_noteq hc, hb]
  | thread t =>
      simp only [Sockets.step] at h
      split at h
      · split at h <;> cases h; exact ⟨hb, rfl⟩
      · split at h <;> cases h; exact ⟨hb, rfl⟩
      · rename_i c' _ _ _ _
        split at h
        · cases h; exact ⟨hb, rfl⟩
        · cases h
          have hc : c ≠ c' := fun e => by subst e; simp_all
          exact ⟨hb, Function.update_noteq hc _ _⟩
      · cases h

theorem run_broken {S S' : Sockets} {es : List SocketEvent} (h : S.run es = some S') {c : Nat}
    (hb : S.broken c = true) : S'.broken c = true ∧ S'.wire c = S.wire c := by
  induction es generalizing S with
  | nil => cases h; exact ⟨hb, rfl⟩
  | cons e es ih =>
      obtain ⟨S1, h1, h2⟩ := Option.bind_eq_some.1 h
      obtain ⟨hb1, hw1⟩ := step_broken h1 hb
      obtain ⟨hb2, hw2⟩ := ih h2 hb1
      exact ⟨hb2, hw2.trans hw1⟩

/-- Threads that write only through `client_send_packet` start on empty sockets. -/
theorem start_inv {ps : List Wire} (hps : ∀ p ∈ ps, Wire.Outside p) : (start ps).Inv := by
  refine ⟨fun t p hp => .inl (hps p (List.getElem?_mem hp)), fun c => ⟨[], [], by simp, rfl, ?_⟩⟩
  exact .inr ⟨rfl, fun h => absurd rfl h, fun t p hp ⟨_, hw⟩ =>
    absurd (hps p (List.getElem?_mem hp)) hw.not_outside⟩

end Sockets

/-- In every interleaving of threads that write only through `client_send_packet`, with
connections breaking at any time, the bytes on each client's socket are complete frames followed
by the start of at most one more. While the connection works, that start is being written by a
thread inside `client_send_packet` on the client, and the bytes each such thread has left to
write complete it into a frame; each such thread holds the client's lock. Once the connection
is broken, no byte is written to its socket any more, in any continuation of the run. -/
theorem sockets_frames {ps : List Wire} (hps : ∀ p ∈ ps, Wire.Outside p)
    {es : List SocketEvent} {S : Sockets} (h : (Sockets.start ps).run es = some S) (c : Nat) :
    ∃ (fs : List (List UInt8)) (pre : List UInt8), (∀ f ∈ fs, IsFrame f) ∧
      S.wire c = fs.flatten ++ pre ∧ (pre = [] ∨ ∃ rest, IsFrame (pre ++ rest)) ∧
      (S.broken c = false →
        (pre ≠ [] → ∃ (t : Nat) (p : Wire) (rest : List UInt8),
          S.threads[t]? = some p ∧ Wire.Writing c rest p) ∧
        ∀ (t : Nat) (p : Wire) (rest : List UInt8), S.threads[t]? = some p →
          Wire.Writing c rest p → S.holder c = some t ∧ IsFrame (pre ++ rest)) ∧
      (S.broken c = true → ∀ (es' : List SocketEvent) (S' : Sockets), S.run es' = some S' →
        S'.wire c = S.wire c) := by
  have hS := (Sockets.start_inv hps).run h
  have hstop : S.broken c = true → ∀ (es' : List SocketEvent) (S' : Sockets),
      S.run es' = some S' → S'.wire c = S.wire c := fun hb _ _ h' => (Sockets.run_broken h' hb).2
  obtain ⟨fs, pre, hfs, hw, ⟨hb, hpre⟩ | ⟨hb, hne, hall⟩⟩ := hS.wire c
  · exact ⟨fs, pre, hfs, hw, hpre, fun hb' => by simp [hb] at hb', hstop⟩
  · refine ⟨fs, pre, hfs, hw, ?_, fun _ => ⟨hne, fun t p rest ht hwp => ?_⟩, hstop⟩
    · by_cases hp : pre = []
      · exact .inl hp
      · obtain ⟨t, p, rest, ht, hwp⟩ := hne hp
        obtain ⟨rest', -, hf⟩ := hall t p ht ⟨rest, hwp⟩
        exact .inr ⟨rest', hf⟩
    · obtain ⟨rest', hw', hf⟩ := hall t p ht ⟨rest, hwp⟩
      exact ⟨hS.holds ht hwp, hwp.rest_eq hw' ▸ hf⟩

end JeuxServer

namespace JeuxServer

/-! ## Scenarios -/

/-- A thread sending client `c` an `ACK`, with no payload. -/
def Wire.ackTo (c : Nat) : Wire :=
  clientSendPacketW c (makePacket .ackPkt 0) none 0 0 fun _ => done

/-- A thread sending client `c` a `MOVED` whose payload is the two bytes `XO`. -/
def Wire.movedTo (c : Nat) : Wire :=
  clientSendPacketW c (makePacket .movedPkt 2) (some [88, 79]) 0 0 fun _ => done

theorem Wire.ackTo_outside (c : Nat) : Outside (ackTo c) :=
  .send c 0 0 (fun _ h => by cases h) fun _ => .done

theorem Wire.movedTo_outside (c : Nat) : Outside (movedTo c) :=
  .send c 0 0 (fun _ h => by cases h; decide) fun _ => .done

/-- An `ACK` and a `MOVED` to client 0 and an `ACK` to client 1: the first thread is cut off
after five steps, in the middle of its header, by the whole send to client 1. -/
def Sockets.threeSenders : List Wire := [Wire.ackTo 0, Wire.movedTo 0, Wire.ackTo 1]

theorem sockets_frames_three_senders :
    ∃ S ∈ (Sockets.start Sockets.threeSenders).run (List.replicate 5 (.thread 0) ++
        List.replicate 15 (.thread 2) ++ List.replicate 10 (.thread 0) ++
        List.replicate 17 (.thread 1)),
      S.wire 0 = (protoSendPacket (makePacket .ackPkt 0) none 0 0).2 ++
          (protoSendPacket (makePacket .movedPkt 2) (some [88, 79]) 0 0).2 ∧
      ∃ (fs : List (List UInt8)) (pre : List UInt8), (∀ f ∈ fs, IsFrame f) ∧
        S.wire 0 = fs.flatten ++ pre ∧ (pre = [] ∨ ∃ rest, IsFrame (pre ++ rest)) ∧
        (S.broken 0 = false →
          (pre ≠ [] → ∃ (t : Nat) (p : Wire) (rest : List UInt8),
            S.threads[t]? = some p ∧ Wire.Writing 0 rest p) ∧
          ∀ (t : Nat) (p : Wire) (rest : List UInt8), S.threads[t]? = some p →
            Wire.Writing 0 rest p → S.holder 0 = some t ∧ IsFrame (pre ++ rest)) ∧
        (S.broken 0 = true → ∀ (es' : List SocketEvent) (S' : Sockets), S.run es' = some S' →
          S'.wire 0 = S.wire 0) := by
  obtain ⟨S, hS, hw⟩ : ∃ S ∈ (Sockets.start Sockets.threeSenders).run
      (List.replicate 5 (.thread 0) ++ List.replicate 15 (.thread 2) ++
        List.replicate 10 (.thread 0) ++ List.replicate 17 (.thread 1)),
      S.wire 0 = (protoSendPacket (makePacket .ackPkt 0) none 0 0).2 ++
          (protoSendPacket (makePacket .movedPkt 2) (some [88, 79]) 0 0).2 := by
    decide
  refine ⟨S, hS, hw, sockets_frames (fun p hp => ?_) hS 0⟩
  simp only [Sockets.threeSenders, List.mem_cons, List.not_mem_nil, or_false] at hp
  rcases hp with rfl | rfl | rfl
  · exact Wire.ackTo_outside 0
  · exact Wire.movedTo_outside 0
  · exact Wire.ackTo_outside 1

/-- A header alone whose size field announces a payload is not a sequence of frames. -/
theorem not_frames_headerBytes {hdr : JeuxPacketHeader} (h : (htons hdr.size).toNat ≠ 0) :
    ¬ ∃ fs : List (List UInt8), (∀ f ∈ fs, IsFrame f) ∧ headerBytes hdr = fs.flatten := by
  rintro ⟨_ | ⟨f, fs⟩, hfs, heq⟩
  · simp [headerBytes] at heq
  · obtain ⟨hdr', p, hp, rfl⟩ := hfs _ (List.mem_cons_self _ _)
    have hlen := congrArg List.length heq
    simp only [length_headerBytes, List.flatten_cons, List.length_append] at hlen
    have hp0 : p = [] := List.eq_nil_of_length_eq_zero (by omega)
    have hfs0 : fs.flatten = [] := List.eq_nil_of_length_eq_zero (by omega)
    subst hp0
    simp only [List.flatten_cons, hfs0, List.append_nil] at heq
    have hh : hdr = hdr' := by
      rw [← readHeader_headerBytes hdr [], ← readHeader_headerBytes hdr' [], heq]
    subst hh
    exact h hp

/-- A `MOVED` to client 0 whose connection breaks after its header is written: the write of the
payload fails, the thread releases the lock and ends, and the socket's stream ends with the
header alone, which announces two payload bytes that never come. -/
theorem brokenPayload_cuts_frame :
    ∃ S ∈ (Sockets.start [Wire.movedTo 0]).run
        (List.replicate 14 (.thread 0) ++ [.hangUp 0, .thread 0, .thread 0]),
      S.threads = [.done] ∧ S.holder 0 = none ∧ S.broken 0 = true ∧
      S.wire 0 = (protoSendPacket (makePacket .movedPkt 2) (some [88, 79]) 0 0).2.take headerSize ∧
      ¬ ∃ fs : List (List UInt8), (∀ f ∈ fs, IsFrame f) ∧ S.wire 0 = fs.flatten := by
  obtain ⟨S, hS, ht, hh, hb, hw⟩ : ∃ S ∈ (Sockets.start [Wire.movedTo 0]).run
      (List.replicate 14 (.thread 0) ++ [.hangUp 0, .thread 0, .thread 0]),
      S.threads = [.done] ∧ S.holder 0 = none ∧ S.broken 0 = true ∧
      S.wire 0 = (protoSendPacket (makePacket .movedPkt 2) (some [88, 79]) 0 0).2.take
        headerSize := by
    decide
  refine ⟨S, hS, ht, hh, hb, hw, ?_⟩
  have hhdr : S.wire 0 = headerBytes { makePacket .movedPkt 2 with
      timestampSec := htonl (UInt32.ofNat 0), timestampNsec := htonl (UInt32.ofNat 0) } := by
    rw [hw]
    decide
  rw [hhdr]
  exact not_frames_headerBytes (by decide)

end JeuxServer
