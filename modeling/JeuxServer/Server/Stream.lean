import JeuxServer.Server.Service

/-!
# The service loop on the bytes of a connection

`jeux_client_service` reads its connection with `proto_recv_packet` into one header buffer,
hands each packet to its `switch`, and stops at the first read that fails (`serveStream`).
`serve` is that loop over packets already read, and a `Server.Event.packet` is one turn of it.

A client writes each request with `proto_send_packet`, as one frame (`Sent`). On the bytes of
such frames, one after the other, the loop reads each frame back whole and in order, and the
`NUL` that `proto_recv_packet` appends to a payload is never read (`jeuxClientService_nul`), so
the loop does what `serve` does with the requests (`serveStream_sent`), which is what the server
does with them as packet events of the session's thread (`serveStream_refines`). At the end of
the bytes the next read fails and the loop ends.
-/

set_option autoImplicit false

namespace JeuxServer

/-- The packet a successful `proto_recv_packet` hands to the `switch`. -/
def Received.packet (r : Received) : InPacket :=
  ⟨r.header.type, r.header.id, r.header.role, r.header.size.toNat, r.payload⟩

/-- `while (proto_recv_packet(fd, hdr, &payload) == 0)` of `jeux_client_service` on the bytes
`input` its connection receives, `hdr` being the header buffer, which each read overwrites. It
ends when a read fails, or after `fuel` packets. -/
def serveStream (w : World) (s : Session) (hdr : JeuxPacketHeader) :
    Nat → List UInt8 → World × Session
  | 0, _ => (w, s)
  | fuel + 1, input =>
      let r := protoRecvPacket hdr input
      if r.ret = 0 then
        let x := jeuxClientService w s r.packet
        serveStream x.1 x.2 r.header fuel r.rest
      else (w, s)

/-- A request as a client writes it with `proto_send_packet`: the header, whose size field holds
the payload's length in network order, the payload, and the clock reading. -/
structure Sent where
  header : JeuxPacketHeader
  payload : List UInt8
  sec : Nat
  nsec : Nat
  fits : payload.length ≤ 65535
  sized : header.size = htons (UInt16.ofNat payload.length)

namespace Sent

/-- The bytes the client writes for the request. -/
def bytes (q : Sent) : List UInt8 :=
  (protoSendPacket q.header (if q.payload = [] then none else some q.payload) q.sec q.nsec).2

/-- The request as `serve` takes it. -/
def packet (q : Sent) : InPacket :=
  ⟨q.header.type, q.header.id, q.header.role, q.payload.length,
    if q.payload = [] then none else some q.payload⟩

end Sent

/-! ## One frame -/

theorem cString_append_zero (p : List UInt8) : cString (p ++ [0]) = cString p := by
  induction p with
  | nil => rfl
  | cons b p ih => by_cases hb : b = 0 <;> simp_all [cString, List.takeWhile_cons]

/-- The `NUL` that `proto_recv_packet` appends to a payload is never read: the handlers read
the payload's first `size` bytes, or its text up to its first `NUL`. -/
theorem jeuxClientService_nul (w : World) (s : Session) (t i r : UInt8) (p : List UInt8) :
    jeuxClientService w s ⟨t, i, r, p.length, some (p ++ [0])⟩ =
      jeuxClientService w s ⟨t, i, r, p.length, some p⟩ := by
  simp only [jeuxClientService, Option.getD_some, List.take_left, List.take_length,
    Option.map_some', cString_append_zero]

/-- A sent frame at the head of the stream is read back whole. -/
theorem protoRecvPacket_bytes (old : JeuxPacketHeader) (q : Sent) (rest : List UInt8) :
    protoRecvPacket old (q.bytes ++ rest) =
      ⟨0, receivedHeader q.header q.payload.length q.sec q.nsec,
        if q.payload = [] then none else some (q.payload ++ [0]), rest⟩ :=
  protoRecvPacket_sent old q.header q.payload rest q.sec q.nsec q.fits q.sized

/-- The packet read back is handled as the request. -/
theorem jeuxClientService_received (w : World) (s : Session) (old : JeuxPacketHeader) (q : Sent)
    (rest : List UInt8) :
    jeuxClientService w s (protoRecvPacket old (q.bytes ++ rest)).packet =
      jeuxClientService w s q.packet := by
  have hlen : (UInt16.ofNat q.payload.length).toNat = q.payload.length := by
    rw [toNat_ofNat16]
    exact Nat.mod_eq_of_lt (by have := q.fits; omega)
  rw [protoRecvPacket_bytes]
  simp only [Received.packet, receivedHeader, Sent.packet, hlen]
  split
  · rfl
  · exact jeuxClientService_nul _ _ _ _ _ _

/-! ## The loop -/

/-- On the bytes of requests written one after the other with `proto_send_packet`, the loop of
`jeux_client_service`, given a round for each request, handles the packets `serve` handles. -/
theorem serveStream_sent (w : World) (s : Session) (old : JeuxPacketHeader) (qs : List Sent)
    (fuel : Nat) (hfuel : qs.length ≤ fuel) :
    serveStream w s old fuel (qs.map Sent.bytes).flatten = serve w s (qs.map Sent.packet) := by
  induction qs generalizing w s old fuel with
  | nil =>
      cases fuel with
      | zero => rfl
      | succ f => simp [serveStream, protoRecvPacket, rioReadn, serve]
  | cons q qs ih =>
      obtain ⟨f, rfl⟩ : ∃ f, fuel = f + 1 := ⟨fuel - 1, by simp at hfuel; omega⟩
      simp only [List.map_cons, List.flatten_cons, serveStream, serve]
      rw [jeuxClientService_received, protoRecvPacket_bytes]
      exact ih _ _ _ f (by simpa using hfuel)

/-- The loop of the `k`-th session's thread on the bytes of requests a client writes with
`proto_send_packet` does what the server does with the requests as packet events of that
session. -/
theorem serveStream_refines {S : Server} {k : Nat} {s : Session} (hs : S.sessions[k]? = some s)
    (old : JeuxPacketHeader) (qs : List Sent) (fuel : Nat) (hfuel : qs.length ≤ fuel) :
    S.run (qs.map fun q => .packet k q.packet) =
      ⟨(serveStream S.world s old fuel (qs.map Sent.bytes).flatten).1,
        S.sessions.set k (serveStream S.world s old fuel (qs.map Sent.bytes).flatten).2⟩ := by
  rw [serveStream_sent S.world s old qs fuel hfuel, ← Server.run_packets hs, List.map_map]
  rfl

/-- Alice's LOGIN as a client writes it. -/
def Sent.aliceLogin : Sent := ⟨makePacket .loginPkt 5, ascii "alice", 3, 4, by decide, by decide⟩

/-- A connection is accepted and its client writes alice's LOGIN: the thread's loop, given two
rounds, reads the frame, logs the session in, and ends at the end of the bytes. -/
theorem serveStream_refines_login :
    ((Server.init []).run [.connect 10]).sessions[0]? = some ⟨10, 0, false⟩ ∧
      [Sent.aliceLogin].length ≤ 2 ∧
      ((Server.init []).run [.connect 10]).run ([Sent.aliceLogin].map fun q => .packet 0 q.packet) =
        ⟨(serveStream ((Server.init []).run [.connect 10]).world ⟨10, 0, false⟩ ⟨0, 0, 0, 0, 0, 0⟩ 2
            ([Sent.aliceLogin].map Sent.bytes).flatten).1,
          ((Server.init []).run [.connect 10]).sessions.set 0
            (serveStream ((Server.init []).run [.connect 10]).world ⟨10, 0, false⟩
              ⟨0, 0, 0, 0, 0, 0⟩ 2 ([Sent.aliceLogin].map Sent.bytes).flatten).2⟩ ∧
      (serveStream ((Server.init []).run [.connect 10]).world ⟨10, 0, false⟩ ⟨0, 0, 0, 0, 0, 0⟩ 2
        ([Sent.aliceLogin].map Sent.bytes).flatten).2.loggedIn = true := by
  have hs : ((Server.init []).run [.connect 10]).sessions[0]? = some ⟨10, 0, false⟩ := by decide
  exact ⟨hs, by decide, serveStream_refines hs _ _ 2 (by decide), by decide⟩

end JeuxServer
