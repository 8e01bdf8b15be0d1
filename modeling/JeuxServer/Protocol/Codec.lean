import JeuxServer.Game.Engine
import Mathlib.Data.UInt
import Mathlib.Tactic.IntervalCases

/-!
# The packet codec of `protocol.c`

A packet is a `JEUX_PACKET_HEADER` (type, id, role, payload size, and a timestamp) and
an optional payload. `proto_send_packet` writes the header's memory image and then the payload;
`proto_recv_packet` reads a header image, converts the multi-byte fields to host order, and
then reads `size` payload bytes into a buffer of `size + 1` bytes that ends in a NUL.

The header is stored in memory with the byte order the code gives each field: `make_packet`
stores `htons(size)`, `proto_send_packet` stores `htonl` of the clock, and the receiver applies
`ntohs`/`ntohl` after reading. Memory holds each field little-endian (the x86 host), so
`htons` and `ntohs` swap bytes. A socket is the list of bytes still to arrive; the list ends
where the stream ends.

`protoRecvPacket_protoSendPacket` is the round trip: a receiver that reads the bytes a
sender wrote for a header and a payload gets back the header's type, id, role and
timestamps, the size in host order, the payload with one NUL appended (no buffer for an
empty payload), and the bytes after the frame unread. A short read is not detected: a frame
cut short is refused only when the size field the receiver reads announces a payload, and
up to its fourth byte that field is partly or wholly what the receiver's header buffer held
before.
-/

set_option autoImplicit false

namespace JeuxServer

/-- `JEUX_PACKET_TYPE`. Modelled from the spec: `protocol.h`, which declares the enumeration,
is not under `src/`. The constructors follow the message table of the spec (§4.1), which is
also the order of the comment at the head of `server.c`, after the unused `JEUX_NO_PKT`. -/
inductive JeuxPacketType where
  | noPkt
  | loginPkt
  | usersPkt
  | invitePkt
  | revokePkt
  | acceptPkt
  | declinePkt
  | movePkt
  | resignPkt
  | ackPkt
  | nackPkt
  | invitedPkt
  | revokedPkt
  | acceptedPkt
  | declinedPkt
  | movedPkt
  | resignedPkt
  | endedPkt
  deriving DecidableEq, Repr

namespace JeuxPacketType

/-- The enumeration value, numbered in declaration order from `JEUX_NO_PKT = 0`. -/
def code : JeuxPacketType → UInt8
  | noPkt => 0
  | loginPkt => 1
  | usersPkt => 2
  | invitePkt => 3
  | revokePkt => 4
  | acceptPkt => 5
  | declinePkt => 6
  | movePkt => 7
  | resignPkt => 8
  | ackPkt => 9
  | nackPkt => 10
  | invitedPkt => 11
  | revokedPkt => 12
  | acceptedPkt => 13
  | declinedPkt => 14
  | movedPkt => 15
  | resignedPkt => 16
  | endedPkt => 17

/-- The constant a type byte equals, if any: the case of a `switch` on the byte. -/
def ofCode (b : UInt8) : Option JeuxPacketType :=
  [noPkt, loginPkt, usersPkt, invitePkt, revokePkt, acceptPkt, declinePkt, movePkt, resignPkt,
    ackPkt, nackPkt, invitedPkt, revokedPkt, acceptedPkt, declinedPkt, movedPkt, resignedPkt,
    endedPkt].find? (·.code = b)

@[simp] theorem ofCode_code (t : JeuxPacketType) : ofCode t.code = some t := by
  cases t <;> rfl

end JeuxPacketType

/-- A `JEUX_PACKET_HEADER` as it lies in memory: each field holds the value the code stored
in it, in whichever byte order the code chose. -/
structure JeuxPacketHeader where
  type : UInt8
  id : UInt8
  role : UInt8
  size : UInt16
  timestampSec : UInt32
  timestampNsec : UInt32
  deriving DecidableEq, Repr

/-! ## Byte order -/

/-- The memory bytes of a 16-bit field, low byte first. -/
def le16 (x : UInt16) : List UInt8 := [x.toNat.toUInt8, (x.toNat / 256).toUInt8]

/-- The memory bytes of a 32-bit field, low byte first. -/
def le32 (x : UInt32) : List UInt8 :=
  [x.toNat.toUInt8, (x.toNat / 256).toUInt8, (x.toNat / 65536).toUInt8,
    (x.toNat / 16777216).toUInt8]

/-- A 16-bit field read from its memory bytes. -/
def rdLe16 (b0 b1 : UInt8) : UInt16 := UInt16.ofNat (b0.toNat + 256 * b1.toNat)

/-- A 32-bit field read from its memory bytes. -/
def rdLe32 (b0 b1 b2 b3 : UInt8) : UInt32 :=
  UInt32.ofNat (b0.toNat + 256 * b1.toNat + 65536 * b2.toNat + 16777216 * b3.toNat)

/-- `htons` on the little-endian host: swap the two bytes. `ntohs` is the same function. -/
def htons (x : UInt16) : UInt16 := rdLe16 (x.toNat / 256).toUInt8 x.toNat.toUInt8

/-- `htonl` on the little-endian host: reverse the four bytes. `ntohl` is the same function. -/
def htonl (x : UInt32) : UInt32 :=
  rdLe32 (x.toNat / 16777216).toUInt8 (x.toNat / 65536).toUInt8 (x.toNat / 256).toUInt8
    x.toNat.toUInt8

/-- `sizeof(JEUX_PACKET_HEADER)`. Modelled from the spec: the declaration is in `protocol.h`,
not under `src/`; the fields are those the spec and the comment in `protocol.c` list, with no
padding between them. -/
def headerSize : Nat := 13

/-- The memory image of a header, as `rio_writen(fd, hdr, header_size)` writes it. -/
def headerBytes (h : JeuxPacketHeader) : List UInt8 :=
  [h.type, h.id, h.role] ++ le16 h.size ++ le32 h.timestampSec ++ le32 h.timestampNsec

/-- A header read from a memory image. -/
def readHeader : List UInt8 → JeuxPacketHeader
  | t :: i :: r :: s0 :: s1 :: a0 :: a1 :: a2 :: a3 :: n0 :: n1 :: n2 :: n3 :: _ =>
      ⟨t, i, r, rdLe16 s0 s1, rdLe32 a0 a1 a2 a3, rdLe32 n0 n1 n2 n3⟩
  | _ => ⟨0, 0, 0, 0, 0, 0⟩

/-! ## Sending and receiving -/

/-- `make_packet(type, size)`: a zeroed header with the type and `htons(size)`. -/
def makePacket (type : JeuxPacketType) (size : Nat) : JeuxPacketHeader :=
  ⟨type.code, 0, 0, htons (UInt16.ofNat size), 0, 0⟩

/-- `proto_send_packet(fd, hdr, data)` with both writes succeeding: the return value and the
bytes written. A payload size that disagrees with the presence of `data` is refused before
anything is written; the clock reading `sec`, `nsec` is stored with `htonl`. -/
def protoSendPacket (hdr : JeuxPacketHeader) (data : Option (List UInt8)) (sec nsec : Nat) :
    Int × List UInt8 :=
  let payloadSize := (htons hdr.size).toNat
  if (payloadSize = 0 ∧ data.isSome) ∨ (payloadSize ≠ 0 ∧ data.isNone) then (-1, [])
  else
    let hdr := { hdr with timestampSec := htonl (UInt32.ofNat sec),
                          timestampNsec := htonl (UInt32.ofNat nsec) }
    (0, headerBytes hdr ++ if 0 < payloadSize then (data.getD []).take payloadSize else [])

/-- `Rio_readn(fd, buf, n)`. Modelled from the spec: `csapp.c` is not under `src/`. It is the
spec's "full read": it reads until `n` bytes have arrived or the stream ends, and returns the
bytes it read, fewer than `n` on a short read, with the rest of the stream. -/
def rioReadn (input : List UInt8) (n : Nat) : List UInt8 × List UInt8 :=
  (input.take n, input.drop n)

/-- What `proto_recv_packet` leaves: its return value, the header, the payload pointer
(`none` for `NULL`), and the bytes of the stream still unread. -/
structure Received where
  ret : Int
  header : JeuxPacketHeader
  payload : Option (List UInt8)
  rest : List UInt8
  deriving DecidableEq, Repr

/-- `proto_recv_packet(fd, hdr, payloadp)` on the stream `input`, where `hdr` is the header
buffer's previous contents. The reads fail only when they return no byte (`<= 0`). -/
def protoRecvPacket (hdr : JeuxPacketHeader) (input : List UInt8) : Received :=
  let (got, rest) := rioReadn input headerSize
  if got.length = 0 then ⟨-1, hdr, none, rest⟩
  else
    let raw := readHeader (got ++ (headerBytes hdr).drop got.length)
    let hdr := { raw with size := htons raw.size, timestampSec := htonl raw.timestampSec,
                          timestampNsec := htonl raw.timestampNsec }
    if 0 < hdr.size.toNat then
      let (p, rest) := rioReadn rest hdr.size.toNat
      if p.length = 0 then ⟨-1, hdr, none, rest⟩
      else ⟨0, hdr, some (p ++ List.replicate (hdr.size.toNat + 1 - p.length) 0), rest⟩
    else ⟨0, hdr, none, rest⟩

/-! ## Round trip -/

theorem toNat_toUInt8 (n : Nat) : n.toUInt8.toNat = n % 256 := BitVec.toNat_ofNat _ _

theorem toNat_ofNat8 (n : Nat) : (UInt8.ofNat n).toNat = n % 256 := BitVec.toNat_ofNat _ _

theorem toNat_ofNat16 (n : Nat) : (UInt16.ofNat n).toNat = n % 65536 := BitVec.toNat_ofNat _ _

theorem toNat_ofNat32 (n : Nat) : (UInt32.ofNat n).toNat = n % 4294967296 :=
  BitVec.toNat_ofNat _ _

theorem rdLe16_le16 (x : UInt16) : rdLe16 x.toNat.toUInt8 (x.toNat / 256).toUInt8 = x := by
  apply UInt16.toNat.inj
  have hx : x.toNat < 65536 := x.toNat_lt_size
  simp only [rdLe16, toNat_toUInt8, toNat_ofNat16]
  omega

theorem rdLe32_le32 (x : UInt32) :
    rdLe32 x.toNat.toUInt8 (x.toNat / 256).toUInt8 (x.toNat / 65536).toUInt8
      (x.toNat / 16777216).toUInt8 = x := by
  apply UInt32.toNat.inj
  have hx : x.toNat < 4294967296 := x.toNat_lt_size
  simp only [rdLe32, toNat_toUInt8, toNat_ofNat32]
  omega

/-- The bytes of a 16-bit field read from bytes are those bytes. -/
theorem bytes_rdLe16 (b0 b1 : UInt8) :
    (rdLe16 b0 b1).toNat.toUInt8 = b0 ∧ ((rdLe16 b0 b1).toNat / 256).toUInt8 = b1 := by
  have h0 : b0.toNat < 256 := b0.toNat_lt_size
  have h1 : b1.toNat < 256 := b1.toNat_lt_size
  constructor <;> apply UInt8.toNat.inj <;> simp only [rdLe16, toNat_toUInt8, toNat_ofNat16] <;>
    omega

/-- The bytes of a 32-bit field read from bytes are those bytes. -/
theorem bytes_rdLe32 (b0 b1 b2 b3 : UInt8) :
    (rdLe32 b0 b1 b2 b3).toNat.toUInt8 = b0 ∧ ((rdLe32 b0 b1 b2 b3).toNat / 256).toUInt8 = b1 ∧
      ((rdLe32 b0 b1 b2 b3).toNat / 65536).toUInt8 = b2 ∧
      ((rdLe32 b0 b1 b2 b3).toNat / 16777216).toUInt8 = b3 := by
  have h0 : b0.toNat < 256 := b0.toNat_lt_size
  have h1 : b1.toNat < 256 := b1.toNat_lt_size
  have h2 : b2.toNat < 256 := b2.toNat_lt_size
  have h3 : b3.toNat < 256 := b3.toNat_lt_size
  refine ⟨?_, ?_, ?_, ?_⟩ <;> apply UInt8.toNat.inj <;>
    simp only [rdLe32, toNat_toUInt8, toNat_ofNat32] <;> omega

@[simp] theorem htons_htons (x : UInt16) : htons (htons x) = x := by
  obtain ⟨e0, e1⟩ := bytes_rdLe16 (x.toNat / 256).toUInt8 x.toNat.toUInt8
  simp only [htons] at e0 e1 ⊢
  rw [e0, e1, rdLe16_le16]

@[simp] theorem htonl_htonl (x : UInt32) : htonl (htonl x) = x := by
  obtain ⟨e0, e1, e2, e3⟩ := bytes_rdLe32 (x.toNat / 16777216).toUInt8 (x.toNat / 65536).toUInt8
    (x.toNat / 256).toUInt8 x.toNat.toUInt8
  simp only [htonl] at e0 e1 e2 e3 ⊢
  rw [e0, e1, e2, e3, rdLe32_le32]

@[simp] theorem length_headerBytes (h : JeuxPacketHeader) : (headerBytes h).length = 13 := rfl

/-- Reading a header image back gives the header. -/
theorem readHeader_headerBytes (h : JeuxPacketHeader) (r : List UInt8) :
    readHeader (headerBytes h ++ r) = h := by
  simp only [headerBytes, le16, le32, List.cons_append, List.singleton_append, List.nil_append,
    readHeader, rdLe16_le16, rdLe32_le32]

/-- A stream that starts with a whole header image: the size and the clock are converted to
host order, and a positive size is read from the bytes that follow, padded with NULs to
`size + 1` bytes, unless the stream ends right after the header. -/
theorem protoRecvPacket_headerBytes (old hdr : JeuxPacketHeader) (q : List UInt8) :
    protoRecvPacket old (headerBytes hdr ++ q) =
      let n := (htons hdr.size).toNat
      let hdr' := { hdr with size := htons hdr.size, timestampSec := htonl hdr.timestampSec,
                             timestampNsec := htonl hdr.timestampNsec }
      if 0 < n then
        if q = [] then ⟨-1, hdr', none, []⟩
        else ⟨0, hdr', some (q.take n ++ List.replicate (n + 1 - (q.take n).length) 0), q.drop n⟩
      else ⟨0, hdr', none, q⟩ := by
  have ht : (headerBytes hdr ++ q).take headerSize = headerBytes hdr :=
    List.take_left' (length_headerBytes hdr)
  have hd : (headerBytes hdr ++ q).drop headerSize = q := List.drop_left' (length_headerBytes hdr)
  have hd0 : (headerBytes old).drop (headerBytes hdr).length = [] :=
    List.drop_eq_nil_of_le (by rw [length_headerBytes, length_headerBytes])
  unfold protoRecvPacket rioReadn
  rw [ht, hd]
  dsimp only
  rw [hd0, readHeader_headerBytes, length_headerBytes, if_neg (by decide)]
  split_ifs with hn h0 hq hq
  · rw [hq, List.drop_nil]
  · exact absurd ((List.take_eq_nil_iff.1 (List.length_eq_zero.1 h0)).resolve_left (by omega)) hq
  · simp [hq] at h0
  · rfl
  · rfl

/-- What `proto_send_packet` writes for a header whose size field agrees with the payload: the
header image with the clock stored, then the payload. -/
theorem protoSendPacket_eq (h : JeuxPacketHeader) (p : List UInt8) (sec nsec : Nat)
    (hp : p.length ≤ 65535) (hsize : h.size = htons (UInt16.ofNat p.length)) :
    protoSendPacket h (if p = [] then none else some p) sec nsec =
      (0, headerBytes { h with timestampSec := htonl (UInt32.ofNat sec),
                               timestampNsec := htonl (UInt32.ofNat nsec) } ++ p) := by
  have hlen : (UInt16.ofNat p.length).toNat = p.length := by rw [toNat_ofNat16]; omega
  cases p with
  | nil => simp [protoSendPacket, hsize, hlen]
  | cons b bs =>
      have hlen' : (UInt16.ofNat (bs.length + 1)).toNat = bs.length + 1 := hlen
      simp [protoSendPacket, hsize, hlen']

/-- The header `proto_recv_packet` hands back for a frame sent with header `h`, a payload of
`n` bytes and the clock reading `sec`, `nsec`. -/
def receivedHeader (h : JeuxPacketHeader) (n sec nsec : Nat) : JeuxPacketHeader :=
  { h with size := UInt16.ofNat n, timestampSec := UInt32.ofNat sec,
           timestampNsec := UInt32.ofNat nsec }

/-- The header of a sent frame, read back: the size and the clock in host order. -/
theorem received_header (h : JeuxPacketHeader) (p : List UInt8) (sec nsec : Nat)
    (hsize : h.size = htons (UInt16.ofNat p.length)) :
    ({ h with size := htons h.size, timestampSec := htonl (htonl (UInt32.ofNat sec)),
              timestampNsec := htonl (htonl (UInt32.ofNat nsec)) } : JeuxPacketHeader) =
      receivedHeader h p.length sec nsec := by
  simp [receivedHeader, hsize]

/-- A whole frame sent for `h` and `p`, followed by any bytes `r`, is received as the header in
host order and the payload with one NUL appended (no buffer for an empty payload), with `r`
unread, whatever the header buffer held before. -/
theorem protoRecvPacket_sent (old h : JeuxPacketHeader) (p r : List UInt8) (sec nsec : Nat)
    (hp : p.length ≤ 65535) (hsize : h.size = htons (UInt16.ofNat p.length)) :
    protoRecvPacket old ((protoSendPacket h (if p = [] then none else some p) sec nsec).2 ++ r) =
      ⟨0, receivedHeader h p.length sec nsec, if p = [] then none else some (p ++ [0]), r⟩ := by
  have hlen : (UInt16.ofNat p.length).toNat = p.length := by rw [toNat_ofNat16]; omega
  have hhdr := received_header h p sec nsec hsize
  rw [protoSendPacket_eq h p sec nsec hp hsize, List.append_assoc, protoRecvPacket_headerBytes]
  cases p with
  | nil => simp [hsize, hlen, hhdr]; rfl
  | cons b bs => simp_all

/-! ## Frames cut short -/

theorem toUInt8_eq_zero {n : Nat} (h : n < 256) : n.toUInt8 = 0 ↔ n = 0 := by
  constructor
  · intro e
    have := congrArg UInt8.toNat e
    rw [toNat_toUInt8, Nat.mod_eq_of_lt h] at this
    exact this
  · rintro rfl; rfl

theorem rdLe16_eq_zero (b0 b1 : UInt8) : rdLe16 b0 b1 = 0 ↔ b0 = 0 ∧ b1 = 0 := by
  constructor
  · intro e
    obtain ⟨h0, h1⟩ := bytes_rdLe16 b0 b1
    rw [e] at h0 h1
    exact ⟨h0.symm, h1.symm⟩
  · rintro ⟨rfl, rfl⟩; rfl

theorem htons_toNat_eq_zero (x : UInt16) : (htons x).toNat = 0 ↔ x = 0 := by
  constructor
  · intro h
    have h0 : htons x = 0 := UInt16.toNat.inj h
    rw [← htons_htons x, h0]; rfl
  · rintro rfl; rfl

/-- The size field of a header image whose first `k` bytes came from the stream and the rest
are the header buffer's old bytes: both its bytes are new from `k = 5` on, only the first at
`k = 4`, and neither below. -/
theorem readHeader_cut_size (old H : JeuxPacketHeader) {k : Nat} (hk : k ≤ 13) :
    (readHeader ((headerBytes H).take k ++ (headerBytes old).drop k)).size =
      if 5 ≤ k then H.size
      else if k = 4 then rdLe16 H.size.toNat.toUInt8 (old.size.toNat / 256).toUInt8 else old.size := by
  interval_cases k <;> simp [headerBytes, le16, le32, readHeader, rdLe16_le16]

/-- A stream that ends inside a header: the short read is taken for a header whose missing
bytes are the buffer's old ones, and the packet is refused exactly when the size field it
reads announces a payload, which the ended stream cannot give. -/
theorem protoRecvPacket_cut_header (old H : JeuxPacketHeader) (p : List UInt8) {k : Nat}
    (hk0 : 0 < k) (hk : k ≤ 13) :
    (protoRecvPacket old ((headerBytes H ++ p).take k)).ret =
      if (htons (readHeader ((headerBytes H).take k ++ (headerBytes old).drop k)).size).toNat = 0
      then 0 else -1 := by
  have ht : (headerBytes H ++ p).take k = (headerBytes H).take k :=
    List.take_append_of_le_length (by simp; omega)
  have hl : ((headerBytes H).take k).length = k := by simp; omega
  rw [ht]
  unfold protoRecvPacket rioReadn
  have hle : ((headerBytes H).take k).length ≤ headerSize := by rw [hl]; exact hk
  simp only [List.take_of_length_le hle, hl, List.drop_eq_nil_of_le hle]
  split_ifs <;> simp_all

/-- The bytes `proto_send_packet` writes for the header `h` and the payload `p`, with a `NULL`
data pointer for an empty payload. -/
def frameBytes (h : JeuxPacketHeader) (p : List UInt8) (sec nsec : Nat) : List UInt8 :=
  (protoSendPacket h (if p = [] then none else some p) sec nsec).2

theorem frameBytes_eq (h : JeuxPacketHeader) (p : List UInt8) (sec nsec : Nat)
    (hp : p.length ≤ 65535) (hsize : h.size = htons (UInt16.ofNat p.length)) :
    frameBytes h p sec nsec = headerBytes { h with timestampSec := htonl (UInt32.ofNat sec),
                                                   timestampNsec := htonl (UInt32.ofNat nsec) } ++ p := by
  rw [frameBytes, protoSendPacket_eq h p sec nsec hp hsize]

/-- A frame cut inside its header. Up to its third byte the size is the buffer's old one, and
the cut is accepted exactly when that size is 0; at the fourth byte the size's first byte (the
high byte of the payload's length) is new and its second old; from the fifth byte the size is
the frame's own, and the cut is refused exactly when the frame has a payload. -/
theorem frameBytes_cut_header (old h : JeuxPacketHeader) (p : List UInt8) (k sec nsec : Nat)
    (hp : p.length ≤ 65535) (hsize : h.size = htons (UInt16.ofNat p.length)) :
    (0 < k → k ≤ 3 → (protoRecvPacket old ((frameBytes h p sec nsec).take k)).ret =
      if old.size = 0 then 0 else -1) ∧
    (protoRecvPacket old ((frameBytes h p sec nsec).take 4)).ret =
      (if p.length < 256 ∧ old.size.toNat < 256 then 0 else -1) ∧
    (5 ≤ k → k ≤ headerSize → (protoRecvPacket old ((frameBytes h p sec nsec).take k)).ret =
      if p = [] then 0 else -1) := by
  have hlen : (UInt16.ofNat p.length).toNat = p.length := by rw [toNat_ofNat16]; omega
  rw [frameBytes_eq h p sec nsec hp hsize]
  refine ⟨fun hk0 hk => ?_, ?_, fun hk5 hk => ?_⟩
  · rw [protoRecvPacket_cut_header _ _ _ hk0 (by omega), readHeader_cut_size _ _ (by omega),
      if_neg (show ¬ 5 ≤ k by omega), if_neg (show k ≠ 4 by omega)]
    simp only [htons_toNat_eq_zero]
  · rw [protoRecvPacket_cut_header _ _ _ (by omega) (by omega), readHeader_cut_size _ _ (by omega),
      if_neg (show ¬ 5 ≤ 4 by omega), if_pos rfl]
    have hb := (bytes_rdLe16 (p.length / 256).toUInt8 p.length.toUInt8).1
    have hold : old.size.toNat < 65536 := old.size.toNat_lt_size
    have e : rdLe16 (p.length / 256).toUInt8 (old.size.toNat / 256).toUInt8 = 0 ↔
        p.length < 256 ∧ old.size.toNat < 256 := by
      rw [rdLe16_eq_zero, toUInt8_eq_zero (by omega), toUInt8_eq_zero (by omega)]
      omega
    simp only [htons, hlen] at hsize
    simp only [hsize, hb, htons_toNat_eq_zero, e]
  · rw [protoRecvPacket_cut_header _ _ _ (by omega) hk, readHeader_cut_size _ _ hk, if_pos hk5]
    simp [hsize, hlen, List.length_eq_zero]

/-- A frame cut after `k` of its payload bytes is accepted, its payload padded with NULs. -/
theorem frameBytes_cut_payload (old h : JeuxPacketHeader) (p : List UInt8) (k sec nsec : Nat)
    (hp : p.length ≤ 65535) (hsize : h.size = htons (UInt16.ofNat p.length)) (hk : 0 < k)
    (hkp : k < p.length) :
    protoRecvPacket old ((frameBytes h p sec nsec).take (headerSize + k)) =
      ⟨0, receivedHeader h p.length sec nsec,
        some (p.take k ++ List.replicate (p.length + 1 - k) 0), []⟩ := by
  have hlen : (UInt16.ofNat p.length).toNat = p.length := by rw [toNat_ofNat16]; omega
  have hhdr := received_header h p sec nsec hsize
  have hne : p ≠ [] := by rintro rfl; simp at hkp
  rw [frameBytes_eq h p sec nsec hp hsize, List.take_append_eq_append_take, length_headerBytes,
    headerSize, List.take_of_length_le (by simp), show 13 + k - 13 = k by omega,
    protoRecvPacket_headerBytes]
  have hd : (p.take k).drop p.length = [] := List.drop_eq_nil_of_le (by simp)
  have hmin : min p.length k = k := by omega
  simp_all [List.take_take, List.take_eq_nil_iff, List.length_pos.2 hne, Nat.pos_iff_ne_zero.1 hk]

/-- The round trip of one frame, and of its truncations. A receiver that reads the bytes a
sender wrote for `h` and `p`, followed by any bytes `r`, gets back the header with the size in
host order, the payload with one NUL appended (no buffer for an empty payload), and `r`
unread, whatever its header buffer held before. A frame cut after `k` of its bytes, the
stream then ending, is refused or accepted as the size field read says: up to the fourth byte
that field is partly or wholly the buffer's old one; from the fifth to the last header byte it
is the frame's own, and the cut is refused when the frame has a payload; inside the payload
the cut is accepted, its payload padded with NULs. -/
theorem protoRecvPacket_protoSendPacket (old h : JeuxPacketHeader) (p r : List UInt8)
    (k sec nsec : Nat) (hp : p.length ≤ 65535) (hsize : h.size = htons (UInt16.ofNat p.length)) :
    (protoSendPacket h (if p = [] then none else some p) sec nsec).1 = 0 ∧
      protoRecvPacket old (frameBytes h p sec nsec ++ r) =
        ⟨0, receivedHeader h p.length sec nsec, if p = [] then none else some (p ++ [0]), r⟩ ∧
      (0 < k → k ≤ 3 → (protoRecvPacket old ((frameBytes h p sec nsec).take k)).ret =
        if old.size = 0 then 0 else -1) ∧
      (protoRecvPacket old ((frameBytes h p sec nsec).take 4)).ret =
        (if p.length < 256 ∧ old.size.toNat < 256 then 0 else -1) ∧
      (5 ≤ k → k ≤ headerSize → (protoRecvPacket old ((frameBytes h p sec nsec).take k)).ret =
        if p = [] then 0 else -1) ∧
      (0 < k → k < p.length →
        protoRecvPacket old ((frameBytes h p sec nsec).take (headerSize + k)) =
          ⟨0, receivedHeader h p.length sec nsec,
            some (p.take k ++ List.replicate (p.length + 1 - k) 0), []⟩) := by
  obtain ⟨h3, h4, h5⟩ := frameBytes_cut_header old h p k sec nsec hp hsize
  exact ⟨by rw [protoSendPacket_eq h p sec nsec hp hsize], protoRecvPacket_sent old h p r sec nsec hp hsize,
    h3, h4, h5, frameBytes_cut_payload old h p k sec nsec hp hsize⟩

theorem protoRecvPacket_protoSendPacket_invited :
    ([97, 98] : List UInt8).length ≤ 65535 ∧
      (makePacket .invitedPkt 2).size = htons (UInt16.ofNat ([97, 98] : List UInt8).length) ∧
      (protoSendPacket (makePacket .invitedPkt 2)
          (if ([97, 98] : List UInt8) = [] then none else some [97, 98]) 5 7).1 = 0 ∧
      protoRecvPacket ⟨0, 0, 0, 0, 0, 0⟩ (frameBytes (makePacket .invitedPkt 2) [97, 98] 5 7 ++ [1]) =
        ⟨0, receivedHeader (makePacket .invitedPkt 2) ([97, 98] : List UInt8).length 5 7,
          if ([97, 98] : List UInt8) = [] then none else some ([97, 98] ++ [0]), [1]⟩ ∧
      (0 < 1 → 1 ≤ 3 → (protoRecvPacket ⟨0, 0, 0, 0, 0, 0⟩
          ((frameBytes (makePacket .invitedPkt 2) [97, 98] 5 7).take 1)).ret =
        if (⟨0, 0, 0, 0, 0, 0⟩ : JeuxPacketHeader).size = 0 then 0 else -1) ∧
      (protoRecvPacket ⟨0, 0, 0, 0, 0, 0⟩
          ((frameBytes (makePacket .invitedPkt 2) [97, 98] 5 7).take 4)).ret =
        (if ([97, 98] : List UInt8).length < 256 ∧
          (⟨0, 0, 0, 0, 0, 0⟩ : JeuxPacketHeader).size.toNat < 256 then 0 else -1) ∧
      (5 ≤ 1 → 1 ≤ headerSize → (protoRecvPacket ⟨0, 0, 0, 0, 0, 0⟩
          ((frameBytes (makePacket .invitedPkt 2) [97, 98] 5 7).take 1)).ret =
        if ([97, 98] : List UInt8) = [] then 0 else -1) ∧
      (0 < 1 → 1 < ([97, 98] : List UInt8).length →
        protoRecvPacket ⟨0, 0, 0, 0, 0, 0⟩
            ((frameBytes (makePacket .invitedPkt 2) [97, 98] 5 7).take (headerSize + 1)) =
          ⟨0, receivedHeader (makePacket .invitedPkt 2) ([97, 98] : List UInt8).length 5 7,
            some ((([97, 98] : List UInt8)).take 1 ++
              List.replicate (([97, 98] : List UInt8).length + 1 - 1) 0), []⟩) :=
  ⟨by decide, by decide,
    protoRecvPacket_protoSendPacket ⟨0, 0, 0, 0, 0, 0⟩ (makePacket .invitedPkt 2) [97, 98] [1] 1 5 7
      (by decide) (by decide)⟩

/-- An empty payload comes back as no buffer rather than a lone NUL, and frames cut inside
their header or their payload are accepted: a header cut after its third byte, over a
buffer whose size field was zero, and an `INVITED` frame cut after one byte of its
two-byte payload both give `0`. -/
theorem protoRecvPacket_short_frames :
    (protoRecvPacket ⟨0, 0, 0, 0, 0, 0⟩
        (protoSendPacket (makePacket .ackPkt 0) none 0 0).2).payload = none ∧
      (protoRecvPacket ⟨0, 0, 0, 0, 0, 0⟩
        ((protoSendPacket (makePacket .ackPkt 0) none 0 0).2.take 3)).ret = 0 ∧
      (protoRecvPacket ⟨0, 0, 0, 0, 0, 0⟩
        ((protoSendPacket (makePacket .invitedPkt 2) (some [97, 98]) 0 0).2.take 14)).ret = 0 := by
  decide

end JeuxServer
