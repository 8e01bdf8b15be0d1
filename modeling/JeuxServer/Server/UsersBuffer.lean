import JeuxServer.Server.Replies
import Mathlib.Data.Nat.Digits

/-!
# The buffers of the USERS case

The USERS case of `jeux_client_service` builds its payload in `malloc`'d buffers: each
player's line is formatted by `snprintf` into a buffer of `line_size` bytes, copied by
`strdup` or appended by `realloc` and `strcat`, and the payload is reallocated at the end to
`total_size - i + 5` bytes, its NUL stored at index `total_size`, and sent with size
`total_size - i`. Here each buffer is the list of its allocated bytes, and every write of the
case (those of `snprintf`, `strdup` and `strcat` included) records the indices it writes and
the size of its buffer.

On every nonempty snapshot the ACK carries the lines the spec gives, with their length as its
size, since `line_size` counts each line's NUL and `i` takes them off again. Every write
stays in its buffer while there are at most four players; from five on the final NUL is
stored at index `total_size`, the payload's length plus `i`, past the `total_size - i + 5`
bytes the buffer was reallocated to (`usersAck_spec`, `users_five_players_overflow`).
-/

set_option autoImplicit false

namespace JeuxServer

/-! ## C strings and buffers -/

/-- A write by one call into a heap buffer: the bytes at `first … last` of a buffer of `size`
bytes. -/
structure BufWrite where
  first : Nat
  last : Nat
  size : Nat
  deriving DecidableEq, Repr

/-- The write stays inside its buffer. -/
def BufWrite.InBounds (x : BufWrite) : Prop := x.last < x.size

instance (x : BufWrite) : Decidable x.InBounds := inferInstanceAs (Decidable (_ < _))

/-- `strlen`: the number of bytes before the first NUL. -/
def strlen (buf : List UInt8) : Nat := (cString buf).length

/-- `realloc(p, n)`, and `malloc(n)` for `p = []`: `n` bytes, the old ones kept up to `n`. The
bytes it adds are indeterminate; here they are zero. -/
def realloc (buf : List UInt8) (n : Nat) : List UInt8 := (buf ++ List.replicate n 0).take n

/-- `snprintf(buf, size, ...)` whose formatted text is `t`, into the buffer `buf` of
`size ≥ 1` bytes: at most `size - 1` bytes of the text, then a NUL. -/
def snprintf (buf t : List UInt8) : List UInt8 × BufWrite :=
  let n := min t.length (buf.length - 1)
  (t.take n ++ [0] ++ buf.drop (n + 1), ⟨0, n, buf.length⟩)

/-- `strdup(s)`: a new buffer of `strlen(s) + 1` bytes holding the string and its NUL. -/
def strdup (s : List UInt8) : List UInt8 × BufWrite :=
  (cString s ++ [0], ⟨0, strlen s, strlen s + 1⟩)

/-- `strcat(dest, src)`: the string of `src` and a NUL, stored over `dest` from its first NUL
on. Bytes past the end of `dest` are recorded in the write and not stored. -/
def strcat (dest src : List UInt8) : List UInt8 × BufWrite :=
  let n := strlen dest
  let s := cString src ++ [0]
  ((dest.take n ++ s ++ dest.drop (n + s.length)).take dest.length,
    ⟨n, n + s.length - 1, dest.length⟩)

/-! ## The USERS case -/

/-- The locals of the USERS case of `jeux_client_service`: `total_size`, `str_payload`
(`none` for `NULL`), `i`, and every write into a heap buffer so far. -/
structure UsersLocals where
  totalSize : Nat
  payload : Option (List UInt8)
  i : Nat
  writes : List BufWrite

/-- One round of the loop, for a player of this name and rating: `line_size`, `total_size`,
the line formatted into a new buffer of `line_size` bytes, then copied (`strdup`) or appended
(`realloc` to `total_size`, `strcat`). The `realloc` is taken to succeed: the code goes on to
`strcat` into its result even when it is `NULL`. -/
def usersRound (st : UsersLocals) (name : List UInt8) (rating : Int) : UsersLocals :=
  let lineSize := strlen name + (ascii (toString rating)).length + 3
  let totalSize := st.totalSize + lineSize
  let line := snprintf (realloc [] lineSize)
    (cString name ++ ascii "\t" ++ ascii (toString rating) ++ ascii "\n")
  let p := match st.payload with
    | none => strdup line.1
    | some p => strcat (realloc p totalSize) line.1
  ⟨totalSize, some p.1, st.i + 1, st.writes ++ [line.2, p.2]⟩

/-- The loop over the snapshot's players, given as the name and rating read for each. -/
def usersLoop (entries : List (List UInt8 × Int)) : UsersLocals :=
  entries.foldl (fun st e => usersRound st e.1 e.2) ⟨0, none, 0, []⟩

/-- The end of the USERS case when the last `realloc` succeeds: the payload reallocated to
`total_size - i + 5` bytes, a NUL stored at index `total_size`, and `client_send_ack` given the
first `total_size - i` bytes. The writes made, and the data and size sent. -/
def usersAck (entries : List (List UInt8 × Int)) : List BufWrite × List UInt8 × Nat :=
  let st := usersLoop entries
  let p := realloc (st.payload.getD []) (st.totalSize - st.i + 5)
  (st.writes ++ [⟨st.totalSize, st.totalSize, p.length⟩],
    (p.set st.totalSize 0).take (st.totalSize - st.i), st.totalSize - st.i)

/-! ## What the case computes -/

/-- Every character of a decimal numeral is a digit. -/
theorem mem_toDigitsCore {c : Char} :
    ∀ {fuel n : Nat} {ds : List Char}, c ∈ Nat.toDigitsCore 10 fuel n ds →
      c ∈ ds ∨ ∃ d < 10, c = Nat.digitChar d
  | 0, _, _, h => .inl h
  | fuel + 1, n, ds, h => by
      have hd : ∀ {c' : Char}, c' ∈ Nat.digitChar (n % 10) :: ds →
          c' ∈ ds ∨ ∃ d < 10, c' = Nat.digitChar d :=
        fun h' => (List.mem_cons.1 h').elim (fun e => .inr ⟨n % 10, Nat.mod_lt _ (by omega), e⟩) .inl
      simp only [Nat.toDigitsCore] at h
      split at h
      · exact hd h
      · exact (mem_toDigitsCore h).elim hd .inr

theorem digitChar_ne_zero : ∀ d < 10, (Nat.digitChar d).toNat.toUInt8 ≠ 0 := by decide

/-- A decimal numeral, sign included, has no NUL byte. -/
theorem zero_not_mem_decimal (r : Int) : (0 : UInt8) ∉ ascii (toString r) := by
  have hnat : ∀ n : Nat, (0 : UInt8) ∉ ascii (toString n) := by
    intro n h
    obtain ⟨c, hc, h0⟩ := List.mem_map.1 h
    rcases mem_toDigitsCore hc with h | ⟨d, hd, rfl⟩
    · simp at h
    · exact digitChar_ne_zero d hd h0
  cases r with
  | ofNat n => exact hnat n
  | negSucc n =>
      have hs : ascii (toString (Int.negSucc n)) = ascii "-" ++ ascii (toString (n + 1)) :=
        List.map_append _ _ _
      rw [hs, List.mem_append]
      exact fun h => h.elim (by decide) (hnat (n + 1))

/-- The USERS payload as the spec gives it: for each player, the name, a TAB, the rating in
decimal and a newline. -/
def usersText (entries : List (List UInt8 × Int)) : List UInt8 :=
  entries.flatMap fun e => World.usersLine (cString e.1) e.2

section Strings

variable {c t p : List UInt8}

theorem cString_append_nul (hc : 0 ∉ c) (rest : List UInt8) : cString (c ++ 0 :: rest) = c := by
  induction c with
  | nil => rfl
  | cons b c ih =>
      have hb : b ≠ 0 := fun e => hc (e ▸ List.mem_cons_self _ _)
      simp [cString, List.takeWhile_cons, hb] at ih ⊢
      exact ih fun h => hc (List.mem_cons_of_mem _ h)

/-- Nor has a line of the payload. -/
theorem zero_not_mem_usersLine (name : List UInt8) (r : Int) :
    (0 : UInt8) ∉ World.usersLine (cString name) r := by
  have hn : (0 : UInt8) ∉ cString name := fun h => by
    simpa using List.mem_takeWhile_imp h
  simp only [World.usersLine, List.mem_append, not_or]
  exact ⟨⟨⟨hn, by decide⟩, zero_not_mem_decimal r⟩, by decide⟩

theorem realloc_length (p : List UInt8) (n : Nat) : (realloc p n).length = n := by
  simp [realloc]

theorem take_realloc {k n : Nat} (hk : k ≤ p.length) (hn : k ≤ n) :
    (realloc p n).take k = p.take k := by
  rw [realloc, List.take_take, min_eq_left hn, List.take_append_of_le_length hk]

theorem snprintf_fresh (t : List UInt8) :
    snprintf (realloc [] (t.length + 1)) t = (t ++ [0], ⟨0, t.length, t.length + 1⟩) := by
  simp [snprintf, realloc_length, realloc]

theorem strdup_nul (ht : 0 ∉ t) : strdup (t ++ [0]) = (t ++ [0], ⟨0, t.length, t.length + 1⟩) := by
  simp [strdup, strlen, cString_append_nul ht]

/-- `strcat` onto a buffer holding `c` and a NUL, of a NUL-terminated `t` that fits: the buffer
then holds `c ++ t` and a NUL, and the write runs from `c`'s NUL to `t`'s. -/
theorem strcat_nul (hp : p.take (c.length + 1) = c ++ [0]) (hc : 0 ∉ c) (ht : 0 ∉ t)
    (hlen : c.length + t.length + 1 ≤ p.length) :
    (strcat p (t ++ [0])).1.length = p.length ∧
      (strcat p (t ++ [0])).1.take (c.length + t.length + 1) = c ++ t ++ [0] ∧
      (strcat p (t ++ [0])).2 = ⟨c.length, c.length + t.length, p.length⟩ := by
  have hsplit : p = c ++ 0 :: p.drop (c.length + 1) := by
    conv_lhs => rw [← List.take_append_drop (c.length + 1) p, hp]
    simp
  have hlenp : strlen p = c.length := by rw [strlen, hsplit, cString_append_nul hc]
  have htake : p.take c.length = c := by rw [hsplit]; simp
  have hs : cString (t ++ [0]) = t := cString_append_nul ht []
  have hl : (c ++ t ++ [0] ++ p.drop (c.length + (t.length + 1))).length = p.length := by
    simp only [List.length_append, List.length_drop, List.length_singleton]
    omega
  simp only [strcat, hlenp, hs, htake, List.length_append, List.length_singleton,
    ← List.append_assoc, List.take_of_length_le hl.le]
  refine ⟨by simp only [List.length_drop]; omega, List.take_left' ?_, rfl⟩
  simp only [List.length_append, List.length_singleton]

end Strings

/-- What holds after the rounds for the players `xs`, at least one: the payload buffer has
`total_size` bytes and holds the lines of `xs` and a NUL, `total_size` exceeds the lines'
length by `i`, the number of rounds, and every write so far stayed in its buffer. -/
structure UsersLocals.Holds (st : UsersLocals) (xs : List (List UInt8 × Int)) : Prop where
  ne_nil : xs ≠ []
  i_eq : st.i = xs.length
  total_eq : st.totalSize = (usersText xs).length + xs.length
  payload : ∃ p, st.payload = some p ∧ p.length = st.totalSize ∧
    p.take ((usersText xs).length + 1) = usersText xs ++ [0]
  bounds : ∀ x ∈ st.writes, x.InBounds

/-- A round formats the player's line, `line_size` being its length and its NUL. -/
theorem usersRound_line (st : UsersLocals) (name : List UInt8) (r : Int) :
    usersRound st name r =
      let t := World.usersLine (cString name) r
      let p := match st.payload with
        | none => strdup (t ++ [0])
        | some p => strcat (realloc p (st.totalSize + (t.length + 1))) (t ++ [0])
      ⟨st.totalSize + (t.length + 1), some p.1, st.i + 1,
        st.writes ++ [⟨0, t.length, t.length + 1⟩, p.2]⟩ := by
  have hsize : strlen name + (ascii (toString r)).length + 3 =
      (World.usersLine (cString name) r).length + 1 := by
    simp only [strlen, World.usersLine, List.length_append,
      show (ascii "\t").length = 1 from rfl, show (ascii "\n").length = 1 from rfl]
    omega
  simp only [usersRound, hsize]
  rw [show cString name ++ ascii "\t" ++ ascii (toString r) ++ ascii "\n" =
    World.usersLine (cString name) r from rfl, snprintf_fresh]

/-- The first round copies the line with `strdup`. -/
theorem holds_first (e : List UInt8 × Int) :
    (usersRound ⟨0, none, 0, []⟩ e.1 e.2).Holds [e] := by
  have ht := zero_not_mem_usersLine e.1 e.2
  rw [usersRound_line]
  simp only [strdup_nul ht]
  refine ⟨List.cons_ne_nil _ _, rfl, by simp [usersText], ⟨_, rfl, by simp, by simp [usersText]⟩,
    by simp [BufWrite.InBounds]⟩

/-- A later round appends the line with `realloc` and `strcat`. -/
theorem UsersLocals.Holds.round {st : UsersLocals} {xs : List (List UInt8 × Int)}
    (h : st.Holds xs) (e : List UInt8 × Int) : (usersRound st e.1 e.2).Holds (xs ++ [e]) := by
  obtain ⟨hne, hi, htot, ⟨p, hp, hpl, hpt⟩, hb⟩ := h
  have ht := zero_not_mem_usersLine e.1 e.2
  have hc : (0 : UInt8) ∉ usersText xs := by
    simp only [usersText, List.mem_flatMap, not_exists, not_and]
    exact fun x _ => zero_not_mem_usersLine x.1 x.2
  have hn : 0 < xs.length := List.length_pos.2 hne
  have htext : usersText (xs ++ [e]) = usersText xs ++ World.usersLine (cString e.1) e.2 := by
    simp [usersText]
  rw [usersRound_line]
  simp only [hp]
  set c := usersText xs
  set t := World.usersLine (cString e.1) e.2
  clear_value c t
  have hq := take_realloc (p := p) (k := c.length + 1) (n := st.totalSize + (t.length + 1))
    (by omega) (by omega)
  obtain ⟨h1, h2, h3⟩ := strcat_nul (hq.trans hpt) hc ht (by rw [realloc_length]; omega)
  rw [realloc_length] at h1 h3
  refine ⟨by simp, by simp [hi], by simp [htot, htext]; omega,
    ⟨_, rfl, h1, by rw [htext, List.length_append]; simpa using h2⟩, ?_⟩
  intro x hx
  simp only [List.mem_append, List.mem_cons, List.mem_singleton, List.not_mem_nil, or_false] at hx
  rcases hx with hx | rfl | rfl
  · exact hb x hx
  · simp [BufWrite.InBounds]
  · rw [h3]; simp only [BufWrite.InBounds]; omega



theorem UsersLocals.Holds.loop {st : UsersLocals} {xs : List (List UInt8 × Int)}
    (h : st.Holds xs) (es : List (List UInt8 × Int)) :
    (es.foldl (fun st e => usersRound st e.1 e.2) st).Holds (xs ++ es) := by
  induction es generalizing st xs with
  | nil => simpa using h
  | cons e es ih => simpa using ih (h.round e)

/-- After the loop over a nonempty snapshot, the invariant holds of all its players. -/
theorem usersLoop_holds {entries : List (List UInt8 × Int)} (hne : entries ≠ []) :
    (usersLoop entries).Holds entries := by
  obtain ⟨e, es, rfl⟩ := List.exists_cons_of_ne_nil hne
  simpa using (holds_first e).loop es

/-- The buffers of the USERS case on a nonempty snapshot: the data handed to `client_send_ack`
is the lines of the spec, its size their length, and the writes stay in their buffers
exactly when there are fewer than five players. -/
theorem usersAck_buffers (entries : List (List UInt8 × Int)) (hne : entries ≠ []) :
    (usersAck entries).2.1 = usersText entries ∧
      (usersAck entries).2.2 = (usersText entries).length ∧
      ((∀ x ∈ (usersAck entries).1, x.InBounds) ↔ entries.length < 5) := by
  obtain ⟨-, hi, htot, ⟨p, hp, hpl, hpt⟩, hb⟩ := usersLoop_holds hne
  have hn : 0 < entries.length := List.length_pos.2 hne
  unfold usersAck
  set st := usersLoop entries
  set c := usersText entries
  clear_value st c
  have hsize : st.totalSize - st.i = c.length := by omega
  have hdata : ((realloc p (c.length + 5)).set st.totalSize 0).take c.length = c := by
    rw [List.take_set_of_lt 0 _ (by omega), take_realloc (by omega) (by omega)]
    simpa [List.take_take] using congrArg (List.take c.length) hpt
  refine ⟨by simpa only [hp, Option.getD_some, hsize] using hdata, hsize, ?_⟩
  simp only [realloc_length, List.mem_append, List.mem_singleton, hsize]
  refine ⟨fun h => ?_, fun h x hx => ?_⟩
  · have := h _ (.inr rfl)
    simp only [BufWrite.InBounds] at this
    omega
  · rcases hx with hx | rfl
    · exact hb x hx
    · simp only [BufWrite.InBounds]; omega

/-- A nonempty snapshot has a nonempty payload: each line ends in a newline. -/
theorem usersText_length_pos {entries : List (List UInt8 × Int)} (hne : entries ≠ []) :
    0 < (usersText entries).length := by
  obtain ⟨e, es, rfl⟩ := List.exists_cons_of_ne_nil hne
  have hnl : (ascii "\n").length = 1 := by decide
  simp [usersText, World.usersLine, hnl]

/-- The USERS case on a nonempty snapshot, its last `realloc` succeeding: it hands
`client_send_ack` the lines of the spec as data, with their length as size, and its writes all
stay in their buffers exactly when there are fewer than five players. From five on, the NUL
stored at index `total_size` lies past the `total_size - i + 5` bytes the payload was
reallocated to. Below 65536 bytes the frame `client_send_packet` writes for that ACK carries
exactly those lines; from 65536 bytes on, `htons` cuts the size field. -/
theorem usersAck_spec (entries : List (List UInt8 × Int)) (hne : entries ≠ []) :
    (usersAck entries).2.1 = usersText entries ∧
      (usersAck entries).2.2 = (usersText entries).length ∧
      ((∀ x ∈ (usersAck entries).1, x.InBounds) ↔ entries.length < 5) ∧
      ∀ (w : World) (c : Nat), (usersText entries).length < 65536 →
        ∃ b, (w.clientSendPacket c ⟨.ackPkt, 0, 0, (usersAck entries).2.2,
          some (usersAck entries).2.1⟩).2.writes =
            w.writes ++ [⟨c, ⟨.ackPkt, 0, 0, usersText entries⟩, b⟩] := by
  obtain ⟨hd, hs, hb⟩ := usersAck_buffers entries hne
  refine ⟨hd, hs, hb, fun w c hlt => ?_⟩
  obtain ⟨b, h⟩ := World.clientSendPacket_frame w c
    ⟨.ackPkt, 0, 0, (usersAck entries).2.2, some (usersAck entries).2.1⟩
  refine ⟨b, h.trans ?_⟩
  simp only [hd, hs, Nat.mod_eq_of_lt hlt, usersText_length_pos hne, if_true, Option.getD_some,
    List.take_length]

example : usersAck [(ascii "ann", 1500), (ascii "bo", -7)] =
    ([⟨0, 9, 10⟩, ⟨0, 9, 10⟩, ⟨0, 6, 7⟩, ⟨9, 15, 17⟩, ⟨17, 17, 20⟩],
      ascii "ann\t1500\nbo\t-7\n", 15) := by decide

/-- The names and ratings of the five players, in the order `creg_all_players` lists them. -/
def fivePlayers : List (List UInt8 × Int) :=
  [(ascii "e", 1500), (ascii "d", 1500), (ascii "c", 1500), (ascii "b", 1500), (ascii "a", 1500)]

/-- The five players of `fivePlayers`. -/
theorem usersAck_spec_five :
    fivePlayers ≠ [] ∧ (usersAck fivePlayers).2.1 = usersText fivePlayers ∧
      (usersAck fivePlayers).2.2 = (usersText fivePlayers).length ∧
      ((∀ x ∈ (usersAck fivePlayers).1, x.InBounds) ↔ fivePlayers.length < 5) ∧
      ∀ (w : World) (c : Nat), (usersText fivePlayers).length < 65536 →
        ∃ b, (w.clientSendPacket c ⟨.ackPkt, 0, 0, (usersAck fivePlayers).2.2,
          some (usersAck fivePlayers).2.1⟩).2.writes =
            w.writes ++ [⟨c, ⟨.ackPkt, 0, 0, usersText fivePlayers⟩, b⟩] :=
  ⟨by decide, usersAck_spec fivePlayers (by decide)⟩

/-! ## Five players -/

/-- Five clients connect and log in as `a`, `b`, `c`, `d` and `e`. -/
def fiveEvents : List Server.Event :=
  [.connect 10, .connect 11, .connect 12, .connect 13, .connect 14,
    .packet 0 (.request .loginPkt 0 0 "a"), .packet 1 (.request .loginPkt 0 0 "b"),
    .packet 2 (.request .loginPkt 0 0 "c"), .packet 3 (.request .loginPkt 0 0 "d"),
    .packet 4 (.request .loginPkt 0 0 "e")]

/-- The server after `fiveEvents`. -/
def fiveLoggedIn : Server := (Server.init []).run fiveEvents

/-- Five players are logged in and `a` asks for USERS. The snapshot holds their five players;
the ACK the server sends carries their five lines, 35 bytes, its size; and the case stores the
payload's NUL at index 40 of a buffer reallocated to 40 bytes. -/
theorem users_five_players_overflow :
    fiveLoggedIn.Reachable ∧
      fiveLoggedIn.world.cregAllPlayers.1.map (fun p =>
        (fiveLoggedIn.world.players p).map fun pl => (pl.username, pl.rating)) =
        fivePlayers.map some ∧
      (fiveLoggedIn.run [.packet 0 (.request .usersPkt 0 0 "")]).world.writes.getLast?.map
        (·.frame.payload) = some (usersAck fivePlayers).2.1 ∧
      (usersAck fivePlayers).2 = (usersText fivePlayers, 35) ∧
      (⟨40, 40, 40⟩ : BufWrite) ∈ (usersAck fivePlayers).1 ∧
      ¬(⟨40, 40, 40⟩ : BufWrite).InBounds :=
  ⟨⟨[], _, rfl⟩, by decide⟩

end JeuxServer
