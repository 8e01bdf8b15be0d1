import JeuxServer.Game.Rules

/-!
# Move texts: `game_parse_move` and `game_unparse_move`

`game_parse_move(game, role, str)` reads a move from the C string `str`: a digit `1`..`9`
alone, which places the mark of `role`, or the digit followed by `<-X` or `<-O`, which names
the mark. For the role on the move it returns a move exactly when the text has one of these
forms and the `malloc` of the move succeeds; when that `malloc` fails it returns `NULL` whatever
the text (`gameParseMove_iff`). `game_unparse_move` writes the long form, and the parser reads
it back to the same move (`gameUnparseMove_digit`, `gameParseMove_gameUnparseMove`).
-/

set_option autoImplicit false

namespace JeuxServer

/-- A C string with no NUL byte is the whole buffer. -/
theorem cString_of_ne_zero {s : List UInt8} (h : ∀ b ∈ s, b ≠ 0) : cString s = s :=
  List.takeWhile_eq_self_iff.2 (by simpa using h)

/-- The decimal text of a square `1`..`9` is its one digit. -/
theorem ascii_repr_digit :
    ∀ n, 1 ≤ n → n ≤ 9 → ascii (Nat.repr n) = [(n + '0'.toNat).toUInt8]
  | 1, _, _ | 2, _, _ | 3, _, _ | 4, _, _ | 5, _, _ | 6, _, _ | 7, _, _ | 8, _, _ | 9, _, _ => rfl
  | 0, h, _ => absurd h (by omega)
  | _ + 10, _, h => absurd h (by omega)

/-- A digit byte is the digit of the square it stands for. -/
theorem toUInt8_square {d : UInt8} (hd : isMoveDigit d) :
    (d.toNat - '0'.toNat + '0'.toNat).toUInt8 = d := by
  have h : 1 ≤ d.toNat - 48 := (isMoveDigit_square hd).1
  show (d.toNat - 48 + 48).toUInt8 = d
  rw [Nat.sub_add_cancel (by omega)]
  exact UInt8.toNat.inj (Nat.mod_eq_of_lt (UInt8.toNat_lt_size d))

/-- For the role on the move, `game_parse_move` returns a move exactly when the move's `malloc`
succeeds and the text is a digit `d` alone (the role's mark), `d<-X` (mark 1) or `d<-O`
(mark 2), the move's square being `d`. -/
theorem gameParseMove_iff {g : Game} {r : GameRole} (ht : r = g.turnRole)
    (s : List UInt8) (a : Bool) (m : GameMove) :
    gameParseMove g r s a = some m ↔ a = true ∧
      ((∃ d, cString s = [d] ∧ isMoveDigit d ∧ m = ⟨r.toNat, d.toNat - '0'.toNat⟩) ∨
        (∃ d, cString s = d :: ascii "<-X" ∧ isMoveDigit d ∧ m = ⟨1, d.toNat - '0'.toNat⟩) ∨
        ∃ d, cString s = d :: ascii "<-O" ∧ isMoveDigit d ∧ m = ⟨2, d.toNat - '0'.toNat⟩) := by
  have hpass : ¬(r ≠ .nullRole ∧ ((r = .firstPlayerRole ∧ g.turnX = false) ∨
      (r = .secondPlayerRole ∧ g.turnX = true))) := by
    subst ht; unfold Game.turnRole; cases g.turnX <;> simp
  have hmark : (if r = .firstPlayerRole then 1 else 2) = r.toNat := by
    subst ht; unfold Game.turnRole; cases g.turnX <;> rfl
  unfold gameParseMove
  rw [if_neg hpass]
  cases a
  · simp
  · dsimp only
    rw [if_pos rfl, hmark,
      show ascii "<-X" = ['<'.toNat.toUInt8, '-'.toNat.toUInt8, 'X'.toNat.toUInt8] from rfl,
      show ascii "<-O" = ['<'.toNat.toUInt8, '-'.toNat.toUInt8, 'O'.toNat.toUInt8] from rfl]
    match cString s with
    | [d] => simp [@eq_comm GameMove m]
    | [d, x, y, z] =>
        simp only [List.cons.injEq, reduceCtorEq, and_false, false_and, exists_false, false_or,
          and_true, true_and, and_assoc, exists_eq_left', Bool.not_eq_true',
          Option.ite_none_left_eq_some]
        constructor
        · rintro ⟨hd, hc, hm⟩
          simp only [ne_eq, not_or, not_and, not_not] at hc
          obtain ⟨rfl, rfl, hz⟩ := hc
          rw [Bool.not_eq_false] at hd
          by_cases hzx : z = 'X'.toNat.toUInt8
          · exact .inl ⟨rfl, rfl, hzx, hd, by rw [← Option.some.inj hm, if_pos hzx]⟩
          · exact .inr ⟨rfl, rfl, hz hzx, hd, by rw [← Option.some.inj hm, if_neg hzx]⟩
        · rintro (⟨rfl, rfl, rfl, hd, rfl⟩ | ⟨rfl, rfl, rfl, hd, rfl⟩)
          · simp [hd]
          · simp [hd, show Nat.toUInt8 79 ≠ Nat.toUInt8 88 by decide]
    | [] | [_, _] | [_, _, _] | _ :: _ :: _ :: _ :: _ :: _ => simp

/-- `game_unparse_move` of a move on the square of a digit is the digit, then `<-X` for mark 1
and `<-O` otherwise. -/
theorem gameUnparseMove_digit {d : UInt8} (hd : isMoveDigit d) (p : Nat) :
    gameUnparseMove ⟨p, d.toNat - '0'.toNat⟩ = d :: ascii (if p = 1 then "<-X" else "<-O") := by
  obtain ⟨h1, h9⟩ := isMoveDigit_square hd
  rw [gameUnparseMove, ascii_repr_digit _ h1 h9, toUInt8_square hd]
  split <;> rfl

/-- Every move `game_parse_move` returns for the role on the move is read back from its
`game_unparse_move` text, which is the text parsed when that had the long form. -/
theorem gameParseMove_gameUnparseMove {g : Game} {r : GameRole} (ht : r = g.turnRole)
    {s : List UInt8} {a : Bool} {m : GameMove} (h : gameParseMove g r s a = some m) :
    gameParseMove g r (gameUnparseMove m) true = some m ∧
      ((cString s).length = 4 → gameUnparseMove m = cString s) := by
  have hback : ∀ {d : UInt8} {p : Nat}, isMoveDigit d → (p = 1 ∨ p = 2) →
      gameParseMove g r (gameUnparseMove ⟨p, d.toNat - '0'.toNat⟩) true =
        some ⟨p, d.toNat - '0'.toNat⟩ := by
    intro d p hd hp
    have hnz : d ≠ 0 := fun e => by subst e; exact absurd hd (by decide)
    rw [gameParseMove_iff ht, gameUnparseMove_digit hd,
      cString_of_ne_zero (List.forall_mem_cons.2 ⟨hnz, by split <;> decide⟩)]
    rcases hp with rfl | rfl
    · exact ⟨rfl, .inr (.inl ⟨d, rfl, hd, rfl⟩)⟩
    · exact ⟨rfl, .inr (.inr ⟨d, rfl, hd, rfl⟩)⟩
  obtain ⟨-, ⟨d, hs, hd, rfl⟩ | ⟨d, hs, hd, rfl⟩ | ⟨d, hs, hd, rfl⟩⟩ :=
    (gameParseMove_iff ht s a m).1 h
  · have hr : r.toNat = 1 ∨ r.toNat = 2 := by
      subst ht; unfold Game.turnRole; cases g.turnX <;> simp [GameRole.toNat]
    exact ⟨hback hd hr, by simp [hs]⟩
  · exact ⟨hback hd (.inl rfl), fun _ => by rw [hs, gameUnparseMove_digit hd, if_pos rfl]⟩
  · exact ⟨hback hd (.inr rfl), fun _ => by rw [hs, gameUnparseMove_digit hd, if_neg (by omega)]⟩

/-- `game_parse_move` for the role on the move, on every C string, with the outcome `a` of the
move's `malloc`: it returns a move exactly when the `malloc` succeeds and the text is one of
the three forms, with the square and the mark they give; and every move it returns is read back
from its `game_unparse_move` text, which is the text parsed when that had the long form. -/
theorem gameParseMove_text {g : Game} {r : GameRole} (ht : r = g.turnRole) (s : List UInt8) :
    (∀ a m, gameParseMove g r s a = some m ↔ a = true ∧
      ((∃ d, cString s = [d] ∧ isMoveDigit d ∧ m = ⟨r.toNat, d.toNat - '0'.toNat⟩) ∨
        (∃ d, cString s = d :: ascii "<-X" ∧ isMoveDigit d ∧ m = ⟨1, d.toNat - '0'.toNat⟩) ∨
        ∃ d, cString s = d :: ascii "<-O" ∧ isMoveDigit d ∧ m = ⟨2, d.toNat - '0'.toNat⟩)) ∧
    ∀ a m, gameParseMove g r s a = some m →
      gameParseMove g r (gameUnparseMove m) true = some m ∧
        ((cString s).length = 4 → gameUnparseMove m = cString s) :=
  ⟨gameParseMove_iff ht s, fun _ _ h => gameParseMove_gameUnparseMove ht h⟩

/-- The first move of a new game, `5<-X`. -/
theorem gameParseMove_text_opening :
    GameRole.firstPlayerRole = gameCreate.turnRole ∧
    (∀ a m, gameParseMove gameCreate .firstPlayerRole (ascii "5<-X") a = some m ↔ a = true ∧
      ((∃ d, cString (ascii "5<-X") = [d] ∧ isMoveDigit d ∧
          m = ⟨GameRole.firstPlayerRole.toNat, d.toNat - '0'.toNat⟩) ∨
        (∃ d, cString (ascii "5<-X") = d :: ascii "<-X" ∧ isMoveDigit d ∧
          m = ⟨1, d.toNat - '0'.toNat⟩) ∨
        ∃ d, cString (ascii "5<-X") = d :: ascii "<-O" ∧ isMoveDigit d ∧
          m = ⟨2, d.toNat - '0'.toNat⟩)) ∧
    ∀ a m, gameParseMove gameCreate .firstPlayerRole (ascii "5<-X") a = some m →
      gameParseMove gameCreate .firstPlayerRole (gameUnparseMove m) true = some m ∧
        ((cString (ascii "5<-X")).length = 4 → gameUnparseMove m = cString (ascii "5<-X")) :=
  ⟨rfl, gameParseMove_text rfl (ascii "5<-X")⟩

/-- When the `malloc` of the move fails, the digit `5` for the role on the move of a new game
is refused. -/
theorem gameParseMove_malloc_failed :
    GameRole.firstPlayerRole = gameCreate.turnRole ∧ cString (ascii "5") = [53] ∧
      isMoveDigit 53 = true ∧ gameParseMove gameCreate .firstPlayerRole (ascii "5") false = none := by
  decide

end JeuxServer
