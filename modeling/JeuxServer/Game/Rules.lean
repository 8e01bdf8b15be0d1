import JeuxServer.Game.Engine
import Mathlib.Data.Fintype.Card

/-!
# The rules every game keeps

A game is only ever changed by `game_apply_move` and `game_resign`. Starting from
`game_create`, with moves that `game_parse_move` can return (a mark `1` or `2` on a square
`1`..`9`), every game reached satisfies `Game.Valid`: the cells hold `0`, `1` or `2`, the move
count is the number of filled cells, X has made as many moves as O or one more according to
whose turn it is, and a game still in play has no line, an empty cell and no winner.
`Valid.perform` is the step lemma and `valid_play` the run lemma.

From the invariant: a move that ends the game completes lines of one role only, which is
then the winner, or fills the board with no line (`Game.WinnerOfLines`), and
`game_get_winner` reads the `winner` field (`Valid.gameGetWinner_eq`), so its `win` tests are
never reached. A move can complete two lines at once (`drawnCorners`).

A move parsed for a player's role and applied is made on that role's turn and places that
role's mark on one empty cell (`parsed_move_marks`), whichever form the string has.
-/

set_option autoImplicit false

namespace JeuxServer

namespace Game

/-- The number of cells holding `v`. -/
def count (g : Game) (v : Nat) : Nat := (Finset.univ.filter fun i => g.board i = v).card

/-- The number of non-empty cells. -/
def filled (g : Game) : Nat := (Finset.univ.filter fun i => g.board i ≠ 0).card

/-- The eight lines `win` tests, in its order. -/
def lines : List (List (Fin 9)) :=
  [[0, 1, 2], [3, 4, 5], [6, 7, 8], [0, 3, 6], [1, 4, 7], [2, 5, 8], [0, 4, 8], [2, 4, 6]]

/-- The lines filled with `player`. -/
def completedLines (g : Game) (player : Nat) : List (List (Fin 9)) :=
  lines.filter fun l => l.all fun i => g.board i == player

/-- The role on the move: `FIRST_PLAYER_ROLE` when `turn_X` is set. -/
def turnRole (g : Game) : GameRole := if g.turnX then .firstPlayerRole else .secondPlayerRole

/-- `win` is the test that some line is filled with the player. -/
theorem win_eq_any (g : Game) (player : Nat) :
    g.win player = lines.any fun l => l.all fun i => g.board i == player := by
  simp [win, lines, Bool.or_assoc, Bool.and_assoc]

/-- `win` reads only the cells equal to the player. -/
theorem win_congr {g g' : Game} {p : Nat} (h : ∀ i, (g'.board i = p ↔ g.board i = p)) :
    g'.win p = g.win p := by
  have key : ∀ i, (g'.board i == p) = (g.board i == p) := fun i => by
    simp only [beq_eq_decide]; exact decide_eq_decide.2 (h i)
  simp only [win, key]

/-- Cells satisfying `P` after one cell that did not is overwritten with `v`. -/
theorem card_filter_update (f : Fin 9 → Nat) (i : Fin 9) (v : Nat) (P : Nat → Prop)
    [DecidablePred P] (hi : ¬P (f i)) :
    (Finset.univ.filter fun j => P (Function.update f i v j)).card =
      (Finset.univ.filter fun j => P (f j)).card + if P v then 1 else 0 := by
  by_cases hv : P v
  · have : (Finset.univ.filter fun j => P (Function.update f i v j)) =
        insert i (Finset.univ.filter fun j => P (f j)) := by
      ext j; by_cases hj : j = i <;> simp [hj, hv, Function.update_noteq]
    rw [this, Finset.card_insert_of_not_mem (by simp [hi]), if_pos hv]
  · have : (Finset.univ.filter fun j => P (Function.update f i v j)) =
        (Finset.univ.filter fun j => P (f j)) := by
      ext j; by_cases hj : j = i <;> simp [hj, hv, hi, Function.update_noteq]
    rw [this, if_neg hv, Nat.add_zero]

theorem filled_le (g : Game) : g.filled ≤ 9 :=
  (Finset.card_filter_le _ _).trans (by simp)

/-! ## What one placement does -/

section Place

variable (g : Game) (sq : Fin 9) (p : Nat)

@[simp] theorem board_place : (g.place sq p).board = Function.update g.board sq p := by
  simp only [place, apply_ite Game.board, ite_self]

@[simp] theorem turnX_place : (g.place sq p).turnX = !g.turnX := by
  simp only [place, apply_ite Game.turnX, ite_self]

@[simp] theorem numTurns_place : (g.place sq p).numTurns = g.numTurns + 1 := by
  simp only [place, apply_ite Game.numTurns, ite_self]

/-- The line tests of `Game.place` read the board it writes. -/
theorem win_mk_place (t : Bool) (n : Nat) (r : GameRole) (d : Bool) (q : Nat) :
    (Game.mk t n (Function.update g.board sq p) r d).win q = (g.place sq p).win q :=
  win_congr fun i => by rw [board_place]

/-- The winner after a placement: O's line is tested last, so it would overwrite X's. -/
theorem winner_place : (g.place sq p).winner =
    if (g.place sq p).win 2 then .secondPlayerRole
    else if (g.place sq p).win 1 then .firstPlayerRole else g.winner := by
  have e := win_mk_place g sq p
  generalize (g.place sq p).win = W at e ⊢
  cases h1 : W 1 <;> cases h2 : W 2 <;>
    simp only [place, e, h1, h2, Bool.false_eq_true, if_true, if_false, apply_ite Game.winner,
      ite_self]

theorem terminated_place : (g.place sq p).terminated =
    ((g.place sq p).win 1 || (g.place sq p).win 2 || decide (9 ≤ g.numTurns + 1) ||
      g.terminated) := by
  have e := win_mk_place g sq p
  generalize (g.place sq p).win = W at e ⊢
  cases h1 : W 1 <;> cases h2 : W 2 <;>
    simp only [place, e, h1, h2, Bool.false_eq_true, if_true, if_false, apply_ite Game.terminated,
      Bool.true_or, Bool.false_or, ite_self]
  split <;> simp [*]

end Place

/-- Overwriting an empty cell with one player's mark leaves the other player's lines as they
were. -/
theorem win_place_other {g : Game} {sq : Fin 9} {p q : Nat} (hsq : g.board sq = 0)
    (hq : q ≠ 0) (hpq : p ≠ q) : (g.place sq p).win q = g.win q :=
  win_congr fun i => by
    by_cases hi : i = sq
    · subst hi; simp [hsq, hpq, Ne.symm hq]
    · simp [Function.update_noteq hi]

/-! ## The invariant -/

/-- What holds of every game reached from `game_create`. -/
structure Valid (g : Game) : Prop where
  cells : ∀ i, g.board i ≤ 2
  turns : g.numTurns = g.filled
  balance : g.count 1 = g.count 2 + if g.turnX then 0 else 1
  playing : g.terminated = false →
    g.win 1 = false ∧ g.win 2 = false ∧ g.numTurns < 9 ∧ g.winner = .nullRole

/-- How the move that ends a game leaves the winner: every completed line is the winner's, or
the board is full with no line and there is no winner. -/
def WinnerOfLines (g : Game) : Prop :=
  (g.win 1 = true → g.winner = .firstPlayerRole ∧ g.win 2 = false) ∧
  (g.win 2 = true → g.winner = .secondPlayerRole ∧ g.win 1 = false) ∧
  (g.win 1 = false → g.win 2 = false → g.filled = 9 ∧ g.winner = .nullRole)

theorem valid_gameCreate : gameCreate.Valid where
  cells _ := by simp [gameCreate]
  turns := by simp [filled, gameCreate]
  balance := by simp [count, gameCreate]
  playing _ := ⟨rfl, rfl, by decide, rfl⟩

/-- A legal placement: an empty cell, the mark of the player on the move, a game in play. -/
structure Legal (g : Game) (sq : Fin 9) (p : Nat) : Prop where
  empty : g.board sq = 0
  mark : (p = 1 ∧ g.turnX = true) ∨ (p = 2 ∧ g.turnX = false)
  running : g.terminated = false

section Step

variable {g : Game} {sq : Fin 9} {p : Nat}

theorem filled_place (h : g.Legal sq p) : (g.place sq p).filled = g.filled + 1 := by
  have hp : p ≠ 0 := by rcases h.mark with ⟨rfl, _⟩ | ⟨rfl, _⟩ <;> decide
  simpa [filled, hp] using card_filter_update g.board sq p (· ≠ 0) (by simpa using h.empty)

theorem count_place (h : g.Legal sq p) (v : Nat) (hv : v ≠ 0) :
    (g.place sq p).count v = g.count v + if p = v then 1 else 0 := by
  simpa [count] using card_filter_update g.board sq p (· = v) (by simpa [h.empty] using hv.symm)

/-- The step lemma for a move. -/
theorem Valid.place (hv : g.Valid) (h : g.Legal sq p) : (g.place sq p).Valid where
  cells i := by
    by_cases hi : i = sq
    · subst hi; rcases h.mark with ⟨rfl, _⟩ | ⟨rfl, _⟩ <;> simp
    · simpa [Function.update_noteq hi] using hv.cells i
  turns := by rw [filled_place h, numTurns_place, hv.turns]
  balance := by
    have hb := hv.balance
    rw [count_place h 1 one_ne_zero, count_place h 2 two_ne_zero, turnX_place]
    rcases h.mark with ⟨rfl, ht⟩ | ⟨rfl, ht⟩ <;> simp_all
  playing ht := by
    obtain ⟨-, -, hn, hw⟩ := hv.playing h.running
    simp only [terminated_place, Bool.or_eq_false_iff, decide_eq_false_iff_not, not_le] at ht
    obtain ⟨⟨⟨h1, h2⟩, h9⟩, -⟩ := ht
    exact ⟨h1, h2, by simpa using h9, by simp [winner_place, h1, h2, hw]⟩

/-- The step lemma for a move that ends the game. -/
theorem Valid.place_ended (hv : g.Valid) (h : g.Legal sq p)
    (ht : (g.place sq p).terminated = true) : (g.place sq p).WinnerOfLines := by
  obtain ⟨h1, h2, hn, hw⟩ := hv.playing h.running
  have full : (g.place sq p).win 1 = false → (g.place sq p).win 2 = false →
      (g.place sq p).filled = 9 := fun e1 e2 => by
    have := (hv.place h).turns
    simp only [terminated_place, e1, e2, h.running, Bool.false_or, Bool.or_false,
      decide_eq_true_eq] at ht
    have := filled_le (g.place sq p)
    simp only [numTurns_place] at *
    omega
  rcases h.mark with ⟨rfl, -⟩ | ⟨rfl, -⟩
  · have o2 : (g.place sq 1).win 2 = false := by
      rw [win_place_other h.empty two_ne_zero (by decide), h2]
    refine ⟨fun e1 => ⟨by simp [winner_place, e1, o2], o2⟩, by simp [o2], fun e1 _ =>
      ⟨full e1 o2, by simp [winner_place, e1, o2, hw]⟩⟩
  · have o1 : (g.place sq 2).win 1 = false := by
      rw [win_place_other h.empty one_ne_zero (by decide), h1]
    refine ⟨by simp [o1], fun e2 => ⟨by simp [winner_place, e2], o1⟩, fun _ e2 =>
      ⟨full o1 e2, by simp [winner_place, e2, o1, hw]⟩⟩

theorem Valid.resign (hv : g.Valid) (role : GameRole) : (g.resign role).Valid where
  cells := hv.cells
  turns := hv.turns
  balance := hv.balance
  playing ht := by simp [Game.resign] at ht

end Step

end Game

open Game

/-! ## `game_apply_move` and `game_parse_move` -/

/-- A successful `game_apply_move`: the move's square is empty, its mark is not the one off
the move, the game is in play, and the mark is placed. -/
theorem gameApplyMove_eq_some {g g' : Game} {m : GameMove} (h : gameApplyMove g m = some g') :
    ∃ sq : Fin 9, sq.val + 1 = m.square ∧ g.board sq = 0 ∧ (m.player = 1 → g.turnX = true) ∧
      (m.player = 2 → g.turnX = false) ∧ g.terminated = false ∧ g' = g.place sq m.player := by
  unfold gameApplyMove at h
  split at h
  · dsimp only at h
    split at h
    · cases h
    · rename_i hsq hl
      simp only [not_or, not_and, Bool.not_eq_true, Bool.not_eq_false, ne_eq, not_not] at hl
      cases h
      exact ⟨⟨m.square - 1, by omega⟩, by simp; omega, hl.1, hl.2.1, hl.2.2.1, hl.2.2.2, rfl⟩
  · cases h

/-- A digit `'1'`..`'9'` stands for a square `1`..`9`. -/
theorem isMoveDigit_square {d : UInt8} (h : isMoveDigit d = true) :
    1 ≤ d.toNat - '0'.toNat ∧ d.toNat - '0'.toNat ≤ 9 := by
  simp only [isMoveDigit, Bool.and_eq_true, decide_eq_true_eq] at h
  have h1 : 49 ≤ d.toNat := h.1
  have h2 : d.toNat ≤ 57 := h.2
  show 1 ≤ d.toNat - 48 ∧ d.toNat - 48 ≤ 9
  omega

/-- A move `game_parse_move` returns: its mark is X or O, its square is `1`..`9`, and a role
other than `NULL_ROLE` it was parsed for is the role on the move. -/
theorem gameParseMove_eq_some {g : Game} {r : GameRole} {s : List UInt8} {a : Bool}
    {m : GameMove} (h : gameParseMove g r s a = some m) :
    (r ≠ .nullRole → r = g.turnRole) ∧ (m.player = 1 ∨ m.player = 2) ∧
      1 ≤ m.square ∧ m.square ≤ 9 := by
  unfold gameParseMove at h
  split at h
  · cases h
  · rename_i hr
    refine ⟨fun hn => ?_, ?_⟩
    · revert hr hn; unfold turnRole; cases r <;> cases g.turnX <;> simp
    · dsimp only at h
      cases a
      · cases h
      rw [if_pos rfl] at h
      split at h
      · split at h
        · cases h
          exact ⟨by split <;> simp, isMoveDigit_square ‹_›⟩
        · cases h
      · split at h
        · cases h
        · rename_i hd
          split at h
          · cases h
          · cases h
            exact ⟨by split <;> simp, isMoveDigit_square (by simpa using hd)⟩
      · cases h
/-- A successful `game_apply_move` of a move with mark X or O is a legal placement. -/
theorem legal_of_apply {g g' : Game} {m : GameMove} (hm : m.player = 1 ∨ m.player = 2)
    (ha : gameApplyMove g m = some g') : ∃ sq, g.Legal sq m.player ∧ g' = g.place sq m.player := by
  obtain ⟨sq, -, h0, h1, h2, hrun, rfl⟩ := gameApplyMove_eq_some ha
  exact ⟨sq, ⟨h0, hm.imp (fun e => ⟨e, h1 e⟩) (fun e => ⟨e, h2 e⟩), hrun⟩, rfl⟩

/-- A move parsed for a player's role and applied: the role is the one on the move, and its
mark goes on one empty cell and nowhere else. -/
theorem parsed_move_marks {g g' : Game} {r : GameRole} {s : List UInt8} {m : GameMove}
    (hr : r ≠ .nullRole) (hp : gameParseMove g r s true = some m)
    (ha : gameApplyMove g m = some g') :
    r = g.turnRole ∧ ∃ sq, g.board sq = 0 ∧ g'.board = Function.update g.board sq r.toNat := by
  obtain ⟨hturn, hpl, -⟩ := gameParseMove_eq_some hp
  obtain ⟨sq, -, h0, h1, h2, -, rfl⟩ := gameApplyMove_eq_some ha
  refine ⟨hturn hr, sq, h0, ?_⟩
  rw [board_place, hturn hr]
  cases ht : g.turnX <;> rcases hpl with e | e <;> simp_all [turnRole, GameRole.toNat]

/-! ## A game's life -/

/-- What is done to a game: a move applied with `game_apply_move`, or `game_resign` for a
role. -/
inductive GameOp where
  | move (m : GameMove)
  | resign (role : GameRole)
  deriving DecidableEq, Repr

/-- The operations of a game's life: moves that `game_parse_move` returns for some game, role
and string; resignations for any role. -/
def GameOp.Parsed : GameOp → Prop
  | .move m => ∃ g r s, gameParseMove g r s true = some m
  | .resign _ => True

/-- The moves `game_parse_move` can return are the marks `1` and `2` on the squares `1`..`9`. -/
theorem GameOp.parsed_move_iff {m : GameMove} :
    (GameOp.move m).Parsed ↔ (m.player = 1 ∨ m.player = 2) ∧ 1 ≤ m.square ∧ m.square ≤ 9 := by
  refine ⟨fun ⟨_, _, _, h⟩ => (gameParseMove_eq_some h).2, fun ⟨hp, h1, h9⟩ => ?_⟩
  obtain ⟨p, sq⟩ := m
  refine ⟨gameCreate, .nullRole, [(sq + 48).toUInt8, 60, 45, if p = 1 then 88 else 79], ?_⟩
  simp only at hp h1 h9
  rcases hp with rfl | rfl <;>
    rcases (by omega : sq = 1 ∨ sq = 2 ∨ sq = 3 ∨ sq = 4 ∨ sq = 5 ∨ sq = 6 ∨ sq = 7 ∨ sq = 8 ∨ sq = 9)
      with rfl | rfl | rfl | rfl | rfl | rfl | rfl | rfl | rfl <;> decide

namespace Game

/-- One operation; a call that returns `-1` leaves the game as it was. -/
def perform (g : Game) : GameOp → Game
  | .move m => (gameApplyMove g m).getD g
  | .resign r => (gameResign g r).getD g

/-- A sequence of operations. -/
def play (g : Game) (ops : List GameOp) : Game := ops.foldl perform g

section Run

variable {g : Game}

/-- The step lemma: an operation keeps the invariant. -/
theorem Valid.perform (hv : g.Valid) {op : GameOp} (hop : op.Parsed) : (g.perform op).Valid := by
  cases op with
  | move m =>
      cases ha : gameApplyMove g m with
      | none => simpa [Game.perform, ha] using hv
      | some g' =>
          obtain ⟨sq, hl, rfl⟩ := legal_of_apply (GameOp.parsed_move_iff.1 hop).1 ha
          simpa [Game.perform, ha] using hv.place hl
  | resign r =>
      by_cases ht : g.terminated = true
      · simpa [Game.perform, gameResign, ht] using hv
      · simpa [Game.perform, gameResign, ht] using hv.resign r

/-- The run lemma. -/
theorem valid_play (hv : g.Valid) {ops : List GameOp} (hops : ∀ op ∈ ops, op.Parsed) :
    (g.play ops).Valid := by
  induction ops generalizing g with
  | nil => exact hv
  | cons op ops ih =>
      exact ih (hv.perform (hops op (.head _))) fun o h => hops o (.tail _ h)

theorem Valid.numTurns_le (hv : g.Valid) : g.numTurns ≤ 9 := hv.turns ▸ filled_le g

/-- `game_get_winner`'s line tests are reached only for a game in play, which has no line. -/
theorem Valid.gameGetWinner_eq (hv : g.Valid) : gameGetWinner g = g.winner := by
  unfold gameGetWinner
  cases ht : g.terminated
  · obtain ⟨h1, h2, -, hw⟩ := hv.playing ht
    simp [h1, h2, hw]
  · rfl

/-- A move that ends a valid game leaves the winner as its lines say. -/
theorem Valid.apply_ended (hv : g.Valid) {m : GameMove} (hm : (GameOp.move m).Parsed)
    {g' : Game} (ha : gameApplyMove g m = some g') (ht : g'.terminated = true) :
    g'.WinnerOfLines := by
  obtain ⟨sq, hl, rfl⟩ := legal_of_apply (GameOp.parsed_move_iff.1 hm).1 ha
  exact hv.place_ended hl ht

end Run

end Game

/-! ## Every game reached from `game_create` -/

/-- From `game_create`, through any parsed moves and resignations: the cells, the move count,
the balance of marks, a game in play, a move that ends the game, a terminated game, and
`game_get_winner`. -/
theorem gameCreate_play_rules (ops : List GameOp) (hops : ∀ op ∈ ops, op.Parsed) :
    let g := gameCreate.play ops
    (∀ i, g.board i = 0 ∨ g.board i = 1 ∨ g.board i = 2) ∧
    g.numTurns = g.filled ∧ g.numTurns ≤ 9 ∧
    (g.count 1 : Int) - g.count 2 = (if g.turnX then 0 else 1) ∧
    (g.terminated = false →
      g.win 1 = false ∧ g.win 2 = false ∧ g.filled < 9 ∧ g.winner = .nullRole) ∧
    (∀ m g', (GameOp.move m).Parsed → gameApplyMove g m = some g' → g'.terminated = true →
      g'.WinnerOfLines) ∧
    (g.terminated = true → ∀ m r, gameApplyMove g m = none ∧ gameResign g r = none) ∧
    gameGetWinner g = g.winner := by
  intro g
  have hv : g.Valid := valid_play valid_gameCreate hops
  refine ⟨fun i => by have := hv.cells i; omega, hv.turns, hv.numTurns_le, ?_, fun ht => ?_,
    fun m g' hm ha => hv.apply_ended hm ha,
    fun ht m r => ⟨gameApplyMove_terminated ht m, gameResign_terminated ht r⟩, hv.gameGetWinner_eq⟩
  · have := hv.balance
    split <;> simp_all
  · obtain ⟨h1, h2, hn, hw⟩ := hv.playing ht
    exact ⟨h1, h2, hv.turns ▸ hn, hw⟩

/-- X takes the corners 1, 3, 7 and 9 and O the edges 2, 4, 6 and 8, with no line made; X's
ninth move, at the centre, completes both diagonals. -/
def bothDiagonals : List GameOp :=
  [.move ⟨1, 1⟩, .move ⟨2, 2⟩, .move ⟨1, 3⟩, .move ⟨2, 4⟩, .move ⟨1, 7⟩, .move ⟨2, 6⟩,
    .move ⟨1, 9⟩, .move ⟨2, 8⟩, .move ⟨1, 5⟩]

theorem bothDiagonals_parsed : ∀ op ∈ bothDiagonals, op.Parsed := by
  simp only [bothDiagonals, List.mem_cons, List.mem_nil_iff, or_false]
  rintro op (rfl | rfl | rfl | rfl | rfl | rfl | rfl | rfl | rfl) <;>
    exact GameOp.parsed_move_iff.2 (by decide)

theorem gameCreate_play_rules_bothDiagonals :
    (∀ op ∈ bothDiagonals, op.Parsed) ∧
    let g := gameCreate.play bothDiagonals
    (∀ i, g.board i = 0 ∨ g.board i = 1 ∨ g.board i = 2) ∧
    g.numTurns = g.filled ∧ g.numTurns ≤ 9 ∧
    (g.count 1 : Int) - g.count 2 = (if g.turnX then 0 else 1) ∧
    (g.terminated = false →
      g.win 1 = false ∧ g.win 2 = false ∧ g.filled < 9 ∧ g.winner = .nullRole) ∧
    (∀ m g', (GameOp.move m).Parsed → gameApplyMove g m = some g' → g'.terminated = true →
      g'.WinnerOfLines) ∧
    (g.terminated = true → ∀ m r, gameApplyMove g m = none ∧ gameResign g r = none) ∧
    gameGetWinner g = g.winner :=
  ⟨bothDiagonals_parsed, gameCreate_play_rules bothDiagonals bothDiagonals_parsed⟩

/-- The move that ends the game completes two lines, both of them X's. -/
theorem bothDiagonals_two_lines :
    (∀ op ∈ bothDiagonals, op.Parsed) ∧
    (gameCreate.play bothDiagonals.dropLast).terminated = false ∧
    (gameCreate.play bothDiagonals).terminated = true ∧
    (gameCreate.play bothDiagonals).completedLines 1 = [[0, 4, 8], [2, 4, 6]] ∧
    (gameCreate.play bothDiagonals).completedLines 2 = [] ∧
    (gameCreate.play bothDiagonals).winner = .firstPlayerRole :=
  ⟨bothDiagonals_parsed, by decide⟩

end JeuxServer
