import Mathlib.Logic.Function.Basic
import Mathlib.Data.Fintype.Basic

/-!
# The tic-tac-toe engine of `game.c`

A `GAME` is a 3×3 board of cells `0` (empty), `1` (X) and `2` (O), the flag `turn_X`, the
move count `num_turns`, the `winner` role and the `terminated` flag. This file gives the
engine's functions as `game.c` computes them: `win`, `game_create`, `game_apply_move`,
`game_resign`, `game_get_winner`, `game_is_over`, `game_parse_move`, `game_unparse_move` and
`game_unparse_state`. Strings are the C byte strings the functions read (`List UInt8`, up to
the first NUL), so `strlen` and the character tests are the code's.

The reference counts and the mutex of a `GAME` are not fields here: a game is owned by its
invitation (`Server/Heap.lean`) and its lock is modelled in `Concurrency/Threads.lean`.
-/

set_option autoImplicit false

namespace JeuxServer

/-- `GAME_ROLE`, in the order of the enumeration quoted in `game.c`. -/
inductive GameRole where
  | nullRole
  | firstPlayerRole
  | secondPlayerRole
  deriving DecidableEq, Repr

/-- The enumeration value of a role, as a packet header carries it. -/
def GameRole.toNat : GameRole → Nat
  | .nullRole => 0
  | .firstPlayerRole => 1
  | .secondPlayerRole => 2

/-- The C string of a byte buffer: its bytes up to the first NUL. -/
def cString (s : List UInt8) : List UInt8 := s.takeWhile (· ≠ 0)

/-- The bytes of an ASCII text, used for the literal strings of the source. -/
def ascii (s : String) : List UInt8 := s.toList.map fun c => c.toNat.toUInt8

/-- The state of a `GAME`. -/
structure Game where
  turnX : Bool
  numTurns : Nat
  board : Fin 9 → Nat
  winner : GameRole
  terminated : Bool

/-- A `GAME_MOVE`: the mark placed (`1` for X, `2` for O) and the square `1`..`9`. -/
structure GameMove where
  player : Nat
  square : Nat
  deriving DecidableEq, Repr

namespace Game

/-- `win(game, player)`: some row, column or diagonal is filled with `player`. -/
def win (g : Game) (player : Nat) : Bool :=
  (g.board 0 == player && g.board 1 == player && g.board 2 == player) ||
  (g.board 3 == player && g.board 4 == player && g.board 5 == player) ||
  (g.board 6 == player && g.board 7 == player && g.board 8 == player) ||
  (g.board 0 == player && g.board 3 == player && g.board 6 == player) ||
  (g.board 1 == player && g.board 4 == player && g.board 7 == player) ||
  (g.board 2 == player && g.board 5 == player && g.board 8 == player) ||
  (g.board 0 == player && g.board 4 == player && g.board 8 == player) ||
  (g.board 2 == player && g.board 4 == player && g.board 6 == player)

end Game

/-- `game_create`: the empty board with X to move. The allocation is the caller's step. -/
def gameCreate : Game where
  turnX := true
  numTurns := 0
  board := fun _ => 0
  winner := .nullRole
  terminated := false

/-- The part of `game_apply_move` after the legality test: place the mark, pass the turn,
record a completed line, count the move and stop the game on the ninth move. -/
def Game.place (g : Game) (sq : Fin 9) (player : Nat) : Game :=
  let g := { g with board := Function.update g.board sq player, turnX := !g.turnX }
  let g := if g.win 1 then { g with winner := .firstPlayerRole, terminated := true } else g
  let g := if g.win 2 then { g with winner := .secondPlayerRole, terminated := true } else g
  let g := { g with numTurns := g.numTurns + 1 }
  if 9 ≤ g.numTurns then { g with terminated := true } else g

/-- `game_apply_move`: `none` is the return value `-1`, which leaves the game unchanged. The
square is read only once it is known to be in `1..9`, as the C `||` does. -/
def gameApplyMove (g : Game) (m : GameMove) : Option Game :=
  if h : 1 ≤ m.square ∧ m.square ≤ 9 then
    let sq : Fin 9 := ⟨m.square - 1, by omega⟩
    if g.board sq ≠ 0 ∨ (m.player = 1 ∧ g.turnX = false) ∨ (m.player = 2 ∧ g.turnX = true) ∨
        g.terminated = true then none
    else some (g.place sq m.player)
  else none

/-- What `game_resign` writes under the game's lock: the game ends and the role opposite to
`role` wins (`FIRST_PLAYER_ROLE` when `role` is `NULL_ROLE`). -/
def Game.resign (g : Game) (role : GameRole) : Game :=
  { g with
    terminated := true
    winner := if role = .firstPlayerRole then .secondPlayerRole else .firstPlayerRole }

/-- `game_resign`: an error on a terminated game, a test made before the game's lock is
taken; otherwise `Game.resign`. -/
def gameResign (g : Game) (role : GameRole) : Option Game :=
  if g.terminated = true then none else some (g.resign role)

/-- `game_get_winner`. -/
def gameGetWinner (g : Game) : GameRole :=
  if g.terminated = true then g.winner
  else if g.win 1 then .firstPlayerRole
  else if g.win 2 then .secondPlayerRole
  else .nullRole

/-- `game_is_over`. -/
def gameIsOver (g : Game) : Bool := g.terminated

/-- A digit `'1'`..`'9'`. -/
def isMoveDigit (d : UInt8) : Bool := '1'.toNat.toUInt8 ≤ d && d ≤ '9'.toNat.toUInt8

/-- `game_parse_move` on the C string `str`: `none` is `NULL`. `alloc` is whether the
`malloc` of the move succeeds. A role other than `NULL_ROLE` must be the role on the move. -/
def gameParseMove (g : Game) (role : GameRole) (str : List UInt8) (alloc : Bool) :
    Option GameMove :=
  if role ≠ .nullRole ∧ ((role = .firstPlayerRole ∧ g.turnX = false) ∨
      (role = .secondPlayerRole ∧ g.turnX = true)) then none
  else
    let parsed : Option GameMove :=
      match cString str with
      | [d] =>
          if isMoveDigit d then
            some ⟨if role = .firstPlayerRole then 1 else 2, d.toNat - '0'.toNat⟩
          else none
      | [d, a, b, c] =>
          if !isMoveDigit d then none
          else if a ≠ '<'.toNat.toUInt8 ∨ b ≠ '-'.toNat.toUInt8 ∨
              (c ≠ 'X'.toNat.toUInt8 ∧ c ≠ 'O'.toNat.toUInt8) then none
          else some ⟨if c = 'X'.toNat.toUInt8 then 1 else 2, d.toNat - '0'.toNat⟩
      | _ => none
    if alloc then parsed else none

/-- `game_unparse_move`: the square in decimal, then `<-` and the mark. -/
def gameUnparseMove (m : GameMove) : List UInt8 :=
  ascii (Nat.repr m.square) ++ ascii "<-" ++ ascii (if m.player = 1 then "X" else "O")

/-- One cell as `game_unparse_state` prints it. -/
def cellText (v : Nat) : String := if v = 0 then " " else if v = 1 then "X" else "O"

/-- `game_unparse_state`: three rows `a|b|c` separated by `-----`, then whose turn it is. -/
def gameUnparseState (g : Game) : List UInt8 :=
  let row (i : Fin 3) : String :=
    cellText (g.board ⟨3 * i, by omega⟩) ++ "|" ++ cellText (g.board ⟨3 * i + 1, by omega⟩) ++
      "|" ++ cellText (g.board ⟨3 * i + 2, by omega⟩) ++ "\n"
  ascii (row 0 ++ "-----\n" ++ row 1 ++ "-----\n" ++ row 2 ++ "It's " ++
    (if g.turnX then "X" else "O") ++ "'s turn\n")

/-! ## Small lemmas -/

@[simp] theorem gameIsOver_eq (g : Game) : gameIsOver g = g.terminated := rfl

theorem gameApplyMove_terminated {g : Game} (h : g.terminated = true) (m : GameMove) :
    gameApplyMove g m = none := by
  unfold gameApplyMove
  split <;> simp [h]

theorem gameResign_terminated {g : Game} (h : g.terminated = true) (r : GameRole) :
    gameResign g r = none := by
  simp [gameResign, h]

/-- A successful resignation terminates the game with the other role as winner. -/
theorem gameResign_eq_some {g g' : Game} {r : GameRole} (h : gameResign g r = some g') :
    g.terminated = false ∧ g'.terminated = true ∧ g'.board = g.board ∧
      g'.winner = (if r = .firstPlayerRole then .secondPlayerRole else .firstPlayerRole) := by
  unfold gameResign at h
  split at h
  · cases h
  · cases h
    exact ⟨by simpa using ‹¬g.terminated = true›, rfl, rfl, rfl⟩

end JeuxServer
