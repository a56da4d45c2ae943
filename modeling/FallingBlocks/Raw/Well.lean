/-
Raw wells: a raw board and a raw piece that is falling into it.

The column in which pieces enter is a whole number, and so is the row.
-/
import FallingBlocks.Raw.Board
import FallingBlocks.Well

namespace FallingBlocks.Raw

/-- Whether all the cells are in bounds and, where they lie on the board, free. -/
def Board.fits [Machine] (b : Board) : List Cell → Except Fault Bool
  | [] => .ok true
  | c :: rest => do
      if ← b.inBounds c then
        if ← combined (c.row.isGE (.int 0)) then
          if ← b.occupied c then .ok false else b.fits rest
        else b.fits rest
      else .ok false

/-- A board, the falling piece if there is one, and the row in which pieces enter. -/
structure Well where
  board : Board
  piece : Option Piece := none
  spawnY : Int := 0

namespace Well

/-- A well as raw values. -/
def ofOrdinary (w : FallingBlocks.Well) : Well :=
  { board := .ofOrdinary w.board, piece := w.piece.map .ofOrdinary, spawnY := w.spawnY }

variable [Machine]

/-- The ordinary well that raw values make. -/
def ordinary? (w : Well) : Option FallingBlocks.Well := do
  some
    { board := ← w.board.ordinary?
      piece := ← w.piece.mapM Piece.ordinary?
      spawnY := w.spawnY }

/-- The column in which pieces enter. -/
def spawnX (w : Well) : Int :=
  spawnColumn w.board.width

/-- A piece of some shape where pieces enter. -/
def entering (w : Well) (s : Shape) : Piece :=
  { shape := s, x := .int w.spawnX, y := .int w.spawnY, rotation := .int 0 }

/-- Lets a new piece enter, whether or not there is room for it. -/
def spawn (w : Well) (s : Shape) : Well :=
  { w with piece := some (w.entering s) }

/-- Whether a piece is in bounds and overlaps no filled cell. -/
def fits (w : Well) (p : Piece) : Except Fault Bool := do
  match w.board.ordinary?, p.ordinary? with
  | some b, some p => (b.fits p.cells).mapError .ofBoard
  | _, _ => w.board.fits (← p.cells)

/-- Moves the piece if it fits where it would go, and says whether it did. -/
def attempt (w : Well) (dx dy turns : Document) : Except Fault (Well × Bool) :=
  match w.piece with
  | none => .ok (w, false)
  | some p => do
      let there ← p.moved dx dy turns
      if ← w.fits there then .ok ({ w with piece := some there }, true) else .ok (w, false)

/-- One column to the left. -/
def moveLeft (w : Well) : Except Fault (Well × Bool) := w.attempt (.int (-1)) (.int 0) (.int 0)

/-- One column to the right. -/
def moveRight (w : Well) : Except Fault (Well × Bool) := w.attempt (.int 1) (.int 0) (.int 0)

/-- One quarter turn. -/
def rotate (w : Well) : Except Fault (Well × Bool) := w.attempt (.int 0) (.int 0) (.int 1)

/-- One row down. -/
def softDrop (w : Well) : Except Fault (Well × Bool) := w.attempt (.int 0) (.int 1) (.int 0)

/-- The cells of the piece, none if there is no piece. -/
def cells (w : Well) : Except Fault (List Cell) :=
  match w.piece with
  | none => .ok []
  | some p => p.cells

/-- Lowers the piece row by row, at most `fuel` times, and counts the rows. -/
def descend : Nat → Well → Well × Except Fault Nat
  | 0, w => (w, .ok 0)
  | fuel + 1, w =>
      match w.softDrop with
      | .error fault => (w, .error fault)
      | .ok (_, false) => (w, .ok 0)
      | .ok (lower, true) =>
          let (bottom, steps) := descend fuel lower
          (bottom, steps.map (· + 1))

/--
More rows than the piece can descend; a fraction of a row is cut off towards zero, which
takes less than one row more.
-/
def room (w : Well) : Nat :=
  match w.piece with
  | none => 0
  | some p =>
      match p.y.toWhole with
      | .ok y => (w.board.height - y).toNat + 2
      | .error _ => 1

/-- Lowers the piece until it is blocked and counts the rows. -/
def drop (w : Well) : Well × Except Fault Nat :=
  match w.ordinary? with
  | some ordinary =>
      let (bottom, steps) := ordinary.drop
      (ofOrdinary bottom, steps.mapError .ofBoard)
  | none => w.descend w.room

end Well

end FallingBlocks.Raw
