/-
The board: a list of row masks under a stated width and height.

Nothing ties the masks to the width or the number of rows to the height, because a
board may come from outside unchecked.  Every operation is therefore total on any board
and reports the two ways in which reading or filling a cell can go wrong: a row the list
does not have, and a column left of the board, which would be a shift by a negative
amount.

An operation that stops halfway keeps what it has done: `merge` gives back the board
it reached together with its answer.
-/
import FallingBlocks.Shape
import FallingBlocks.Mask

namespace FallingBlocks

/-- Why a cell of a board can be neither read nor filled. -/
inductive Board.Fault
  /-- The list of rows has no such row. -/
  | rowOutOfRange
  /-- A mask would have to be shifted by a negative number of columns. -/
  | negativeShift
  deriving DecidableEq, Repr

/-- The wording of a fault. -/
def Board.Fault.message : Board.Fault → String
  | rowOutOfRange => "list index out of range"
  | negativeShift => "negative shift count"

/-- Row masks, top row first, with the size the board is meant to have. -/
structure Board where
  width : Int
  height : Int
  rows : List Mask
  deriving DecidableEq, Repr

namespace Board

/-- A board with nothing on it. -/
def empty (width height : Int) : Board :=
  { width, height, rows := List.replicate height.toNat 0 }

/-! ### Single cells -/

/-- Rows above the board count as in bounds; columns beside it and rows below it do not. -/
def inBounds (b : Board) (c : Cell) : Bool :=
  decide (0 ≤ c.col) && decide (c.col < b.width) && decide (c.row < b.height)

/--
The position of a row in the list.  Negative numbers count from the last row up, so
that `-1` is the last row itself.
-/
def index? (b : Board) (row : Int) : Option Nat :=
  let size : Int := b.rows.length
  if 0 ≤ row then
    if row < size then some row.toNat else none
  else
    if -size ≤ row then some (row + size).toNat else none

/-- Whether a cell is filled. -/
def occupied (b : Board) (c : Cell) : Except Fault Bool :=
  match b.index? c.row with
  | none => .error .rowOutOfRange
  | some i =>
      if c.col < 0 then .error .negativeShift
      else .ok (Mask.has (b.rows.getD i 0) c.col.toNat)

/-- The board with one more cell filled. -/
def fill (b : Board) (c : Cell) : Except Fault Board :=
  match b.index? c.row with
  | none => .error .rowOutOfRange
  | some i =>
      if c.col < 0 then .error .negativeShift
      else .ok { b with rows := b.rows.modify i (Mask.insert · c.col.toNat) }

/-- The board with the whole mask of a row replaced, if there is such a row. -/
def setRow? (b : Board) (row : Int) (m : Mask) : Option Board :=
  (b.index? row).map fun i => { b with rows := b.rows.set i m }

/-- Fills the cells one after the other; those before a faulty one stay filled. -/
def merge (b : Board) : List Cell → Board × Except Fault Unit
  | [] => (b, .ok ())
  | c :: rest =>
      match b.fill c with
      | .ok filled => filled.merge rest
      | .error fault => (b, .error fault)

/-- Whether all the cells are in bounds and, where they lie on the board, free. -/
def fits (b : Board) : List Cell → Except Fault Bool
  | [] => .ok true
  | c :: rest =>
      if b.inBounds c then
        if c.row < 0 then b.fits rest
        else
          match b.occupied c with
          | .ok false => b.fits rest
          | .ok true => .ok false
          | .error fault => .error fault
      else .ok false

/-! ### Full rows -/

/-- The mask of a completed row. -/
def fullMask (b : Board) : Except Fault Mask :=
  if b.width < 0 then .error .negativeShift else .ok (Mask.full b.width.toNat)

/-- The positions of the rows whose mask is `full`. -/
def rowsEqual (b : Board) (full : Mask) : List Nat :=
  (b.rows.zipIdx.filter fun row => row.1 == full).map (·.2)

/-- The completed rows, top first. -/
def fullRows (b : Board) : Except Fault (List Nat) :=
  b.fullMask.map b.rowsEqual

/--
Drops the rows whose mask is `full` and brings the board back to its height with empty
rows on top.  The number of rows cleared is what was missing to the height, so on a
board whose list of rows had another length it also makes up for that difference.
-/
def compact (b : Board) (full : Mask) : Board × Int :=
  let kept := b.rows.filter (· != full)
  let cleared := b.height - kept.length
  if cleared = 0 then (b, 0)
  else ({ b with rows := List.replicate cleared.toNat 0 ++ kept }, cleared)

/-- Clears the completed rows and says how many there were. -/
def clearFullRows (b : Board) : Except Fault (Board × Int) :=
  b.fullMask.map b.compact

/-- What clearing did to a board: the rows that were complete before, and their number. -/
structure Clearing where
  board : Board
  completed : List Nat
  count : Int
  deriving DecidableEq, Repr

/-- Clears the board, leaving it alone when no row is complete. -/
def clear (b : Board) : Except Fault Clearing :=
  b.fullMask.map fun full =>
    match b.rowsEqual full with
    | [] => ⟨b, [], 0⟩
    | completed =>
        let (board, count) := b.compact full
        ⟨board, completed, count⟩

/-! ### Features -/

/-- How far the topmost row with a filled column is from the floor, 0 for an empty board. -/
def maxHeight (b : Board) : Int :=
  match b.rows.findIdx? (· != 0) with
  | some i => b.height - i
  | none => 0

/--
The number of free cells below a filled one, row by row: `seen` holds the columns that
were filled in some row above.
-/
def holesBelow (width : Nat) (seen : Nat) : List Mask → Nat
  | [] => 0
  | m :: rest =>
      let here := Mask.visible width m
      Mask.card (seen ^^^ (seen &&& here)) + holesBelow width (seen ||| here) rest

/-- The number of free cells of the board with a filled cell somewhere above them. -/
def holes (b : Board) : Except Fault Nat :=
  if b.rows.isEmpty then .ok 0
  else b.fullMask.map fun _ => holesBelow b.width.toNat 0 b.rows

end Board

end FallingBlocks
