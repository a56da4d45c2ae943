/-
A board as a table of bits.

The table is built through 32-bit words, one per row.  A mask that is no such word
stops the conversion, and columns from 32 on always read as free; so the table shows
the board faithfully only up to a width of 32.

The columns are numbered by 32-bit words too.  Here they are numbered by whole numbers, which
is the same for every board of at most 2 ^ 32 columns, and only for those.
-/
import FallingBlocks.Board

namespace FallingBlocks.Board

/-- Why a row mask is not a 32-bit word. -/
inductive WordFault
  /-- The mask is negative or has a bit above the 32nd. -/
  | outOfBounds (mask : Mask)
  /-- The mask does not even fit a 64-bit machine integer. -/
  | tooLarge
  deriving DecidableEq, Repr

/-- The mask as a 32-bit word. -/
def word (m : Mask) : Except WordFault Nat :=
  if 0 ≤ m ∧ m < Nat.pow 2 32 then .ok m.toNat
  else if m < -(Nat.pow 2 63 : Int) ∨ Nat.pow 2 64 ≤ m then .error .tooLarge
  else .error (.outOfBounds m)

/-- A table with one row of bits per row of the board and one bit per column. -/
structure Bitmap where
  columns : Nat
  bits : List (List Bool)
  deriving DecidableEq, Repr

/-- The table of words, one row each, for at most 2 ^ 32 columns. -/
def Bitmap.ofWords (columns : Nat) (words : List Nat) : Bitmap :=
  { columns, bits := words.map fun w => (List.range columns).map w.testBit }

/-- The table of a board; the first row that is no word stops it. -/
def bitmap (b : Board) : Except WordFault Bitmap :=
  (b.rows.mapM word).map (Bitmap.ofWords b.width.toNat)

/-- The wording of a fault. -/
def WordFault.message : WordFault → String
  | .outOfBounds m => "Python integer " ++ toString m ++ " out of bounds for uint32"
  | .tooLarge => "Python int too large to convert to C long"

end FallingBlocks.Board
