/-
Boards written by someone else.

A stored board has as many rows as its height says, and every row is an integer with no
bit outside the width.  The number of rows is looked at first, then the rows from the
top.
-/
import FallingBlocks.Board
import FallingBlocks.Document.Arithmetic

namespace FallingBlocks.Board

/-- Why rows are not those of a board. -/
inductive RowsFault
  | wrongCount (height : Document) (found : Nat)
  /-- No mask can have as many columns as the width says. -/
  | noMask (fault : Document.OperandFault)
  | notAMask (row : Nat) (found : Document)
  | outside (row : Nat) (width : Document) (found : Mask)

/-- An integer in hexadecimal digits. -/
def hexText (n : Int) : String :=
  (if n < 0 then "-0x" else "0x") ++ String.ofList (Nat.toDigits 16 n.natAbs)

/-- The wording of a fault; a width or height appears as it was written. -/
def RowsFault.message : RowsFault → Text
  | wrongCount height found =>
      "board must have " ++ height.plain ++ (" rows, got " ++ toString found : String)
  | noMask fault => fault.message
  | notAMask row found =>
      "row " ++ toString row ++ " is not an integer mask: " ++ found.describe
  | outside row width found =>
      ("row " ++ toString row ++ " has bits outside the " : String) ++ width.plain
        ++ ("-wide board: " ++ hexText found : String)

/-- The masks of rows from position `row` on. -/
def readRows (width : Int) (row : Nat) : List Document → Except RowsFault (List Mask)
  | [] => .ok []
  | .int m :: rest =>
      if 0 ≤ m ∧ m ≤ Mask.full width.toNat then
        (readRows width (row + 1) rest).map (m :: ·)
      else .error (.outside row (.int width) m)
  | d :: _ => .error (.notAMask row d)

/-- The board with these rows. -/
def ofRows (width height : Int) (rows : List Document) : Except RowsFault Board :=
  if (rows.length : Int) ≠ height then .error (.wrongCount (.int height) rows.length)
  else if width < 0 then .error (.noMask .negativeShift)
  else (readRows width 0 rows).map fun masks => { width, height, rows := masks }

end FallingBlocks.Board
