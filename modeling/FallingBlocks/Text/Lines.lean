/-
The lines of a text.

A line ends at a line feed, a carriage return, the two in this order, a vertical tab, a
form feed, one of the separators from U+001C to U+001E, the next-line character, or one
of the two separators of Unicode.  What follows the last of these is a line of its own
unless it is empty.
-/
import FallingBlocks.Text
import FallingBlocks.Text.Class

namespace FallingBlocks.Text

/-- The characters at which a line ends. -/
def lineEnds : Class :=
  [(0x0a, 0x0d), (0x1c, 0x1e), (0x85, 0x85), (0x2028, 0x2029)]

/-- Whether a line ends at a code point. -/
def endsLine (p : CodePoint) : Bool :=
  lineEnds.has p.legible

/-- The lines of the code points that are left; `line` holds the line so far, last first. -/
def splitLines (line : List CodePoint) : List CodePoint → List Text
  | [] => if line.isEmpty then [] else [⟨line.reverse⟩]
  | .char '\r' :: .char '\n' :: rest => ⟨line.reverse⟩ :: splitLines [] rest
  | p :: rest =>
      if endsLine p then ⟨line.reverse⟩ :: splitLines [] rest
      else splitLines (p :: line) rest

/-- The lines of a text, without the characters that end them. -/
def lines (t : Text) : List Text :=
  splitLines [] t.points

end FallingBlocks.Text
