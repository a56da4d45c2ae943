/-
Blank characters, and the text between them.

Two classes are in use.  Text is stripped of all blanks, the four separators from
U+001C to U+001F among them; numbers may stand between blanks too, but not between
those four.
-/
import FallingBlocks.Text.Class

namespace FallingBlocks.Text

/-- The blanks that may surround a number. -/
def numberBlanks : Class :=
  [(0x09, 0x0d), (0x20, 0x20), (0x85, 0x85), (0xa0, 0xa0), (0x1680, 0x1680), (0x2000, 0x200a),
   (0x2028, 0x2029), (0x202f, 0x202f), (0x205f, 0x205f), (0x3000, 0x3000)]

/-- All blanks. -/
def blanks : Class :=
  (0x1c, 0x1f) :: numberBlanks

/-- The text without the characters of a class at its two ends. -/
def strip (blank : Class) (s : List Char) : List Char :=
  ((s.dropWhile blank.has).reverse.dropWhile blank.has).reverse

end FallingBlocks.Text
