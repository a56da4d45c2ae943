/-
Documents as stored text.

The text is plain ASCII on a single line: a comma and a space between items, a colon
and a space after a field's name, and every character outside printable ASCII written
as `\u` and four hexadecimal digits.  A character beyond U+FFFF takes two of these, a
high and a low surrogate; half of such a character is written as the one it is.
-/
import FallingBlocks.Document

namespace FallingBlocks.Document

/-- The texts of floating-point numbers that are not finite, as they are stored. -/
def storedSpecials : Decimal.Specials := ⟨"NaN", "Infinity"⟩

/-- One unit of sixteen bits, escaped. -/
def escapedUnit (n : Nat) : List Char :=
  Text.backslash :: 'u' :: Text.hex 4 n

/-- How one character is written inside a stored text. -/
def escapedChar (c : Char) : List Char :=
  if c = Text.doubleQuote ∨ c = Text.backslash then [Text.backslash, c]
  else if c = '\n' then [Text.backslash, 'n']
  else if c = '\r' then [Text.backslash, 'r']
  else if c = '\t' then [Text.backslash, 't']
  else if c = '\x0c' then [Text.backslash, 'f']
  else if c = '\x08' then [Text.backslash, 'b']
  else if 0x20 ≤ c.toNat ∧ c.toNat ≤ 0x7e then [c]
  else if c.toNat < 0x10000 then escapedUnit c.toNat
  else
    escapedUnit (0xd800 + (c.toNat - 0x10000) / 0x400) ++
      escapedUnit (0xdc00 + (c.toNat - 0x10000) % 0x400)

/-- How one code point is written inside a stored text; half of a character is one unit. -/
def escaped : CodePoint → List Char
  | .char c => escapedChar c
  | .half n => escapedUnit (CodePoint.half n).number

/-- A text between double quotes. -/
def printText (t : Text) : List Char :=
  Text.doubleQuote :: t.points.flatMap escaped ++ [Text.doubleQuote]

mutual

/-- The characters of a stored document. -/
def print : Document → List Char
  | null => "null".toList
  | bool true => "true".toList
  | bool false => "false".toList
  | int n => Decimal.text n
  | float x => Decimal.floatText storedSpecials x
  | text t => printText t
  | array [] => ['[', ']']
  | array (d :: rest) => '[' :: (print d ++ printItems rest)
  | object [] => ['\x7b', '\x7d']
  | object ((name, d) :: rest) =>
      '\x7b' :: (printText name ++ ':' :: ' ' :: (print d ++ printFields rest))

/-- The items after the first, and the end of the array. -/
def printItems : List Document → List Char
  | [] => [']']
  | d :: rest => ',' :: ' ' :: (print d ++ printItems rest)

/-- The fields after the first, and the end of the object. -/
def printFields : List (Text × Document) → List Char
  | [] => ['\x7d']
  | (name, d) :: rest =>
      ',' :: ' ' :: (printText name ++ ':' :: ' ' :: (print d ++ printFields rest))

end

/-- A document as stored text. -/
def render (d : Document) : String :=
  String.ofList d.print

end FallingBlocks.Document
