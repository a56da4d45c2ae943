/-
Text in quotation marks, as messages show it.

A text is set between single quotes unless it holds a single quote and no double one,
in which case double quotes are used.  The quote in use and the backslash are escaped
by a backslash, the line feed, the carriage return and the tab have names of their own,
and every other code point that is not printable is written as its hexadecimal number,
in two, four or eight digits.  Half of a character is never printable.
-/
import FallingBlocks.Text
import FallingBlocks.Text.Printable

namespace FallingBlocks.Text

/-- The single quote. -/
def singleQuote : Char := '\x27'

/-- The double quote. -/
def doubleQuote : Char := '\x22'

/-- The backslash. -/
def backslash : Char := '\x5c'

/-- The quote set around a text. -/
def quoteFor (t : Text) : Char :=
  if .char singleQuote ∈ t.points ∧ .char doubleQuote ∉ t.points then doubleQuote
  else singleQuote

/-- A number in lower-case hexadecimal digits, with leading zeros up to `width`. -/
def hex (width n : Nat) : List Char :=
  let digits := Nat.toDigits 16 n
  List.replicate (width - digits.length) '0' ++ digits

/-- A code point by its number. -/
def escapeNumber (n : Nat) : List Char :=
  if n < 0x100 then backslash :: 'x' :: hex 2 n
  else if n < 0x10000 then backslash :: 'u' :: hex 4 n
  else backslash :: 'U' :: hex 8 n

/-- How one code point appears between quotes. -/
def escape (quote : Char) : CodePoint → List Char
  | .half n => escapeNumber (CodePoint.half n).number
  | .char c =>
      if c = quote ∨ c = backslash then [backslash, c]
      else if c = '\n' then [backslash, 'n']
      else if c = '\r' then [backslash, 'r']
      else if c = '\t' then [backslash, 't']
      else if isPrintable c then [c]
      else escapeNumber c.toNat

/-- The text between quotes. -/
def quoted (t : Text) : String :=
  let quote := quoteFor t
  String.ofList (quote :: t.points.flatMap (escape quote) ++ [quote])

end FallingBlocks.Text
