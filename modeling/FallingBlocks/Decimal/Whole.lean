/-
Whole numbers in text.

A whole number is a run of decimal digits, with single underscores between them if one
likes, with or without a sign in front and with blanks around it all.  A run of more than
4300 digits is refused, whatever follows it.
-/
import FallingBlocks.Decimal.Digit
import FallingBlocks.Text.Blank

namespace FallingBlocks.Decimal

/-- Splits a sign off; the flag says whether it was a minus. -/
def splitSign : List Char → Bool × List Char
  | '-' :: rest => (true, rest)
  | '+' :: rest => (false, rest)
  | s => (false, s)

/-- The most digits that a number may be written in. -/
def digitLimit : Nat := 4300

/-- Why a text writes no whole number. -/
inductive WholeFault
  | malformed
  | tooLong (digits : Nat)
  deriving DecidableEq, Repr

/-- What messages about too many digits begin with. -/
def tooManyDigits : String :=
  "Exceeds the limit (" ++ toString digitLimit ++ " digits) for integer string conversion"

/-- What messages about too many digits end with. -/
def limitAdvice : String :=
  "; use sys.set_int_max_str_digits() to increase the limit"

/-- What is said of a number that has too many digits to be read. -/
def tooLongToRead (digits : Nat) : String :=
  tooManyDigits ++ ": value has " ++ toString digits ++ " digits" ++ limitAdvice

/-- What is said of a number that has too many digits to be written. -/
def tooLongToWrite : String :=
  tooManyDigits ++ limitAdvice

/-- Whether a character may stand in a run of digits. -/
def inRun (c : Char) : Bool :=
  c == '_' || (digit? c).isSome

/-- The whole number a text writes. -/
def whole (s : List Char) : Except WholeFault Int :=
  let (negative, body) := splitSign (Text.strip Text.numberBlanks s)
  match digits? (body.takeWhile inRun) with
  | none => .error .malformed
  | some ds =>
      if digitLimit < ds.length then .error (.tooLong ds.length)
      else if (body.dropWhile inRun).isEmpty then
        let n : Int := ofDigits ds
        .ok (if negative then -n else n)
      else .error .malformed

/-- An integer in decimal digits. -/
def text (n : Int) : List Char :=
  if n < 0 then '-' :: Nat.toDigits 10 n.natAbs else Nat.toDigits 10 n.natAbs

end FallingBlocks.Decimal
