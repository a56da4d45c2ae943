/-
Documents taken as numbers.

A truth value counts as zero or one, a text as the number it writes, and a number with
a fraction loses it when a whole number is asked for.  What cannot be taken as a number
says why.
-/
import FallingBlocks.Decimal.Real
import FallingBlocks.Document

namespace FallingBlocks.Document

/-- Why a document is not the number that was asked for. -/
inductive NumberFault
  /-- A whole number was asked for, and the document is of a kind without one. -/
  | noWhole (found : Kind)
  /-- A number was asked for, and the document is of a kind without one. -/
  | noReal (found : Kind)
  /-- The text writes no whole number. -/
  | notWhole (t : Text)
  /-- The text writes a whole number in more digits than are read. -/
  | tooLong (digits : Nat)
  /-- The text writes no number. -/
  | notReal (t : Text)
  /-- A whole number was asked for, and the document is no number. -/
  | nan
  /-- A whole number was asked for, and the document is infinite. -/
  | infinite
  /-- The whole number is beyond the floating-point numbers. -/
  | tooLarge
  deriving DecidableEq, Repr

/-- The most characters of a text that a message shows. -/
def shownLimit : Nat := 200

/-- The wording of a fault. -/
def NumberFault.message : NumberFault → String
  | noWhole k =>
      "int() argument must be a string, a bytes-like object or a real number, not '" ++ k.name
        ++ "'"
  | noReal k => "float() argument must be a string or a real number, not '" ++ k.name ++ "'"
  | notWhole t =>
      "invalid literal for int() with base 10: "
        ++ String.ofList ((Text.quoted t).toList.take shownLimit)
  | tooLong digits => Decimal.tooLongToRead digits
  | notReal t => "could not convert string to float: " ++ Text.quoted t
  | nan => "cannot convert float NaN to integer"
  | infinite => "cannot convert float infinity to integer"
  | tooLarge => "int too large to convert to float"

/-- The document as a whole number. -/
def toWhole : Document → Except NumberFault Int
  | bool b => .ok (if b then 1 else 0)
  | int n => .ok n
  | float x =>
      match Decimal.Binary.ofFloat x with
      | .nan => .error .nan
      | .infinite _ => .error .infinite
      | .finite negative m e =>
          let n : Int := Decimal.Binary.floorScaled m e
          .ok (if negative then -n else n)
  | text t =>
      match Decimal.whole t.chars with
      | .ok n => .ok n
      | .error .malformed => .error (.notWhole t)
      | .error (.tooLong digits) => .error (.tooLong digits)
  | d => .error (.noWhole d.kind)

/-- The document as a floating-point number. -/
def toReal : Document → Except NumberFault Float
  | bool b => .ok (if b then 1 else 0)
  | int n =>
      match Decimal.float? n with
      | some x => .ok x
      | none => .error .tooLarge
  | float x => .ok x
  | text t =>
      match Decimal.real? t.chars with
      | some x => .ok x
      | none => .error (.notReal t)
  | d => .error (.noReal d.kind)

/-- The whole number that a document equals, without reading texts or cutting off fractions. -/
def whole? : Document → Option Int
  | bool b => some (if b then 1 else 0)
  | int n => some n
  | float x => (Decimal.Binary.ofFloat x).integer?
  | _ => none

end FallingBlocks.Document
