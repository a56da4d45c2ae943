/-
Floating-point numbers taken apart.

A finite number is `±mantissa · 2 ^ exponent` with exact integers, and everything that
has to be exact about it (comparing it with integers, cutting off its fraction, writing
its digits) is done on those integers.
-/

namespace FallingBlocks.Decimal

/-- What a floating-point number stands for. -/
inductive Binary
  | nan
  | infinite (negative : Bool)
  | finite (negative : Bool) (mantissa : Nat) (exponent : Int)
  deriving DecidableEq, Repr

namespace Binary

/-- Reads the sign, the eleven exponent bits and the 52 mantissa bits of a number. -/
def ofFloat (x : Float) : Binary :=
  let bits := x.toBits.toNat
  let negative := decide (Nat.pow 2 63 ≤ bits)
  let biased : Nat := bits / Nat.pow 2 52 % Nat.pow 2 11
  let fraction := bits % Nat.pow 2 52
  if biased = Nat.pow 2 11 - 1 then
    if fraction = 0 then .infinite negative else .nan
  else if biased = 0 then .finite negative fraction (-1074)
  else .finite negative (Nat.pow 2 52 + fraction) ((biased : Int) - 1075)

/-- The magnitude `m · 2 ^ e` without its fraction. -/
def floorScaled (m : Nat) (e : Int) : Nat :=
  if 0 ≤ e then m * Nat.pow 2 e.toNat else m / Nat.pow 2 (-e).toNat

/-- A number without its fraction, if it is finite. -/
def truncate? : Binary → Option Int
  | .finite negative m e => some (if negative then -(floorScaled m e : Int) else floorScaled m e)
  | _ => none

/-- The integer a number is equal to, if there is one. -/
def integer? : Binary → Option Int
  | .finite negative m e =>
      if 0 ≤ e ∨ m % Nat.pow 2 (-e).toNat = 0 then truncate? (.finite negative m e) else none
  | _ => none

end Binary

/-- The positive infinity. -/
def infinity : Float := Float.ofBits 0x7ff0000000000000

/-- The number that is none. -/
def notANumber : Float := Float.ofBits 0x7ff8000000000000

/-- A magnitude from `1.797e308` on rounds to infinity, so far larger ones need not be formed. -/
def magnitudeLimit : Int := 400

/-- The floating-point number nearest to `digits · 10 ^ exponent`. -/
def nearest (digits : Nat) (exponent : Int) : Float :=
  let size : Int := (Nat.toDigits 10 digits).length
  if digits = 0 ∨ size + exponent < -magnitudeLimit then 0
  else if magnitudeLimit < size + exponent then Float.ofScientific 1 false 400
  else if 0 ≤ exponent then Float.ofScientific digits false exponent.toNat
  else Float.ofScientific digits true (-exponent).toNat

/-- The floating-point number nearest to an integer, unless it is out of their range. -/
def float? (n : Int) : Option Float :=
  let x := nearest n.natAbs 0
  if x.isInf then none else some (if n < 0 then -x else x)

end FallingBlocks.Decimal
