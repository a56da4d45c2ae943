/-
The fewest digits that read back.

Every real number closer to a floating-point number than to its neighbours reads back
as that number; so do the two ends of that interval when the mantissa is even, because
ties are rounded to even.  `shortest` looks for a decimal in the interval with one
digit, then with two, and so on up to seventeen, which always suffice.  A grid of
decimals that meets the interval meets it at one of the two grid points around the
number itself, so only those two are tried, and the nearer one is taken.
-/
import FallingBlocks.Decimal.Binary

namespace FallingBlocks.Decimal

/-- A positive decimal `0.digits · 10 ^ point`. -/
structure Digits where
  digits : List Char
  point : Int
  deriving DecidableEq, Repr

/--
The interval around `mantissa · 2 ^ exponent`, in quarters of a unit in the last place:
the number is `4 · mantissa` of them and the ends are `low` and `high`.
-/
structure Interval where
  low : Nat
  middle : Nat
  high : Nat
  closed : Bool
  /-- A quarter is `2 ^ quarter`. -/
  quarter : Int

/-- The gap below a power of two is half as wide as the one above it. -/
def Interval.around (mantissa : Nat) (exponent : Int) : Interval :=
  { low := if mantissa = Nat.pow 2 52 ∧ exponent ≠ -1074 then 4 * mantissa - 1 else 4 * mantissa - 2
    middle := 4 * mantissa
    high := 4 * mantissa + 2
    closed := mantissa % 2 = 0
    quarter := exponent - 2 }

namespace Interval

/-- A quarter divided by `10 ^ k`, as a fraction. -/
def unit (i : Interval) (k : Int) : Nat × Nat :=
  (Nat.pow 2 i.quarter.toNat * Nat.pow 10 (-k).toNat,
    Nat.pow 2 (-i.quarter).toNat * Nat.pow 10 k.toNat)

/-- Whether `c · 10 ^ k` lies in the interval. -/
def holds (i : Interval) (k : Int) (c : Nat) : Bool :=
  let (num, den) := i.unit k
  let x := c * den
  if i.closed then i.low * num ≤ x && x ≤ i.high * num
  else i.low * num < x && x < i.high * num

/-- The least `p` with the number below `10 ^ p`. -/
def point (i : Interval) : Int :=
  let guess : Int := (i.middle.log2 + i.quarter) * 30103 / 100000
  let below (p : Int) : Bool :=
    let (num, den) := i.unit p
    i.middle * num < den
  (([guess - 1, guess, guess + 1, guess + 2].find? below)).getD guess

/-- The nearer of the grid points `c · 10 ^ k` around the number that lie in the interval. -/
def onGrid? (i : Interval) (k : Int) : Option Nat :=
  let (num, den) := i.unit k
  let c := i.middle * num / den
  let nearDown := 2 * i.middle * num < (2 * c + 1) * den ||
    (2 * i.middle * num == (2 * c + 1) * den && c % 2 == 0)
  match i.holds k c, i.holds k (c + 1) with
  | true, true => some (if nearDown then c else c + 1)
  | true, false => some c
  | false, true => some (c + 1)
  | false, false => none

/-- The grid with the fewest digits that has a point in the interval. -/
def shortest (i : Interval) : Nat × Int :=
  let p := i.point
  let grids := (List.range 17).map fun n => p - (n + 1 : Nat)
  (grids.findSome? fun k => (i.onGrid? k).map (·, k)).getD (0, 0)

end Interval

/-- The shortest decimal that reads back as the number `mantissa · 2 ^ exponent`. -/
def shortest (mantissa : Nat) (exponent : Int) : Digits :=
  if mantissa = 0 then ⟨['0'], 1⟩
  else
    let (c, k) := (Interval.around mantissa exponent).shortest
    let written := Nat.toDigits 10 c
    { digits := (written.reverse.dropWhile (· == '0')).reverse
      point := written.length + k }

/-- How a decimal is laid out. -/
structure Layout where
  /-- Numbers below `10 ^ positionalBelow` may be written without an exponent. -/
  positionalBelow : Int
  /-- Numbers from `10 ^ positionalFrom` on may be written without an exponent. -/
  positionalFrom : Int
  /-- The least number of digits of an exponent. -/
  exponentDigits : Nat

/-- Powers of ten up to the sixteenth and down to the fourth below one need no exponent. -/
def layout : Layout := ⟨16, -4, 2⟩

/-- The exponent part of a number. -/
def exponentText (l : Layout) (e : Int) : List Char :=
  let digits := Nat.toDigits 10 e.natAbs
  'e' :: (if e < 0 then '-' else '+') ::
    (List.replicate (l.exponentDigits - digits.length) '0' ++ digits)

/-- A decimal laid out; a whole number keeps `.0` unless it has an exponent. -/
def Digits.render (l : Layout) (d : Digits) : List Char :=
  let size : Int := d.digits.length
  if l.positionalFrom < d.point ∧ d.point ≤ l.positionalBelow then
    if d.point ≤ 0 then
      '0' :: '.' :: (List.replicate (-d.point).toNat '0' ++ d.digits)
    else if size ≤ d.point then
      d.digits ++ List.replicate (d.point - size).toNat '0' ++ ['.', '0']
    else
      d.digits.take d.point.toNat ++ '.' :: d.digits.drop d.point.toNat
  else
    let fraction := match d.digits.drop 1 with
      | [] => []
      | rest => '.' :: rest
    d.digits.take 1 ++ fraction ++ exponentText l (d.point - 1)

/-- The texts of the numbers that have no digits. -/
structure Specials where
  nan : String
  infinity : String

/-- A magnitude with a minus in front if it is negative. -/
def signed (negative : Bool) (magnitude : List Char) : List Char :=
  if negative then '-' :: magnitude else magnitude

/-- A floating-point number in text. -/
def floatText (names : Specials) (x : Float) : List Char :=
  match Binary.ofFloat x with
  | .nan => names.nan.toList
  | .infinite negative => signed negative names.infinity.toList
  | .finite negative m e => signed negative ((shortest m e).render layout)

/-- A floating-point number with one decimal place, a half going to the even neighbour. -/
def tenthsText (names : Specials) (x : Float) : List Char :=
  match Binary.ofFloat x with
  | .nan => names.nan.toList
  | .infinite negative => signed negative names.infinity.toList
  | .finite negative m e =>
      let num := 10 * m * Nat.pow 2 e.toNat
      let den := Nat.pow 2 (-e).toNat
      let down := num / den
      let up := decide (den < 2 * (num % den)) || (2 * (num % den) == den && down % 2 == 1)
      let tenths := if up then down + 1 else down
      signed negative (Nat.toDigits 10 (tenths / 10) ++ '.' :: Nat.toDigits 10 (tenths % 10))

end FallingBlocks.Decimal
