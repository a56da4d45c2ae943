/-
Floating-point numbers in text.

Such a text is a decimal with an optional fraction and exponent, or one of the words
for the numbers that are not finite in any mix of capitals, with or without a sign in
front and with blanks around it all.  Digits may be those of any script, and single
underscores may stand between digits.
-/
import FallingBlocks.Decimal.Binary
import FallingBlocks.Decimal.Whole

namespace FallingBlocks.Decimal

/-- A digit of any script as the plain digit of the same worth. -/
def plain (c : Char) : Char :=
  match digit? c with
  | some d => Char.ofNat ('0'.toNat + d)
  | none => c

/-- The text without its underscores, each of which has to stand between two digits. -/
def dropUnderscores : Option Char → List Char → Option (List Char)
  | _, [] => some []
  | before, '_' :: rest =>
      if before.any isPlainDigit && rest.head?.any isPlainDigit then
        dropUnderscores (some '_') rest
      else none
  | _, c :: rest => (dropUnderscores (some c) rest).map (c :: ·)

/-- The number an unsigned decimal writes, which has a digit before or after its point. -/
def unsigned? (s : List Char) : Option Float := do
  let (whole, s) := spanDigits s
  let (places, s) := match s with
    | '.' :: s => spanDigits s
    | s => ([], s)
  if (whole ++ places).isEmpty then none
  else
    let mantissa := Nat.ofDigitChars 10 (whole ++ places) 0
    match s with
    | [] => some (nearest mantissa (-(places.length : Int)))
    | e :: s =>
        if e = 'e' ∨ e = 'E' then
          let (negative, s) := splitSign s
          match spanDigits s with
          | ([], _) => none
          | (ds, []) =>
              let n : Int := Nat.ofDigitChars 10 ds 0
              some (nearest mantissa ((if negative then -n else n) - places.length))
          | (_, _ :: _) => none
        else none

/-- The floating-point number a text writes. -/
def real? (s : List Char) : Option Float := do
  let (negative, body) := splitSign (Text.strip Text.numberBlanks s)
  let word := String.ofList (body.map Char.toLower)
  let x ←
    if word = "inf" ∨ word = "infinity" then some infinity
    else if word = "nan" then some notANumber
    else (dropUnderscores none (body.map plain)).bind unsigned?
  some (if negative then -x else x)

end FallingBlocks.Decimal
