/-
Templates: texts with a place for one digit.

A place begins with a percent sign.  After it come flags, a width, a precision and a size,
each of which may be missing, and a letter that says how the digit is written there.  Two
percent signs stand for one.  The digit has to be used exactly once; a star in the place of
a width or a precision uses it too.
-/
import FallingBlocks.Machine
import FallingBlocks.Text

namespace FallingBlocks.Text.Template

/-- Why a template cannot be filled. -/
inductive Fault
  /-- The template ends within a place. -/
  | unfinished
  /-- The letter at a position says nothing. -/
  | unknownLetter (letter : CodePoint) (position : Nat)
  /-- The place asks for a digit by name. -/
  | named
  /-- There is a place, and the digit has been used. -/
  | noneLeft
  /-- There is no place for the digit. -/
  | unused
  | widthTooBig
  | precisionTooBig
  /-- The precision can be read, and no number can have as many digits. -/
  | precisionTooLarge
  /-- What is written does not fit the memory. -/
  | outOfMemory
  deriving DecidableEq, Repr

/-- A letter as messages show it: one that is not plain is shown as a question mark. -/
def shownLetter (letter : CodePoint) : String :=
  let n := letter.number
  if 31 ≤ n ∧ n ≤ 126 then String.singleton (Char.ofNat n) else "?"

/-- The wording of a fault. -/
def Fault.message : Fault → String
  | unfinished => "incomplete format"
  | unknownLetter letter position =>
      "unsupported format character '" ++ shownLetter letter ++ "' (0x"
        ++ String.ofList (Nat.toDigits 16 letter.number) ++ ") at index " ++ toString position
  | named => "format requires a mapping"
  | noneLeft => "not enough arguments for format string"
  | unused => "not all arguments converted during string formatting"
  | widthTooBig => "width too big"
  | precisionTooBig => "precision too big"
  | precisionTooLarge => "precision too large"
  | outOfMemory => ""

/-! ### Places -/

/-- A width or a precision. -/
inductive Amount
  | missing
  | given (n : Nat)
  /-- The digit itself, which is thereby used. -/
  | taken
  deriving DecidableEq, Repr

/-- What stands between a percent sign and the letter. -/
structure Place where
  flags : List CodePoint := []
  width : Amount := .missing
  precision : Amount := .missing

/-- Whether a code point is one of some characters. -/
def isOneOf (cs : List Char) (p : CodePoint) : Bool :=
  cs.any fun c => p = .char c

/-- Whether a code point is one of the ten plain digits. -/
def isDigit (p : CodePoint) : Bool :=
  (p.char?.map Char.isDigit).getD false

/-- The number that digits write. -/
def valueOf (digits : List CodePoint) : Nat :=
  digits.foldl (fun n p => 10 * n + (p.number - '0'.toNat)) 0

/-- An amount at the start of a list of code points, and the rest. -/
def readAmount (s : List CodePoint) : Amount × List CodePoint :=
  match s with
  | .char '*' :: rest => (.taken, rest)
  | s =>
      match s.takeWhile isDigit with
      | [] => (.missing, s)
      | digits => (.given (valueOf digits), s.dropWhile isDigit)

/-- A precision at the start; one without digits is zero. -/
def readPrecision (s : List CodePoint) : Amount × List CodePoint :=
  match s with
  | .char '.' :: rest =>
      match readAmount rest with
      | (.missing, rest) => (.given 0, rest)
      | found => found
  | s => (.missing, s)

/-- The rest after a size, which means nothing. -/
def skipSize : List CodePoint → List CodePoint
  | [] => []
  | p :: rest => if isOneOf ['h', 'l', 'L'] p then rest else p :: rest

/-- The place at the start, and the rest, which begins with the letter. -/
def readPlace (s : List CodePoint) : Place × List CodePoint :=
  let isFlag := isOneOf ['-', '+', ' ', '#', '0']
  let (width, rest) := readAmount (s.dropWhile isFlag)
  let (precision, rest) := readPrecision rest
  ({ flags := s.takeWhile isFlag, width, precision }, skipSize rest)

theorem length_dropWhile_le (f : CodePoint → Bool) (s : List CodePoint) :
    (s.dropWhile f).length ≤ s.length :=
  (List.dropWhile_sublist f).length_le

/-- Reading an amount adds nothing to the rest. -/
theorem readAmount_length (s : List CodePoint) : (readAmount s).2.length ≤ s.length := by
  unfold readAmount
  split
  · simp
  · split
    · exact Nat.le_refl _
    · exact length_dropWhile_le _ _

/-- Reading a precision adds nothing to the rest. -/
theorem readPrecision_length (s : List CodePoint) : (readPrecision s).2.length ≤ s.length := by
  unfold readPrecision
  split
  · rename_i rest
    refine Nat.le_trans ?_ (Nat.le_succ rest.length)
    split
    · exact Nat.le_trans (Nat.le_of_eq (by simp_all)) (readAmount_length rest)
    · exact readAmount_length rest
  · exact Nat.le_refl _

/-- Skipping a size adds nothing to the rest. -/
theorem skipSize_length (s : List CodePoint) : (skipSize s).length ≤ s.length := by
  cases s with
  | nil => exact Nat.le_refl _
  | cons p rest =>
      simp only [skipSize]
      split <;> simp

/-- Reading a place adds nothing to the rest. -/
theorem readPlace_length (s : List CodePoint) : (readPlace s).2.length ≤ s.length := by
  unfold readPlace
  refine Nat.le_trans (skipSize_length _) (Nat.le_trans (readPrecision_length _) ?_)
  exact Nat.le_trans (readAmount_length _) (length_dropWhile_le _ _)

/-! ### What is written at a place -/

/-- Whether a place has a flag. -/
def Place.has (p : Place) (flag : Char) : Bool :=
  p.flags.contains (.char flag)

/-- The precision of a place. -/
def Place.precision? (p : Place) : Option Nat :=
  match p.precision with
  | .given n => some n
  | _ => none

/-- How a digit is written. -/
inductive Style
  /-- As it is, cut off at the precision. -/
  | plain
  /-- With zeros in front; the base is told if that is asked for. -/
  | whole (base : List Char)
  /-- As the character of that number. -/
  | character
  /-- With places behind the point and an exponent. -/
  | scientific (exponent : List Char)
  /-- With places behind the point. -/
  | fixed
  /-- With as many digits as are needed, or as many as are asked for. -/
  | general
  deriving DecidableEq, Repr

/-- The style that a letter stands for. -/
def Style.ofLetter? : Char → Option Style
  | 's' | 'r' | 'a' => some plain
  | 'd' | 'i' | 'u' => some (whole [])
  | 'o' => some (whole ['0', 'o'])
  | 'x' => some (whole ['0', 'x'])
  | 'X' => some (whole ['0', 'X'])
  | 'c' => some character
  | 'e' => some (scientific ['e', '+', '0', '0'])
  | 'E' => some (scientific ['E', '+', '0', '0'])
  | 'f' | 'F' => some fixed
  | 'g' | 'G' => some general
  | _ => none

/-- Whether a style has room for a sign and for zeros in front. -/
def Style.isNumber : Style → Bool
  | plain | character => false
  | _ => true

/-- What a place holds before it is brought to its width. -/
structure Entry where
  /-- What tells the base of a number. -/
  base : List Char := []
  body : List Char

/-- A digit with a point and zeros behind it; a point that nothing follows needs a mark. -/
def withPlaces (marked : Bool) (places : Nat) (digit : Char) : List Char :=
  digit :: (if places = 0 && !marked then [] else '.' :: List.replicate places '0')

/-- The number of places behind the point where no precision is given. -/
def usualPlaces : Nat := 6

/-- A digit in some style. -/
def entry (p : Place) (style : Style) (digit : Char) : Entry :=
  let marked := p.has '#'
  let places := p.precision?.getD usualPlaces
  match style with
  | .plain => { body := [digit].take (p.precision?.getD 1) }
  | .whole base =>
      { base := if marked then base else []
        body := List.replicate (p.precision?.getD 1 - 1) '0' ++ [digit] }
  | .character => { body := [Char.ofNat (digit.toNat - '0'.toNat)] }
  | .scientific exponent => { body := withPlaces marked places digit ++ exponent }
  | .fixed => { body := withPlaces marked places digit }
  | .general => { body := if marked then withPlaces marked (places - 1) digit else [digit] }

/-- An entry brought to a width. -/
def layOut (p : Place) (width : Nat) (isNumber : Bool) (e : Entry) : List Char :=
  let sign :=
    if !isNumber then []
    else if p.has '+' then ['+']
    else if p.has ' ' then [' ']
    else []
  let gap := width - (sign.length + e.base.length + e.body.length)
  let entry := sign ++ e.base ++ e.body
  if p.has '-' then entry ++ List.replicate gap ' '
  else if isNumber && p.has '0' then sign ++ e.base ++ List.replicate gap '0' ++ e.body
  else List.replicate gap ' ' ++ entry

/-! ### Filling a template -/

/-- The greatest width that can be read. -/
def mostWidth : Nat := Nat.pow 2 63 - 1

/-- The greatest precision that can be read. -/
def mostPrecision : Nat := Nat.pow 2 31 - 1

/-- The most digits of a whole number. -/
def mostDigits : Nat := mostPrecision - 3

/-- A width that may be missing. -/
def Amount.size : Amount → Nat
  | given n => n
  | _ => 0

/-- Whether the digit is still to be used after an amount. -/
def Amount.use (fresh : Bool) (most : Nat) (tooBig : Fault) : Amount → Except Fault Bool
  | missing => .ok fresh
  | given n => if most < n then .error tooBig else .ok fresh
  | taken => if fresh then .ok false else .error .noneLeft

/-- Whether the digit is still to be used after the width and the precision of a place. -/
def Place.use (p : Place) (fresh : Bool) : Except Fault Bool := do
  let fresh ← p.width.use fresh mostWidth .widthTooBig
  p.precision.use fresh mostPrecision .precisionTooBig

variable [Machine]

/-- Why a precision is too large for a style, if it is. -/
def excess? (p : Place) (style : Style) : Option Fault :=
  let precision := p.precision.size
  match style with
  | .plain | .character => none
  | .whole _ =>
      if mostDigits < precision then some .precisionTooLarge
      else if Machine.letters < precision then some .outOfMemory
      else none
  | .general => if Machine.letters < precision && p.has '#' then some .outOfMemory else none
  | _ => if Machine.letters < precision then some .outOfMemory else none

/-- The digit under a letter. -/
def write (digit : Char) (p : Place) (letter : CodePoint) (position : Nat) :
    Except Fault (List Char) :=
  match letter.char?.bind Style.ofLetter? with
  | none => .error (.unknownLetter letter position)
  | some style =>
      match excess? p style with
      | some fault => .error fault
      | none =>
          if Machine.letters < p.width.size then .error .outOfMemory
          else .ok (layOut p p.width.size style.isNumber (entry p style digit))

/-- Fills the rest of a template, given how long all of it is. -/
def fillRest (digit : Char) (total : Nat) (fresh : Bool) (s : List CodePoint) :
    Except Fault (List CodePoint) :=
  match s with
  | [] => if fresh then .error .unused else .ok []
  | .char '%' :: .char '%' :: rest => (fillRest digit total fresh rest).map (.char '%' :: ·)
  | .char '%' :: .char '(' :: _ => .error .named
  | .char '%' :: rest =>
      match h : readPlace rest with
      | (p, []) => (p.use fresh).bind fun _ => .error .unfinished
      | (p, letter :: after) => do
          if ← p.use fresh then
            let written ← write digit p letter (total - after.length - 1)
            let others ← fillRest digit total false after
            .ok (written.map .char ++ others)
          else .error .noneLeft
  | p :: rest => (fillRest digit total fresh rest).map (p :: ·)
termination_by s.length
decreasing_by
  · simp only [List.length_cons]
    omega
  · have := readPlace_length rest
    simp only [h, List.length_cons] at this ⊢
    omega
  · simp

end Template

/-- A template with its place filled by a digit. -/
def filled [Machine] (t : Text) (digit : Nat) : Except Template.Fault Text :=
  (Template.fillRest (Nat.digitChar digit) t.points.length true t.points).map (⟨·⟩)

end FallingBlocks.Text
