/-
Text as a list of code points.

A code point is a character or half of one: one of the two kinds of sixteen-bit units
that only together make a character beyond U+FFFF.  Text from outside may hold halves
that stand alone.  They are kept as they are, have no printed form, and belong to no
word, number or name.
-/

namespace FallingBlocks

/-- The number of halves. -/
def halves : Nat := 0x800

/-- The code point of the first half. -/
def firstHalf : Nat := 0xd800

/-- One place of a text. -/
inductive CodePoint
  | char (c : Char)
  /-- Half of a character, counted from the first half. -/
  | half (n : Fin halves)
  deriving DecidableEq, Repr

/-- The number of a code point. -/
def CodePoint.number : CodePoint → Nat
  | char c => c.toNat
  | half n => firstHalf + n

/-- The code point with some number, which has to be one. -/
def CodePoint.ofNumber (n : Nat) : CodePoint :=
  if h : firstHalf ≤ n ∧ n < firstHalf + halves then .half ⟨n - firstHalf, by omega⟩
  else .char (Char.ofNat n)

/-- A character that reads as itself, or the sign for half of one. -/
def CodePoint.legible : CodePoint → Char
  | char c => c
  | half _ => '\ufffd'

/-- The character that a code point is, if it is one. -/
def CodePoint.char? : CodePoint → Option Char
  | char c => some c
  | half _ => none

/-- A text, which may hold halves of characters. -/
structure Text where
  points : List CodePoint
  deriving DecidableEq, Repr, Inhabited

namespace Text

/-- A text made of characters. -/
def ofChars (s : List Char) : Text := ⟨s.map .char⟩

/-- A string is a text without halves. -/
def ofString (s : String) : Text := ofChars s.toList

instance : Coe String Text := ⟨ofString⟩

instance : Append Text := ⟨fun s t => ⟨s.points ++ t.points⟩⟩

/-- The characters of a text, each half shown by the sign that stands for it. -/
def chars (t : Text) : List Char := t.points.map CodePoint.legible

/-- The string that a text without halves is. -/
def toString? (t : Text) : Option String :=
  (t.points.mapM CodePoint.char?).map String.ofList

/-- Texts one after the other, with a text between each two. -/
def join (between : Text) (parts : List Text) : Text :=
  ⟨between.points.intercalate (parts.map points)⟩

/-- Whether a text comes before another in the order of code points, or is the same. -/
def isAtMost (s t : Text) : Bool :=
  !(t.points.map CodePoint.number).lex (s.points.map CodePoint.number) fun m n => decide (m < n)

/-- Characters read back as themselves. -/
@[simp] theorem chars_ofChars (s : List Char) : (ofChars s).chars = s := by
  simp [ofChars, chars, Function.comp_def, CodePoint.legible]

@[simp] theorem ofString_inj {s t : String} : ofString s = ofString t ↔ s = t := by
  refine ⟨fun h => ?_, fun h => h ▸ rfl⟩
  have hc : s.toList = t.toList := by
    simpa [ofString] using congrArg chars h
  exact String.toList_inj.mp hc

end Text

end FallingBlocks
