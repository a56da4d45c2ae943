/-
Text in bytes, and bytes in hexadecimal digits.

A text is written in UTF-8, which has no place for half of a character: the first run of
halves stops the writing.
-/
import FallingBlocks.Text
import FallingBlocks.Text.Quoted

namespace FallingBlocks.Text

/-- The first run of halves in a text: its position, its length and its first half. -/
structure Unwritable where
  position : Nat
  length : Nat
  first : Fin halves
  deriving DecidableEq, Repr

/-- The wording of the refusal to write halves. -/
def Unwritable.message (u : Unwritable) : String :=
  if u.length = 1 then
    "'utf-8' codec can't encode character '"
      ++ String.ofList (escapeNumber (CodePoint.half u.first).number) ++ "' in position "
      ++ toString u.position ++ ": surrogates not allowed"
  else
    "'utf-8' codec can't encode characters in position " ++ toString u.position ++ "-"
      ++ toString (u.position + u.length - 1) ++ ": surrogates not allowed"

/-- Whether a code point is half of a character. -/
def isHalf (p : CodePoint) : Bool :=
  p.char?.isNone

/--
The first run of halves in a text, if there is one.  A run begins with a code point that does
not fit, and halves that fit may be passed over before it.
-/
def unwritable? (t : Text) (fits : CodePoint → Bool := fun p => !isHalf p) : Option Unwritable :=
  match t.points.dropWhile fits with
  | .half first :: rest =>
      some
        { position := (t.points.takeWhile fits).length
          length := (rest.takeWhile isHalf).length + 1
          first }
  | _ => none

/-- The bytes of a text without halves. -/
def toBytes (t : Text) : Except Unwritable ByteArray :=
  match unwritable? t with
  | some refusal => .error refusal
  | none => .ok (String.ofList t.chars).toUTF8

/-! ### Bytes in digits -/

/-- What a hexadecimal digit is worth. -/
def hexDigit? (c : Char) : Option Nat :=
  if '0' ≤ c ∧ c ≤ '9' then some (c.toNat - '0'.toNat)
  else if 'a' ≤ c ∧ c ≤ 'f' then some (c.toNat - 'a'.toNat + 10)
  else if 'A' ≤ c ∧ c ≤ 'F' then some (c.toNat - 'A'.toNat + 10)
  else none

/-- Text that writes no bytes, and the position of the first character that is in the way. -/
structure NotHex where
  position : Nat
  deriving DecidableEq, Repr

/-- The wording of the refusal to read bytes. -/
def NotHex.message (f : NotHex) : String :=
  "non-hexadecimal number found in fromhex() arg at position " ++ toString f.position

/-- Whether a character may stand between two bytes. -/
def separatesBytes (c : Char) : Bool :=
  c == ' ' || ('\t' ≤ c && c ≤ '\r')

/-- The bytes that characters write, two digits each, the first one being at `position`. -/
def readBytes (position : Nat) : List Char → Except NotHex (List UInt8)
  | [] => .ok []
  | a :: rest =>
      if separatesBytes a then readBytes (position + 1) rest
      else
        match hexDigit? a, rest with
        | none, _ => .error ⟨position⟩
        | some _, [] => .error ⟨position + 1⟩
        | some x, b :: rest =>
            match hexDigit? b with
            | none => .error ⟨position + 1⟩
            | some y => (readBytes (position + 2) rest).map (UInt8.ofNat (16 * x + y) :: ·)

/-- The bytes that a text writes; a character beyond ASCII is in the way before any other. -/
def bytes (t : Text) : Except NotHex ByteArray :=
  match t.chars.findIdx? fun c => 0x80 ≤ c.toNat with
  | some position => .error ⟨position⟩
  | none => (readBytes 0 t.chars).map fun bs => ⟨bs.toArray⟩

end FallingBlocks.Text
