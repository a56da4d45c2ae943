/-
Documents read back from text.

Blanks are the space, the tab, the line feed and the carriage return.  A number without
fraction and exponent is a whole number of any size; one with either is the nearest
floating-point number, and so are the three words for the numbers that are not finite.
When a field occurs twice in an object the last value counts.

A reader may be given limits: on the digits of a whole number, and on how deep arrays and
objects lie in one another.  What is beyond a limit is refused where it begins, so an
earlier fault of the text goes before it and a later one does not.

Reading gives back what is left of the text after the document, and `parse` asks that
nothing but blanks be left.
-/
import FallingBlocks.Document.Limits
import FallingBlocks.Text.Bytes

namespace FallingBlocks.Document

/-- Why a text is not read. -/
inductive ReadFault
  /-- The text writes no document. -/
  | malformed
  /-- A whole number has more digits than the limit. -/
  | tooManyDigits (count : Nat)
  /-- An array begins deeper than the limit. -/
  | arrayTooDeep
  /-- An object begins deeper than the limit. -/
  | objectTooDeep
  /-- The text is still to be written, and the document goes deeper than the limit. -/
  | tooDeepToWrite
  deriving DecidableEq, Repr

/-- The wording of a fault. -/
def ReadFault.message : ReadFault → String
  | malformed => "the text is not a document"
  | tooManyDigits count => Decimal.tooLongToRead count
  | arrayTooDeep =>
      "maximum recursion depth exceeded while decoding a JSON array from a unicode string"
  | objectTooDeep =>
      "maximum recursion depth exceeded while decoding a JSON object from a unicode string"
  | tooDeepToWrite => "maximum recursion depth exceeded while encoding a JSON object"

/-- Whether a character separates tokens. -/
def isSpace (c : Char) : Bool :=
  c == ' ' || c == '\t' || c == '\n' || c == '\r'

/-- The text from its first token on. -/
def skipSpace (s : List Char) : List Char :=
  s.dropWhile isSpace

/-- The document that a word stands for, at the start of a text. -/
def readWord (d : Document) : List Char → List Char → Except ReadFault (Document × List Char)
  | [], s => .ok (d, s)
  | c :: word, e :: s => if c = e then readWord d word s else .error .malformed
  | _ :: _, [] => .error .malformed

/-! ### Texts -/

/-- The number that four hexadecimal digits write. -/
def hexUnit? (a b c d : Char) : Option Nat := do
  let digits ← [a, b, c, d].mapM Text.hexDigit?
  some (digits.foldl (fun n d => 16 * n + d) 0)

/-- The character that a backslash and `c` stand for. -/
def shortEscape? (c : Char) : Option Char :=
  if c = Text.doubleQuote ∨ c = Text.backslash ∨ c = '/' then some c
  else if c = 'n' then some '\n'
  else if c = 'r' then some '\r'
  else if c = 't' then some '\t'
  else if c = 'f' then some '\x0c'
  else if c = 'b' then some '\x08'
  else none

/-- The code units of a text up to its closing quote, and what follows the quote. -/
def readUnits : List Char → Option (List Nat × List Char)
  | [] => none
  | '\x22' :: rest => some ([], rest)
  | '\x5c' :: 'u' :: a :: b :: c :: d :: rest => do
      let unit ← hexUnit? a b c d
      let (units, rest) ← readUnits rest
      some (unit :: units, rest)
  | '\x5c' :: c :: rest => do
      let unit ← shortEscape? c
      let (units, rest) ← readUnits rest
      some (unit.toNat :: units, rest)
  | c :: rest =>
      if c.toNat < 0x20 then none
      else do
        let (units, rest) ← readUnits rest
        some (c.toNat :: units, rest)

/-- Whether a unit is the first half of a character beyond U+FFFF. -/
def isHigh (n : Nat) : Bool := 0xd800 ≤ n && n < 0xdc00

/-- Whether a unit is the second half of a character beyond U+FFFF. -/
def isLow (n : Nat) : Bool := 0xdc00 ≤ n && n < 0xe000

/-- The code points of a list of code units; two halves that belong together are one of them. -/
def joinUnits : List Nat → List CodePoint
  | [] => []
  | [n] => [.ofNumber n]
  | n :: m :: rest =>
      if isHigh n && isLow m then
        .ofNumber (0x10000 + (n - 0xd800) * 0x400 + (m - 0xdc00)) :: joinUnits rest
      else .ofNumber n :: joinUnits (m :: rest)

/-- A text after its opening quote. -/
def readText (s : List Char) : Except ReadFault (Text × List Char) :=
  match readUnits s with
  | none => .error .malformed
  | some (units, rest) => .ok (⟨joinUnits units⟩, rest)

/-! ### Numbers -/

/-- The digits of a whole number: a lone zero, or a run that starts with another digit. -/
def readMagnitude : List Char → Except ReadFault (List Char × List Char)
  | '0' :: rest => .ok (['0'], rest)
  | s =>
      match Decimal.spanDigits s with
      | ([], _) => .error .malformed
      | (ds, rest) => .ok (ds, rest)

/-- The digits after a point; a point without digits after it is left alone. -/
def readFraction : List Char → Option (List Char × List Char)
  | '.' :: s =>
      match Decimal.spanDigits s with
      | ([], _) => none
      | (ds, rest) => some (ds, rest)
  | _ => none

/-- The exponent after an `e`; an `e` without digits after it is left alone. -/
def readExponent : List Char → Option (Int × List Char)
  | e :: s =>
      if e = 'e' ∨ e = 'E' then
        let (negative, s) := Decimal.splitSign s
        match Decimal.spanDigits s with
        | ([], _) => none
        | (ds, rest) =>
            let n : Int := Nat.ofDigitChars 10 ds 0
            some (if negative then -n else n, rest)
      else none
  | [] => none

/-- A number after its sign. -/
def readUnsigned (limits : Limits) (negative : Bool) (s : List Char) :
    Except ReadFault (Document × List Char) := do
  let (whole, s) ← readMagnitude s
  let fraction := readFraction s
  let s := (fraction.map (·.2)).getD s
  let exponent := readExponent s
  let s := (exponent.map (·.2)).getD s
  if fraction.isNone ∧ exponent.isNone then
    if Limits.beyond limits.digits whole.length then .error (.tooManyDigits whole.length)
    else
      let n : Int := Nat.ofDigitChars 10 whole 0
      .ok (int (if negative then -n else n), s)
  else
    let places := (fraction.map (·.1)).getD []
    let x := Decimal.nearest (Nat.ofDigitChars 10 (whole ++ places) 0)
      ((exponent.map (·.1)).getD 0 - places.length)
    .ok (float (if negative then -x else x), s)

/-- A number, a word or a signed infinity. -/
def readAtom (limits : Limits) (s : List Char) : Except ReadFault (Document × List Char) :=
  match s with
  | '-' :: 'I' :: rest => readWord (float (-Decimal.infinity)) "nfinity".toList rest
  | '-' :: rest => readUnsigned limits true rest
  | 'n' :: rest => readWord null "ull".toList rest
  | 't' :: rest => readWord (bool true) "rue".toList rest
  | 'f' :: rest => readWord (bool false) "alse".toList rest
  | 'N' :: rest => readWord (float Decimal.notANumber) "aN".toList rest
  | 'I' :: rest => readWord (float Decimal.infinity) "nfinity".toList rest
  | s => readUnsigned limits false s

/-! ### Whole documents

Every call below has one unit of fuel less than its caller.  A call either reads a
character or is the only one at its place that does not, so twice the length of the
text is enough.  The depth is the number of arrays and objects around the place.
-/

mutual

/-- A document at the start of the text. -/
def readValue (limits : Limits) (depth : Nat) :
    Nat → List Char → Except ReadFault (Document × List Char)
  | 0, _ => .error .malformed
  | fuel + 1, s =>
      match s with
      | '\x22' :: rest => (readText rest).map fun (t, rest) => (text t, rest)
      | '[' :: rest =>
          if Limits.beyond limits.depth (depth + 1) then .error .arrayTooDeep
          else
            match skipSpace rest with
            | ']' :: rest => .ok (array [], rest)
            | rest =>
                (readItems limits (depth + 1) fuel [] rest).map fun (items, rest) =>
                  (array items, rest)
      | '\x7b' :: rest =>
          if Limits.beyond limits.depth (depth + 1) then .error .objectTooDeep
          else
            match skipSpace rest with
            | '\x7d' :: rest => .ok (object [], rest)
            | rest =>
                (readFields limits (depth + 1) fuel [] rest).map fun (fields, rest) =>
                  (object fields, rest)
      | s => readAtom limits s

/-- The items of an array from the next one on; `done` holds the earlier ones, last first. -/
def readItems (limits : Limits) (depth : Nat) :
    Nat → List Document → List Char → Except ReadFault (List Document × List Char)
  | 0, _, _ => .error .malformed
  | fuel + 1, done, s => do
      let (d, s) ← readValue limits depth fuel s
      match skipSpace s with
      | ']' :: rest => .ok ((d :: done).reverse, rest)
      | ',' :: rest => readItems limits depth fuel (d :: done) (skipSpace rest)
      | _ => .error .malformed

/-- The fields of an object from the next one on, added to the earlier ones. -/
def readFields (limits : Limits) (depth : Nat) :
    Nat → List (Text × Document) → List Char →
      Except ReadFault (List (Text × Document) × List Char)
  | 0, _, _ => .error .malformed
  | fuel + 1, done, s =>
      match s with
      | '\x22' :: s => do
          let (name, s) ← readText s
          match skipSpace s with
          | ':' :: s => do
              let (d, s) ← readValue limits depth fuel (skipSpace s)
              match skipSpace s with
              | '\x7d' :: rest => .ok (setField name d done, rest)
              | ',' :: rest => readFields limits depth fuel (setField name d done) (skipSpace rest)
              | _ => .error .malformed
          | _ => .error .malformed
      | _ => .error .malformed

end

/-- The document that a text writes, within limits. -/
def parse (limits : Limits) (s : String) : Except ReadFault Document := do
  let cs := s.toList
  let (d, rest) ← readValue limits 0 (2 * cs.length + 2) (skipSpace cs)
  if (skipSpace rest).isEmpty then .ok d else .error .malformed

/-- The document that a text writes, if it writes one. -/
def parse? (s : String) : Option Document :=
  (parse .unlimited s).toOption

end FallingBlocks.Document
