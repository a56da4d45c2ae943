/-
How much of a document is taken in.

Documents themselves are of any size.  What reads or writes their text may be limited: in
the digits of a whole number, and in how deep arrays and objects lie in one another.
-/
import FallingBlocks.Document

namespace FallingBlocks.Document

/-- The limits of a reader or writer; `none` stands for no limit. -/
structure Limits where
  /-- The most digits of a whole number. -/
  digits : Option Nat := none
  /-- The most arrays and objects around one place. -/
  depth : Option Nat := none
  deriving DecidableEq, Repr

namespace Limits

/-- No limits at all. -/
def unlimited : Limits := {}

/-- The most arrays and objects around one place that a reader goes into. -/
def usualDepth : Nat := 988

/-- The limits that stored sessions are read and written with. -/
def usual : Limits := { digits := some Decimal.digitLimit, depth := some usualDepth }

/-- Whether a number is beyond a limit. -/
def beyond (limit : Option Nat) (n : Nat) : Bool :=
  limit.any (· < n)

/-- Whether a whole number has more digits than the limit. -/
def tooLong (limits : Limits) (n : Int) : Bool :=
  limits.digits.any fun most => Nat.pow 10 most ≤ n.natAbs

end Limits

mutual

/-- Whether a document holds a whole number with more digits than the limit. -/
def hasTooLong (limits : Limits) : Document → Bool
  | int n => limits.tooLong n
  | array items => anyTooLong limits items
  | object fields => anyFieldTooLong limits fields
  | _ => false

def anyTooLong (limits : Limits) : List Document → Bool
  | [] => false
  | d :: rest => hasTooLong limits d || anyTooLong limits rest

def anyFieldTooLong (limits : Limits) : List (Text × Document) → Bool
  | [] => false
  | (_, d) :: rest => hasTooLong limits d || anyFieldTooLong limits rest

end

mutual

/-- How many arrays and objects lie in one another. -/
def depth : Document → Nat
  | array items => itemsDepth items + 1
  | object fields => fieldsDepth fields + 1
  | _ => 0

def itemsDepth : List Document → Nat
  | [] => 0
  | d :: rest => max (depth d) (itemsDepth rest)

def fieldsDepth : List (Text × Document) → Nat
  | [] => 0
  | (_, d) :: rest => max (depth d) (fieldsDepth rest)

end

/-- Whether arrays and objects lie deeper in one another than the limit. -/
def isTooDeep (limits : Limits) (d : Document) : Bool :=
  Limits.beyond limits.depth d.depth

/-- A message that shows a document, or what is said where a number in it has too many digits. -/
def orTooLong (shown : Document) (message : String) : String :=
  if shown.hasTooLong .usual then Decimal.tooLongToWrite else message

end FallingBlocks.Document
