/-
Arithmetic on documents that nobody has checked.

Truth values count as zero and one, and a whole number that meets a floating-point number
is turned into one; comparisons of the two are exact.  A text or an array can be joined
with one of its kind, compared with one of its kind and repeated a whole number of times.
A text that is divided by a number is a template, and the remainder is what it comes to with
the number filled in.  Everything else is refused, and the refusal names the operator and
the two kinds.

Other refusals come from the size of numbers: a position in a list has to fit a machine
word of 64 bits, a number has no more digits than can be counted, and what is repeated or a
power of two has to fit the memory.
-/
import FallingBlocks.Document.Number
import FallingBlocks.Machine
import FallingBlocks.Text.Template

namespace FallingBlocks.Document

/-- What a position can be looked up in. -/
inductive Sequence
  | list | tuple | text
  deriving DecidableEq, Repr

/-- What messages call a sequence. -/
def Sequence.name : Sequence → String
  | list => "list"
  | tuple => "tuple"
  | text => "string"

/-- Why documents cannot be combined. -/
inductive OperandFault
  /-- The operator does not take these kinds. -/
  | unsupported (operator : String) (left right : Kind)
  /-- The two kinds have no order between them. -/
  | incomparable (operator : String) (left right : Kind)
  /-- A text or an array is joined with something of another kind. -/
  | unjoinable (left right : Kind)
  /-- A text or an array is repeated, but not a whole number of times. -/
  | unrepeatable (times : Kind)
  /-- An array is extended by something without items. -/
  | noItems (found : Kind)
  /-- A text cannot be filled with a number. -/
  | template (fault : Text.Template.Fault)
  /-- The kind has no complement. -/
  | noComplement (found : Kind)
  /-- The position is not a whole number. -/
  | noPosition (inside : Sequence) (found : Kind)
  /-- The position does not fit a machine word. -/
  | positionTooLarge
  /-- There is nothing at the position. -/
  | nothingThere (inside : Sequence)
  /-- There is nothing to change at the position. -/
  | nothingToChange
  /-- A shift by a negative number. -/
  | negativeShift
  /-- The result has more digits than a number can have. -/
  | tooManyDigits
  /-- The result does not fit the memory. -/
  | outOfMemory
  /-- A list cannot be that long. -/
  | lengthTooLarge
  /-- The whole number is beyond the floating-point numbers. -/
  | tooLarge
  deriving DecidableEq, Repr

/-- Whether it is the kinds of the documents that are at fault, rather than their values. -/
def OperandFault.isMismatch : OperandFault → Bool
  | unsupported .. | incomparable .. | unjoinable .. | unrepeatable .. | noItems ..
  | noComplement .. | noPosition .. | template .named | template .noneLeft
  | template .unused => true
  | _ => false

/-- The wording of a fault. -/
def OperandFault.message : OperandFault → String
  | unsupported operator left right =>
      "unsupported operand type(s) for " ++ operator ++ ": '" ++ left.name ++ "' and '"
        ++ right.name ++ "'"
  | incomparable operator left right =>
      "'" ++ operator ++ "' not supported between instances of '" ++ left.name ++ "' and '"
        ++ right.name ++ "'"
  | unjoinable left right =>
      "can only concatenate " ++ left.name ++ " (not \"" ++ right.name ++ "\") to " ++ left.name
  | unrepeatable times => "can't multiply sequence by non-int of type '" ++ times.name ++ "'"
  | noItems found => "'" ++ found.name ++ "' object is not iterable"
  | template fault => fault.message
  | noComplement found => "bad operand type for unary ~: '" ++ found.name ++ "'"
  | noPosition .text found => "string indices must be integers, not '" ++ found.name ++ "'"
  | noPosition inside found =>
      inside.name ++ " indices must be integers or slices, not " ++ found.name
  | positionTooLarge => "cannot fit 'int' into an index-sized integer"
  | nothingThere inside => inside.name ++ " index out of range"
  | nothingToChange => "list assignment index out of range"
  | negativeShift => "negative shift count"
  | tooManyDigits => "too many digits in integer"
  | outOfMemory => ""
  | lengthTooLarge => "cannot fit 'int' into an index-sized integer"
  | tooLarge => NumberFault.message .tooLarge

/-! ### Numbers -/

/-- A number of either sort. -/
inductive Scalar
  | whole (n : Int)
  | real (x : Float)

/-- The number that a document is. -/
def scalar? : Document → Option Scalar
  | bool b => some (.whole (if b then 1 else 0))
  | int n => some (.whole n)
  | float x => some (.real x)
  | _ => none

/-- The whole number that a document is; a floating-point number is none. -/
def integer? : Document → Option Int
  | bool b => some (if b then 1 else 0)
  | int n => some n
  | _ => none

/-- A number as a floating-point number. -/
def Scalar.toFloat : Scalar → Except OperandFault Float
  | whole n =>
      match Decimal.float? n with
      | some x => .ok x
      | none => .error .tooLarge
  | real x => .ok x

/-- A whole number against a floating-point number, exactly; none if the latter is no number. -/
def compareWholeReal (n : Int) (x : Float) : Option Ordering :=
  match Decimal.Binary.ofFloat x with
  | .nan => none
  | .infinite negative => some (if negative then .gt else .lt)
  | .finite negative m e =>
      let right : Int := (if negative then -1 else 1) * m * Nat.pow 2 e.toNat
      some (compare (n * Nat.pow 2 (-e).toNat) right)

/-- How two numbers compare, unless one of them is no number. -/
def Scalar.compare? : Scalar → Scalar → Option Ordering
  | whole m, whole n => some (compare m n)
  | whole n, real x => compareWholeReal n x
  | real x, whole n => (compareWholeReal n x).map Ordering.swap
  | real x, real y =>
      if x < y then some .lt else if y < x then some .gt else if x == y then some .eq else none

/-- Applies an operator that takes numbers only. -/
def arithmetic (operator : String) (wholes : Int → Int → Int)
    (reals : Float → Float → Float) (a b : Document) : Except OperandFault Document :=
  match a.scalar?, b.scalar? with
  | some (.whole m), some (.whole n) => .ok (int (wholes m n))
  | some x, some y => do .ok (float (reals (← x.toFloat) (← y.toFloat)))
  | _, _ => .error (.unsupported operator a.kind b.kind)

/-! ### Operators -/

/-- The sum of two documents. -/
def add (a b : Document) (operator : String := "+") : Except OperandFault Document :=
  match a, b with
  | text s, text t => .ok (text (s ++ t))
  | text _, b => .error (.unjoinable .text b.kind)
  | array xs, array ys => .ok (array (xs ++ ys))
  | array _, b => .error (.unjoinable .array b.kind)
  | a, b => arithmetic operator (· + ·) (· + ·) a b

/-- A document increased by another; an array takes in whatever has items. -/
def increase (a b : Document) : Except OperandFault Document :=
  match a with
  | array xs =>
      match b.items? with
      | some ys => .ok (array (xs ++ ys))
      | none => .error (.noItems b.kind)
  | a => a.add b "+="

/-- The difference of two documents. -/
def subtract (a b : Document) : Except OperandFault Document :=
  arithmetic "-" (· - ·) (· - ·) a b

/-- A list over and over again. -/
def repeated [Machine] {α : Type} (xs : List α) (times : Document) : Except OperandFault (List α) :=
  match times.integer? with
  | none => .error (.unrepeatable times.kind)
  | some n =>
      if n < -(Nat.pow 2 63 : Int) ∨ Nat.pow 2 63 ≤ n then .error .lengthTooLarge
      else if xs.isEmpty then .ok []
      else if Machine.items < xs.length * n then .error .outOfMemory
      else .ok (List.replicate n.toNat xs).flatten

/-- The product of two documents. -/
def multiply [Machine] (a b : Document) : Except OperandFault Document :=
  match a, b with
  | text t, b => (repeated t.points b).map fun points => text ⟨points⟩
  | array xs, b => (repeated xs b).map array
  | a, text t => (repeated t.points a).map fun points => text ⟨points⟩
  | a, array xs => (repeated xs a).map array
  | a, b => arithmetic "*" (· * ·) (· * ·) a b

/-- The remainder of a floating-point number divided by a positive whole number. -/
def floatRemainder (x : Float) (n : Nat) : Float :=
  match Decimal.Binary.ofFloat x with
  | .finite negative m e =>
      let rest := if 0 ≤ e then m * Nat.pow 2 e.toNat % n else m % (n * Nat.pow 2 (-e).toNat)
      let rest := (Float.ofNat rest).scaleB (if 0 ≤ e then 0 else e)
      if negative && rest != 0 then Float.ofNat n - rest else rest
  | _ => Decimal.notANumber

/-- The remainder of a document divided by a whole number from one to nine. -/
def remainder [Machine] (a : Document) (n : Nat) : Except OperandFault Document :=
  match a with
  | text t => ((t.filled n).mapError .template).map text
  | a =>
      match a.scalar? with
      | some (.whole m) => .ok (int (m % n))
      | some (.real x) => .ok (float (floatRemainder x n))
      | none => .error (.unsupported "%" a.kind .int)

/-! ### Comparisons -/

/-- Whether two documents are the same number; a document that is none equals nothing here. -/
def sameNumber (a b : Document) : Bool :=
  match a.scalar?, b.scalar? with
  | some x, some y => x.compare? y == some .eq
  | _, _ => false

mutual

/-- Whether two documents are the same value; fields may come in any order. -/
def same : Document → Document → Bool
  | null, null => true
  | float x, float y => x == y || x.isNaN && y.isNaN
  | text s, text t => s == t
  | array xs, array ys => sameItems xs ys
  | object fields, object others => fields.length == others.length && sameFields fields others
  | a, b => a.sameNumber b

def sameItems : List Document → List Document → Bool
  | [], [] => true
  | x :: xs, y :: ys => same x y && sameItems xs ys
  | _, _ => false

def sameFields : List (Text × Document) → List (Text × Document) → Bool
  | [], _ => true
  | (name, d) :: rest, others =>
      (match lookup name others with
        | some e => same d e
        | none => false) && sameFields rest others

end

mutual

/--
Whether two documents stand in an order.  Two arrays stand in the order of the first items
that differ; if there are none, the longer array is the greater one.
-/
def ordered (operator : String) (holds : Ordering → Bool) :
    Document → Document → Except OperandFault Bool
  | text s, text t => .ok (holds (if s = t then .eq else if s.isAtMost t then .lt else .gt))
  | array xs, array ys => orderedItems operator holds xs ys
  | a, b =>
      match a.scalar?, b.scalar? with
      | some x, some y => .ok ((x.compare? y).any holds)
      | _, _ => .error (.incomparable operator a.kind b.kind)

def orderedItems (operator : String) (holds : Ordering → Bool) :
    List Document → List Document → Except OperandFault Bool
  | [], [] => .ok (holds .eq)
  | [], _ :: _ => .ok (holds .lt)
  | _ :: _, [] => .ok (holds .gt)
  | x :: xs, y :: ys =>
      if same x y then orderedItems operator holds xs ys else ordered operator holds x y

end

/-- Whether a document is at most another. -/
def isLE (a b : Document) : Except OperandFault Bool := ordered "<=" Ordering.isLE a b

/-- Whether a document is below another. -/
def isLT (a b : Document) : Except OperandFault Bool := ordered "<" Ordering.isLT a b

/-- Whether a document is at least another. -/
def isGE (a b : Document) : Except OperandFault Bool := ordered ">=" Ordering.isGE a b

/-! ### Bits -/

/-- The most digits that a number can have, each worth 30 bits. -/
def mostDigits : Int := 2305843009213693945

/-- From this exponent on a power of two has more digits than a number can have. -/
def digitExponent : Int := 30 * (mostDigits - 1) + 1

/-- The power of two whose exponent is a document. -/
def powerOfTwo [Machine] (exponent : Document) : Except OperandFault Int :=
  match exponent.integer? with
  | none => .error (.unsupported "<<" .int exponent.kind)
  | some n =>
      if n < 0 then .error .negativeShift
      else if digitExponent ≤ n then .error .tooManyDigits
      else if Machine.bits ≤ n then .error .outOfMemory
      else .ok (Nat.pow 2 n.toNat)

/-! ### Positions -/

/-- The position in a sequence of some length; negative positions count from the end. -/
def position (inside : Sequence) (size : Nat) (missing : OperandFault) (key : Document) :
    Except OperandFault Nat :=
  match key.integer? with
  | none => .error (.noPosition inside key.kind)
  | some n =>
      if n < -(Nat.pow 2 63 : Int) ∨ Nat.pow 2 63 ≤ n then .error .positionTooLarge
      else
        let fromStart := if n < 0 then n + size else n
        if 0 ≤ fromStart ∧ fromStart < size then .ok fromStart.toNat else .error missing

end FallingBlocks.Document
