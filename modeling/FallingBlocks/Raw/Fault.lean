/-
Games on raw values.

A raw value is a document that stands where a game has a number, a counter or a truth
value, and that nobody has looked at.  It is carried along as it was written, and what is
wrong with it shows only where it is used.

Everything in this folder comes in two parts.  Where all values are ordinary whole numbers
the game is the ordinary one, and the operations only lead there and back.  Everywhere else
they follow the same course value by value.  On the snapshots that the reader accepts, and
where there is room for the board, the two parts of a session come to the same.

How much fits the memory is a matter of the machine.  Ordinary numbers are so small that
whatever a game makes of them fits.
-/
import FallingBlocks.Action.Reading
import FallingBlocks.Board.Bitmap
import FallingBlocks.Document.Arithmetic
import FallingBlocks.Machine
import FallingBlocks.Raw.Table
import FallingBlocks.Snapshot.Loading

namespace FallingBlocks.Raw

/-- Why an operation on raw values stops. -/
inductive Fault
  | operand (fault : Document.OperandFault)
  | number (fault : Document.NumberFault)
  | shape (fault : Shape.Fault)
  /-- No form of the shape belongs to the rotation. -/
  | noForm (shape : Shape) (rotation : Document)
  /-- A field is missing. -/
  | noField (name : String)
  /-- A document that should have fields is of a kind without any. -/
  | noFields (found : Document.Kind)
  /-- A list of a wrong length stands where a row and a column are needed. -/
  | notTwo (found : Nat)
  /-- No row and column can be taken out of the value. -/
  | noCell (found : Document.Kind)
  /-- The value cannot be told from others by what it is. -/
  | noValue (found : Document.Kind)
  /-- A number has too many digits for the message that shows it. -/
  | tooLongToShow
  /-- A record shows a number, and the value is of a kind without one. -/
  | noNumber (found : Document.Kind)
  /-- No game has begun. -/
  | notInitialized
  | action (fault : Action.Fault)
  | snapshot (fault : Snapshot.Fault)
  /-- A row mask is no 32-bit word. -/
  | word (fault : Board.WordFault)
  | table (fault : TableFault)

/-- The wording of a fault. -/
def Fault.message : Fault → Text
  | operand fault => fault.message
  | number fault => fault.message
  | shape fault => fault.message
  | noForm s rotation =>
      "(<Shape." ++ String.singleton s.letter ++ ": " ++ toString s.number ++ ">, "
        ++ rotation.describe ++ ")"
  | noField name => Text.quoted name
  | noFields found => Snapshot.noFieldsMessage found
  | notTwo found =>
      if found < 2 then "not enough values to unpack (expected 2, got " ++ toString found ++ ")"
      else "too many values to unpack (expected 2)"
  | noCell found => "cannot unpack non-iterable " ++ found.name ++ " object"
  | noValue found => "unhashable type: '" ++ found.name ++ "'"
  | tooLongToShow => Decimal.tooLongToWrite
  | noNumber found => "%d format: a real number is required, not " ++ found.name
  | notInitialized => "Game not initialized"
  | action fault => fault.message
  | snapshot fault => fault.message
  | word fault => fault.message
  | table fault => fault.message

/-- The fault of an ordinary board. -/
def Fault.ofBoard : FallingBlocks.Board.Fault → Fault
  | .rowOutOfRange => .operand (.nothingThere .list)
  | .negativeShift => .operand .negativeShift

/-- What a raw value comes to in an operation on documents. -/
def combined {α : Type} (r : Except Document.OperandFault α) : Except Fault α :=
  r.mapError .operand

/-- A raw value as a whole number. -/
def wholeOf (d : Document) : Except Fault Int :=
  d.toWhole.mapError .number

/-- Ordinary numbers are below this in magnitude. -/
def ordinaryLimit [Machine] : Nat := min (Nat.pow 2 30) (min Machine.bits Machine.items)

/-- The ordinary number that a raw value is. -/
def ordinary? [Machine] : Document → Option Int
  | .int n => if n.natAbs < ordinaryLimit then some n else none
  | _ => none

/-- The whole number that a raw value is, of any size; a truth value is none. -/
def anyWhole? : Document → Option Int
  | .int n => some n
  | _ => none

/-- Whole numbers are found again among raw values. -/
@[simp] theorem mapM_anyWhole?_comp_int (ns : List Int) :
    ns.mapM (anyWhole? ∘ Document.int) = some ns := by
  induction ns with
  | nil => rfl
  | cons n ns ih => simp [List.mapM_cons, ih, anyWhole?]

end FallingBlocks.Raw
