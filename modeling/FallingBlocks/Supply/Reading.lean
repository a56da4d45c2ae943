/-
Sequences of shapes written by someone else.

A sequence is a list whose items name shapes, or a text whose characters do.  It has to
name at least one shape; the first item that names none decides what is wrong with it.
-/
import FallingBlocks.Shape.Reading
import FallingBlocks.Supply

namespace FallingBlocks.Supply

/-- Why a document is no sequence of shapes. -/
inductive Fault
  | shape (fault : Shape.Fault)
  | empty
  | notASequence (found : Document.Kind)

/-- The wording of a fault. -/
def Fault.message : Fault → String
  | shape fault => fault.message
  | empty => "FixedSequenceGenerator needs at least one shape"
  | notASequence found => "'" ++ found.name ++ "' object is not iterable"

/-- The sequence that a document writes, over and over again. -/
def read (d : Document) : Except Fault Supply :=
  match d.items? with
  | none => .error (.notASequence d.kind)
  | some items =>
      match items.mapM Shape.read with
      | .error fault => .error (.shape fault)
      | .ok [] => .error .empty
      | .ok (first :: rest) => .ok (cycle first rest)

end FallingBlocks.Supply
