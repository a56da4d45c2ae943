/-
Shapes written by someone else.

A shape may be named by its letter, in any spelling and with blanks around it, or by
its number.  `read` takes everything that can be understood as one or the other;
`ofValue` takes only what already equals a shape's number.
-/
import FallingBlocks.Document.Limits
import FallingBlocks.Document.Number
import FallingBlocks.Shape
import FallingBlocks.Text.Blank
import FallingBlocks.Text.Capital

namespace FallingBlocks.Shape

/-- Why a document names no shape. -/
inductive Fault
  /-- The text is not the letter of a shape. -/
  | unknownName (t : Text)
  /-- The value is not the number of a shape. -/
  | unknownValue (d : Document)
  /-- The document is not even a number. -/
  | noNumber (fault : Document.NumberFault)

/-- The wording of a fault. -/
def Fault.message : Fault → String
  | unknownName t => "unknown shape " ++ Text.quoted t
  | unknownValue d => d.orTooLong (d.describe ++ " is not a valid Shape")
  | noNumber fault => fault.message

/-- The shape whose letter a text is, whatever its spelling. -/
def ofName? (t : Text) : Option Shape :=
  match (Text.strip Text.blanks t.chars).flatMap Text.capitals with
  | [c] => ofLetter? c
  | _ => none

/-- The shape whose number a document equals. -/
def ofValue (d : Document) : Except Fault Shape :=
  match d.whole?.bind ofNumber? with
  | some s => .ok s
  | none => .error (.unknownValue d)

/-- The shape that a document names. -/
def read : Document → Except Fault Shape
  | .text t =>
      match ofName? t with
      | some shape => .ok shape
      | none => .error (.unknownName t)
  | d =>
      match d.toWhole with
      | .error fault => .error (.noNumber fault)
      | .ok n => ofValue (.int n)

end FallingBlocks.Shape
