/-
Actions asked for by someone else.

An action is asked for by its number.  A session takes only a value that equals the
number (`ofValue`); an environment also takes what can be turned into it (`read`).
-/
import FallingBlocks.Action
import FallingBlocks.Document.Limits
import FallingBlocks.Document.Number

namespace FallingBlocks.Action

/-- Why a document asks for no action. -/
inductive Fault
  /-- The value is not the number of an action. -/
  | unknown (asked : Document)
  /-- The document is not even a number. -/
  | noNumber (fault : Document.NumberFault)

/-- The wording of a fault. -/
def Fault.message : Fault → String
  | unknown asked => asked.orTooLong (asked.describe ++ " is not a valid Action")
  | noNumber fault => fault.message

/-- The action whose number a document equals. -/
def ofValue (d : Document) : Except Fault Action :=
  match d.whole?.bind ofNumber? with
  | some a => .ok a
  | none => .error (.unknown d)

/-- The action whose number a document can be turned into. -/
def read (d : Document) : Except Fault Action :=
  match d.toWhole with
  | .error fault => .error (.noNumber fault)
  | .ok n => ofValue (.int n)

end FallingBlocks.Action
