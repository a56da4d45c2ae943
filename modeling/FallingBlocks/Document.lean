/-
Documents: the values that a stored session is written in.

A document is null, a truth value, a number, a text, an array or an object whose
fields keep the order in which they were first set.  Whole numbers are exact and of
any size; a number written with a fraction or an exponent is a floating-point number
and stays one, so `4` and `4.0` are different documents.
-/
import FallingBlocks.Decimal.Shortest
import FallingBlocks.Decimal.Whole
import FallingBlocks.Text.Quoted

namespace FallingBlocks

/-- A value of any shape. -/
inductive Document
  | null
  | bool (b : Bool)
  | int (n : Int)
  | float (x : Float)
  | text (t : Text)
  | array (items : List Document)
  | object (fields : List (Text × Document))
  deriving Inhabited

namespace Document

/-- The shape of a document, without its content. -/
inductive Kind
  | null | bool | int | float | text | array | object
  deriving DecidableEq, Repr

/-- What messages call a document of some kind. -/
def Kind.name : Kind → String
  | null => "NoneType"
  | bool => "bool"
  | int => "int"
  | float => "float"
  | text => "str"
  | array => "list"
  | object => "dict"

/-- The kind of a document. -/
def kind : Document → Kind
  | null => .null
  | bool _ => .bool
  | int _ => .int
  | float _ => .float
  | text _ => .text
  | array _ => .array
  | object _ => .object

/-- The value of a field in a list of fields. -/
def lookup (name : Text) (fields : List (Text × Document)) : Option Document :=
  (fields.find? fun f => f.1 == name).map (·.2)

/-- The list with a field set: in its old place if it was there, at the end if not. -/
def setField (name : Text) (value : Document) :
    List (Text × Document) → List (Text × Document)
  | [] => [(name, value)]
  | f :: rest => if f.1 == name then (name, value) :: rest else f :: setField name value rest

/--
The items of a document that has items: those of an array, the code points of a text and
the field names of an object.
-/
def items? : Document → Option (List Document)
  | array items => some items
  | text t => some (t.points.map fun p => text ⟨[p]⟩)
  | object fields => some (fields.map fun f => text f.1)
  | _ => none

/-- Whether a document counts as true: it is not null, false, zero or empty. -/
def isTrue : Document → Bool
  | null => false
  | bool b => b
  | int n => n != 0
  | float x => x != 0
  | text t => !t.points.isEmpty
  | array items => !items.isEmpty
  | object fields => !fields.isEmpty

/-! ### Documents in messages -/

/-- The texts of floating-point numbers that are not finite, as messages show them. -/
def shownSpecials : Decimal.Specials := ⟨"nan", "inf"⟩

mutual

/-- A document as messages show it. -/
def describe : Document → String
  | null => "None"
  | bool true => "True"
  | bool false => "False"
  | int n => String.ofList (Decimal.text n)
  | float x => String.ofList (Decimal.floatText shownSpecials x)
  | text t => Text.quoted t
  | array items => "[" ++ ", ".intercalate (describeItems items) ++ "]"
  | object fields => "\x7b" ++ ", ".intercalate (describeFields fields) ++ "\x7d"

def describeItems : List Document → List String
  | [] => []
  | d :: rest => describe d :: describeItems rest

def describeFields : List (Text × Document) → List String
  | [] => []
  | (name, d) :: rest => (Text.quoted name ++ ": " ++ describe d) :: describeFields rest

end

/-- A document as plain text: a text as it is, anything else as messages show it. -/
def plain : Document → Text
  | text t => t
  | d => d.describe

end Document

end FallingBlocks
