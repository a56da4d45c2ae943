/-
Drafts: documents that are being worked on.

A draft differs from a document in its objects: a field may be keyed by any document
without parts, so that the text `5` and the number 5 are different keys.  Written down as a
document all keys become texts, and of two fields whose keys become the same text the last
one counts, in the place of the first.

A place in a draft is reached by a list of keys, and what lies there is replaced or taken
out.
-/
import FallingBlocks.Document.Arithmetic
import FallingBlocks.Document.Printer

namespace FallingBlocks

/-- A document whose objects may have keys of any sort. -/
inductive Draft
  | leaf (d : Document)
  | array (items : List Draft)
  | object (fields : List (Document × Draft))
  deriving Inhabited

namespace Draft

mutual

/-- A document as a draft. -/
def ofDocument : Document → Draft
  | .array items => .array (ofItems items)
  | .object fields => .object (ofFields fields)
  | d => .leaf d

def ofItems : List Document → List Draft
  | [] => []
  | d :: rest => ofDocument d :: ofItems rest

def ofFields : List (Text × Document) → List (Document × Draft)
  | [] => []
  | (name, d) :: rest => (.text name, ofDocument d) :: ofFields rest

end

/-- The text that a key becomes. -/
def keyName : Document → Text
  | .text t => t
  | d => d.render

mutual

/-- A draft written down as a document. -/
def toDocument : Draft → Document
  | .leaf d => d
  | .array items => .array (toItems items)
  | .object fields => .object (toFields fields [])

def toItems : List Draft → List Document
  | [] => []
  | d :: rest => toDocument d :: toItems rest

/-- The fields after `done`; one whose name is there already takes its place. -/
def toFields : List (Document × Draft) → List (Text × Document) → List (Text × Document)
  | [], done => done
  | (key, d) :: rest, done =>
      toFields rest (Document.setField (keyName key) (toDocument d) done)

end

/-- The kind of a draft. -/
def kind : Draft → Document.Kind
  | .leaf d => d.kind
  | .array _ => .array
  | .object _ => .object

/-- Why a place cannot be reached or changed. -/
inductive Fault
  /-- No key says where to go. -/
  | noWay
  /-- The object has no such key. -/
  | noKey (key : Document)
  /-- The key has parts. -/
  | keyWithParts (found : Document.Kind)
  /-- The key is no position of the array or text. -/
  | position (fault : Document.OperandFault)
  | cannotEnter (found : Document.Kind)
  | cannotPut (found : Document.Kind)
  | cannotDrop (found : Document.Kind)
  /-- A character cannot be taken out of a text. -/
  | cannotDropCharacter

/-- The wording of a fault. -/
def Fault.message : Fault → String
  | noWay => (Document.OperandFault.nothingThere .list).message
  | noKey key => key.describe
  | keyWithParts found => "unhashable type: '" ++ found.name ++ "'"
  | position fault => fault.message
  | cannotEnter found => "'" ++ found.name ++ "' object is not subscriptable"
  | cannotPut found => "'" ++ found.name ++ "' object does not support item assignment"
  | cannotDrop found => "'" ++ found.name ++ "' object does not support item deletion"
  | cannotDropCharacter =>
      "'" ++ Document.Kind.text.name ++ "' object doesn't support item deletion"

/-! ### Keys -/

/-- A key without parts. -/
def checkKey (key : Document) : Except Fault Unit :=
  match key with
  | .array _ | .object _ => .error (.keyWithParts key.kind)
  | _ => .ok ()

/-- The fields with one of them set: in its old place, under its old key, or at the end. -/
def setField (key : Document) (value : Draft) :
    List (Document × Draft) → List (Document × Draft)
  | [] => [(key, value)]
  | f :: rest =>
      if f.1.same key then (f.1, value) :: rest else f :: setField key value rest

/-- A position in an array, or in a text, for something that is said of its items. -/
def positionIn (inside : Document.Sequence) (size : Nat) (missing : Document.OperandFault)
    (key : Document) : Except Fault Nat :=
  (Document.position inside size missing key).mapError .position

/-! ### Reaching and changing -/

/-- What is done at the end of the way. -/
inductive Change
  | put (value : Document)
  | drop

/-- What lies right below a draft. -/
def child (key : Document) : Draft → Except Fault Draft
  | .object fields => do
      checkKey key
      match fields.find? fun f => f.1.same key with
      | some f => .ok f.2
      | none => .error (.noKey key)
  | .array items => do
      let i ← positionIn .list items.length (.nothingThere .list) key
      .ok (items.getD i default)
  | .leaf (.text t) => do
      let i ← positionIn .text t.points.length (.nothingThere .text) key
      .ok (.leaf (.text ⟨[t.points.getD i (.char ' ')]⟩))
  | .leaf d => .error (.cannotEnter d.kind)

/-- Makes a change right below a draft. -/
def changeChild (key : Document) (change : Change) : Draft → Except Fault Draft
  | .object fields => do
      checkKey key
      match change with
      | .put value => .ok (.object (setField key (ofDocument value) fields))
      | .drop =>
          if fields.any fun f => f.1.same key then
            .ok (.object (fields.filter fun f => !f.1.same key))
          else .error (.noKey key)
  | .array items => do
      let i ← positionIn .list items.length .nothingToChange key
      match change with
      | .put value => .ok (.array (items.set i (ofDocument value)))
      | .drop => .ok (.array (items.eraseIdx i))
  | .leaf d =>
      let isText := d.kind = .text
      match key.integer?, change with
      | some n, change =>
          if isText ∧ (n < -(Nat.pow 2 63 : Int) ∨ Nat.pow 2 63 ≤ n) then .error (.position .positionTooLarge)
          else
            match change with
            | .put _ => .error (.cannotPut d.kind)
            | .drop => .error (if isText then .cannotDropCharacter else .cannotDrop d.kind)
      | none, .put _ => .error (.cannotPut d.kind)
      | none, .drop => .error (.cannotDrop d.kind)

/-- Puts a draft back to where `child` found one. -/
def replaceChild (key : Document) (value : Draft) : Draft → Draft
  | .object fields => .object (setField key value fields)
  | .array items =>
      match Document.position .list items.length .nothingToChange key with
      | .ok i => .array (items.set i value)
      | .error _ => .array items
  | d => d

/-- Makes a change at the end of a way. -/
def changeAt (change : Change) : List Document → Draft → Except Fault Draft
  | [], _ => .error .noWay
  | [key], d => d.changeChild key change
  | key :: next :: rest, d => do
      let below ← d.child key
      let below ← changeAt change (next :: rest) below
      .ok (replaceChild key below d)

end Draft

end FallingBlocks
