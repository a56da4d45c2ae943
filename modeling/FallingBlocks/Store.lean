/-
Stores: where a session is kept between operations.

A store holds one document.  On a disk it is the text of a file.  In memory it is held as it
is, but given out by way of a text: what cannot be written cannot be loaded.  No file and a
stored null both mean that there is no session.

A file is replaced, never overwritten: the new text goes into a file beside it, which
then takes its place.  So a save that cannot be completed leaves the old file whole, and
may leave the new text behind.

A store may be read and written within limits on the size of documents; `load` and `save`
know none.  What a session saves is never deep, so a save looks at the digits only.
-/
import FallingBlocks.Document.Parser
import FallingBlocks.Document.Printer
import FallingBlocks.Store.Disk

namespace FallingBlocks

/-- A place for one document. -/
inductive Store
  | memory (data : Document)
  | file (disk : Disk) (path : Path)

namespace Store

/-- Why a store cannot be read or written. -/
inductive Fault
  /-- The bytes of the file are no text. -/
  | notText
  /-- The text of the file is not read. -/
  | unreadable (fault : Document.ReadFault)
  /-- The document has a whole number with too many digits. -/
  | tooManyDigits
  | disk (fault : Disk.Fault)
  deriving DecidableEq, Repr

/-- The document that the content of a file writes. -/
def decode (limits : Document.Limits) (content : ByteArray) : Except Fault Document :=
  match String.fromUTF8? content with
  | none => .error .notText
  | some s => (Document.parse limits s).mapError .unreadable

/-- The document in the store, within limits; null if there is none. -/
def loadWithin (limits : Document.Limits) : Store → Except Fault Document
  | memory data =>
      if data.hasTooLong limits then .error .tooManyDigits
      else if data.isTooDeep limits then .error (.unreadable .tooDeepToWrite)
      else .ok data
  | file disk path =>
      match disk.file? path with
      | .error fault => .error (.disk fault)
      | .ok none => .ok .null
      | .ok (some content) => decode limits content

/-- The document in the store; null if there is none. -/
def load (s : Store) : Except Fault Document :=
  s.loadWithin .unlimited

/-- Makes the folder that a save needs. -/
def prepare : Store → Store × Except Disk.Fault Unit
  | memory data => (memory data, .ok ())
  | file disk path =>
      let (disk, outcome) := disk.makeFolder path.parent true
      (file disk path, outcome)

/-- Puts a document into a store that is prepared for it. -/
def put (s : Store) (d : Document) : Store × Except Disk.Fault Unit :=
  match s with
  | memory _ => (memory d, .ok ())
  | file disk path =>
      match disk.write path.temporary d.render.toUTF8 with
      | .error fault => (file disk path, .error fault)
      | .ok disk =>
          match disk.rename path.temporary path with
          | .error fault => (file disk path, .error fault)
          | .ok disk => (file disk path, .ok ())

/-- Puts a document into the store, within limits. -/
def saveWithin (limits : Document.Limits) (s : Store) (d : Document) :
    Store × Except Fault Unit :=
  match s.prepare with
  | (ready, .error fault) => (ready, .error (.disk fault))
  | (ready, .ok ()) =>
      if d.hasTooLong limits then (ready, .error .tooManyDigits)
      else
        let (after, outcome) := ready.put d
        (after, outcome.mapError .disk)

/-- Puts a document into the store. -/
def save (s : Store) (d : Document) : Store × Except Fault Unit :=
  s.saveWithin .unlimited d

end Store

end FallingBlocks
