/-
Snapshots written by someone else, read under settings that need not be whole numbers.

A height that equals the number of rows is as good as a whole one; a width that is none is
found out when the first row is looked at.

A refusal shows what it refuses.  Where that is a number with too many digits to be shown, it
is this that is told, and no refusal any more.  How deep a document goes does not matter here:
showing it takes no more than reading it took.
-/
import FallingBlocks.Document.Limits
import FallingBlocks.Raw.Session
import FallingBlocks.Snapshot.Loading

namespace FallingBlocks.Raw

/-- The board of a snapshot under settings. -/
def readBoard [Machine] (c : Settings) (d : Document) :
    Except FallingBlocks.Snapshot.Fault FallingBlocks.Board :=
  match d.items? with
  | none => .error (.noItems d.kind)
  | some items => (Board.checked c.width c.height items).mapError .rows

/-- The fault of a snapshot, if its message can be put into words. -/
def faultOfSnapshot (fault : FallingBlocks.Snapshot.Fault) : Fault :=
  if fault.shown.any (Document.hasTooLong .usual) then .tooLongToShow else .snapshot fault

/-- The snapshot that a document writes under settings. -/
def load [Machine] (c : Settings) (d : Document) : Except Fault FallingBlocks.Snapshot :=
  (FallingBlocks.Snapshot.loadWith (readBoard c) d).mapError faultOfSnapshot

end FallingBlocks.Raw
