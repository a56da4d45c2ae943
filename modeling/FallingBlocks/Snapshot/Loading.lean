/-
Snapshots written by someone else.

A document is accepted as a snapshot under a configuration when all its fields are
there, the board has the configuration's size, both pieces have a known shape, whole
coordinates, a reduced rotation and all their cells in bounds, the counters are whole
and not negative, the level is at least one, and the end of the game is a truth value.
Other fields are ignored.

The checks run in a fixed order and the first to fail gives the reason.  One number is
not refused but escapes: an infinite one as the number of a shape.
-/
import FallingBlocks.Board.Loading
import FallingBlocks.Config
import FallingBlocks.Shape.Reading
import FallingBlocks.Snapshot

namespace FallingBlocks.Snapshot

/-- The two pieces of a snapshot. -/
inductive Slot
  | current | next
  deriving DecidableEq, Repr

/-- The field that holds a piece. -/
def Slot.field : Slot → String
  | current => "current_piece"
  | next => "next_piece"

/-- Why a document is not accepted as a snapshot. -/
inductive Fault
  /-- A field is missing from the snapshot or from one of its pieces. -/
  | missing (field : String)
  /-- A document that should have fields is of a kind without any. -/
  | noFields (found : Document.Kind)
  /-- The board is of a kind without items. -/
  | noItems (found : Document.Kind)
  /-- A shape is given by a document that cannot be a number. -/
  | noNumber (found : Document.Kind)
  | rows (fault : Board.RowsFault)
  | shape (slot : Slot) (fault : Shape.Fault)
  | notWhole (slot : Slot) (field : String) (found : Document)
  | badRotation (slot : Slot) (found : Int)
  | notACounter (field : String) (found : Document)
  | negativeCounter (field : String) (found : Int)
  | notATruthValue (found : Document)
  | badLevel (found : Int)
  | outside (slot : Slot) (cells : List Cell)
  /-- A shape is given by an infinite number. -/
  | infiniteShape

/-- Whether the fault is reported as a refusal of the snapshot. -/
def Fault.isRefusal : Fault → Bool
  | infiniteShape => false
  | rows (.noMask fault) => fault.isMismatch
  | _ => true

/-- What is said of a document without fields. -/
def noFieldsMessage : Document.Kind → String
  | .array => "list indices must be integers or slices, not str"
  | .text => "string indices must be integers, not 'str'"
  | k => "'" ++ k.name ++ "' object is not subscriptable"

/-- A list of cells as messages show it. -/
def describeCells (cells : List Cell) : String :=
  let pair (c : Cell) : String := "(" ++ toString c.row ++ ", " ++ toString c.col ++ ")"
  "[" ++ ", ".intercalate (cells.map pair) ++ "]"

/-- The wording of a fault. -/
def Fault.message : Fault → Text
  | missing field => "snapshot is missing field " ++ Text.quoted field
  | noFields found => "malformed snapshot: " ++ noFieldsMessage found
  | noItems found => "malformed snapshot: '" ++ found.name ++ "' object is not iterable"
  | noNumber found => "malformed snapshot: " ++ (Document.NumberFault.noWhole found).message
  | rows (.noMask fault) =>
      if fault.isMismatch then "malformed snapshot: " ++ fault.message else fault.message
  | rows fault => fault.message
  | shape slot fault => slot.field ++ ": " ++ fault.message
  | notWhole slot field found =>
      slot.field ++ "." ++ field ++ " must be an integer, got " ++ found.describe
  | badRotation slot found =>
      slot.field ++ ".rotation must be in [0, 4), got " ++ toString found
  | notACounter field found => field ++ " must be an integer, got " ++ found.describe
  | negativeCounter field found => field ++ " must be non-negative, got " ++ toString found
  | notATruthValue found => "game_over must be a bool, got " ++ found.describe
  | badLevel found => "level must be >= 1, got " ++ toString found
  | outside slot cells => slot.field ++ " has cells outside the board: " ++ describeCells cells
  | infiniteShape => Document.NumberFault.message .infinite

/-- The documents that a message shows.  Masks are shown by another base, without a limit. -/
def Fault.shown : Fault → List Document
  | rows (.wrongCount height _) => [height]
  | rows (.notAMask _ found) => [found]
  | rows (.outside _ width _) => [width]
  | notWhole _ _ found | notACounter _ found | notATruthValue found => [found]
  | badRotation _ found | negativeCounter _ found | badLevel found => [.int found]
  | outside _ cells => cells.flatMap fun c => [.int c.row, .int c.col]
  | _ => []

/-! ### Reading the fields -/

/-- The value of a field. -/
def field (d : Document) (name : String) : Except Fault Document :=
  match d with
  | .object fields =>
      match Document.lookup name fields with
      | some value => .ok value
      | none => .error (.missing name)
  | d => .error (.noFields d.kind)

/-- The shape of a piece. -/
def readShape (slot : Slot) (d : Document) : Except Fault Shape :=
  match Shape.read d with
  | .ok s => .ok s
  | .error (.noNumber (.noWhole found)) => .error (.noNumber found)
  | .error (.noNumber .infinite) => .error .infiniteShape
  | .error fault => .error (.shape slot fault)

/-- A whole number of a piece; truth values do not count as one. -/
def readWhole (slot : Slot) (name : String) : Document → Except Fault Int
  | .int n => .ok n
  | d => .error (.notWhole slot name d)

/-- A piece: its shape first, then all its fields, then what they hold. -/
def readPiece (slot : Slot) (d : Document) : Except Fault Piece := do
  let shape ← readShape slot (← field d "shape")
  let x ← field d "x"
  let y ← field d "y"
  let rotation ← field d "rotation"
  let x ← readWhole slot "x" x
  let y ← readWhole slot "y" y
  let rotation ← readWhole slot "rotation" rotation
  if 0 ≤ rotation ∧ rotation < Shape.quarterTurns then
    .ok { shape, x, y, rotation }
  else .error (.badRotation slot rotation)

/-- A counter; truth values do not count as one. -/
def readCounter (name : String) : Document → Except Fault Int
  | .int n => if n < 0 then .error (.negativeCounter name n) else .ok n
  | d => .error (.notACounter name d)

/-- The board of a snapshot. -/
def readBoard (c : Config) (d : Document) : Except Fault Board :=
  match d.items? with
  | none => .error (.noItems d.kind)
  | some items => (Board.ofRows c.width c.height items).mapError .rows

/-- Whether all the cells of a piece are in bounds. -/
def checkPiece (slot : Slot) (b : Board) (p : Piece) : Except Fault Unit :=
  if p.cells.all b.inBounds then .ok () else .error (.outside slot p.cells)

/-- The snapshot that a document writes, its board being read in some way. -/
def loadWith (board : Document → Except Fault Board) (d : Document) : Except Fault Snapshot := do
  let board ← board (← field d "board")
  let current ← readPiece .current (← field d "current_piece")
  let next ← readPiece .next (← field d "next_piece")
  let score ← readCounter "score" (← field d "score")
  let level ← readCounter "level" (← field d "level")
  let linesCleared ← readCounter "lines_cleared" (← field d "lines_cleared")
  match ← field d "game_over" with
  | .bool gameOver =>
      if level < 1 then .error (.badLevel level)
      else do
        checkPiece .current board current
        checkPiece .next board next
        .ok { board := board.rows, current, next, score, level, linesCleared, gameOver }
  | found => .error (.notATruthValue found)

/-- The snapshot that a document writes under a configuration. -/
def load (c : Config) (d : Document) : Except Fault Snapshot :=
  loadWith (readBoard c) d

end FallingBlocks.Snapshot
