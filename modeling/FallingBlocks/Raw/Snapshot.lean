/-
Raw snapshots: a whole game as values that nobody has checked.
-/
import FallingBlocks.Raw.Piece
import FallingBlocks.Snapshot.Encoding

namespace FallingBlocks.Raw

/-- The state of a game as it was written. -/
structure Snapshot where
  board : List Document
  current : Piece
  next : Piece
  score : Document := .int 0
  level : Document := .int 1
  linesCleared : Document := .int 0
  gameOver : Document := .bool false

/-- The truth value that a raw value is. -/
def truth? : Document → Option Bool
  | .bool b => some b
  | _ => none

namespace Snapshot

/-- A snapshot as raw values. -/
def ofOrdinary (s : FallingBlocks.Snapshot) : Snapshot :=
  { board := s.board.map .int
    current := .ofOrdinary s.current
    next := .ofOrdinary s.next
    score := .int s.score
    level := .int s.level
    linesCleared := .int s.linesCleared
    gameOver := .bool s.gameOver }

/-- The ordinary snapshot that raw values make. -/
def ordinary? [Machine] (s : Snapshot) : Option FallingBlocks.Snapshot := do
  some
    { board := ← s.board.mapM anyWhole?
      current := ← s.current.ordinary?
      next := ← s.next.ordinary?
      score := ← anyWhole? s.score
      level := ← anyWhole? s.level
      linesCleared := ← anyWhole? s.linesCleared
      gameOver := ← truth? s.gameOver }

/-- The snapshot as a document. -/
def toDocument (s : Snapshot) : Document :=
  .object
    [("board", .array s.board),
     ("current_piece", s.current.toDocument),
     ("next_piece", s.next.toDocument),
     ("score", s.score),
     ("level", s.level),
     ("lines_cleared", s.linesCleared),
     ("game_over", s.gameOver)]

/-- An ordinary snapshot is written the same way as its raw values are. -/
theorem toDocument_ofOrdinary (s : FallingBlocks.Snapshot) :
    (ofOrdinary s).toDocument = s.toDocument := rfl

/-- Whether two snapshots hold the same values. -/
def same (s t : Snapshot) : Bool :=
  s.toDocument.same t.toDocument

end Snapshot

/-! ### Raw values out of documents -/

/-- The value of a field that has to be there. -/
def field (d : Document) (name : String) : Except Fault Document :=
  match d with
  | .object fields =>
      match Document.lookup name fields with
      | some value => .ok value
      | none => .error (.noField name)
  | d => .error (.noFields d.kind)

/-- The value of a field that may be missing. -/
def fieldOr (d : Document) (name : String) (default : Document) : Document :=
  match d with
  | .object fields => (Document.lookup name fields).getD default
  | _ => default

/-- The piece that a document writes; only its shape is looked at. -/
def Piece.read (d : Document) : Except Fault Piece := do
  let shape ← (Shape.read (← field d "shape")).mapError .shape
  let x ← field d "x"
  let y ← field d "y"
  .ok { shape, x, y, rotation := fieldOr d "rotation" (.int 0) }

/-- The items of a document that has to have items. -/
def itemsOf (d : Document) : Except Fault (List Document) :=
  match d.items? with
  | some items => .ok items
  | none => .error (.operand (.noItems d.kind))

/-- The snapshot that a document writes; only its shapes are looked at. -/
def Snapshot.read (d : Document) : Except Fault Snapshot := do
  let board ← itemsOf (← field d "board")
  let current ← Piece.read (← field d "current_piece")
  let next ← Piece.read (← field d "next_piece")
  .ok
    { board, current, next
      score := fieldOr d "score" (.int 0)
      level := fieldOr d "level" (.int 1)
      linesCleared := fieldOr d "lines_cleared" (.int 0)
      gameOver := fieldOr d "game_over" (.bool false) }

end FallingBlocks.Raw
