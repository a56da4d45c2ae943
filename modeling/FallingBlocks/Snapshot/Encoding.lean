/-
Snapshots as documents.

The fields come in a fixed order, which the stored text shows.
-/
import FallingBlocks.Document
import FallingBlocks.Snapshot

namespace FallingBlocks

/-- A piece as a document. -/
def Piece.toDocument (p : Piece) : Document :=
  .object
    [("shape", .text (String.singleton p.shape.letter)),
     ("x", .int p.x),
     ("y", .int p.y),
     ("rotation", .int p.rotation)]

/-- A snapshot as a document. -/
def Snapshot.toDocument (s : Snapshot) : Document :=
  .object
    [("board", .array (s.board.map .int)),
     ("current_piece", s.current.toDocument),
     ("next_piece", s.next.toDocument),
     ("score", .int s.score),
     ("level", .int s.level),
     ("lines_cleared", .int s.linesCleared),
     ("game_over", .bool s.gameOver)]

end FallingBlocks
