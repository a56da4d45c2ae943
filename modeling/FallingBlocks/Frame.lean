/-
Frames: a snapshot taken apart for the duration of one operation.

A frame is a well together with the counters.  An operation changes the frame step by
step, and only a finished operation is put together again into a snapshot.
-/
import FallingBlocks.Snapshot
import FallingBlocks.Well

namespace FallingBlocks

/-- The working state of an operation. -/
structure Frame extends Well where
  next : Piece
  score : Int := 0
  level : Int := 1
  linesCleared : Int := 0
  gameOver : Bool := false
  deriving DecidableEq, Repr

/-- The frame of a snapshot under a configuration. -/
def Snapshot.thaw (s : Snapshot) (c : Config) : Frame :=
  { board := { width := c.width, height := c.height, rows := s.board }
    piece := some s.current
    spawnY := c.spawnY
    next := s.next
    score := s.score
    level := s.level
    linesCleared := s.linesCleared
    gameOver := s.gameOver }

/-- The snapshot of a frame that has a piece. -/
def Frame.freeze (f : Frame) : Option Snapshot :=
  f.piece.map fun p =>
    { board := f.board.rows
      current := p
      next := f.next
      score := f.score
      level := f.level
      linesCleared := f.linesCleared
      gameOver := f.gameOver }

end FallingBlocks
