/-
Snapshots: a whole game as one value.

A snapshot is what callers keep.  It is never changed; every operation of a session
makes a new one.
-/
import FallingBlocks.Mask
import FallingBlocks.Piece

namespace FallingBlocks

/-- The board's row masks, both pieces, the counters, and whether the game is over. -/
structure Snapshot where
  board : List Mask
  current : Piece
  next : Piece
  score : Int := 0
  level : Int := 1
  linesCleared : Int := 0
  gameOver : Bool := false
  deriving DecidableEq, Repr

end FallingBlocks
