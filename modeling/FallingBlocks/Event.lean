/-
What happens in a game, as far as it is worth a line in the log.
-/
import FallingBlocks.Piece

namespace FallingBlocks

/-- Something that happened in the course of an operation. -/
inductive Event
  /-- A new game began with these two shapes. -/
  | began (current next : Shape)
  /-- These rows were complete and have been cleared. -/
  | cleared (rows : List Nat)
  /-- The level went up. -/
  | levelUp (old new linesCleared : Int)
  /-- The piece came to rest with a cell above the board. -/
  | restedAbove (piece : Piece)
  /-- The new piece had no room to enter. -/
  | blockedAtSpawn (piece : Piece)
  /-- The game ended. -/
  | ended (score linesCleared level : Int)
  /-- A stored session was changed. -/
  | committed (operation : String) (score : Int)
  deriving DecidableEq, Repr

end FallingBlocks
