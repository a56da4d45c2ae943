/-
The size of the board and where pieces enter it.

A configuration only promises a board with at least one column and one row.  It does
not promise that a piece has room to enter: on a board of fewer than four columns, or
with the spawn row too low, the first piece may hang over an edge.
-/

namespace FallingBlocks

/-- The settings of a game. -/
structure Config where
  width : Int := 10
  height : Int := 20
  /-- Chooses the shapes of a session that is given no supply. -/
  randomSeed : Option Int := none
  /-- The row in which pieces enter. -/
  spawnY : Int := 0
  width_pos : 0 < width := by decide
  height_pos : 0 < height := by decide
  deriving DecidableEq, Repr

/-- The column in which pieces enter a board of some width. -/
def spawnColumn (width : Int) : Int :=
  width / 2 - 1

/-- The column in which pieces enter. -/
def Config.spawnX (c : Config) : Int :=
  spawnColumn c.width

end FallingBlocks
