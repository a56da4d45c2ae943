/-
Locking: the falling piece becomes part of the board.

A piece with a cell above the board ends the game and nothing else changes.  Any other
piece is merged, the completed rows are cleared, score, lines and level are credited,
the next piece enters and a new one is drawn; the game ends if the piece that entered
does not fit.

A fault stops the lock where it stands.  The frame that comes back then holds what was
already done, and the supply whether a shape was already drawn.
-/
import FallingBlocks.Event
import FallingBlocks.Frame
import FallingBlocks.Rules
import FallingBlocks.Supply

namespace FallingBlocks

/-- The account of one lock. -/
structure LockResult where
  linesCleared : Int := 0
  scoreDelta : Int := 0
  leveledUp : Bool := false
  toppedOut : Bool := false
  deriving DecidableEq, Repr

/-- What a lock leaves behind. -/
structure Locking where
  frame : Frame
  supply : Supply
  events : List Event := []
  answer : Except Board.Fault LockResult

namespace Frame

/-- Credits the rows of a clearing to the counters, at the level before the lock. -/
def credit (f : Frame) (rules : Rules) (c : Board.Clearing) : Frame :=
  let linesCleared := f.linesCleared + c.count
  { f with
    board := c.board
    score := f.score + rules.scoreForLines c.count f.level
    linesCleared
    level := rules.levelAfter linesCleared f.level }

/-- Lets the next piece enter and makes a piece of the drawn shape the next one. -/
def turnOver (f : Frame) (drawn : Shape) : Frame :=
  { f with
    toWell := f.toWell.spawn f.next.shape
    next := f.entering drawn }

/-- The events of a clearing, and of the change of level that follows it. -/
def creditEvents (before after : Frame) (c : Board.Clearing) : List Event :=
  (if c.completed.isEmpty then [] else [.cleared c.completed]) ++
    (if after.level = before.level then []
      else [.levelUp before.level after.level after.linesCleared])

/-- What follows the clearing: the counters, the two pieces, and the test of the new piece. -/
def settle (f : Frame) (rules : Rules) (supply : Supply) (c : Board.Clearing) : Locking :=
  let credited := f.credit rules c
  let (drawn, rest) := supply.draw
  let settled := credited.turnOver drawn
  let events := creditEvents f credited c
  let result : LockResult :=
    { linesCleared := c.count
      scoreDelta := rules.scoreForLines c.count f.level
      leveledUp := decide (credited.level ≠ f.level) }
  match settled.attempt 0 0 0 with
  | .error fault => { frame := settled, supply := rest, events, answer := .error fault }
  | .ok (well, true) =>
      { frame := { settled with toWell := well }, supply := rest, events, answer := .ok result }
  | .ok (well, false) =>
      { frame := { settled with toWell := well, gameOver := true }
        supply := rest
        events := events ++ well.piece.toList.map .blockedAtSpawn
        answer := .ok { result with toppedOut := true } }

/-- Merges the cells of the piece and settles the consequences. -/
def land (f : Frame) (rules : Rules) (supply : Supply) (cells : List Cell) : Locking :=
  let (merged, outcome) := f.board.merge cells
  let landed : Frame := { f with board := merged }
  match outcome.bind fun _ => merged.clear with
  | .error fault => { frame := landed, supply, answer := .error fault }
  | .ok c => landed.settle rules supply c

/-- Locks the falling piece; without one there is nothing to do. -/
def lock (f : Frame) (rules : Rules) (supply : Supply) : Locking :=
  match f.piece with
  | none => { frame := f, supply, answer := .ok {} }
  | some p =>
      if p.cells.any fun c => decide (c.row < 0) then
        { frame := { f with gameOver := true }
          supply
          events := [.restedAbove p]
          answer := .ok { toppedOut := true } }
      else f.land rules supply p.cells

end Frame

end FallingBlocks
