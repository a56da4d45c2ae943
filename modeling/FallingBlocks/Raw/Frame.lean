/-
Raw frames: a raw snapshot taken apart for the duration of one operation.

Only the board and the row in which pieces enter have to be whole numbers for that; the
counters and the pieces are carried along as they are.
-/
import FallingBlocks.Config.Reading
import FallingBlocks.Frame
import FallingBlocks.Raw.Snapshot
import FallingBlocks.Raw.Well

namespace FallingBlocks.Raw

/-- The working state of an operation. -/
structure Frame extends Well where
  next : Piece
  score : Document := .int 0
  level : Document := .int 1
  linesCleared : Document := .int 0
  gameOver : Document := .bool false

namespace Frame

/-- A frame as raw values. -/
def ofOrdinary (f : FallingBlocks.Frame) : Frame :=
  { toWell := .ofOrdinary f.toWell
    next := .ofOrdinary f.next
    score := .int f.score
    level := .int f.level
    linesCleared := .int f.linesCleared
    gameOver := .bool f.gameOver }

variable [Machine]

/-- The ordinary frame that raw values make. -/
def ordinary? (f : Frame) : Option FallingBlocks.Frame := do
  some
    { toWell := ← f.toWell.ordinary?
      next := ← f.next.ordinary?
      score := ← anyWhole? f.score
      level := ← anyWhole? f.level
      linesCleared := ← anyWhole? f.linesCleared
      gameOver := ← truth? f.gameOver }

/-- The snapshot of a frame that has a piece. -/
def freeze (f : Frame) : Option Snapshot :=
  f.piece.map fun p =>
    { board := f.board.rows
      current := p
      next := f.next
      score := f.score
      level := f.level
      linesCleared := f.linesCleared
      gameOver := f.gameOver }

/-- The frame of a game that a document writes, in which no piece needs to be falling. -/
def read (c : Settings) (d : Document) : Except Fault Frame := do
  let rows ← itemsOf (← field d "board")
  let piece ← match ← field d "current_piece" with
    | .null => .ok none
    | p => (Piece.read p).map some
  let next ← Piece.read (← field d "next_piece")
  let board ← Board.make c.width c.height (some rows)
  let spawnY ← wholeOf c.spawnY
  .ok
    { board, piece, spawnY, next
      score := fieldOr d "score" (.int 0)
      level := fieldOr d "level" (.int 1)
      linesCleared := fieldOr d "lines_cleared" (.int 0)
      gameOver := fieldOr d "game_over" (.bool false) }

end Frame

/-- The frame of a snapshot under settings. -/
def Snapshot.thaw [Machine] (s : Snapshot) (c : Settings) : Except Fault Frame := do
  let board ← Board.make c.width c.height (some s.board)
  let spawnY ← wholeOf c.spawnY
  .ok
    { board, spawnY
      piece := some s.current
      next := s.next
      score := s.score
      level := s.level
      linesCleared := s.linesCleared
      gameOver := s.gameOver }

end FallingBlocks.Raw
