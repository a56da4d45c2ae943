/-
Locking on raw values.

A lock is a course of steps on a desk: the frame, the supply, the account of the last lock
and the log.  A fault ends the course, and what was done before it stays done.

A record shows numbers, and a value that is none spoils it.  That matters only where the log
is kept; where it is not, no record is made.
-/
import FallingBlocks.Lock
import FallingBlocks.Log
import FallingBlocks.Raw.Frame
import FallingBlocks.Raw.Rules

namespace FallingBlocks.Raw

/-- The account of one lock. -/
structure LockResult where
  linesCleared : Int := 0
  scoreDelta : Document := .int 0
  leveledUp : Bool := false
  toppedOut : Bool := false

/-- The account of an ordinary lock. -/
def LockResult.ofOrdinary (r : FallingBlocks.LockResult) : LockResult :=
  { linesCleared := r.linesCleared
    scoreDelta := .int r.scoreDelta
    leveledUp := r.leveledUp
    toppedOut := r.toppedOut }

/-- The account as an ordinary one. -/
def LockResult.ordinary? (r : LockResult) : Option FallingBlocks.LockResult := do
  some
    { linesCleared := r.linesCleared
      scoreDelta := ← anyWhole? r.scoreDelta
      leveledUp := r.leveledUp
      toppedOut := r.toppedOut }

/-- What an operation works on. -/
structure Desk where
  frame : Frame
  supply : Supply
  lastLock : Option LockResult := none
  /-- Whether the log is kept. -/
  logged : Bool := true
  records : List Log.Record := []

/-- A course of steps on a desk. -/
abbrev Course := EStateM Fault Desk

namespace Course

/-- A step that only finds something out. -/
def find {α : Type} (answer : Except Fault α) : Course α :=
  MonadExcept.ofExcept answer

/-- A step that changes the frame. -/
def change (f : Frame → Frame) : Course Unit :=
  modify fun d => { d with frame := f d.frame }

/-- Writes a record to the log, if it is kept. -/
def log (record : Except Fault Log.Record) : Course Unit := do
  if (← get).logged then
    let record ← find record
    modify fun d => { d with records := d.records ++ [record] }

/-- Draws the next shape. -/
def draw : Course Shape :=
  modifyGet fun d =>
    let (shape, supply) := d.supply.draw
    (shape, { d with supply })

end Course

/-! ### Records -/

/-- A number as records show it, without its fraction. -/
def numberText (d : Document) : Except Fault String :=
  match d with
  | .text _ => .error (.noNumber .text)
  | d =>
      match d.toWhole with
      | .ok n => .ok (toString n)
      | .error (.noWhole found) => .error (.noNumber found)
      | .error fault => .error (.number fault)

/-- A piece with all its fields. -/
def pieceText (p : Piece) : String :=
  "ActivePiece(shape=<Shape." ++ Log.shapeText p.shape ++ ": " ++ toString p.shape.number
    ++ ">, x=" ++ p.x.describe ++ ", y=" ++ p.y.describe ++ ", rotation=" ++ p.rotation.describe
    ++ ")"

/-- The record that the level went up. -/
def levelUpRecord (old new linesCleared : Document) : Except Fault Log.Record := do
  .ok ⟨.debug, .lineClear,
    "level up: " ++ (← numberText old) ++ " -> " ++ (← numberText new) ++ " after "
      ++ (← numberText linesCleared) ++ " lines"⟩

/-- The record that the game ended. -/
def endedRecord (f : Frame) : Except Fault Log.Record := do
  .ok ⟨.info, .core,
    "game over: score=" ++ (← numberText f.score) ++ " lines=" ++ (← numberText f.linesCleared)
      ++ " level=" ++ (← numberText f.level)⟩

/-! ### The lock -/

namespace Course

variable [Machine]

/-- Ends the game above the board. -/
def topOut (p : Piece) : Course LockResult := do
  log (.ok ⟨.debug, .lineClear, "top-out: " ++ pieceText p ++ " locked above the board"⟩)
  change ({ · with gameOver := .bool true })
  return { toppedOut := true }

/-- Fills the cells of the piece. -/
def merge (cells : List Cell) : Course Unit := do
  let (board, outcome) := (← get).frame.board.merge cells
  change ({ · with board })
  find outcome

/-- Clears the completed rows and says how many there were. -/
def clear : Course Int := do
  let board := (← get).frame.board
  let completed ← find board.fullRows
  if completed.isEmpty then return 0
  let (board, count) ← find board.clearFullRows
  change ({ · with board })
  log (.ok (Log.ofEvent (.cleared completed)))
  return count

/-- Credits cleared rows to the counters, at the level before the lock. -/
def credit (rules : Rules) (count : Int) : Course LockResult := do
  let level := (← get).frame.level
  let scoreDelta ← find (rules.scoreForLines (.int count) level)
  let score ← find (combined ((← get).frame.score.increase scoreDelta))
  change ({ · with score })
  let linesCleared ← find (combined ((← get).frame.linesCleared.increase (.int count)))
  change ({ · with linesCleared })
  let reached ← find (rules.levelAfter linesCleared level)
  if reached.sameNumber level then return { linesCleared := count, scoreDelta }
  log (levelUpRecord level reached linesCleared)
  change ({ · with level := reached })
  return { linesCleared := count, scoreDelta, leveledUp := true }

/-- Lets the next piece enter, draws a new one, and ends the game if there is no room. -/
def turnOver (result : LockResult) : Course LockResult := do
  change fun f => { f with toWell := f.toWell.spawn f.next.shape }
  let drawn ← draw
  change fun f => { f with next := f.toWell.entering drawn }
  let f := (← get).frame
  let (_, free) ← find (f.toWell.attempt (.int 0) (.int 0) (.int 0))
  if free then return result
  f.piece.forM fun p =>
    log (.ok ⟨.debug, .lineClear, "top-out: " ++ pieceText p ++ " does not fit at spawn"⟩)
  change ({ · with gameOver := .bool true })
  return { result with toppedOut := true }

/-- Locks the falling piece value by value. -/
def lockAny (rules : Rules) : Course LockResult := do
  match (← get).frame.piece with
  | none => return {}
  | some p =>
      let cells ← find p.cells
      let above ← find (cells.mapM fun c => combined (c.row.isLT (.int 0)))
      if above.any id then topOut p
      else
        merge cells
        let count ← clear
        let result ← credit rules count
        turnOver result

/-- Locks the falling piece; without one there is nothing to do. -/
def lock (rules : Rules) : Course LockResult := do
  let d ← get
  match d.frame.ordinary?, rules.ordinary? with
  | some f, some r =>
      let l := f.lock r d.supply
      set { d with
        frame := .ofOrdinary l.frame
        supply := l.supply
        records := d.records ++ l.events.map Log.ofEvent }
      find ((l.answer.mapError .ofBoard).map .ofOrdinary)
  | _, _ => lockAny rules

end Course

end FallingBlocks.Raw
