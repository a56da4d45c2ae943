/-
Raw sessions: a game on values that nobody has checked.

The settings have to be accepted, but need not be whole numbers.  Whether the game is over is
told by a raw value that counts as true or not.
-/
import FallingBlocks.Raw.Lock
import FallingBlocks.Session

namespace FallingBlocks.Raw

/-- A game under settings, with the supply it draws from and the account of its last lock. -/
structure Session where
  settings : Settings := {}
  rules : Rules := {}
  supply : Supply
  lastLock : Option LockResult := none
  snapshot : Option Snapshot := none
  /-- Whether the log is kept. -/
  logged : Bool := false

/-- The ordinary configuration that settings make. -/
def configOf? [Machine] (s : Settings) : Option Config :=
  if [s.width, s.height, s.spawnY].all fun d => (Raw.ordinary? d).isSome then
    s.toConfig.toOption
  else none

namespace Session

variable [Machine]

/-- The ordinary session that raw values make. -/
def ordinary? (s : Session) : Option FallingBlocks.Session := do
  some
    { config := ← configOf? s.settings
      rules := ← s.rules.ordinary?
      supply := s.supply
      lastLock := ← s.lastLock.mapM LockResult.ordinary?
      snapshot := ← s.snapshot.mapM Snapshot.ordinary? }

/-- The session with what an ordinary one has come to. -/
def follow (s : Session) (o : FallingBlocks.Session) : Session :=
  { s with
    supply := o.supply
    lastLock := o.lastLock.map .ofOrdinary
    snapshot := o.snapshot.map .ofOrdinary }

/-- The fault of an ordinary session. -/
def faultOf : FallingBlocks.Session.Fault → Fault
  | .notInitialized => .notInitialized
  | .board fault => .ofBoard fault
  | .action fault => .action fault

/-- What an operation leaves behind: the session, the answer, and the log. -/
structure Turn (α : Type) where
  session : Session
  answer : Except Fault α
  records : List Log.Record := []

/-- The turn with its answer changed. -/
def Turn.map {α β : Type} (f : α → β) (t : Turn α) : Turn β :=
  { session := t.session, answer := t.answer.map f, records := t.records }

/-! ### Beginning and looking -/

/-- A piece of some shape where pieces enter. -/
def entering (s : Session) (shape : Shape) : Piece :=
  { shape, x := s.settings.spawnX, y := s.settings.spawnY, rotation := .int 0 }

/-- Begins a new game on an empty board with two shapes drawn. -/
def start (s : Session) : Turn Snapshot :=
  match Board.make s.settings.width s.settings.height none with
  | .error fault => { session := s, answer := .error fault }
  | .ok board =>
      let (first, supply) := s.supply.draw
      let (second, supply) := supply.draw
      let snapshot : Snapshot :=
        { board := board.rows, current := s.entering first, next := s.entering second }
      { session := { s with supply, lastLock := none, snapshot := some snapshot }
        answer := .ok snapshot
        records := [Log.ofEvent (.began first second)] }

/-- The snapshot of a game that has begun. -/
def look (s : Session) : Turn Snapshot :=
  match s.snapshot with
  | none => { session := s, answer := .error .notInitialized }
  | some snapshot => { session := s, answer := .ok snapshot }

/-! ### Operations on the falling piece -/

/--
A snapshot after a course that has come to nothing.  A list grows in place, so a score that
is one has grown all the same.
-/
def abandoned (before : Snapshot) (f : Frame) : Snapshot :=
  match before.score with
  | .array _ => { before with score := f.score }
  | _ => before

/-- Runs a course on the frame of the current snapshot and commits it if it finishes. -/
def run {α : Type} (s : Session) (idle : α) (course : Course α) : Turn α :=
  match s.snapshot with
  | none => { session := s, answer := .error .notInitialized }
  | some before =>
      if before.gameOver.isTrue then { session := s, answer := .ok idle }
      else
        match before.thaw s.settings with
        | .error fault => { session := s, answer := .error fault }
        | .ok frame =>
            let desk : Desk :=
              { frame, supply := s.supply, lastLock := s.lastLock, logged := s.logged }
            match course.run desk with
            | .error fault d =>
                { session :=
                    { s with
                      supply := d.supply
                      lastLock := d.lastLock
                      snapshot := some (abandoned before d.frame) }
                  answer := .error fault
                  records := d.records }
            | .ok a d =>
                { session :=
                    { s with
                      supply := d.supply
                      lastLock := d.lastLock
                      snapshot := d.frame.freeze }
                  answer := .ok a
                  records := d.records }

/-- Locks the piece, and tells the log if that ended the game. -/
def locking (rules : Rules) : Course Unit := do
  let result ← Course.lock rules
  modify fun d => { d with lastLock := some result }
  let f := (← get).frame
  if f.gameOver.isTrue then Course.log (endedRecord f)

/-- Moves the piece if the move is possible. -/
def moving (move : Well → Except Fault (Well × Bool)) : Course Bool := do
  let (well, moved) ← Course.find (move (← get).frame.toWell)
  Course.change ({ · with toWell := well })
  return moved

/-- One row down, or a lock if that is not possible. -/
def softDrop (rules : Rules) : Course Bool := do
  if ← moving Well.softDrop then return true
  locking rules
  return false

/-- Down until the piece is blocked, and a lock; the answer is the number of rows. -/
def hardDrop (rules : Rules) : Course Nat := do
  let (well, outcome) := (← get).frame.toWell.drop
  Course.change ({ · with toWell := well })
  let rows ← Course.find outcome
  locking rules
  return rows

/-! ### Commands -/

/-- What commands answer. -/
inductive Answer
  | snapshot (s : Snapshot)
  | done (moved : Bool)
  | rows (count : Nat)

/-- The answer of an ordinary session. -/
def Answer.ofOrdinary : FallingBlocks.Session.Answer → Answer
  | .snapshot s => .snapshot (.ofOrdinary s)
  | .done moved => .done moved
  | .rows count => .rows count

/-- Carries out a command value by value. -/
def performAny (s : Session) : FallingBlocks.Session.Command → Turn Answer
  | .start => s.start.map .snapshot
  | .look => s.look.map .snapshot
  | .moveLeft => (s.run false (moving Well.moveLeft)).map .done
  | .moveRight => (s.run false (moving Well.moveRight)).map .done
  | .rotate => (s.run false (moving Well.rotate)).map .done
  | .softDrop => (s.run false (softDrop s.rules)).map .done
  | .hardDrop => (s.run 0 (hardDrop s.rules)).map .rows
  | .tick =>
      let t := s.run false (softDrop s.rules)
      match t.answer with
      | .error fault => { session := t.session, answer := .error fault, records := t.records }
      | .ok _ => { t.session.look.map .snapshot with records := t.records }

/-- Carries out a command. -/
def perform (s : Session) (c : FallingBlocks.Session.Command) : Turn Answer :=
  match s.ordinary? with
  | some o =>
      let t := o.perform c
      { session := s.follow t.session
        answer := (t.answer.mapError faultOf).map .ofOrdinary
        records := t.events.map Log.ofEvent }
  | none => s.performAny c

/-! ### Steps -/

/-- The counters after a step; `locked` is the number of rows of a lock, if the piece locked. -/
structure StepInfo where
  score : Document
  level : Document
  linesCleared : Document
  locked : Option Int

/-- What a step reports; a step after the end of the game has no counters to report. -/
structure Report where
  snapshot : Snapshot
  gained : Document
  gameOver : Document
  info : Option StepInfo

/-- The counters of an ordinary step. -/
def StepInfo.ofOrdinary (i : FallingBlocks.Session.StepInfo) : StepInfo :=
  { score := .int i.score
    level := .int i.level
    linesCleared := .int i.linesCleared
    locked := i.locked }

/-- The report of an ordinary step. -/
def Report.ofOrdinary (r : FallingBlocks.Session.Report) : Report :=
  { snapshot := .ofOrdinary r.snapshot
    gained := .int r.gained
    gameOver := .bool r.gameOver
    info := r.info.map .ofOrdinary }

/-- The report on the step that led from one snapshot to another. -/
def report (before after : Snapshot) (lock : Option LockResult) : Except Fault Report := do
  .ok
    { snapshot := after
      gained := ← combined (after.score.subtract before.score)
      gameOver := after.gameOver
      info := some
        { score := after.score
          level := after.level
          linesCleared := after.linesCleared
          locked := lock.map (·.linesCleared) } }

/-- Carries out an action value by value and reports on it. -/
def stepAny (s : Session) (request : Except Action.Fault Action) : Turn Report :=
  match s.snapshot with
  | none => { session := s, answer := .error .notInitialized }
  | some before =>
      if before.gameOver.isTrue then
        { session := s
          answer := .ok
            { snapshot := before, gained := .int 0, gameOver := .bool true, info := none } }
      else
        let fresh := { s with lastLock := none }
        match request with
        | .error fault => { session := fresh, answer := .error (.action fault) }
        | .ok action =>
            let t := fresh.perform (FallingBlocks.Session.commandOf action)
            { session := t.session
              answer := do
                let _ ← t.answer
                let after ← t.session.look.answer
                report before after t.session.lastLock
              records := t.records }

/-- Carries out an action and reports on it. -/
def step (s : Session) (request : Except Action.Fault Action) : Turn Report :=
  match s.ordinary? with
  | some o =>
      let t := o.step request
      { session := s.follow t.session
        answer := (t.answer.mapError faultOf).map .ofOrdinary
        records := t.events.map Log.ofEvent }
  | none => s.stepAny request

end Session

end FallingBlocks.Raw
