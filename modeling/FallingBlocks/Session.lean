/-
Sessions: a game being played.

A session holds the last snapshot and replaces it only when an operation has finished:
the operation works on a frame, and a fault throws that frame away.  What survives a
fault is a shape already drawn.

Once a game is over every operation answers with its failure value and changes nothing.
Before a game has begun every operation but `start` is refused.
-/
import FallingBlocks.Action.Reading
import FallingBlocks.Lock

namespace FallingBlocks

/-- A game under a configuration, with the supply it draws from and the account of its last lock. -/
structure Session where
  config : Config
  rules : Rules := {}
  supply : Supply
  lastLock : Option LockResult := none
  snapshot : Option Snapshot := none

namespace Session

/-- Why an operation of a session is refused. -/
inductive Fault
  /-- No game has begun. -/
  | notInitialized
  /-- A cell could be neither read nor filled. -/
  | board (fault : Board.Fault)
  /-- What was asked for is no action. -/
  | action (fault : Action.Fault)

/-- What an operation leaves behind: the session, the answer, and what happened on the way. -/
structure Turn (α : Type) where
  session : Session
  answer : Except Fault α
  events : List Event := []

/-- The turn with its answer changed. -/
def Turn.map {α β : Type} (f : α → β) (t : Turn α) : Turn β :=
  { session := t.session, answer := t.answer.map f, events := t.events }

/-! ### Beginning and looking -/

/-- A piece of some shape where pieces enter. -/
def entering (s : Session) (shape : Shape) : Piece :=
  { shape, x := s.config.spawnX, y := s.config.spawnY, rotation := 0 }

/-- Begins a new game on an empty board with two shapes drawn. -/
def start (s : Session) : Turn Snapshot :=
  let (first, supply) := s.supply.draw
  let (second, supply) := supply.draw
  let snapshot : Snapshot :=
    { board := (Board.empty s.config.width s.config.height).rows
      current := s.entering first
      next := s.entering second }
  { session := { s with supply, lastLock := none, snapshot := some snapshot }
    answer := .ok snapshot
    events := [.began first second] }

/-- The snapshot of a game that has begun. -/
def look (s : Session) : Turn Snapshot :=
  match s.snapshot with
  | none => { session := s, answer := .error .notInitialized }
  | some snapshot => { session := s, answer := .ok snapshot }

/-! ### Operations on the falling piece -/

/-- What an operation does to a frame, and to what the session holds beside it. -/
structure Effect (α : Type) where
  frame : Frame
  supply : Supply
  lastLock : Option LockResult
  events : List Event := []
  answer : Except Board.Fault α

/-- Runs an operation on the frame of the current snapshot and commits it if it finishes. -/
def run {α : Type} (s : Session) (idle : α) (op : Frame → Effect α) : Turn α :=
  match s.snapshot with
  | none => { session := s, answer := .error .notInitialized }
  | some before =>
      if before.gameOver then { session := s, answer := .ok idle }
      else
        let e := op (before.thaw s.config)
        let touched := { s with supply := e.supply, lastLock := e.lastLock }
        match e.answer with
        | .error fault =>
            { session := touched, answer := .error (.board fault), events := e.events }
        | .ok a =>
            { session := { touched with snapshot := e.frame.freeze }
              answer := .ok a
              events := e.events }

/-- An operation that did no more than move the piece. -/
def moving {α : Type} (s : Session) (f : Frame) (w : Well) (answer : Except Board.Fault α) :
    Effect α :=
  { frame := { f with toWell := w }, supply := s.supply, lastLock := s.lastLock, answer }

/-- Locks the piece of a frame and answers `a` once that is done. -/
def locking {α : Type} (s : Session) (f : Frame) (a : α) : Effect α :=
  let l := f.lock s.rules s.supply
  match l.answer with
  | .error fault =>
      { frame := l.frame
        supply := l.supply
        lastLock := s.lastLock
        events := l.events
        answer := .error fault }
  | .ok result =>
      let ended : List Event :=
        if l.frame.gameOver then [.ended l.frame.score l.frame.linesCleared l.frame.level] else []
      { frame := l.frame
        supply := l.supply
        lastLock := some result
        events := l.events ++ ended
        answer := .ok a }

/-- Moves the piece if the move is possible. -/
def move (s : Session) (m : Well → Except Board.Fault (Well × Bool)) : Turn Bool :=
  s.run false fun f =>
    match m f.toWell with
    | .error fault => s.moving f f.toWell (.error fault)
    | .ok (w, moved) => s.moving f w (.ok moved)

/-- One column to the left. -/
def moveLeft (s : Session) : Turn Bool := s.move Well.moveLeft

/-- One column to the right. -/
def moveRight (s : Session) : Turn Bool := s.move Well.moveRight

/-- One quarter turn. -/
def rotate (s : Session) : Turn Bool := s.move Well.rotate

/-- One row down, or a lock if that is not possible. -/
def softDrop (s : Session) : Turn Bool :=
  s.run false fun f =>
    match f.toWell.softDrop with
    | .error fault => s.moving f f.toWell (.error fault)
    | .ok (w, true) => s.moving f w (.ok true)
    | .ok (_, false) => s.locking f false

/-- Down until the piece is blocked, and a lock; the answer is the number of rows. -/
def hardDrop (s : Session) : Turn Nat :=
  s.run 0 fun f =>
    match f.toWell.drop with
    | (w, .error fault) => s.moving f w (.error fault)
    | (w, .ok rows) => s.locking { f with toWell := w } rows

/-- Gravity: a soft drop, whose answer is the snapshot. -/
def tick (s : Session) : Turn Snapshot :=
  let t := s.softDrop
  match t.answer with
  | .error fault => { t with answer := .error fault }
  | .ok _ => { t.session.look with events := t.events }

/-! ### Commands -/

/-- The operations that need nothing but a session. -/
inductive Command
  | start | look | moveLeft | moveRight | rotate | softDrop | hardDrop | tick
  deriving DecidableEq, Repr

/-- What commands answer. -/
inductive Answer
  | snapshot (s : Snapshot)
  | done (moved : Bool)
  | rows (count : Nat)
  deriving DecidableEq, Repr

/-- Carries out a command. -/
def perform (s : Session) : Command → Turn Answer
  | .start => s.start.map .snapshot
  | .look => s.look.map .snapshot
  | .moveLeft => s.moveLeft.map .done
  | .moveRight => s.moveRight.map .done
  | .rotate => s.rotate.map .done
  | .softDrop => s.softDrop.map .done
  | .hardDrop => s.hardDrop.map .rows
  | .tick => s.tick.map .snapshot

/-! ### Steps -/

/-- The command that an action stands for. -/
def commandOf : Action → Command
  | .left => .moveLeft
  | .right => .moveRight
  | .rotate => .rotate
  | .softDrop => .softDrop
  | .hardDrop => .hardDrop
  | .tick => .tick

/-- The counters after a step; `locked` is the number of rows of a lock, if the piece locked. -/
structure StepInfo where
  score : Int
  level : Int
  linesCleared : Int
  locked : Option Int
  deriving DecidableEq, Repr

/-- What a step reports; a step after the end of the game has no counters to report. -/
structure Report where
  snapshot : Snapshot
  gained : Int
  gameOver : Bool
  info : Option StepInfo
  deriving DecidableEq, Repr

/-- The report on the step that led from one snapshot to another. -/
def report (before after : Snapshot) (lock : Option LockResult) : Report :=
  { snapshot := after
    gained := after.score - before.score
    gameOver := after.gameOver
    info := some
      { score := after.score
        level := after.level
        linesCleared := after.linesCleared
        locked := lock.map (·.linesCleared) } }

/--
Carries out an action and reports on it.  The request may be one that names no action;
it is refused only when a game is running, and the account of the last lock is dropped
before that.
-/
def step (s : Session) (request : Except Action.Fault Action) : Turn Report :=
  match s.snapshot with
  | none => { session := s, answer := .error .notInitialized }
  | some before =>
      if before.gameOver then
        { session := s
          answer := .ok { snapshot := before, gained := 0, gameOver := true, info := none } }
      else
        let fresh := { s with lastLock := none }
        match request with
        | .error fault => { session := fresh, answer := .error (.action fault) }
        | .ok action =>
            let t := fresh.perform (commandOf action)
            match t.answer with
            | .error fault => { t with answer := .error fault }
            | .ok _ =>
                { t.session.look.map fun after => report before after t.session.lastLock with
                  events := t.events }

/-! ### Requests -/

/-- Everything that can be asked of a session. -/
inductive Request
  | command (c : Command)
  | step (request : Except Action.Fault Action)

/-- What requests are answered with. -/
inductive Reply
  | answer (a : Answer)
  | report (r : Report)
  deriving DecidableEq, Repr

/-- Carries out a request. -/
def submit (s : Session) : Request → Turn Reply
  | .command c => (s.perform c).map .answer
  | .step request => (s.step request).map .report

/-- The session after a list of requests, whether or not they were granted. -/
def after (s : Session) (requests : List Request) : Session :=
  requests.foldl (fun s r => (s.submit r).session) s

/-- The wording of a fault. -/
def Fault.message : Fault → String
  | notInitialized => "Game not initialized"
  | board fault => fault.message
  | action fault => fault.message

end Session

end FallingBlocks
