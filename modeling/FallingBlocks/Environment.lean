/-
Environments: a session played for reward, one episode after the other.

An episode begins with a reset, which starts a new session on its own supply of shapes.
A step carries out one action; its reward is the score gained, with a penalty on top if
the action changed nothing.  An episode is terminated when the game is over, and
truncated when it has taken its number of steps without being over.

What an observation can show is limited: the board is shown as a table of bits made of
32-bit words, and a gain beyond the floating-point numbers has no reward.  In both cases
the step has been taken all the same.
-/
import FallingBlocks.Board.Bitmap
import FallingBlocks.Session
import FallingBlocks.Supply.Seeded

namespace FallingBlocks

/-- A session, the limits of an episode, and the number of steps taken in it. -/
structure Environment where
  config : Config
  rules : Rules := {}
  maxSteps : Int := 10000
  penalty : Float := 0
  session : Session
  steps : Int := 0

namespace Environment

/-- Why a step or a reset has no answer. -/
inductive Fault
  | session (fault : Session.Fault)
  | action (fault : Action.Fault)
  | board (fault : Board.Fault)
  | word (fault : Board.WordFault)
  | rewardTooLarge

/-- The wording of a fault. -/
def Fault.message : Fault → String
  | session fault => fault.message
  | action fault => fault.message
  | board fault => fault.message
  | word fault => fault.message
  | rewardTooLarge => Document.NumberFault.message .tooLarge

/-- What is shown of a snapshot; shapes are shown by number. -/
structure Observation where
  board : Board.Bitmap
  current : Nat
  next : Nat
  rotation : Int
  deriving DecidableEq, Repr

/-- The features of a board. -/
structure Features where
  maxHeight : Int
  holes : Nat
  deriving DecidableEq, Repr

/-- A reward, exactly: the score gained, and whether the penalty for changing nothing is added. -/
structure Reward where
  gained : Int
  refused : Bool
  deriving DecidableEq, Repr

/-- The counters at the beginning of an episode. -/
structure ResetInfo where
  score : Int
  level : Int
  linesCleared : Int
  features : Features
  deriving DecidableEq, Repr

/-- What is told about a step beside the observation. -/
structure StepInfo where
  report : Option Session.StepInfo
  moved : Bool
  features : Features
  deriving DecidableEq, Repr

/-- The answer to a step. -/
structure Step where
  observation : Observation
  reward : Reward
  terminated : Bool
  truncated : Bool
  info : StepInfo
  deriving DecidableEq, Repr

/-- What an operation leaves behind. -/
structure Turn (α : Type) where
  environment : Environment
  answer : Except Fault α
  events : List Event := []

/-- An environment in which no episode has begun. -/
def create (config : Config) (rules : Rules) (maxSteps : Int) (penalty : Float) : Environment :=
  { config, rules, maxSteps, penalty, session := { config, rules, supply := Supply.inOrder } }

/-- The number of different seeds of an episode's supply. -/
def seeds : Int := Nat.pow 2 31 - 1

/-- The reward as a floating-point number, unless the gain is out of their range. -/
def Reward.float? (penalty : Float) (r : Reward) : Option Float :=
  (Decimal.float? r.gained).map fun x => if r.refused then x + penalty else x

/-- The board of a snapshot. -/
def boardOf (e : Environment) (s : Snapshot) : Board :=
  { width := e.config.width, height := e.config.height, rows := s.board }

/-- The features of a snapshot's board. -/
def features (e : Environment) (s : Snapshot) : Except Fault Features :=
  match (e.boardOf s).holes with
  | .error fault => .error (.board fault)
  | .ok holes => .ok { maxHeight := (e.boardOf s).maxHeight, holes }

/-- What is shown of a snapshot. -/
def observe (e : Environment) (s : Snapshot) : Except Fault Observation :=
  match (e.boardOf s).bitmap with
  | .error fault => .error (.word fault)
  | .ok board =>
      .ok
        { board
          current := s.current.shape.number
          next := s.next.shape.number
          rotation := s.current.rotation }

/-- Begins an episode on the supply that a drawn number selects. -/
def reset (e : Environment) (draw : Int) : Turn (Observation × ResetInfo) :=
  let session : Session :=
    { config := e.config, rules := e.rules, supply := Supply.seeded (draw % seeds) }
  let t := session.start
  let e := { e with session := t.session, steps := 0 }
  { environment := e
    events := t.events
    answer := do
      let s ← t.answer.mapError .session
      let features ← e.features s
      let observation ← e.observe s
      .ok (observation,
        { score := s.score, level := s.level, linesCleared := s.linesCleared, features }) }

/-- The answer to a step that led from one snapshot to the report's. -/
def answer (e : Environment) (before : Snapshot) (r : Session.Report) : Except Fault Step := do
  let moved := decide (r.snapshot ≠ before)
  let reward : Reward := { gained := r.gained, refused := !moved }
  if (reward.float? e.penalty).isNone then .error .rewardTooLarge
  else
    let features ← e.features r.snapshot
    let observation ← e.observe r.snapshot
    .ok
      { observation
        reward
        terminated := r.gameOver
        truncated := decide (e.maxSteps ≤ e.steps) && !r.gameOver
        info := { report := r.info, moved, features } }

/-- Takes one step; only a step that the session has taken counts. -/
def step (e : Environment) (request : Except Action.Fault Action) : Turn Step :=
  match e.session.snapshot, request with
  | none, _ => { environment := e, answer := .error (.session .notInitialized) }
  | some _, .error fault => { environment := e, answer := .error (.action fault) }
  | some before, .ok action =>
      let t := e.session.step (.ok action)
      let e := { e with session := t.session }
      match t.answer with
      | .error fault =>
          { environment := e, answer := .error (.session fault), events := t.events }
      | .ok r =>
          let e := { e with steps := e.steps + 1 }
          { environment := e, answer := e.answer before r, events := t.events }

end Environment

end FallingBlocks
