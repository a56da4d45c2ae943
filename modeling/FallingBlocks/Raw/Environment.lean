/-
Raw environments: a raw session played for reward.

An environment shows its board as a table, so the settings have to give whole numbers for its
size, and the table has to fit the memory.
-/
import FallingBlocks.Environment
import FallingBlocks.Random.Seed
import FallingBlocks.Raw.Session

namespace FallingBlocks.Raw

/-- A session, the limits of an episode, and the number of steps taken in it. -/
structure Environment where
  settings : Settings := {}
  rules : Rules := {}
  maxSteps : Int := 10000
  penalty : Float := 0
  session : Session
  steps : Int := 0

namespace Environment

variable [Machine]

/-- Why a step, a reset or a new environment has no answer. -/
inductive Fault
  | game (fault : Raw.Fault)
  /-- The settings have a seed that is none. -/
  | seed (fault : Random.SeedFault)
  /-- The size of the board is no pair of whole numbers. -/
  | size (height width : Document.Kind)
  /-- There can be no table of that size. -/
  | table (fault : TableFault)

/-- The wording of a fault. -/
def Fault.message : Fault → Text
  | game fault => fault.message
  | seed fault => fault.message
  | size height width =>
      "Expected all Box shape elements to be integer, actual type=(<class '" ++ height.name
        ++ "'>, <class '" ++ width.name ++ "'>)"
  | table fault => fault.message

/-- What a step answers. -/
structure Step where
  observation : FallingBlocks.Environment.Observation
  reward : Float
  terminated : Bool
  truncated : Bool
  report : Option Session.StepInfo
  moved : Bool
  features : FallingBlocks.Environment.Features

/-- What an operation leaves behind. -/
structure Turn (α : Type) where
  environment : Environment
  answer : Except Fault α

/-- An environment in which no episode has begun. -/
def create (settings : Settings) (rules : Rules) (maxSteps : Int) (penalty : Float) :
    Except Fault Environment := do
  let _ ← (Random.seedOf settings.randomSeed).mapError .seed
  match settings.height.integer?, settings.width.integer? with
  | some height, some width => do
      (checkExtent .real [height, width]).mapError .table
      .ok
        { settings, rules, maxSteps, penalty
          session := { settings, rules, supply := Supply.inOrder } }
  | _, _ => .error (.size settings.height.kind settings.width.kind)

/-! ### Ordinary environments -/

/-- The ordinary environment that raw values make. -/
def ordinary? (e : Environment) : Option FallingBlocks.Environment := do
  some
    { config := ← configOf? e.settings
      rules := ← e.rules.ordinary?
      maxSteps := e.maxSteps
      penalty := e.penalty
      session := ← e.session.ordinary?
      steps := e.steps }

/-- The environment with what an ordinary one has come to. -/
def follow (e : Environment) (o : FallingBlocks.Environment) : Environment :=
  { e with session := e.session.follow o.session, steps := o.steps }

/-- The fault of an ordinary environment. -/
def faultOf : FallingBlocks.Environment.Fault → Fault
  | .session fault => .game (Session.faultOf fault)
  | .action fault => .game (.action fault)
  | .board fault => .game (.ofBoard fault)
  | .word fault => .game (.word fault)
  | .rewardTooLarge => .game (.number .tooLarge)

/-- The answer to an ordinary step. -/
def Step.ofOrdinary (penalty : Float) (s : FallingBlocks.Environment.Step) : Step :=
  { observation := s.observation
    reward := (s.reward.float? penalty).getD 0
    terminated := s.terminated
    truncated := s.truncated
    report := s.info.report.map .ofOrdinary
    moved := s.info.moved
    features := s.info.features }

/-! ### What is shown -/

/-- The board of a snapshot. -/
def boardOf (e : Environment) (s : Snapshot) : Except Fault Board :=
  (Board.make e.settings.width e.settings.height (some s.board)).mapError .game

/-- The features of a snapshot's board. -/
def features (e : Environment) (s : Snapshot) :
    Except Fault FallingBlocks.Environment.Features := do
  let board ← e.boardOf s
  let holes ← board.holes.mapError .game
  .ok { maxHeight := board.maxHeight, holes }

/-- What is shown of a snapshot. -/
def observe (e : Environment) (s : Snapshot) :
    Except Fault FallingBlocks.Environment.Observation := do
  let board ← (← e.boardOf s).bitmap.mapError .game
  let rotation ← (wholeOf s.current.rotation).mapError .game
  .ok
    { board, rotation
      current := s.current.shape.number
      next := s.next.shape.number }

/-! ### Episodes -/

/-- Begins an episode value by value on the supply that a drawn number selects. -/
def resetAny (e : Environment) (draw : Int) :
    Turn (FallingBlocks.Environment.Observation × FallingBlocks.Environment.ResetInfo) :=
  let session : Session :=
    { settings := e.settings
      rules := e.rules
      supply := Supply.seeded (draw % FallingBlocks.Environment.seeds) }
  let t := session.start
  match t.answer with
  | .error fault =>
      { environment := { e with session := t.session }, answer := .error (.game fault) }
  | .ok s =>
      let e := { e with session := t.session, steps := 0 }
      { environment := e
        answer := do
          let features ← e.features s
          let observation ← e.observe s
          .ok (observation, { score := 0, level := 1, linesCleared := 0, features }) }

/-- Begins an episode on the supply that a drawn number selects. -/
def reset (e : Environment) (draw : Int) :
    Turn (FallingBlocks.Environment.Observation × FallingBlocks.Environment.ResetInfo) :=
  match e.ordinary? with
  | some o =>
      let t := o.reset draw
      { environment := e.follow t.environment, answer := t.answer.mapError faultOf }
  | none => e.resetAny draw

/-- The answer to a step that led from one snapshot to the report's. -/
def answer (e : Environment) (before : Snapshot) (r : Session.Report) : Except Fault Step := do
  let gained ← r.gained.toReal.mapError fun fault => .game (.number fault)
  let moved := !r.snapshot.same before
  let features ← e.features r.snapshot
  let observation ← e.observe r.snapshot
  let terminated := r.gameOver.isTrue
  .ok
    { observation
      reward := if moved then gained else gained + e.penalty
      terminated
      truncated := decide (e.maxSteps ≤ e.steps) && !terminated
      report := r.info
      moved
      features }

/-- Takes one step value by value. -/
def stepAny (e : Environment) (request : Except Action.Fault Action) : Turn Step :=
  match e.session.snapshot, request with
  | none, _ => { environment := e, answer := .error (.game .notInitialized) }
  | some _, .error fault => { environment := e, answer := .error (.game (.action fault)) }
  | some before, .ok action =>
      let t := e.session.step (.ok action)
      let e := { e with session := t.session }
      match t.answer with
      | .error fault => { environment := e, answer := .error (.game fault) }
      | .ok r =>
          let e := { e with steps := e.steps + 1 }
          { environment := e, answer := e.answer before r }

/-- Takes one step; only a step that the session has taken counts. -/
def step (e : Environment) (request : Except Action.Fault Action) : Turn Step :=
  match e.ordinary? with
  | some o =>
      let t := o.step request
      { environment := e.follow t.environment
        answer := (t.answer.mapError faultOf).map (.ofOrdinary e.penalty) }
  | none => e.stepAny request

end Environment

end FallingBlocks.Raw
