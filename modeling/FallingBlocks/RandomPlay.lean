/-
A game played by chance: every action is one of the six with the same chance.

The game ends with the episode or after a number of steps.  It leaves the final
snapshot, a picture of the board with the piece on it unless the game is over, and a
log, which is there even if the game could not be played to its end.

The number of steps, the seed and the level of the log are taken as they come, and what is
wrong with them shows where each is first needed.
-/
import FallingBlocks.Board.Picture
import FallingBlocks.Environment
import FallingBlocks.Log
import FallingBlocks.Log.Setup
import FallingBlocks.Random.Seed

namespace FallingBlocks.RandomPlay

/-- Why a game cannot be played to its end. -/
inductive Fault
  | level (fault : Log.LevelFault)
  /-- The source of actions takes no such seed. -/
  | seed (fault : Random.SeedFault)
  /-- An environment is seeded with whole numbers only. -/
  | seedNotWhole (found : Document.Kind)
  /-- An environment is not seeded with a negative number. -/
  | negativeSeed (seed : Int)
  /-- The number of steps is no whole number. -/
  | stepsNotWhole (found : Document.Kind)
  | environment (fault : Environment.Fault)
  | board (fault : Board.Fault)

/-- The wording of a fault. -/
def Fault.message : Fault → String
  | level fault => fault.message
  | seed fault => fault.message
  | seedNotWhole found =>
      "Seed must be a python integer, actual type: <class '" ++ found.name ++ "'>"
  | stepsNotWhole found =>
      "'" ++ found.name ++ "' object cannot be interpreted as an integer"
  | negativeSeed n =>
      "Seed must be greater or equal to zero, actual value: " ++ toString n
  | environment fault => fault.message
  | board fault => fault.message

/-- A game on its way: the source of actions, the rewards so far, and the log. -/
structure Game where
  environment : Environment
  chance : Random.Twister
  reward : Float := 0
  records : List Log.Record := []

/-- What a game leaves behind. -/
structure Outcome where
  final : Snapshot
  picture : String

/-- A game that has been played as far as possible: its log, and what it came to. -/
structure Play where
  records : List Log.Record := []
  answer : Except Fault Outcome

/-- The next action, by chance. -/
def choose (chance : Random.Twister) : Action × Random.Twister :=
  let (number, chance) := chance.below Action.all.length
  (Action.all.getD number .left, chance)

/-- The record that an episode has ended. -/
def endedRecord (steps : Nat) : Log.Record :=
  ⟨.info, .program, "episode ended after " ++ toString steps ++ " steps"⟩

/-- Takes at most `left` steps after the first `taken`. -/
def proceed (left taken : Nat) (g : Game) : Game × Except Fault Unit :=
  match left with
  | 0 => (g, .ok ())
  | left + 1 =>
      let (action, chance) := choose g.chance
      let t := g.environment.step (.ok action)
      let g : Game :=
        { g with
          environment := t.environment
          chance
          records := g.records ++ t.events.map Log.ofEvent }
      match t.answer with
      | .error fault => (g, .error (.environment fault))
      | .ok step =>
          let amount := (step.reward.float? g.environment.penalty).getD 0
          let g := { g with reward := g.reward + amount }
          if step.terminated || step.truncated then
            ({ g with records := g.records ++ [endedRecord (taken + 1)] }, .ok ())
          else proceed left (taken + 1) g

/-- The record of the final counters. -/
def summary (s : Snapshot) (reward : Float) : Log.Record :=
  ⟨.info, .program,
    "score=" ++ toString s.score ++ " lines=" ++ toString s.linesCleared ++ " level="
      ++ toString s.level ++ " reward="
      ++ String.ofList (Decimal.tenthsText Document.shownSpecials reward)⟩

/-- The picture of the last snapshot of a game on a board of the usual size. -/
def picture (s : Snapshot) : Except Board.Fault String :=
  let usual : Config := {}
  let board : Board := { width := usual.width, height := usual.height, rows := s.board }
  board.render (if s.gameOver then [] else s.current.cells)

/-- Takes the steps of a game that has begun. -/
def finish (g : Game) (steps : Document) : Play :=
  match steps.integer? with
  | none => { records := g.records, answer := .error (.stepsNotWhole steps.kind) }
  | some steps =>
      match proceed steps.toNat 0 g with
      | (g, .error fault) => { records := g.records, answer := .error fault }
      | (g, .ok ()) =>
          match g.environment.session.snapshot with
          | none =>
              { records := g.records
                answer := .error (.environment (.session .notInitialized)) }
          | some final =>
              { records := g.records ++ [summary final g.reward]
                answer := (picture final).mapError .board |>.map fun picture =>
                  { final, picture } }

/-- What an environment says of its seed; null is none. -/
def checkSeed (seed : Document) : Except Fault Unit :=
  match seed, seed.integer? with
  | .null, _ => .ok ()
  | _, some n => if n < 0 then .error (.negativeSeed n) else .ok ()
  | _, none => .error (.seedNotWhole seed.kind)

/--
Plays a game.  The seed chooses the actions and the draw chooses the shapes; the log
holds the records from the level's threshold on.
-/
def play (steps seed : Document) (draw : Int) (level : Text) : Play :=
  let prepared : Except Fault (Nat × Nat) := do
    let threshold ← (Log.threshold level).mapError .level
    let chance ← (Random.seedOf seed).mapError .seed
    checkSeed seed
    .ok (threshold, chance)
  match prepared with
  | .error fault => { answer := .error fault }
  | .ok (threshold, chance) =>
      let t := (Environment.create {} {} 10000 0).reset draw
      let begun : Game :=
        { environment := t.environment
          chance := Random.Twister.ofSeed chance
          records := t.events.map Log.ofEvent }
      let played := finish begun steps
      { played with records := Log.upTo (Log.effective threshold) played.records }

end FallingBlocks.RandomPlay
