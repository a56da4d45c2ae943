/-
Log records: events in words, with a level and the part of the program they come from.
-/
import FallingBlocks.Event

namespace FallingBlocks.Log

/-- How important a record is. -/
inductive Level
  | debug | info
  deriving DecidableEq, Repr

/-- The number of a level; a threshold lets through what is not below it. -/
def Level.number : Level → Nat
  | debug => 10
  | info => 20

/-- The name of a level. -/
def Level.name : Level → String
  | debug => "DEBUG"
  | info => "INFO"

/-- The parts of the program that write records. -/
inductive Source
  | program | core | lineClear | service
  deriving DecidableEq, Repr

/-- The name of a part of the program. -/
def Source.name : Source → String
  | program => "tetris_engine"
  | core => "tetris_engine.game.core"
  | lineClear => "tetris_engine.game.line_clear"
  | service => "tetris_engine.storage.service"

/-- One line of the log. -/
structure Record where
  level : Level
  source : Source
  message : String
  deriving DecidableEq, Repr

/-- The line that shows a record. -/
def Record.line (r : Record) : String :=
  r.level.name ++ " " ++ r.source.name ++ ": " ++ r.message

/-- The records that reach a threshold. -/
def upTo (threshold : Nat) (records : List Record) : List Record :=
  records.filter fun r => threshold ≤ r.level.number

/-! ### Events in words -/

/-- A shape by its letter. -/
def shapeText (s : Shape) : String :=
  String.singleton s.letter

/-- A piece with all its fields. -/
def pieceText (p : Piece) : String :=
  "ActivePiece(shape=<Shape." ++ shapeText p.shape ++ ": " ++ toString p.shape.number ++ ">, x="
    ++ toString p.x ++ ", y=" ++ toString p.y ++ ", rotation=" ++ toString p.rotation ++ ")"

/-- Row numbers in brackets. -/
def rowsText (rows : List Nat) : String :=
  "[" ++ ", ".intercalate (rows.map toString) ++ "]"

/-- The record of an event. -/
def ofEvent : Event → Record
  | .began current next =>
      ⟨.debug, .core,
        "initialized session: current=" ++ shapeText current ++ " next=" ++ shapeText next⟩
  | .cleared rows => ⟨.debug, .lineClear, "cleared rows " ++ rowsText rows⟩
  | .levelUp old new linesCleared =>
      ⟨.debug, .lineClear,
        "level up: " ++ toString old ++ " -> " ++ toString new ++ " after "
          ++ toString linesCleared ++ " lines"⟩
  | .restedAbove piece =>
      ⟨.debug, .lineClear, "top-out: " ++ pieceText piece ++ " locked above the board"⟩
  | .blockedAtSpawn piece =>
      ⟨.debug, .lineClear, "top-out: " ++ pieceText piece ++ " does not fit at spawn"⟩
  | .ended score linesCleared level =>
      ⟨.info, .core,
        "game over: score=" ++ toString score ++ " lines=" ++ toString linesCleared
          ++ " level=" ++ toString level⟩
  | .committed operation score =>
      ⟨.debug, .service, "committed " ++ operation ++ " -> score=" ++ toString score⟩

end FallingBlocks.Log
