/-
Settings written by someone else.

The width and the height have to be numbers above zero, the width being looked at
first; everything else is taken as it is.
-/
import FallingBlocks.Config
import FallingBlocks.Document.Limits
import FallingBlocks.Document.Number

namespace FallingBlocks

/-- The settings of a game as they were written. -/
structure Settings where
  width : Document := .int 10
  height : Document := .int 20
  randomSeed : Document := .null
  spawnY : Document := .int 0

namespace Settings

/-- The measures of a board. -/
inductive Measure
  | width | height
  deriving DecidableEq, Repr

/-- What a measure is called. -/
def Measure.name : Measure → String
  | width => "width"
  | height => "height"

/-- Why settings are refused. -/
inductive Fault
  /-- The value cannot be compared with a number. -/
  | notComparable (found : Document.Kind)
  | notPositive (measure : Measure) (found : Document)
  /-- A setting that has to be a whole number is not one. -/
  | number (fault : Document.NumberFault)

/-- The wording of a fault. -/
def Fault.message : Fault → String
  | notComparable found =>
      "'<=' not supported between instances of '" ++ found.name ++ "' and 'int'"
  | notPositive measure found =>
      found.orTooLong (measure.name ++ " must be positive, got " ++ found.describe)
  | number fault => fault.message

/-- Whether a document is a number above zero. -/
def positive (measure : Measure) (d : Document) : Except Fault Unit :=
  let above (yes : Bool) : Except Fault Unit :=
    if yes then .ok () else .error (.notPositive measure d)
  match d with
  | .bool b => above b
  | .int n => above (decide (0 < n))
  | .float x => above (!(x ≤ 0))
  | d => .error (.notComparable d.kind)

/-- Whether the settings are accepted. -/
def accepted (s : Settings) : Except Fault Unit := do
  positive .width s.width
  positive .height s.height

/-- The settings that describe a configuration. -/
def ofConfig (c : Config) : Settings :=
  { width := .int c.width
    height := .int c.height
    randomSeed := (c.randomSeed.map .int).getD .null
    spawnY := .int c.spawnY }

/-- The column in which pieces enter; only a whole number of columns gives a whole one. -/
def spawnX (s : Settings) : Document :=
  match s.width with
  | .float x => .float (if x.isInf then Decimal.notANumber else (x / 2).floor - 1)
  | d => .int (spawnColumn (d.whole?.getD 0))

/-- A document as a whole number. -/
def whole (d : Document) : Except Fault Int :=
  d.toWhole.mapError .number

/-- The configuration that the settings describe. -/
def toConfig (s : Settings) : Except Fault Config := do
  s.accepted
  let width ← whole s.width
  let height ← whole s.height
  let spawnY ← whole s.spawnY
  if hw : 0 < width then
    if hh : 0 < height then
      return {
        width, height, spawnY
        randomSeed := s.randomSeed.whole?
        width_pos := hw
        height_pos := hh }
    else throw (.notPositive .height (.int height))
  else throw (.notPositive .width (.int width))

end Settings

end FallingBlocks
