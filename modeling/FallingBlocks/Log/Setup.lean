/-
Setting a logger up.

A logger has a name, a threshold and exactly one handler once it has been set up.  Its
threshold is given by name in any spelling; a name that means nothing gives the one of
`INFO`.  Two names mean something else than a number: they are refused, and the logger is
left without a handler.
-/
import FallingBlocks.Document
import FallingBlocks.Text.Capital

namespace FallingBlocks.Log

/-- What prints the records of a logger. -/
inductive Handler
  | rich | plain
  deriving DecidableEq, Repr

/-- The name of a handler. -/
def Handler.name : Handler → String
  | rich => "RichHandler"
  | plain => "StreamHandler"

/-- A logger as it has been set up; records go no further than its own handlers. -/
structure Logger where
  name : Text
  threshold : Nat
  handlers : List Handler
  propagates : Bool := false
  deriving DecidableEq, Repr

/-- The thresholds that have a name. -/
def thresholds : List (String × Nat) :=
  [("CRITICAL", 50), ("FATAL", 50), ("ERROR", 40), ("WARNING", 30), ("WARN", 30), ("INFO", 20),
   ("DEBUG", 10), ("NOTSET", 0)]

/-- The name that means a text, and the text. -/
def formatName : String := "BASIC_FORMAT"

/-- The text that `formatName` means. -/
def formatText : String := "%(levelname)s:%(name)s:%(message)s"

/-- The name that means a table of styles. -/
def stylesName : String := "_STYLES"

/-- The table that `stylesName` means: the sign, the class and the text of every style. -/
def styles : List (String × String × String) :=
  [("%", "PercentStyle", formatText),
   ("\x7b", "StrFormatStyle", "\x7blevelname\x7d:\x7bname\x7d:\x7bmessage\x7d"),
   ("$", "StringTemplateStyle", "$\x7blevelname\x7d:$\x7bname\x7d:$\x7bmessage\x7d")]

/-- The table of styles as messages show it. -/
def stylesText : String :=
  "\x7b" ++ ", ".intercalate (styles.map fun (sign, style, text) =>
    Text.quoted sign ++ ": (<class 'logging." ++ style ++ "'>, " ++ Text.quoted text ++ ")")
    ++ "\x7d"

/-- Why a name means no threshold. -/
inductive LevelFault
  /-- The name means a text. -/
  | unknown (text : String)
  /-- The name means neither a number nor a text. -/
  | noLevel (shown : String)
  deriving DecidableEq, Repr

/-- The wording of a fault. -/
def LevelFault.message : LevelFault → String
  | unknown text => "Unknown level: " ++ Text.quoted text
  | noLevel shown => "Level not an integer or a valid string: " ++ shown

/-- The threshold that a name in any spelling means. -/
def threshold (level : Text) : Except LevelFault Nat :=
  let name := String.ofList (level.chars.flatMap Text.capitals)
  if name = formatName then .error (.unknown formatText)
  else if name = stylesName then .error (.noLevel stylesText)
  else .ok (((thresholds.find? fun t => t.1 = name).map (·.2)).getD 20)

/-- The threshold that applies where none is set. -/
def rootThreshold : Nat := 30

/-- The threshold that records have to reach; the lowest one means that none is set. -/
def effective (threshold : Nat) : Nat :=
  if threshold = 0 then rootThreshold else threshold

/-- The name of the logger that has none. -/
def rootName : String := "root"

/-- Sets a logger up from scratch. -/
def setUp (name : Text) (rich : Bool) (level : Text) : Logger × Except LevelFault Unit :=
  let name : Text := if name.points.isEmpty then rootName else name
  match threshold level with
  | .error fault => ({ name, threshold := 0, handlers := [] }, .error fault)
  | .ok threshold =>
      ({ name, threshold, handlers := [if rich then .rich else .plain] }, .ok ())

end FallingBlocks.Log
