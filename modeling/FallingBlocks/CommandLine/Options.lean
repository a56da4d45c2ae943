/-
The options of the command line.

An option may be written in full or by a beginning that only it has, and its value may
follow it as the next argument or after an equals sign.  An argument that looks like a
negative number, or that holds a space, is a value rather than an unknown option, and
after a lone double dash everything is a value.  No argument stands for itself alone, so
whatever is left over is an error.  A double dash after an equals sign is taken out of the
values of its option, which leaves an empty list of them.

All arguments are told apart before any option takes effect; after that the options take
effect from left to right, the last one of a kind counting, and the request for help or
the first error ends the reading.
-/
import FallingBlocks.Document.Number

namespace FallingBlocks.CommandLine

/-- What can be asked for. -/
inductive Flag
  | help | steps | seed | logLevel | plain
  deriving DecidableEq, Repr

/-- Every spelling of an option, in the order in which candidates are listed. -/
def spellings : List (Text × Flag) :=
  [("-h", .help), ("--help", .help), ("--steps", .steps), ("--seed", .seed),
   ("--log-level", .logLevel), ("--plain", .plain)]

namespace Flag

/-- What errors call an option. -/
def label : Flag → String
  | help => "-h/--help"
  | steps => "--steps"
  | seed => "--seed"
  | logLevel => "--log-level"
  | plain => "--plain"

/-- Whether an option has a value. -/
def takesValue : Flag → Bool
  | steps | seed | logLevel => true
  | help | plain => false

end Flag

/-- The settings that a command line makes. -/
structure Options where
  steps : Document := .int 500
  seed : Document := .null
  logLevel : Document := .text "info"
  plain : Bool := false

/-- What is wrong with a command line. -/
inductive UsageError
  | ambiguous (written : Text) (candidates : List Text)
  | ignoredValue (flag : Flag) (value : Text)
  | noValue (flag : Flag)
  | notWhole (flag : Flag) (value : Text)
  | unrecognized (arguments : List Text)
  deriving DecidableEq, Repr

/-- The wording of an error. -/
def UsageError.message : UsageError → Text
  | ambiguous written candidates =>
      "ambiguous option: " ++ written ++ " could match " ++ Text.join ", " candidates
  | ignoredValue flag value =>
      "argument " ++ flag.label ++ ": ignored explicit argument " ++ Text.quoted value
  | noValue flag => "argument " ++ flag.label ++ ": expected one argument"
  | notWhole flag value =>
      "argument " ++ flag.label ++ ": invalid int value: " ++ Text.quoted value
  | unrecognized arguments => "unrecognized arguments: " ++ Text.join " " arguments

/-! ### Telling the arguments apart -/

/-- What an argument is; an option may have a value written in the same argument. -/
inductive Word
  | value
  | option (flag : Flag) (attached : Option Text)
  | unknown
  deriving DecidableEq, Repr

/-- The text before the first equals sign, and the text after it if there is one. -/
def splitEquals (t : Text) : Text × Option Text :=
  match t.points.dropWhile (· != .char '=') with
  | [] => (t, none)
  | _ :: rest => (⟨t.points.takeWhile (· != .char '=')⟩, some ⟨rest⟩)

/-- The option with exactly this spelling. -/
def spelledOut? (t : Text) : Option Flag :=
  (spellings.find? fun o => o.1 = t).map (·.2)

/-- Whether a text begins like another. -/
def beginsLike (t start : Text) : Bool :=
  start.points.isPrefixOf t.points

/-- Whether an argument looks like a negative number; a line feed at its end does not matter. -/
def looksNegative (t : Text) : Bool :=
  match t.chars with
  | '-' :: s =>
      let isDigit (c : Char) : Bool := (Decimal.digit? c).isSome
      let s := if s.getLast? = some '\n' then s.dropLast else s
      match s.dropWhile isDigit with
      | [] => !s.isEmpty
      | '.' :: places => !places.isEmpty && places.all isDigit
      | _ => false
  | _ => false

/-- The options that an argument may stand for, with their spellings. -/
def candidates (t : Text) : List (Text × Word) :=
  match t.points with
  | .char '-' :: .char '-' :: _ =>
      let (name, value) := splitEquals t
      (spellings.filter fun o => beginsLike o.1 name).map fun (spelling, flag) =>
        (spelling, .option flag value)
  | .char '-' :: p :: rest =>
      spellings.filterMap fun (spelling, flag) =>
        if spelling.points = [.char '-', p] then some (spelling, .option flag (some ⟨rest⟩))
        else if beginsLike spelling t then some (spelling, .option flag none)
        else none
  | _ => []

/-- An argument that is not spelled out as an option. -/
def guess (t : Text) : Except UsageError Word :=
  match candidates t with
  | [(_, word)] => .ok word
  | [] => .ok (if looksNegative t || t.points.contains (.char ' ') then .value else .unknown)
  | several => .error (.ambiguous t (several.map (·.1)))

/-- What an argument is. -/
def classify (t : Text) : Except UsageError Word :=
  match t.points with
  | .char '-' :: _ :: _ =>
      match spelledOut? t, splitEquals t with
      | some flag, _ => .ok (.option flag none)
      | none, (_, none) => guess t
      | none, (name, some value) =>
          match spelledOut? name with
          | some flag => .ok (.option flag (some value))
          | none => guess t
  | _ => .ok .value

/-- The double dash. -/
def separator : Text := "--"

/-- All arguments with what they are. -/
def words : List Text → Except UsageError (List (Text × Word))
  | [] => .ok []
  | t :: rest =>
      if t = separator then .ok ((t, .unknown) :: rest.map fun v => (v, .value))
      else do
        let word ← classify t
        let more ← words rest
        .ok ((t, word) :: more)

/-! ### Taking effect -/

/-- Where reading a command line ends. -/
inductive Reading
  | options (o : Options)
  | help
  | error (e : UsageError)

/-- A whole number as the value of an option. -/
def wholeValue (flag : Flag) (value : Text) : Except UsageError Document :=
  match Decimal.whole value.chars with
  | .ok n => .ok (.int n)
  | .error _ => .error (.notWhole flag value)

/-- What an option makes of its value. -/
def valueOf (flag : Flag) (value : Text) : Except UsageError Document :=
  if value = separator then .ok (.array [])
  else if flag = .logLevel then .ok (.text value)
  else wholeValue flag value

/-- The options with the value of one of them set. -/
def Options.set (o : Options) (flag : Flag) (value : Document) : Options :=
  match flag with
  | .steps => { o with steps := value }
  | .seed => { o with seed := value }
  | .logLevel => { o with logLevel := value }
  | .help | .plain => o

/-- What is attached to the short request for help: that request over and over again. -/
def attachedToHelp : List CodePoint → Reading
  | [] => .help
  | p :: rest =>
      if p = .char 'h' then attachedToHelp rest
      else .error (.ignoredValue .help ⟨p :: rest⟩)

/-- An option without a value to which something is attached. -/
def withAttached (flag : Flag) (short : Bool) (value : Text) : Reading :=
  if short ∧ !value.points.isEmpty then attachedToHelp value.points
  else .error (.ignoredValue flag value)

/-- Lets the options take effect; `extras` holds what is left over so far, last first. -/
def apply (o : Options) (extras : List Text) : List (Text × Word) → Reading
  | [] => if extras.isEmpty then .options o else .error (.unrecognized extras.reverse)
  | (t, .option flag attached) :: rest =>
      if flag.takesValue then
        match attached, rest with
        | some value, rest =>
            match valueOf flag value with
            | .error e => .error e
            | .ok d => apply (o.set flag d) extras rest
        | none, (value, .value) :: rest =>
            match valueOf flag value with
            | .error e => .error e
            | .ok d => apply (o.set flag d) extras rest
        | none, _ => .error (.noValue flag)
      else
        match attached with
        | some value => withAttached flag (!beginsLike t separator) value
        | none => if flag = .help then .help else apply { o with plain := true } extras rest
  | (t, _) :: rest => apply o (t :: extras) rest

/-- Reads a command line. -/
def read (arguments : List Text) : Reading :=
  match words arguments with
  | .error e => .error e
  | .ok ws => apply {} [] ws

end FallingBlocks.CommandLine
