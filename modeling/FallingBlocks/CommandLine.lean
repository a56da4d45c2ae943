/-
The command line program: a game played by chance, printed as text.
-/
import FallingBlocks.CommandLine.Options
import FallingBlocks.RandomPlay
import FallingBlocks.Text.Lines

namespace FallingBlocks.CommandLine

/-- The name of the program. -/
def programName : String := "tetris-random"

/-- How the program is called. -/
def usage : List String :=
  ["usage: " ++ programName ++ " [-h] [--steps STEPS] [--seed SEED]",
   "                     [--log-level LOG_LEVEL] [--plain]"]

/-- What the request for help prints. -/
def helpText : List String :=
  usage ++
    ["",
     "Play a headless game with uniformly random actions.",
     "",
     "options:",
     "  -h, --help            show this help message and exit",
     "  --steps STEPS",
     "  --seed SEED",
     "  --log-level LOG_LEVEL",
     "  --plain               Plain stream logging instead of rich"]

/-- The lines that an error prints. -/
def errorText (e : UsageError) : List Text :=
  usage.map Text.ofString ++ Text.lines (programName ++ ": error: " ++ e.message ++ "\n")

/-- What a call of the program comes to. -/
inductive Result
  /-- Help or a usage error: the exit code and the lines on both outputs. -/
  | exit (code : Nat) (output errors : List Text)
  /-- A game, and whether its log is plain. -/
  | played (play : RandomPlay.Play) (plain : Bool)

/-- Runs the program; the draw chooses the shapes, and `seed` the actions if none is asked for. -/
def run (arguments : List Text) (draw : Int) (seed : Document := .null) : Result :=
  match read arguments with
  | .help => .exit 0 (helpText.map Text.ofString) []
  | .error e => .exit 2 [] (errorText e)
  | .options o =>
      let seed := match o.seed with
        | .null => seed
        | asked => asked
      .played (RandomPlay.play o.steps seed draw o.logLevel.plain) o.plain

end FallingBlocks.CommandLine
