/-
The program: plays a game by chance and prints it.
-/
import FallingBlocks.CommandLine

namespace FallingBlocks.CommandLine

/-- Prints lines to an output. -/
def printLines (out : IO.FS.Stream) (lines : List String) : IO Unit :=
  lines.forM fun line => out.putStrLn line

/-- Prints texts to an output, one on each line. -/
def printTexts (out : IO.FS.Stream) (texts : List Text) : IO Unit :=
  printLines out (texts.map fun t => String.ofList t.chars)

end FallingBlocks.CommandLine

open FallingBlocks CommandLine

/-- The log goes to the error output and the picture of the board to the standard output. -/
def main (arguments : List String) : IO UInt32 := do
  let out ← IO.getStdout
  let err ← IO.getStderr
  let arguments := arguments.map Text.ofString
  let chance : Int := ← IO.rand 0 (Nat.pow 2 31 - 2)
  let draw := match read arguments with
    | .options o => o.seed.integer?.getD chance
    | _ => chance
  match run arguments draw (.int chance) with
  | .exit code output errors =>
      printTexts out output
      printTexts err errors
      return UInt32.ofNat code
  | .played play _ =>
      printLines err (play.records.map Log.Record.line)
      match play.answer with
      | .ok outcome =>
          printLines out [outcome.picture]
          return 0
      | .error fault =>
          printLines err [fault.message]
          return 1
