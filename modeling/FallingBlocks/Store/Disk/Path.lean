/-
Paths: how a file or folder is reached.

A path is walked step by step, each step leading into something by name or up to the
folder around.  It starts at the home folder of the disk.  Walking up from there leads to
folders about which no more is known than that they exist, so a place is named by how far
above home one has to begin and by the names from there down.
-/
import FallingBlocks.Text

namespace FallingBlocks

/-- One step of a path. -/
inductive Step
  | up
  | into (name : Text)
  deriving DecidableEq, Repr

/-- The steps from the home folder to a file or folder. -/
abbrev Path := List Step

/-- The name of the folder around, as a path writes it. -/
def upName : Text := ".."

/-- What a step is called in a path. -/
def Step.name : Step → Text
  | up => upName
  | into name => name

namespace Path

/-- The code point between the names of a path. -/
def separator : CodePoint := .char '/'

/-- The step that a name asks for; no name at all, and a single dot, ask for none. -/
def step? (name : List CodePoint) : Option Step :=
  if name.isEmpty ∨ name = [.char '.'] then none
  else if (⟨name⟩ : Text) = upName then some .up
  else some (.into ⟨name⟩)

/-- The path that a text writes, its names separated by slashes. -/
def ofText (t : Text) : Path :=
  (t.points.splitOn separator).filterMap step?

/-- The path to the folder that holds what a path leads to. -/
def parent (p : Path) : Path :=
  if p.isEmpty then [.up] else p.dropLast

/-- What a new file is called before it takes its place. -/
def temporaryEnding : Text := ".tmp"

/-- The path next to this one whose name has `.tmp` added. -/
def temporary (p : Path) : Path :=
  p.parent ++ [.into ((p.getLast?.map Step.name).getD "" ++ temporaryEnding)]

/-! ### Names in bytes -/

/-- The code points of the halves that stand for single bytes of a name. -/
def byteHalves : Nat × Nat := (0xdc80, 0xdcff)

/-- The bytes that a code point takes in a name, if it can stand there. -/
def size? : CodePoint → Option Nat
  | .char c => some c.utf8Size
  | .half n =>
      let number := (CodePoint.half n).number
      if byteHalves.1 ≤ number ∧ number ≤ byteHalves.2 then some 1 else none

/-- The bytes of a name, those code points left out that cannot stand in it. -/
def nameSize (name : Text) : Nat :=
  (name.points.filterMap size?).foldr (· + ·) 0

/-- The bytes of a path, with a slash between two names. -/
def size (p : Path) : Nat :=
  (p.map fun s => nameSize s.name + 1).foldr (· + ·) 0 - 1

/-- The text of a path. -/
def text (p : Path) : Text :=
  Text.join ⟨[separator]⟩ (p.map Step.name)

end Path

/-- Where something lies: the names from the folder `above` levels over the home folder. -/
structure Place where
  above : Nat := 0
  names : List Text := []
  deriving DecidableEq, Repr

namespace Place

/-- The home folder of the disk. -/
def home : Place := {}

/-- The place one step further. -/
def follow (p : Place) : Step → Place
  | .into name => { p with names := p.names ++ [name] }
  | .up => if p.names.isEmpty then ⟨p.above + 1, []⟩ else { p with names := p.names.dropLast }

end Place

end FallingBlocks
