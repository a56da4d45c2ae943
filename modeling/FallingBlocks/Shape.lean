/-
The seven shapes and how each one turns.

A shape is four cells around a pivot.  Turning is a lookup: the table below lists
the four cells of every shape at each quarter turn, and there are no wall kicks, so
a turn that does not fit is simply refused.  `O` never changes, and `S` and `Z` have
only two distinct forms.

The order inside each list matters to callers: cells are tested, filled and printed
in table order.
-/

namespace FallingBlocks

/-- A place on or around the board; row 0 is the top row and rows above it are negative. -/
structure Cell where
  row : Int
  col : Int
  deriving DecidableEq, Repr, Inhabited

/-- A cell of a shape relative to its pivot: `dx` columns to the right, `dy` rows down. -/
structure Offset where
  dx : Int
  dy : Int
  deriving DecidableEq, Repr, Inhabited

/-- The tetrominoes, in the order of their numbers. -/
inductive Shape
  | I | J | L | O | S | T | Z
  deriving DecidableEq, Repr, Inhabited

namespace Shape

/-- Every shape, in the order of their numbers. -/
def all : List Shape := [I, J, L, O, S, T, Z]

/-- The number of a shape, its position in `all`. -/
def number : Shape → Nat
  | I => 0
  | J => 1
  | L => 2
  | O => 3
  | S => 4
  | T => 5
  | Z => 6

/-- The letter a shape is called by. -/
def letter : Shape → Char
  | I => 'I'
  | J => 'J'
  | L => 'L'
  | O => 'O'
  | S => 'S'
  | T => 'T'
  | Z => 'Z'

/-- The shape with number `n`, if there is one. -/
def ofNumber? (n : Int) : Option Shape :=
  all.find? fun s => (s.number : Int) = n

/-- The shape called `c`, if there is one. -/
def ofLetter? (c : Char) : Option Shape :=
  all.find? fun s => s.letter = c

@[simp] theorem ofNumber?_number (s : Shape) : ofNumber? s.number = some s := by
  cases s <;> rfl

@[simp] theorem ofLetter?_letter (s : Shape) : ofLetter? s.letter = some s := by
  cases s <;> rfl

theorem mem_all (s : Shape) : s ∈ all := by
  cases s <;> decide

/-! ### Turning -/

/-- The number of quarter turns that bring a piece back to where it started. -/
def quarterTurns : Int := 4

/-- The cells of a shape after `r` quarter turns, for `r` up to three. -/
def turned : Shape → Nat → List Offset
  | I, 0 => [⟨-1, 0⟩, ⟨0, 0⟩, ⟨1, 0⟩, ⟨2, 0⟩]
  | I, 1 => [⟨1, -1⟩, ⟨1, 0⟩, ⟨1, 1⟩, ⟨1, 2⟩]
  | I, 2 => [⟨-1, 1⟩, ⟨0, 1⟩, ⟨1, 1⟩, ⟨2, 1⟩]
  | I, _ => [⟨0, -1⟩, ⟨0, 0⟩, ⟨0, 1⟩, ⟨0, 2⟩]
  | J, 0 => [⟨-1, 0⟩, ⟨0, 0⟩, ⟨1, 0⟩, ⟨1, 1⟩]
  | J, 1 => [⟨0, -1⟩, ⟨0, 0⟩, ⟨0, 1⟩, ⟨-1, 1⟩]
  | J, 2 => [⟨-1, -1⟩, ⟨-1, 0⟩, ⟨0, 0⟩, ⟨1, 0⟩]
  | J, _ => [⟨1, -1⟩, ⟨0, 0⟩, ⟨0, -1⟩, ⟨0, 1⟩]
  | L, 0 => [⟨-1, 0⟩, ⟨0, 0⟩, ⟨1, 0⟩, ⟨-1, 1⟩]
  | L, 1 => [⟨0, -1⟩, ⟨0, 0⟩, ⟨0, 1⟩, ⟨1, 1⟩]
  | L, 2 => [⟨1, -1⟩, ⟨-1, 0⟩, ⟨0, 0⟩, ⟨1, 0⟩]
  | L, _ => [⟨-1, -1⟩, ⟨0, -1⟩, ⟨0, 0⟩, ⟨0, 1⟩]
  | O, _ => [⟨0, 0⟩, ⟨1, 0⟩, ⟨0, 1⟩, ⟨1, 1⟩]
  | S, 0 | S, 2 => [⟨0, 0⟩, ⟨1, 0⟩, ⟨-1, 1⟩, ⟨0, 1⟩]
  | S, _ => [⟨0, -1⟩, ⟨0, 0⟩, ⟨1, 0⟩, ⟨1, 1⟩]
  | T, 0 => [⟨-1, 0⟩, ⟨0, 0⟩, ⟨1, 0⟩, ⟨0, 1⟩]
  | T, 1 => [⟨0, -1⟩, ⟨0, 0⟩, ⟨0, 1⟩, ⟨-1, 0⟩]
  | T, 2 => [⟨-1, 0⟩, ⟨0, 0⟩, ⟨1, 0⟩, ⟨0, -1⟩]
  | T, _ => [⟨0, -1⟩, ⟨0, 0⟩, ⟨0, 1⟩, ⟨1, 0⟩]
  | Z, 0 | Z, 2 => [⟨-1, 0⟩, ⟨0, 0⟩, ⟨0, 1⟩, ⟨1, 1⟩]
  | Z, _ => [⟨1, -1⟩, ⟨1, 0⟩, ⟨0, 0⟩, ⟨0, 1⟩]

/-- The cells of a shape at any rotation, which counts modulo four. -/
def offsets (s : Shape) (rotation : Int) : List Offset :=
  s.turned (rotation % quarterTurns).toNat

end Shape

end FallingBlocks
