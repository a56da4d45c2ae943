/-
Actions: the six things a player can do, by number.
-/

namespace FallingBlocks

/-- What a player does in one step of a game. -/
inductive Action
  | left | right | rotate | softDrop | hardDrop | tick
  deriving DecidableEq, Repr, Inhabited

namespace Action

/-- Every action, in the order of their numbers. -/
def all : List Action := [left, right, rotate, softDrop, hardDrop, tick]

/-- The number of an action, its position in `all`. -/
def number : Action → Nat
  | left => 0
  | right => 1
  | rotate => 2
  | softDrop => 3
  | hardDrop => 4
  | tick => 5

/-- The action with number `n`, if there is one. -/
def ofNumber? (n : Int) : Option Action :=
  all.find? fun a => (a.number : Int) = n

@[simp] theorem ofNumber?_number (a : Action) : ofNumber? a.number = some a := by
  cases a <;> rfl

end Action

end FallingBlocks
