/-
The machine that a game runs on.

Numbers, lists and texts are of any size, as long as they fit the memory.  How much fits is
a matter of the machine: whatever depends on it takes the machine for granted, and is said of
every one.
-/

namespace FallingBlocks

/-- What fits the memory of a machine. -/
class Machine where
  /-- The most bits of a whole number. -/
  bits : Nat
  /-- The most items of a list. -/
  items : Nat
  /-- The most letters that a template is filled with. -/
  letters : Nat
  /-- The most bytes of a table. -/
  bytes : Nat

/-- The machine that is meant where none is named. -/
instance (priority := low) Machine.usual : Machine where
  bits := Nat.pow 2 38
  items := Nat.pow 2 32
  letters := Nat.pow 2 30
  bytes := Nat.pow 2 35

end FallingBlocks
