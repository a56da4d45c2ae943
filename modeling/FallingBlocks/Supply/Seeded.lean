/-
Shapes at random: each of the seven with the same chance, independently of the others.
-/
import FallingBlocks.Random.Twister
import FallingBlocks.Supply

namespace FallingBlocks.Supply

/-- The next shape that a generator gives, and the generator after it. -/
def nextShape (t : Random.Twister) : Shape × Random.Twister :=
  let (number, rest) := t.below Shape.all.length
  (Shape.all.getD number .I, rest)

/-- The sequence of shapes that belongs to a seed. -/
def seeded (seed : Int) : Supply :=
  let start := Random.Twister.ofSeed seed
  { shapeAt := fun n => (nextShape (start.after Shape.all.length n)).1 }

/-- The next `count` shapes that a generator gives. -/
def shapesFrom (t : Random.Twister) : Nat → List Shape
  | 0 => []
  | count + 1 =>
      let (shape, rest) := nextShape t
      shape :: shapesFrom rest count

/-- The first `count` shapes of a seed, all drawn in one go. -/
def firstShapes (seed : Int) (count : Nat) : List Shape :=
  shapesFrom (Random.Twister.ofSeed seed) count

theorem shapesFrom_eq (t : Random.Twister) (count : Nat) :
    shapesFrom t count =
      (List.range count).map fun n => (nextShape (t.after Shape.all.length n)).1 := by
  induction count generalizing t with
  | zero => rfl
  | succ count ih =>
    rw [shapesFrom, List.range_succ_eq_map, List.map_cons, List.map_map]
    simp only [ih]
    rfl

/-- Drawing in one go gives the shapes of the sequence. -/
theorem firstShapes_eq (seed : Int) (count : Nat) :
    firstShapes seed count = (List.range count).map (seeded seed).shapeAt :=
  shapesFrom_eq _ _

end FallingBlocks.Supply
