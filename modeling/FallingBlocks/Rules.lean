/-
Scoring: what a lock is worth and when the level goes up.
-/

namespace FallingBlocks

/-- A score table, entry `n - 1` for `n` lines at once, and the lines that make a level. -/
structure Rules where
  scores : List Int := [100, 300, 500, 800]
  linesPerLevel : Int := 10
  deriving DecidableEq, Repr

namespace Rules

/-- The table's entry for `lines` cleared at once, 0 outside the table. -/
def award (r : Rules) (lines : Int) : Int :=
  if 1 ≤ lines ∧ lines ≤ r.scores.length then r.scores.getD (lines - 1).toNat 0 else 0

/-- The score for clearing `lines` rows at once at some level. -/
def scoreForLines (r : Rules) (lines level : Int) : Int :=
  r.award lines * level

/-- The level after a lock, which is at most one above the level before it. -/
def levelAfter (r : Rules) (linesCleared level : Int) : Int :=
  if level * r.linesPerLevel ≤ linesCleared then level + 1 else level

/-- A table without a negative entry takes no score away. -/
theorem award_nonneg {r : Rules} (h : ∀ a ∈ r.scores, 0 ≤ a) (lines : Int) : 0 ≤ r.award lines := by
  unfold award
  split
  · rw [List.getD_eq_getElem?_getD]
    cases hentry : r.scores[(lines - 1).toNat]? with
    | none => exact Int.le_refl 0
    | some a => exact h a (List.mem_of_getElem? hentry)
  · exact Int.le_refl 0

theorem scoreForLines_nonneg {r : Rules} (h : ∀ a ∈ r.scores, 0 ≤ a) (lines : Int) {level : Int}
    (hlevel : 0 ≤ level) : 0 ≤ r.scoreForLines lines level :=
  Int.mul_nonneg (award_nonneg h lines) hlevel

theorem le_levelAfter (r : Rules) (linesCleared level : Int) :
    level ≤ r.levelAfter linesCleared level := by
  unfold levelAfter
  split <;> omega

end Rules

end FallingBlocks
