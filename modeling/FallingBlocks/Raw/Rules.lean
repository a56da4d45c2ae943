/-
Raw rules: a score table and a number of lines that nobody has checked.
-/
import FallingBlocks.Raw.Fault
import FallingBlocks.Rules

namespace FallingBlocks.Raw

/-- A score table, entry `n - 1` for `n` lines at once, and the lines that make a level. -/
structure Rules where
  scores : List Document := [.int 100, .int 300, .int 500, .int 800]
  linesPerLevel : Document := .int 10

namespace Rules

/-- Rules as raw values. -/
def ofOrdinary (r : FallingBlocks.Rules) : Rules :=
  { scores := r.scores.map .int, linesPerLevel := .int r.linesPerLevel }

/-- The ordinary rules that raw values make. -/
def ordinary? (r : Rules) : Option FallingBlocks.Rules := do
  some
    { scores := ← r.scores.mapM anyWhole?
      linesPerLevel := ← anyWhole? r.linesPerLevel }

/-- Ordinary rules are found again among raw values. -/
@[simp] theorem ordinary?_ofOrdinary (r : FallingBlocks.Rules) :
    (ofOrdinary r).ordinary? = some r := by
  simp [ofOrdinary, ordinary?, anyWhole?]

variable [Machine]

/-- The score for clearing `lines` rows at once at some level. -/
def scoreForLines (r : Rules) (lines level : Document) : Except Fault Document :=
  match r.ordinary?, anyWhole? lines, anyWhole? level with
  | some r, some lines, some level => .ok (.int (r.scoreForLines lines level))
  | _, _, _ => combined do
      if ← Document.isLE (.int 1) lines then
        if ← lines.isLE (.int r.scores.length) then
          let entry ← lines.subtract (.int 1)
          let i ← Document.position .tuple r.scores.length (.nothingThere .tuple) entry
          (r.scores.getD i .null).multiply level
        else .ok (.int 0)
      else .ok (.int 0)

/-- On ordinary rules the score is the ordinary one. -/
theorem scoreForLines_ofOrdinary (r : FallingBlocks.Rules) (lines level : Int) :
    (ofOrdinary r).scoreForLines (.int lines) (.int level)
      = .ok (.int (r.scoreForLines lines level)) := by
  simp [scoreForLines, anyWhole?]

/-- The level after a lock. -/
def levelAfter (r : Rules) (linesCleared level : Document) : Except Fault Document :=
  match r.ordinary?, anyWhole? linesCleared, anyWhole? level with
  | some r, some linesCleared, some level => .ok (.int (r.levelAfter linesCleared level))
  | _, _, _ => combined do
      let threshold ← level.multiply r.linesPerLevel
      if ← linesCleared.isGE threshold then level.add (.int 1) else .ok level

/-- On ordinary rules the level is the ordinary one. -/
theorem levelAfter_ofOrdinary (r : FallingBlocks.Rules) (linesCleared level : Int) :
    (ofOrdinary r).levelAfter (.int linesCleared) (.int level)
      = .ok (.int (r.levelAfter linesCleared level)) := by
  simp [levelAfter, anyWhole?]

end Rules

end FallingBlocks.Raw
