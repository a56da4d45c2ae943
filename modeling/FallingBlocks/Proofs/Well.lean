/-
The piece in the well moves as the pile admits it.

On a board of the right height an attempt never fails, and it succeeds exactly when the
pile admits the piece where it would go.  The drop is a loop with fuel, and the fuel is
always enough: every shape has a cell in the row of its pivot or below it, so a piece
that is admitted has its pivot above the floor, and each row it descends brings the
pivot one row closer.
-/
import FallingBlocks.Well
import FallingBlocks.Proofs.Board.Pile

namespace FallingBlocks.Well

/-- The well puts a new piece where the configuration says. -/
theorem entering_eq {w : Well} {c : Config} (hwidth : w.board.width = c.width)
    (hspawn : w.spawnY = c.spawnY) (s : Shape) : w.entering s = c.entering s := by
  simp only [entering, Config.entering, spawnX, Config.spawnX, hwidth, hspawn]

variable {w : Well} {p : Piece}

theorem attempt_eq (hsize : (w.board.rows.length : Int) = w.board.height) (hp : w.piece = some p)
    (dx dy turns : Int) :
    w.attempt dx dy turns = .ok (
      if w.board.pile.Admits w.board.width w.board.height (p.moved dx dy turns)
      then ({ w with piece := some (p.moved dx dy turns) }, true)
      else (w, false)) := by
  rw [attempt, hp]
  simp only [fits, Board.fits_cells hsize, Except.map, decide_eq_true_eq]

/-- An attempt never fails, and whatever comes of it has a piece. -/
theorem exists_attempt (hsize : (w.board.rows.length : Int) = w.board.height)
    (hp : w.piece = some p) (dx dy turns : Int) :
    ∃ q moved, w.attempt dx dy turns = .ok ({ w with piece := some q }, moved) := by
  rw [attempt_eq hsize hp]
  split
  · exact ⟨_, true, rfl⟩
  · exact ⟨p, false, by rw [← hp]⟩

/-- **With more fuel than there are rows below the pivot, the loop is the fall.** -/
theorem descend_eq (fuel : Nat) (hsize : (w.board.rows.length : Int) = w.board.height)
    (hp : w.piece = some p) (hfuel : (w.board.height - p.y).toNat < fuel) :
    w.descend fuel =
      ({ w with piece := some (w.board.pile.fall w.board.width w.board.height p).1 },
        .ok (w.board.pile.fall w.board.width w.board.height p).2) := by
  induction fuel generalizing w p with
  | zero => omega
  | succ fuel ih =>
      rw [descend, softDrop, attempt_eq hsize hp]
      by_cases h : w.board.pile.Admits w.board.width w.board.height (p.moved 0 1 0)
      · have hlt := h.y_lt
        rw [Piece.moved_y] at hlt
        have hlower := ih (w := { w with piece := some (p.moved 0 1 0) }) hsize rfl
          (by rw [Piece.moved_y]; show (w.board.height - (p.y + 1)).toNat < fuel; omega)
        simp only [if_pos h, hlower, Pile.fall_of_admits h, Except.map]
      · simp only [if_neg h, Pile.fall_of_blocked h, ← hp]

/-- The drop is the fall. -/
theorem drop_eq (hsize : (w.board.rows.length : Int) = w.board.height) (hp : w.piece = some p) :
    w.drop =
      ({ w with piece := some (w.board.pile.fall w.board.width w.board.height p).1 },
        .ok (w.board.pile.fall w.board.width w.board.height p).2) := by
  refine descend_eq w.room hsize hp ?_
  simp only [room, hp]
  omega

end FallingBlocks.Well
