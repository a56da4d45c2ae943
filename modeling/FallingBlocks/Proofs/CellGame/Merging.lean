/-
Which requests merge a piece.

A shape is drawn when a piece has been merged, and otherwise only for a new game, which
draws two.  So the supply tells from outside what a request did: if it moved on by one,
the piece fell as far as it could, joined the pile, and the complete rows were taken out.
A soft drop that merges is no exception, since it merges only a piece that can fall no
further.
-/
import FallingBlocks.Proofs.CellGame

namespace FallingBlocks

/-- How many rows are complete once the piece has fallen and joined the pile. -/
def Position.completes (c : Config) (x : Position) : Nat :=
  ((x.pile ∪ (x.fall c).1.current.cells.toFinset).completed c.width c.height).card

namespace CellGame

variable {g h : CellGame} {x : Position} {r : Session.Request}

/-- From one game to the next the supply moved on by one shape. -/
def Drew (g h : CellGame) : Prop :=
  h.supply.drawn = g.supply.drawn + 1

theorem Drew.ne (hdrew : Drew g h) : h.supply ≠ g.supply := by
  intro hsame
  have hcount : h.supply.drawn = g.supply.drawn + 1 := hdrew
  rw [hsame] at hcount
  omega

/-! ### The operations one by one -/

theorem andThen_game {t next : Turn} (hsame : next.game = t.game) : (t.andThen next).game = t.game := by
  unfold Turn.andThen
  split
  · rfl
  · exact hsame

end CellGame

end FallingBlocks
