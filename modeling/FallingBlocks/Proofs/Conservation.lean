/-
No cell of a game is lost.

Of the shapes drawn for a game two are still in the air, and every other one has become
four cells of the board.  Rows that were cleared took `width` cells each.  So the filled
cells and the cleared rows together give the number of shapes drawn: the board, the line
counter and the supply keep each other's books.

The equation survives every request.  A move touches none of the three, a lock moves all
of them at once, a piece that ends the game above the board is neither merged nor
replaced, and a request that is refused is refused before a shape is drawn.
-/
import FallingBlocks.Proofs.Board.Counting
import FallingBlocks.Proofs.Runs

namespace FallingBlocks

/-- A piece that is admitted overlaps no cell of a pile on the board. -/
theorem Pile.Admits.free {pile : Pile} {width height : Int} {p : Piece}
    (h : pile.Admits width height p) (hgrid : pile ⊆ grid width height) :
    ∀ cell ∈ p.cells, cell ∉ pile := by
  intro cell hcell hmem
  exact (h cell hcell).2.2.2 (mem_grid.mp (hgrid hmem)).1.1 hmem

namespace Position

/-- The books of a position for whose game `drawn` shapes have been drawn. -/
structure Balanced (c : Config) (drawn : Int) (x : Position) : Prop where
  /-- The pile lies on the board. -/
  onBoard : x.pile ⊆ Pile.grid c.width c.height
  /-- All shapes but two are on the board or in cleared rows. -/
  cells : (x.pile.card : Int) + c.width * x.linesCleared = 4 * (drawn - 2)
  /-- The piece of a running game overlaps no filled cell. -/
  free : x.gameOver = false → ∀ cell ∈ x.current.cells, cell ∉ x.pile

/-- A piece that lands adds four cells for the one shape that is drawn. -/
theorem balanced_landed {c : Config} {x : Position} {drawn : Int} (rules : Rules) (supply : Supply)
    (hx : x.Balanced c drawn) (hcells : ∀ cell ∈ x.current.cells, cell ∈ Pile.grid c.width c.height)
    (hfree : ∀ cell ∈ x.current.cells, cell ∉ x.pile) :
    (x.landed c rules supply).position.Balanced c (drawn + 1) := by
  have hgrid : x.pile ∪ x.current.cells.toFinset ⊆ Pile.grid c.width c.height := by
    refine Finset.union_subset hx.onBoard fun cell hcell => ?_
    exact hcells cell (List.mem_toFinset.mp hcell)
  have hsunk := Pile.sunk_subset_grid hgrid
  refine ⟨hsunk, ?_, ?_⟩
  · have hwidth : (c.width.toNat : Int) = c.width :=
      Int.toNat_of_nonneg (Int.le_of_lt c.width_pos)
    have hnat := Pile.card_sunk hgrid
    rw [Pile.card_union_cells hfree] at hnat
    have hcount := congrArg (Nat.cast (R := Int)) hnat
    rw [Nat.cast_add, Nat.cast_mul, Nat.cast_add, hwidth, Int.mul_comm] at hcount
    have hold := hx.cells
    simp only [landed, Int.mul_add]
    omega
  · intro hover
    have hadmits : ((x.pile ∪ x.current.cells.toFinset).sunk
        ((x.pile ∪ x.current.cells.toFinset).completed c.width c.height)).Admits c.width c.height
          (c.entering x.next.shape) := by
      simpa [landed] using hover
    exact hadmits.free hsunk

/-- **A lock keeps the books: one shape more is drawn, or nothing but the end is noted.** -/
theorem balanced_lock {c : Config} {x : Position} {drawn : Nat} (rules : Rules) (supply : Supply)
    (hx : x.Balanced c ((supply.drawn : Int) - drawn)) (hlock : x.current.Lockable c)
    (hfree : ∀ cell ∈ x.current.cells, cell ∉ x.pile) :
    (x.lock c rules supply).position.Balanced c
      (((x.lock c rules supply).supply.drawn : Int) - drawn) := by
  by_cases habove : x.current.Above
  · rw [lock_of_above habove]
    exact ⟨hx.onBoard, hx.cells, fun h => absurd h.symm Bool.false_ne_true⟩
  · rw [lock_of_not_above habove]
    have hcells := Pile.mem_grid_of_inside habove (hlock.resolve_left habove)
    have hlanded := balanced_landed rules supply hx hcells hfree
    have hdrawn : ((x.landed c rules supply).supply.drawn : Int) - drawn
        = (supply.drawn : Int) - drawn + 1 := by
      simp only [landed, Supply.draw]
      omega
    rwa [hdrawn]

end Position

namespace CellGame

/-- The books of a game that began when `origin` shapes had been drawn. -/
def Balanced (c : Config) (origin : Nat) (g : CellGame) : Prop :=
  g.config = c ∧ ∃ x, g.position = some x ∧ x.Balanced c ((g.supply.drawn : Int) - origin)

/-- A new game has drawn two shapes, and there is nothing on the board. -/
theorem balanced_start {c : Config} {g : CellGame} (hconfig : g.config = c) :
    g.start.game.Balanced c g.supply.drawn := by
  refine ⟨hconfig, _, rfl, ?_, ?_, ?_⟩
  · exact Finset.empty_subset _
  · simp only [start, Supply.draw, Finset.card_empty]
    omega
  · exact fun _ cell _ => Finset.notMem_empty cell

theorem Step.balanced {c : Config} {origin : Nat} {g h : CellGame} (hstep : Step g h)
    (hbalanced : g.Balanced c origin) : h.Balanced c origin := by
  obtain ⟨rfl, x, hposition, hx⟩ := hbalanced
  refine ⟨hstep.config_eq, ?_⟩
  cases hstep with
  | kept lock => exact ⟨x, hposition, hx⟩
  | moved lock dx dy turns hy hover hadmits =>
      rw [hposition] at hy
      cases hy
      exact ⟨_, rfl, hx.onBoard, hx.cells, fun _ => hadmits.free hx.onBoard⟩
  | locked p hy hover hp hblocked hlock =>
      rw [hposition] at hy
      cases hy
      have hfree : ∀ cell ∈ p.cells, cell ∉ x.pile := by
        rcases hp with rfl | ⟨-, -, hadmits⟩
        · exact hx.free hover
        · exact hadmits.free hx.onBoard
      refine ⟨_, rfl, ?_⟩
      exact Position.balanced_lock (x := { x with current := p }) g.rules g.supply
        ⟨hx.onBoard, hx.cells, fun _ => hfree⟩ hlock hfree

end CellGame

namespace Session

/--
How many shapes had been drawn when the game in progress began, after some requests;
`first` is that number before them.
-/
def origin (s : Session) (first : Nat) : List Request → Nat
  | [] => first
  | .command .start :: rest => s.start.session.origin s.supply.drawn rest
  | r :: rest => (s.submit r).session.origin first rest

theorem origin_of_ne_start {s : Session} {first : Nat} {r : Request} (h : r ≠ .command .start)
    (rest : List Request) : s.origin first (r :: rest) = (s.submit r).session.origin first rest := by
  rw [origin]
  exact h

theorem balanced_after {s : Session} {first : Nat} (hs : s.Sound)
    (hbalanced : s.cellGame.Balanced s.config first) (requests : List Request) :
    (s.after requests).cellGame.Balanced s.config (s.origin first requests) := by
  induction requests generalizing s first with
  | nil => exact hbalanced
  | cons r rest ih =>
      have hconfig := submit_config hs r
      rw [after_cons, ← hconfig]
      by_cases hstart : r = .command .start
      · subst hstart
        refine ih (hs.submit _) ?_
        rw [submit_start, start_game]
        exact CellGame.balanced_start rfl
      · rw [origin_of_ne_start hstart]
        refine ih (hs.submit r) ?_
        rw [hconfig]
        exact (submit_step hs hstart).balanced hbalanced

/--
**The filled cells and the cleared rows account for every shape drawn but two.**  The
count of shapes runs from the last beginning of a game; and for as long as the game goes
on, its piece lies on no filled cell.
-/
theorem cells_conserved (s : Session) (requests : List Request) :
    ∃ snap, (s.start.session.after requests).snapshot = some snap ∧
      ((snap.boardIn s.config).count : Int) + s.config.width * snap.linesCleared
        = 4 * (((s.start.session.after requests).supply.drawn : Int)
            - s.start.session.origin s.supply.drawn requests - 2) ∧
      (snap.gameOver = false → ∀ cell ∈ snap.current.cells, cell ∉ (snap.boardIn s.config).pile) := by
  have hsound := sound_start s
  have hbegun : s.start.session.cellGame.Balanced s.start.session.config s.supply.drawn := by
    rw [start_game]
    exact CellGame.balanced_start rfl
  obtain ⟨-, x, hposition, hx⟩ := balanced_after hsound hbegun requests
  obtain ⟨snap, hsnap, rfl⟩ := Option.map_eq_some_iff.mp hposition
  have htidy := (hsound.after requests).tidy snap hsnap
  have hconfig : (s.start.session.after requests).config = s.config := after_config hsound requests
  rw [hconfig] at hx htidy
  refine ⟨snap, hsnap, ?_, hx.free⟩
  rw [← Board.card_pile htidy]
  exact hx.cells

end Session

end FallingBlocks
