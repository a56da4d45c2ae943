/-
The first lock on a wide board.

Pieces enter in the middle, and on 66 columns or more the middle is beyond the columns of a
word.  So whatever shapes an episode draws, the first piece that comes to rest makes a mask
that is no word, and the step that brought it down is taken but not told of.
-/
import FallingBlocks.Proofs.CellGame.Merging
import FallingBlocks.Proofs.Environment

namespace FallingBlocks

/-! ### The first piece on the pile -/

/-- A row that leaves the first column free is not complete. -/
theorem Pile.completed_of_first_free {pile : Pile} {width height : Int} (hwidth : 0 < width)
    (h : ∀ c ∈ pile, c.col ≠ 0) : pile.completed width height = ∅ := by
  refine Finset.eq_empty_of_forall_notMem fun r hr => ?_
  have hfirst := (mem_completed.mp hr).2 0 (Int.le_refl 0) hwidth
  exact h _ hfirst rfl

/-- The cells of a piece that has fallen from where it entered are those of its form, lower down. -/
theorem Piece.mem_cells_fallen {c : Config} {shape : Shape} {rows : Nat} {cell : Cell} :
    cell ∈ ((c.entering shape).moved 0 rows 0).cells ↔
      ∃ o ∈ shape.offsets 0, (⟨c.spawnY + rows + o.dy, c.spawnX + o.dx⟩ : Cell) = cell := by
  rw [mem_cells]
  simp [offsets, moved, Config.entering, Shape.offsets]

theorem Position.fall_entering {c : Config} {x : Position} {shape : Shape}
    (hx : x.current = c.entering shape) :
    ∃ rows : Nat, (x.fall c).1.current = (c.entering shape).moved 0 rows 0 := by
  refine Pile.fall_induction (P := fun p => ∃ rows : Nat, p = (c.entering shape).moved 0 rows 0)
    ?_ x.current ⟨0, ?_⟩
  · rintro _ ⟨rows, rfl⟩ -
    exact ⟨rows + 1, Piece.moved_moved _ _ _ _ _ _ _⟩
  · rw [hx]
    exact (Piece.moved_entering c shape).symm

namespace CellGame

/-- The first piece of a game, dropped at once, lies on the board just as it fell. -/
theorem pile_of_first_drop (g : CellGame) (hwidth : 4 ≤ g.config.width)
    (hrow : 0 ≤ g.config.spawnY) (hedge : 2 ≤ g.config.spawnX) :
    ∃ (y : Position) (rows : Nat), (g.start.game.step (.ok .hardDrop)).game.position = some y ∧
      y.pile = ((g.config.entering g.supply.draw.1).moved 0 rows 0).cells.toFinset := by
  obtain ⟨x, hx, hpile, hcurrent, hover⟩ : ∃ x, g.start.game.position = some x ∧ x.pile = ∅ ∧
      x.current = g.config.entering g.supply.draw.1 ∧ x.gameOver = false := ⟨_, rfl, rfl, rfl, rfl⟩
  obtain ⟨rows, hfallen⟩ := Position.fall_entering hcurrent
  set y := (x.fall g.config).1 with hy
  have hlands : ¬ y.current.Above := by
    rintro ⟨cell, hcell, habove⟩
    rw [hfallen] at hcell
    obtain ⟨o, ho, rfl⟩ := Piece.mem_cells_fallen.mp hcell
    have hbounds := Shape.offsets_zero_bounds _ o ho
    simp only at habove
    omega
  have hmerged : y.pile ∪ y.current.cells.toFinset = y.current.cells.toFinset := by
    have hempty : y.pile = ∅ := hpile
    rw [hempty, Finset.empty_union]
  have hfree : ∀ cell ∈ y.current.cells.toFinset, cell.col ≠ 0 := by
    intro cell hcell
    rw [List.mem_toFinset, hfallen] at hcell
    obtain ⟨o, ho, rfl⟩ := Piece.mem_cells_fallen.mp hcell
    have hbounds := Shape.offsets_zero_bounds _ o ho
    simp only
    omega
  refine ⟨(y.lock g.config g.rules g.start.game.supply).position, rows, ?_, ?_⟩
  · rw [step_action hx hover, andThen_game (observe_game _ _)]
    show (hardDrop { g.start.game with lastLock := none }).game.position = _
    rw [hardDrop, act_running (g := { g.start.game with lastLock := none }) hx hover]
    rfl
  · rw [Position.lock_of_not_above hlands, Position.landed]
    simp only [hmerged]
    rw [Pile.completed_of_first_free (by omega) hfree, Pile.sunk_empty, hfallen]

end CellGame

namespace Session

variable {s : Session} {snap : Snapshot}

/-- What the first drop leaves on the board is the piece as it fell. -/
theorem pile_of_first_drop (hplayable : s.config.Playable) (hwidth : 4 ≤ s.config.width)
    (hrow : 0 ≤ s.config.spawnY) (hedge : 2 ≤ s.config.spawnX)
    (hsnap : (s.start.session.step (.ok .hardDrop)).session.snapshot = some snap) :
    ∃ (shape : Shape) (rows : Nat), (snap.boardIn s.config).pile =
      ((s.config.entering shape).moved 0 rows 0).cells.toFinset := by
  have hsteady : s.start.session.cellGame.Steady := by
    rw [start_game]
    exact CellGame.steady_start hplayable
  have hmirrors := submit_mirrors (r := .step (.ok .hardDrop)) (sound_start s)
    (submit_ne_fault (sound_start s) hsteady)
  obtain ⟨y, rows, hy, hpile⟩ := CellGame.pile_of_first_drop s.cellGame hwidth hrow hedge
  have hgame : (s.start.session.step (.ok .hardDrop)).session.cellGame.position = some y := by
    rw [← hy, ← start_game]
    exact congrArg CellGame.position hmirrors.game
  have hconfig : (s.start.session.step (.ok .hardDrop)).session.config = s.config :=
    submit_config (sound_start s) (.step (.ok .hardDrop))
  rw [cellGame_position hsnap, hconfig] at hgame
  exact ⟨_, rows, (congrArg Position.pile (Option.some.inj hgame)).trans hpile⟩

/-- On 66 columns or more the first drop makes a mask that is no word. -/
theorem not_words_of_first_drop (hwidth : 66 ≤ s.config.width) (hspawn : 0 ≤ s.config.spawnY)
    (hrow : s.config.spawnY + 1 < s.config.height)
    (hsnap : (s.start.session.step (.ok .hardDrop)).session.snapshot = some snap) :
    ¬ ∀ m ∈ snap.board, Board.IsWord m := by
  intro hwords
  have hmiddle : 32 ≤ s.config.spawnX := by
    simp only [Config.spawnX, spawnColumn]
    omega
  obtain ⟨shape, rows, hpile⟩ := pile_of_first_drop (Or.inr ⟨by omega, hrow⟩) (by omega) hspawn
    (by omega) hsnap
  -- the pivot of the piece is among the filled cells
  obtain ⟨cell, hcell, hcol⟩ : ∃ cell ∈ (snap.boardIn s.config).pile, 32 ≤ cell.col := by
    rw [hpile]
    refine ⟨⟨s.config.spawnY + rows + 0, s.config.spawnX + 0⟩, List.mem_toFinset.mpr ?_, ?_⟩
    · exact Piece.mem_cells_fallen.mpr ⟨⟨0, 0⟩, Shape.pivot_mem_offsets shape, rfl⟩
    · simp only
      omega
  obtain ⟨⟨⟨hnonneg, hlength⟩, -, -⟩, hfilled⟩ := Board.mem_pile.mp hcell
  refine Board.not_isWord_of_has (by omega) hfilled (hwords _ ?_)
  have hin : cell.row.toNat < (snap.boardIn s.config).rows.length := by omega
  rw [List.getD_eq_getElem?_getD, List.getElem?_eq_getElem hin]
  exact List.getElem_mem hin

end Session

namespace Environment

/--
**On 66 columns or more no episode gets over its first lock:** whatever shapes are drawn, the
step that drops the first piece has no answer.
-/
theorem first_drop_unanswered (e : Environment) (hwidth : 66 ≤ e.config.width)
    (hspawn : 0 ≤ e.config.spawnY) (hrow : e.config.spawnY + 1 < e.config.height) (draw : Int) :
    ¬ ∃ answer, ((e.reset draw).environment.step (.ok .hardDrop)).answer = .ok answer := by
  have hplayable : e.config.Playable := Or.inr ⟨by omega, hrow⟩
  obtain ⟨before, r, hbefore, hreport, hafter, -⟩ :=
    Session.exists_report (s := e.opening draw) hplayable [] .hardDrop
  have hsession : (e.reset draw).environment.session = (e.opening draw).stepped [] :=
    (episode_stepped e draw []).1
  rw [← hsession] at hbefore hreport
  rw [step_answer hbefore hreport, exists_answer_iff]
  rintro ⟨-, hwords⟩
  exact Session.not_words_of_first_drop hwidth hspawn hrow hafter hwords

/-- The least wide of these boards, with room for every piece. -/
theorem first_drop_unanswered_least :
    let e := create { width := 66, height := 4 } {} 10000 0
    (4 ≤ e.config.width ∧ e.config.spawnY + 1 < e.config.height) ∧
      ¬ ∃ answer, ((e.reset 0).environment.step (.ok .hardDrop)).answer = .ok answer :=
  ⟨by decide, first_drop_unanswered _ (by decide) (by decide) (by decide) 0⟩

end Environment

end FallingBlocks
