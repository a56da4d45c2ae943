/-
What the table of turns says about every piece.

Everything that later proofs need of the table is a fact about a list of four offsets
that holds at all four rotations, or one about the form in which pieces enter.  The
table is looked at here and nowhere else.
-/
import Mathlib.Data.List.Nodup
import FallingBlocks.Config
import FallingBlocks.Piece

namespace FallingBlocks

namespace Shape

theorem rotation_lt (r : Int) : (r % quarterTurns).toNat < 4 := by
  unfold quarterTurns
  omega

/-- Whatever holds of the 28 lists of the table holds of a shape at any rotation. -/
theorem forall_offsets {P : List Offset → Prop} (h : ∀ s ∈ all, ∀ k < 4, P (s.turned k))
    (s : Shape) (r : Int) : P (s.offsets r) :=
  h s (mem_all s) _ (rotation_lt r)

theorem length_offsets (s : Shape) (r : Int) : (s.offsets r).length = 4 :=
  forall_offsets (P := fun l => l.length = 4) (by decide) s r

theorem nodup_offsets (s : Shape) (r : Int) : (s.offsets r).Nodup :=
  forall_offsets (P := List.Nodup) (by decide) s r

/-- Some cell lies in the row of the pivot or below it. -/
theorem exists_offset_nonneg (s : Shape) (r : Int) : ∃ o ∈ s.offsets r, 0 ≤ o.dy :=
  forall_offsets (P := fun l => ∃ o ∈ l, 0 ≤ o.dy) (by decide) s r

/-! ### Turns that make no difference -/

/-- `S` and `Z` look the same after two quarter turns. -/
theorem offsets_half_turn {s : Shape} (h : s = S ∨ s = Z) (r : Int) :
    s.offsets (r + 2) = s.offsets r := by
  have htable : ∀ k < 4, s.turned ((k + 2) % 4) = s.turned k := by
    rcases h with rfl | rfl
    · decide
    · decide
  have hturned : ((r + 2) % quarterTurns).toNat = ((r % quarterTurns).toNat + 2) % 4 := by
    unfold quarterTurns
    omega
  rw [offsets, hturned, htable _ (rotation_lt r), offsets]

/-- `O` looks the same however it is turned. -/
theorem offsets_O (r r' : Int) : O.offsets r = O.offsets r' := rfl

/-! ### The form in which pieces enter -/

/-- A piece that has not been turned covers its pivot. -/
theorem pivot_mem_offsets (s : Shape) : ⟨0, 0⟩ ∈ s.offsets 0 := by
  cases s <;> decide

/-- A piece that has not been turned is two rows high and at most four columns wide. -/
theorem offsets_zero_bounds (s : Shape) :
    ∀ o ∈ s.offsets 0, 0 ≤ o.dy ∧ o.dy ≤ 1 ∧ -1 ≤ o.dx ∧ o.dx ≤ 2 := by
  cases s <;> decide

/-- Where it reaches two columns to the right of its pivot, it reaches one to the left. -/
theorem left_mem_offsets (s : Shape) :
    ∀ o ∈ s.offsets 0, o.dx = 2 → ⟨-1, 0⟩ ∈ s.offsets 0 := by
  cases s <;> decide

end Shape

/-- A piece of some shape where pieces enter under a configuration. -/
def Config.entering (c : Config) (s : Shape) : Piece :=
  { shape := s, x := c.spawnX, y := c.spawnY, rotation := 0 }

namespace Piece

/-! ### Cells -/

theorem mem_cells {p : Piece} {c : Cell} :
    c ∈ p.cells ↔ ∃ o ∈ p.offsets, (⟨p.y + o.dy, p.x + o.dx⟩ : Cell) = c := by
  simp [cells]

theorem length_cells (p : Piece) : p.cells.length = 4 := by
  simp [cells, offsets, Shape.length_offsets]

/-- The four cells of a piece are four different places. -/
theorem nodup_cells (p : Piece) : p.cells.Nodup := by
  refine List.Nodup.map ?_ (Shape.nodup_offsets p.shape p.rotation)
  intro o o' h
  obtain ⟨dx, dy⟩ := o
  obtain ⟨dx', dy'⟩ := o'
  simp only [Cell.mk.injEq] at h
  simp only [Offset.mk.injEq]
  omega

/-- Some cell lies in the row of the pivot or below it. -/
theorem exists_cell_row_ge (p : Piece) : ∃ c ∈ p.cells, p.y ≤ c.row := by
  obtain ⟨o, ho, hdy⟩ := Shape.exists_offset_nonneg p.shape p.rotation
  exact ⟨⟨p.y + o.dy, p.x + o.dx⟩, mem_cells.mpr ⟨o, ho, rfl⟩, Int.le_add_of_nonneg_right hdy⟩

/-! ### Moving -/

@[simp] theorem moved_y (p : Piece) (dx dy turns : Int) : (p.moved dx dy turns).y = p.y + dy := rfl

/-- Two moves are one. -/
theorem moved_moved (p : Piece) (dx dy turns dx' dy' turns' : Int) :
    (p.moved dx dy turns).moved dx' dy' turns' = p.moved (dx + dx') (dy + dy') (turns + turns') := by
  simp only [moved, Piece.mk.injEq, true_and]
  refine ⟨by omega, by omega, ?_⟩
  rw [Int.emod_add_emod, Int.add_assoc]

/-- Reducing the rotation does not change how a moved piece looks. -/
theorem offsets_moved (p : Piece) (dx dy turns : Int) :
    (p.moved dx dy turns).offsets = p.shape.offsets (p.rotation + turns) := by
  simp only [offsets, moved, Shape.offsets, Int.emod_emod]

/-- A piece further down covers the same columns, further down. -/
theorem cells_lowered (p : Piece) (rows : Int) :
    (p.moved 0 rows 0).cells = p.cells.map fun c => ⟨c.row + rows, c.col⟩ := by
  have hoffsets : (p.moved 0 rows 0).offsets = p.offsets := by
    rw [offsets_moved, Int.add_zero, offsets]
  have hplace (o : Offset) : (⟨p.y + rows + o.dy, p.x + 0 + o.dx⟩ : Cell)
      = ⟨p.y + o.dy + rows, p.x + o.dx⟩ := by
    rw [Int.add_zero, Int.add_right_comm]
  rw [cells, hoffsets, cells, List.map_map]
  exact List.map_congr_left fun o _ => hplace o

/-- The rotation of a piece is one of the four of the table. -/
def Reduced (p : Piece) : Prop := 0 ≤ p.rotation ∧ p.rotation < Shape.quarterTurns

/-- A piece whose rotation is reduced keeps it on the way down. -/
theorem Reduced.lowered {p : Piece} (h : p.Reduced) (rows : Int) :
    p.moved 0 rows 0 = { p with y := p.y + rows } := by
  obtain ⟨hnonneg, hlt⟩ := h
  simp only [moved, Int.add_zero, Int.emod_eq_of_lt hnonneg hlt]

/-- Moving reduces the rotation. -/
theorem reduced_moved (p : Piece) (dx dy turns : Int) : (p.moved dx dy turns).Reduced := by
  simp only [Reduced, moved, Shape.quarterTurns]
  omega

theorem reduced_entering (c : Config) (s : Shape) : (c.entering s).Reduced := by
  simp [Reduced, Config.entering, Shape.quarterTurns]

/-- A piece that has just entered is not changed by moving it nowhere. -/
theorem moved_entering (c : Config) (s : Shape) : (c.entering s).moved 0 0 0 = c.entering s := by
  simp [moved, Config.entering, Shape.quarterTurns]

/-- A piece whose rotation is reduced is itself after four quarter turns, or none. -/
theorem Reduced.turned_back {p : Piece} (h : p.Reduced) {turns : Int}
    (hturns : turns % Shape.quarterTurns = 0) : p.moved 0 0 turns = p := by
  obtain ⟨hnonneg, hlt⟩ := h
  simp only [moved, Int.add_zero]
  rw [Int.add_emod, hturns, Int.add_zero, Int.emod_emod, Int.emod_eq_of_lt hnonneg hlt]

/-- Turned on the spot, a piece covers the same cells if its shape looks the same. -/
theorem cells_turned {p : Piece} {turns : Int}
    (h : p.shape.offsets (p.rotation + turns) = p.shape.offsets p.rotation) :
    (p.moved 0 0 turns).cells = p.cells := by
  rw [cells, offsets_moved, h]
  simp only [moved, Int.add_zero]
  rfl

/-! ### Where a piece lies -/

/-- Every cell lies on the board or above it. -/
def Inside (c : Config) (p : Piece) : Prop :=
  ∀ cell ∈ p.cells, 0 ≤ cell.col ∧ cell.col < c.width ∧ cell.row < c.height

instance (c : Config) (p : Piece) : Decidable (p.Inside c) :=
  inferInstanceAs (Decidable (∀ cell ∈ p.cells,
    0 ≤ cell.col ∧ cell.col < c.width ∧ cell.row < c.height))

/-- Some cell lies above the board. -/
def Above (p : Piece) : Prop :=
  ∃ cell ∈ p.cells, cell.row < 0

instance (p : Piece) : Decidable p.Above :=
  inferInstanceAs (Decidable (∃ cell ∈ p.cells, cell.row < 0))

/-- Whether locking a piece means anything: it reaches above the board or lies on it. -/
def Lockable (c : Config) (p : Piece) : Prop :=
  p.Above ∨ p.Inside c

/-! ### Pieces that have just entered -/

theorem mem_cells_entering {c : Config} {s : Shape} {cell : Cell} :
    cell ∈ (c.entering s).cells ↔
      ∃ o ∈ s.offsets 0, (⟨c.spawnY + o.dy, c.spawnX + o.dx⟩ : Cell) = cell := by
  rw [mem_cells]
  rfl

/--
A piece that has just entered and lies neither left of the board nor below it lies on
the board: boards on which it would hang over the right edge are so narrow that it
hangs over the left edge as well.
-/
theorem entering_col_lt {c : Config} {s : Shape} (hleft : ∀ cell ∈ (c.entering s).cells, 0 ≤ cell.col) :
    ∀ cell ∈ (c.entering s).cells, cell.col < c.width := by
  intro cell hcell
  obtain ⟨o, ho, rfl⟩ := mem_cells_entering.mp hcell
  obtain ⟨-, -, -, hdx⟩ := Shape.offsets_zero_bounds s o ho
  have hpivot : 0 ≤ c.spawnX + 0 :=
    hleft _ (mem_cells_entering.mpr ⟨_, Shape.pivot_mem_offsets s, rfl⟩)
  have hpos := c.width_pos
  simp only [Config.spawnX, spawnColumn] at hpivot ⊢
  by_cases h2 : o.dx = 2
  · have hedge : 0 ≤ c.spawnX + -1 :=
      hleft _ (mem_cells_entering.mpr ⟨_, Shape.left_mem_offsets s o ho h2, rfl⟩)
    simp only [Config.spawnX, spawnColumn] at hedge
    omega
  · omega

/-- A piece of which no cell is above the board, and one is left of it or below it. -/
theorem hangs_of_not_lockable {c : Config} {s : Shape} (h : ¬ (c.entering s).Lockable c) :
    (∀ cell ∈ (c.entering s).cells, 0 ≤ cell.row) ∧
      ∃ cell ∈ (c.entering s).cells, cell.col < 0 ∨ c.height ≤ cell.row := by
  obtain ⟨habove, hinside⟩ := not_or.mp h
  refine ⟨?_, ?_⟩
  · intro cell hcell
    by_contra hrow
    exact habove ⟨cell, hcell, Int.not_le.mp hrow⟩
  · by_contra hnone
    have hleft : ∀ cell ∈ (c.entering s).cells, 0 ≤ cell.col := by
      intro cell hcell
      by_contra hcol
      exact hnone ⟨cell, hcell, Or.inl (Int.not_le.mp hcol)⟩
    refine hinside fun cell hcell => ⟨hleft cell hcell, entering_col_lt hleft cell hcell, ?_⟩
    by_contra hrow
    exact hnone ⟨cell, hcell, Or.inr (Int.not_lt.mp hrow)⟩

/-- The pivot of a piece that has just entered is one of its cells. -/
theorem pivot_mem_cells_entering (c : Config) (s : Shape) :
    ⟨c.spawnY, c.spawnX⟩ ∈ (c.entering s).cells :=
  mem_cells_entering.mpr ⟨_, Shape.pivot_mem_offsets s, by simp⟩

end Piece

end FallingBlocks
