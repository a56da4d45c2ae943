/-
How far a piece drops, told column by column.

The drop lowers the whole piece row by row and asks for room each time.  Looked at cell by
cell it is simpler: each cell has so many vacant places below it, and the piece drops as far
as the cell that has the fewest.  This holds wherever the piece is.  It may reach above the
board or overlap what is filled, since only places below its cells are asked for, and a
piece's own cells are not among what is filled.
-/
import FallingBlocks.Proofs.Well

namespace FallingBlocks

/-- The place one row further down. -/
def Cell.below (c : Cell) : Cell :=
  ⟨c.row + 1, c.col⟩

namespace Board

/-! ### Places below a cell -/

/-- Whether a place lies above the board or is not filled. -/
def vacant (b : Board) (c : Cell) : Bool :=
  decide (c.row < 0) ||
    match b.occupied c with
    | .ok filled => !filled
    | .error _ => false

/-- The places below a cell, down to the floor. -/
def under (b : Board) (c : Cell) : List Cell :=
  (List.range (b.height - 1 - c.row).toNat).map fun k : Nat => ⟨c.row + 1 + k, c.col⟩

/-- How many places below a cell are vacant before one that is not, or before the floor. -/
def clearance (b : Board) (c : Cell) : Nat :=
  ((b.under c).takeWhile b.vacant).length

/-- Whether the floor or a filled place is directly below a cell. -/
def Supports (b : Board) (c : Cell) : Prop :=
  c.row + 1 = b.height ∨ 0 ≤ c.row + 1 ∧ b.occupied c.below = .ok true

/-- Whether a cell can go one row further down. -/
def Clear (b : Board) (c : Cell) : Prop :=
  c.row + 1 < b.height ∧ b.vacant c.below = true

variable {b : Board} {c : Cell}

theorem under_of_lt (h : c.row + 1 < b.height) : b.under c = c.below :: b.under c.below := by
  have hrows : (b.height - 1 - c.row).toNat = (b.height - 1 - (c.row + 1)).toNat + 1 := by omega
  simp only [under, Cell.below, hrows, List.range_succ_eq_map, List.map_cons, List.map_map]
  refine congrArg₂ List.cons (by simp) (List.map_congr_left fun k _ => ?_)
  simp only [Function.comp_apply, Cell.mk.injEq, and_true]
  omega

theorem under_of_floor (h : b.height ≤ c.row + 1) : b.under c = [] := by
  have hrows : (b.height - 1 - c.row).toNat = 0 := by omega
  rw [under, hrows]
  rfl

theorem clearance_of_clear (h : b.Clear c) : b.clearance c = b.clearance c.below + 1 := by
  rw [clearance, under_of_lt h.1, List.takeWhile_cons_of_pos h.2]
  rfl

theorem clearance_of_not_clear (h : ¬ b.Clear c) : b.clearance c = 0 := by
  by_cases hlt : c.row + 1 < b.height
  · rw [clearance, under_of_lt hlt, List.takeWhile_cons_of_neg fun hvacant => h ⟨hlt, hvacant⟩]
    rfl
  · rw [clearance, under_of_floor (Int.not_lt.mp hlt)]
    rfl

/-! ### Clear cells and the pile -/

/-- A place in one of the columns, on the board or above it. -/
def InBounds (b : Board) (c : Cell) : Prop :=
  0 ≤ c.col ∧ c.col < b.width ∧ c.row < b.height

theorem vacant_iff (hsize : (b.rows.length : Int) = b.height) (hc : b.InBounds c) :
    b.vacant c = true ↔ (0 ≤ c.row → c ∉ b.pile) := by
  obtain ⟨hleft, hright, hfloor⟩ := hc
  by_cases habove : c.row < 0
  · simp only [vacant, decide_eq_true habove, Bool.true_or, true_iff]
    intro hrow
    exact absurd habove (Int.not_lt.mpr hrow)
  · have hrow : 0 ≤ c.row := Int.not_lt.mp habove
    rw [vacant, occupied_eq hrow (by rw [hsize]; exact hfloor) hleft hright]
    simp [habove, hrow]

/-- A piece has room one row further down exactly if each of its cells is clear. -/
theorem admits_lowered_iff (hsize : (b.rows.length : Int) = b.height) {p : Piece}
    (hp : ∀ c ∈ p.cells, b.InBounds c) :
    b.pile.Admits b.width b.height (p.moved 0 1 0) ↔ ∀ c ∈ p.cells, b.Clear c := by
  have hcell (c : Cell) (hc : c ∈ p.cells) :
      (0 ≤ c.below.col ∧ c.below.col < b.width ∧ c.below.row < b.height ∧
        (0 ≤ c.below.row → c.below ∉ b.pile)) ↔ b.Clear c := by
    obtain ⟨hleft, hright, -⟩ := hp c hc
    have hbounds (hfloor : c.row + 1 < b.height) : b.InBounds c.below := ⟨hleft, hright, hfloor⟩
    constructor
    · rintro ⟨-, -, hfloor, hfree⟩
      exact ⟨hfloor, (vacant_iff hsize (hbounds hfloor)).mpr hfree⟩
    · rintro ⟨hfloor, hvacant⟩
      exact ⟨hleft, hright, hfloor, (vacant_iff hsize (hbounds hfloor)).mp hvacant⟩
  rw [Pile.Admits, Piece.cells_lowered, List.forall_mem_map]
  exact forall₂_congr hcell

/-- What is in the way of a cell that is not clear supports it. -/
theorem supports_of_not_clear (hsize : (b.rows.length : Int) = b.height) (hc : b.InBounds c)
    (h : ¬ b.Clear c) : b.Supports c := by
  obtain ⟨hleft, hright, hfloor⟩ := hc
  by_cases hlt : c.row + 1 < b.height
  · have hbelow : b.InBounds c.below := ⟨hleft, hright, hlt⟩
    have hfilled := mt (vacant_iff hsize hbelow).mpr fun hvacant => h ⟨hlt, hvacant⟩
    obtain ⟨hrow, hmem⟩ := Classical.not_imp.mp hfilled
    refine Or.inr ⟨hrow, ?_⟩
    rw [occupied_eq hrow (by rw [hsize]; exact hlt) hleft hright, decide_eq_true (not_not.mp hmem)]
  · exact Or.inl (by omega)

end Board

/-! ### The fall of a piece -/

/-- A piece that is admitted has its cells on the board or above it. -/
theorem Pile.Admits.inBounds {b : Board} {p : Piece} (h : b.pile.Admits b.width b.height p) :
    ∀ c ∈ p.cells, b.InBounds c := by
  intro c hc
  obtain ⟨hleft, hright, hfloor, -⟩ := h c hc
  exact ⟨hleft, hright, hfloor⟩

namespace Board

variable {b : Board} {p : Piece}

/-- The rows that a piece falls are the clearance of one of its cells, and no cell has less. -/
theorem fall_clearance (hsize : (b.rows.length : Int) = b.height)
    (hp : ∀ c ∈ p.cells, b.InBounds c) :
    (∃ c ∈ p.cells, b.clearance c = (b.pile.fall b.width b.height p).2) ∧
      ∀ c ∈ p.cells, (b.pile.fall b.width b.height p).2 ≤ b.clearance c := by
  induction p using Pile.fall.induct b.pile b.width b.height with
  | case1 p hadmits ih =>
      -- every cell is clear, so its clearance is one more than that of the place below
      have hclear := (admits_lowered_iff hsize hp).mp hadmits
      have hlower := ih hadmits.inBounds
      rw [Piece.cells_lowered, List.forall_mem_map] at hlower
      obtain ⟨⟨d, hd, hleast⟩, hbound⟩ := hlower
      obtain ⟨c, hc, rfl⟩ := List.mem_map.mp hd
      rw [Pile.fall_of_admits hadmits]
      refine ⟨⟨c, hc, ?_⟩, fun e he => ?_⟩
      · rw [clearance_of_clear (hclear c hc)]
        exact congrArg (· + 1) hleast
      · rw [clearance_of_clear (hclear e he)]
        exact Nat.succ_le_succ (hbound e he)
  | case2 p hblocked =>
      obtain ⟨c, hc, hobstructed⟩ : ∃ c ∈ p.cells, ¬ b.Clear c := by
        by_contra hnone
        push Not at hnone
        exact hblocked ((admits_lowered_iff hsize hp).mpr hnone)
      rw [Pile.fall_of_blocked hblocked]
      exact ⟨⟨c, hc, clearance_of_not_clear hobstructed⟩, fun e _ => Nat.zero_le _⟩

/-- A fallen piece is the piece so many rows further down. -/
theorem fall_lowered (hp : p.Reduced) :
    (b.pile.fall b.width b.height p).1
      = { p with y := p.y + (b.pile.fall b.width b.height p).2 } := by
  induction p using Pile.fall.induct b.pile b.width b.height with
  | case1 p hadmits ih =>
      rw [Pile.fall_of_admits hadmits, ih (p.reduced_moved 0 1 0), hp.lowered]
      simp only [Piece.mk.injEq, true_and, and_true]
      omega
  | case2 p hblocked =>
      rw [Pile.fall_of_blocked hblocked]
      simp

/-- A piece falls until something supports it. -/
theorem fall_supported (hsize : (b.rows.length : Int) = b.height)
    (hp : ∀ c ∈ p.cells, b.InBounds c) :
    ∃ c ∈ (b.pile.fall b.width b.height p).1.cells, b.Supports c := by
  have hbounds : ∀ c ∈ (b.pile.fall b.width b.height p).1.cells, b.InBounds c :=
    Pile.fall_induction (P := fun p => ∀ c ∈ p.cells, b.InBounds c) (fun _ _ h => h.inBounds) p hp
  have hblocked := mt (admits_lowered_iff hsize hbounds).mpr
    (b.pile.fall_blocked b.width b.height p)
  push Not at hblocked
  obtain ⟨c, hc, hobstructed⟩ := hblocked
  exact ⟨c, hc, supports_of_not_clear hsize (hbounds c hc) hobstructed⟩

end Board

/-! ### The drop -/

namespace Well

/--
**A piece drops by the least clearance of its four cells**, with nothing else about the
piece or the well changed, and then rests on the floor or on something filled.
-/
theorem drop_clearance {w : Well} {p : Piece} (hboard : w.board.WF) (hp : w.piece = some p)
    (hrotation : p.Reduced)
    (hcells : ∀ c ∈ p.cells, 0 ≤ c.col ∧ c.col < w.board.width ∧ c.row < w.board.height) :
    ∃ n : Nat, w.drop = ({ w with piece := some { p with y := p.y + n } }, .ok n) ∧
      (p.cells.map w.board.clearance).min? = some n ∧
      ∃ c ∈ { p with y := p.y + n }.cells, w.board.Supports c := by
  have hsize := hboard.size
  obtain ⟨⟨c, hc, hleast⟩, hbound⟩ := Board.fall_clearance hsize hcells
  have hsupported := Board.fall_supported hsize hcells
  rw [Board.fall_lowered hrotation] at hsupported
  refine ⟨(w.board.pile.fall w.board.width w.board.height p).2, ?_, ?_, hsupported⟩
  · rw [drop_eq hsize hp, Board.fall_lowered hrotation]
  · refine List.min?_eq_some_iff.mpr ⟨hleast ▸ List.mem_map_of_mem hc, ?_⟩
    rw [List.forall_mem_map]
    exact hbound

/-- A bar above the board drops onto what juts out below it, and not to the floor under that. -/
theorem drop_clearance_overhang :
    let w : Well :=
      { board := { width := 4, height := 6, rows := [0, 0, 2, 0, 0, 12] }
        piece := some { shape := .I, x := 1, y := -1 } }
    w.cells.map w.board.clearance = [6, 2, 5, 5] ∧
      w.drop = ({ w with piece := some { shape := .I, x := 1, y := 1 } }, .ok 2) := by
  intro w
  have hboard : w.board.WF := ⟨by decide, by decide, by decide⟩
  obtain ⟨n, hdrop, hleast, -⟩ := drop_clearance hboard rfl ⟨by decide, by decide⟩ (by decide)
  have hclearances : w.cells.map w.board.clearance = [6, 2, 5, 5] := by decide
  have hmin : (w.cells.map w.board.clearance).min? = some n := hleast
  rw [hclearances] at hmin
  cases hmin
  exact ⟨hclearances, hdrop⟩

end Well

end FallingBlocks
