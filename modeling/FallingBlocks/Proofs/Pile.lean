/-
The pile: the filled cells of a board as a set of places.

This is the side that the row masks are measured against.  A pile knows neither rows
nor bits; whether it admits a piece, how far a piece falls onto it, which of its rows
are complete and how it sinks when they are taken out is said cell by cell.

The laws proved here are those of the sinking: cells of different rows stay in their
order, so no two cells meet, and what is missing afterwards are exactly the cells of
the rows taken out.
-/
import Mathlib.Data.Finset.Prod
import Mathlib.Data.Int.Interval
import Mathlib.Tactic.Common
import FallingBlocks.Proofs.Piece

namespace FallingBlocks

/-- The places that are filled. -/
abbrev Pile := Finset Cell

/-- The rows that a piece has cells in. -/
def Piece.rows (p : Piece) : Finset Int :=
  p.cells.toFinset.image Cell.row

theorem Piece.card_rows_le (p : Piece) : p.rows.card ≤ 4 := by
  calc p.rows.card ≤ p.cells.toFinset.card := Finset.card_image_le
    _ ≤ p.cells.length := p.cells.toFinset_card_le
    _ = 4 := p.length_cells

namespace Pile

/-- The rows or columns of a board, by number. -/
def span (n : Int) : Finset Int :=
  (Finset.range n.toNat).image Int.ofNat

/-- The places in some rows and columns. -/
def block (rows cols : Finset Int) : Pile :=
  (rows ×ˢ cols).image fun x => ⟨x.1, x.2⟩

/-- All places of a board. -/
def grid (width height : Int) : Pile :=
  block (span height) (span width)

theorem mem_span {n i : Int} : i ∈ span n ↔ 0 ≤ i ∧ i < n := by
  unfold span
  rw [Finset.mem_image]
  constructor
  · rintro ⟨k, hk, rfl⟩
    have hlt := Finset.mem_range.mp hk
    refine ⟨Int.natCast_nonneg k, ?_⟩
    show (k : Int) < n
    omega
  · rintro ⟨hpos, hlt⟩
    exact ⟨i.toNat, Finset.mem_range.mpr (by omega), Int.toNat_of_nonneg hpos⟩

theorem card_span (n : Int) : (span n).card = n.toNat := by
  unfold span
  rw [Finset.card_image_of_injective, Finset.card_range]
  intro k k' h
  exact Int.ofNat.inj h

theorem mem_block {rows cols : Finset Int} {c : Cell} :
    c ∈ block rows cols ↔ c.row ∈ rows ∧ c.col ∈ cols := by
  unfold block
  rw [Finset.mem_image]
  constructor
  · rintro ⟨x, hx, rfl⟩
    exact Finset.mem_product.mp hx
  · intro h
    exact ⟨(c.row, c.col), Finset.mem_product.mpr h, rfl⟩

theorem card_block (rows cols : Finset Int) :
    (block rows cols).card = rows.card * cols.card := by
  unfold block
  rw [Finset.card_image_of_injective, Finset.card_product]
  intro x y h
  simp only [Cell.mk.injEq] at h
  exact Prod.ext h.1 h.2

theorem mem_grid {width height : Int} {c : Cell} :
    c ∈ grid width height ↔ (0 ≤ c.row ∧ c.row < height) ∧ 0 ≤ c.col ∧ c.col < width := by
  rw [grid, mem_block, mem_span, mem_span]

/-- The cells of a piece that lies on the board and not above it are places of the board. -/
theorem mem_grid_of_inside {c : Config} {p : Piece} (habove : ¬ p.Above) (hinside : p.Inside c) :
    ∀ cell ∈ p.cells, cell ∈ grid c.width c.height := by
  intro cell hcell
  obtain ⟨hleft, hright, hfloor⟩ := hinside cell hcell
  refine mem_grid.mpr ⟨⟨?_, hfloor⟩, hleft, hright⟩
  by_contra hrow
  exact habove ⟨cell, hcell, Int.not_le.mp hrow⟩

/-! ### Pieces on a pile -/

/--
Whether a piece may be where it is: each of its cells lies on the board or above it, and
none that lies on the board is filled.
-/
def Admits (pile : Pile) (width height : Int) (p : Piece) : Prop :=
  ∀ c ∈ p.cells, 0 ≤ c.col ∧ c.col < width ∧ c.row < height ∧ (0 ≤ c.row → c ∉ pile)

instance (pile : Pile) (width height : Int) (p : Piece) : Decidable (pile.Admits width height p) :=
  inferInstanceAs (Decidable (∀ c ∈ p.cells,
    0 ≤ c.col ∧ c.col < width ∧ c.row < height ∧ (0 ≤ c.row → c ∉ pile)))

theorem Admits.inside {pile : Pile} {c : Config} {p : Piece} (h : pile.Admits c.width c.height p) :
    p.Inside c := by
  intro cell hcell
  obtain ⟨hleft, hright, hfloor, -⟩ := h cell hcell
  exact ⟨hleft, hright, hfloor⟩

/-- The pivot of a piece that is admitted lies above the floor. -/
theorem Admits.y_lt {pile : Pile} {width height : Int} {p : Piece}
    (h : pile.Admits width height p) : p.y < height := by
  obtain ⟨c, hc, hy⟩ := p.exists_cell_row_ge
  exact Int.lt_of_le_of_lt hy (h c hc).2.2.1

/--
Where a piece comes to rest that descends row by row for as long as it is admitted, and
how many rows that takes.
-/
def fall (pile : Pile) (width height : Int) (p : Piece) : Piece × Nat :=
  if h : pile.Admits width height (p.moved 0 1 0) then
    let lower := fall pile width height (p.moved 0 1 0)
    (lower.1, lower.2 + 1)
  else (p, 0)
termination_by (height - p.y).toNat
decreasing_by
  have hlt := h.y_lt
  rw [Piece.moved_y] at hlt ⊢
  omega

theorem fall_of_admits {pile : Pile} {width height : Int} {p : Piece}
    (h : pile.Admits width height (p.moved 0 1 0)) :
    pile.fall width height p =
      ((pile.fall width height (p.moved 0 1 0)).1,
        (pile.fall width height (p.moved 0 1 0)).2 + 1) := by
  rw [fall, dif_pos h]

theorem fall_of_blocked {pile : Pile} {width height : Int} {p : Piece}
    (h : ¬ pile.Admits width height (p.moved 0 1 0)) : pile.fall width height p = (p, 0) := by
  rw [fall, dif_neg h]

/-- A fallen piece cannot descend any further. -/
theorem fall_blocked (pile : Pile) (width height : Int) (p : Piece) :
    ¬ pile.Admits width height ((pile.fall width height p).1.moved 0 1 0) := by
  induction p using fall.induct pile width height with
  | case1 p h ih => rwa [fall_of_admits h]
  | case2 p h => rwa [fall_of_blocked h]

/-- Whatever each admitted row of the descent keeps holds of the fallen piece. -/
theorem fall_induction {pile : Pile} {width height : Int} {P : Piece → Prop}
    (hstep : ∀ p : Piece, P p → pile.Admits width height (p.moved 0 1 0) → P (p.moved 0 1 0))
    (p : Piece) (hp : P p) : P (pile.fall width height p).1 := by
  induction p using fall.induct pile width height with
  | case1 p h ih =>
      rw [fall_of_admits h]
      exact ih (hstep p hp h)
  | case2 p h => rwa [fall_of_blocked h]

/-- No cell of a piece falls further than to the floor. -/
theorem fall_le (pile : Pile) (width height : Int) (p : Piece) :
    ∀ c ∈ p.cells, ((pile.fall width height p).2 : Int) ≤ max 0 (height - 1 - c.row) := by
  induction p using fall.induct pile width height with
  | case1 p hadmits ih =>
      intro c hc
      have hlow : (⟨c.row + 1, c.col⟩ : Cell) ∈ (p.moved 0 1 0).cells := by
        rw [Piece.cells_lowered]
        exact List.mem_map_of_mem hc
      have hfloor : c.row + 1 < height := (hadmits _ hlow).2.2.1
      have hbound : ((pile.fall width height (p.moved 0 1 0)).2 : Int)
          ≤ max 0 (height - 1 - (c.row + 1)) := ih _ hlow
      rw [fall_of_admits hadmits, Nat.cast_add, Nat.cast_one]
      omega
  | case2 p hblocked =>
      intro c _
      rw [fall_of_blocked hblocked]
      exact Int.le_max_left 0 _

/-! ### Complete rows -/

/-- The rows of the board that are filled from edge to edge. -/
def completed (pile : Pile) (width height : Int) : Finset Int :=
  (span height).filter fun r => ∀ col ∈ span width, (⟨r, col⟩ : Cell) ∈ pile

/-- How many of the rows lie below row `r`. -/
def below (rows : Finset Int) (r : Int) : Nat :=
  (rows.filter (r < ·)).card

/-- The pile without some rows, each remaining cell lowered by the number of those below it. -/
def sunk (pile : Pile) (rows : Finset Int) : Pile :=
  (pile.filter fun c => c.row ∉ rows).image fun c => ⟨c.row + below rows c.row, c.col⟩

theorem mem_completed {pile : Pile} {width height r : Int} :
    r ∈ pile.completed width height ↔
      (0 ≤ r ∧ r < height) ∧ ∀ col, 0 ≤ col → col < width → (⟨r, col⟩ : Cell) ∈ pile := by
  unfold completed
  simp only [Finset.mem_filter, mem_span, and_imp]

theorem mem_sunk {pile : Pile} {rows : Finset Int} {c : Cell} :
    c ∈ pile.sunk rows ↔
      ∃ d ∈ pile, d.row ∉ rows ∧ (⟨d.row + below rows d.row, d.col⟩ : Cell) = c := by
  unfold sunk
  simp only [Finset.mem_image, Finset.mem_filter, and_assoc]

theorem sunk_empty (pile : Pile) : pile.sunk ∅ = pile := by
  ext c
  rw [mem_sunk]
  simp [below]

/-- Sinking keeps the order of the rows: a row that stays ends above every lower one that stays. -/
theorem sink_lt {rows : Finset Int} {r r' : Int} (hlt : r < r') (hstay : r' ∉ rows) :
    r + below rows r < r' + below rows r' := by
  have hsub : rows.filter (r < ·) ⊆ rows.filter (r' < ·) ∪ Finset.Ioo r r' := by
    intro t ht
    obtain ⟨hmem, hrt⟩ := Finset.mem_filter.mp ht
    rw [Finset.mem_union, Finset.mem_filter, Finset.mem_Ioo]
    by_cases h : t = r'
    · rw [h] at hmem
      exact absurd hmem hstay
    · by_cases hr' : r' < t
      · exact Or.inl ⟨hmem, hr'⟩
      · exact Or.inr ⟨hrt, by omega⟩
  have hcard : below rows r ≤ below rows r' + (Finset.Ioo r r').card :=
    (Finset.card_le_card hsub).trans (Finset.card_union_le _ _)
  rw [Int.card_Ioo] at hcard
  omega

/-- Two cells that stay do not meet. -/
theorem sink_injOn (pile : Pile) (rows : Finset Int) :
    Set.InjOn (fun c : Cell => (⟨c.row + below rows c.row, c.col⟩ : Cell))
      (pile.filter fun c => c.row ∉ rows) := by
  intro c hc d hd heq
  have hcrow : c.row ∉ rows := (Finset.mem_filter.mp hc).2
  have hdrow : d.row ∉ rows := (Finset.mem_filter.mp hd).2
  obtain ⟨hrow, hcol⟩ := Cell.mk.injEq .. ▸ heq
  have hsame : c.row = d.row := by
    rcases Int.lt_trichotomy c.row d.row with h | h | h
    · exact absurd hrow (Int.ne_of_lt (sink_lt h hdrow))
    · exact h
    · exact absurd hrow.symm (Int.ne_of_lt (sink_lt h hcrow))
  cases c
  cases d
  simp only [Cell.mk.injEq]
  exact ⟨hsame, hcol⟩

/-- The cells in complete rows are exactly those of a block. -/
theorem filter_completed {pile : Pile} {width height : Int} (hgrid : pile ⊆ grid width height) :
    (pile.filter fun c => c.row ∈ pile.completed width height)
      = block (pile.completed width height) (span width) := by
  ext c
  rw [Finset.mem_filter, mem_block, mem_span]
  constructor
  · rintro ⟨hc, hrow⟩
    exact ⟨hrow, (mem_grid.mp (hgrid hc)).2⟩
  · rintro ⟨hrow, hleft, hright⟩
    exact ⟨(mem_completed.mp hrow).2 c.col hleft hright, hrow⟩

/-- **Taking the complete rows out costs `width` cells a row, and sinking costs none.** -/
theorem card_sunk {pile : Pile} {width height : Int} (hgrid : pile ⊆ grid width height) :
    (pile.sunk (pile.completed width height)).card
      + (pile.completed width height).card * width.toNat = pile.card := by
  have hgone : (pile.filter fun c => c.row ∈ pile.completed width height).card
      = (pile.completed width height).card * width.toNat := by
    rw [filter_completed hgrid, card_block, card_span]
  have hstay : (pile.sunk (pile.completed width height)).card
      = (pile.filter fun c => c.row ∉ pile.completed width height).card :=
    Finset.card_image_of_injOn (sink_injOn _ _)
  have hsplit := Finset.card_filter_add_card_filter_not (s := pile)
    (fun c : Cell => c.row ∈ pile.completed width height)
  omega

/-- A pile on the board does not sink below the floor. -/
theorem sunk_subset_grid {pile : Pile} {width height : Int} (hgrid : pile ⊆ grid width height) :
    pile.sunk (pile.completed width height) ⊆ grid width height := by
  intro c hc
  obtain ⟨d, hd, hstay, rfl⟩ := mem_sunk.mp hc
  obtain ⟨⟨hrow, hfloor⟩, hcols⟩ := mem_grid.mp (hgrid hd)
  have hbelow : below (pile.completed width height) d.row ≤ (Finset.Ioo d.row height).card := by
    refine Finset.card_le_card fun r hr => ?_
    obtain ⟨hmem, hlt⟩ := Finset.mem_filter.mp hr
    exact Finset.mem_Ioo.mpr ⟨hlt, (mem_completed.mp hmem).1.2⟩
  rw [Int.card_Ioo] at hbelow
  exact mem_grid.mpr ⟨⟨by simp only; omega, by simp only; omega⟩, hcols⟩

/-- What has sunk has no complete row left: the rows that stayed are no more complete than before. -/
theorem completed_sunk {pile : Pile} {width height : Int} (hgrid : pile ⊆ grid width height)
    (hwidth : 0 < width) :
    (pile.sunk (pile.completed width height)).completed width height = ∅ := by
  refine Finset.eq_empty_of_forall_notMem fun r hr => ?_
  obtain ⟨-, hall⟩ := mem_completed.mp hr
  obtain ⟨first, hfirst, hstay, heq⟩ := mem_sunk.mp (hall 0 (Int.le_refl 0) hwidth)
  obtain ⟨hrow, -⟩ := Cell.mk.inj heq
  -- all cells of row `r` come from the one row that ends there, which was complete then
  refine hstay (mem_completed.mpr ⟨(mem_grid.mp (hgrid hfirst)).1, fun col hleft hright => ?_⟩)
  obtain ⟨d, hd, hstay', heq'⟩ := mem_sunk.mp (hall col hleft hright)
  obtain ⟨hrow', rfl⟩ := Cell.mk.inj heq'
  have hsame : d.row = first.row := by
    rcases Int.lt_trichotomy d.row first.row with h | h | h
    · have hlt := sink_lt h hstay
      omega
    · exact h
    · have hlt := sink_lt h hstay'
      omega
  rwa [← hsame]

/-- **On a board without a complete row, a piece completes rows of its own only.** -/
theorem completed_union_cells_subset {pile : Pile} {width height : Int}
    (hnone : pile.completed width height = ∅) (p : Piece) :
    (pile ∪ p.cells.toFinset).completed width height ⊆ p.rows := by
  intro r hr
  obtain ⟨hrange, hall⟩ := mem_completed.mp hr
  have hold : r ∉ pile.completed width height := by
    rw [hnone]
    exact Finset.notMem_empty r
  obtain ⟨col, hleft, hright, hfree⟩ : ∃ col, 0 ≤ col ∧ col < width ∧ (⟨r, col⟩ : Cell) ∉ pile := by
    by_contra hfull
    push Not at hfull
    exact hold (mem_completed.mpr ⟨hrange, hfull⟩)
  have hnew := (Finset.mem_union.mp (hall col hleft hright)).resolve_left hfree
  exact Finset.mem_image.mpr ⟨_, hnew, rfl⟩

/-- A piece completes at most as many rows as it has cells. -/
theorem card_completed_union_cells_le {pile : Pile} {width height : Int}
    (hnone : pile.completed width height = ∅) (p : Piece) :
    ((pile ∪ p.cells.toFinset).completed width height).card ≤ 4 :=
  (Finset.card_le_card (completed_union_cells_subset hnone p)).trans p.card_rows_le

/-- A piece that overlaps no filled cell adds four. -/
theorem card_union_cells {pile : Pile} {p : Piece} (hfree : ∀ c ∈ p.cells, c ∉ pile) :
    (pile ∪ p.cells.toFinset).card = pile.card + 4 := by
  have hdisjoint : Disjoint pile p.cells.toFinset := by
    rw [Finset.disjoint_right]
    intro c hc
    exact hfree c (List.mem_toFinset.mp hc)
  rw [Finset.card_union_of_disjoint hdisjoint, List.toFinset_card_of_nodup p.nodup_cells,
    p.length_cells]

end Pile

end FallingBlocks
