/-
Counting the filled cells of a board.

A board in order has as many one bits in its rows as there are cells in its pile: the
cells of row `i` are the one bits of mask `i`.
-/
import Mathlib.Algebra.BigOperators.Group.Finset.Basic
import FallingBlocks.Proofs.Board.Pile

namespace FallingBlocks.Board

/-- How many bits of the rows are one. -/
def count (b : Board) : Nat :=
  (b.rows.map fun m => Mask.card m.toNat).sum

/-- The cells of a row are the one bits of its mask. -/
theorem card_row {b : Board} (hb : b.WF) {i : Nat} (hlt : i < b.rows.length) :
    (b.pile.filter fun c => c.row.toNat = i).card = Mask.card (b.rows.getD i 0).toNat := by
  have hmem := getD_mem_rows hlt
  have hnonneg := hb.nonneg _ hmem
  have hrow : (b.pile.filter fun c => c.row.toNat = i)
      = ((Finset.range b.width.toNat).filter
          fun col => (b.rows.getD i 0).toNat.testBit col = true).image
            fun col : Nat => (⟨i, col⟩ : Cell) := by
    ext c
    rw [Finset.mem_filter, mem_pile, Finset.mem_image]
    constructor
    · rintro ⟨⟨⟨⟨hrow, -⟩, hleft, hright⟩, hhas⟩, rfl⟩
      refine ⟨c.col.toNat, ?_, ?_⟩
      · rw [Finset.mem_filter, Finset.mem_range, ← Mask.has_of_nonneg hnonneg]
        exact ⟨by omega, hhas⟩
      · cases c
        simp only [Cell.mk.injEq] at *
        omega
    · rintro ⟨col, hcol, rfl⟩
      rw [Finset.mem_filter, Finset.mem_range, ← Mask.has_of_nonneg hnonneg] at hcol
      refine ⟨⟨⟨⟨by simp, by simpa using hlt⟩, by simp, by simp only; omega⟩, ?_⟩, by simp⟩
      simpa using hcol.2
  rw [hrow, Finset.card_image_of_injective, Mask.card_eq (Mask.toNat_lt (hb.lt _ hmem))]
  intro col col' h
  simpa using h

/-- Summing along a list and summing over its positions. -/
theorem sum_getD (f : Mask → Nat) (l : List Mask) :
    ∑ i ∈ Finset.range l.length, f (l.getD i 0) = (l.map f).sum := by
  induction l with
  | nil => rfl
  | cons m rest ih =>
      rw [List.length_cons, Finset.sum_range_succ', List.map_cons, List.sum_cons, ← ih]
      simp only [List.getD_cons_succ, List.getD_cons_zero]
      exact Nat.add_comm _ _

/-- **The one bits of a board in order are the cells of its pile.** -/
theorem card_pile {b : Board} (hb : b.WF) : b.pile.card = b.count := by
  have hrows : (b.pile : Set Cell).MapsTo (fun c => c.row.toNat) (Finset.range b.rows.length) := by
    intro c hc
    obtain ⟨⟨⟨hrow, hlt⟩, -⟩, -⟩ := mem_pile.mp (Finset.mem_coe.mp hc)
    rw [Finset.mem_coe, Finset.mem_range]
    show c.row.toNat < b.rows.length
    omega
  rw [Finset.card_eq_sum_card_fiberwise hrows, count, ← sum_getD]
  refine Finset.sum_congr rfl fun i hi => ?_
  exact card_row hb (Finset.mem_range.mp hi)

end FallingBlocks.Board
