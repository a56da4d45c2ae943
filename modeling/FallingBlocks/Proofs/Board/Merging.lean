/-
Merging is a union.

Cells are merged one after the other, each by setting a bit of one row.  What comes out is
known from the cells alone: those that were filled and those that are listed.  Neither the
order of the list nor how often it names a cell is left in the board, because a board in
order is no more than its size and its filled cells (`WF.ext`).
-/
import FallingBlocks.Proofs.Board.Counting

namespace FallingBlocks.Board

variable {b : Board} {cells cells' : List Cell}

/-! ### Single cells after a merge -/

/-- Testing a cell asks the pile, also where no column can be tested: there nothing is filled. -/
theorem occupied_iff_mem_pile (hb : b.WF) {c : Cell} (hrow : 0 ≤ c.row) (hlt : c.row < b.height) :
    b.occupied c = .ok true ↔ c ∈ b.pile := by
  by_cases hcol : 0 ≤ c.col
  · rw [occupied_of_wf hb hrow hlt hcol, Except.ok.injEq, decide_eq_true_iff]
  · have hindex : b.index? c.row = some c.row.toNat := by
      refine index?_eq hrow ?_
      rw [hb.size]
      exact hlt
    have hfails : b.occupied c = .error .negativeShift := by
      simp only [occupied, hindex, if_pos (Int.not_le.mp hcol)]
    constructor
    · intro h
      cases hfails.symm.trans h
    · intro h
      exact absurd (mem_pile.mp h).1.2.1 hcol

/-- The listed cells that were free are those that a union adds. -/
theorem filter_free_eq_sdiff (hb : b.WF) (hcells : ∀ c ∈ cells, c ∈ Pile.grid b.width b.height) :
    (cells.toFinset.filter fun c => b.occupied c = .ok false) = cells.toFinset \ b.pile := by
  ext c
  rw [Finset.mem_filter, Finset.mem_sdiff, List.mem_toFinset]
  refine and_congr_right fun hc => ?_
  obtain ⟨⟨hrow, hlt⟩, hcol, -⟩ := Pile.mem_grid.mp (hcells c hc)
  rw [occupied_of_wf hb hrow hlt hcol, Except.ok.injEq, decide_eq_false_iff_not]

/-! ### Lists that name the same cells -/

/-- **A merge is told by the cells that its list names.** -/
theorem merge_congr (hb : b.WF) (hcells : ∀ c ∈ cells, c ∈ Pile.grid b.width b.height)
    (hsame : ∀ c, c ∈ cells' ↔ c ∈ cells) : b.merge cells' = b.merge cells := by
  obtain ⟨m, hmerge, hm, hwidth, hheight, hpile⟩ := merge_eq hb hcells
  obtain ⟨m', hmerge', hm', hwidth', hheight', hpile'⟩ :=
    merge_eq hb fun c hc => hcells c ((hsame c).mp hc)
  have hlisted : cells'.toFinset = cells.toFinset := by
    ext c
    rw [List.mem_toFinset, List.mem_toFinset, hsame]
  have hboards : m' = m := by
    refine hm'.ext hm (hwidth'.trans hwidth.symm) (hheight'.trans hheight.symm) ?_
    rw [hpile', hpile, hlisted]
  rw [hmerge', hmerge, hboards]

/-- Cells that are filled already make no difference. -/
theorem merge_of_filled (hb : b.WF) (hcells : ∀ c ∈ cells, c ∈ b.pile) :
    b.merge cells = (b, .ok ()) := by
  have hgrid : ∀ c ∈ cells, c ∈ Pile.grid b.width b.height := by
    intro c hc
    rw [← hb.size]
    exact Pile.mem_grid.mpr (mem_pile.mp (hcells c hc)).1
  obtain ⟨m, hmerge, hm, hwidth, hheight, hpile⟩ := merge_eq hb hgrid
  have hunion : b.pile ∪ cells.toFinset = b.pile := by
    rw [Finset.union_eq_left]
    intro c hc
    exact hcells c (List.mem_toFinset.mp hc)
  rw [hmerge, hm.ext hb hwidth hheight (hpile.trans hunion)]

/--
**Merging cells of a board in order is the union of its filled cells with those cells.**  It
is never refused.  A cell is filled afterwards if it was before or is listed; the board has
as many rows as before and no bit outside the width; it gains as many one bits as different
free cells are listed.  Any order of the list gives the same board, and merging it once
more gives that board again.
-/
theorem merge_unites (hb : b.WF)
    (hcells : ∀ c ∈ cells, (0 ≤ c.row ∧ c.row < b.height) ∧ 0 ≤ c.col ∧ c.col < b.width) :
    ∃ m, b.merge cells = (m, .ok ()) ∧
      (∀ c : Cell, 0 ≤ c.row → c.row < b.height →
        (m.occupied c = .ok true ↔ b.occupied c = .ok true ∨ c ∈ cells) ∧
        (0 ≤ c.col → ∃ filled, m.occupied c = .ok filled)) ∧
      (m.width = b.width ∧ m.height = b.height ∧ m.rows.length = b.rows.length ∧
        ∀ mask ∈ m.rows, 0 ≤ mask ∧ mask < 2 ^ b.width.toNat) ∧
      m.count = b.count + (cells.toFinset.filter fun c => b.occupied c = .ok false).card ∧
      (∀ cells', cells'.Perm cells → b.merge cells' = (m, .ok ())) ∧
      m.merge cells = (m, .ok ()) := by
  have hgrid : ∀ c ∈ cells, c ∈ Pile.grid b.width b.height :=
    fun c hc => Pile.mem_grid.mpr (hcells c hc)
  obtain ⟨m, hmerge, hm, hwidth, hheight, hpile⟩ := merge_eq hb hgrid
  refine ⟨m, hmerge, ?_, ⟨hwidth, hheight, ?_, ?_⟩, ?_, ?_, ?_⟩
  · intro c hrow hlt
    have hlt' : c.row < m.height := by rw [hheight]; exact hlt
    constructor
    · rw [occupied_iff_mem_pile hm hrow hlt', occupied_iff_mem_pile hb hrow hlt, hpile,
        Finset.mem_union, List.mem_toFinset]
    · intro hcol
      exact ⟨_, occupied_of_wf hm hrow hlt' hcol⟩
  · have hsize := hm.size.trans (hheight.trans hb.size.symm)
    omega
  · intro mask hmask
    rw [← hwidth]
    exact ⟨hm.nonneg mask hmask, hm.lt mask hmask⟩
  · rw [filter_free_eq_sdiff hb hgrid, ← card_pile hm, ← card_pile hb, hpile, Finset.union_comm,
      ← Finset.card_sdiff_add_card, Nat.add_comm]
  · intro cells' hperm
    rw [merge_congr hb hgrid fun c => hperm.mem_iff, hmerge]
  · refine merge_of_filled hm fun c hc => ?_
    rw [hpile, Finset.mem_union, List.mem_toFinset]
    exact Or.inr hc

/-- One cell of three is free; it is named twice, between two that are filled. -/
theorem merge_unites_repeated :
    let b : Board := ⟨3, 2, [1, 6]⟩
    let cells : List Cell := [⟨1, 1⟩, ⟨0, 2⟩, ⟨0, 0⟩, ⟨0, 2⟩]
    ∃ m, b.merge cells = (m, .ok ()) ∧ m.count = b.count + 1 ∧
      b.merge cells.reverse = (m, .ok ()) ∧ m.merge cells = (m, .ok ()) ∧ m.rows = [5, 6] := by
  intro b cells
  have hb : b.WF := ⟨rfl, by decide, by decide⟩
  obtain ⟨m, hmerge, -, -, hcount, hperm, hagain⟩ :=
    merge_unites (b := b) hb (by decide : ∀ c ∈ cells, _)
  have hrows : (b.merge cells).1.rows = [5, 6] := by decide
  rw [hmerge] at hrows
  refine ⟨m, hmerge, ?_, hperm _ cells.reverse_perm, hagain, hrows⟩
  rw [hcount]
  rfl

end FallingBlocks.Board
