/-
The board as a pile.

`Board.pile` reads the row masks as the set of filled cells.  For a board that has as
many rows as its height says, testing cells never fails and is the test of the pile; for
a board that is in order, merging cells that lie on it is the union of sets.

The order in which a test or a merge looks at the cells decides nothing here except
which fault is reported, and that a merge which is going to fail does fail.
-/
import FallingBlocks.Board
import FallingBlocks.Proofs.Mask
import FallingBlocks.Proofs.Pile

namespace FallingBlocks.Board

/-- The rows are as many as the height says and fill no column outside the width. -/
structure WF (b : Board) : Prop where
  size : (b.rows.length : Int) = b.height
  nonneg : ∀ m ∈ b.rows, 0 ≤ m
  lt : ∀ m ∈ b.rows, m < 2 ^ b.width.toNat

/-- The filled cells of a board. -/
def pile (b : Board) : Pile :=
  (Pile.grid b.width b.rows.length).filter fun c =>
    (b.rows.getD c.row.toNat 0).has c.col.toNat = true

theorem mem_pile {b : Board} {c : Cell} :
    c ∈ b.pile ↔ ((0 ≤ c.row ∧ c.row < b.rows.length) ∧ 0 ≤ c.col ∧ c.col < b.width) ∧
      (b.rows.getD c.row.toNat 0).has c.col.toNat = true := by
  unfold pile
  rw [Finset.mem_filter, Pile.mem_grid]

@[simp] theorem pile_empty (width height : Int) : (empty width height).pile = ∅ := by
  refine Finset.eq_empty_of_forall_notMem fun c hc => ?_
  obtain ⟨-, hhas⟩ := mem_pile.mp hc
  have hzero : (empty width height).rows.getD c.row.toNat 0 = 0 := by
    simp only [empty, List.getD_eq_getElem?_getD, List.getElem?_replicate]
    split <;> rfl
  rw [hzero, Mask.has_zero] at hhas
  exact Bool.noConfusion hhas

theorem wf_empty (c : Config) : (empty c.width c.height).WF := by
  have hpos := c.height_pos
  refine ⟨?_, ?_, ?_⟩
  · simp only [empty, List.length_replicate]
    omega
  · intro m hm
    rw [List.eq_of_mem_replicate hm]
  · intro m hm
    rw [List.eq_of_mem_replicate hm]
    exact Int.pow_pos (by decide)

theorem getD_mem_rows {b : Board} {i : Nat} (h : i < b.rows.length) :
    b.rows.getD i 0 ∈ b.rows := by
  rw [List.getD_eq_getElem?_getD, List.getElem?_eq_getElem h, Option.getD_some]
  exact List.getElem_mem h

/-- In a row of the board the pile has the cells of the columns that the mask fills. -/
theorem mem_pile_iff_has {b : Board} {row col : Nat} (hrow : row < b.rows.length)
    (hcol : (col : Int) < b.width) :
    (⟨row, col⟩ : Cell) ∈ b.pile ↔ (b.rows.getD row 0).has col = true := by
  rw [mem_pile]
  constructor
  · intro h
    exact h.2
  · intro h
    exact ⟨⟨⟨Int.natCast_nonneg row, Int.ofNat_lt.mpr hrow⟩, Int.natCast_nonneg col, hcol⟩, h⟩

/-- **Two boards in order, of one size and with the same cells filled, are the same board.** -/
theorem WF.ext {a b : Board} (ha : a.WF) (hb : b.WF) (hwidth : a.width = b.width)
    (hheight : a.height = b.height) (hpile : a.pile = b.pile) : a = b := by
  have hlength : a.rows.length = b.rows.length := by
    have hsize := ha.size.trans (hheight.trans hb.size.symm)
    omega
  have hrows : a.rows = b.rows := by
    refine List.ext_getElem hlength fun i hi hi' => ?_
    have hmem := List.getElem_mem hi
    have hmem' := List.getElem_mem hi'
    refine Mask.eq_of_has (ha.nonneg _ hmem) (ha.lt _ hmem) (hb.nonneg _ hmem')
      (hwidth ▸ hb.lt _ hmem') fun col hcol => ?_
    have hcell : (⟨i, col⟩ : Cell) ∈ a.pile ↔ (a.rows.getD i 0).has col = true :=
      mem_pile_iff_has hi (by omega)
    rw [hpile, mem_pile_iff_has hi' (by omega)] at hcell
    simpa [hi, hi'] using Bool.eq_iff_iff.mpr hcell.symm
  cases a
  cases b
  simp only [mk.injEq]
  exact ⟨hwidth, hheight, hrows⟩

/-! ### Testing cells -/

theorem index?_eq {b : Board} {row : Int} (h : 0 ≤ row) (hlt : row < b.rows.length) :
    b.index? row = some row.toNat := by
  simp [index?, h, hlt]

theorem occupied_eq {b : Board} {c : Cell} (hrow : 0 ≤ c.row) (hlt : c.row < b.rows.length)
    (hcol : 0 ≤ c.col) (hwidth : c.col < b.width) : b.occupied c = .ok (decide (c ∈ b.pile)) := by
  have hmem : c ∈ b.pile ↔ (b.rows.getD c.row.toNat 0).has c.col.toNat = true := by
    rw [mem_pile]
    exact ⟨fun h => h.2, fun h => ⟨⟨⟨hrow, hlt⟩, hcol, hwidth⟩, h⟩⟩
  rw [occupied, index?_eq hrow hlt]
  simp [Int.not_lt.mpr hcol, hmem]

/-- On a board in order the test answers for columns right of the board as well: they are free. -/
theorem occupied_of_wf {b : Board} (hb : b.WF) {c : Cell} (hrow : 0 ≤ c.row)
    (hlt : c.row < b.height) (hcol : 0 ≤ c.col) : b.occupied c = .ok (decide (c ∈ b.pile)) := by
  have hlength : c.row < b.rows.length := by rw [hb.size]; exact hlt
  by_cases hwidth : c.col < b.width
  · exact occupied_eq hrow hlength hcol hwidth
  · have hout : c ∉ b.pile := fun h => hwidth (mem_pile.mp h).1.2.2
    have hmem : b.rows.getD c.row.toNat 0 ∈ b.rows := getD_mem_rows (by omega)
    have hfree : (b.rows.getD c.row.toNat 0).has c.col.toNat = false :=
      Mask.has_eq_false_of_le (hb.nonneg _ hmem) (hb.lt _ hmem) (by omega)
    rw [occupied, index?_eq hrow hlength, decide_eq_false hout]
    simp only [Int.not_lt.mpr hcol, if_false, hfree]

/-- **Testing cells never fails on a board of the right height, and asks the pile.** -/
theorem fits_eq {b : Board} (hsize : (b.rows.length : Int) = b.height) (cells : List Cell) :
    b.fits cells = .ok (decide (∀ c ∈ cells,
      0 ≤ c.col ∧ c.col < b.width ∧ c.row < b.height ∧ (0 ≤ c.row → c ∉ b.pile))) := by
  induction cells with
  | nil => simp [fits]
  | cons c rest ih =>
      rw [fits]
      by_cases hin : b.inBounds c = true
      · rw [if_pos hin]
        simp only [inBounds, Bool.and_eq_true, decide_eq_true_eq] at hin
        obtain ⟨⟨hcol, hwidth⟩, hheight⟩ := hin
        by_cases habove : c.row < 0
        · rw [if_pos habove, ih]
          simp [hcol, hwidth, hheight, habove]
        · rw [if_neg habove]
          have hrow : 0 ≤ c.row := Int.not_lt.mp habove
          rw [occupied_eq hrow (by rw [hsize]; exact hheight) hcol hwidth]
          by_cases hpile : c ∈ b.pile
          · simp [hpile, hrow]
          · simp [hpile, ih, hcol, hwidth, hheight]
      · rw [if_neg hin]
        simp only [inBounds, Bool.and_eq_true, decide_eq_true_eq] at hin
        have hout : ¬ ∀ d ∈ c :: rest, 0 ≤ d.col ∧ d.col < b.width ∧ d.row < b.height ∧
            (0 ≤ d.row → d ∉ b.pile) := by
          intro hall
          obtain ⟨hcol, hwidth, hheight, -⟩ := hall c (by simp)
          exact hin ⟨⟨hcol, hwidth⟩, hheight⟩
        rw [decide_eq_false hout]

theorem fits_cells {b : Board} (hsize : (b.rows.length : Int) = b.height) (p : Piece) :
    b.fits p.cells = .ok (decide (b.pile.Admits b.width b.height p)) :=
  fits_eq hsize p.cells

/-! ### Filling cells -/

/-- The board with a cell on it filled. -/
def filled (b : Board) (c : Cell) : Board :=
  { b with rows := b.rows.modify c.row.toNat (Mask.insert · c.col.toNat) }

theorem fill_eq {b : Board} {c : Cell} (hrow : 0 ≤ c.row) (hlt : c.row < b.rows.length)
    (hcol : 0 ≤ c.col) : b.fill c = .ok (b.filled c) := by
  rw [fill, index?_eq hrow hlt]
  simp [Int.not_lt.mpr hcol, filled]

theorem length_filled (b : Board) (c : Cell) : (b.filled c).rows.length = b.rows.length := by
  simp [filled]

theorem getD_filled (b : Board) (c : Cell) (i : Nat) (hlt : i < b.rows.length) :
    (b.filled c).rows.getD i 0 =
      if c.row.toNat = i then (b.rows.getD i 0).insert c.col.toNat else b.rows.getD i 0 := by
  simp only [filled, List.getD_eq_getElem?_getD, List.getElem?_modify,
    List.getElem?_eq_getElem hlt]
  split <;> rfl

/-- Filling a cell of the board adds it to the pile. -/
theorem pile_filled {b : Board} {c : Cell} (hrow : 0 ≤ c.row) (hlt : c.row < b.rows.length)
    (hcol : 0 ≤ c.col) (hwidth : c.col < b.width) : (b.filled c).pile = insert c b.pile := by
  ext d
  rw [Finset.mem_insert, mem_pile, mem_pile, length_filled]
  by_cases hd : (0 ≤ d.row ∧ d.row < b.rows.length) ∧ 0 ≤ d.col ∧ d.col < b.width
  · obtain ⟨⟨hdrow, hdlt⟩, hdcol, hdwidth⟩ := hd
    rw [getD_filled b c d.row.toNat (by omega)]
    have hsame : d = c ↔ c.row.toNat = d.row.toNat ∧ c.col.toNat = d.col.toNat := by
      cases c
      cases d
      simp only [Cell.mk.injEq] at *
      omega
    by_cases hr : c.row.toNat = d.row.toNat
    · rw [if_pos hr, Mask.has_insert, hsame]
      simp only [hr, hdrow, hdlt, hdcol, hdwidth, Bool.or_eq_true, decide_eq_true_eq, true_and,
        and_self, filled]
      exact or_comm
    · rw [if_neg hr, hsame]
      simp only [hr, false_and, false_or, filled]
  · have hne : d ≠ c := by
      rintro rfl
      exact hd ⟨⟨hrow, hlt⟩, hcol, hwidth⟩
    have hwidth' : (b.filled c).width = b.width := rfl
    simp only [hwidth', hd, hne, false_and, or_self]

theorem wf_filled {b : Board} (hb : b.WF) {c : Cell} (hcol : 0 ≤ c.col) (hwidth : c.col < b.width) :
    (b.filled c).WF := by
  have hrows : ∀ m ∈ (b.filled c).rows, 0 ≤ m ∧ m < 2 ^ b.width.toNat := by
    intro m hm
    obtain ⟨i, hi, rfl⟩ := List.getElem_of_mem hm
    have hlt : i < b.rows.length := by rwa [length_filled] at hi
    have hold := List.getElem_mem hlt
    have hval := getD_filled b c i hlt
    simp only [List.getD_eq_getElem?_getD, List.getElem?_eq_getElem hi,
      List.getElem?_eq_getElem hlt, Option.getD_some] at hval
    rw [hval]
    split
    · exact ⟨Mask.insert_nonneg (hb.nonneg _ hold) _,
        Mask.insert_lt (hb.nonneg _ hold) (hb.lt _ hold) (by omega)⟩
    · exact ⟨hb.nonneg _ hold, hb.lt _ hold⟩
  refine ⟨?_, fun m hm => (hrows m hm).1, fun m hm => (hrows m hm).2⟩
  rw [length_filled]
  exact hb.size

/-- **Merging cells of the board is a union, and keeps the board in order.** -/
theorem merge_eq {b : Board} (hb : b.WF) {cells : List Cell}
    (hcells : ∀ c ∈ cells, c ∈ Pile.grid b.width b.height) :
    ∃ m : Board, b.merge cells = (m, .ok ()) ∧ m.WF ∧ m.width = b.width ∧ m.height = b.height ∧
      m.pile = b.pile ∪ cells.toFinset := by
  induction cells generalizing b with
  | nil => exact ⟨b, rfl, hb, rfl, rfl, by simp⟩
  | cons c rest ih =>
      obtain ⟨⟨hrow, hheight⟩, hcol, hwidth⟩ := Pile.mem_grid.mp (hcells c (by simp))
      have hlt : c.row < b.rows.length := by rw [hb.size]; exact hheight
      obtain ⟨m, hmerge, hm, hw, hh, hpile⟩ := ih (wf_filled hb hcol hwidth)
        (fun d hd => hcells d (by simp [hd]))
      refine ⟨m, ?_, hm, hw, hh, ?_⟩
      · rw [merge, fill_eq hrow hlt hcol]
        exact hmerge
      · rw [hpile, pile_filled hrow hlt hcol hwidth, List.toFinset_cons, Finset.insert_union,
          Finset.union_insert]

/-- A merge fails if one of its cells lies left of the board or below it. -/
theorem merge_fails {b : Board} {cells : List Cell} (hrows : ∀ c ∈ cells, 0 ≤ c.row)
    (hout : ∃ c ∈ cells, c.col < 0 ∨ (b.rows.length : Int) ≤ c.row) :
    ∃ fault, (b.merge cells).2 = .error fault := by
  induction cells generalizing b with
  | nil =>
      obtain ⟨c, hc, -⟩ := hout
      simp at hc
  | cons c rest ih =>
      have hrow : 0 ≤ c.row := hrows c (by simp)
      by_cases hlt : c.row < b.rows.length
      · by_cases hcol : 0 ≤ c.col
        · rw [merge, fill_eq hrow hlt hcol]
          refine ih (fun d hd => hrows d (by simp [hd])) ?_
          obtain ⟨d, hd, hbad⟩ := hout
          rcases List.mem_cons.mp hd with rfl | hrest
          · rcases hbad with h | h <;> omega
          · exact ⟨d, hrest, by rwa [length_filled]⟩
        · exact ⟨.negativeShift, by
            simp [merge, fill, index?_eq hrow hlt, Int.not_le.mp hcol]⟩
      · exact ⟨.rowOutOfRange, by simp [merge, fill, index?, hrow, hlt]⟩

end FallingBlocks.Board
