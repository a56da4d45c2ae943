/-
Column heights.

The board keeps its rows, and the two features that are told of it go down the rows:
the maximal height stops at the first that is not empty, and the count of holes
carries the columns met so far in a mask.  What they are about is the columns.  Here a
column has the height of its topmost filled cell, the maximal height is the greatest of
these, and every cell at or below the top of its column is either filled or a hole.

The bridge is `holesBelow_add`: from any mask of columns met so far, the holes and
the filled cells of the rest of the rows add up column by column.
-/
import Mathlib.Algebra.BigOperators.Ring.Finset
import Mathlib.Order.Interval.Finset.Nat
import FallingBlocks.Proofs.Board.Counting

namespace FallingBlocks

/-- The number of one bits is the sum of the bits. -/
theorem Mask.card_eq_sum {n w : Nat} (hn : n < 2 ^ w) :
    card n = ∑ col ∈ Finset.range w, (n.testBit col).toNat := by
  rw [card_eq hn, Finset.card_filter]
  refine Finset.sum_congr rfl fun col _ => ?_
  cases n.testBit col <;> rfl

namespace Board

/-! ### The topmost row that passes a test -/

/-- How far the topmost row that passes a test is from the floor, 0 if none does. -/
def heightOf (b : Board) (p : Mask → Bool) : Int :=
  match b.rows.findIdx? p with
  | some i => b.height - i
  | none => 0

/-- The height of a column: that of the topmost row that fills it. -/
def columnHeight (b : Board) (col : Nat) : Int :=
  b.heightOf fun m => m.has col

theorem maxHeight_eq (b : Board) : b.maxHeight = b.heightOf (· != 0) := rfl

/-- The number of rows from the topmost that passes a test down. -/
def rise (p : Mask → Bool) : List Mask → Nat
  | [] => 0
  | m :: rest => if p m then rest.length + 1 else rise p rest

theorem rise_le (p : Mask → Bool) : ∀ rows, rise p rows ≤ rows.length := by
  intro rows
  induction rows with
  | nil => exact Nat.le_refl 0
  | cons m rest ih =>
      rw [rise, List.length_cons]
      by_cases hm : p m = true
      · rw [if_pos hm]
      · rw [if_neg hm]
        omega

/-- Among the rows down to some row below the first are the first and those of the rest. -/
theorem exists_le_getD_cons (p : Mask → Bool) (m : Mask) (rest : List Mask) (i : Nat) :
    (∃ j ≤ i + 1, p ((m :: rest).getD j 0) = true) ↔
      p m = true ∨ ∃ j ≤ i, p (rest.getD j 0) = true := by
  constructor
  · intro h
    obtain ⟨j, hj, hpass⟩ := h
    cases j with
    | zero => exact Or.inl (by simpa using hpass)
    | succ j => exact Or.inr ⟨j, by omega, by simpa using hpass⟩
  · intro h
    rcases h with hm | ⟨j, hj, hpass⟩
    · exact ⟨0, Nat.zero_le _, by simpa using hm⟩
    · exact ⟨j + 1, by omega, by simpa using hpass⟩

/-- Some row at or above row `i` passes the test just when the rise reaches row `i`. -/
theorem le_rise_iff (p : Mask → Bool) :
    ∀ (rows : List Mask) (i : Nat), i < rows.length →
      (rows.length ≤ i + rise p rows ↔ ∃ j ≤ i, p (rows.getD j 0) = true) := by
  intro rows
  induction rows with
  | nil => intro i hi; simp at hi
  | cons m rest ih =>
      intro i hi
      rw [rise, List.length_cons]
      cases i with
      | zero =>
          have hrise := rise_le p rest
          by_cases hm : p m = true
          · simp [hm]
          · simp [hm]
            omega
      | succ i =>
          rw [exists_le_getD_cons]
          have hrest := ih i (by simpa using hi)
          by_cases hm : p m = true
          · simp [hm]
          · simp only [hm, if_false, Bool.false_eq_true, false_or]
            rw [← hrest]
            omega

theorem heightOf_eq {b : Board} (hsize : (b.rows.length : Int) = b.height) (p : Mask → Bool) :
    b.heightOf p = rise p b.rows := by
  have hrows : ∀ rows : List Mask,
      (match rows.findIdx? p with
        | some i => (rows.length : Int) - i
        | none => (0 : Int)) = (rise p rows : Int) := by
    intro rows
    induction rows with
    | nil => rfl
    | cons m rest ih =>
        rw [List.findIdx?_cons, rise, List.length_cons]
        by_cases hm : p m = true
        · simp [hm]
        · rw [if_neg hm, if_neg hm, ← ih]
          cases rest.findIdx? p with
          | none => rfl
          | some i =>
              show ((rest.length + 1 : Nat) : Int) - (i + 1 : Nat) = rest.length - i
              omega
  rw [heightOf, ← hsize]
  exact hrows b.rows

/-! ### Holes and filled cells, column by column -/

/-- In each column a row adds its hole or its filled cell, or comes before the top. -/
theorem column_bit (seen here col below top : Nat) :
    ((seen ^^^ (seen &&& here)).testBit col).toNat + (here.testBit col).toNat +
        (if (seen ||| here).testBit col = true then below else top) =
      if seen.testBit col = true then below + 1
      else if here.testBit col = true then below + 1 else top := by
  rw [Nat.testBit_xor, Nat.testBit_and, Nat.testBit_or]
  cases seen.testBit col <;> cases here.testBit col <;> simp <;> omega

/--
Below the columns met so far every cell counts; in another column those count that are at
or below its topmost filled cell.
-/
theorem holesBelow_add {w : Nat} :
    ∀ (rows : List Mask) (seen : Nat), seen < 2 ^ w →
      (∀ m ∈ rows, 0 ≤ m) → (∀ m ∈ rows, m < 2 ^ w) →
      holesBelow w seen rows + (rows.map fun m => Mask.card m.toNat).sum =
        ∑ col ∈ Finset.range w,
          if seen.testBit col = true then rows.length else rise (·.has col) rows := by
  intro rows
  induction rows with
  | nil => intro seen _ _ _; simp [holesBelow, rise]
  | cons m rest ih =>
      intro seen hseen hnonneg hlt
      have hm0 := hnonneg m (by simp)
      have hmw := Mask.toNat_lt (hlt m (by simp))
      have hfree : seen ^^^ (seen &&& m.toNat) < 2 ^ w :=
        Nat.xor_lt_two_pow hseen (Nat.and_lt_two_pow _ hmw)
      have hrest := ih (seen ||| m.toNat) (Nat.or_lt_two_pow hseen hmw)
        (fun a ha => hnonneg a (by simp [ha])) (fun a ha => hlt a (by simp [ha]))
      rw [holesBelow, Mask.visible_eq hm0 (hlt m (by simp)), List.map_cons, List.sum_cons,
        Mask.card_eq_sum hfree, Mask.card_eq_sum hmw]
      calc _ = (∑ col ∈ Finset.range w, ((seen ^^^ (seen &&& m.toNat)).testBit col).toNat) +
              (∑ col ∈ Finset.range w, (m.toNat.testBit col).toNat) +
              (holesBelow w (seen ||| m.toNat) rest +
                (rest.map fun m => Mask.card m.toNat).sum) := by omega
        _ = ∑ col ∈ Finset.range w, _ := by
            rw [hrest, ← Finset.sum_add_distrib, ← Finset.sum_add_distrib]
            refine Finset.sum_congr rfl fun col _ => ?_
            rw [rise, Mask.has_of_nonneg hm0, List.length_cons]
            exact column_bit seen m.toNat col _ _

/-- The free cells with a filled one above them in their column. -/
def hollow (b : Board) : Pile :=
  (Pile.grid b.width b.height).filter fun c =>
    c ∉ b.pile ∧ ∃ d ∈ b.pile, d.col = c.col ∧ d.row < c.row

/-- The cells at or below the top of their column. -/
def covered (b : Board) : Pile :=
  b.hollow ∪ b.pile

theorem mem_covered {b : Board} (hsize : (b.rows.length : Int) = b.height) {c : Cell} :
    c ∈ b.covered ↔ ((0 ≤ c.row ∧ c.row < b.rows.length) ∧ 0 ≤ c.col ∧ c.col < b.width) ∧
      b.rows.length ≤ c.row.toNat + rise (·.has c.col.toNat) b.rows := by
  rw [covered, Finset.mem_union, hollow, Finset.mem_filter, Pile.mem_grid, ← hsize]
  constructor
  · intro h
    have hin : (0 ≤ c.row ∧ c.row < b.rows.length) ∧ 0 ≤ c.col ∧ c.col < b.width := by
      rcases h with h | h
      · exact h.1
      · exact (mem_pile.mp h).1
    have habove : ∃ d ∈ b.pile, d.col = c.col ∧ d.row ≤ c.row := by
      rcases h with ⟨-, -, d, hd, hcol, hrow⟩ | h
      · exact ⟨d, hd, hcol, Int.le_of_lt hrow⟩
      · exact ⟨c, h, rfl, Int.le_refl _⟩
    obtain ⟨d, hd, hcol, hrow⟩ := habove
    obtain ⟨⟨⟨hdrow, -⟩, -⟩, hhas⟩ := mem_pile.mp hd
    refine ⟨hin, (le_rise_iff _ b.rows c.row.toNat (by omega)).mpr ⟨d.row.toNat, by omega, ?_⟩⟩
    rw [← hcol]
    exact hhas
  · intro h
    obtain ⟨hin, hrise⟩ := h
    by_cases hfilled : c ∈ b.pile
    · exact Or.inr hfilled
    · obtain ⟨j, hj, hhas⟩ := (le_rise_iff _ b.rows c.row.toNat (by omega)).mp hrise
      have hd : (⟨j, c.col⟩ : Cell) ∈ b.pile :=
        mem_pile.mpr ⟨⟨⟨by simp, by simp only; omega⟩, hin.2⟩, by simpa using hhas⟩
      have hne : (j : Int) ≠ c.row := by
        intro heq
        rw [heq] at hd
        exact hfilled hd
      exact Or.inl ⟨hin, hfilled, ⟨j, c.col⟩, hd, rfl, by simp only; omega⟩

/-- In a column they are as many as the column is high. -/
theorem card_covered_column {b : Board} (hsize : (b.rows.length : Int) = b.height) {col : Nat}
    (hcol : col < b.width.toNat) :
    (b.covered.filter fun c => c.col.toNat = col).card = rise (·.has col) b.rows := by
  have hrise := rise_le (·.has col) b.rows
  have hcolumn : (b.covered.filter fun c => c.col.toNat = col) =
      (Finset.Ico (b.rows.length - rise (·.has col) b.rows) b.rows.length).image
        fun row : Nat => (⟨row, col⟩ : Cell) := by
    ext c
    rw [Finset.mem_filter, mem_covered hsize, Finset.mem_image]
    constructor
    · intro h
      obtain ⟨⟨⟨⟨hrow, hlt⟩, hleft, hright⟩, htop⟩, rfl⟩ := h
      refine ⟨c.row.toNat, Finset.mem_Ico.mpr (by omega), ?_⟩
      cases c
      simp only [Cell.mk.injEq] at *
      omega
    · intro h
      obtain ⟨row, hrow, rfl⟩ := h
      have hmem := Finset.mem_Ico.mp hrow
      refine ⟨⟨⟨⟨by simp, by simpa using hmem.2⟩, by simp, by simp only; omega⟩, ?_⟩, by simp⟩
      simp only [Int.toNat_natCast]
      omega
  rw [hcolumn, Finset.card_image_of_injective, Nat.card_Ico]
  · omega
  · intro row row' h
    simpa using h

/-- Altogether they are as many as the columns are high. -/
theorem card_covered {b : Board} (hsize : (b.rows.length : Int) = b.height) :
    b.covered.card = ∑ col ∈ Finset.range b.width.toNat, rise (·.has col) b.rows := by
  have hcols : (b.covered : Set Cell).MapsTo (fun c => c.col.toNat)
      (Finset.range b.width.toNat) := by
    intro c hc
    obtain ⟨⟨-, hleft, hright⟩, -⟩ := (mem_covered hsize).mp (Finset.mem_coe.mp hc)
    rw [Finset.mem_coe, Finset.mem_range]
    show c.col.toNat < b.width.toNat
    omega
  rw [Finset.card_eq_sum_card_fiberwise hcols]
  refine Finset.sum_congr rfl fun col hcol => ?_
  exact card_covered_column hsize (Finset.mem_range.mp hcol)

/-- No cell is both free and filled. -/
theorem card_hollow_add {b : Board} (hb : b.WF) : b.hollow.card + b.count = b.covered.card := by
  have hdisjoint : Disjoint b.hollow b.pile := by
    rw [Finset.disjoint_left]
    intro c hc
    exact (Finset.mem_filter.mp hc).2.1
  rw [covered, Finset.card_union_of_disjoint hdisjoint, card_pile hb]

/-- The rows counted by the program are those of the columns. -/
theorem holes_add {b : Board} (hb : b.WF) :
    holesBelow b.width.toNat 0 b.rows + b.count =
      ∑ col ∈ Finset.range b.width.toNat, rise (·.has col) b.rows := by
  have hadd := holesBelow_add b.rows 0 (Nat.two_pow_pos b.width.toNat) hb.nonneg hb.lt
  simpa [count] using hadd

theorem holes_eq {b : Board} (hwidth : 0 ≤ b.width) :
    b.holes = .ok (holesBelow b.width.toNat 0 b.rows) := by
  unfold holes
  by_cases hrows : b.rows = []
  · simp [hrows, holesBelow]
  · rw [if_neg (by simpa using hrows), fullMask, if_neg (Int.not_lt.mpr hwidth)]
    rfl

/-! ### The maximal height -/

/-- A row that is not empty fills a column, so the maximal height is that of a column. -/
theorem rise_greatest {w : Nat} (hw : 1 ≤ w) :
    ∀ rows : List Mask, (∀ m ∈ rows, 0 ≤ m) → (∀ m ∈ rows, m < 2 ^ w) →
      (∃ col < w, rise (· != 0) rows = rise (·.has col) rows) ∧
        ∀ col, rise (·.has col) rows ≤ rise (· != 0) rows := by
  intro rows
  induction rows with
  | nil => intro _ _; exact ⟨⟨0, hw, rfl⟩, fun _ => Nat.le_refl 0⟩
  | cons m rest ih =>
      intro hnonneg hlt
      obtain ⟨⟨col, hcol, heq⟩, hle⟩ := ih (fun a ha => hnonneg a (by simp [ha]))
        (fun a ha => hlt a (by simp [ha]))
      by_cases hm : m = 0
      · simp only [rise, hm, bne_self_eq_false, Mask.has_zero, Bool.false_eq_true, if_false]
        exact ⟨⟨col, hcol, heq⟩, hle⟩
      · obtain ⟨c, hc, hhas⟩ := Mask.exists_has (hnonneg m (by simp)) (hlt m (by simp)) hm
        have htop : rise (· != 0) (m :: rest) = rest.length + 1 := by
          rw [rise, if_pos (by simpa using hm)]
        refine ⟨⟨c, hc, ?_⟩, ?_⟩
        · rw [htop, rise, if_pos hhas]
        · intro col
          rw [htop]
          exact rise_le _ (m :: rest)

/--
**The features are those of the columns.**

On a board in order with a column, the maximal height is the greatest column height, the
holes counted are the free cells below a filled one, and together with the filled cells
they make up the columns.
-/
theorem features_of_columns {b : Board} (hwidth : 1 ≤ b.width) (hb : b.WF) :
    ((∃ col : Nat, (col : Int) < b.width ∧ b.maxHeight = b.columnHeight col) ∧
      ∀ col : Nat, (col : Int) < b.width → b.columnHeight col ≤ b.maxHeight) ∧
    b.holes = .ok b.hollow.card ∧
    ((b.hollow.card + b.count : Nat) : Int) =
      ∑ col ∈ Finset.range b.width.toNat, b.columnHeight col := by
  have hheight : ∀ col, b.columnHeight col = rise (·.has col) b.rows :=
    fun col => heightOf_eq hb.size _
  have hmax : b.maxHeight = rise (· != 0) b.rows := by
    rw [maxHeight_eq, heightOf_eq hb.size]
  have hholes : holesBelow b.width.toNat 0 b.rows = b.hollow.card := by
    have hprogram := holes_add hb
    have hcolumns := card_hollow_add hb
    rw [card_covered hb.size] at hcolumns
    omega
  obtain ⟨⟨col, hcol, heq⟩, hle⟩ :=
    rise_greatest (w := b.width.toNat) (by omega) b.rows hb.nonneg hb.lt
  refine ⟨⟨⟨col, by omega, ?_⟩, ?_⟩, ?_, ?_⟩
  · rw [hmax, hheight, heq]
  · intro col _
    rw [hmax, hheight]
    exact_mod_cast hle col
  · rw [holes_eq (by omega), hholes]
  · rw [card_hollow_add hb, card_covered hb.size, Nat.cast_sum]
    exact Finset.sum_congr rfl fun col _ => (hheight col).symm

/-- Every column overhangs something; the left one is lower than the others. -/
theorem features_of_columns_overhanging :
    (⟨3, 4, [0, 6, 1, 2]⟩ : Board).maxHeight = 3 ∧
      (⟨3, 4, [0, 6, 1, 2]⟩ : Board).holes = .ok 4 ∧
      (⟨3, 4, [0, 6, 1, 2]⟩ : Board).hollow.card = 4 := by
  have hb : (⟨3, 4, [0, 6, 1, 2]⟩ : Board).WF := ⟨rfl, by decide, by decide⟩
  obtain ⟨-, hholes, -⟩ := features_of_columns (by decide) hb
  have hfour : (⟨3, 4, [0, 6, 1, 2]⟩ : Board).holes = .ok 4 := rfl
  exact ⟨rfl, hfour, Except.ok.inj (hholes.symm.trans hfour)⟩

end Board

end FallingBlocks
