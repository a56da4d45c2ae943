/-
Compaction is gravity by whole rows.

The program finds the complete rows twice: once as a list of positions, which is what
it reports, and once as what a filter drops, which is what it does.  Both are counted
here against the same prefix of the list, so a row that is kept lands below its old
place by exactly as many positions of the report as come after it.

The masks may be any integers.  A mask with bits outside the width, or a negative one,
is merely not the mask of a complete row, and moves with the others.
-/
import FallingBlocks.Proofs.Board.Clearing

namespace FallingBlocks.Board

/-! ### The positions of the complete rows -/

theorem mem_rowsEqual {b : Board} {full : Mask} {i : Nat} :
    i ∈ b.rowsEqual full ↔ b.rows[i]? = some full := by
  rw [rowsEqual, List.mem_map]
  constructor
  · intro h
    obtain ⟨⟨m, j⟩, hmem, hj⟩ := h
    obtain ⟨hrow, hfull⟩ := List.mem_filter.mp hmem
    rw [← hj, ← eq_of_beq hfull]
    exact List.mk_mem_zipIdx_iff_getElem?.mp hrow
  · intro h
    refine ⟨(full, i), List.mem_filter.mpr ⟨?_, beq_self_eq_true full⟩, rfl⟩
    exact List.mk_mem_zipIdx_iff_getElem?.mpr h

/-- The positions are reported from the top down, each once. -/
theorem rowsEqual_pairwise (b : Board) (full : Mask) : (b.rowsEqual full).Pairwise (· < ·) := by
  have hsub : (b.rowsEqual full).Sublist (b.rows.zipIdx.map (·.2)) :=
    List.filter_sublist.map _
  refine List.Pairwise.sublist hsub ?_
  show (b.rows.zipIdx.map Prod.snd).Pairwise (· < ·)
  rw [List.zipIdx_map_snd]
  exact List.pairwise_lt_range'

/-- Of a list numbered from `n` on, the elements numbered above `i`. -/
theorem countP_zipIdx (p : Mask → Bool) (i : Nat) :
    ∀ (l : List Mask) (n : Nat),
      (l.zipIdx n).countP (fun row => p row.1 && decide (i < row.2)) =
        (l.drop (i + 1 - n)).countP p := by
  intro l
  induction l with
  | nil => intro n; simp
  | cons m rest ih =>
      intro n
      rw [List.zipIdx_cons, List.countP_cons, ih (n + 1)]
      by_cases hn : i < n
      · rw [show i + 1 - n = 0 by omega, show i + 1 - (n + 1) = 0 by omega]
        simp [hn, List.countP_cons]
      · rw [show i + 1 - n = (i + 1 - (n + 1)) + 1 by omega]
        simp [hn]

/-- The report counts the complete rows below a row as the rows themselves do. -/
theorem countP_rowsEqual (b : Board) (i : Nat) :
    (b.rowsEqual (Mask.full b.width.toNat)).countP (fun r => decide (i < r)) =
      (b.rows.drop (i + 1)).countP b.complete := by
  rw [rowsEqual, List.countP_map, List.countP_filter, ← Nat.sub_zero (i + 1),
    ← countP_zipIdx b.complete i b.rows 0]
  refine List.countP_congr fun row _ => ?_
  simp only [Function.comp_apply, Bool.and_comm, complete]

theorem fullRows_eq {b : Board} (hwidth : 0 ≤ b.width) :
    b.fullRows = .ok (b.rowsEqual (Mask.full b.width.toNat)) := by
  rw [fullRows, fullMask_eq hwidth]
  rfl

theorem clearFullRows_eq {b : Board} (hwidth : 0 ≤ b.width)
    (hsize : (b.rows.length : Int) = b.height) :
    b.clearFullRows = .ok (b.cleared, (b.rows.countP b.complete : Int)) := by
  rw [clearFullRows, fullMask_eq hwidth, ← compact_eq hsize]
  rfl

/-! ### What is left after clearing -/

/-- An empty row is not complete on a board with a column. -/
theorem full_ne_zero {w : Nat} (hw : 1 ≤ w) : Mask.full w ≠ 0 := by
  have hpow : 2 ^ 1 ≤ 2 ^ w := Nat.pow_le_pow_right (by omega) hw
  rw [Mask.full_eq]
  show ((2 ^ w - 1 : Nat) : Int) ≠ 0
  omega

/-- The rows on top are empty and the others were kept, so none is complete. -/
theorem ne_full_of_mem_cleared {b : Board} (hwidth : 1 ≤ b.width) :
    ∀ m ∈ b.cleared.rows, m ≠ Mask.full b.width.toNat := by
  intro m hm hfull
  rcases List.mem_append.mp hm with hzero | hkept
  · have hm0 : m = 0 := List.eq_of_mem_replicate hzero
    exact full_ne_zero (w := b.width.toNat) (by omega) (hfull ▸ hm0)
  · have hne := (List.mem_filter.mp hkept).2
    rw [complete, hfull] at hne
    simp at hne

theorem countP_cleared {b : Board} (hwidth : 1 ≤ b.width) :
    b.cleared.rows.countP b.cleared.complete = 0 := by
  rw [List.countP_eq_zero]
  intro m hm hcomplete
  exact ne_full_of_mem_cleared hwidth m hm (eq_of_beq hcomplete)

/-- Clearing a cleared board changes nothing. -/
theorem cleared_cleared {b : Board} (hwidth : 1 ≤ b.width) : b.cleared.cleared = b.cleared := by
  show { b.cleared with rows := compacted b.cleared.complete b.cleared.rows } = b.cleared
  rw [compacted_of_none (countP_cleared hwidth)]

/--
The rows of a board have sunk: those whose positions are given are gone, as many empty ones
came in on top, and every other lies lower by the number of those given from below it.
-/
structure Sinks (b : Board) (gone : List Nat) (after : Board) : Prop where
  width : after.width = b.width
  height : after.height = b.height
  size : (after.rows.length : Int) = b.height
  fresh : ∀ i < gone.length, after.rows[i]? = some 0
  moved : ∀ i m, b.rows[i]? = some m → i ∉ gone →
    after.rows[i + gone.countP (fun r => decide (i < r))]? = some m
  /-- The rows below the new ones are those kept, in their order. -/
  kept : after.rows.drop gone.length = b.rows.filter (· != Mask.full b.width.toNat)

theorem sinks_cleared {b : Board} (hsize : (b.rows.length : Int) = b.height) :
    b.Sinks (b.rowsEqual (Mask.full b.width.toNat)) b.cleared := by
  have hcount : (b.rowsEqual (Mask.full b.width.toNat)).length = b.rows.countP b.complete :=
    length_rowsEqual b _
  have hlength : b.cleared.rows.length = b.rows.length := length_compacted _ _
  refine ⟨rfl, rfl, by rw [hlength, hsize], ?_, ?_, ?_⟩
  · intro i hi
    show (compacted b.complete b.rows)[i]? = some 0
    rw [hcount] at hi
    rw [compacted, List.getElem?_append_left (by simpa using hi), List.getElem?_replicate,
      if_pos hi]
  · intro i m hrow hstays
    have hkept : b.complete m = false := by
      rw [complete, beq_eq_false_iff_ne]
      intro hfull
      exact hstays (mem_rowsEqual.mpr (hfull ▸ hrow))
    rw [countP_rowsEqual]
    exact getElem?_compacted hrow hkept
  · rw [hcount]
    exact List.drop_left' (List.length_replicate)

/--
**Clearing lets the rows sink, and the report agrees with what was done.**

On a board with a column and with as many rows as its height says, whatever their masks:
the number of rows cleared is that of the positions reported as complete, the rows sink by
them, no row of the result is complete, and clearing again or through the report gives
nothing else.
-/
theorem clearFullRows_sinks {b : Board} (hwidth : 1 ≤ b.width)
    (hsize : (b.rows.length : Int) = b.height) :
    ∃ (full : List Nat) (after : Board),
      b.fullRows = .ok full ∧
      (∀ i, i ∈ full ↔ b.rows[i]? = some (Mask.full b.width.toNat)) ∧
      full.Pairwise (· < ·) ∧
      b.clearFullRows = .ok (after, (full.length : Int)) ∧
      b.Sinks full after ∧
      (∀ m ∈ after.rows, m ≠ Mask.full b.width.toNat) ∧
      after.fullRows = .ok [] ∧
      after.clearFullRows = .ok (after, 0) ∧
      b.clear = .ok ⟨after, full, (full.length : Int)⟩ := by
  have hwidth0 : 0 ≤ b.width := by omega
  have hsunk := sinks_cleared hsize
  have hcount : (b.rowsEqual (Mask.full b.width.toNat)).length = b.rows.countP b.complete :=
    length_rowsEqual b _
  have hnone : b.cleared.rowsEqual (Mask.full b.cleared.width.toNat) = [] := by
    rw [← List.length_eq_zero_iff, length_rowsEqual]
    exact countP_cleared hwidth
  refine ⟨b.rowsEqual (Mask.full b.width.toNat), b.cleared, fullRows_eq hwidth0,
    fun i => mem_rowsEqual, rowsEqual_pairwise b _, ?_, hsunk, ne_full_of_mem_cleared hwidth,
    ?_, ?_, ?_⟩
  · rw [hcount]
    exact clearFullRows_eq hwidth0 hsize
  · rw [fullRows_eq (b := b.cleared) hwidth0, hnone]
  · rw [clearFullRows_eq (b := b.cleared) hwidth0 hsunk.size, cleared_cleared hwidth,
      countP_cleared hwidth]
    rfl
  · rw [hcount]
    exact clear_completed hsize hwidth0

/-- Complete rows at both ends and in between, among masks of every kind. -/
theorem clearFullRows_sinks_scattered :
    (⟨3, 6, [7, -1, 7, 5, 12, 7]⟩ : Board).clearFullRows = .ok (⟨3, 6, [0, 0, 0, -1, 5, 12]⟩, 3) ∧
      (⟨3, 6, [7, -1, 7, 5, 12, 7]⟩ : Board).Sinks [0, 2, 5] ⟨3, 6, [0, 0, 0, -1, 5, 12]⟩ := by
  obtain ⟨full, after, hfull, -, -, hclear, hsinks, -⟩ :=
    clearFullRows_sinks (b := ⟨3, 6, [7, -1, 7, 5, 12, 7]⟩) (by decide) (by decide)
  have hthree : full = [0, 2, 5] := (Except.ok.inj hfull).symm
  have hafter : after = ⟨3, 6, [0, 0, 0, -1, 5, 12]⟩ :=
    congrArg Prod.fst (Except.ok.inj hclear).symm
  rw [hthree, hafter] at hclear hsinks
  exact ⟨hclear, hsinks⟩

end FallingBlocks.Board
