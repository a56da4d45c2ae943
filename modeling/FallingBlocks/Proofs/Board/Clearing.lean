/-
Clearing the board is the sinking of the pile.

The board clears its complete rows by keeping the others in their order and putting
empty rows on top.  A row that is kept ends as many places further down as complete
rows lay below it, because the empty rows on top make up for all that were complete
and those above it were dropped before it.  Cell by cell this is the sinking of
`Proofs/Pile.lean`.
-/
import FallingBlocks.Proofs.Board.Pile

namespace FallingBlocks.Board

/-! ### Keeping the rows that are not complete

The lists below are lists of masks, and `p` is the test for a complete row.
-/

/-- An element that a filter keeps comes after those kept before it. -/
theorem getElem?_filter_countP {q : Mask → Bool} {a : Mask} (ha : q a = true) :
    ∀ (l : List Mask) (i : Nat), l[i]? = some a → (l.filter q)[(l.take i).countP q]? = some a := by
  intro l
  induction l with
  | nil => intro i h; simp at h
  | cons x rest ih =>
      intro i h
      cases i with
      | zero =>
          have hx : x = a := by simpa using h
          simp [hx, ha]
      | succ i =>
          have hrest := ih i (by simpa using h)
          by_cases hx : q x = true
          · simpa [hx] using hrest
          · simpa [hx] using hrest

/-- And every element of a filtered list has such a place. -/
theorem exists_getElem?_of_filter {q : Mask → Bool} {a : Mask} :
    ∀ (l : List Mask) (j : Nat), (l.filter q)[j]? = some a →
      ∃ i, l[i]? = some a ∧ q a = true ∧ (l.take i).countP q = j := by
  intro l
  induction l with
  | nil => intro j h; simp at h
  | cons x rest ih =>
      intro j h
      by_cases hx : q x = true
      · rw [List.filter_cons_of_pos hx] at h
        cases j with
        | zero =>
            have hxa : x = a := by simpa using h
            exact ⟨0, by simp [hxa], by rw [← hxa]; exact hx, by simp⟩
        | succ j =>
            obtain ⟨i, hi, ha, hcount⟩ := ih j (by simpa using h)
            exact ⟨i + 1, by simpa using hi, ha, by simp [hx, hcount]⟩
      · rw [List.filter_cons_of_neg hx] at h
        obtain ⟨i, hi, ha, hcount⟩ := ih j h
        exact ⟨i + 1, by simpa using hi, ha, by simp [hx, hcount]⟩

/-- Empty rows for all that are complete, then the rows that are not. -/
def compacted (p : Mask → Bool) (l : List Mask) : List Mask :=
  List.replicate (l.countP p) 0 ++ l.filter fun m => !p m

theorem length_compacted (p : Mask → Bool) (l : List Mask) :
    (compacted p l).length = l.length := by
  have hsplit := List.length_eq_countP_add_countP p (l := l)
  rw [compacted, List.length_append, List.length_replicate, ← List.countP_eq_length_filter]
  simp only [Bool.not_eq_true, Bool.decide_eq_false] at hsplit
  omega

theorem compacted_of_none {p : Mask → Bool} {l : List Mask} (h : l.countP p = 0) :
    compacted p l = l := by
  rw [compacted, h, List.replicate_zero, List.nil_append, List.filter_eq_self]
  intro m hm
  simpa using List.countP_eq_zero.mp h m hm

/-- A kept row moves by the number of complete rows below it. -/
theorem countP_add_countP_take {p : Mask → Bool} {l : List Mask} {i : Nat} {a : Mask}
    (h : l[i]? = some a) (ha : p a = false) :
    l.countP p + (l.take i).countP (fun m => !p m) = i + (l.drop (i + 1)).countP p := by
  obtain ⟨hlt, hget⟩ := List.getElem?_eq_some_iff.mp h
  have hdrop : l.drop i = a :: l.drop (i + 1) := by
    rw [← hget]
    exact List.drop_eq_getElem_cons hlt
  have hparts : l.countP p = (l.take i).countP p + (l.drop i).countP p := by
    rw [← List.countP_append, List.take_append_drop]
  have htake := List.length_eq_countP_add_countP p (l := l.take i)
  simp only [Bool.not_eq_true, Bool.decide_eq_false, List.length_take] at htake
  rw [hparts, hdrop, List.countP_cons_of_neg (by simp [ha])]
  omega

/-- **Row `i`, if it is kept, becomes row `i` plus the number of complete rows below it.** -/
theorem getElem?_compacted {p : Mask → Bool} {l : List Mask} {i : Nat} {a : Mask}
    (h : l[i]? = some a) (ha : p a = false) :
    (compacted p l)[i + (l.drop (i + 1)).countP p]? = some a := by
  rw [← countP_add_countP_take h ha, compacted,
    List.getElem?_append_right (by simp), List.length_replicate, Nat.add_sub_cancel_left]
  exact getElem?_filter_countP (by simp [ha]) l i h

/-- A row that is not empty after clearing was kept. -/
theorem exists_of_getElem?_compacted {p : Mask → Bool} {l : List Mask} {j : Nat} {a : Mask}
    (h : (compacted p l)[j]? = some a) (hne : a ≠ 0) :
    ∃ i, l[i]? = some a ∧ p a = false ∧ i + (l.drop (i + 1)).countP p = j := by
  rw [compacted, List.getElem?_append] at h
  split at h
  · rw [List.getElem?_replicate] at h
    split at h
    · exact absurd (Option.some.inj h).symm hne
    · exact absurd h (by simp)
  · rename_i hge
    rw [List.length_replicate] at h hge
    obtain ⟨i, hi, ha, hcount⟩ := exists_getElem?_of_filter l _ h
    have hkept : p a = false := by simpa using ha
    have hmove := countP_add_countP_take hi hkept
    exact ⟨i, hi, hkept, by omega⟩

/-! ### The complete rows of a board -/

/-- Whether a mask is that of a complete row of the board. -/
def complete (b : Board) (m : Mask) : Bool :=
  m == Mask.full b.width.toNat

/-- The board with its complete rows cleared. -/
def cleared (b : Board) : Board :=
  { b with rows := compacted b.complete b.rows }

theorem fullMask_eq {b : Board} (hwidth : 0 ≤ b.width) :
    b.fullMask = .ok (Mask.full b.width.toNat) := by
  rw [fullMask, if_neg (Int.not_lt.mpr hwidth)]

/-- A mask is at as many positions as it occurs in the list. -/
theorem length_rowsEqual (b : Board) (full : Mask) :
    (b.rowsEqual full).length = b.rows.countP (· == full) := by
  rw [rowsEqual, List.length_map, ← List.countP_eq_length_filter]
  conv_rhs => rw [← List.zipIdx_map_fst 0 b.rows, List.countP_map]
  rfl

/-- On as many rows as the height says, what is missing to it is what was dropped. -/
theorem compact_eq {b : Board} (hsize : (b.rows.length : Int) = b.height) :
    b.compact (Mask.full b.width.toNat) = (b.cleared, (b.rows.countP b.complete : Int)) := by
  have hkept : b.rows.filter (· != Mask.full b.width.toNat) =
      b.rows.filter fun m => !b.complete m := rfl
  have hlength := length_compacted b.complete b.rows
  rw [compacted, List.length_append, List.length_replicate] at hlength
  have hcount : b.height - ((b.rows.filter fun m => !b.complete m).length : Int)
      = b.rows.countP b.complete := by omega
  rw [compact, hkept, hcount]
  by_cases hzero : b.rows.countP b.complete = 0
  · simp [hzero, cleared, compacted_of_none hzero]
  · have hne : ((b.rows.countP b.complete : Nat) : Int) ≠ 0 := by omega
    simp only [if_neg hne, Int.toNat_natCast]
    rfl

/-- Clearing says which rows were complete. -/
theorem clear_completed {b : Board} (hsize : (b.rows.length : Int) = b.height)
    (hwidth : 0 ≤ b.width) :
    b.clear = .ok ⟨b.cleared, b.rowsEqual (Mask.full b.width.toNat), b.rows.countP b.complete⟩ := by
  have hlength : (b.rowsEqual (Mask.full b.width.toNat)).length = b.rows.countP b.complete :=
    length_rowsEqual b _
  rw [clear, fullMask_eq hwidth]
  simp only [Except.map]
  split
  · rename_i hnone
    have hzero : b.rows.countP b.complete = 0 := by
      rw [← hlength, hnone]
      rfl
    rw [cleared, compacted_of_none hzero, hzero, hnone]
    rfl
  · rw [compact_eq hsize]

/-- Clearing never fails, and counts the complete rows. -/
theorem clear_eq {b : Board} (hsize : (b.rows.length : Int) = b.height) (hwidth : 0 ≤ b.width) :
    ∃ completed, b.clear = .ok ⟨b.cleared, completed, b.rows.countP b.complete⟩ :=
  ⟨_, clear_completed hsize hwidth⟩

/-- Clearing keeps a board in order. -/
theorem wf_cleared {b : Board} (hb : b.WF) : b.cleared.WF := by
  have hrows : ∀ m ∈ b.cleared.rows, m = 0 ∨ m ∈ b.rows := by
    intro m hm
    rcases List.mem_append.mp hm with hzero | hkept
    · exact Or.inl (List.eq_of_mem_replicate hzero)
    · exact Or.inr (List.mem_filter.mp hkept).1
  refine ⟨?_, ?_, ?_⟩
  · show ((compacted b.complete b.rows).length : Int) = b.height
    rw [length_compacted]
    exact hb.size
  · intro m hm
    rcases hrows m hm with rfl | h
    · exact Int.le_refl 0
    · exact hb.nonneg m h
  · intro m hm
    rcases hrows m hm with rfl | h
    · exact Int.pow_pos (by decide)
    · exact hb.lt m h

/-! ### Rows of masks and rows of the pile -/

theorem mem_completed_iff {b : Board} (hb : b.WF) {i : Nat} (hlt : i < b.rows.length) :
    (i : Int) ∈ b.pile.completed b.width b.height ↔ b.complete (b.rows.getD i 0) = true := by
  have hmem := getD_mem_rows hlt
  rw [Pile.mem_completed, complete, beq_iff_eq,
    Mask.eq_full_iff (hb.nonneg _ hmem) (hb.lt _ hmem)]
  constructor
  · rintro ⟨-, hall⟩ c hc
    exact (mem_pile.mp (hall (c : Int) (by omega) (by omega))).2
  · intro hall
    refine ⟨⟨by omega, by rw [← hb.size]; omega⟩, ?_⟩
    intro col hcol hwidth
    exact mem_pile.mpr ⟨⟨⟨by simp, by simpa using hlt⟩, hcol, hwidth⟩, hall col.toNat (by omega)⟩

/-- Counting the rows from `t` on that pass a test, by position and along the list. -/
theorem card_filter_getD (p : Mask → Bool) (l : List Mask) (t : Nat) :
    ((Finset.range l.length).filter fun i => t ≤ i ∧ p (l.getD i 0) = true).card
      = (l.drop t).countP p := by
  induction l using List.reverseRecOn with
  | nil => simp
  | append_singleton l a ih =>
      have hold : ((Finset.range l.length).filter fun i => t ≤ i ∧ p ((l ++ [a]).getD i 0) = true)
          = (Finset.range l.length).filter fun i => t ≤ i ∧ p (l.getD i 0) = true := by
        refine Finset.filter_congr fun i hi => ?_
        rw [List.getD_eq_getElem?_getD, List.getElem?_append_left (Finset.mem_range.mp hi),
          List.getD_eq_getElem?_getD]
      have hlast : (l ++ [a]).getD l.length 0 = a := by
        simp [List.getD_eq_getElem?_getD]
      rw [List.length_append, List.length_singleton, Finset.range_add_one, Finset.filter_insert,
        hold, hlast]
      by_cases ht : t ≤ l.length
      · rw [List.drop_append_of_le_length ht, List.countP_append, ← ih]
        by_cases ha : p a = true
        · rw [if_pos ⟨ht, ha⟩, Finset.card_insert_of_notMem (by simp)]
          simp [ha]
        · rw [if_neg (fun h => ha h.2)]
          simp [ha]
      · rw [if_neg (fun h => ht h.1), ih, List.drop_eq_nil_of_le (by omega),
          List.drop_eq_nil_of_le (by simp; omega)]

/-- The complete rows of the pile from row `t` on are the complete masks from there on. -/
theorem card_completed_from {b : Board} (hb : b.WF) (t : Nat) :
    ((b.pile.completed b.width b.height).filter fun r => (t : Int) ≤ r).card
      = (b.rows.drop t).countP b.complete := by
  have himage : (b.pile.completed b.width b.height).filter (fun r => (t : Int) ≤ r)
      = ((Finset.range b.rows.length).filter
          fun i => t ≤ i ∧ b.complete (b.rows.getD i 0) = true).image Nat.cast := by
    ext r
    rw [Finset.mem_filter, Finset.mem_image]
    constructor
    · rintro ⟨hr, htr⟩
      obtain ⟨⟨hr0, hrh⟩, -⟩ := Pile.mem_completed.mp hr
      have hcast : (r.toNat : Int) = r := Int.toNat_of_nonneg hr0
      have hlt : r.toNat < b.rows.length := by
        have hsize := hb.size
        omega
      refine ⟨r.toNat, ?_, hcast⟩
      rw [Finset.mem_filter, Finset.mem_range]
      exact ⟨hlt, by omega, (mem_completed_iff hb hlt).mp (by rwa [hcast])⟩
    · rintro ⟨i, hi, rfl⟩
      rw [Finset.mem_filter, Finset.mem_range] at hi
      exact ⟨(mem_completed_iff hb hi.1).mpr hi.2.2, by exact_mod_cast hi.2.1⟩
  rw [himage, Finset.card_image_of_injective _ Nat.cast_injective, card_filter_getD]

/-- The number of rows cleared is the number of complete rows of the pile. -/
theorem card_completed {b : Board} (hb : b.WF) :
    (b.pile.completed b.width b.height).card = b.rows.countP b.complete := by
  have hall : (b.pile.completed b.width b.height).filter (fun r => ((0 : Nat) : Int) ≤ r)
      = b.pile.completed b.width b.height := by
    refine Finset.filter_true_of_mem fun r hr => ?_
    exact (Pile.mem_completed.mp hr).1.1
  rw [← hall, card_completed_from hb 0, List.drop_zero]

theorem below_completed {b : Board} (hb : b.WF) (i : Nat) :
    Pile.below (b.pile.completed b.width b.height) i
      = (b.rows.drop (i + 1)).countP b.complete := by
  have hsame : (b.pile.completed b.width b.height).filter (fun r => (i : Int) < r)
      = (b.pile.completed b.width b.height).filter fun r => ((i + 1 : Nat) : Int) ≤ r := by
    refine Finset.filter_congr fun r _ => ?_
    omega
  rw [Pile.below, hsame, card_completed_from hb]

/-- A cell of the cleared board was a cell of a row that stays, further up. -/
theorem exists_of_mem_cleared {b : Board} (hb : b.WF) {c : Cell} (h : c ∈ b.cleared.pile) :
    ∃ d ∈ b.pile, d.row ∉ b.pile.completed b.width b.height ∧
      (⟨d.row + Pile.below (b.pile.completed b.width b.height) d.row, d.col⟩ : Cell) = c := by
  have hlength : b.cleared.rows.length = b.rows.length := length_compacted _ _
  obtain ⟨⟨⟨hrow, hlt⟩, hcols⟩, hhas⟩ := mem_pile.mp h
  have hlt' : c.row.toNat < b.cleared.rows.length := by omega
  have hget : b.cleared.rows[c.row.toNat]? = some (b.cleared.rows.getD c.row.toNat 0) := by
    simp [List.getD_eq_getElem?_getD, List.getElem?_eq_getElem hlt']
  have hne : b.cleared.rows.getD c.row.toNat 0 ≠ 0 := by
    intro hzero
    rw [hzero, Mask.has_zero] at hhas
    exact Bool.noConfusion hhas
  obtain ⟨i, hi, hkept, hmove⟩ := exists_of_getElem?_compacted hget hne
  have hilt : i < b.rows.length := (List.getElem?_eq_some_iff.mp hi).1
  have hgetD : b.rows.getD i 0 = b.cleared.rows.getD c.row.toNat 0 := by
    rw [List.getD_eq_getElem?_getD, hi, Option.getD_some]
  refine ⟨⟨i, c.col⟩, ?_, ?_, ?_⟩
  · refine mem_pile.mpr ⟨⟨⟨by simp, by simpa using hilt⟩, hcols⟩, ?_⟩
    show (b.rows.getD (i : Int).toNat 0).has c.col.toNat = true
    rw [Int.toNat_natCast, hgetD]
    exact hhas
  · rw [mem_completed_iff hb hilt, hgetD, hkept]
    exact Bool.false_ne_true
  · have hplace : (i : Int) + ((b.rows.drop (i + 1)).countP b.complete : Nat) = c.row := by
      omega
    rw [below_completed hb, hplace]

/-- A cell of a row that stays is on the cleared board, lower by the complete rows below it. -/
theorem mem_cleared_of_stays {b : Board} (hb : b.WF) {d : Cell} (hd : d ∈ b.pile)
    (hstay : d.row ∉ b.pile.completed b.width b.height) :
    (⟨d.row + Pile.below (b.pile.completed b.width b.height) d.row, d.col⟩ : Cell) ∈
      b.cleared.pile := by
  have hlength : b.cleared.rows.length = b.rows.length := length_compacted _ _
  obtain ⟨⟨⟨hrow, hlt⟩, hcols⟩, hhas⟩ := mem_pile.mp hd
  obtain ⟨i, hi⟩ : ∃ i : Nat, d.row = i := ⟨d.row.toNat, (Int.toNat_of_nonneg hrow).symm⟩
  rw [hi] at hstay hhas hlt ⊢
  have hilt : i < b.rows.length := by omega
  have hget : b.rows[i]? = some (b.rows.getD i 0) := by
    simp [List.getD_eq_getElem?_getD, List.getElem?_eq_getElem hilt]
  have hkept : b.complete (b.rows.getD i 0) = false := by
    rw [mem_completed_iff hb hilt] at hstay
    simpa using hstay
  have hnew := getElem?_compacted hget hkept
  have hbound : i + (b.rows.drop (i + 1)).countP b.complete < b.rows.length := by
    rw [← length_compacted b.complete b.rows]
    exact (List.getElem?_eq_some_iff.mp hnew).1
  rw [below_completed hb, mem_pile, hlength]
  refine ⟨⟨⟨by simp only; omega, by simp only; omega⟩, hcols⟩, ?_⟩
  have hplace : ((i : Int) + ((b.rows.drop (i + 1)).countP b.complete : Nat)).toNat
      = i + (b.rows.drop (i + 1)).countP b.complete := by omega
  show (b.cleared.rows.getD _ 0).has d.col.toNat = true
  rw [hplace, cleared, List.getD_eq_getElem?_getD, hnew, Option.getD_some]
  simpa using hhas

/-- **Clearing the board sinks the pile.** -/
theorem pile_cleared {b : Board} (hb : b.WF) :
    b.cleared.pile = b.pile.sunk (b.pile.completed b.width b.height) := by
  ext c
  rw [Pile.mem_sunk]
  constructor
  · intro h
    exact exists_of_mem_cleared hb h
  · intro h
    obtain ⟨d, hd, hstay, rfl⟩ := h
    exact mem_cleared_of_stays hb hd hstay

end FallingBlocks.Board
