/-
Raw games on whole numbers.

Whole numbers are told from ordinary ones only by their size, and the two courses of a raw
operation, the ordinary one and the one value by value, part exactly there.  What an
operation needs from its board is less than that: as many rows as the board is high, and no
more of them than can be counted.  On such a board no movement of a piece ever fails, be the
piece as far away as it will, and merging and clearing lead from whole numbers to whole
numbers again.
-/
import FallingBlocks.Proofs.Drawing
import FallingBlocks.Proofs.Snapshot.Escapes

namespace FallingBlocks

namespace Document

@[simp] theorem sameNumber_int (m n : Int) : (int m).sameNumber (int n) = (m == n) := by
  by_cases h : m = n
  · subst h
    simp [sameNumber, scalar?, Scalar.compare?]
  · simp [sameNumber, scalar?, Scalar.compare?, h]

@[simp] theorem remainder_int [Machine] (m : Int) (n : Nat) :
    (int m).remainder n = .ok (int (m % n)) := rfl

@[simp] theorem isLE_int (m n : Int) : (int m).isLE (int n) = .ok (decide (m ≤ n)) := by
  simp [isLE, ordered, scalar?, Scalar.compare?, ← Int.isLE_compare]

@[simp] theorem isLT_int (m n : Int) : (int m).isLT (int n) = .ok (decide (m < n)) := by
  have h : (compare m n).isLT = decide (m < n) :=
    Bool.eq_iff_iff.mpr (by simp [Ordering.isLT_iff_eq_lt, compare_lt_iff_lt])
  simp [isLT, ordered, scalar?, Scalar.compare?, h]

@[simp] theorem isGE_int (m n : Int) : (int m).isGE (int n) = .ok (decide (n ≤ m)) := by
  simp [isGE, ordered, scalar?, Scalar.compare?, ← Int.isGE_compare]

end Document

theorem Decimal.ofList_text (n : Int) : String.ofList (text n) = toString n := by
  cases n with
  | ofNat m => rfl
  | negSucc m =>
      rw [text, if_pos (Int.negSucc_lt_zero m)]
      show _ = "-" ++ Nat.repr (m + 1)
      rw [Nat.repr, ← String.toList_inj]
      simp [String.toList_append]

/-- Messages show a whole number as the log does. -/
theorem Document.describe_int (n : Int) : (int n).describe = toString n := by
  rw [describe, Decimal.ofList_text]

/-- A magnitude that is a whole number has no fraction to lose. -/
theorem Decimal.Binary.floorScaled_eq {n e : Int} {m : Nat}
    (h : n * Nat.pow 2 (-e).toNat = m * Nat.pow 2 e.toNat) : (floorScaled m e : Int) = n := by
  unfold floorScaled
  split
  · rename_i he
    rw [Int.toNat_of_nonpos (Int.neg_nonpos_of_nonneg he)] at h
    simpa using h.symm
  · rename_i he
    have hpos : (Nat.pow 2 (-e).toNat : Int) ≠ 0 := by
      exact_mod_cast (Nat.pow_pos (Nat.succ_pos 1)).ne'
    rw [Int.toNat_of_nonpos (by omega : e ≤ 0)] at h
    have hm : (m : Int) = n * Nat.pow 2 (-e).toNat := by simpa using h.symm
    rw [Int.natCast_ediv, hm]
    exact Int.mul_ediv_cancel n hpos

/-- A number that equals a whole one is that one when it is asked for a whole number. -/
theorem Document.toWhole_of_sameNumber {d : Document} {n : Int}
    (h : d.sameNumber (.int n) = true) : d.toWhole = .ok n := by
  cases d with
  | int m =>
      rw [sameNumber_int, beq_iff_eq] at h
      rw [h]
      rfl
  | bool b =>
      have hb : (int (if b then 1 else 0)).sameNumber (.int n) = true := h
      rw [sameNumber_int, beq_iff_eq] at hb
      rw [← hb]
      rfl
  | float x =>
      have hx : ((compareWholeReal n x).map Ordering.swap == some .eq) = true := h
      rw [beq_iff_eq, Option.map_eq_some_iff] at hx
      obtain ⟨order, hx, horder⟩ := hx
      rw [Ordering.swap_eq_iff_eq_swap] at horder
      subst horder
      unfold compareWholeReal at hx
      unfold toWhole
      cases hbinary : Decimal.Binary.ofFloat x with
      | nan => simp [hbinary] at hx
      | infinite negative => cases negative <;> simp [hbinary] at hx
      | finite negative m e =>
          simp only [hbinary, Option.some.injEq, Ordering.swap, Except.ok.injEq,
            compare_eq_iff_eq] at hx ⊢
          cases negative with
          | false =>
              refine Decimal.Binary.floorScaled_eq ?_
              simpa using hx
          | true =>
              have hneg := Decimal.Binary.floorScaled_eq (n := -n) (m := m) (e := e)
                (by simp at hx ⊢; omega)
              simp only [if_true]
              omega
  | _ => exact nomatch h

/-- A board with as many rows as it is high, and no more of them than can be counted. -/
structure Board.Matched (b : Board) : Prop where
  size : (b.rows.length : Int) = b.height
  bound : b.height < Nat.pow 2 63

theorem Board.size_compact {b : Board} (hsize : (b.rows.length : Int) = b.height) (full : Mask) :
    (b.compact full).1.width = b.width ∧ (b.compact full).1.height = b.height ∧
      (b.compact full).1.rows.length = b.rows.length := by
  have hkept := List.length_filter_le (· != full) b.rows
  unfold compact
  simp only
  split
  · exact ⟨rfl, rfl, rfl⟩
  · refine ⟨rfl, rfl, ?_⟩
    simp only [List.length_append, List.length_replicate]
    omega

theorem Board.size_clear {b : Board} (hsize : (b.rows.length : Int) = b.height)
    {c : Board.Clearing} (h : b.clear = .ok c) :
    c.board.width = b.width ∧ c.board.height = b.height ∧
      c.board.rows.length = b.rows.length := by
  rw [clear, except_map_eq_ok] at h
  obtain ⟨full, -, h⟩ := h
  split at h
  · rw [← h]
    exact ⟨rfl, rfl, rfl⟩
  · rw [← h]
    exact size_compact hsize full

namespace Raw

@[simp] theorem combined_ok {α : Type} (a : α) : combined (.ok a) = .ok a := rfl

/-! ### What is found again -/

variable {c : Settings} {d : Document} [Machine]

theorem integer?_of_ordinary? {n : Int} (h : ordinary? d = some n) :
    d = .int n ∧ n.natAbs < ordinaryLimit := by
  cases d with
  | int m =>
      rw [ordinary?] at h
      split at h
      · rename_i hm
        cases h
        exact ⟨rfl, hm⟩
      · exact nomatch h
  | _ => exact nomatch h

theorem ordinary_of_configOf? {config : Config} (h : configOf? c = some config) :
    ordinary? c.width = some config.width ∧ ordinary? c.height = some config.height := by
  unfold configOf? at h
  split at h
  · rename_i hall
    simp only [List.all_cons, List.all_nil, Bool.and_true, Bool.and_eq_true,
      Option.isSome_iff_exists] at hall
    obtain ⟨⟨w, hw⟩, ⟨height, hheight⟩, -⟩ := hall
    have hconfig : c.toConfig = .ok config := by
      cases hc : c.toConfig with
      | error fault => simp [hc, Except.toOption] at h
      | ok config' =>
          rw [hc] at h
          exact congrArg Except.ok (Option.some.inj h)
    unfold Settings.toConfig Settings.whole at hconfig
    simp only [except_bind_eq_ok, (integer?_of_ordinary? hw).1,
      (integer?_of_ordinary? hheight).1] at hconfig
    obtain ⟨_, -, _, hw', _, hheight', _, -, hconfig⟩ := hconfig
    cases hw'
    cases hheight'
    split at hconfig
    · split at hconfig
      · cases hconfig
        exact ⟨hw, hheight⟩
      · exact nomatch hconfig
    · exact nomatch hconfig
  · exact nomatch h

omit [Machine] in
theorem eq_int_of_anyWhole? {d : Document} {n : Int} (h : anyWhole? d = some n) : d = .int n := by
  cases d <;> cases h
  rfl

theorem ordinary?_int {m n : Int} (h : ordinary? (.int m) = some n) : m = n :=
  Document.int.inj (integer?_of_ordinary? h).1

theorem Cell.ordinary?_ofOrdinary {c e : FallingBlocks.Cell}
    (h : (ofOrdinary c).ordinary? = some e) : e = c := by
  simp only [ordinary?, ofOrdinary, Option.bind_eq_bind, Option.bind_eq_some_iff] at h
  obtain ⟨row, hrow, col, hcol, h⟩ := h
  rw [← Option.some.inj h, ← ordinary?_int hrow, ← ordinary?_int hcol]

theorem Piece.ordinary?_ofOrdinary {p q : FallingBlocks.Piece}
    (h : (ofOrdinary p).ordinary? = some q) : q = p := by
  simp only [ordinary?, ofOrdinary, Option.bind_eq_bind, Option.bind_eq_some_iff] at h
  obtain ⟨x, hx, y, hy, rotation, hrotation, h⟩ := h
  rw [← Option.some.inj h, ← ordinary?_int hx, ← ordinary?_int hy, ← ordinary?_int hrotation]

theorem Board.ordinary?_ofOrdinary {b m : FallingBlocks.Board}
    (h : (ofOrdinary b).ordinary? = some m) : m = b := by
  simp only [ordinary?, ofOrdinary, Option.bind_eq_bind, Option.bind_eq_some_iff, List.mapM_map,
    mapM_anyWhole?_comp_int, Option.some.injEq, exists_eq_left'] at h
  obtain ⟨width, hwidth, h⟩ := h
  rw [← h, ← ordinary?_int hwidth]

theorem Well.ordinary?_ofOrdinary {w v : FallingBlocks.Well}
    (h : (ofOrdinary w).ordinary? = some v) : v = w := by
  simp only [ordinary?, ofOrdinary, Option.bind_eq_bind, Option.bind_eq_some_iff] at h
  obtain ⟨board, hboard, piece, hpiece, h⟩ := h
  obtain ⟨b, p, y⟩ := w
  cases p with
  | none =>
      cases hpiece
      rw [← Option.some.inj h, Board.ordinary?_ofOrdinary hboard]
  | some p =>
      simp only [Option.map_some, Option.mapM_some] at hpiece
      obtain ⟨q, hq, hpiece⟩ := Option.map_eq_some_iff.mp hpiece
      rw [← Option.some.inj h, Board.ordinary?_ofOrdinary hboard, ← hpiece,
        Piece.ordinary?_ofOrdinary hq]

theorem Frame.ordinary?_ofOrdinary {f g : FallingBlocks.Frame}
    (h : (ofOrdinary f).ordinary? = some g) : g = f := by
  simp only [ordinary?, ofOrdinary, Option.bind_eq_bind, Option.bind_eq_some_iff, anyWhole?,
    truth?, Option.some.injEq, exists_eq_left'] at h
  obtain ⟨well, hwell, next, hnext, h⟩ := h
  rw [← h, Well.ordinary?_ofOrdinary hwell, Piece.ordinary?_ofOrdinary hnext]

omit [Machine] in
theorem LockResult.eq_ofOrdinary {r : LockResult} {o : FallingBlocks.LockResult}
    (h : r.ordinary? = some o) : r = ofOrdinary o := by
  simp only [ordinary?, Option.bind_eq_bind, Option.bind_eq_some_iff] at h
  obtain ⟨delta, hdelta, h⟩ := h
  rw [← Option.some.inj h, ofOrdinary, ← eq_int_of_anyWhole? hdelta]

theorem Snapshot.ordinary?_ofOrdinary {s o : FallingBlocks.Snapshot}
    (h : (ofOrdinary s).ordinary? = some o) : o = s := by
  simp only [ordinary?, ofOrdinary, Option.bind_eq_bind, Option.bind_eq_some_iff, List.mapM_map,
    mapM_anyWhole?_comp_int, anyWhole?, truth?, Option.some.injEq, exists_eq_left'] at h
  obtain ⟨current, hcurrent, next, hnext, h⟩ := h
  rw [← h, Piece.ordinary?_ofOrdinary hcurrent, Piece.ordinary?_ofOrdinary hnext]

/-! ### Pieces of whole numbers -/

namespace Piece

variable (p : FallingBlocks.Piece)

theorem moved_ofOrdinary (dx dy turns : Int) :
    (ofOrdinary p).moved (.int dx) (.int dy) (.int turns) =
      .ok (ofOrdinary (p.moved dx dy turns)) := by
  unfold moved
  split
  · rename_i q x y turned hq hx hy hturned
    rw [ordinary?_ofOrdinary hq, ordinary?_int hx, ordinary?_int hy, ordinary?_int hturned]
  · rfl

theorem offsetsOf_int (shape : Shape) (n : Int) :
    offsetsOf shape (.int n) = .ok (shape.offsets n) := by
  unfold offsetsOf
  split
  · rename_i m hm
    rw [ordinary?_int hm]
  · have hcases : n % 4 = 0 ∨ n % 4 = 1 ∨ n % 4 = 2 ∨ n % 4 = 3 := by omega
    rcases hcases with h | h | h | h <;>
      simp [h, List.range_succ, Shape.offsets, Shape.quarterTurns, bind, Except.bind]

theorem cells_ofOrdinary : (ofOrdinary p).cells = .ok (p.cells.map Cell.ofOrdinary) := by
  unfold cells
  split
  · rename_i q hq
    rw [ordinary?_ofOrdinary hq]
  · have hoffsets : (ofOrdinary p).offsets = .ok p.offsets := offsetsOf_int p.shape p.rotation
    rw [hoffsets]
    have hcells : p.cells.map Cell.ofOrdinary =
        p.offsets.map fun o => ⟨.int (p.y + o.dy), .int (p.x + o.dx)⟩ := List.map_map
    rw [hcells]
    exact List.mapM_pure

end Piece

/-! ### Boards of whole numbers -/

namespace Board

variable {b : FallingBlocks.Board}

theorem inBounds_ofOrdinary (b : FallingBlocks.Board) (c : FallingBlocks.Cell) :
    (ofOrdinary b).inBounds (.ofOrdinary c) = .ok (b.inBounds c) := by
  unfold inBounds
  split
  · rename_i m e hm he
    rw [ordinary?_ofOrdinary hm, Cell.ordinary?_ofOrdinary he]
  · simp only [Cell.ofOrdinary, ofOrdinary, Document.isLE_int, Document.isLT_int,
      FallingBlocks.Board.inBounds, bind, Except.bind]
    by_cases hleft : 0 ≤ c.col
    · by_cases hright : c.col < b.width
      · simp [hleft, hright]
      · simp [hleft, hright]
    · simp [hleft]

omit [Machine] in
/-- A row on the board is found. -/
theorem rowAt_ofOrdinary (h : b.Matched) {row : Int} (hrow : 0 ≤ row) (hlow : row < b.height) :
    (ofOrdinary b).rowAt (.int row) = .ok row.toNat := by
  obtain ⟨hsize, hbound⟩ := h
  have hnear : ¬ (row < -(Nat.pow 2 63 : Int) ∨ Nat.pow 2 63 ≤ row) := by omega
  have hlength : (ofOrdinary b).rows.length = b.rows.length := List.length_map ..
  simp only [rowAt, Document.position, Document.integer?, if_neg hnear, hlength,
    if_neg (Int.not_lt.mpr hrow), hsize]
  rw [if_pos ⟨hrow, hlow⟩]
  rfl

omit [Machine] in
theorem getD_ofOrdinary {i : Nat} (hi : i < b.rows.length) :
    (ofOrdinary b).rows.getD i .null = .int (b.rows.getD i 0) := by
  simp [ofOrdinary, List.getD_eq_getElem?_getD, hi]

/-- A cell on the board is looked at as on the ordinary one. -/
theorem occupied_ofOrdinary (h : b.Matched) {c : FallingBlocks.Cell} (hin : b.inBounds c = true)
    (hrow : 0 ≤ c.row) :
    (ofOrdinary b).occupied (.ofOrdinary c) = (b.occupied c).mapError .ofBoard := by
  simp only [FallingBlocks.Board.inBounds, Bool.and_eq_true, decide_eq_true_eq] at hin
  obtain ⟨⟨hleft, -⟩, hlow⟩ := hin
  unfold occupied
  split
  · rename_i m e hm he
    rw [ordinary?_ofOrdinary hm, Cell.ordinary?_ofOrdinary he]
  · have hlt : c.row < b.rows.length := by rw [h.size]; exact hlow
    have hbit (m : Int) : bitOf (.int m) (.int c.col) = .ok (Mask.has m c.col.toNat) :=
      if_neg (Int.not_lt.mpr hleft)
    rw [FallingBlocks.Board.occupied, FallingBlocks.Board.index?_eq hrow hlt]
    simp only [Cell.ofOrdinary, rowAt_ofOrdinary h hrow hlow, getD_ofOrdinary (b := b)
      (i := c.row.toNat) (by omega), hbit, bind, Except.bind, if_neg (Int.not_lt.mpr hleft)]
    rfl

/-- So whether cells are in bounds and free is told as on the ordinary board. -/
theorem fits_ofOrdinary (h : b.Matched) (cells : List FallingBlocks.Cell) :
    (ofOrdinary b).fits (cells.map .ofOrdinary) = (b.fits cells).mapError .ofBoard := by
  induction cells with
  | nil => rfl
  | cons c rest ih =>
      rw [List.map_cons, fits, inBounds_ofOrdinary, FallingBlocks.Board.fits]
      simp only [Cell.ofOrdinary, Document.isGE_int, combined_ok, bind, Except.bind]
      cases hin : b.inBounds c with
      | false => rfl
      | true =>
          by_cases hrow : 0 ≤ c.row
          · have hfilled := occupied_ofOrdinary h hin hrow
            rw [Cell.ofOrdinary] at hfilled
            simp only [decide_eq_true hrow, if_true, hfilled, if_neg (Int.not_lt.mpr hrow)]
            cases b.occupied c with
            | error fault => rfl
            | ok filled =>
                cases filled with
                | false => exact ih
                | true => rfl
          · simp only [decide_eq_false hrow, if_true, if_pos (Int.not_le.mp hrow)]
            exact ih

/-- A raw board that is a whole one again, of the height of another. -/
def Keeps (b : FallingBlocks.Board) (x : Board) : Prop :=
  ∃ m : FallingBlocks.Board, x = ofOrdinary m ∧ m.width = b.width ∧ m.height = b.height ∧
    m.rows.length = b.rows.length

omit [Machine] in
theorem Keeps.refl (b : FallingBlocks.Board) : Keeps b (ofOrdinary b) :=
  ⟨b, rfl, rfl, rfl, rfl⟩

theorem keeps_fill {c : Cell} {x : Board} (h : (ofOrdinary b).fill c = .ok x) : Keeps b x := by
  simp only [fill, except_bind_eq_ok] at h
  obtain ⟨i, -, row, hrow, h⟩ := h
  have hwhole : ∃ n, row = .int n := by
    simp only [withBit, except_bind_eq_ok] at hrow
    obtain ⟨power, -, hrow⟩ := hrow
    split at hrow
    · cases hrow
      exact ⟨_, rfl⟩
    · exact nomatch hrow
    · exact nomatch hrow
  obtain ⟨n, rfl⟩ := hwhole
  refine ⟨{ b with rows := b.rows.set i n }, ?_, rfl, rfl, List.length_set ..⟩
  rw [← Except.ok.inj h, ofOrdinary, ofOrdinary, List.map_set]

theorem keeps_mergeAny (b : FallingBlocks.Board) (cells : List Cell) :
    Keeps b ((ofOrdinary b).mergeAny cells).1 := by
  induction cells generalizing b with
  | nil => exact .refl b
  | cons c rest ih =>
      rw [mergeAny]
      cases hfill : (ofOrdinary b).fill c with
      | error fault => exact .refl b
      | ok x =>
          obtain ⟨m, rfl, hwidth, hheight, hrows⟩ := keeps_fill hfill
          obtain ⟨m', hm', hwidth', hheight', hrows'⟩ := ih m
          exact ⟨m', hm', hwidth'.trans hwidth, hheight'.trans hheight, hrows'.trans hrows⟩

/-- Merged or not, a board of whole numbers is one again, of the same size. -/
theorem keeps_merge (b : FallingBlocks.Board) (cells : List Cell) :
    Keeps b ((ofOrdinary b).merge cells).1 := by
  unfold merge
  split
  · rename_i m es hm hes
    rw [ordinary?_ofOrdinary hm]
    exact ⟨_, rfl, FallingBlocks.Board.size_merge b es⟩
  · exact keeps_mergeAny b cells

omit [Machine] in
theorem compact_ofOrdinary (b : FallingBlocks.Board) (full : Int) :
    (ofOrdinary b).compact full = (ofOrdinary (b.compact full).1, (b.compact full).2) := by
  have hkept : ((b.rows.map Document.int).filter fun row => !row.sameNumber (.int full)) =
      (b.rows.filter (· != full)).map .int := by
    rw [List.filter_map]
    congr 2
    funext m
    simp [bne]
  unfold compact FallingBlocks.Board.compact
  simp only [ofOrdinary, hkept, List.length_map]
  split <;> simp

/-- Clearing a board of whole numbers leaves one, of the same size. -/
theorem keeps_clearFullRows (hsize : (b.rows.length : Int) = b.height) {x : Board} {count : Int}
    (h : (ofOrdinary b).clearFullRows = .ok (x, count)) : Keeps b x := by
  have hkeeps (full : Mask) : Keeps b (ofOrdinary (b.compact full).1) :=
    ⟨_, rfl, FallingBlocks.Board.size_compact hsize full⟩
  unfold clearFullRows at h
  split at h
  · rename_i m hm
    rw [ordinary?_ofOrdinary hm, FallingBlocks.Board.clearFullRows, except_map_eq_ok] at h
    obtain ⟨⟨m', n⟩, hm', h⟩ := h
    obtain ⟨full, -, hcompact⟩ := except_map_eq_ok.mp (except_mapError_eq_ok.mp hm')
    have hfirst : (b.compact full).1 = m' := congrArg Prod.fst hcompact
    cases h
    rw [← hfirst]
    exact hkeeps full
  · obtain ⟨full, -, hcompact⟩ := except_map_eq_ok.mp h
    rw [compact_ofOrdinary] at hcompact
    obtain ⟨rfl, -⟩ := Prod.mk.inj hcompact
    exact hkeeps full

end Board

/-! ### Wells of whole numbers -/

namespace Well

variable {w : FallingBlocks.Well} {p : FallingBlocks.Piece}

theorem fits_ofOrdinary (h : w.board.Matched) (p : FallingBlocks.Piece) :
    (ofOrdinary w).fits (.ofOrdinary p) = (w.fits p).mapError .ofBoard := by
  unfold fits
  split
  · rename_i m q hm hq
    rw [Board.ordinary?_ofOrdinary hm, Piece.ordinary?_ofOrdinary hq]
    rfl
  · rw [Piece.cells_ofOrdinary]
    exact Board.fits_ofOrdinary h p.cells

/-- An attempt comes to what it does in the ordinary well. -/
theorem attempt_ofOrdinary (h : w.board.Matched) (dx dy turns : Int) :
    (ofOrdinary w).attempt (.int dx) (.int dy) (.int turns) =
      ((w.attempt dx dy turns).mapError .ofBoard).map fun (v, moved) => (ofOrdinary v, moved) := by
  cases hp : w.piece with
  | none =>
      have hpiece : (ofOrdinary w).piece = none := congrArg (Option.map _) hp
      rw [attempt, hpiece, FallingBlocks.Well.attempt, hp]
      rfl
  | some p =>
      have hpiece : (ofOrdinary w).piece = some (.ofOrdinary p) := congrArg (Option.map _) hp
      simp only [attempt, hpiece, Piece.moved_ofOrdinary, fits_ofOrdinary h, bind, Except.bind,
        FallingBlocks.Well.attempt, hp]
      cases w.fits (p.moved dx dy turns) with
      | error fault => rfl
      | ok free => cases free <;> rfl

/-- Row by row the piece is lowered as in the ordinary well. -/
theorem descend_ofOrdinary (h : w.board.Matched) (hp : w.piece = some p) (fuel : Nat) :
    (ofOrdinary w).descend fuel =
      (ofOrdinary (w.descend fuel).1, (w.descend fuel).2.mapError .ofBoard) := by
  induction fuel generalizing w p with
  | zero => rfl
  | succ fuel ih =>
      have hraw := attempt_ofOrdinary h 0 1 0
      by_cases hadmits : w.board.pile.Admits w.board.width w.board.height (p.moved 0 1 0)
      · have hlower := ih (w := { w with piece := some (p.moved 0 1 0) }) h rfl
        rw [FallingBlocks.Well.attempt_eq h.size hp, if_pos hadmits] at hraw
        simp only [descend, softDrop, hraw, FallingBlocks.Well.descend,
          FallingBlocks.Well.softDrop, FallingBlocks.Well.attempt_eq h.size hp, if_pos hadmits,
          Except.mapError, Except.map, hlower]
        cases (FallingBlocks.Well.descend fuel { w with piece := some (p.moved 0 1 0) }).2 <;> rfl
      · rw [FallingBlocks.Well.attempt_eq h.size hp, if_neg hadmits] at hraw
        simp only [descend, softDrop, hraw, FallingBlocks.Well.descend,
          FallingBlocks.Well.softDrop, FallingBlocks.Well.attempt_eq h.size hp, if_neg hadmits,
          Except.mapError, Except.map]

/-- **A drop ends where it does in the ordinary well**, however far down the piece begins. -/
theorem drop_ofOrdinary (h : w.board.Matched) (hp : w.piece = some p) :
    (ofOrdinary w).drop = (ofOrdinary w.drop.1, w.drop.2.mapError .ofBoard) := by
  unfold drop
  split
  · rename_i v hv
    rw [ordinary?_ofOrdinary hv]
  · have hroom : (ofOrdinary w).room = (w.board.height - p.y).toNat + 2 := by
      have hpiece : (ofOrdinary w).piece = some (.ofOrdinary p) := congrArg (Option.map _) hp
      rw [room, hpiece]
      rfl
    -- A row more than the ordinary drop counts on, which is too many already.
    rw [descend_ofOrdinary h hp, hroom, FallingBlocks.Well.drop_eq h.size hp,
      FallingBlocks.Well.descend_eq _ h.size hp (by omega)]

end Well

end Raw

end FallingBlocks
