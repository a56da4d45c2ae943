/-
A picture can be read back.

The picture of a board is one text.  A newline ends a line and no mark is a newline, so
splitting the text gives its lines; each line has a mark for every column, and a mark other
than that of the overlay says whether its cell is filled.  Read in this way the picture of a
board without an overlay gives the row masks again, and two boards with one picture are the
same board.
-/
import Mathlib.Data.Nat.Bitwise
import FallingBlocks.Board.Picture
import FallingBlocks.Proofs.Board.Pile

namespace FallingBlocks

/-- A list of actions that all succeed gives the list of their results. -/
theorem mapM_eq_pure {m : Type → Type} [Monad m] [LawfulMonad m] {α β : Type} {f : α → m β}
    {g : α → β} {xs : List α} (h : ∀ x ∈ xs, f x = pure (g x)) :
    xs.mapM f = pure (xs.map g) := by
  induction xs with
  | nil => rfl
  | cons x rest ih =>
      have hrest := ih fun y hy => h y (List.mem_cons_of_mem x hy)
      rw [List.mapM_cons, h x List.mem_cons_self, hrest, pure_bind, pure_bind, List.map_cons]

/-! ### Reading a picture -/

namespace Picture

/-- The lines of a text, as newlines separate them. -/
def lines (text : String) : List (List Char) :=
  text.toList.splitOn '\n'

/-- The character in some line and column of a text. -/
def mark? (text : String) (row col : Nat) : Option Char :=
  (lines text)[row]?.bind (·[col]?)

/-- Whether a mark says that its cell is filled; the mark of an overlay says neither. -/
def readMark (c : Char) : Option Bool :=
  if c = Board.palette.filled then some true
  else if c = Board.palette.free then some false
  else none

/-- The mask with these columns, the first column first. -/
def maskOf : List Bool → Nat
  | [] => 0
  | filled :: rest => Nat.bit filled (maskOf rest)

/-- The mask that a line shows. -/
def readLine (line : List Char) : Option Mask :=
  (line.mapM readMark).map fun columns => (maskOf columns : Int)

/-- The row masks that a picture without an overlay shows. -/
def read (text : String) : Option (List Mask) :=
  (lines text).mapM readLine

theorem testBit_maskOf (columns : List Bool) (col : Nat) :
    (maskOf columns).testBit col = columns.getD col false := by
  induction columns generalizing col with
  | nil => simp [maskOf]
  | cons filled rest ih =>
      cases col with
      | zero => rw [maskOf, Nat.testBit_bit_zero, List.getD_cons_zero]
      | succ col => rw [maskOf, Nat.testBit_bit_succ, ih, List.getD_cons_succ]

theorem maskOf_lt (columns : List Bool) : maskOf columns < 2 ^ columns.length := by
  refine Nat.lt_pow_two_of_testBit _ fun col hcol => ?_
  rw [testBit_maskOf, List.getD_eq_getElem?_getD, List.getElem?_eq_none hcol, Option.getD_none]

/-- A mask inside the width is told by its columns. -/
theorem maskOf_has {m : Mask} {w : Nat} (h : 0 ≤ m) (hm : m < 2 ^ w) :
    (maskOf ((List.range w).map m.has) : Int) = m := by
  have hlt : maskOf ((List.range w).map m.has) < 2 ^ w := by
    simpa using maskOf_lt ((List.range w).map m.has)
  refine Mask.eq_of_has (Int.natCast_nonneg _) (by exact_mod_cast hlt) h hm fun col hcol => ?_
  rw [Mask.has_of_nonneg (Int.natCast_nonneg _), Int.toNat_natCast, testBit_maskOf]
  simp [hcol]

end Picture

namespace Board

variable {b : Board} {overlay : List Cell}

/-! ### What a picture shows -/

/-- The mark of a cell that no overlay covers. -/
def Palette.mark (p : Palette) (filled : Bool) : Char :=
  if filled then p.filled else p.free

/-- The mark of a cell that lies on the board. -/
def markOf (b : Board) (overlay : List Cell) (c : Cell) : Char :=
  if c ∈ overlay then palette.overlay else palette.mark (decide (c ∈ b.pile))

/-- The marks of a row. -/
def rowMarks (b : Board) (overlay : List Cell) (row : Nat) : List Char :=
  (List.range b.width.toNat).map fun (col : Nat) => b.markOf overlay ⟨row, col⟩

/-- The marks of the board, row by row. -/
def marks (b : Board) (overlay : List Cell) : List (List Char) :=
  (List.range b.height.toNat).map (b.rowMarks overlay)

theorem length_marks (b : Board) (overlay : List Cell) :
    (b.marks overlay).length = b.height.toNat := by
  rw [marks, List.length_map, List.length_range]

theorem length_of_mem_marks {line : List Char} (h : line ∈ b.marks overlay) :
    line.length = b.width.toNat := by
  obtain ⟨row, -, rfl⟩ := List.mem_map.mp h
  rw [rowMarks, List.length_map, List.length_range]

theorem mark_eq (hb : b.WF) {row col : Nat} (hrow : row < b.height.toNat)
    (hcol : col < b.width.toNat) :
    b.mark overlay ⟨row, col⟩ = .ok (b.markOf overlay ⟨row, col⟩) := by
  have hoccupied : b.occupied ⟨row, col⟩ = .ok (decide ((⟨row, col⟩ : Cell) ∈ b.pile)) :=
    occupied_of_wf hb (Int.natCast_nonneg row) (by show (row : Int) < b.height; omega)
      (Int.natCast_nonneg col)
  rw [mark, markOf, hoccupied]
  split
  · rfl
  · rfl

/-- The mark of the overlay is no mark of the board. -/
theorem markOf_eq_overlay_iff {c : Cell} :
    b.markOf overlay c = palette.overlay ↔ c ∈ overlay := by
  constructor
  · intro h
    by_contra hfree
    rw [markOf, if_neg hfree] at h
    revert h
    cases decide (c ∈ b.pile)
    · decide
    · decide
  · intro h
    rw [markOf, if_pos h]

/-- Every cell of a board in order has its mark. -/
theorem lines_eq (hb : b.WF) : b.lines overlay = .ok (b.marks overlay) := by
  have hline : ∀ row ∈ List.range b.height.toNat,
      b.line overlay row = pure (b.rowMarks overlay row) := by
    intro row hrow
    exact mapM_eq_pure fun col hcol =>
      mark_eq hb (List.mem_range.mp hrow) (List.mem_range.mp hcol)
  exact mapM_eq_pure hline

theorem markOf_ne_newline (c : Cell) : b.markOf overlay c ≠ '\n' := by
  unfold markOf Palette.mark
  split
  · decide
  · split
    · decide
    · decide

/-- **Splitting a picture at its newlines gives the marks of the board, row by row.** -/
theorem exists_picture (hb : b.WF) (hheight : 1 ≤ b.height) (overlay : List Cell) :
    ∃ text, b.render overlay = .ok text ∧ Picture.lines text = b.marks overlay := by
  refine ⟨String.ofList (['\n'].intercalate (b.marks overlay)), ?_, ?_⟩
  · rw [render, lines_eq hb]
    rfl
  · rw [Picture.lines, String.toList_ofList]
    refine List.splitOn_intercalate '\n' ?_ ?_
    · intro line hline hnewline
      obtain ⟨row, -, rfl⟩ := List.mem_map.mp hline
      obtain ⟨col, -, hmark⟩ := List.mem_map.mp hnewline
      exact markOf_ne_newline _ hmark
    · intro hnone
      have hlength := length_marks b overlay
      rw [hnone, List.length_nil] at hlength
      omega

/-- In its line and column a picture has the mark of the cell. -/
theorem mark?_eq {text : String} (hlines : Picture.lines text = b.marks overlay) {row col : Nat}
    (hrow : (row : Int) < b.height) (hcol : (col : Int) < b.width) :
    Picture.mark? text row col = some (b.markOf overlay ⟨row, col⟩) := by
  have hrow' : row < b.height.toNat := by omega
  have hcol' : col < b.width.toNat := by omega
  simp [Picture.mark?, hlines, marks, rowMarks, hrow', hcol']

/-! ### Reading it back -/

theorem readMark_mark (filled : Bool) : Picture.readMark (palette.mark filled) = some filled := by
  cases filled <;> rfl

/-- A line of a picture without an overlay shows the mask of its row. -/
theorem readLine_rowMarks (hb : b.WF) {row : Nat} (hrow : row < b.rows.length) :
    Picture.readLine (b.rowMarks [] row) = some (b.rows.getD row 0) := by
  have hmem := getD_mem_rows hrow
  have hcolumns : (b.rowMarks [] row).mapM Picture.readMark =
      some ((List.range b.width.toNat).map (b.rows.getD row 0).has) := by
    rw [rowMarks, List.mapM_map]
    refine mapM_eq_pure (m := Option) fun col hcol => ?_
    have hlt := List.mem_range.mp hcol
    have hcell : (⟨row, col⟩ : Cell) ∈ b.pile ↔ (b.rows.getD row 0).has col = true :=
      mem_pile_iff_has hrow (by omega)
    show Picture.readMark (b.markOf [] ⟨row, col⟩) = _
    rw [markOf, if_neg List.not_mem_nil, readMark_mark]
    simp only [hcell, Bool.decide_eq_true]
    rfl
  rw [Picture.readLine, hcolumns, Option.map_some,
    Picture.maskOf_has (hb.nonneg _ hmem) (hb.lt _ hmem)]

/-- **A picture without an overlay shows the rows of its board.** -/
theorem read_eq (hb : b.WF) {text : String} (hlines : Picture.lines text = b.marks []) :
    Picture.read text = some b.rows := by
  have hsize : b.height.toNat = b.rows.length := by
    have hsize := hb.size
    omega
  have hrows : (List.range b.rows.length).map (b.rows.getD · 0) = b.rows := by
    refine List.ext_getElem (by simp) fun i hi hi' => ?_
    simp [hi']
  calc Picture.read text
      = (List.range b.rows.length).mapM (Picture.readLine ∘ b.rowMarks []) := by
        rw [Picture.read, hlines, marks, hsize, List.mapM_map]
    _ = some ((List.range b.rows.length).map (b.rows.getD · 0)) :=
        mapM_eq_pure (m := Option) fun row hrow => readLine_rowMarks hb (List.mem_range.mp hrow)
    _ = some b.rows := by rw [hrows]

/-- Boards of which one list of marks is the picture have one size. -/
theorem size_of_marks_eq {b' : Board} (hwidth : 1 ≤ b.width) (hheight : 1 ≤ b.height)
    (hwidth' : 1 ≤ b'.width) (hheight' : 1 ≤ b'.height)
    (hmarks : b'.marks overlay = b.marks overlay) :
    b'.width = b.width ∧ b'.height = b.height := by
  have hlines : b'.height.toNat = b.height.toNat := by
    rw [← length_marks, hmarks, length_marks]
  have hfirst : b.rowMarks overlay 0 ∈ b.marks overlay :=
    List.mem_map.mpr ⟨0, List.mem_range.mpr (by omega), rfl⟩
  have hcolumns : b'.width.toNat = b.width.toNat := by
    rw [← length_of_mem_marks hfirst, ← length_of_mem_marks (hmarks ▸ hfirst)]
  omega

/-- **Boards with one picture are the same board.** -/
theorem eq_of_render_eq {b' : Board} (hwidth : 1 ≤ b.width) (hheight : 1 ≤ b.height) (hb : b.WF)
    (hwidth' : 1 ≤ b'.width) (hheight' : 1 ≤ b'.height) (hb' : b'.WF)
    (h : b'.render = b.render) : b' = b := by
  obtain ⟨text, hrender, hlines⟩ := exists_picture hb hheight []
  obtain ⟨text', hrender', hlines'⟩ := exists_picture hb' hheight' []
  have htext : text' = text := Except.ok.inj (hrender'.symm.trans (h.trans hrender))
  rw [htext] at hlines'
  obtain ⟨hw, hh⟩ :=
    size_of_marks_eq hwidth hheight hwidth' hheight' (hlines'.symm.trans hlines)
  have hrows : b'.rows = b.rows :=
    Option.some.inj ((read_eq hb' hlines').symm.trans (read_eq hb hlines))
  cases b
  cases b'
  simp only [mk.injEq]
  exact ⟨hw, hh, hrows⟩

/--
**A picture can be read back.**  Split at its newlines the picture of a board in order has a
line for every row and in it a character for every column.  The character is the mark of the
overlay exactly where the overlay has that cell; anywhere else it says whether the cell is
filled, and is the same as without an overlay.  Without one the row masks can be read off,
and no other board has this picture.
-/
theorem render_reads_back (hwidth : 1 ≤ b.width) (hheight : 1 ≤ b.height) (hb : b.WF)
    (overlay : List Cell) :
    ∃ text plain, b.render overlay = .ok text ∧ b.render = .ok plain ∧
      ((Picture.lines text).length : Int) = b.height ∧
      (∀ line ∈ Picture.lines text, (line.length : Int) = b.width) ∧
      (∀ row col : Nat, (row : Int) < b.height → (col : Int) < b.width →
        (Picture.mark? text row col = some palette.overlay ↔ (⟨row, col⟩ : Cell) ∈ overlay) ∧
        ((⟨row, col⟩ : Cell) ∉ overlay → ∃ filled, b.occupied ⟨row, col⟩ = .ok filled ∧
          Picture.mark? text row col = some (palette.mark filled) ∧
          Picture.mark? text row col = Picture.mark? plain row col)) ∧
      Picture.read plain = some b.rows ∧
      ∀ b' : Board, 1 ≤ b'.width → 1 ≤ b'.height → b'.WF → b'.render = b.render → b' = b := by
  obtain ⟨text, hrender, hlines⟩ := exists_picture hb hheight overlay
  obtain ⟨plain, hplain, hplainlines⟩ := exists_picture hb hheight []
  refine ⟨text, plain, hrender, hplain, ?_, ?_, ?_, read_eq hb hplainlines, ?_⟩
  · rw [hlines, length_marks]
    omega
  · intro line hline
    rw [hlines] at hline
    rw [length_of_mem_marks hline]
    omega
  · intro row col hrow hcol
    rw [mark?_eq hlines hrow hcol, mark?_eq hplainlines hrow hcol, Option.some.injEq]
    refine ⟨markOf_eq_overlay_iff, fun hfree => ?_⟩
    refine ⟨_, occupied_of_wf hb (Int.natCast_nonneg row) hrow (Int.natCast_nonneg col), ?_, ?_⟩
    · rw [markOf, if_neg hfree]
    · rw [markOf, if_neg hfree, markOf, if_neg List.not_mem_nil]
  · intro b' hwidth' hheight' hb' h
    exact eq_of_render_eq hwidth hheight hb hwidth' hheight' hb' h

/-- Of three cells laid over the board one covers a filled cell, and two lie outside. -/
theorem render_reads_back_covered :
    let b : Board := ⟨2, 2, [1, 2]⟩
    ∃ text plain, b.render [⟨0, 0⟩, ⟨-1, 1⟩, ⟨1, 5⟩] = .ok text ∧ b.render = .ok plain ∧
      text = "▓·\n·█" ∧ plain = "█·\n·█" ∧
      Picture.mark? text 0 0 = some palette.overlay ∧
      Picture.mark? text 1 1 = Picture.mark? plain 1 1 ∧ Picture.read plain = some [1, 2] := by
  intro b
  have hb : b.WF := ⟨rfl, by decide, by decide⟩
  obtain ⟨text, plain, hrender, hplain, -, -, hmarks, hread, -⟩ :=
    render_reads_back (b := b) (by decide) (by decide) hb [⟨0, 0⟩, ⟨-1, 1⟩, ⟨1, 5⟩]
  obtain ⟨-, hsame⟩ := hmarks 1 1 (by decide) (by decide)
  obtain ⟨-, -, -, hsame⟩ := hsame (by decide)
  refine ⟨text, plain, hrender, hplain, ?_, ?_, ?_, hsame, hread⟩
  · exact Except.ok.inj (hrender.symm.trans rfl)
  · exact Except.ok.inj (hplain.symm.trans rfl)
  · exact (hmarks 0 0 (by decide) (by decide)).1.mpr (by decide)

end Board

end FallingBlocks
