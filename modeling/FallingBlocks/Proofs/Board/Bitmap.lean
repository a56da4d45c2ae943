/-
What the table of a board shows.

A row is turned into a word before its bits are read, and a mask beyond 32 bits is no
word.  So there is a table exactly when every mask is a word, and then each of its bits
is a bit of a mask and says whether the board has the cell filled.  Where there are at
most 32 columns every mask inside the width is a word, and nothing is lost.
-/
import FallingBlocks.Board.Bitmap
import FallingBlocks.Proofs.Board.Pile
import FallingBlocks.Proofs.Except

namespace FallingBlocks.Board

/-- A mask that can be made a word. -/
def IsWord (m : Mask) : Prop :=
  0 ≤ m ∧ m < 2 ^ 32

theorem word_eq_ok_iff (m : Mask) (n : Nat) : word m = .ok n ↔ IsWord m ∧ n = m.toNat := by
  unfold word
  split
  · rename_i hword
    have hm : IsWord m := hword
    simp [hm, eq_comm]
  · rename_i hword
    have hm : ¬ IsWord m := hword
    split <;> simp [hm]

/-- **A board has a table exactly when all its masks are words**, and it is that of the words. -/
theorem bitmap_eq_ok_iff {b : Board} {t : Bitmap} :
    b.bitmap = .ok t ↔
      (∀ m ∈ b.rows, IsWord m) ∧ t = .ofWords b.width.toNat (b.rows.map Int.toNat) := by
  simp only [bitmap, except_map_eq_ok, except_mapM_eq_ok word_eq_ok_iff]
  constructor
  · rintro ⟨_, ⟨hwords, rfl⟩, rfl⟩
    exact ⟨hwords, rfl⟩
  · rintro ⟨hwords, rfl⟩
    exact ⟨_, ⟨hwords, rfl⟩, rfl⟩

/-- No mask inside a width of at most 32 is too much for a word. -/
theorem isWord_of_narrow {width : Int} (hwidth : width ≤ 32) {m : Mask} (hnonneg : 0 ≤ m)
    (hlt : m < 2 ^ width.toNat) : IsWord m := by
  have hle : width.toNat ≤ 32 := Int.toNat_le.mpr hwidth
  have hpow : (2 : Int) ^ width.toNat ≤ 2 ^ 32 := by
    exact_mod_cast Nat.pow_le_pow_right (by decide : 0 < 2) hle
  exact ⟨hnonneg, Int.lt_of_lt_of_le hlt hpow⟩

/-- A mask that fills a column beyond the first 32 is no word. -/
theorem not_isWord_of_has {m : Mask} {col : Nat} (hcol : 32 ≤ col) (h : m.has col = true) :
    ¬ IsWord m := by
  intro hword
  rw [Mask.has_eq_false_of_le hword.1 hword.2 hcol] at h
  exact nomatch h

/-! ### Bit by bit -/

/-- The bit of a table in a row and a column. -/
def Bitmap.bit? (t : Bitmap) (row col : Nat) : Option Bool :=
  t.bits[row]?.bind (·[col]?)

/-- The table has a line for every row, a bit for every column, and the bits of the masks. -/
structure Bitmap.Shows (t : Bitmap) (b : Board) : Prop where
  height : t.bits.length = b.rows.length
  width : ∀ line ∈ t.bits, line.length = b.width.toNat
  bit : ∀ (row col : Nat) (m : Mask), b.rows[row]? = some m → col < b.width.toNat →
    t.bit? row col = some (m.has col)

theorem shows_of_bitmap {b : Board} {t : Bitmap} (h : b.bitmap = .ok t) : t.Shows b := by
  obtain ⟨hwords, rfl⟩ := bitmap_eq_ok_iff.mp h
  refine { height := ?_, width := ?_, bit := ?_ }
  · simp [Bitmap.ofWords]
  · intro line hline
    obtain ⟨n, -, rfl⟩ := List.mem_map.mp hline
    simp
  · intro row col m hrow hcol
    have hnonneg : 0 ≤ m := (hwords m (List.mem_of_getElem? hrow)).1
    simp [Bitmap.bit?, Bitmap.ofWords, hrow, hcol, Mask.has_of_nonneg hnonneg]

/-- A bit is set exactly where the board says that the cell is filled. -/
theorem Bitmap.Shows.occupied {b : Board} {t : Bitmap} (h : t.Shows b) {row col : Nat}
    (hrow : row < b.rows.length) (hcol : col < b.width.toNat) :
    ∃ filled, t.bit? row col = some filled ∧ b.occupied ⟨row, col⟩ = .ok filled := by
  refine ⟨b.rows[row].has col, h.bit row col _ (List.getElem?_eq_getElem hrow) hcol, ?_⟩
  have hindex : b.index? (row : Int) = some row :=
    index?_eq (Int.natCast_nonneg row) (Int.ofNat_lt.mpr hrow)
  have hnonneg : ¬ ((col : Int) < 0) := Int.not_lt.mpr (Int.natCast_nonneg col)
  simp [Board.occupied, hindex, hnonneg, List.getElem?_eq_getElem hrow]

end FallingBlocks.Board
