/-
What is loaded under whole settings.

A board of any size is read with documents for its width and its height, and its rows are
compared with a power of two.  Where the width and the height are whole numbers and there is
that power of two, this is the way an ordinary board is read, and so a snapshot is loaded
alike on both sides: what is accepted is the same, and so is what is refused, as far as the
refusal can be put into words.

Whatever the settings are, the board of a snapshot that is loaded has the height asked for.
-/
import FallingBlocks.Proofs.Raw.Whole

namespace FallingBlocks.Raw

variable [Machine] {c : Config} {d : Document}

namespace Board

omit [Machine] in
/-- Row by row, masks below a power of two are masks within the width. -/
theorem mapM_readRow {w : Int} (items : List Document) (first : Nat) :
    (items.zipIdx first).mapM (fun (item, i) =>
        readRow (.int w) (Nat.pow 2 w.toNat : Nat) i item) =
      FallingBlocks.Board.readRows w first items := by
  induction items generalizing first with
  | nil => rfl
  | cons item rest ih =>
      rw [List.zipIdx_cons, List.mapM_cons, ih]
      cases item with
      | int m =>
          have hfits : (m < (Nat.pow 2 w.toNat : Nat)) = (m ≤ Mask.full w.toNat) := by
            rw [Mask.le_full_iff, Nat.pow_eq]
            push_cast
            rfl
          simp only [readRow, FallingBlocks.Board.readRows, hfits]
          split
          · cases FallingBlocks.Board.readRows w (first + 1) rest <;> rfl
          · rfl
      | _ => rfl

/-- A board of whole measures is read as the ordinary one. -/
theorem checked_int {w h : Int} (hw : 0 ≤ w) (hfits : ¬ Document.TooLarge w)
    (items : List Document) :
    checked (.int w) (.int h) items = FallingBlocks.Board.ofRows w h items := by
  unfold checked FallingBlocks.Board.ofRows
  rw [Document.sameNumber_int, Document.powerOfTwo_int hw hfits]
  by_cases hcount : h = items.length
  · subst hcount
    simp only [beq_self_eq_true, Bool.not_true, Bool.false_eq_true, if_false, ne_eq,
      not_true_eq_false, if_neg (Int.not_lt.mpr hw)]
    show (items.zipIdx.mapM (fun (item, i) => readRow (.int w) (Nat.pow 2 w.toNat : Nat) i item)
      >>= _) = _
    rw [mapM_readRow]
    cases FallingBlocks.Board.readRows w 0 items <;> rfl
  · have hsame : (h == (items.length : Int)) = false := beq_eq_false_iff_ne.mpr hcount
    simp only [hsame, Bool.not_false, if_true, ne_eq, Ne.symm hcount, not_false_eq_true]

/-- A board that is read has as many rows as the settings ask for. -/
theorem rows_of_checked {width height : Document} {items : List Document}
    {b : FallingBlocks.Board} (h : checked width height items = .ok b) :
    height.sameNumber (.int b.rows.length) = true := by
  unfold checked at h
  split at h
  · exact nomatch h
  · rename_i hsame
    simp only [except_bind_eq_ok] at h
    obtain ⟨power, -, masks, hmasks, h⟩ := h
    cases h
    rw [except_mapM_length hmasks, List.length_zipIdx]
    simpa using hsame

end Board

theorem readBoard_ofConfig (hfits : ¬ Document.TooLarge c.width) :
    readBoard (.ofConfig c) = FallingBlocks.Snapshot.readBoard c := by
  funext d
  unfold readBoard FallingBlocks.Snapshot.readBoard
  cases d.items? with
  | none => rfl
  | some items =>
      exact congrArg (Except.mapError FallingBlocks.Snapshot.Fault.rows)
        (Board.checked_int (Int.le_of_lt c.width_pos) hfits items)

/-- **Under whole settings a snapshot is loaded as under the configuration they describe**, if
there is a power of two for the width. -/
theorem load_ofConfig (hfits : ¬ Document.TooLarge c.width) (d : Document) :
    load (.ofConfig c) d = (FallingBlocks.Snapshot.load c d).mapError faultOfSnapshot := by
  rw [load, readBoard_ofConfig hfits]
  rfl

/-- The board of a snapshot that is loaded has as many rows as the settings ask for. -/
theorem rows_of_load {c : Settings} {snap : FallingBlocks.Snapshot} (h : load c d = .ok snap) :
    c.height.sameNumber (.int snap.board.length) = true := by
  rw [load, except_mapError_eq_ok, FallingBlocks.Snapshot.loadWith] at h
  simp only [except_bind_eq_ok] at h
  obtain ⟨rows, -, b, hb, _, -, current, -, _, -, next, -, _, -, score, -, _, -, level, -, _, -,
    lines, -, gameOver, -, h⟩ := h
  split at h
  · split at h
    · exact nomatch h
    · simp only [except_bind_eq_ok] at h
      obtain ⟨_, -, _, -, h⟩ := h
      cases h
      unfold readBoard at hb
      split at hb
      · exact nomatch hb
      · exact Board.rows_of_checked (except_mapError_eq_ok.mp hb)
  · exact nomatch h

end FallingBlocks.Raw
