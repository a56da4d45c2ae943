/-
The documents that spell a snapshot, and what each reader makes of them.

A document spells a snapshot if it has a field for every part of it and the field holds
that part: the masks and the numbers as themselves, a shape under any name that is read as
that shape.  What other fields there are does not matter.

Every small reader succeeds on exactly one kind of document, and says so in an
equivalence: the document spells what was read, and what was read passes the check of
that reader.
-/
import FallingBlocks.Snapshot.Loading
import FallingBlocks.Proofs.Except
import FallingBlocks.Proofs.Snapshot

namespace FallingBlocks

/-- The value of a field, if the document is an object that has it. -/
def Document.get? (d : Document) (name : String) : Option Document :=
  match d with
  | .object fields => lookup name fields
  | _ => none

/-- The document has the fields of a piece, and they hold those of this piece. -/
structure Piece.SpelledBy (d : Document) (p : Piece) : Prop where
  shape : ∃ name, d.get? "shape" = some name ∧ Shape.read name = .ok p.shape
  x : d.get? "x" = some (.int p.x)
  y : d.get? "y" = some (.int p.y)
  rotation : d.get? "rotation" = some (.int p.rotation)

/-- The document has the fields of a snapshot, and they hold those of this snapshot. -/
structure Snapshot.SpelledBy (d : Document) (s : Snapshot) : Prop where
  board : d.get? "board" = some (.array (s.board.map .int))
  current : ∃ piece, d.get? "current_piece" = some piece ∧ s.current.SpelledBy piece
  next : ∃ piece, d.get? "next_piece" = some piece ∧ s.next.SpelledBy piece
  score : d.get? "score" = some (.int s.score)
  level : d.get? "level" = some (.int s.level)
  linesCleared : d.get? "lines_cleared" = some (.int s.linesCleared)
  gameOver : d.get? "game_over" = some (.bool s.gameOver)

/-! ### Rows -/

theorem Mask.le_full_iff {m : Mask} {w : Nat} : m ≤ Mask.full w ↔ m < 2 ^ w :=
  Int.le_sub_one_iff

namespace Board

/-- The rows that are read are integers inside the width, and every one is read as it is. -/
theorem readRows_eq_ok_iff {width : Int} {row : Nat} {items : List Document} {masks : List Mask} :
    readRows width row items = .ok masks ↔
      items = masks.map .int ∧ ∀ m ∈ masks, 0 ≤ m ∧ m < 2 ^ width.toNat := by
  induction items generalizing row masks with
  | nil => cases masks <;> simp [readRows]
  | cons d rest ih =>
      cases d with
      | int m =>
          rw [readRows]
          split
          · rename_i hmask
            rw [Mask.le_full_iff] at hmask
            simp only [except_map_eq_ok, ih]
            constructor
            · rintro ⟨tail, ⟨rfl, htail⟩, rfl⟩
              exact ⟨rfl, List.forall_mem_cons.mpr ⟨hmask, htail⟩⟩
            · rintro ⟨hitems, hmasks⟩
              obtain ⟨_, tail, rfl, hm, htail⟩ := List.map_eq_cons_iff.mp hitems.symm
              cases hm
              exact ⟨tail, ⟨htail.symm, (List.forall_mem_cons.mp hmasks).2⟩, rfl⟩
          · rename_i hmask
            rw [Mask.le_full_iff] at hmask
            refine iff_of_false (fun h => nomatch h) ?_
            rintro ⟨hitems, hmasks⟩
            obtain ⟨_, tail, rfl, hm, -⟩ := List.map_eq_cons_iff.mp hitems.symm
            cases hm
            exact hmask (List.forall_mem_cons.mp hmasks).1
      | _ =>
          refine iff_of_false (fun h => nomatch h) ?_
          rintro ⟨hitems, -⟩
          obtain ⟨_, _, -, hm, -⟩ := List.map_eq_cons_iff.mp hitems.symm
          exact nomatch hm

/-- The boards that are read are those in order, and their rows are read as they are. -/
theorem ofRows_eq_ok_iff {width height : Int} {items : List Document} {b : Board}
    (hwidth : 0 ≤ width) :
    ofRows width height items = .ok b ↔
      b.WF ∧ b.width = width ∧ b.height = height ∧ items = b.rows.map .int := by
  rw [ofRows, if_neg (Int.not_lt.mpr hwidth)]
  split
  · rename_i hcount
    refine iff_of_false (fun h => nomatch h) ?_
    rintro ⟨hb, -, rfl, rfl⟩
    rw [List.length_map, hb.size] at hcount
    exact hcount rfl
  · rename_i hcount
    simp only [except_map_eq_ok, readRows_eq_ok_iff]
    constructor
    · rintro ⟨masks, ⟨rfl, hmasks⟩, rfl⟩
      rw [List.length_map] at hcount
      refine ⟨⟨?_, fun m hm => (hmasks m hm).1, fun m hm => (hmasks m hm).2⟩, rfl, rfl, rfl⟩
      show (masks.length : Int) = height
      omega
    · rintro ⟨hb, rfl, rfl, rfl⟩
      exact ⟨b.rows, ⟨rfl, fun m hm => ⟨hb.nonneg m hm, hb.lt m hm⟩⟩, rfl⟩

end Board

/-- Only an array has integers for items, if it has any items at all. -/
theorem Document.items?_eq_map_int_iff {d : Document} {masks : List Mask} (hne : masks ≠ []) :
    d.items? = some (masks.map .int) ↔ d = .array (masks.map .int) := by
  obtain ⟨m, rest, rfl⟩ := List.exists_cons_of_ne_nil hne
  cases d with
  | array items => simp [items?]
  | text t => cases ht : t.points <;> simp [items?, ht]
  | object fields => cases fields <;> simp [items?]
  | _ => simp [items?]

namespace Snapshot

variable {c : Config} {d : Document} {slot : Slot}

/-! ### Fields -/

theorem field_eq_ok_iff {name : String} {value : Document} :
    field d name = .ok value ↔ d.get? name = some value := by
  cases d with
  | object fields =>
      simp only [field, Document.get?]
      cases Document.lookup name fields <;> simp
  | _ => simp [field, Document.get?]

theorem readBoard_eq_ok_iff {b : Board} :
    readBoard c d = .ok b ↔
      b.WF ∧ b.width = c.width ∧ b.height = c.height ∧ d = .array (b.rows.map .int) := by
  have hread : readBoard c d = .ok b ↔
      ∃ items, d.items? = some items ∧ Board.ofRows c.width c.height items = .ok b := by
    unfold readBoard
    cases d.items? <;> simp [except_mapError_eq_ok]
  rw [hread]
  simp only [Board.ofRows_eq_ok_iff (Int.le_of_lt c.width_pos)]
  have hne (hb : b.WF) (hheight : b.height = c.height) : b.rows ≠ [] := by
    intro hnil
    have hsize := hb.size
    rw [hnil, hheight] at hsize
    exact absurd hsize (Int.ne_of_lt c.height_pos)
  constructor
  · rintro ⟨_, hitems, hb, hwidth, hheight, rfl⟩
    exact ⟨hb, hwidth, hheight, (Document.items?_eq_map_int_iff (hne hb hheight)).mp hitems⟩
  · rintro ⟨hb, hwidth, hheight, rfl⟩
    exact ⟨_, rfl, hb, hwidth, hheight, rfl⟩

theorem readShape_eq_ok_iff {shape : Shape} :
    readShape slot d = .ok shape ↔ Shape.read d = .ok shape := by
  unfold readShape
  split <;> simp_all

theorem readWhole_eq_ok_iff {name : String} {n : Int} :
    readWhole slot name d = .ok n ↔ d = .int n := by
  cases d <;> simp [readWhole]

theorem readPiece_eq_ok_iff {p : Piece} :
    readPiece slot d = .ok p ↔ p.SpelledBy d ∧ p.Reduced := by
  unfold readPiece
  simp only [except_bind_eq_ok, field_eq_ok_iff, readShape_eq_ok_iff, readWhole_eq_ok_iff]
  constructor
  · rintro ⟨name, hname, shape, hshape, _, hx, _, hy, _, hrotation, x, rfl, y, rfl, rotation, rfl, h⟩
    split at h
    · rename_i hreduced
      cases h
      exact ⟨⟨⟨name, hname, hshape⟩, hx, hy, hrotation⟩, hreduced⟩
    · exact nomatch h
  · rintro ⟨⟨⟨name, hname, hshape⟩, hx, hy, hrotation⟩, hreduced⟩
    exact ⟨name, hname, _, hshape, _, hx, _, hy, _, hrotation, _, rfl, _, rfl, _, rfl,
      if_pos hreduced⟩

theorem readCounter_eq_ok_iff {name : String} {n : Int} :
    readCounter name d = .ok n ↔ d = .int n ∧ 0 ≤ n := by
  cases d with
  | int m =>
      rw [readCounter]
      split
      · rename_i hneg
        simp only [reduceCtorEq, false_iff, Document.int.injEq]
        rintro ⟨rfl, hnonneg⟩
        omega
      · rename_i hnonneg
        simp only [Except.ok.injEq, Document.int.injEq, iff_self_and]
        omega
  | _ => simp [readCounter]

/-- The check of a piece asks whether it lies on a board of that size or above it. -/
theorem checkPiece_eq_ok_iff {b : Board} (hwidth : b.width = c.width) (hheight : b.height = c.height)
    {p : Piece} {u : Unit} : checkPiece slot b p = .ok u ↔ p.Inside c := by
  have hall : p.cells.all b.inBounds = true ↔ p.Inside c := by
    simp only [List.all_eq_true, Board.inBounds, Bool.and_eq_true, decide_eq_true_eq, hwidth,
      hheight, Piece.Inside, and_assoc]
  unfold checkPiece
  split
  · rename_i h
    exact iff_of_true rfl (hall.mp h)
  · rename_i h
    refine iff_of_false (fun hok => ?_) fun hinside => h (hall.mpr hinside)
    cases hok

end Snapshot

end FallingBlocks
