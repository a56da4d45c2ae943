/-
A snapshot is read back from its document exactly when it passes the reader's checks.

The writer puts every field under the name that the reader looks for, a shape under its
letter and a mask under its number.  So no check that the reader makes is about the
spelling of such a document: all that is left of them is what they ask of the snapshot.

Nor is anything lost when the document is printed.  It is made of whole numbers, truth
values and plain words, and its fields have different names.  It is never deep: the board and
the two pieces are all that lies in it.
-/
import FallingBlocks.Document.Limits
import FallingBlocks.Proofs.Document.Reading
import FallingBlocks.Proofs.Snapshot.Loading
import FallingBlocks.Snapshot.Encoding

namespace FallingBlocks

/-- The letter of a shape is one of its names. -/
theorem Shape.read_letter (s : Shape) :
    read (.text (String.singleton s.letter)) = .ok s := by
  cases s <;> rfl

theorem Piece.spelledBy_toDocument (p : Piece) : p.SpelledBy p.toDocument :=
  { shape := ⟨_, rfl, p.shape.read_letter⟩
    x := rfl
    y := rfl
    rotation := rfl }

namespace Snapshot

variable {c : Config} {s : Snapshot}

theorem spelledBy_toDocument (s : Snapshot) : s.SpelledBy s.toDocument :=
  { board := rfl
    current := ⟨_, rfl, s.current.spelledBy_toDocument⟩
    next := ⟨_, rfl, s.next.spelledBy_toDocument⟩
    score := rfl
    level := rfl
    linesCleared := rfl
    gameOver := rfl }

/-- What passes the checks is read back as it was. -/
theorem load_toDocument (h : s.Accepted c) : load c s.toDocument = .ok s :=
  load_eq_ok_iff.mpr ⟨s.spelledBy_toDocument, h⟩

/-- **A snapshot is read back from its document exactly when it passes the checks.** -/
theorem load_toDocument_iff : load c s.toDocument = .ok s ↔ s.Accepted c :=
  ⟨accepted_of_load, load_toDocument⟩

end Snapshot

/-! ### Depth -/

theorem Document.itemsDepth_map_int (ns : List Int) : itemsDepth (ns.map .int) = 0 := by
  induction ns with
  | nil => rfl
  | cons n ns ih =>
      rw [List.map_cons, itemsDepth, ih]
      rfl

/-- How deep the document of a snapshot goes. -/
def Snapshot.documentDepth : Nat := 2

theorem Snapshot.depth_toDocument (s : Snapshot) : s.toDocument.depth = documentDepth := by
  have hpiece (p : Piece) : p.toDocument.depth = 1 := rfl
  simp [toDocument, Document.depth, Document.fieldsDepth, Document.itemsDepth_map_int, hpiece,
    documentDepth]

/-! ### Printing -/

open Document in
/-- The document of a piece is read back from its print. -/
theorem Piece.readsBack_toDocument (p : Piece) : p.toDocument.ReadsBack := by
  have hletter : PlainText (String.singleton p.shape.letter) := by
    cases p.shape <;> exact plainText_ofString (by decide)
  refine readsBack_object ?_ ?_
  · simp only [List.forall_mem_cons]
    exact ⟨⟨plainText_ofString (by decide), readsBack_text hletter⟩,
      ⟨plainText_ofString (by decide), readsBack_int p.x⟩,
      ⟨plainText_ofString (by decide), readsBack_int p.y⟩,
      ⟨plainText_ofString (by decide), readsBack_int p.rotation⟩, nofun⟩
  · show (["shape", "x", "y", "rotation"].map Text.ofString).Nodup
    decide

open Document in
/-- **The document of a snapshot is read back from its print**, whatever the snapshot. -/
theorem Snapshot.readsBack_toDocument (s : Snapshot) : s.toDocument.ReadsBack := by
  have hboard : (array (s.board.map .int)).ReadsBack := by
    refine readsBack_array fun d hd => ?_
    obtain ⟨m, -, rfl⟩ := List.mem_map.mp hd
    exact readsBack_int m
  refine readsBack_object ?_ ?_
  · simp only [List.forall_mem_cons]
    exact ⟨⟨plainText_ofString (by decide), hboard⟩,
      ⟨plainText_ofString (by decide), s.current.readsBack_toDocument⟩,
      ⟨plainText_ofString (by decide), s.next.readsBack_toDocument⟩,
      ⟨plainText_ofString (by decide), readsBack_int s.score⟩,
      ⟨plainText_ofString (by decide), readsBack_int s.level⟩,
      ⟨plainText_ofString (by decide), readsBack_int s.linesCleared⟩,
      ⟨plainText_ofString (by decide), readsBack_bool s.gameOver⟩, nofun⟩
  · show (["board", "current_piece", "next_piece", "score", "level", "lines_cleared",
      "game_over"].map Text.ofString).Nodup
    decide

end FallingBlocks
