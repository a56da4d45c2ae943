/-
What crosses the load boundary.

The reader asks a document for its own fields by name and for nothing else.  So two
documents are read alike, down to the fault, as soon as they agree on these fields, and a
field that no snapshot or no piece has can be set to anything.  What is read is what is
spelled, and writing it and reading it again changes nothing, however the document that
it came from had spelled the shapes.
-/
import FallingBlocks.Proofs.Snapshot.Encoding

namespace FallingBlocks

namespace Document

variable {name other : Text} {value : Document} {fields : List (Text × Document)}

theorem lookup_setField_self : lookup name (setField name value fields) = some value := by
  induction fields with
  | nil => simp [setField, lookup]
  | cons f rest ih =>
      rw [setField]
      split
      · simp [lookup]
      · rename_i hne
        simp only [lookup, List.find?_cons, hne] at ih ⊢
        exact ih

theorem lookup_setField_of_ne (h : other ≠ name) :
    lookup other (setField name value fields) = lookup other fields := by
  have hname : (name == other) = false := beq_eq_false_iff_ne.mpr h.symm
  induction fields with
  | nil => simp [setField, lookup, hname]
  | cons f rest ih =>
      rw [setField]
      split
      · rename_i hf
        have hother : (f.1 == other) = false := by rw [eq_of_beq hf, hname]
        simp [lookup, hname, hother]
      · simp only [lookup, List.find?_cons] at ih ⊢
        split
        · rfl
        · exact ih

end Document

open Document (lookup setField lookup_setField_self lookup_setField_of_ne)

/-- The fields of a piece. -/
def Piece.fieldNames : List Text := ["shape", "x", "y", "rotation"]

/-- Documents that differ, if at all, in fields that no piece has. -/
inductive Piece.Alike : Document → Document → Prop
  | same (d : Document) : Alike d d
  | fields {fields fields' : List (Text × Document)}
      (h : ∀ name ∈ fieldNames, lookup name fields = lookup name fields') :
      Alike (.object fields) (.object fields')

namespace Snapshot

/-- The fields of a snapshot. -/
def fieldNames : List Text :=
  ["board", "current_piece", "next_piece", "score", "level", "lines_cleared", "game_over"]

/-- Fields of snapshots that differ, if at all, where no snapshot and no piece has a field. -/
structure Alike (fields fields' : List (Text × Document)) : Prop where
  plain : ∀ name ∈ fieldNames, (∀ slot : Slot, name ≠ slot.field) →
    lookup name fields = lookup name fields'
  pieces : ∀ slot : Slot,
    Option.Rel Piece.Alike (lookup slot.field fields) (lookup slot.field fields')

variable {c : Config} {fields fields' : List (Text × Document)} {slot : Slot}

theorem field_congr {name : String} (h : lookup name fields = lookup name fields') :
    field (.object fields) name = field (.object fields') name := by
  simp only [field, h]

theorem readPiece_congr {d d' : Document} (h : Piece.Alike d d') :
    readPiece slot d = readPiece slot d' := by
  cases h with
  | same => rfl
  | fields h =>
      have hshape := field_congr (h "shape" (by simp [Piece.fieldNames]))
      have hx := field_congr (h "x" (by simp [Piece.fieldNames]))
      have hy := field_congr (h "y" (by simp [Piece.fieldNames]))
      have hrotation := field_congr (h "rotation" (by simp [Piece.fieldNames]))
      simp only [readPiece, hshape, hx, hy, hrotation]

/-- A piece is looked up and read alike, whatever is done with it afterwards. -/
theorem bind_readPiece_congr {α : Type} {name : String} (next : Piece → Except Fault α)
    (h : Option.Rel Piece.Alike (lookup name fields) (lookup name fields')) :
    (field (.object fields) name >>= fun d => readPiece slot d >>= next) =
      (field (.object fields') name >>= fun d => readPiece slot d >>= next) := by
  simp only [field]
  generalize lookup name fields = found at h ⊢
  generalize lookup name fields' = found' at h ⊢
  cases h with
  | some h => simp only [bind, Except.bind, readPiece_congr h]
  | none => rfl

/-- **Fields that are not asked for make no difference**, not even to the fault. -/
theorem load_congr (h : Alike fields fields') :
    load c (.object fields) = load c (.object fields') := by
  have plain (name : String) (hname : (name : Text) ∈ fieldNames)
      (hslot : ∀ slot : Slot, (name : Text) ≠ slot.field) :
      field (.object fields) name = field (.object fields') name :=
    field_congr (h.plain name hname hslot)
  have hcurrent :
      Option.Rel Piece.Alike (lookup "current_piece" fields) (lookup "current_piece" fields') :=
    h.pieces .current
  have hnext : Option.Rel Piece.Alike (lookup "next_piece" fields) (lookup "next_piece" fields') :=
    h.pieces .next
  unfold load loadWith
  rw [plain "board" (by simp [fieldNames]) (by rintro ⟨⟩ <;> simp [Slot.field]),
    plain "score" (by simp [fieldNames]) (by rintro ⟨⟩ <;> simp [Slot.field]),
    plain "level" (by simp [fieldNames]) (by rintro ⟨⟩ <;> simp [Slot.field]),
    plain "lines_cleared" (by simp [fieldNames]) (by rintro ⟨⟩ <;> simp [Slot.field]),
    plain "game_over" (by simp [fieldNames]) (by rintro ⟨⟩ <;> simp [Slot.field])]
  simp only [bind_readPiece_congr _ hcurrent, bind_readPiece_congr _ hnext]

/-! ### Setting a field that is not asked for -/

theorem pieces_alike_of_eq {found found' : Option Document} (h : found = found') :
    Option.Rel Piece.Alike found found' := by
  subst h
  cases found with
  | none => exact .none
  | some d => exact .some (.same d)

theorem Slot.field_mem (slot : Slot) : (slot.field : Text) ∈ fieldNames := by
  cases slot <;> simp [fieldNames, Slot.field]

theorem Slot.field_inj {slot slot' : Slot} (h : (slot.field : Text) = slot'.field) :
    slot = slot' := by
  cases slot <;> cases slot' <;> simp_all [Slot.field]

theorem alike_setField {name : Text} (value : Document) (h : name ∉ fieldNames) :
    Alike (setField name value fields) fields := by
  have hne {own : Text} (hown : own ∈ fieldNames) : own ≠ name := fun heq => h (heq ▸ hown)
  exact
    { plain := fun own hown _ => lookup_setField_of_ne (hne hown)
      pieces := fun slot => pieces_alike_of_eq (lookup_setField_of_ne (hne slot.field_mem)) }

theorem alike_setField_piece {piece piece' : Document} (h : Piece.Alike piece piece') :
    Alike (setField slot.field piece fields) (setField slot.field piece' fields) := by
  refine { plain := fun own _ hslot => ?_, pieces := fun other => ?_ }
  · rw [lookup_setField_of_ne (hslot slot), lookup_setField_of_ne (hslot slot)]
  · by_cases hother : other = slot
    · subst hother
      rw [lookup_setField_self, lookup_setField_self]
      exact .some h
    · have hne : (other.field : Text) ≠ slot.field := fun heq => hother (Slot.field_inj heq)
      rw [lookup_setField_of_ne hne, lookup_setField_of_ne hne]
      exact pieces_alike_of_eq rfl

/--
**The reader accepts exactly the documents that spell a snapshot, and gives out what they
spell.**  What it has given out is read back from its own document as it was, however the
first document spelled it, and fields of other names are ignored, in a snapshot as in its
pieces.
-/
theorem reads_exactly_spelled (c : Config) :
    (∀ d s, load c d = .ok s ↔ s.SpelledBy d ∧ s.Accepted c) ∧
    (∀ d s, load c d = .ok s → load c s.toDocument = .ok s) ∧
    (∀ fields name value, name ∉ fieldNames →
      load c (.object (setField name value fields)) = load c (.object fields)) ∧
    ∀ (slot : Slot) (fields piece) (name value), name ∉ Piece.fieldNames →
      load c (.object (setField slot.field (.object (setField name value piece)) fields)) =
        load c (.object (setField slot.field (.object piece) fields)) := by
  refine ⟨fun d s => load_eq_ok_iff, ?_, ?_, ?_⟩
  · intro d s h
    exact load_toDocument (accepted_of_load h)
  · intro fields name value h
    exact load_congr (alike_setField value h)
  · intro slot fields piece name value h
    refine load_congr (alike_setField_piece (.fields fun own hown => ?_))
    exact lookup_setField_of_ne fun heq => h (heq ▸ hown)

/-- A snapshot with fields of no meaning, a shape in a small letter and one by its number. -/
def looselySpelled : Document :=
  .object
    [("note", .text "after supper"),
     ("game_over", .bool false),
     ("board", .array [.int 0, .int 5]),
     ("current_piece",
       .object [("shape", .text " t "), ("x", .int 1), ("y", .int (-1)), ("rotation", .int 2)]),
     ("next_piece",
       .object [("shape", .int 3), ("x", .int 1), ("y", .int 0), ("rotation", .int 0),
         ("colour", .text "red")]),
     ("score", .int 40), ("level", .int 1), ("lines_cleared", .int 0)]

/-- The snapshot that `looselySpelled` spells. -/
def spelledOut : Snapshot where
  board := [0, 5]
  current := { shape := .T, x := 1, y := -1, rotation := 2 }
  next := { shape := .O, x := 1, y := 0 }
  score := 40

/-- Read loosely, a snapshot is written strictly and read again as the same. -/
theorem reads_exactly_spelled_loose :
    load { width := 4, height := 2 } looselySpelled = .ok spelledOut ∧
      spelledOut.SpelledBy looselySpelled ∧ spelledOut.Accepted { width := 4, height := 2 } ∧
      load { width := 4, height := 2 } spelledOut.toDocument = .ok spelledOut := by
  have hload : load { width := 4, height := 2 } looselySpelled = .ok spelledOut := rfl
  obtain ⟨hexact, hagain, -, -⟩ := reads_exactly_spelled { width := 4, height := 2 }
  obtain ⟨hspelled, haccepted⟩ := (hexact _ _).mp hload
  exact ⟨hload, hspelled, haccepted, hagain _ _ hload⟩

end Snapshot

end FallingBlocks
