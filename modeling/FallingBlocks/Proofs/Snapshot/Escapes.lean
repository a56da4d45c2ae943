/-
The faults that the reader of snapshots does not report as refusals.

A reader stops in two ways: with a refusal, which says what is wrong with the snapshot, or
with a fault of something it has called.  How a chain of readers can stop in the second way
is found link by link, and most links cannot.  What is left is an infinite number as the
number of a shape, a board with more columns than a number has room for bits, and a number
with too many digits for the message that would show it.
-/
import FallingBlocks.Proofs.Snapshot.Spelling
import FallingBlocks.Raw.Loading

namespace FallingBlocks

/-- The document is an infinite number. -/
def Document.IsInfinite (d : Document) : Prop :=
  ∃ x negative, d = .float x ∧ Decimal.Binary.ofFloat x = .infinite negative

theorem Shape.read_eq_infinite_iff {d : Document} :
    read d = .error (.noNumber .infinite) ↔ d.IsInfinite := by
  have hvalue (n : Int) : ofValue (.int n) ≠ .error (.noNumber .infinite) := by
    unfold ofValue
    split <;> simp
  cases d with
  | float x =>
      cases hx : Decimal.Binary.ofFloat x <;>
        simp [read, Document.toWhole, Document.IsInfinite, hx, hvalue]
  | text t => cases ht : ofName? t <;> simp [read, Document.IsInfinite, ht]
  | _ => simp [read, Document.toWhole, Document.IsInfinite, hvalue]

namespace Snapshot

/-- The reader stops with a fault that is no refusal. -/
def Stops {α : Type} (x : Except Fault α) (fault : Fault) : Prop :=
  x = .error fault ∧ fault.isRefusal = false

section Stopping

variable {α β : Type} {slot : Slot} {d : Document} {fault : Fault}

theorem stops_bind {x : Except Fault α} {f : α → Except Fault β} :
    Stops (x >>= f) fault ↔ Stops x fault ∨ ∃ a, x = .ok a ∧ Stops (f a) fault := by
  unfold Stops
  rw [except_bind_eq_error]
  constructor
  · rintro ⟨hx | ⟨a, ha, hfault⟩, hstops⟩
    · exact .inl ⟨hx, hstops⟩
    · exact .inr ⟨a, ha, hfault, hstops⟩
  · rintro (⟨hx, hstops⟩ | ⟨a, ha, hfault, hstops⟩)
    · exact ⟨.inl hx, hstops⟩
    · exact ⟨.inr ⟨a, ha, hfault⟩, hstops⟩

theorem not_stops_ok {a : α} : ¬ Stops (.ok a) fault := fun h => nomatch h.1

theorem stops_error_iff {fault' : Fault} :
    Stops (.error fault' : Except Fault α) fault ↔ fault' = fault ∧ fault'.isRefusal = false := by
  constructor
  · rintro ⟨heq, hstops⟩
    cases heq
    exact ⟨rfl, hstops⟩
  · rintro ⟨rfl, hstops⟩
    exact ⟨rfl, hstops⟩

theorem not_stops_error {fault' : Fault} (h : fault'.isRefusal = true) :
    ¬ Stops (.error fault' : Except Fault α) fault := by
  simp [stops_error_iff, h]

theorem not_stops_ite {p : Prop} [Decidable p] {x y : Except Fault α} (hx : ¬ Stops x fault)
    (hy : ¬ Stops y fault) : ¬ Stops (if p then x else y) fault := by
  split
  · exact hx
  · exact hy

theorem not_stops_field {name : String} : ¬ Stops (field d name) fault := by
  unfold field
  split
  · split
    · exact not_stops_ok
    · exact not_stops_error rfl
  · exact not_stops_error rfl

theorem not_stops_readWhole {name : String} : ¬ Stops (readWhole slot name d) fault := by
  unfold readWhole
  split
  · exact not_stops_ok
  · exact not_stops_error rfl

theorem not_stops_readCounter {name : String} : ¬ Stops (readCounter name d) fault := by
  unfold readCounter
  split
  · split
    · exact not_stops_error rfl
    · exact not_stops_ok
  · exact not_stops_error rfl

theorem not_stops_checkPiece {b : Board} {p : Piece} : ¬ Stops (checkPiece slot b p) fault := by
  unfold checkPiece
  split
  · exact not_stops_ok
  · exact not_stops_error rfl

theorem stops_readShape_iff :
    Stops (readShape slot d) fault ↔ d.IsInfinite ∧ fault = .infiniteShape := by
  rw [← Shape.read_eq_infinite_iff]
  unfold readShape
  cases hread : Shape.read d with
  | ok shape => simp [not_stops_ok]
  | error shapeFault =>
      cases shapeFault with
      | noNumber number =>
          cases number <;> simp [stops_error_iff, Fault.isRefusal, eq_comm]
      | _ => simp [stops_error_iff, Fault.isRefusal]

/-- The document has an infinite number where a piece has its shape. -/
def HasInfiniteShape (d : Document) : Prop :=
  ∃ name, d.get? "shape" = some name ∧ name.IsInfinite

theorem stops_readPiece_iff :
    Stops (readPiece slot d) fault ↔ HasInfiniteShape d ∧ fault = .infiniteShape := by
  have hlast {p : Prop} [Decidable p] {piece : Piece} {found : Int} :
      ¬ Stops (if p then .ok piece else .error (.badRotation slot found)) fault :=
    not_stops_ite not_stops_ok (not_stops_error rfl)
  unfold readPiece
  simp only [stops_bind, not_stops_field, not_stops_readWhole, hlast, stops_readShape_iff,
    field_eq_ok_iff, HasInfiniteShape, false_or, and_false, exists_false, or_false]
  constructor
  · rintro ⟨name, hname, hinfinite, hfault⟩
    exact ⟨⟨name, hname, hinfinite⟩, hfault⟩
  · rintro ⟨⟨name, hname, hinfinite⟩, hfault⟩
    exact ⟨name, hname, hinfinite, hfault⟩

variable {board : Document → Except Fault Board}

/--
**What the reader of snapshots does not refuse** is what the reader of the board does not,
and then an infinite number as the shape of the first piece, or of the second.
-/
theorem stops_loadWith_iff :
    Stops (loadWith board d) fault ↔
      ∃ rows, d.get? "board" = some rows ∧ (Stops (board rows) fault ∨
        ∃ b, board rows = .ok b ∧ ∃ first, d.get? "current_piece" = some first ∧
          (HasInfiniteShape first ∧ fault = .infiniteShape ∨
            ∃ p, readPiece .current first = .ok p ∧
              ∃ second, d.get? "next_piece" = some second ∧
                HasInfiniteShape second ∧ fault = .infiniteShape)) := by
  unfold loadWith
  simp only [stops_bind, not_stops_field, not_stops_readCounter, stops_readPiece_iff,
    field_eq_ok_iff, false_or]
  constructor
  · rintro ⟨rows, hrows, h⟩
    refine ⟨rows, hrows, ?_⟩
    rcases h with h | ⟨b, hb, first, hfirst, h⟩
    · exact .inl h
    refine .inr ⟨b, hb, first, hfirst, ?_⟩
    rcases h with h | ⟨p, hp, second, hsecond, h⟩
    · exact .inl h
    refine .inr ⟨p, hp, second, hsecond, ?_⟩
    rcases h with h | ⟨_, -, _, -, _, -, _, -, _, -, _, -, _, -, _, -, h⟩
    · exact h
    -- After the pieces come the counters and the checks, and they only refuse.
    · exfalso
      split at h
      · refine not_stops_ite (not_stops_error rfl) (fun hchecks => ?_) h
        simp [stops_bind, not_stops_checkPiece, not_stops_ok] at hchecks
      · exact not_stops_error rfl h
  · rintro ⟨rows, hrows, h⟩
    refine ⟨rows, hrows, ?_⟩
    rcases h with h | ⟨b, hb, first, hfirst, h⟩
    · exact .inl h
    refine .inr ⟨b, hb, first, hfirst, ?_⟩
    rcases h with h | ⟨p, hp, second, hsecond, h⟩
    · exact .inl h
    · exact .inr ⟨p, hp, second, hsecond, .inl h⟩

end Stopping

end Snapshot

/-! ### Settings of any sort -/

namespace Settings

variable {c : Settings}

theorem width_pos (h : c.accepted = .ok ()) {w : Int} (hw : c.width.integer? = some w) :
    0 < w := by
  rw [accepted, except_bind_eq_ok] at h
  obtain ⟨_, h, -⟩ := h
  cases hwidth : c.width with
  | bool b =>
      cases b with
      | true =>
          rw [hwidth] at hw
          cases hw
          decide
      | false => simp [positive, hwidth] at h
  | int n =>
      rw [hwidth] at h hw
      cases hw
      by_contra hneg
      simp [positive, hneg] at h
  | _ =>
      rw [hwidth] at hw
      exact nomatch hw

end Settings

namespace Document

variable [Machine]

/-- There is no power of two that large: it has more digits than a number can have, or more bits. -/
def TooLarge (exponent : Int) : Prop :=
  digitExponent ≤ exponent ∨ Machine.bits ≤ exponent

theorem powerOfTwo_int {w : Int} (hw : 0 ≤ w) (h : ¬ TooLarge w) :
    (int w).powerOfTwo = .ok (Nat.pow 2 w.toNat) := by
  rw [TooLarge, not_or] at h
  simp only [powerOfTwo, integer?, if_neg (Int.not_lt.mpr hw), if_neg h.1, if_neg h.2]

/-- What has no power of two, though it is of a kind that could, is too large for one. -/
theorem powerOfTwo_too_large_iff {d : Document} (hpos : ∀ w, d.integer? = some w → 0 < w) :
    (∃ fault, d.powerOfTwo = .error fault ∧ fault.isMismatch = false) ↔
      ∃ w, d.integer? = some w ∧ TooLarge w := by
  unfold powerOfTwo TooLarge
  cases hw : d.integer? with
  | none => simp [OperandFault.isMismatch]
  | some w =>
      have hpos := hpos w hw
      simp only [if_neg (Int.not_lt.mpr (Int.le_of_lt hpos)), Option.some.injEq, exists_eq_left']
      split
      · rename_i hdigits
        exact iff_of_true ⟨_, rfl, rfl⟩ (.inl hdigits)
      · rename_i hdigits
        split
        · rename_i hmemory
          exact iff_of_true ⟨_, rfl, rfl⟩ (.inr hmemory)
        · rename_i hmemory
          exact iff_of_false (fun ⟨_, h, _⟩ => nomatch h) (not_or.mpr ⟨hdigits, hmemory⟩)

end Document

namespace Raw

open FallingBlocks.Snapshot (Stops HasInfiniteShape loadWith stops_loadWith_iff stops_error_iff)

variable {c : Settings} {d rows : Document}

/-- The fault is reported as a refusal of the snapshot. -/
def Fault.isRefusal : Fault → Bool
  | .snapshot fault => fault.isRefusal
  | _ => false

/-- A row of a board of any size is read, or refused for what it is. -/
theorem Board.refusal_of_readRow {width item : Document} {power : Int} {i : Nat}
    {fault : FallingBlocks.Board.RowsFault} (h : readRow width power i item = .error fault) :
    (FallingBlocks.Snapshot.Fault.rows fault).isRefusal = true := by
  cases item with
  | int m =>
      rw [readRow] at h
      split at h
      · exact nomatch h
      · cases h
        rfl
  | _ =>
      cases h
      rfl

section Machines

variable [Machine]

/-- The board has the height asked for, and more columns than a number has room for bits. -/
def TooWide (c : Settings) (rows : Document) : Prop :=
  ∃ items w, rows.items? = some items ∧ c.height.sameNumber (.int items.length) = true ∧
    c.width.integer? = some w ∧ Document.TooLarge w

/-- The board of any size stops the reader just where its width is too large. -/
theorem Board.checked_stops_iff {width : Document} (height : Document) (items : List Document)
    (hpos : ∀ w, width.integer? = some w → 0 < w) :
    (∃ fault, checked width height items = .error fault ∧
        (FallingBlocks.Snapshot.Fault.rows fault).isRefusal = false) ↔
      height.sameNumber (.int items.length) = true ∧
        ∃ w, width.integer? = some w ∧ Document.TooLarge w := by
  rw [← Document.powerOfTwo_too_large_iff hpos]
  unfold checked
  cases hsame : height.sameNumber (.int items.length) with
  | false => simp [FallingBlocks.Snapshot.Fault.isRefusal]
  | true =>
      simp only [Bool.not_true, Bool.false_eq_true, if_false, true_and]
      constructor
      · rintro ⟨fault, hfault, hstops⟩
        rw [except_bind_eq_error] at hfault
        rcases hfault with hpower | ⟨power, -, hmasks⟩
        · obtain ⟨powerFault, hlarge, rfl⟩ := except_mapError_eq_error.mp hpower
          exact ⟨powerFault, hlarge, hstops⟩
        · rw [except_bind_eq_error] at hmasks
          rcases hmasks with hmasks | ⟨_, -, hmade⟩
          · obtain ⟨⟨item, i⟩, -, hitem⟩ := except_mapM_error hmasks
            rw [refusal_of_readRow hitem] at hstops
            exact nomatch hstops
          · exact nomatch hmade
      · rintro ⟨fault, hfault, hmismatch⟩
        refine ⟨.noMask fault, ?_, hmismatch⟩
        rw [hfault]
        rfl

theorem stops_readBoard_iff (h : c.accepted = .ok ()) :
    (∃ fault, Stops (readBoard c rows) fault) ↔ TooWide c rows := by
  unfold readBoard TooWide
  cases hitems : rows.items? with
  | none => simp [stops_error_iff, FallingBlocks.Snapshot.Fault.isRefusal]
  | some items =>
      have hchecked := Board.checked_stops_iff c.height items fun w hw => Settings.width_pos h hw
      constructor
      · rintro ⟨fault, hfault, hstops⟩
        obtain ⟨rowsFault, hboard, rfl⟩ := except_mapError_eq_error.mp hfault
        obtain ⟨hsame, w, hw, hlarge⟩ := hchecked.mp ⟨rowsFault, hboard, hstops⟩
        exact ⟨items, w, rfl, hsame, hw, hlarge⟩
      · rintro ⟨_, w, hitems', hsame, hw, hlarge⟩
        cases hitems'
        obtain ⟨rowsFault, hboard, hstops⟩ := hchecked.mpr ⟨hsame, w, hw, hlarge⟩
        exact ⟨.rows rowsFault, except_mapError_eq_error.mpr ⟨rowsFault, hboard, rfl⟩, hstops⟩

/-! ### The load boundary -/

/-- Documents that are neither read nor refused. -/
inductive Escapes (c : Settings) (d : Document) : Prop
  | tooWide {rows : Document} (hrows : d.get? "board" = some rows) (h : TooWide c rows)
  /-- The board is read, and then the first piece is looked at. -/
  | current {rows piece : Document} {b : FallingBlocks.Board}
      (hrows : d.get? "board" = some rows) (hboard : readBoard c rows = .ok b)
      (hpiece : d.get? "current_piece" = some piece) (h : HasInfiniteShape piece)
  /-- The board and the first piece are read, and then the second piece is looked at. -/
  | next {rows first piece : Document} {b : FallingBlocks.Board} {p : FallingBlocks.Piece}
      (hrows : d.get? "board" = some rows) (hboard : readBoard c rows = .ok b)
      (hfirst : d.get? "current_piece" = some first)
      (hread : FallingBlocks.Snapshot.readPiece .current first = .ok p)
      (hpiece : d.get? "next_piece" = some piece) (h : HasInfiniteShape piece)
  /-- A check has failed, and the refusal would show a number with too many digits. -/
  | tooLong {fault : FallingBlocks.Snapshot.Fault}
      (hrefused : loadWith (readBoard c) d = .error fault)
      (h : fault.shown.any (Document.hasTooLong .usual) = true)

omit [Machine] in
theorem isRefusal_faultOfSnapshot_iff {fault : FallingBlocks.Snapshot.Fault} :
    (faultOfSnapshot fault).isRefusal = false ↔
      fault.isRefusal = false ∨ fault.shown.any (Document.hasTooLong .usual) = true := by
  unfold faultOfSnapshot
  split
  · rename_i hlong
    exact iff_of_true rfl (.inr hlong)
  · rename_i hshown
    rw [or_iff_left hshown]
    rfl

theorem escapes_iff (hc : c.accepted = .ok ()) :
    (∃ fault, load c d = .error fault ∧ fault.isRefusal = false) ↔ Escapes c d := by
  unfold load
  constructor
  · rintro ⟨fault, hfault, hescapes⟩
    obtain ⟨snapshotFault, hload, rfl⟩ := except_mapError_eq_error.mp hfault
    rcases isRefusal_faultOfSnapshot_iff.mp hescapes with hstops | hlong
    · obtain ⟨rows, hrows, h⟩ := stops_loadWith_iff.mp ⟨hload, hstops⟩
      rcases h with h | ⟨b, hboard, first, hfirst, h | ⟨p, hread, piece, hpiece, h⟩⟩
      · exact .tooWide hrows ((stops_readBoard_iff hc).mp ⟨_, h⟩)
      · exact .current hrows hboard hfirst h.1
      · exact .next hrows hboard hfirst hread hpiece h.1
    · exact .tooLong hload hlong
  · have of_stops {fault : FallingBlocks.Snapshot.Fault}
        (h : Stops (loadWith (readBoard c) d) fault) :
        ∃ fault, (loadWith (readBoard c) d).mapError faultOfSnapshot = .error fault ∧
          fault.isRefusal = false := by
      rw [h.1]
      exact ⟨_, rfl, isRefusal_faultOfSnapshot_iff.mpr (.inl h.2)⟩
    intro h
    cases h with
    | tooWide hrows h =>
        obtain ⟨fault, hfault⟩ := (stops_readBoard_iff hc).mpr h
        exact of_stops (stops_loadWith_iff.mpr ⟨_, hrows, .inl hfault⟩)
    | current hrows hboard hpiece h =>
        exact of_stops (stops_loadWith_iff.mpr
          ⟨_, hrows, .inr ⟨_, hboard, _, hpiece, .inl ⟨h, rfl⟩⟩⟩)
    | next hrows hboard hfirst hread hpiece h =>
        exact of_stops (stops_loadWith_iff.mpr
          ⟨_, hrows, .inr ⟨_, hboard, _, hfirst, .inr ⟨_, hread, _, hpiece, h, rfl⟩⟩⟩)
    | tooLong hrefused hlong =>
        rw [hrefused]
        exact ⟨_, rfl, isRefusal_faultOfSnapshot_iff.mpr (.inr hlong)⟩

/--
**The load boundary reads a document or refuses it, unless the document escapes** by one of
the four ways out: then it stops with a fault that is no refusal.
-/
theorem reads_or_refuses_iff (c : Settings) (hc : c.accepted = .ok ()) (d : Document) :
    ((∃ s, load c d = .ok s) ∨ ∃ fault, load c d = .error fault ∧ fault.isRefusal = true) ↔
      ¬ Escapes c d := by
  rw [← escapes_iff hc]
  cases load c d with
  | ok s => simp
  | error fault => cases fault.isRefusal <;> simp_all

end Machines

/-- A snapshot of an empty board, but for the shape of the falling piece. -/
def withShape (name : Document) : Document :=
  .object
    [("board", .array [.int 0, .int 0]),
     ("current_piece",
       .object [("shape", name), ("x", .int 1), ("y", .int 0), ("rotation", .int 0)]),
     ("next_piece",
       .object [("shape", .text "O"), ("x", .int 1), ("y", .int 0), ("rotation", .int 0)]),
     ("score", .int 0), ("level", .int 1), ("lines_cleared", .int 0), ("game_over", .bool false)]

/-- A shape that is no number at all is refused, and so does not escape; an infinite one does. -/
theorem reads_or_refuses_iff_narrow :
    ¬ Escapes { width := .int 4, height := .int 2 } (withShape (.float Decimal.notANumber)) ∧
      Escapes { width := .int 4, height := .int 2 } (withShape (.float Decimal.infinity)) := by
  have hiff := reads_or_refuses_iff { width := .int 4, height := .int 2 } rfl
  constructor
  · exact (hiff _).mp (.inr ⟨_, rfl, rfl⟩)
  · by_contra h
    have hstops : load { width := .int 4, height := .int 2 } (withShape (.float Decimal.infinity)) =
        .error (.snapshot .infiniteShape) := rfl
    rcases (hiff _).mpr h with ⟨s, hread⟩ | ⟨fault, hfault, hrefusal⟩
    · rw [hstops] at hread
      exact nomatch hread
    · rw [hstops] at hfault
      cases hfault
      exact nomatch hrefusal

/-- Under settings that are accepted, an infinite number as a shape is not refused. -/
theorem infinite_shape_not_refused :
    ({ width := .int 4, height := .int 2 } : Settings).accepted = .ok () ∧
      load { width := .int 4, height := .int 2 } (withShape (.float Decimal.infinity)) =
        .error (.snapshot .infiniteShape) ∧
      (Fault.snapshot .infiniteShape).isRefusal = false :=
  ⟨rfl, rfl, rfl⟩

end Raw

end FallingBlocks
