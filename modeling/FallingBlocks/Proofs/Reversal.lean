/-
Moves that undo each other.

A move that is granted changes nothing of a session but where the piece of its snapshot is,
so a later move is asked of the same board.  It is granted if it takes the piece back to the
cells that it covered at first, and a move back to the very piece leaves the session as it
was.

Two things are needed of the snapshot before.  Its piece has to fit, or there is no room for
it on the way back, and its rotation has to be one of the four, or four turns reduce it.  A
game that goes on has both.  A snapshot that was loaded has the second only.
-/
import FallingBlocks.Proofs.Acts
import FallingBlocks.Proofs.Ending
import FallingBlocks.Proofs.Integrity

namespace FallingBlocks

/-- Room depends on the cells of a piece and on nothing else of it. -/
theorem Position.Admits.of_cells {c : Config} {x : Position} {p q : Piece} (h : x.Admits c p)
    (hcells : q.cells = p.cells) : x.Admits c q := by
  intro cell hcell
  exact h cell (hcells ▸ hcell)

namespace Session

/-- The session with a piece in place of that of its snapshot. -/
def holding (s : Session) (before : Snapshot) (p : Piece) : Session :=
  { s with snapshot := some { before with current := p } }

/-- A game that goes on, whose piece fits and has one of the four rotations. -/
structure Poised (s : Session) (before : Snapshot) : Prop where
  snapshot : s.snapshot = some before
  ready : before.Ready s.config
  reduced : before.current.Reduced

/-- What the moves of a session come to, and which of them undo each other. -/
structure Reverses (s : Session) (before : Snapshot) : Prop where
  /-- A move to the left that is granted is undone by one to the right. -/
  leftRight : s.moveLeft.answer = .ok true →
    s.moveLeft.session.moveRight = { session := s, answer := .ok true }
  /-- A move to the right that is granted is undone by one to the left. -/
  rightLeft : s.moveRight.answer = .ok true →
    s.moveRight.session.moveLeft = { session := s, answer := .ok true }
  /-- Three turns that are granted are undone by a fourth. -/
  fourTurns : s.rotate.answer = .ok true →
    s.rotate.session.rotate.answer = .ok true →
    s.rotate.session.rotate.session.rotate.answer = .ok true →
    s.rotate.session.rotate.session.rotate.session.rotate = { session := s, answer := .ok true }
  /-- A turn of `S` or `Z` that is granted is followed by one back to the same cells. -/
  twoTurns : before.current.shape = .S ∨ before.current.shape = .Z →
    s.rotate.answer = .ok true →
    ∃ p, p.cells = before.current.cells ∧
      s.rotate.session.rotate = { session := s.holding before p, answer := .ok true }
  /-- A turn of `O` is granted and leaves it on its cells. -/
  oneTurn : before.current.shape = .O →
    ∃ p, p.cells = before.current.cells ∧
      s.rotate = { session := s.holding before p, answer := .ok true }
  /-- Granted or not, a move changes the piece at most, and nothing happens on the way. -/
  pieceOnly : ∀ t ∈ [s.moveLeft, s.moveRight, s.rotate],
    ∃ p moved, t = { session := s.holding before p, answer := .ok moved }

/-- A running game on four columns or more, with a row below the spawn row, is poised. -/
theorem poised_after (s : Session) (hwidth : 4 ≤ s.config.width)
    (hrow : s.config.spawnY + 1 < s.config.height) (requests : List Request) {before : Snapshot}
    (hsnap : (s.start.session.after requests).snapshot = some before)
    (hover : before.gameOver = false) : (s.start.session.after requests).Poised before := by
  have hsound := sound_start s
  have hconfig := after_config hsound requests
  have hstart (g : CellGame) (hg : g.config = s.config) :
      g.start.game.Accounted s.config ∧ g.start.game.Upright :=
    ⟨CellGame.accounted_start hwidth hrow hg, CellGame.upright_start g⟩
  obtain ⟨hsound', ⟨-, x, hposition, hx⟩, y, hupright, hreduced⟩ := after_invariant
    (P := fun g => g.Accounted s.config ∧ g.Upright) requests
    (fun _ g hg => hstart g hg.1.1)
    (fun _ _ hg hstep => ⟨hstep.accounted hg.1, hstep.upright hg.2⟩) hsound
    (by rw [start_game]; exact hstart s.cellGame rfl)
  have htidy := hsound'.tidy before hsnap
  rw [cellGame_position hsnap, hconfig] at hposition hupright
  cases hposition
  cases hupright
  rw [hconfig] at htidy
  refine ⟨hsnap, ?_, hreduced⟩
  rw [hconfig]
  exact ⟨hover, htidy, (Snapshot.fits_iff htidy _).mpr (hx.running hover)⟩

namespace Poised

variable {s : Session} {before : Snapshot} (h : s.Poised before)

include h

theorem admits : (before.position s.config).Admits s.config before.current :=
  (Snapshot.fits_iff h.ready.tidy _).mp h.ready.fits

theorem holding_current : s.holding before before.current = s := by
  show { s with snapshot := some before } = s
  rw [← h.snapshot]

section Moves

variable {m : Well → Except Board.Fault (Well × Bool)} {dx turns : Int}
  (hm : ∀ w, m w = w.attempt dx 0 turns)

include hm

/-- A move changes the piece at most. -/
theorem move_pieceOnly :
    ∃ p moved, s.move m = { session := s.holding before p, answer := .ok moved } := by
  by_cases hroom : (before.position s.config).Admits s.config (before.current.moved dx 0 turns)
  · exact ⟨_, true, move_of_admits h.snapshot h.ready.running h.ready.tidy hm hroom⟩
  · refine ⟨before.current, false, ?_⟩
    rw [h.holding_current]
    exact move_of_blocked h.snapshot h.ready.running h.ready.tidy hm hroom

/-- A move that is granted leaves the piece where it takes it, and the game poised. -/
theorem of_granted (hgranted : (s.move m).answer = .ok true) :
    (s.move m).session = s.holding before (before.current.moved dx 0 turns) ∧
      (s.move m).session.Poised (before.moved dx 0 turns) := by
  have hroom : (before.position s.config).Admits s.config (before.current.moved dx 0 turns) := by
    by_contra hblocked
    rw [move_of_blocked h.snapshot h.ready.running h.ready.tidy hm hblocked] at hgranted
    cases hgranted
  rw [move_of_admits h.snapshot h.ready.running h.ready.tidy hm hroom]
  refine ⟨rfl, rfl, ?_, Piece.reduced_moved _ _ _ _⟩
  exact ⟨h.ready.running, h.ready.tidy,
    (Snapshot.fits_iff (s := before.moved dx 0 turns) h.ready.tidy _).mpr hroom⟩

/-- From wherever the piece is, it can be moved to the cells that it covered. -/
theorem move_onto {p : Piece} (hcells : (p.moved dx 0 turns).cells = before.current.cells) :
    (s.holding before p).move m =
      { session := s.holding before (p.moved dx 0 turns), answer := .ok true } := by
  have hsnap : (s.holding before p).snapshot = some { before with current := p } := rfl
  exact move_of_admits hsnap h.ready.running h.ready.tidy hm (h.admits.of_cells hcells)

/-- A move back to the piece that it was leaves the session as it was. -/
theorem move_back {p : Piece} (hpiece : p.moved dx 0 turns = before.current) :
    (s.holding before p).move m = { session := s, answer := .ok true } := by
  rw [h.move_onto hm (by rw [hpiece]), hpiece, h.holding_current]

end Moves

/-! ### The moves one by one -/

/-- A move to one side that is granted is undone by the move to the other. -/
theorem sideways_back {m m' : Well → Except Board.Fault (Well × Bool)} {dx : Int}
    (hm : ∀ w, m w = w.attempt dx 0 0) (hm' : ∀ w, m' w = w.attempt (-dx) 0 0)
    (hgranted : (s.move m).answer = .ok true) :
    (s.move m).session.move m' = { session := s, answer := .ok true } := by
  rw [(h.of_granted hm hgranted).1]
  refine h.move_back hm' ?_
  rw [Piece.moved_moved, Int.add_right_neg]
  exact h.reduced.turned_back rfl

/-- A turn that is granted leaves the piece turned, and the game poised. -/
theorem rotate_granted (hgranted : s.rotate.answer = .ok true) :
    s.rotate.session = s.holding before (before.current.moved 0 0 1) ∧
      s.rotate.session.Poised (before.moved 0 0 1) :=
  h.of_granted (fun _ => rfl) hgranted

/-- Three turns that are granted are undone by a fourth. -/
theorem fourth_turn (hfirst : s.rotate.answer = .ok true)
    (hsecond : s.rotate.session.rotate.answer = .ok true)
    (hthird : s.rotate.session.rotate.session.rotate.answer = .ok true) :
    s.rotate.session.rotate.session.rotate.session.rotate =
      { session := s, answer := .ok true } := by
  obtain ⟨hone, hpoised⟩ := h.rotate_granted hfirst
  obtain ⟨htwo, hpoised'⟩ := hpoised.rotate_granted hsecond
  obtain ⟨hthree, -⟩ := hpoised'.rotate_granted hthird
  rw [hthree, htwo, hone]
  refine h.move_back (m := Well.rotate) (fun _ => rfl) ?_
  show (((before.current.moved 0 0 1).moved 0 0 1).moved 0 0 1).moved 0 0 1 = before.current
  simp only [Piece.moved_moved]
  exact h.reduced.turned_back rfl

/-- A turn of `S` or `Z` that is granted is followed by one back to the same cells. -/
theorem second_turn (hshape : before.current.shape = .S ∨ before.current.shape = .Z)
    (hgranted : s.rotate.answer = .ok true) :
    ∃ p, p.cells = before.current.cells ∧
      s.rotate.session.rotate = { session := s.holding before p, answer := .ok true } := by
  have hcells : ((before.current.moved 0 0 1).moved 0 0 1).cells = before.current.cells := by
    rw [Piece.moved_moved]
    exact Piece.cells_turned (Shape.offsets_half_turn hshape _)
  rw [(h.rotate_granted hgranted).1]
  exact ⟨_, hcells, h.move_onto (fun _ => rfl) hcells⟩

/-- A turn of `O` is granted and leaves it on its cells. -/
theorem only_turn (hshape : before.current.shape = .O) :
    ∃ p, p.cells = before.current.cells ∧
      s.rotate = { session := s.holding before p, answer := .ok true } := by
  have hcells : (before.current.moved 0 0 1).cells = before.current.cells := by
    refine Piece.cells_turned ?_
    rw [hshape]
    exact Shape.offsets_O _ _
  refine ⟨_, hcells, ?_⟩
  have hturned := h.move_onto (m := Well.rotate) (fun _ => rfl) hcells
  rwa [h.holding_current] at hturned

end Poised

/--
**The moves of a running game undo each other.**  This holds of every game begun on four
columns or more with a row below the spawn row, whatever has been asked of it since.
-/
theorem moves_reverse (s : Session) (hwidth : 4 ≤ s.config.width)
    (hrow : s.config.spawnY + 1 < s.config.height) (requests : List Request) {before : Snapshot}
    (hsnap : (s.start.session.after requests).snapshot = some before)
    (hover : before.gameOver = false) : (s.start.session.after requests).Reverses before := by
  have h := poised_after s hwidth hrow requests hsnap hover
  refine
    { leftRight := h.sideways_back (fun _ => rfl) (fun _ => rfl)
      rightLeft := h.sideways_back (fun _ => rfl) (fun _ => rfl)
      fourTurns := h.fourth_turn
      twoTurns := h.second_turn
      oneTurn := h.only_turn
      pieceOnly := ?_ }
  intro t ht
  simp only [List.mem_cons, List.not_mem_nil, or_false] at ht
  rcases ht with rfl | rfl | rfl
  · exact h.move_pieceOnly (m := Well.moveLeft) fun _ => rfl
  · exact h.move_pieceOnly (m := Well.moveRight) fun _ => rfl
  · exact h.move_pieceOnly (m := Well.rotate) fun _ => rfl

/-- A session on twelve columns and eleven rows that draws `S` and `O` by turns. -/
def alternating : Session where
  config := { width := 12, height := 11 }
  supply := .cycle .S [.O]

/-- The first piece is an `S` that can go to the left and be turned three times. -/
theorem moves_reverse_alternating :
    let s := alternating.start.session.after [.command .softDrop]
    ∃ before, s.snapshot = some before ∧ before.gameOver = false ∧ before.current.shape = .S ∧
      s.moveLeft.answer = .ok true ∧
      s.rotate.session.rotate.session.rotate.answer = .ok true ∧
      s.Reverses before :=
  ⟨_, rfl, rfl, rfl, rfl, rfl,
    moves_reverse alternating (by decide) (by decide) [.command .softDrop] rfl rfl⟩

/-- A piece that overlaps filled cells can leave them, but not come back. -/
example :
    let piece : Piece := { shape := .O, x := 0, y := 2 }
    let s : Session :=
      { alternating with
        snapshot := some
          { board := 0 :: 0 :: 1 :: List.replicate 8 0, current := piece, next := piece } }
    s.moveRight.answer = .ok true ∧ s.moveRight.session.moveLeft.answer = .ok false :=
  ⟨rfl, rfl⟩

end Session

end FallingBlocks
