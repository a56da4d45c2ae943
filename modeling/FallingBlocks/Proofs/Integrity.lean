/-
The board and the piece stay in range along every run.

Nothing is promised of the configuration but a positive width and height, so a piece may
enter over both edges of the board and requests may be refused with a fault halfway
through a lock.  The board stays in range all the same: what is locked lies on it, and
what is refused is not kept.
-/
import FallingBlocks.Proofs.Refinement

namespace FallingBlocks

namespace CellGame

/-- A game is in progress, and its piece has one of the four rotations. -/
def Upright (g : CellGame) : Prop :=
  ∃ x, g.position = some x ∧ x.current.Reduced

theorem upright_start (g : CellGame) : g.start.game.Upright :=
  ⟨_, rfl, Piece.reduced_entering _ _⟩

/-- Moving reduces the rotation, falling is moving, and pieces enter unturned. -/
theorem Step.upright {g h : CellGame} (hstep : Step g h) (hup : g.Upright) : h.Upright := by
  obtain ⟨x, hposition, hreduced⟩ := hup
  cases hstep with
  | kept lock => exact ⟨x, hposition, hreduced⟩
  | moved lock dx dy turns hx hover hadmits => exact ⟨_, rfl, Piece.reduced_moved _ _ _ _⟩
  | locked p hx hover hp hblocked hlock =>
      refine ⟨_, rfl, ?_⟩
      rcases lock_current with hsame | hnew
      · rw [hsame]
        rcases hp with rfl | ⟨rows, rfl, -⟩
        · rw [hx] at hposition
          cases hposition
          exact hreduced
        · exact Piece.reduced_moved _ _ _ _
      · rw [hnew]
        exact Piece.reduced_entering _ _

end CellGame

namespace Session

/-- A session with a game in progress: one has just begun, or a snapshot has been loaded. -/
inductive Opened : Session → Prop
  | begun (s : Session) : Opened s.start.session
  | loaded (s : Session) {d : Document} {snap : Snapshot} (h : Snapshot.load s.config d = .ok snap) :
      Opened { s with snapshot := some snap }

theorem Opened.sound {s : Session} (h : s.Opened) : s.Sound := by
  cases h with
  | begun s => exact sound_start s
  | loaded s h =>
      have haccepted := Snapshot.accepted_of_load h
      exact sound_of_inside rfl haccepted.tidy haccepted.current

theorem Opened.upright {s : Session} (h : s.Opened) : s.cellGame.Upright := by
  cases h with
  | begun s =>
      rw [start_game]
      exact CellGame.upright_start _
  | loaded s h => exact ⟨_, rfl, (Snapshot.accepted_of_load h).currentReduced⟩

/--
**Whatever is asked for, granted or not, there is a board of `height` masks without a bit
outside the width, and a piece with a rotation from 0 to 3.**
-/
theorem board_in_range {s : Session} (h : s.Opened) (requests : List Request) :
    ∃ snap, (s.after requests).snapshot = some snap ∧
      (snap.board.length : Int) = s.config.height ∧
      (∀ m ∈ snap.board, 0 ≤ m ∧ m < 2 ^ s.config.width.toNat) ∧
      0 ≤ snap.current.rotation ∧ snap.current.rotation < 4 := by
  obtain ⟨hsound, x, hposition, hreduced⟩ := after_invariant requests
    (fun _ g _ => CellGame.upright_start g) (fun _ _ hup hstep => hstep.upright hup) h.sound
    h.upright
  obtain ⟨snap, hsnap, rfl⟩ := Option.map_eq_some_iff.mp hposition
  have htidy := hsound.tidy snap hsnap
  rw [after_config h.sound] at htidy
  obtain ⟨hlength, hmasks⟩ := htidy.masks
  exact ⟨snap, hsnap, hlength, hmasks, hreduced⟩

/-- On a board of one column and one row no piece has room, and every lock is refused. -/
theorem board_in_range_single :
    let s : Session := { config := { width := 1, height := 1 }, supply := .inOrder }
    Opened s.start.session ∧
      ∃ snap, (s.start.session.after [.command .hardDrop, .step (.ok .tick)]).snapshot = some snap ∧
        (snap.board.length : Int) = 1 ∧
        (∀ m ∈ snap.board, 0 ≤ m ∧ m < 2 ^ (1 : Int).toNat) ∧
        0 ≤ snap.current.rotation ∧ snap.current.rotation < 4 := by
  intro s
  exact ⟨.begun s, board_in_range (.begun s) _⟩

end Session

end FallingBlocks
