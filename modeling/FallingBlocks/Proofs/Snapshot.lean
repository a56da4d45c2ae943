/-
Snapshots as positions.

A snapshot holds bare row masks; only a configuration says how wide they are meant to
be.  Read under one, a snapshot is a position of the game on a set of cells.  `Tidy`
is what makes that reading faithful: as many rows as the configuration has, and no bit
outside its width.
-/
import FallingBlocks.Frame
import FallingBlocks.Proofs.Board.Clearing
import FallingBlocks.Proofs.CellGame
import FallingBlocks.Proofs.Well

namespace FallingBlocks.Snapshot

/-- The board of a snapshot under a configuration. -/
def boardIn (c : Config) (s : Snapshot) : Board :=
  { width := c.width, height := c.height, rows := s.board }

/-- The board has the size of the configuration. -/
def Tidy (c : Config) (s : Snapshot) : Prop :=
  (s.boardIn c).WF

/-- The snapshot on a set of cells. -/
def position (c : Config) (s : Snapshot) : Position :=
  { pile := (s.boardIn c).pile
    current := s.current
    next := s.next
    score := s.score
    level := s.level
    linesCleared := s.linesCleared
    gameOver := s.gameOver }

@[simp] theorem position_current (c : Config) (s : Snapshot) :
    (s.position c).current = s.current := rfl

@[simp] theorem position_next (c : Config) (s : Snapshot) : (s.position c).next = s.next := rfl

@[simp] theorem position_gameOver (c : Config) (s : Snapshot) :
    (s.position c).gameOver = s.gameOver := rfl

/-- A tidy board has the masks that its height and its width allow. -/
theorem Tidy.masks {c : Config} {s : Snapshot} (h : s.Tidy c) :
    (s.board.length : Int) = c.height ∧ ∀ m ∈ s.board, 0 ≤ m ∧ m < 2 ^ c.width.toNat :=
  ⟨h.size, fun m hm => ⟨h.nonneg m hm, h.lt m hm⟩⟩

/-- A snapshot with the rows of a board of the right size holds that board. -/
theorem boardIn_eq {c : Config} {b : Board} (hwidth : b.width = c.width)
    (hheight : b.height = c.height) {s : Snapshot} (hrows : s.board = b.rows) :
    s.boardIn c = b := by
  rw [boardIn, hrows, ← hwidth, ← hheight]

/-! ### The piece of a snapshot

On a tidy board asking for room never fails, and the answer is that of the pile.
-/

variable {c : Config} {s : Snapshot}

theorem fits_thaw (htidy : s.Tidy c) (p : Piece) :
    (s.thaw c).fits p = .ok (decide ((s.position c).Admits c p)) :=
  Board.fits_cells (b := s.boardIn c) htidy.size p

theorem attempt_of_admits (htidy : s.Tidy c) {dx dy turns : Int}
    (h : (s.position c).Admits c (s.current.moved dx dy turns)) :
    (s.thaw c).toWell.attempt dx dy turns =
      .ok (({ s with current := s.current.moved dx dy turns }.thaw c).toWell, true) := by
  have hpiece : (s.thaw c).toWell.piece = some s.current := rfl
  rw [Well.attempt_eq htidy.size hpiece]
  exact congrArg Except.ok (if_pos h)

theorem attempt_of_blocked (htidy : s.Tidy c) {dx dy turns : Int}
    (h : ¬ (s.position c).Admits c (s.current.moved dx dy turns)) :
    (s.thaw c).toWell.attempt dx dy turns = .ok ((s.thaw c).toWell, false) := by
  have hpiece : (s.thaw c).toWell.piece = some s.current := rfl
  rw [Well.attempt_eq htidy.size hpiece]
  exact congrArg Except.ok (if_neg h)

/-- The piece that a drop locks is the one that fell. -/
theorem drop_thaw (htidy : s.Tidy c) :
    (s.thaw c).toWell.drop =
      (({ s with current := ((s.position c).fall c).1.current }.thaw c).toWell,
        .ok ((s.position c).fall c).2) := by
  have hpiece : (s.thaw c).toWell.piece = some s.current := rfl
  exact Well.drop_eq htidy.size hpiece

end FallingBlocks.Snapshot
