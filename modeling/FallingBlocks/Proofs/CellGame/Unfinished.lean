/-
No row stays complete.

A lock takes out every row that is complete, and the rows that stay are no more complete
than they were.  So a board has no complete row between two requests, and nothing but the
piece can complete one: the rows that a lock takes out are rows of the piece, of which
there are four at most.  Neither the lock nor the score table looks at that bound.

A lock is what a drop of a piece comes to that can fall no further.  Which piece that is
can be told before the drop.
-/
import FallingBlocks.Proofs.CellGame.Merging
import FallingBlocks.Proofs.CellGame.Step

namespace FallingBlocks

/-! ### Positions -/

namespace Position

/-- The pile lies on the board, and fills no row of it from edge to edge. -/
structure Unfinished (c : Config) (x : Position) : Prop where
  onBoard : x.pile ⊆ Pile.grid c.width c.height
  noneComplete : x.pile.completed c.width c.height = ∅

variable {c : Config} {rules : Rules} {x : Position}

theorem unfinished_of_empty (h : x.pile = ∅) : x.Unfinished c := by
  refine ⟨h ▸ Finset.empty_subset _, Finset.eq_empty_of_forall_notMem fun r hr => ?_⟩
  have hcorner := (Pile.mem_completed.mp hr).2 0 (Int.le_refl 0) c.width_pos
  rw [h] at hcorner
  exact Finset.notMem_empty _ hcorner

/-- Where a piece lands the complete rows are taken out, and no other row is completed by that. -/
theorem Unfinished.landed (hx : x.Unfinished c)
    (hcells : ∀ cell ∈ x.current.cells, cell ∈ Pile.grid c.width c.height) (supply : Supply) :
    (x.landed c rules supply).position.Unfinished c := by
  have hgrid : x.pile ∪ x.current.cells.toFinset ⊆ Pile.grid c.width c.height :=
    Finset.union_subset hx.onBoard fun cell hcell => hcells cell (List.mem_toFinset.mp hcell)
  exact ⟨Pile.sunk_subset_grid hgrid, Pile.completed_sunk hgrid c.width_pos⟩

theorem Unfinished.lock (hx : x.Unfinished c) (hlock : x.current.Lockable c) (supply : Supply) :
    (x.lock c rules supply).position.Unfinished c := by
  by_cases habove : x.current.Above
  · rw [lock_of_above habove]
    exact ⟨hx.onBoard, hx.noneComplete⟩
  · rw [lock_of_not_above habove]
    exact hx.landed (Pile.mem_grid_of_inside habove (hlock.resolve_left habove)) supply

/-- What the account of a lock says, if the lock takes out rows of the piece only. -/
structure Accounts (rules : Rules) (level : Int) (p : Piece) (account : LockResult) : Prop where
  nonneg : 0 ≤ account.linesCleared
  /-- No more rows than the piece had cells in. -/
  ofPiece : account.linesCleared ≤ p.rows.card
  score : account.scoreDelta = rules.scoreForLines account.linesCleared level

/-- **A lock takes out rows of the piece only**, and scores them at the level before it. -/
theorem Unfinished.accounts (hx : x.Unfinished c) (supply : Supply) :
    Accounts rules x.level x.current (x.lock c rules supply).account := by
  by_cases habove : x.current.Above
  · rw [lock_of_above habove]
    have hnothing : rules.scoreForLines 0 x.level = 0 := Int.zero_mul x.level
    exact ⟨Int.le_refl 0, Int.natCast_nonneg _, hnothing.symm⟩
  · rw [lock_of_not_above habove]
    have hrows := Finset.card_le_card (Pile.completed_union_cells_subset hx.noneComplete x.current)
    exact ⟨Int.natCast_nonneg _, Int.ofNat_le.mpr hrows, rfl⟩

/-- The piece that a command brings to rest, if the command does not just move it. -/
def rested? (c : Config) (x : Position) : Session.Command → Option Piece
  | .softDrop | .tick =>
      if x.Admits c (x.current.moved 0 1 0) then none else some x.current
  | .hardDrop => some (x.fall c).1.current
  | _ => none

end Position

/-! ### Games -/

namespace CellGame

/-- A game on a board without a complete row. -/
def Unfinished (g : CellGame) : Prop :=
  ∃ x, g.position = some x ∧ x.Unfinished g.config

variable {g h : CellGame} {x : Position} {p : Piece}

theorem unfinished_start (g : CellGame) : g.start.game.Unfinished :=
  ⟨_, rfl, Position.unfinished_of_empty rfl⟩

/-- **No step leaves a complete row behind.** -/
theorem Step.unfinished (hstep : Step g h) (hg : g.Unfinished) : h.Unfinished := by
  obtain ⟨x, hposition, hx⟩ := hg
  cases hstep with
  | kept lock => exact ⟨x, hposition, hx⟩
  | moved lock dx dy turns hy hover hadmits =>
      rw [hposition] at hy
      cases hy
      exact ⟨_, rfl, hx.onBoard, hx.noneComplete⟩
  | locked p hy hover hp hblocked hlock =>
      rw [hposition] at hy
      cases hy
      have hlanding : { x with current := p }.Unfinished g.config := ⟨hx.onBoard, hx.noneComplete⟩
      exact ⟨_, rfl, hlanding.lock hlock _⟩

/-! ### Which lock a request comes to -/

/-- A turn that locks a piece and is granted. -/
def Turn.Settles (t : Turn) (g : CellGame) (x : Position) (p : Piece) : Prop :=
  t.game = g.settle { x with current := p } ∧ ∃ a, t.answer = .ok a

theorem Turn.Settles.andThen {t next : Turn} (ht : t.Settles g x p) (hgame : next.game = t.game)
    (hnext : ∃ a, next.answer = .ok a) : (t.andThen next).Settles g x p := by
  obtain ⟨hsettled, a, ha⟩ := ht
  simp only [Turn.andThen, ha]
  exact ⟨hgame.trans hsettled, hnext⟩

/-- What is made of the position is refused only where there is none. -/
theorem observe_settled {t : Turn} (ht : t.Settles g x p) (f : Position → Answer) :
    ∃ a, (t.game.observe f).answer = .ok a := by
  rw [ht.1]
  exact ⟨_, rfl⟩

theorem softDrop_settles (hx : g.position = some x) (hover : x.gameOver = false)
    (hblocked : ¬ x.Admits g.config (x.current.moved 0 1 0)) :
    g.softDrop.Settles g x x.current := by
  rw [softDrop, act_running hx hover]
  simp only [Position.shift_of_blocked hblocked, Bool.false_eq_true, if_false]
  exact ⟨rfl, _, rfl⟩

theorem perform_settles (hx : g.position = some x) (hover : x.gameOver = false)
    {command : Session.Command} (hp : x.rested? g.config command = some p) :
    (g.perform command).Settles g x p := by
  cases command with
  | softDrop =>
      rw [Position.rested?, Option.ite_none_left_eq_some] at hp
      obtain ⟨hblocked, ⟨⟩⟩ := hp
      exact softDrop_settles hx hover hblocked
  | tick =>
      rw [Position.rested?, Option.ite_none_left_eq_some] at hp
      obtain ⟨hblocked, ⟨⟩⟩ := hp
      have hdropped := softDrop_settles hx hover hblocked
      exact hdropped.andThen (observe_game _ _) (observe_settled hdropped _)
  | hardDrop =>
      cases hp
      rw [perform, hardDrop, act_running hx hover]
      exact ⟨rfl, _, rfl⟩
  | start => cases hp
  | look => cases hp
  | moveLeft => cases hp
  | moveRight => cases hp
  | rotate => cases hp

/-- A step that comes to a command that brings the piece to rest. -/
theorem step_settles (hx : g.position = some x) (hover : x.gameOver = false) {action : Action}
    (hp : x.rested? g.config (Session.commandOf action) = some p) :
    (g.step (.ok action)).Settles g x p := by
  rw [step_action hx hover]
  have hplayed := perform_settles (g := { g with lastLock := none }) hx hover hp
  exact hplayed.andThen (observe_game _ _) (observe_settled hplayed _)

end CellGame

end FallingBlocks
