/-
How a game ends.

While a game goes on its piece fits the board.  It can end in two ways only: a piece comes
to rest with a cell above the board, where it still fits and can go no lower; or the piece
that enters after a lock does not fit.  A game that ended in one of the two ways did not
end in the other.
-/
import FallingBlocks.Proofs.Refinement

namespace FallingBlocks

/-! ### The two ends of a position -/

namespace Position

/-- The piece came to rest above the board. -/
def RestedAbove (c : Config) (x : Position) : Prop :=
  x.Admits c x.current ∧ x.current.Above ∧ ¬ x.Admits c (x.current.moved 0 1 0)

/-- The piece has just entered, where it has no room. -/
def Blocked (c : Config) (x : Position) : Prop :=
  (∃ shape, x.current = c.entering shape) ∧ ¬ x.Admits c x.current

/-- The piece fits as long as the game goes on, and otherwise the game ended in one of two ways. -/
structure Accounted (c : Config) (x : Position) : Prop where
  running : x.gameOver = false → x.Admits c x.current
  ended : x.gameOver = true → x.RestedAbove c ∨ x.Blocked c

/-- A lock of a piece that fits and is blocked below leaves everything accounted for. -/
theorem accounted_lock {c : Config} {x : Position} (rules : Rules) (supply : Supply)
    (hadmits : x.Admits c x.current) (hblocked : ¬ x.Admits c (x.current.moved 0 1 0)) :
    (x.lock c rules supply).position.Accounted c := by
  by_cases habove : x.current.Above
  · rw [lock_of_above habove]
    exact ⟨fun h => absurd h.symm Bool.false_ne_true, fun _ => Or.inl ⟨hadmits, habove, hblocked⟩⟩
  · rw [lock_of_not_above habove]
    constructor
    · intro h
      simpa [landed, Admits] using h
    · intro h
      refine Or.inr ⟨⟨_, rfl⟩, ?_⟩
      simpa [landed, Admits] using h

end Position

namespace CellGame

/-- A game under a configuration whose position is accounted for. -/
def Accounted (c : Config) (g : CellGame) : Prop :=
  g.config = c ∧ ∃ x, g.position = some x ∧ x.Accounted c

theorem accounted_start {c : Config} {g : CellGame} (hwidth : 4 ≤ c.width)
    (hrow : c.spawnY + 1 < c.height) (hconfig : g.config = c) : g.start.game.Accounted c := by
  refine ⟨hconfig, _, rfl, ?_, ?_⟩
  · intro _ cell hcell
    rw [hconfig] at hcell
    obtain ⟨hleft, hright, hfloor⟩ := Piece.inside_entering hwidth hrow _ cell hcell
    exact ⟨hleft, hright, hfloor, fun _ => Finset.notMem_empty cell⟩
  · exact fun h => absurd h Bool.false_ne_true

/-- **No step of a game loses track of why it ends.** -/
theorem Step.accounted {c : Config} {g h : CellGame} (hstep : Step g h) (hacc : g.Accounted c) :
    h.Accounted c := by
  obtain ⟨rfl, x, hposition, hx⟩ := hacc
  refine ⟨hstep.config_eq, ?_⟩
  cases hstep with
  | kept lock => exact ⟨x, hposition, hx⟩
  | moved lock dx dy turns hy hover hadmits =>
      refine ⟨_, rfl, fun _ => hadmits, fun h => ?_⟩
      exact absurd (hover.symm.trans h) Bool.false_ne_true
  | locked p hy hover hp hblocked hlock =>
      rw [hposition] at hy
      cases hy
      have hadmits : x.Admits g.config p := by
        rcases hp with rfl | ⟨-, -, h⟩
        · exact hx.running hover
        · exact h
      exact ⟨_, rfl, Position.accounted_lock (x := { x with current := p }) _ _ hadmits hblocked⟩

end CellGame

/-! ### The two ends of a snapshot -/

namespace Snapshot

/-- A snapshot from which a game can be played: not over, the board in range, the piece fitting. -/
structure Ready (c : Config) (s : Snapshot) : Prop where
  running : s.gameOver = false
  tidy : (s.boardIn c).WF
  fits : (s.thaw c).fits s.current = .ok true

/-- The piece fits with a cell above the board, and cannot move down one row. -/
structure RestsAbove (c : Config) (s : Snapshot) : Prop where
  fits : (s.thaw c).fits s.current = .ok true
  above : ∃ cell ∈ s.current.cells, cell.row < 0
  blocked : (s.thaw c).softDrop = .ok ((s.thaw c).toWell, false)

/-- The piece is unturned where pieces enter, and does not fit. -/
structure BlockedAtSpawn (c : Config) (s : Snapshot) : Prop where
  unturned : s.current.rotation = 0
  column : s.current.x = c.spawnX
  row : s.current.y = c.spawnY
  noRoom : (s.thaw c).fits s.current = .ok false

variable {c : Config} {s : Snapshot}

theorem fits_iff (htidy : s.Tidy c) (p : Piece) :
    (s.thaw c).fits p = .ok true ↔ (s.position c).Admits c p := by
  rw [fits_thaw htidy, Except.ok.injEq, decide_eq_true_iff]

theorem restsAbove_of_rested (htidy : s.Tidy c) (h : (s.position c).RestedAbove c) :
    s.RestsAbove c := by
  obtain ⟨hadmits, habove, hblocked⟩ := h
  exact ⟨(fits_iff htidy _).mpr hadmits, habove, attempt_of_blocked htidy hblocked⟩

theorem blockedAtSpawn_of_blocked (htidy : s.Tidy c) (h : (s.position c).Blocked c) :
    s.BlockedAtSpawn c := by
  obtain ⟨⟨shape, hpiece⟩, hblocked⟩ := h
  rw [position_current] at hpiece hblocked
  refine ⟨?_, ?_, ?_, ?_⟩
  · rw [hpiece]
    rfl
  · rw [hpiece]
    rfl
  · rw [hpiece]
    rfl
  · rw [fits_thaw htidy, decide_eq_false hblocked]

/-- The two ends exclude each other. -/
theorem not_blockedAtSpawn_of_restsAbove (h : s.RestsAbove c) : ¬ s.BlockedAtSpawn c := by
  intro hblocked
  have hfits := h.fits
  rw [hblocked.noRoom] at hfits
  exact nomatch hfits

end Snapshot

namespace Session

/-- A new game is ready where four columns and a row below the spawn row give the piece room. -/
theorem ready_start (s : Session) (hwidth : 4 ≤ s.config.width)
    (hrow : s.config.spawnY + 1 < s.config.height) :
    ∃ snap, s.start.session.snapshot = some snap ∧ snap.Ready s.config := by
  have htidy := (sound_start s).tidy _ rfl
  obtain ⟨-, x, hposition, hx⟩ := CellGame.accounted_start (g := s.cellGame) hwidth hrow rfl
  rw [← start_game, cellGame_position rfl] at hposition
  cases hposition
  exact ⟨_, rfl, rfl, htidy, (Snapshot.fits_iff htidy _).mpr (hx.running rfl)⟩

/--
**While a game goes on its piece fits, and it ends for exactly one of two reasons.**  A
new game on four columns or more, with a row below the spawn row, is one to which this
applies; so is any snapshot that is ready.
-/
theorem ends_for_one_reason (s : Session) :
    (4 ≤ s.config.width → s.config.spawnY + 1 < s.config.height →
      ∃ snap, s.start.session.snapshot = some snap ∧ snap.Ready s.config) ∧
    ∀ (first : Snapshot) (requests : List Request),
      s.snapshot = some first → first.Ready s.config →
      (.command .start ∈ requests → 4 ≤ s.config.width ∧ s.config.spawnY + 1 < s.config.height) →
      ∃ last, (s.after requests).snapshot = some last ∧
        (last.gameOver = false → (last.thaw s.config).fits last.current = .ok true) ∧
        (last.gameOver = true →
          (last.RestsAbove s.config ∨ last.BlockedAtSpawn s.config) ∧
            ¬ (last.RestsAbove s.config ∧ last.BlockedAtSpawn s.config)) := by
  refine ⟨ready_start s, ?_⟩
  intro first requests hfirst hready hroom
  have hadmits := (Snapshot.fits_iff hready.tidy _).mp hready.fits
  have hsound : s.Sound := sound_of_inside hfirst hready.tidy hadmits.inside
  have haccounted : s.cellGame.Accounted s.config := by
    refine ⟨rfl, _, cellGame_position hfirst, fun _ => hadmits, fun h => ?_⟩
    exact absurd (hready.running.symm.trans h) Bool.false_ne_true
  obtain ⟨hsound', -, x, hposition, hx⟩ := after_invariant requests
    (fun h g hg => CellGame.accounted_start (hroom h).1 (hroom h).2 hg.1)
    (fun _ _ hg hstep => hstep.accounted hg) hsound haccounted
  obtain ⟨last, hlast, rfl⟩ := Option.map_eq_some_iff.mp hposition
  rw [after_config hsound] at hx
  have htidy := hsound'.tidy last hlast
  rw [after_config hsound] at htidy
  refine ⟨last, hlast, ?_, ?_⟩
  · intro hrunning
    exact (Snapshot.fits_iff htidy _).mpr (hx.running hrunning)
  · intro hover
    refine ⟨?_, fun h => Snapshot.not_blockedAtSpawn_of_restsAbove h.1 h.2⟩
    rcases hx.ended hover with hrested | hblocked
    · exact Or.inl (Snapshot.restsAbove_of_rested htidy hrested)
    · exact Or.inr (Snapshot.blockedAtSpawn_of_blocked htidy hblocked)

/-- A session on four columns and three rows, before any game. -/
def shallow : Session where
  config := { width := 4, height := 3 }
  supply := .inOrder

/-- The third piece has no room. -/
theorem ends_for_one_reason_shallow :
    ∃ last, (shallow.start.session.after [.command .hardDrop, .command .hardDrop]).snapshot
        = some last ∧
      last.gameOver = true ∧
      (last.RestsAbove shallow.config ∨ last.BlockedAtSpawn shallow.config) ∧
        ¬ (last.RestsAbove shallow.config ∧ last.BlockedAtSpawn shallow.config) := by
  obtain ⟨first, hfirst, hready⟩ := (ends_for_one_reason shallow).1 (by decide) (by decide)
  obtain ⟨last, hlast, -, hended⟩ := (ends_for_one_reason shallow.start.session).2 first
    [.command .hardDrop, .command .hardDrop] hfirst hready fun _ => ⟨by decide, by decide⟩
  have hover : (shallow.start.session.after
      [.command .hardDrop, .command .hardDrop]).snapshot.map Snapshot.gameOver = some true := rfl
  rw [hlast] at hover
  have hover' : last.gameOver = true := Option.some.inj hover
  exact ⟨last, hlast, hover', hended hover'⟩

end Session

end FallingBlocks
