/-
What a request can do to a game in progress.

Short of beginning a new game there are three things: nothing, apart from forgetting the
account of the last lock; a move of the piece to where the pile admits it; and a lock of
the piece where it is, or some rows further down where the pile admits it, if there is no
way further down from there.
`Step` lists them once, so that whatever holds along every run is checked against three
cases and not against every command.
-/
import FallingBlocks.Proofs.CellGame

namespace FallingBlocks.CellGame

/-- A piece that could be locked, if the game is not over. -/
def Steady (g : CellGame) : Prop :=
  ∀ x, g.position = some x → x.gameOver = true ∨ x.current.Lockable g.config

/-- The changes that requests can make, other than beginning a new game. -/
inductive Step (g : CellGame) : CellGame → Prop
  /-- The position stays as it is. -/
  | kept (lock : Option LockResult) : Step g { g with lastLock := lock }
  /-- The piece moves to where it is admitted. -/
  | moved (lock : Option LockResult) {x : Position} (dx dy turns : Int)
      (hx : g.position = some x) (hover : x.gameOver = false)
      (hadmits : x.Admits g.config (x.current.moved dx dy turns)) :
      Step g
        { g with
          lastLock := lock
          position := some { x with current := x.current.moved dx dy turns } }
  /-- The piece is locked, where it is or after a fall. -/
  | locked {x : Position} (p : Piece) (hx : g.position = some x) (hover : x.gameOver = false)
      (hp : p = x.current ∨ ∃ rows, p = x.current.moved 0 rows 0 ∧ x.Admits g.config p)
      (hblocked : ¬ x.Admits g.config (p.moved 0 1 0)) (hlock : p.Lockable g.config) :
      Step g (g.settle { x with current := p })

namespace Step

variable {g h : CellGame}

theorem config_eq (hstep : Step g h) : h.config = g.config := by
  cases hstep <;> rfl

theorem rules_eq (hstep : Step g h) : h.rules = g.rules := by
  cases hstep <;> rfl

/-- The account of the last lock makes no difference to what can happen. -/
theorem of_forgotten {lock : Option LockResult} (hstep : Step { g with lastLock := lock } h) :
    Step g h := by
  cases hstep with
  | kept l => exact .kept l
  | moved l dx dy turns hx hover hadmits => exact .moved l dx dy turns hx hover hadmits
  | locked p hx hover hp hblocked hlock => exact .locked p hx hover hp hblocked hlock

end Step

/-! ### Where the piece can be

A piece that a game holds lies on the board or above it, or it has just entered.  Only
the second kind can hang over an edge.
-/

/-- The piece lies on the board or above it, or it has just entered. -/
def Seated (g : CellGame) : Prop :=
  ∀ x, g.position = some x →
    x.current.Inside g.config ∨ ∃ shape, x.current = g.config.entering shape

/-- A lock leaves a piece that stays above the board, or lets the next one enter. -/
theorem lock_current {x : Position} {c : Config} {rules : Rules} {supply : Supply} :
    (x.lock c rules supply).position.current = x.current ∨
      (x.lock c rules supply).position.current = c.entering x.next.shape := by
  by_cases habove : x.current.Above
  · rw [Position.lock_of_above habove]
    exact Or.inl rfl
  · rw [Position.lock_of_not_above habove]
    exact Or.inr rfl

theorem Step.seated {g h : CellGame} (hstep : Step g h) (hseated : g.Seated) : h.Seated := by
  intro y hy
  cases hstep with
  | kept lock => exact hseated y hy
  | moved lock dx dy turns hx hover hadmits =>
      cases hy
      exact Or.inl hadmits.inside
  | locked p hx hover hp hblocked hlock =>
      cases hy
      rcases lock_current with hsame | hnew
      · rw [hsame]
        rcases hp with rfl | ⟨-, -, hadmits⟩
        · exact hseated _ hx
        · exact Or.inl hadmits.inside
      · exact Or.inr ⟨_, hnew⟩

theorem seated_start (g : CellGame) : g.start.game.Seated := by
  intro y hy
  cases hy
  exact Or.inr ⟨_, rfl⟩

end FallingBlocks.CellGame
