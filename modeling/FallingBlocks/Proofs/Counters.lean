/-
The counters of a game follow from its clearings.

A lock raises the level by one at most, and scores at the level before it.  That the level
nevertheless keeps up with the lines is a matter of arithmetic, provided that no lock takes
out more lines than make a level.  It takes out four at most: a board that has been cleared
has no complete row, so every row that is complete after a merge has a cell of the piece.

So whatever is asked for in the course of a game, the lines, the level and the score are
those that the numbers of rows cleared by one merge after the other make.
-/
import Mathlib.Algebra.BigOperators.Group.Finset.Basic
import Mathlib.Algebra.Ring.Int.Defs
import FallingBlocks.Proofs.CellGame.Unfinished
import FallingBlocks.Proofs.Runs

namespace FallingBlocks

/-! ### Counters of a list of clearings -/

namespace Rules

/-- The level after some lines. -/
def levelAt (r : Rules) (lines : Int) : Int :=
  1 + lines / r.linesPerLevel

/-- The score of a list of clearings, each counted at the level of the lines before it. -/
def scoreOf (r : Rules) (clearings : List Nat) : Int :=
  ∑ i ∈ Finset.range clearings.length,
    r.award (clearings.getD i 0 : Nat) * r.levelAt ((clearings.take i).sum : Nat)

theorem scoreOf_append (r : Rules) (clearings : List Nat) (n : Nat) :
    r.scoreOf (clearings ++ [n]) = r.scoreOf clearings + r.award n * r.levelAt clearings.sum := by
  have hlast : (clearings ++ [n]).getD clearings.length 0 = n := by
    simp [List.getD_eq_getElem?_getD]
  have hall : (clearings ++ [n]).take clearings.length = clearings :=
    List.take_left' rfl
  rw [scoreOf, List.length_append, List.length_singleton, Finset.sum_range_succ, hlast, hall]
  refine congrArg (· + _) (Finset.sum_congr rfl fun i hi => ?_)
  have hlt := Finset.mem_range.mp hi
  rw [List.take_append_of_le_length (Nat.le_of_lt hlt), List.getD_eq_getElem?_getD,
    List.getElem?_append_left hlt, ← List.getD_eq_getElem?_getD]

/-- **One step a lock is enough for the level**, if no lock clears more than make a level. -/
theorem levelAfter_levelAt {r : Rules} {n : Nat} (hfew : (n : Int) ≤ r.linesPerLevel)
    (hpos : 0 < r.linesPerLevel) (before : Nat) :
    r.levelAfter ((before : Int) + n) (r.levelAt before) = r.levelAt ((before : Int) + n) := by
  obtain ⟨hlow, hhigh⟩ := (Int.ediv_eq_iff_of_pos hpos).mp (rfl : (before : Int) / _ = _)
  generalize hlevel : (before : Int) / r.linesPerLevel = level at hlow hhigh
  have hnext : (level + 1) * r.linesPerLevel = level * r.linesPerLevel + r.linesPerLevel := by
    rw [Int.add_mul, Int.one_mul]
  simp only [levelAfter, levelAt, hlevel, Int.add_comm 1]
  by_cases hcross : (level + 1) * r.linesPerLevel ≤ (before : Int) + n
  · have hreached : ((before : Int) + n) / r.linesPerLevel = level + 1 :=
      (Int.ediv_eq_iff_of_pos hpos).mpr ⟨hcross, by omega⟩
    rw [if_pos hcross, hreached]
  · have hsame : ((before : Int) + n) / r.linesPerLevel = level :=
      (Int.ediv_eq_iff_of_pos hpos).mpr ⟨by omega, by omega⟩
    rw [if_neg hcross, hsame]

end Rules

/-! ### Positions -/

namespace Position

/-- The counters are those of some clearings, and the board is one on which each lock clears few. -/
structure Credited (c : Config) (rules : Rules) (clearings : List Nat) (x : Position) : Prop where
  onBoard : x.pile ⊆ Pile.grid c.width c.height
  /-- No row is complete between two requests. -/
  unfinished : x.pile.completed c.width c.height = ∅
  few : ∀ n ∈ clearings, n ≤ 4
  linesCleared : x.linesCleared = clearings.sum
  level : x.level = rules.levelAt clearings.sum
  score : x.score = rules.scoreOf clearings

variable {c : Config} {rules : Rules} {clearings : List Nat} {x : Position}

/-- Where the piece is and whether the game is over makes no difference to the counters. -/
theorem Credited.congr (hx : x.Credited c rules clearings) (current next : Piece) (gameOver : Bool) :
    { x with current, next, gameOver }.Credited c rules clearings :=
  ⟨hx.onBoard, hx.unfinished, hx.few, hx.linesCleared, hx.level, hx.score⟩

/-- A piece that lands adds one clearing. -/
theorem Credited.landed (hx : x.Credited c rules clearings) (hlines : 4 ≤ rules.linesPerLevel)
    (hcells : ∀ cell ∈ x.current.cells, cell ∈ Pile.grid c.width c.height) (supply : Supply) :
    (x.landed c rules supply).position.Credited c rules
      (clearings ++ [((x.pile ∪ x.current.cells.toFinset).completed c.width c.height).card]) := by
  have hkept : x.Unfinished c := ⟨hx.onBoard, hx.unfinished⟩
  obtain ⟨hgrid, hnone⟩ : (x.landed c rules supply).position.Unfinished c :=
    hkept.landed hcells supply
  have hfour := Pile.card_completed_union_cells_le hx.unfinished x.current
  have hsum : (((clearings ++ [((x.pile ∪ x.current.cells.toFinset).completed c.width
      c.height).card]).sum : Nat) : Int) = (clearings.sum : Nat)
        + ((x.pile ∪ x.current.cells.toFinset).completed c.width c.height).card := by
    rw [List.sum_append, List.sum_singleton, Nat.cast_add]
  refine ⟨hgrid, hnone, ?_, ?_, ?_, ?_⟩
  · intro n hn
    rcases List.mem_append.mp hn with hold | hnew
    · exact hx.few n hold
    · rw [List.mem_singleton.mp hnew]
      exact hfour
  · rw [hsum, ← hx.linesCleared]
    rfl
  · rw [hsum, ← Rules.levelAfter_levelAt (by omega) (by omega), ← hx.level, ← hx.linesCleared]
    rfl
  · rw [Rules.scoreOf_append, ← hx.score, ← hx.level]
    rfl

end Position

/-! ### Games -/

namespace CellGame

/-- A game under a configuration and a score table, whose counters are those of some clearings. -/
def Credited (c : Config) (rules : Rules) (clearings : List Nat) (g : CellGame) : Prop :=
  g.config = c ∧ g.rules = rules ∧ ∃ x, g.position = some x ∧ x.Credited c rules clearings

variable {c : Config} {rules : Rules} {clearings : List Nat} {g h : CellGame}

/-- **A step that draws a shape adds a clearing, and any other leaves the clearings alone.** -/
theorem Step.credited (hstep : Step g h) (hlines : 4 ≤ rules.linesPerLevel)
    (hg : g.Credited c rules clearings) :
    (Drew g h → ∃ n, h.Credited c rules (clearings ++ [n])) ∧
      (¬ Drew g h → h.Credited c rules clearings) := by
  obtain ⟨rfl, rfl, x, hposition, hx⟩ := hg
  cases hstep with
  | kept lock =>
      exact ⟨fun hdrew => absurd rfl hdrew.ne, fun _ => ⟨rfl, rfl, x, hposition, hx⟩⟩
  | moved lock dx dy turns hy hover hadmits =>
      rw [hposition] at hy
      cases hy
      exact ⟨fun hdrew => absurd rfl hdrew.ne, fun _ => ⟨rfl, rfl, _, rfl, hx.congr _ _ _⟩⟩
  | locked p hy hover hp hblocked hlock =>
      rw [hposition] at hy
      cases hy
      have hlanding : { x with current := p }.Credited g.config g.rules clearings := hx.congr _ _ _
      by_cases habove : p.Above
      · have hkept : Position.lock { x with current := p } g.config g.rules g.supply
            = Position.restedAbove { x with current := p } g.supply := Position.lock_of_above habove
        refine ⟨fun hdrew => absurd ?_ hdrew.ne, fun _ => ⟨rfl, rfl, _, rfl, ?_⟩⟩
        · simp only [settle, hkept, Position.restedAbove]
        · rw [hkept]
          exact hlanding.congr _ _ _
      · have hmerged : Position.lock { x with current := p } g.config g.rules g.supply
            = Position.landed { x with current := p } g.config g.rules g.supply :=
          Position.lock_of_not_above habove
        have hcells := Pile.mem_grid_of_inside habove (hlock.resolve_left habove)
        have hlanded := hlanding.landed hlines hcells g.supply
        rw [← hmerged] at hlanded
        refine ⟨fun _ => ⟨_, rfl, rfl, _, rfl, hlanded⟩, fun hdrew => absurd ?_ hdrew⟩
        simp only [Drew, settle, hmerged, Position.landed, Supply.draw]

end CellGame

/-! ### Sessions -/

namespace Session

/--
The number of rows that a request clears, in a list of its own, if the request merges the
piece: it does where it draws one shape.
-/
def merging (s : Session) (r : Request) : List Nat :=
  match s.snapshot with
  | none => []
  | some before =>
      if (s.submit r).session.supply.drawn = s.supply.drawn + 1 then
        [(before.position s.config).completes s.config]
      else []

/--
How many rows the merges of the game in progress have cleared, one after the other, after
some requests; `earlier` are those before them.
-/
def clearings (s : Session) (earlier : List Nat) : List Request → List Nat
  | [] => earlier
  | .command .start :: rest => s.start.session.clearings [] rest
  | r :: rest => (s.submit r).session.clearings (earlier ++ s.merging r) rest

variable {s : Session} {r : Request} {rules : Rules} {earlier : List Nat}

/-- Four upright pieces side by side on four columns. -/
def fourColumns : List Request :=
  [.command .rotate, .command .moveLeft, .command .moveLeft, .command .hardDrop,
   .command .rotate, .command .moveLeft, .command .hardDrop,
   .command .rotate, .step (.ok .hardDrop),
   .command .rotate, .command .moveRight, .step (.ok .hardDrop)]

end Session

end FallingBlocks
