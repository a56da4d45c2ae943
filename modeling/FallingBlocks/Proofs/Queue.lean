/-
Pieces are played in the order in which their shapes are drawn.

Two shapes are always ahead of the board: the last but one that was drawn is falling, and
the last one waits where pieces enter.  A merge moves the queue on by one, and nothing else
moves it, refused requests and the end of the game included.  So no shape is skipped and
none is played twice.
-/
import FallingBlocks.Proofs.Drawing
import FallingBlocks.Proofs.Runs

namespace FallingBlocks

namespace Supply

/-- The shapes drawn so far, in order, without the first few. -/
def since (s : Supply) (first : Nat) : List Shape :=
  (List.range' first (s.drawn - first)).map s.shapeAt

theorem length_since (s : Supply) (first : Nat) : (s.since first).length = s.drawn - first := by
  rw [since, List.length_map, List.length_range']

/-- Counted from the end, the shapes drawn are those just before the position of the supply. -/
theorem getElem?_since {s : Supply} {first back : Nat} (hpos : 0 < back)
    (h : first + back ≤ s.drawn) :
    (s.since first)[(s.since first).length - back]? = some (s.shapeAt (s.drawn - back)) := by
  have hplace : first + (s.drawn - first - back) = s.drawn - back := by omega
  rw [length_since, since, List.getElem?_map, List.getElem?_range' (by omega), Nat.one_mul, hplace]
  rfl

end Supply

/-! ### The queue of a game -/

namespace CellGame

/-- Of the shapes drawn, the last but one is falling and the last one waits to enter. -/
structure Queued (c : Config) (shapes : Nat → Shape) (first : Nat) (g : CellGame) : Prop where
  config : g.config = c
  shapeAt : g.supply.shapeAt = shapes
  two : first + 2 ≤ g.supply.drawn
  pieces : ∃ x, g.position = some x ∧ x.current.shape = shapes (g.supply.drawn - 2) ∧
    x.next = c.entering (shapes (g.supply.drawn - 1))

variable {c : Config} {shapes : Nat → Shape} {first : Nat} {g h : CellGame}

/-- A new game draws the two shapes that it shows. -/
theorem queued_start (hconfig : g.config = c) (hshapes : g.supply.shapeAt = shapes)
    (hfirst : first ≤ g.supply.drawn) : g.start.game.Queued c shapes first := by
  subst hconfig hshapes
  exact ⟨rfl, rfl, Nat.add_le_add_right hfirst 2, _, rfl, rfl, rfl⟩

/-- **A lock moves the queue on by one, unless it ends the game above the board.** -/
theorem Step.queued (hstep : Step g h) (hg : g.Queued c shapes first) :
    h.Queued c shapes first := by
  obtain ⟨rfl, rfl, htwo, x, hposition, hcurrent, hnext⟩ := hg
  cases hstep with
  | kept lock => exact ⟨rfl, rfl, htwo, x, hposition, hcurrent, hnext⟩
  | moved lock dx dy turns hx hover hadmits =>
      rw [hposition] at hx
      cases hx
      exact ⟨rfl, rfl, htwo, _, rfl, hcurrent, hnext⟩
  | locked p hx hover hp hblocked hlock =>
      rw [hposition] at hx
      cases hx
      have hshape : p.shape = x.current.shape := by
        rcases hp with rfl | ⟨rows, rfl, -⟩ <;> rfl
      by_cases habove : p.Above
      · have hkept : Position.lock { x with current := p } g.config g.rules g.supply
            = Position.restedAbove { x with current := p } g.supply := Position.lock_of_above habove
        rw [settle, hkept]
        exact ⟨rfl, rfl, htwo, _, rfl, hshape.trans hcurrent, hnext⟩
      · have hmerged : Position.lock { x with current := p } g.config g.rules g.supply
            = Position.landed { x with current := p } g.config g.rules g.supply :=
          Position.lock_of_not_above habove
        rw [settle, hmerged]
        refine ⟨rfl, rfl, Nat.le_succ_of_le htwo, _, rfl, ?_, rfl⟩
        exact congrArg Piece.shape hnext

end CellGame

namespace Session

/-- The queue of a session in which a game has begun, after any requests. -/
theorem queued_after (s : Session) (requests : List Request) :
    (s.start.session.after requests).cellGame.Queued s.config s.supply.shapeAt s.supply.drawn := by
  refine (after_invariant requests (fun _ g hg => ?_) (fun _ _ hg hstep => hstep.queued hg)
    (sound_start s) ?_).2
  · have htwo := hg.two
    exact CellGame.queued_start hg.config hg.shapeAt (by omega)
  · rw [start_game]
    exact CellGame.queued_start rfl rfl (Nat.le_refl _)

/--
**The shapes drawn are played in order, none skipped and none repeated.**  After any
requests, granted or not, the last two shapes drawn are those of the two pieces; one more is
drawn by a request that merges a piece into the board, and none by any other, but for the
two of a new game.
-/
theorem plays_in_order (s : Session) (requests : List Request) :
    let t := s.start.session.after requests
    let drawn := t.supply.since s.supply.drawn
    t.supply.shapeAt = s.supply.shapeAt ∧
      2 ≤ drawn.length ∧
      (∃ snap shape, t.snapshot = some snap ∧
        drawn[drawn.length - 2]? = some snap.current.shape ∧
        drawn[drawn.length - 1]? = some shape ∧
        snap.next = { shape, x := s.config.spawnX, y := s.config.spawnY, rotation := 0 }) ∧
      t.start.session.supply = t.supply.draw.2.draw.2 ∧
      (∀ r m, t.merged? r = some m →
        (∃ reply, (t.submit r).answer = .ok reply) ∧
        (t.submit r).session.supply = t.supply.draw.2 ∧
        (t.submit r).session.snapshot.map (·.board) = some m.cleared.rows) ∧
      ∀ r, r ≠ .command .start → t.merged? r = none →
        (t.submit r).session.supply = t.supply ∧
        (t.submit r).session.snapshot.map (·.board) = t.snapshot.map (·.board) := by
  intro t drawn
  obtain ⟨-, hshapes, htwo, x, hposition, hcurrent, hnext⟩ := queued_after s requests
  obtain ⟨snap, hsnap, rfl⟩ := Option.map_eq_some_iff.mp hposition
  have hsized : t.Sized := ((sound_start s).after requests).tidy.sized
  have hshapes' : t.supply.shapeAt = s.supply.shapeAt := hshapes
  have htwo' : s.supply.drawn + 2 ≤ t.supply.drawn := htwo
  refine ⟨hshapes, ?_, ⟨snap, _, hsnap, ?_, ?_, hnext⟩, rfl, fun r m hm => ?_,
    fun r hstart hm => ?_⟩
  · simp only [drawn, Supply.length_since]
    omega
  · rw [Supply.getElem?_since (by decide) htwo', hshapes']
    exact congrArg some hcurrent.symm
  · rw [Supply.getElem?_since (by decide) (by omega), hshapes']
    rfl
  · have hstart : r ≠ .command .start := by
      rintro rfl
      exact nomatch (merged?_start t).symm.trans hm
    obtain ⟨lock, hout⟩ := submit_outcome hsized hstart
    rw [hm] at hout
    cases hout with
    | merged granted supply board => exact ⟨granted, supply, board⟩
  · obtain ⟨lock, hout⟩ := submit_outcome hsized hstart
    rw [hm] at hout
    cases hout with
    | spared supply board refused => exact ⟨supply, board⟩

/-- Four shapes for two merges: the move between them draws nothing. -/
example :
    let s : Session := { config := {}, supply := .inOrder }
    (s.start.session.after
      [.command .hardDrop, .command .moveLeft, .step (.ok .hardDrop)]).supply.since 0
        = [.I, .J, .L, .O] := by
  decide +kernel

end Session

end FallingBlocks
