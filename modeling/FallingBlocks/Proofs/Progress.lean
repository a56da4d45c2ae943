/-
A game only gets further, and once it is over it stays over.

From one snapshot to the next no counter goes down, and the level goes up by one at most.
That a score is not taken back rests on the level, which is never below one, and on a score
table without a negative entry; that no lines are taken back, on the fact that a board which
is cleared keeps all rows that were not complete.

A game that is over answers every request without carrying it out.  From then on nothing
about the session changes any more, neither the account of the last lock nor the number of
shapes drawn.
-/
import FallingBlocks.Proofs.Drawing
import FallingBlocks.Proofs.Integrity

namespace FallingBlocks

/-- The level goes up by one at most. -/
theorem Rules.levelAfter_le (r : Rules) (linesCleared level : Int) :
    r.levelAfter linesCleared level ≤ level + 1 := by
  unfold levelAfter
  split <;> omega

/-! ### Positions -/

namespace Position

/-- One position can come right after another: nothing that was reached is taken back. -/
structure Precedes (x y : Position) : Prop where
  score : x.score ≤ y.score
  linesCleared : x.linesCleared ≤ y.linesCleared
  level : x.level ≤ y.level
  level_le : y.level ≤ x.level + 1
  gameOver : x.gameOver = true → y.gameOver = true

/-- The pieces and the pile make no difference, nor does the end of a game. -/
theorem Precedes.of_counters {x y : Position} (hscore : y.score = x.score)
    (hlines : y.linesCleared = x.linesCleared) (hlevel : y.level = x.level)
    (hover : x.gameOver = true → y.gameOver = true) : x.Precedes y where
  score := Int.le_of_eq hscore.symm
  linesCleared := Int.le_of_eq hlines.symm
  level := Int.le_of_eq hlevel.symm
  level_le := by omega
  gameOver := hover

/-- **A lock takes nothing back.** -/
theorem precedes_lock {c : Config} {rules : Rules} {x : Position}
    (hscores : ∀ a ∈ rules.scores, 0 ≤ a) (hlevel : 1 ≤ x.level) (hover : x.gameOver = false)
    (supply : Supply) : x.Precedes (x.lock c rules supply).position := by
  by_cases habove : x.current.Above
  · rw [lock_of_above habove]
    exact .of_counters rfl rfl rfl fun _ => rfl
  · rw [lock_of_not_above habove]
    exact
      { score := Int.le_add_of_nonneg_right
          (Rules.scoreForLines_nonneg hscores _ (Int.le_trans (by decide) hlevel))
        linesCleared := Int.le_add_of_nonneg_right (Int.natCast_nonneg _)
        level := Rules.le_levelAfter _ _ _
        level_le := Rules.levelAfter_le _ _ _
        gameOver := fun h => nomatch hover.symm.trans h }

end Position

/-! ### Games -/

namespace CellGame

/-- A game in progress under a score table, at the first level or above it. -/
def Levelled (rules : Rules) (g : CellGame) : Prop :=
  g.rules = rules ∧ ∃ x, g.position = some x ∧ 1 ≤ x.level

variable {rules : Rules} {g h : CellGame} {x : Position}

/-- **No step takes anything back.** -/
theorem Step.precedes (hstep : Step g h) (hscores : ∀ a ∈ g.rules.scores, 0 ≤ a)
    (hx : g.position = some x) (hlevel : 1 ≤ x.level) :
    ∃ y, h.position = some y ∧ x.Precedes y := by
  cases hstep with
  | kept lock => exact ⟨x, hx, .of_counters rfl rfl rfl id⟩
  | moved lock dx dy turns hy hover hadmits =>
      rw [hx] at hy
      cases hy
      exact ⟨_, rfl, .of_counters rfl rfl rfl id⟩
  | locked p hy hover hp hblocked hlock =>
      rw [hx] at hy
      cases hy
      -- where the piece was locked does not enter into the counters
      have hlocked := Position.precedes_lock (c := g.config) (x := { x with current := p }) hscores
        hlevel hover g.supply
      exact ⟨_, rfl, hlocked.score, hlocked.linesCleared, hlocked.level, hlocked.level_le,
        hlocked.gameOver⟩

theorem Step.levelled (hstep : Step g h) (hscores : ∀ a ∈ rules.scores, 0 ≤ a)
    (hg : g.Levelled rules) : h.Levelled rules := by
  obtain ⟨rfl, x, hx, hlevel⟩ := hg
  obtain ⟨y, hy, hprecedes⟩ := hstep.precedes hscores hx hlevel
  exact ⟨hstep.rules_eq, y, hy, Int.le_trans hlevel hprecedes.level⟩

end CellGame

/-! ### Sessions -/

namespace Session

/-- A session begins at the first level, or with a snapshot that has reached it. -/
theorem Opened.levelled {s : Session} (h : s.Opened) : s.cellGame.Levelled s.rules := by
  cases h with
  | begun s =>
      rw [start_game]
      exact ⟨rfl, _, rfl, Int.le_refl 1⟩
  | loaded s h => exact ⟨rfl, _, rfl, (Snapshot.accepted_of_load h).level⟩

variable {s : Session} {last : Snapshot}

/--
**A game that is over is the same after any requests**, each answered without being carried
out.
-/
theorem after_over (hsnap : s.snapshot = some last) (hover : last.gameOver = true)
    {requests : List Request} (hstart : .command .start ∉ requests) :
    s.after requests = s ∧ s.replies requests = requests.map fun r => .ok (r.idle last) := by
  induction requests with
  | nil => exact ⟨rfl, rfl⟩
  | cons r rest ih =>
      rw [List.mem_cons, not_or] at hstart
      obtain ⟨hr, hrest⟩ := hstart
      obtain ⟨hafter, hreplies⟩ := ih hrest
      have hsubmit := submit_over hsnap hover (Ne.symm hr)
      refine ⟨?_, ?_⟩
      · rw [after_cons, hsubmit]
        exact hafter
      · rw [replies, hsubmit, List.map_cons]
        exact congrArg _ hreplies

/--
**Along every game the counters only rise, the level by one at most, and a game that is over
stays exactly as it is.**  The score table may hold anything but negative entries; a game may
have begun or been loaded, and requests may be refused.
-/
theorem only_gets_further (hopened : s.Opened) (hscores : ∀ a ∈ s.rules.scores, 0 ≤ a)
    (requests : List Request) (hrequests : .command .start ∉ requests) :
    let t := s.after requests
    ∃ before, t.snapshot = some before ∧
      (∀ r, r ≠ .command .start → ∃ after, (t.submit r).session.snapshot = some after ∧
        before.score ≤ after.score ∧
        before.linesCleared ≤ after.linesCleared ∧
        before.level ≤ after.level ∧ after.level ≤ before.level + 1 ∧
        (before.gameOver = true → after.gameOver = true)) ∧
      (before.gameOver = true → ∀ more, .command .start ∉ more →
        t.after more = t ∧ t.replies more = more.map fun r => .ok (r.idle before)) := by
  intro t
  obtain ⟨hsound, hrules, x, hposition, hlevel⟩ := after_invariant requests
    (fun h => absurd h hrequests) (fun _ _ hg hstep => hstep.levelled hscores hg) hopened.sound
    hopened.levelled
  obtain ⟨before, hbefore, rfl⟩ := Option.map_eq_some_iff.mp hposition
  refine ⟨before, hbefore, fun r hr => ?_, fun hover more hmore => after_over hbefore hover hmore⟩
  have hstep := submit_step hsound hr
  rw [← hrules] at hscores
  obtain ⟨y, hy, hprecedes⟩ := hstep.precedes hscores hposition hlevel
  obtain ⟨after, hafter, rfl⟩ := Option.map_eq_some_iff.mp hy
  exact ⟨after, hafter, hprecedes.score, hprecedes.linesCleared, hprecedes.level,
    hprecedes.level_le, hprecedes.gameOver⟩

/-- A line that scores, and then a piece upright above the board that ends the game for good. -/
theorem only_gets_further_low :
    let s : Session := { config := { width := 4, height := 3 }, supply := .cycle .I [] }
    let t := s.start.session.after [.command .hardDrop, .command .rotate, .step (.ok .hardDrop)]
    s.start.session.Opened ∧
      ∃ before, t.snapshot = some before ∧ before.score = 100 ∧ before.gameOver = true ∧
        ∀ more, .command .start ∉ more →
          t.after more = t ∧ t.replies more = more.map fun r => .ok (r.idle before) := by
  intro s t
  obtain ⟨before, hbefore, -, hover⟩ := only_gets_further (.begun s) (by decide)
    [.command .hardDrop, .command .rotate, .step (.ok .hardDrop)] (by simp)
  have hends : t.snapshot.map (fun snap => (snap.score, snap.gameOver)) = some (100, true) := by
    decide +kernel
  rw [hbefore, Option.map_some, Option.some.injEq, Prod.mk.injEq] at hends
  exact ⟨.begun s, before, hbefore, hends.1, hends.2, hover hends.2⟩

end Session

end FallingBlocks
