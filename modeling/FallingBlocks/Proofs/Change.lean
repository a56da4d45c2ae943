/-
When a snapshot stays the same.

Nobody tells the callers of a session whether an operation has done anything: the service
saves, and the environment pays, by comparing the whole snapshot with the one before.  So it
has to be impossible that an operation is carried out and leaves the same snapshot.

For a move and for a drop by one row that is plain.  For a lock it is not: the cells of the
piece may have been filled before, no row may be complete, and the same shape may enter where
the locked one was.  But then the piece that enters lies on filled cells, and the game is over.
-/
import FallingBlocks.Proofs.Acts
import FallingBlocks.Proofs.Environment
import FallingBlocks.Proofs.Service

namespace FallingBlocks

/-! ### A lock changes the position -/

namespace Position

variable {c : Config} {rules : Rules} {supply : Supply} {x : Position} {p : Piece}

/-- A piece that was admitted is not made of filled cells, unless it reaches above the board. -/
theorem Admits.not_filled (h : x.Admits c p) (habove : ¬ p.Above) :
    ¬ ∀ cell ∈ p.cells, cell ∈ x.pile := by
  intro hfilled
  obtain ⟨cell, hcell, -⟩ := p.exists_cell_row_ge
  have hrow : 0 ≤ cell.row := by
    by_contra hneg
    exact habove ⟨cell, hcell, Int.not_le.mp hneg⟩
  obtain ⟨-, -, -, hfree⟩ := h cell hcell
  exact hfree hrow (hfilled cell hcell)

/--
A landing that gives back the position it began with clears nothing and fills nothing.  What
enters is then the piece that was there before.
-/
theorem landed_fixed (hsame : (landed { x with current := p } c rules supply).position = x) :
    (∀ cell ∈ p.cells, cell ∈ x.pile) ∧ (x.gameOver = false → x.Admits c x.current) := by
  let merged := x.pile ∪ p.cells.toFinset
  have hlines : x.linesCleared + (merged.completed c.width c.height).card = x.linesCleared :=
    congrArg Position.linesCleared hsame
  have hpile : merged.sunk (merged.completed c.width c.height) = x.pile :=
    congrArg Position.pile hsame
  have hentered : c.entering x.next.shape = x.current := congrArg Position.current hsame
  have hended : (!decide ((merged.sunk (merged.completed c.width c.height)).Admits
      c.width c.height (c.entering x.next.shape))) = x.gameOver := congrArg Position.gameOver hsame
  constructor
  · have hnone : merged.completed c.width c.height = ∅ := by
      rw [← Finset.card_eq_zero]
      omega
    rw [hnone, Pile.sunk_empty] at hpile
    intro cell hcell
    rw [← hpile]
    exact Finset.mem_union_right _ (List.mem_toFinset.mpr hcell)
  · intro hover
    rw [hpile, hentered, hover, Bool.not_eq_false', decide_eq_true_eq] at hended
    exact hended

/-- **A lock never gives back the position that it began with.** -/
theorem lock_ne (hover : x.gameOver = false) (hp : p = x.current ∨ x.Admits c p) :
    (lock { x with current := p } c rules supply).position ≠ x := by
  intro hsame
  by_cases habove : p.Above
  · rw [lock_of_above habove] at hsame
    have hended : true = x.gameOver := congrArg Position.gameOver hsame
    rw [hover] at hended
    exact Bool.noConfusion hended
  · rw [lock_of_not_above habove] at hsame
    obtain ⟨hfilled, hentered⟩ := landed_fixed hsame
    have hadmits : x.Admits c p := by
      rcases hp with hp | hp
      · rw [hp]
        exact hentered hover
      · exact hp
    exact hadmits.not_filled habove hfilled

end Position

/-! ### Every other action that is carried out moves the piece -/

/-- A move shifts or turns the piece. -/
theorem Piece.shifted_ne {p : Piece} (h : p.Reduced) {action : Action} {dx turns : Int}
    (hmove : action.move? = some (dx, turns)) : p.moved dx 0 turns ≠ p := by
  intro hsame
  have hx : p.x + dx = p.x := congrArg Piece.x hsame
  have hturn : (p.rotation + turns) % Shape.quarterTurns = p.rotation :=
    congrArg Piece.rotation hsame
  obtain ⟨hnonneg, hlt⟩ := h
  unfold Shape.quarterTurns at hlt hturn
  cases action with
  | left => cases hmove; omega
  | right => cases hmove; omega
  | rotate => cases hmove; omega
  | softDrop => exact nomatch hmove
  | hardDrop => exact nomatch hmove
  | tick => exact nomatch hmove

theorem Piece.lowered_ne (p : Piece) : p.moved 0 1 0 ≠ p := by
  intro hsame
  have hy : p.y + 1 = p.y := congrArg Piece.y hsame
  omega

namespace Session

variable {s : Session} {before after : Snapshot} {action : Action}

/-- A session refuses what comes after the game, and a move to where the piece does not fit. -/
def Refuses (s : Session) (before : Snapshot) (action : Action) : Prop :=
  before.gameOver = true ∨ ∃ dx turns, action.move? = some (dx, turns) ∧
    (before.thaw s.config).fits (before.current.moved dx 0 turns) = .ok false

theorem refuses_iff (htidy : before.Tidy s.config) (hover : before.gameOver = false) :
    s.Refuses before action ↔ ∃ dx turns, action.move? = some (dx, turns) ∧
      ¬ (before.position s.config).Admits s.config (before.current.moved dx 0 turns) := by
  simp only [Refuses, hover, Bool.false_eq_true, false_or, Snapshot.fits_thaw htidy,
    Except.ok.injEq, decide_eq_false_iff_not]

/-- While the game goes on no drop is refused. -/
theorem not_refuses_of_drop (hover : before.gameOver = false) (hdrop : action.move? = none) :
    ¬ s.Refuses before action := by
  intro hrefused
  rcases hrefused with hended | ⟨_, _, hmove, -⟩
  · rw [hover] at hended
    exact Bool.noConfusion hended
  · rw [hdrop] at hmove
    cases hmove

/-- **An action leaves the snapshot alone exactly if it is refused.** -/
theorem Acts.unchanged_iff {u : Session} (hacts : s.Acts before action u)
    (hsnap : s.snapshot = some before) (hover : before.gameOver = false)
    (haccepted : before.Accepted s.config) (hafter : u.snapshot = some after) :
    after = before ↔ s.Refuses before action := by
  cases hacts with
  | refused hmove hblocked =>
      have hsame : after = before := Option.some.inj (hafter.symm.trans hsnap)
      exact iff_of_true hsame ((refuses_iff haccepted.tidy hover).mpr ⟨_, _, hmove, hblocked⟩)
  | shifted hmove hadmits =>
      rw [← Option.some.inj hafter, refuses_iff haccepted.tidy hover]
      refine iff_of_false ?_ ?_
      · intro hsame
        exact Piece.shifted_ne haccepted.currentReduced hmove (congrArg Snapshot.current hsame)
      · intro hrefused
        obtain ⟨_, _, hmove', hblocked⟩ := hrefused
        rw [hmove] at hmove'
        cases hmove'
        exact hblocked hadmits
  | lowered hdrop hrest =>
      rw [← Option.some.inj hafter]
      refine iff_of_false ?_ (not_refuses_of_drop hover hdrop)
      intro hsame
      exact Piece.lowered_ne _ (congrArg Snapshot.current hsame)
  | locked hdrop hrest hlock =>
      refine iff_of_false ?_ (not_refuses_of_drop hover hdrop)
      intro hsame
      have hposition := hlock.position
      rw [← Option.some.inj (hafter.symm.trans hlock.snapshot), hsame] at hposition
      exact Position.lock_ne hover (Position.rested?_lands hrest) hposition.symm

/-- Once the game is over a command of an action is granted and does nothing. -/
theorem perform_over (hsnap : s.snapshot = some before) (hover : before.gameOver = true)
    (action : Action) :
    (s.perform (commandOf action)).session = s ∧
      ∃ a, (s.perform (commandOf action)).answer = .ok a := by
  have hidle := submit_over hsnap hover (r := .command (commandOf action)) fun h =>
    commandOf_ne_start action (Request.command.inj h)
  exact ⟨congrArg Turn.session hidle, perform_ok_of_submit (congrArg Turn.answer hidle)⟩

/-- A step and its command are granted, and change the snapshot unless the action is refused. -/
theorem step_unchanged_iff (hsnap : s.snapshot = some before)
    (haccepted : before.Accepted s.config) (action : Action) :
    ∃ r a, (s.step (.ok action)).answer = .ok r ∧
      (s.step (.ok action)).session.snapshot = some r.snapshot ∧
      (s.forget.perform (commandOf action)).answer = .ok a ∧
      (s.forget.perform (commandOf action)).session.snapshot = some r.snapshot ∧
      (r.snapshot = before ↔ s.Refuses before action) := by
  have hforgot : s.forget.snapshot = some before := hsnap
  cases hover : before.gameOver with
  | true =>
      obtain ⟨hsame, a, ha⟩ := perform_over hforgot hover action
      rw [step_over hsnap hover, hsame]
      exact ⟨_, a, rfl, hsnap, ha, hsnap, ⟨fun _ => Or.inl hover, fun _ => rfl⟩⟩
  | false =>
      obtain ⟨u, after, hacts, hperformed, hafter, hsession, hanswer⟩ :=
        step_acts hsnap hover haccepted action
      obtain ⟨-, a, ha⟩ := perform_acts hforgot hover haccepted action
      have hcommand : (s.forget.perform (commandOf action)).session = u := hperformed
      rw [hsession, hcommand]
      exact ⟨_, a, hanswer, hafter, ha, hafter, hacts.unchanged_iff hforgot hover haccepted hafter⟩

end Session

/-! ### Who looks at the difference -/

/-- A service that plays a command saves the snapshot it left behind if that is another one. -/
theorem Service.saves_iff {v : Service} {before after : Snapshot} {command : Session.Command}
    {a : Session.Answer} (hload : v.load = .ok before) (hstart : command ≠ .start)
    (hanswer : (v.play (some before) command).answer = .ok a)
    (hafter : (v.play (some before) command).session.snapshot = some after) :
    (after = before →
      (v.perform command).service.store = v.store ∧ (v.perform command).saved = false) ∧
    (after ≠ before →
      (v.perform command).service.store = (v.store.saveWithin v.limits after.toDocument).1 ∧
      ((v.perform command).saved = true ↔
        (v.store.saveWithin v.limits after.toDocument).2 = .ok ())) := by
  unfold play at hanswer hafter
  rw [perform_of_ne_start hstart, apply, hload]
  simp only [hanswer, hafter]
  constructor
  · intro hsame
    rw [if_pos hsame]
    exact ⟨rfl, rfl⟩
  · intro hother
    rw [if_neg hother, commit]
    simp only
    cases hsaved : v.store.saveWithin v.limits after.toDocument with
    | mk store outcome =>
        cases outcome with
        | error fault => simp
        | ok _ => simp

/-- An environment tells of a move if the snapshot is another, and punishes the action if not. -/
theorem Environment.moved_iff {e : Environment} {before : Snapshot} {action : Action}
    {r : Session.Report} {told : Step} (hsnap : e.session.snapshot = some before)
    (hreport : (e.session.step (.ok action)).answer = .ok r)
    (htold : (e.step (.ok action)).answer = .ok told) :
    (told.info.moved = true ↔ r.snapshot ≠ before) ∧
      (told.reward.refused = true ↔ r.snapshot = before) := by
  rw [step_answer hsnap hreport] at htold
  obtain ⟨-, _, _, -, -, rfl⟩ := answer_eq_ok_iff.mp htold
  simp

namespace Session

variable {s : Session} {before : Snapshot} {d : Document}

/--
**A step leaves the snapshot unchanged exactly when it was refused**, whatever snapshot the
reader has accepted: the game was over, or it was a move to where the piece does not fit.  So
a drop always changes it, and so does the lock of a piece that overlaps filled cells.

A service on this snapshot therefore leaves its store alone for what was refused, and tries to
save all the rest; and what an environment tells of as not moved, and punishes, is what was
refused.
-/
theorem unchanged_iff_refused (hload : Snapshot.load s.config d = .ok before)
    (hsnap : s.snapshot = some before) (action : Action) :
    ∃ r, (s.step (.ok action)).answer = .ok r ∧
      (s.step (.ok action)).session.snapshot = some r.snapshot ∧
      (r.snapshot = before ↔ s.Refuses before action) ∧
      (before.gameOver = false → action.move? = none → r.snapshot ≠ before) ∧
      (∀ v : Service, v.sessionOn s.snapshot = s.forget → v.load = .ok before →
        (s.Refuses before action →
          (v.perform (commandOf action)).service.store = v.store ∧
            (v.perform (commandOf action)).saved = false) ∧
        (¬ s.Refuses before action →
          (v.perform (commandOf action)).service.store =
              (v.store.saveWithin v.limits r.snapshot.toDocument).1 ∧
            ((v.perform (commandOf action)).saved = true ↔
              (v.store.saveWithin v.limits r.snapshot.toDocument).2 = .ok ()))) ∧
      ∀ e : Environment, e.session = s → ∀ told, (e.step (.ok action)).answer = .ok told →
        (told.info.moved = true ↔ ¬ s.Refuses before action) ∧
          (told.reward.refused = true ↔ s.Refuses before action) := by
  obtain ⟨r, a, hreport, hafter, hanswer, hcommand, hiff⟩ :=
    step_unchanged_iff hsnap (Snapshot.accepted_of_load hload) action
  refine ⟨r, hreport, hafter, hiff, ?_, ?_, ?_⟩
  · intro hover hdrop hsame
    exact not_refuses_of_drop hover hdrop (hiff.mp hsame)
  · intro v hsession hloaded
    have hplay : v.play (some before) (commandOf action) = s.forget.perform (commandOf action) := by
      rw [Service.play, ← hsnap, hsession]
    rw [← hplay] at hanswer hcommand
    rw [← hiff]
    exact Service.saves_iff hloaded (commandOf_ne_start action) hanswer hcommand
  · intro e hsession told htold
    rw [← hsession] at hsnap hreport
    rw [← hiff]
    exact Environment.moved_iff hsnap hreport htold

/--
A square on filled cells is locked, fills nothing and completes nothing, and the next square
is where the first one was.
-/
theorem unchanged_iff_refused_overlapping :
    let before : Snapshot :=
      { board := [6, 6, 0]
        current := { shape := .O, x := 1, y := 0 }
        next := { shape := .O, x := 1, y := 0 } }
    let s : Session :=
      { config := { width := 4, height := 3 }, supply := .cycle .O [], snapshot := some before }
    (∃ d, Snapshot.load s.config d = .ok before) ∧
      ∃ r, (s.step (.ok .tick)).answer = .ok r ∧
        r.snapshot = { before with gameOver := true } ∧ r.snapshot ≠ before := by
  intro before s
  have haccepted : before.Accepted s.config :=
    { tidy := ⟨rfl, by decide, by decide⟩
      current := by decide
      next := by decide
      currentReduced := Piece.reduced_entering s.config .O
      nextReduced := Piece.reduced_entering s.config .O
      score := Int.le_refl 0
      level := Int.le_refl 1
      linesCleared := Int.le_refl 0 }
  have hload := Snapshot.load_toDocument haccepted
  obtain ⟨r, hreport, hafter, -, hdrop, -⟩ := unchanged_iff_refused (s := s) hload rfl .tick
  have hended : (s.step (.ok .tick)).session.snapshot = some { before with gameOver := true } := by
    decide +kernel
  exact ⟨⟨_, hload⟩, r, hreport, Option.some.inj (hafter.symm.trans hended), hdrop rfl rfl⟩

end Session

end FallingBlocks
