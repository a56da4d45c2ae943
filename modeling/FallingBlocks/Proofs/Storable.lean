/-
What a game leaves behind can be stored and read back.

The reader checks a snapshot field by field.  Its checks of the board hold along every
run.  Those of the rest hold along a run that begins with them and has room for every
piece that enters, if no score is taken away: a piece that moves stays on the board or
above it, the piece that waits lies where it will enter, and the counters only grow.

Without that room a new game need not pass: the reader refuses a piece that hangs over
an edge, be it the first one or the one that waits.
-/
import FallingBlocks.Proofs.Safety
import FallingBlocks.Proofs.Snapshot.Encoding

namespace FallingBlocks

/-! ### Positions -/

/-- What the reader asks of a snapshot beside its board. -/
structure Position.Storable (c : Config) (x : Position) : Prop where
  current : x.current.Inside c
  next : x.next.Inside c
  currentReduced : x.current.Reduced
  nextReduced : x.next.Reduced
  score : 0 ≤ x.score
  level : 1 ≤ x.level
  linesCleared : 0 ≤ x.linesCleared

/-- The reader's checks are those of the board and those of the position. -/
theorem Snapshot.accepted_iff {c : Config} {s : Snapshot} :
    s.Accepted c ↔ s.Tidy c ∧ (s.position c).Storable c := by
  constructor
  · intro h
    exact ⟨h.tidy, h.current, h.next, h.currentReduced, h.nextReduced, h.score, h.level,
      h.linesCleared⟩
  · rintro ⟨htidy, h⟩
    exact
      { tidy := htidy
        current := h.current
        next := h.next
        currentReduced := h.currentReduced
        nextReduced := h.nextReduced
        score := h.score
        level := h.level
        linesCleared := h.linesCleared }

namespace Position

variable {c : Config} {x : Position} {rules : Rules}

/-- A piece that moves to where it is admitted can be stored there. -/
theorem Storable.moved (hx : x.Storable c) {dx dy turns : Int}
    (hadmits : x.Admits c (x.current.moved dx dy turns)) :
    { x with current := x.current.moved dx dy turns }.Storable c :=
  { hx with
    current := hadmits.inside
    currentReduced := Piece.reduced_moved _ _ _ _ }

/-- A lock only lets pieces enter, and only adds to the counters. -/
theorem Storable.lock (hx : x.Storable c) (hwidth : 4 ≤ c.width) (hrow : c.spawnY + 1 < c.height)
    (hscores : ∀ a ∈ rules.scores, 0 ≤ a) (supply : Supply) :
    (x.lock c rules supply).position.Storable c := by
  by_cases habove : x.current.Above
  · rw [lock_of_above habove]
    exact ⟨hx.current, hx.next, hx.currentReduced, hx.nextReduced, hx.score, hx.level,
      hx.linesCleared⟩
  · rw [lock_of_not_above habove]
    have hlevel : 0 ≤ x.level := Int.le_trans (by decide) hx.level
    exact
      { current := Piece.inside_entering hwidth hrow _
        next := Piece.inside_entering hwidth hrow _
        currentReduced := Piece.reduced_entering c _
        nextReduced := Piece.reduced_entering c _
        score := Int.add_nonneg hx.score (Rules.scoreForLines_nonneg hscores _ hlevel)
        level := Int.le_trans hx.level (Rules.le_levelAfter _ _ _)
        linesCleared := Int.add_nonneg hx.linesCleared (Int.natCast_nonneg _) }

end Position

/-! ### Games -/

namespace CellGame

/-- A game under a configuration, with a score table, whose position can be stored. -/
structure Storable (c : Config) (rules : Rules) (g : CellGame) : Prop where
  config : g.config = c
  rules : g.rules = rules
  position : ∃ x, g.position = some x ∧ x.Storable c

variable {c : Config} {rules : Rules} {g h : CellGame}

theorem storable_start (hwidth : 4 ≤ c.width) (hrow : c.spawnY + 1 < c.height)
    (hconfig : g.config = c) (hrules : g.rules = rules) : g.start.game.Storable c rules := by
  refine ⟨hconfig, hrules, _, rfl, ?_⟩
  rw [hconfig]
  exact
    { current := Piece.inside_entering hwidth hrow _
      next := Piece.inside_entering hwidth hrow _
      currentReduced := Piece.reduced_entering c _
      nextReduced := Piece.reduced_entering c _
      score := Int.le_refl 0
      level := Int.le_refl 1
      linesCleared := Int.le_refl 0 }

/-- **Where pieces have room to enter, no step leaves behind what cannot be stored.** -/
theorem Step.storable (hstep : Step g h) (hwidth : 4 ≤ c.width) (hrow : c.spawnY + 1 < c.height)
    (hscores : ∀ a ∈ rules.scores, 0 ≤ a) (hg : g.Storable c rules) : h.Storable c rules := by
  obtain ⟨rfl, rfl, x, hposition, hx⟩ := hg
  refine ⟨hstep.config_eq, hstep.rules_eq, ?_⟩
  cases hstep with
  | kept lock => exact ⟨x, hposition, hx⟩
  | moved lock dx dy turns hy hover hadmits =>
      rw [hposition] at hy
      cases hy
      exact ⟨_, rfl, hx.moved hadmits⟩
  | locked p hy hover hp hblocked hlock =>
      rw [hposition] at hy
      cases hy
      have hlanding : { x with current := p }.Storable g.config := by
        rcases hp with rfl | ⟨rows, rfl, hadmits⟩
        · exact hx
        · exact hx.moved hadmits
      exact ⟨_, rfl, hlanding.lock hwidth hrow hscores _⟩

end CellGame

/-! ### Sessions -/

namespace Session

variable {s : Session} {c : Config} {rules : Rules}

/-- A snapshot that the reader accepts is a game that can be stored. -/
theorem storable_of_accepted {snap : Snapshot} (hsnap : s.snapshot = some snap)
    (h : snap.Accepted s.config) : s.cellGame.Storable s.config s.rules :=
  ⟨rfl, rfl, _, cellGame_position hsnap, (Snapshot.accepted_iff.mp h).2⟩

/-- The snapshot of a sound session whose game can be stored is one that the reader accepts. -/
theorem exists_accepted (hs : s.Sound) (h : s.cellGame.Storable c rules) :
    ∃ snap, s.snapshot = some snap ∧ snap.Accepted c := by
  obtain ⟨hconfig, -, x, hposition, hx⟩ := h
  obtain ⟨snap, hsnap, rfl⟩ := Option.map_eq_some_iff.mp hposition
  have hc : s.config = c := hconfig
  rw [hc] at hx
  have htidy := hs.tidy snap hsnap
  rw [hc] at htidy
  exact ⟨snap, hsnap, Snapshot.accepted_iff.mpr ⟨htidy, hx⟩⟩

/-- Along every run there is a snapshot that the reader accepts. -/
theorem after_accepted (hwidth : 4 ≤ c.width) (hrow : c.spawnY + 1 < c.height)
    (hscores : ∀ a ∈ rules.scores, 0 ≤ a) (hs : s.Sound) (hstorable : s.cellGame.Storable c rules)
    (requests : List Request) :
    ∃ snap, (s.after requests).snapshot = some snap ∧ snap.Accepted c := by
  obtain ⟨hsound, hafter⟩ := after_invariant requests
    (fun _ _ hg => CellGame.storable_start hwidth hrow hg.config hg.rules)
    (fun _ _ hg hstep => hstep.storable hwidth hrow hscores hg) hs hstorable
  exact exists_accepted hsound hafter

/--
**Every snapshot of every game can be read back from its document exactly where pieces have
room to enter:** on four columns or more, with a row below the spawn row.
-/
theorem readable_iff_room (c : Config) (rules : Rules) (hscores : ∀ a ∈ rules.scores, 0 ≤ a) :
    (∀ (supply : Supply) (requests : List Request), ∃ snap,
      ((Session.start { config := c, rules, supply }).session.after requests).snapshot = some snap ∧
        Snapshot.load c snap.toDocument = .ok snap) ↔
      4 ≤ c.width ∧ c.spawnY + 1 < c.height := by
  constructor
  · intro h
    obtain ⟨snap, hsnap, hload⟩ := h (.cycle .T []) []
    have hinside := (Snapshot.load_toDocument_iff.mp hload).current
    cases hsnap
    exact Piece.room_of_inside_entering hinside
  · rintro ⟨hwidth, hrow⟩ supply requests
    have hsound := sound_start { config := c, rules, supply }
    have hstorable : (Session.start { config := c, rules, supply }).session.cellGame.Storable
        c rules := by
      rw [start_game]
      exact CellGame.storable_start hwidth hrow rfl rfl
    obtain ⟨snap, hsnap, haccepted⟩ :=
      after_accepted hwidth hrow hscores hsound hstorable requests
    exact ⟨snap, hsnap, Snapshot.load_toDocument haccepted⟩

/-- Four columns and two rows are room enough; three columns and twenty rows are not. -/
theorem readable_iff_room_least :
    (∀ (supply : Supply) (requests : List Request), ∃ snap,
      ((Session.start { config := { width := 4, height := 2 }, supply }).session.after
        requests).snapshot = some snap ∧
          Snapshot.load { width := 4, height := 2 } snap.toDocument = .ok snap) ∧
    ¬ ∀ (supply : Supply) (requests : List Request), ∃ snap,
      ((Session.start { config := { width := 3 }, supply }).session.after requests).snapshot
        = some snap ∧ Snapshot.load { width := 3 } snap.toDocument = .ok snap := by
  have hscores : ∀ a ∈ ({} : Rules).scores, 0 ≤ a := by decide
  refine ⟨(readable_iff_room _ _ hscores).mpr (by decide), fun h => ?_⟩
  exact absurd ((readable_iff_room _ _ hscores).mp h).1 (by decide)

end Session

end FallingBlocks
