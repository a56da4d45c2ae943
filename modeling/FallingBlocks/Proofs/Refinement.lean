/-
The whole run of a session is the run of the game on a set of cells.

The two runs agree for as long as no request is refused with a fault of the board.  Such
a fault needs a piece that hangs over an edge, and a piece that was loaded lies on the
board: only a new game on a board without room for the first piece can bring one about.
-/
import FallingBlocks.Proofs.Runs
import FallingBlocks.Proofs.Snapshot.Loading
import FallingBlocks.Snapshot.Encoding

namespace FallingBlocks

/-- A configuration under which the first piece of a game can be locked at once. -/
def Config.Playable (c : Config) : Prop :=
  c.spawnY < 0 ∨ 4 ≤ c.width ∧ c.spawnY + 1 < c.height

instance (c : Config) : Decidable c.Playable :=
  inferInstanceAs (Decidable (c.spawnY < 0 ∨ 4 ≤ c.width ∧ c.spawnY + 1 < c.height))

/-- On a board of four columns or more, with the spawn row not the last, pieces enter inside. -/
theorem Piece.inside_entering {c : Config} (hwidth : 4 ≤ c.width) (hrow : c.spawnY + 1 < c.height)
    (shape : Shape) : (c.entering shape).Inside c := by
  intro cell hcell
  obtain ⟨o, ho, rfl⟩ := mem_cells_entering.mp hcell
  have hbounds := Shape.offsets_zero_bounds shape o ho
  simp only [Config.spawnX, spawnColumn]
  omega

theorem Piece.lockable_entering {c : Config} (h : c.Playable) (shape : Shape) :
    (c.entering shape).Lockable c := by
  rcases h with habove | ⟨hwidth, hrow⟩
  · exact Or.inl ⟨_, pivot_mem_cells_entering c shape, habove⟩
  · exact Or.inr (inside_entering hwidth hrow shape)

namespace CellGame

/-! ### Games that can always go on -/

/-- A game that admits the piece it holds, or is over, stays so. -/
theorem Step.steady {g h : CellGame} (hstep : Step g h) (hsteady : g.Steady) : h.Steady := by
  intro y hy
  cases hstep with
  | kept lock => exact hsteady y hy
  | moved lock dx dy turns hx hover hadmits =>
      cases hy
      exact Or.inr (Or.inr hadmits.inside)
  | @locked x p hx hover hp hblocked hlock =>
      cases hy
      by_cases habove : p.Above
      · rw [Position.lock_of_above habove]
        exact Or.inl rfl
      · rw [Position.lock_of_not_above habove]
        by_cases hfits : ((x.pile ∪ p.cells.toFinset).sunk
            ((x.pile ∪ p.cells.toFinset).completed g.config.width g.config.height)).Admits
              g.config.width g.config.height (g.config.entering x.next.shape)
        · exact Or.inr (Or.inr hfits.inside)
        · refine Or.inl ?_
          simp only [Position.landed, hfits, decide_false, Bool.not_false]

theorem steady_start {g : CellGame} (h : g.config.Playable) : g.start.game.Steady := by
  intro y hy
  cases hy
  exact Or.inr (Piece.lockable_entering h _)

/-! ### The game on a set of cells has no faults of the board -/

/-- The turn was not refused with a fault of the board. -/
def Turn.Faultless (t : Turn) : Prop :=
  ∀ fault, t.answer ≠ .error (.board fault)

theorem act_faultless (g : CellGame) (idle : Answer) (op : Position → CellGame × Answer) :
    (g.act idle op).Faultless := by
  intro fault
  unfold act
  split
  · simp
  · split <;> simp

theorem observe_faultless (g : CellGame) (f : Position → Answer) : (g.observe f).Faultless := by
  intro fault
  unfold observe
  split <;> simp

theorem Turn.Faultless.andThen {t next : Turn} (ht : t.Faultless) (hnext : next.Faultless) :
    (t.andThen next).Faultless := by
  intro fault
  unfold Turn.andThen
  split
  · rename_i fault' hfault
    rw [hfault.symm]
    exact ht fault
  · exact hnext fault

theorem perform_faultless (g : CellGame) (command : Session.Command) :
    (g.perform command).Faultless := by
  cases command with
  | start => exact fun _ h => nomatch h
  | look => exact observe_faultless _ _
  | moveLeft => exact act_faultless _ _ _
  | moveRight => exact act_faultless _ _ _
  | rotate => exact act_faultless _ _ _
  | softDrop => exact act_faultless _ _ _
  | hardDrop => exact act_faultless _ _ _
  | tick => exact (act_faultless _ _ _).andThen (observe_faultless _ _)

theorem submit_faultless (g : CellGame) (r : Session.Request) : (g.submit r).Faultless := by
  cases r with
  | command command => exact perform_faultless g command
  | step request =>
      intro fault
      rw [submit, step]
      split
      · simp
      · split
        · simp
        · cases request with
          | error fault' => simp
          | ok action => exact ((perform_faultless _ _).andThen (observe_faultless _ _)) fault

end CellGame

namespace Session

variable {s : Session} {r : Request}

/-- A request that is not refused with a fault of the board does what it does on cells. -/
theorem submit_mirrors (hs : s.Sound) (hfault : ∀ fault, (s.submit r).answer ≠ .error (.board fault)) :
    Mirrors (Reply.seen s.config) (s.submit r) (s.cellGame.submit r) := by
  by_cases hstart : r = .command .start
  · rw [hstart]
    exact submit_start_mirrors s
  · rcases submit_follows hs.tidy hs.seated hstart with ⟨hmirrors, -⟩ | hstuck
    · exact hmirrors
    · obtain ⟨fault, hanswer⟩ := hstuck.fault
      exact absurd hanswer (hfault fault)

/-- **For as long as the board has no fault, the two runs are the same.** -/
theorem after_mirrors (hs : s.Sound) {requests : List Request}
    (hfault : ∀ fault, .error (.board fault) ∉ s.replies requests) :
    (s.after requests).cellGame = s.cellGame.after requests ∧
      (s.replies requests).map (Except.map (Reply.seen s.config)) = s.cellGame.replies requests := by
  induction requests generalizing s with
  | nil => exact ⟨rfl, rfl⟩
  | cons r rest ih =>
      have hfirst : ∀ fault, (s.submit r).answer ≠ .error (.board fault) := by
        intro fault h
        exact hfault fault (by rw [replies, h]; exact List.mem_cons_self)
      have hmirrors := submit_mirrors hs hfirst
      have hconfig := submit_config hs r
      obtain ⟨hgame, hreplies⟩ := ih (hs.submit r) fun fault h =>
        hfault fault (List.mem_cons_of_mem _ h)
      rw [hmirrors.game] at hgame hreplies
      refine ⟨hgame, ?_⟩
      rw [replies, List.map_cons, hmirrors.answer, CellGame.replies, ← hconfig, hreplies]

/-- A session whose piece can be locked has no fault of the board. -/
theorem submit_ne_fault (hs : s.Sound) (hsteady : s.cellGame.Steady) (fault : Board.Fault) :
    (s.submit r).answer ≠ .error (.board fault) := by
  intro hanswer
  have hseen : ∀ u : CellGame.Turn, Mirrors (Reply.seen s.config) (s.submit r) u →
      u.answer = .error (.board fault) := by
    intro u hmirrors
    rw [← hmirrors.answer, hanswer]
    rfl
  by_cases hstart : r = .command .start
  · rw [hstart] at hanswer
    exact nomatch hanswer
  · rcases submit_follows hs.tidy hs.seated hstart with ⟨hmirrors, -⟩ | hstuck
    · exact CellGame.submit_faultless _ r fault (hseen _ hmirrors)
    · exact hstuck.unsteady hsteady

/-- **A run from a piece that can be locked has none either.** -/
theorem replies_ne_fault (hs : s.Sound) (hsteady : s.cellGame.Steady) {requests : List Request}
    (hplayable : .command .start ∈ requests → s.config.Playable) (fault : Board.Fault) :
    .error (.board fault) ∉ s.replies requests := by
  induction requests generalizing s with
  | nil => exact fun h => nomatch h
  | cons r rest ih =>
      intro hmem
      rcases List.mem_cons.mp hmem with hfirst | hrest
      · exact submit_ne_fault hs hsteady fault hfirst.symm
      · have hconfig := submit_config hs r
        refine ih (hs.submit r) ?_ ?_ hrest
        · by_cases hstart : r = .command .start
          · rw [hstart, submit_start, start_game]
            exact CellGame.steady_start (hplayable (by rw [hstart]; exact List.mem_cons_self))
          · exact (submit_step hs hstart).steady hsteady
        · intro h
          rw [hconfig]
          exact hplayable (List.mem_cons_of_mem r h)

/-- A session whose snapshot was loaded, or that has none, is sound and can always go on. -/
theorem sound_of_loaded
    (hloaded : ∀ snap, s.snapshot = some snap → ∃ d, Snapshot.load s.config d = .ok snap) :
    s.Sound ∧ s.cellGame.Steady := by
  cases hsnap : s.snapshot with
  | none =>
      refine ⟨sound_of_none hsnap, fun x hx => ?_⟩
      rw [cellGame_position_none hsnap] at hx
      exact nomatch hx
  | some snap =>
      obtain ⟨d, hd⟩ := hloaded snap hsnap
      have haccepted := Snapshot.accepted_of_load hd
      refine ⟨sound_of_inside hsnap haccepted.tidy haccepted.current, fun x hx => ?_⟩
      rw [cellGame_position hsnap] at hx
      cases hx
      exact Or.inr (Or.inr haccepted.current)

/--
**A session refines the game on a set of cells.**  Whatever was loaded, or nothing, and
whatever is asked for: as long as the board has no fault, both end in the same position
with the same answers on the way; the board has no fault unless a new game is begun
where the first piece has no room; and in any case its masks stay those of the pile.
-/
theorem refines_cellGame
    (hloaded : ∀ snap, s.snapshot = some snap → ∃ d, Snapshot.load s.config d = .ok snap)
    (requests : List Request) :
    ((∀ fault, .error (.board fault) ∉ s.replies requests) →
      (s.after requests).cellGame = s.cellGame.after requests ∧
        (s.replies requests).map (Except.map (Reply.seen s.config))
          = s.cellGame.replies requests) ∧
    ((.command .start ∈ requests → s.config.Playable) →
      ∀ fault, .error (.board fault) ∉ s.replies requests) ∧
    ∀ snap, (s.after requests).snapshot = some snap → (snap.boardIn s.config).WF := by
  obtain ⟨hs, hsteady⟩ := sound_of_loaded hloaded
  refine ⟨after_mirrors hs, replies_ne_fault hs hsteady, ?_⟩
  intro snap hsnap
  have htidy := (hs.after requests).tidy snap hsnap
  rwa [after_config hs] at htidy

/-- A session with a full row and a piece that overlaps it. -/
def crowded : Session where
  config := { width := 6, height := 5 }
  supply := .inOrder
  snapshot := some
    { board := [0, 0, 0, 63, 5]
      current := { shape := .T, x := 2, y := 3, rotation := 1 }
      next := { shape := .I, x := 1, y := 0 }
      level := 2 }

theorem crowded_loaded (snap : Snapshot) (h : crowded.snapshot = some snap) :
    ∃ d, Snapshot.load crowded.config d = .ok snap := by
  refine ⟨snap.toDocument, ?_⟩
  cases h
  rfl

/-- The piece is locked where it overlaps, the full row is cleared, and a new game begins. -/
theorem refines_cellGame_crowded :
    let requests : List Request :=
      [.command .hardDrop, .step (.ok .tick), .command .start, .step (.ok .rotate)]
    (crowded.after requests).cellGame = crowded.cellGame.after requests := by
  intro requests
  obtain ⟨hagree, hfault, -⟩ := refines_cellGame crowded_loaded requests
  exact (hagree (hfault fun _ => by decide)).1

end Session

end FallingBlocks
