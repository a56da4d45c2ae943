/-
Runs of a session.

A session is sound if its board has the right size and its piece lies on the board,
above it, or where pieces enter.  Every request keeps it sound, and takes the game on a
set of cells through a `Step` or begins it anew.  So a property of games that a new game
has and that no step destroys holds along every run, refused requests included.
-/
import FallingBlocks.Proofs.Simulation

namespace FallingBlocks.Session

/-- The answers to a list of requests, in order. -/
def replies (s : Session) : List Request → List (Except Fault Reply)
  | [] => []
  | r :: rest => (s.submit r).answer :: (s.submit r).session.replies rest

theorem after_cons (s : Session) (r : Request) (rest : List Request) :
    s.after (r :: rest) = (s.submit r).session.after rest := rfl

/-- What every request keeps of a session. -/
structure Sound (s : Session) : Prop where
  tidy : s.Tidy
  seated : s.cellGame.Seated

variable {s : Session} {r : Request}

theorem submit_start (s : Session) :
    (s.submit (.command .start)).session = s.start.session := rfl

theorem start_game (s : Session) : s.start.session.cellGame = s.cellGame.start.game :=
  (submit_start_mirrors s).game

/-- Refused or not, every request but the one for a new game is a step. -/
theorem submit_step (hs : s.Sound) (hstart : r ≠ .command .start) :
    CellGame.Step s.cellGame (s.submit r).session.cellGame := by
  rcases submit_follows hs.tidy hs.seated hstart with ⟨hmirrors, hstep⟩ | hstuck
  · rwa [← hmirrors.game] at hstep
  · obtain ⟨lock, -, hkept⟩ := hstuck.kept
    rw [hkept]
    exact .kept lock

/-- A session in which a game has just begun. -/
theorem sound_start (s : Session) : s.start.session.Sound := by
  refine ⟨(submit_start_mirrors s).tidy, ?_⟩
  rw [start_game]
  exact CellGame.seated_start _

/-- **Every request keeps a session sound.** -/
theorem Sound.submit (hs : s.Sound) (r : Request) : (s.submit r).session.Sound := by
  by_cases hstart : r = .command .start
  · rw [hstart]
    exact sound_start s
  · refine ⟨?_, (submit_step hs hstart).seated hs.seated⟩
    rcases submit_follows hs.tidy hs.seated hstart with ⟨hmirrors, -⟩ | hstuck
    · exact hmirrors.tidy
    · obtain ⟨lock, -, hkept⟩ := hstuck.kept
      rw [hkept]
      exact hs.tidy

/-- **What a new game has and no step destroys holds along every run.** -/
theorem after_invariant {P : CellGame → Prop} (requests : List Request)
    (hstart : .command .start ∈ requests → ∀ g, P g → P g.start.game)
    (hstep : ∀ g h, P g → CellGame.Step g h → P h) (hs : s.Sound) (hP : P s.cellGame) :
    (s.after requests).Sound ∧ P (s.after requests).cellGame := by
  induction requests generalizing s with
  | nil => exact ⟨hs, hP⟩
  | cons r rest ih =>
      rw [after_cons]
      refine ih (fun h => hstart (List.mem_cons_of_mem r h)) (hs.submit r) ?_
      by_cases hr : r = .command .start
      · rw [hr, submit_start, start_game]
        exact hstart (by rw [hr]; exact List.mem_cons_self) s.cellGame hP
      · exact hstep _ _ hP (submit_step hs hr)

/-- Soundness by itself. -/
theorem Sound.after (hs : s.Sound) (requests : List Request) : (s.after requests).Sound :=
  (after_invariant (P := fun _ => True) requests (fun _ _ _ => trivial) (fun _ _ _ _ => trivial) hs
    trivial).1

/-! ### What no request changes -/

theorem after_config (hs : s.Sound) (requests : List Request) :
    (s.after requests).config = s.config :=
  (after_invariant (P := fun g => g.config = s.config) requests (fun _ _ h => h)
    (fun _ _ h hstep => hstep.config_eq.trans h) hs rfl).2

theorem submit_config (hs : s.Sound) (r : Request) : (s.submit r).session.config = s.config :=
  after_config hs [r]

/-! ### Sound sessions to start from -/

/-- A session of which no game has begun. -/
theorem sound_of_none (h : s.snapshot = none) : s.Sound := by
  refine ⟨fun snap hsnap => ?_, fun x hx => ?_⟩
  · rw [h] at hsnap
    exact nomatch hsnap
  · rw [cellGame_position_none h] at hx
    exact nomatch hx

/-- A session that holds a snapshot whose piece lies on the board or above it. -/
theorem sound_of_inside {snap : Snapshot} (h : s.snapshot = some snap) (htidy : snap.Tidy s.config)
    (hinside : snap.current.Inside s.config) : s.Sound := by
  refine ⟨fun snap' hsnap => ?_, fun x hx => ?_⟩
  · rw [h] at hsnap
    cases hsnap
    exact htidy
  · rw [cellGame_position h] at hx
    cases hx
    exact Or.inl hinside

end FallingBlocks.Session
