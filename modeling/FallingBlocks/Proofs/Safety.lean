/-
What a game in progress can be refused.

A game in progress has answers for everything that can be asked of it, a step that names
no action apart.  So the only refusals left are faults of the board, and these need a
piece that hangs over an edge when it is locked.  Two results follow.  A snapshot that
was loaded never leads to a refusal, however small its board is.  And a new game can lead
to one exactly where the first piece has no room and does not reach above the board
either: a single descent then comes to a lock that fails.
-/
import FallingBlocks.Proofs.Refinement

namespace FallingBlocks

/-! ### Room for the first piece -/

namespace Piece

/-- A piece that is on the board one row further down is on the board. -/
theorem Inside.of_lowered {c : Config} {p : Piece} (h : (p.moved 0 1 0).Inside c) : p.Inside c := by
  intro cell hcell
  have hlow := h ⟨cell.row + 1, cell.col⟩ (by
    rw [cells_lowered]
    exact List.mem_map_of_mem hcell)
  obtain ⟨hleft, hright, hfloor⟩ := hlow
  exact ⟨hleft, hright, Int.lt_of_le_of_lt (Int.le_add_of_nonneg_right (by decide)) hfloor⟩

/-- The shape that reaches to the left and down needs all the room there is to need. -/
theorem room_of_inside_entering {c : Config} (h : (c.entering .T).Inside c) :
    4 ≤ c.width ∧ c.spawnY + 1 < c.height := by
  have hedge := h ⟨c.spawnY + 0, c.spawnX + -1⟩ (mem_cells_entering.mpr ⟨⟨-1, 0⟩, by decide, rfl⟩)
  have hfoot := h ⟨c.spawnY + 1, c.spawnX + 0⟩ (mem_cells_entering.mpr ⟨⟨0, 1⟩, by decide, rfl⟩)
  simp only [Config.spawnX, spawnColumn] at hedge hfoot
  omega

/-- Where the first piece may hang over an edge, one shape does. -/
theorem not_lockable_entering {c : Config} (h : ¬ c.Playable) : ¬ (c.entering .T).Lockable c := by
  obtain ⟨hrow, hroom⟩ := not_or.mp h
  rintro (⟨cell, hcell, habove⟩ | hinside)
  · obtain ⟨o, ho, rfl⟩ := mem_cells_entering.mp hcell
    have hbounds := Shape.offsets_zero_bounds _ o ho
    simp only at habove
    omega
  · exact hroom (room_of_inside_entering hinside)

end Piece

/-! ### The game on a set of cells -/

namespace CellGame

/-- There is a position to play on. -/
def Begun (g : CellGame) : Prop :=
  ∃ x, g.position = some x

/-- The turn was granted, and leaves a game in progress behind. -/
structure Turn.Granted (t : Turn) : Prop where
  answer : ∃ a, t.answer = .ok a
  begun : t.game.Begun

theorem start_granted (g : CellGame) : g.start.Granted :=
  ⟨⟨_, rfl⟩, ⟨_, rfl⟩⟩

variable {g : CellGame}

theorem act_granted (h : g.Begun) (idle : Answer) {op : Position → CellGame × Answer}
    (hop : ∀ x, (op x).1.Begun) : (g.act idle op).Granted := by
  obtain ⟨x, hx⟩ := h
  cases hover : x.gameOver with
  | true =>
      rw [act_over hx hover]
      exact ⟨⟨_, rfl⟩, ⟨x, hx⟩⟩
  | false =>
      rw [act_running hx hover]
      exact ⟨⟨_, rfl⟩, hop x⟩

theorem observe_granted (h : g.Begun) (f : Position → Answer) : (g.observe f).Granted := by
  obtain ⟨x, hx⟩ := h
  refine ⟨⟨f x, ?_⟩, ?_⟩
  · rw [observe, hx]
  · rw [observe_game]
    exact ⟨x, hx⟩

theorem Turn.Granted.andThen {t next : Turn} (ht : t.Granted) (hnext : next.Granted) :
    (t.andThen next).Granted := by
  obtain ⟨a, ha⟩ := ht.answer
  rwa [Turn.andThen, ha]

theorem move_granted (h : g.Begun) (dx dy turns : Int) : (g.move dx dy turns).Granted :=
  act_granted h _ fun _ => ⟨_, rfl⟩

theorem softDrop_granted (h : g.Begun) : g.softDrop.Granted := by
  refine act_granted h _ fun x => ?_
  simp only
  split <;> exact ⟨_, rfl⟩

/-- A game in progress grants every command. -/
theorem perform_granted (h : g.Begun) (command : Session.Command) : (g.perform command).Granted := by
  cases command with
  | start => exact start_granted g
  | look => exact observe_granted h _
  | moveLeft => exact move_granted h _ _ _
  | moveRight => exact move_granted h _ _ _
  | rotate => exact move_granted h _ _ _
  | softDrop => exact softDrop_granted h
  | hardDrop => exact act_granted h _ fun _ => ⟨_, rfl⟩
  | tick => exact (softDrop_granted h).andThen (observe_granted (softDrop_granted h).begun _)

theorem step_granted (h : g.Begun) (action : Action) : (g.step (.ok action)).Granted := by
  obtain ⟨x, hx⟩ := h
  cases hover : x.gameOver with
  | true =>
      rw [step_over hx hover]
      exact ⟨⟨_, rfl⟩, ⟨x, hx⟩⟩
  | false =>
      rw [step_action hx hover]
      have hdone := perform_granted (g := { g with lastLock := none }) ⟨x, hx⟩
        (Session.commandOf action)
      exact hdone.andThen (observe_granted hdone.begun _)

end CellGame

namespace Session

/-! ### Requests that name something -/

/-- Every request but a step that names no action. -/
def Request.Proper : Request → Prop
  | .command _ => True
  | .step request => ∃ action, request = .ok action

instance : DecidablePred Request.Proper
  | .command _ => isTrue trivial
  | .step (.ok action) => isTrue ⟨action, rfl⟩
  | .step (.error _) => isFalse fun ⟨_, h⟩ => nomatch h

/-- What an action asks for when it is asked for directly. -/
def direct (actions : List Action) : List Request :=
  actions.map fun action => .command (commandOf action)

theorem proper_direct (actions : List Action) : ∀ r ∈ direct actions, r.Proper := by
  intro r hr
  obtain ⟨action, -, rfl⟩ := List.mem_map.mp hr
  trivial

theorem start_notMem_direct (actions : List Action) : .command .start ∉ direct actions := by
  intro h
  obtain ⟨action, -, heq⟩ := List.mem_map.mp h
  exact commandOf_ne_start action (Request.command.inj heq)

variable {s : Session} {r : Request} {requests : List Request}

/-- On a set of cells a proper request is granted. -/
theorem cellGame_submit_granted (hbegun : s.cellGame.Begun) (hproper : r.Proper) :
    (s.cellGame.submit r).Granted := by
  cases r with
  | command command => exact CellGame.perform_granted hbegun command
  | step request =>
      obtain ⟨action, rfl⟩ := hproper
      exact CellGame.step_granted hbegun action

/-- What mirrors a granted turn is granted. -/
theorem Mirrors.granted {α : Type} {seen : α → CellGame.Answer} {t : Turn α} {u : CellGame.Turn}
    (h : Mirrors seen t u) (hu : u.Granted) :
    (∃ a, t.answer = .ok a) ∧ t.session.cellGame.Begun := by
  obtain ⟨b, hb⟩ := hu.answer
  have hanswer := h.answer
  rw [hb] at hanswer
  refine ⟨?_, by rw [h.game]; exact hu.begun⟩
  cases ht : t.answer with
  | error fault => rw [ht] at hanswer; exact nomatch hanswer
  | ok a => exact ⟨a, rfl⟩

/-- A game in progress refuses a proper request only with a fault of the board, and goes on. -/
theorem submit_proper (hs : s.Sound) (hbegun : s.cellGame.Begun) (hproper : r.Proper) :
    ((∃ reply, (s.submit r).answer = .ok reply) ∨
      ∃ fault, (s.submit r).answer = .error (.board fault)) ∧
      (s.submit r).session.cellGame.Begun := by
  have hgranted := cellGame_submit_granted hbegun hproper
  by_cases hstart : r = .command .start
  · subst hstart
    obtain ⟨hok, hgoes⟩ := (submit_start_mirrors s).granted hgranted
    exact ⟨Or.inl hok, hgoes⟩
  · rcases submit_follows hs.tidy hs.seated hstart with ⟨hmirrors, -⟩ | hstuck
    · obtain ⟨hok, hgoes⟩ := hmirrors.granted hgranted
      exact ⟨Or.inl hok, hgoes⟩
    · obtain ⟨lock, -, hkept⟩ := hstuck.kept
      exact ⟨Or.inr hstuck.fault, by rw [hkept]; exact hbegun⟩

theorem replies_proper (hs : s.Sound) (hbegun : s.cellGame.Begun)
    (hproper : ∀ r ∈ requests, r.Proper) :
    ∀ answer ∈ s.replies requests,
      (∃ reply, answer = .ok reply) ∨ ∃ fault, answer = .error (.board fault) := by
  induction requests generalizing s with
  | nil => exact fun _ h => nomatch h
  | cons r rest ih =>
      obtain ⟨hanswer, hgoes⟩ := submit_proper hs hbegun (hproper r List.mem_cons_self)
      intro answer hmem
      rcases List.mem_cons.mp hmem with rfl | hrest
      · exact hanswer
      · exact ih (hs.submit r) hgoes (fun r' hr' => hproper r' (List.mem_cons_of_mem r hr')) answer
          hrest

/-- A game whose piece can be locked grants a proper request. -/
theorem submit_granted (hs : s.Sound) (hsteady : s.cellGame.Steady) (hbegun : s.cellGame.Begun)
    (hproper : r.Proper) : ∃ reply, (s.submit r).answer = .ok reply := by
  rcases (submit_proper hs hbegun hproper).1 with hok | ⟨fault, hfault⟩
  · exact hok
  · exact absurd hfault (submit_ne_fault hs hsteady fault)

/-- **A run from a piece that can be locked is never refused anything.** -/
theorem replies_granted (hs : s.Sound) (hsteady : s.cellGame.Steady) (hbegun : s.cellGame.Begun)
    (hplayable : .command .start ∈ requests → s.config.Playable)
    (hproper : ∀ r ∈ requests, r.Proper) :
    ∀ answer ∈ s.replies requests, ∃ reply, answer = .ok reply := by
  intro answer hmem
  rcases replies_proper hs hbegun hproper answer hmem with hok | ⟨fault, rfl⟩
  · exact hok
  · exact absurd hmem (replies_ne_fault hs hsteady hplayable fault)

/-! ### Loaded snapshots -/

/--
**A snapshot that was loaded never leads to a refusal.**  Neither the piece that overlaps
filled cells nor the full rows nor the next piece that cannot enter makes a difference,
and the board may be too small for any piece to enter; only a new game needs room.
-/
theorem loaded_never_refused {d : Document} {snap : Snapshot}
    (hload : Snapshot.load s.config d = .ok snap) (hsnap : s.snapshot = some snap)
    (hplayable : .command .start ∈ requests → s.config.Playable)
    (hproper : ∀ r ∈ requests, r.Proper) :
    ∀ answer ∈ s.replies requests, ∃ reply, answer = .ok reply := by
  have hloaded : ∀ snap', s.snapshot = some snap' → ∃ d, Snapshot.load s.config d = .ok snap' := by
    intro snap' hsnap'
    rw [hsnap] at hsnap'
    cases hsnap'
    exact ⟨d, hload⟩
  obtain ⟨hs, hsteady⟩ := sound_of_loaded hloaded
  exact replies_granted hs hsteady ⟨_, cellGame_position hsnap⟩ hplayable hproper

/-- Two columns and two rows, where no long piece can enter, with a full row and an overlap. -/
def cramped : Session where
  config := { width := 2, height := 2 }
  supply := .cycle .I []
  snapshot := some
    { board := [0, 3]
      current := { shape := .O, x := 0, y := 0 }
      next := { shape := .O, x := 0, y := -7 } }

/-- The overlapping piece is locked, and the game ends when a piece of four columns enters. -/
theorem loaded_never_refused_cramped :
    (∃ d, (Snapshot.load cramped.config d).toOption = cramped.snapshot) ∧
      ∀ answer ∈ cramped.replies
          [.command .hardDrop, .step (.ok .rotate), .command .tick, .step (.ok .hardDrop)],
        ∃ reply, answer = .ok reply := by
  have hload : Snapshot.load cramped.config (cramped.snapshot.get rfl).toDocument
      = .ok (cramped.snapshot.get rfl) := rfl
  refine ⟨⟨_, congrArg Except.toOption hload⟩, ?_⟩
  exact loaded_never_refused hload rfl (fun h => absurd h (by simp)) (by decide)

/-! ### New games -/

/-- A descent of a piece that has just entered and hangs over an edge is refused. -/
theorem softDrop_hanging {before : Snapshot} (htidy : s.Tidy) (hsnap : s.snapshot = some before)
    (hover : before.gameOver = false) {shape : Shape}
    (hpiece : before.current = s.config.entering shape)
    (hlock : ¬ before.current.Lockable s.config) :
    ∃ fault, s.softDrop.answer = .error (.board fault) := by
  have hboard := htidy before hsnap
  have hblocked : ¬ (before.position s.config).Admits s.config (before.current.moved 0 1 0) :=
    fun h => hlock (Or.inr h.inside.of_lowered)
  obtain ⟨fault, hfault⟩ := (locking_fails (s := s) hboard hpiece hlock false).fault
  refine ⟨fault, ?_⟩
  rw [softDrop, run, hsnap]
  simp only [hover, Bool.false_eq_true, if_false, Well.softDrop,
    Snapshot.attempt_of_blocked hboard hblocked, hfault]

/--
**A new game can be refused something exactly where the first piece has no room and does not
reach above the board.**
-/
theorem refusable_iff (c : Config) (rules : Rules) :
    (∃ (supply : Supply) (actions : List Action) (fault : Fault),
      .error fault ∈ (Session.start { config := c, rules, supply }).session.replies
        (direct actions)) ↔
      c.height ≤ c.spawnY + 1 ∨ c.width ≤ 3 ∧ 0 ≤ c.spawnY := by
  have hheight := c.height_pos
  constructor
  · rintro ⟨supply, actions, fault, hfault⟩
    by_contra hroom
    have hplayable : c.Playable := by
      unfold Config.Playable
      omega
    have hsteady : (Session.start { config := c, rules, supply }).session.cellGame.Steady := by
      rw [start_game]
      exact CellGame.steady_start hplayable
    obtain ⟨reply, hreply⟩ := replies_granted (sound_start _) hsteady ⟨_, rfl⟩
      (fun h => absurd h (start_notMem_direct actions)) (proper_direct actions) _ hfault
    exact nomatch hreply
  · intro hroom
    have hplayable : ¬ c.Playable := by
      unfold Config.Playable
      omega
    refine ⟨.cycle .T [], [.softDrop], ?_⟩
    obtain ⟨fault, hfault⟩ := softDrop_hanging
      (sound_start { config := c, rules, supply := .cycle .T [] }).tidy rfl rfl rfl
      (Piece.not_lockable_entering hplayable)
    refine ⟨.board fault, ?_⟩
    refine List.mem_cons.mpr (Or.inl ?_)
    simp only [submit, perform, commandOf, Turn.map, hfault, Except.map]

end Session

end FallingBlocks
