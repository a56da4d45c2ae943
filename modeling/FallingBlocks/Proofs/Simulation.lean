/-
A session does what the game on a set of cells does.

Read under its configuration, a session whose board has the right size is a game on a
set of cells.  Every operation then does to the session what the same operation does to
that game, and answers with what the game answers.

The exception is a lock that is bound to fail.  On a board too narrow or too low for the
piece that entered, a piece can come to a lock while it hangs over an edge.  Such an
operation is refused with a fault of the board, and all it can change is the account of
the last lock.  So each operation below has two outcomes, `Mirrors` or `Stuck`.
-/
import FallingBlocks.Proofs.CellGame.Step
import FallingBlocks.Proofs.Lock

namespace FallingBlocks.Session

/-! ### A session on a set of cells -/

/-- The game that a session is on a set of cells. -/
def cellGame (s : Session) : CellGame :=
  { config := s.config
    rules := s.rules
    supply := s.supply
    lastLock := s.lastLock
    position := s.snapshot.map (Snapshot.position s.config) }

/-- The board has the size of the configuration, if a game has begun. -/
def Tidy (s : Session) : Prop :=
  ∀ snap, s.snapshot = some snap → snap.Tidy s.config

/-- What a command answers, on a set of cells. -/
def Answer.seen (c : Config) : Answer → CellGame.Answer
  | .snapshot s => .position (s.position c)
  | .done moved => .done moved
  | .rows n => .rows n

/-- What a request is answered with, on a set of cells. -/
def Reply.seen (c : Config) : Reply → CellGame.Answer
  | .answer a => a.seen c
  | .report r => .report (r.snapshot.position c) r.gained r.gameOver r.info

theorem cellGame_position {s : Session} {before : Snapshot} (h : s.snapshot = some before) :
    s.cellGame.position = some (before.position s.config) := by
  simp [cellGame, h]

theorem cellGame_position_none {s : Session} (h : s.snapshot = none) :
    s.cellGame.position = none := by
  simp [cellGame, h]

/-- The operation did to the session what another did to the game on a set of cells. -/
structure Mirrors {α : Type} (seen : α → CellGame.Answer) (t : Turn α) (u : CellGame.Turn) :
    Prop where
  game : t.session.cellGame = u.game
  answer : t.answer.map seen = u.answer
  tidy : t.session.Tidy

/--
The operation came to a lock that is bound to fail, and changed nothing, unless the account of
an earlier lock is gone.
-/
structure Stuck {α : Type} (s : Session) (t : Turn α) : Prop where
  fault : ∃ fault, t.answer = .error (.board fault)
  kept : ∃ lock, (lock = s.lastLock ∨ lock = none) ∧ t.session = { s with lastLock := lock }
  unsteady : ¬ s.cellGame.Steady

/-- The two outcomes of an operation that does not begin a new game. -/
def Follows {α : Type} (s : Session) (seen : α → CellGame.Answer) (t : Turn α)
    (u : CellGame.Turn) : Prop :=
  (Mirrors seen t u ∧ CellGame.Step s.cellGame u.game) ∨ Stuck s t

/-! ### Operations on the falling piece

An operation works on the frame of the snapshot.  Its effect is either that of an
operation on the position of the snapshot, or a fault that comes before any shape is
drawn.
-/

/-- The effect on a frame is that of a change of the game on a set of cells. -/
structure Effect.Does {α : Type} (s : Session) (seen : α → CellGame.Answer) (e : Effect α)
    (done : CellGame × CellGame.Answer) : Prop where
  answer : ∃ a, e.answer = .ok a ∧ seen a = done.2
  after : ∃ snap, e.frame.freeze = some snap ∧ snap.Tidy s.config ∧
    { s.cellGame with
      supply := e.supply
      lastLock := e.lastLock
      position := some (snap.position s.config) } = done.1
  step : CellGame.Step s.cellGame done.1

/-- The effect is a fault, on a piece that cannot be locked. -/
structure Effect.Fails {α : Type} (s : Session) (before : Snapshot) (e : Effect α) : Prop where
  fault : ∃ fault, e.answer = .error fault
  supply : e.supply = s.supply
  lastLock : e.lastLock = s.lastLock
  hangs : ¬ before.current.Lockable s.config

/-- What an operation does follows from its effect on the frame of a running game. -/
theorem run_follows {α : Type} {s : Session} {seen : α → CellGame.Answer} {idle : α}
    {op : Frame → Effect α} {op' : Position → CellGame × CellGame.Answer} (htidy : s.Tidy)
    (hop : ∀ before, s.snapshot = some before → before.gameOver = false →
      Effect.Does s seen (op (before.thaw s.config)) (op' (before.position s.config)) ∨
        Effect.Fails s before (op (before.thaw s.config))) :
    Follows s seen (s.run idle op) (s.cellGame.act (seen idle) op') := by
  cases hsnap : s.snapshot with
  | none =>
      rw [CellGame.act_none (cellGame_position_none hsnap), run, hsnap]
      exact Or.inl ⟨⟨rfl, rfl, htidy⟩, .kept _⟩
  | some before =>
      have hposition := cellGame_position hsnap
      cases hover : before.gameOver with
      | true =>
          rw [CellGame.act_over hposition hover, run, hsnap]
          simp only [hover, if_true]
          exact Or.inl ⟨⟨rfl, rfl, htidy⟩, .kept _⟩
      | false =>
          rw [CellGame.act_running hposition hover, run, hsnap]
          simp only [hover, Bool.false_eq_true, if_false]
          rcases hop before hsnap hover with hdoes | hfails
          · obtain ⟨a, hanswer, hseen⟩ := hdoes.answer
            obtain ⟨snap, hfreeze, hsnaptidy, hgame⟩ := hdoes.after
            simp only [hanswer, hfreeze]
            refine Or.inl ⟨⟨?_, ?_, ?_⟩, hdoes.step⟩
            · exact hgame
            · simp only [Except.map, hseen]
            · intro snap' hsnap'
              cases hsnap'
              exact hsnaptidy
          · obtain ⟨fault, hanswer⟩ := hfails.fault
            simp only [hanswer, hfails.supply]
            refine Or.inr ⟨⟨fault, rfl⟩, ⟨_, Or.inl hfails.lastLock, by rw [hsnap]⟩, ?_⟩
            intro hsteady
            rcases hsteady _ hposition with h | h
            · exact Bool.false_ne_true (hover.symm.trans h)
            · exact hfails.hangs h

variable {s : Session} {before : Snapshot}

/-- A move that is granted. -/
theorem moved_does (htidy : before.Tidy s.config) (hsnap : s.snapshot = some before)
    (hover : before.gameOver = false) {dx dy turns : Int}
    (h : (before.position s.config).Admits s.config (before.current.moved dx dy turns)) :
    Effect.Does s CellGame.Answer.done
      (s.moving (before.thaw s.config)
        ({ before with current := before.current.moved dx dy turns }.thaw s.config).toWell (.ok true))
      ({ s.cellGame with
          position := some
            { before.position s.config with current := before.current.moved dx dy turns } },
        .done true) :=
  ⟨⟨true, rfl, rfl⟩, ⟨_, rfl, htidy, rfl⟩,
    .moved s.lastLock dx dy turns (cellGame_position hsnap) hover h⟩

/-- A move that is refused. -/
theorem refused_does (htidy : before.Tidy s.config) (hsnap : s.snapshot = some before) :
    Effect.Does s CellGame.Answer.done
      (s.moving (before.thaw s.config) (before.thaw s.config).toWell (.ok false))
      ({ s.cellGame with position := some (before.position s.config) }, .done false) := by
  refine ⟨⟨false, rfl, rfl⟩, ⟨before, rfl, htidy, rfl⟩, ?_⟩
  rw [← cellGame_position hsnap]
  exact .kept s.lastLock

/-- The lock of a piece that can be locked. -/
theorem locking_does {α : Type} {seen : α → CellGame.Answer} (htidy : before.Tidy s.config)
    (hsnap : s.snapshot = some before) (hover : before.gameOver = false) {p : Piece}
    (hp : p = before.current ∨
      ∃ rows, p = before.current.moved 0 rows 0 ∧ (before.position s.config).Admits s.config p)
    (hblocked : ¬ (before.position s.config).Admits s.config (p.moved 0 1 0))
    (hlock : p.Lockable s.config) (a : α) :
    Effect.Does s seen (s.locking ({ before with current := p }.thaw s.config) a)
      (s.cellGame.settle { before.position s.config with current := p }, seen a) := by
  have hagrees := Snapshot.lock_agrees (s := { before with current := p }) s.rules s.supply
    htidy hover hlock
  obtain ⟨after, hfreeze, hafter, hposition⟩ := hagrees.after
  refine ⟨⟨a, ?_, rfl⟩, ⟨after, ?_, hafter, ?_⟩,
    .locked p (cellGame_position hsnap) hover hp hblocked hlock⟩
  · simp only [locking, hagrees.answer]
  · simp only [locking, hagrees.answer, hfreeze]
  · simp only [locking, hagrees.answer, hagrees.supply, hposition]
    rfl

/-- The lock of a piece that hangs over an edge. -/
theorem locking_fails {α : Type} (htidy : before.Tidy s.config) {shape : Shape}
    (hpiece : before.current = s.config.entering shape)
    (hlock : ¬ before.current.Lockable s.config) (a : α) :
    Effect.Fails s before (s.locking (before.thaw s.config) a) := by
  obtain ⟨fault, hanswer, hsupply⟩ := Snapshot.lock_fails s.rules s.supply htidy hpiece hlock
  refine ⟨⟨fault, ?_⟩, ?_, ?_, hlock⟩
  · simp only [locking, hanswer]
  · simp only [locking, hanswer, hsupply]
  · simp only [locking, hanswer]

/-! ### The operations one by one -/

theorem move_follows (htidy : s.Tidy) (m : Well → Except Board.Fault (Well × Bool))
    {dx dy turns : Int} (hm : ∀ w, m w = w.attempt dx dy turns) :
    Follows s CellGame.Answer.done (s.move m) (s.cellGame.move dx dy turns) := by
  refine run_follows htidy fun before hsnap hover => Or.inl ?_
  have hboard := htidy before hsnap
  simp only [hm]
  by_cases h : (before.position s.config).Admits s.config (before.current.moved dx dy turns)
  · rw [Snapshot.attempt_of_admits hboard h]
    simp only [cellGame, Position.shift_of_admits h]
    exact moved_does hboard hsnap hover h
  · rw [Snapshot.attempt_of_blocked hboard h]
    simp only [cellGame, Position.shift_of_blocked h]
    exact refused_does hboard hsnap

/-- A piece that cannot be locked has just entered. -/
theorem entering_of_not_lockable (hseated : s.cellGame.Seated) (hsnap : s.snapshot = some before)
    (hlock : ¬ before.current.Lockable s.config) :
    ∃ shape, before.current = s.config.entering shape := by
  rcases hseated _ (cellGame_position hsnap) with hinside | hentering
  · exact absurd (Or.inr hinside) hlock
  · exact hentering

theorem softDrop_follows (htidy : s.Tidy) (hseated : s.cellGame.Seated) :
    Follows s CellGame.Answer.done s.softDrop s.cellGame.softDrop := by
  refine run_follows htidy fun before hsnap hover => ?_
  have hboard := htidy before hsnap
  simp only [Well.softDrop]
  by_cases h : (before.position s.config).Admits s.config (before.current.moved 0 1 0)
  · rw [Snapshot.attempt_of_admits hboard h]
    simp only [cellGame, Position.shift_of_admits h, if_true]
    exact Or.inl (moved_does hboard hsnap hover h)
  · rw [Snapshot.attempt_of_blocked hboard h]
    simp only [cellGame, Position.shift_of_blocked h, Bool.false_eq_true, if_false]
    by_cases hlock : before.current.Lockable s.config
    · exact Or.inl (locking_does hboard hsnap hover (Or.inl rfl) h hlock false)
    · obtain ⟨shape, hpiece⟩ := entering_of_not_lockable hseated hsnap hlock
      exact Or.inr (locking_fails hboard hpiece hlock false)

theorem hardDrop_follows (htidy : s.Tidy) (hseated : s.cellGame.Seated) :
    Follows s CellGame.Answer.rows s.hardDrop s.cellGame.hardDrop := by
  refine run_follows htidy fun before hsnap hover => ?_
  have hboard := htidy before hsnap
  have hfell := (before.position s.config).fall_current s.config
  have hblocked := (before.position s.config).fall_blocked s.config
  simp only [Snapshot.drop_thaw hboard]
  by_cases hlock : ((before.position s.config).fall s.config).1.current.Lockable s.config
  · exact Or.inl (locking_does hboard hsnap hover hfell hblocked hlock _)
  · have hsame := hfell.resolve_right fun ⟨_, _, h⟩ => hlock (Or.inr h.inside)
    rw [hsame] at hlock ⊢
    obtain ⟨shape, hpiece⟩ := entering_of_not_lockable hseated hsnap hlock
    exact Or.inr (locking_fails hboard hpiece hlock _)

/-! ### Commands -/

variable {α β : Type}

theorem Mirrors.map (f : α → β) {seen : β → CellGame.Answer} {t : Turn α} {u : CellGame.Turn}
    (h : Mirrors (fun a => seen (f a)) t u) : Mirrors seen (t.map f) u := by
  refine ⟨h.game, ?_, h.tidy⟩
  rw [← h.answer]
  cases ht : t.answer <;> simp only [Turn.map, ht, Except.map]

theorem Stuck.map (f : α → β) {t : Turn α} (h : Stuck s t) : Stuck s (t.map f) := by
  obtain ⟨fault, hfault⟩ := h.fault
  exact ⟨⟨fault, by simp only [Turn.map, hfault, Except.map]⟩, h.kept, h.unsteady⟩

theorem Follows.map (f : α → β) {seen : β → CellGame.Answer} {t : Turn α} {u : CellGame.Turn}
    (h : Follows s (fun a => seen (f a)) t u) : Follows s seen (t.map f) u :=
  h.imp (fun h => ⟨h.1.map f, h.2⟩) (Stuck.map f)

/-- Looking changes nothing, and shows the same on both sides. -/
theorem look_mirrors (htidy : s.Tidy) (seen : Snapshot → CellGame.Answer)
    (shown : Position → CellGame.Answer)
    (h : ∀ snap, seen snap = shown (snap.position s.config)) :
    Mirrors seen s.look (s.cellGame.observe shown) := by
  cases hsnap : s.snapshot with
  | none =>
      rw [look, hsnap, CellGame.observe, cellGame_position_none hsnap]
      exact ⟨rfl, rfl, htidy⟩
  | some before =>
      rw [look, hsnap, CellGame.observe, cellGame_position hsnap]
      exact ⟨rfl, congrArg Except.ok (h before), htidy⟩

/-- What comes after an operation, unless the operation was refused. -/
def Turn.andThen (t : Turn α) (next : Turn β) : Turn β :=
  match t.answer with
  | .error fault => { t with answer := .error fault }
  | .ok _ => { next with events := t.events }

theorem Follows.andThen {seen : α → CellGame.Answer} {seen' : β → CellGame.Answer} {t : Turn α}
    {next : Turn β} {u after : CellGame.Turn} (h : Follows s seen t u)
    (hnext : t.session.Tidy → t.session.cellGame = u.game → t.session.config = s.config →
      Mirrors seen' next after ∧ after.game = u.game) :
    Follows s seen' (t.andThen next) (u.andThen after) := by
  rcases h with ⟨hmirrors, hstep⟩ | hstuck
  · refine Or.inl ?_
    have hconfig : t.session.cellGame.config = s.cellGame.config := by
      rw [hmirrors.game, hstep.config_eq]
    have hanswer := hmirrors.answer
    cases ht : t.answer with
    | error fault =>
        rw [ht, Except.map] at hanswer
        simp only [Turn.andThen, ht, CellGame.Turn.andThen, ← hanswer]
        exact ⟨⟨hmirrors.game, rfl, hmirrors.tidy⟩, hstep⟩
    | ok a =>
        rw [ht, Except.map] at hanswer
        simp only [Turn.andThen, ht, CellGame.Turn.andThen, ← hanswer]
        obtain ⟨hlooked, hgame⟩ := hnext hmirrors.tidy hmirrors.game hconfig
        rw [← hgame] at hstep
        exact ⟨⟨hlooked.game, hlooked.answer, hlooked.tidy⟩, hstep⟩
  · obtain ⟨fault, hfault⟩ := hstuck.fault
    refine Or.inr ⟨⟨fault, ?_⟩, ?_, hstuck.unsteady⟩
    · simp only [Turn.andThen, hfault]
    · simp only [Turn.andThen, hfault]
      exact hstuck.kept

theorem tick_eq (s : Session) : s.tick = s.softDrop.andThen s.softDrop.session.look := by
  rw [tick, Turn.andThen]
  cases s.softDrop.answer <;> rfl

theorem tick_follows (htidy : s.Tidy) (hseated : s.cellGame.Seated) :
    Follows s (fun snap => .position (snap.position s.config)) s.tick s.cellGame.tick := by
  rw [tick_eq, CellGame.tick]
  refine (softDrop_follows htidy hseated).andThen fun hdropped hgame hconfig => ?_
  rw [← hgame]
  exact ⟨look_mirrors hdropped _ .position fun snap => by rw [hconfig], CellGame.observe_game _ _⟩

/-- Every command but the one that begins a new game. -/
theorem perform_follows (htidy : s.Tidy) (hseated : s.cellGame.Seated) {command : Command}
    (hstart : command ≠ .start) :
    Follows s (Answer.seen s.config) (s.perform command) (s.cellGame.perform command) := by
  cases command with
  | start => exact absurd rfl hstart
  | look =>
      refine Or.inl ⟨(look_mirrors htidy _ .position fun snap => rfl).map Answer.snapshot, ?_⟩
      rw [CellGame.perform, CellGame.look, CellGame.observe_game]
      exact .kept s.lastLock
  | moveLeft => exact (move_follows htidy Well.moveLeft fun _ => rfl).map Answer.done
  | moveRight => exact (move_follows htidy Well.moveRight fun _ => rfl).map Answer.done
  | rotate => exact (move_follows htidy Well.rotate fun _ => rfl).map Answer.done
  | softDrop => exact (softDrop_follows htidy hseated).map Answer.done
  | hardDrop => exact (hardDrop_follows htidy hseated).map Answer.rows
  | tick => exact (tick_follows htidy hseated).map Answer.snapshot

/-- A new game begins on an empty board, whatever went before. -/
theorem start_mirrors (s : Session) :
    Mirrors (Answer.seen s.config) (s.perform .start) (s.cellGame.perform .start) := by
  have hempty : Snapshot.boardIn s.config
      { board := (Board.empty s.config.width s.config.height).rows
        current := s.entering s.supply.draw.1
        next := s.entering s.supply.draw.2.draw.1 } = Board.empty s.config.width s.config.height :=
    rfl
  have hposition : Snapshot.position s.config
      { board := (Board.empty s.config.width s.config.height).rows
        current := s.entering s.supply.draw.1
        next := s.entering s.supply.draw.2.draw.1 }
      = { pile := ∅
          current := s.config.entering s.supply.draw.1
          next := s.config.entering s.supply.draw.2.draw.1
          score := 0
          level := 1
          linesCleared := 0
          gameOver := false } := by
    rw [Snapshot.position, hempty, Board.pile_empty]
    rfl
  refine ⟨?_, ?_, ?_⟩
  · simp only [perform, start, Turn.map, cellGame, Option.map_some, hposition]
    rfl
  · simp only [perform, start, Turn.map, Except.map, Answer.seen, hposition]
    rfl
  · intro snap hsnap
    cases hsnap
    rw [Snapshot.Tidy]
    exact Board.wf_empty s.config

/-! ### Steps and requests -/

theorem commandOf_ne_start (a : Action) : commandOf a ≠ .start := by
  cases a <;> simp [commandOf]

/-- Forgetting the account of the last lock makes no difference to how an operation ends. -/
theorem follows_of_forgotten {seen : α → CellGame.Answer} {t : Turn α} {u : CellGame.Turn}
    (h : Follows { s with lastLock := none } seen t u) : Follows s seen t u := by
  refine h.imp (fun h => ⟨h.1, h.2.of_forgotten⟩) fun h => ?_
  obtain ⟨lock, hlock, hkept⟩ := h.kept
  exact ⟨h.fault, ⟨lock, Or.inr (hlock.elim id id), hkept⟩, h.unsteady⟩

/-- What a step reports is made of the two snapshots and the account of the lock. -/
theorem seen_report (c : Config) (before after : Snapshot) (lock : Option LockResult) :
    Reply.seen c (.report (report before after lock))
      = CellGame.report (before.position c) (after.position c) lock := rfl

theorem step_none (hsnap : s.snapshot = none) (request : Except Action.Fault Action) :
    s.step request = { session := s, answer := .error .notInitialized } := by
  simp [step, hsnap]

theorem step_over (hsnap : s.snapshot = some before) (hover : before.gameOver = true)
    (request : Except Action.Fault Action) :
    s.step request =
      { session := s
        answer := .ok { snapshot := before, gained := 0, gameOver := true, info := none } } := by
  simp [step, hsnap, hover]

theorem step_refused (hsnap : s.snapshot = some before) (hover : before.gameOver = false)
    (fault : Action.Fault) :
    s.step (.error fault) =
      { session := { s with lastLock := none }, answer := .error (.action fault) } := by
  simp [step, hsnap, hover]

theorem step_action (hsnap : s.snapshot = some before) (hover : before.gameOver = false)
    (action : Action) :
    s.step (.ok action) =
      let t := { s with lastLock := none }.perform (commandOf action)
      t.andThen (t.session.look.map fun after => report before after t.session.lastLock) := by
  obtain ⟨config, rules, supply, lock, snapshot⟩ := s
  cases hsnap
  simp only [step, hover, Bool.false_eq_true, if_false, Turn.andThen]
  generalize Session.perform _ (commandOf action) = t
  cases t.answer <;> rfl

theorem step_follows (htidy : s.Tidy) (hseated : s.cellGame.Seated)
    (request : Except Action.Fault Action) :
    Follows s (fun r => Reply.seen s.config (.report r)) (s.step request)
      (s.cellGame.step request) := by
  cases hsnap : s.snapshot with
  | none =>
      rw [step_none hsnap, CellGame.step_none (cellGame_position_none hsnap)]
      exact Or.inl ⟨⟨rfl, rfl, htidy⟩, .kept _⟩
  | some before =>
      have hposition := cellGame_position hsnap
      cases hover : before.gameOver with
      | true =>
          rw [step_over hsnap hover, CellGame.step_over hposition hover]
          exact Or.inl ⟨⟨rfl, rfl, htidy⟩, .kept _⟩
      | false =>
          cases request with
          | error fault =>
              rw [step_refused hsnap hover, CellGame.step_refused hposition hover]
              exact Or.inl ⟨⟨rfl, rfl, htidy⟩, .kept none⟩
          | ok action =>
              rw [step_action hsnap hover, CellGame.step_action hposition hover]
              have hfresh := perform_follows (s := { s with lastLock := none }) htidy hseated
                (commandOf_ne_start action)
              refine follows_of_forgotten (hfresh.andThen fun hdone hgame hconfig => ?_)
              have hgame' : _ = ({ s.cellGame with lastLock := none }.perform
                  (commandOf action)).game := hgame
              rw [← hgame']
              refine ⟨(look_mirrors hdone _ _ fun snap => ?_).map _,
                (CellGame.observe_game _ _).trans hgame⟩
              rw [seen_report, hconfig]
              rfl

/-- Every request but the one for a new game. -/
theorem submit_follows (htidy : s.Tidy) (hseated : s.cellGame.Seated) {r : Request}
    (hstart : r ≠ .command .start) :
    Follows s (Reply.seen s.config) (s.submit r) (s.cellGame.submit r) := by
  cases r with
  | command command =>
      have hcommand : command ≠ .start := fun h => hstart (by rw [h])
      exact (perform_follows htidy hseated hcommand).map Reply.answer
  | step request => exact (step_follows htidy hseated request).map Reply.report

theorem submit_start_mirrors (s : Session) :
    Mirrors (Reply.seen s.config) (s.submit (.command .start))
      (s.cellGame.submit (.command .start)) :=
  (start_mirrors s).map Reply.answer

end FallingBlocks.Session
