/-
What an action comes to.

An action goes through a frame, a well and a board, and comes back as a session.  Told from
the snapshot that it finds, only four things can happen: a move is refused or shifts the
piece, and a drop lowers the piece or locks one.  `Acts` lists them, so that whatever a
caller is told of a step is checked against four cases and not against the operations.

The snapshot is one that the reader accepts.  Its piece lies on the board or above it, which
is why no lock fails and every action is carried out.  That the piece may overlap filled
cells makes no difference.
-/
import FallingBlocks.Proofs.Descent
import FallingBlocks.Proofs.Snapshot.Loading
import FallingBlocks.Proofs.Unfinished

namespace FallingBlocks

/-- The columns and the quarter turns by which a move shifts the piece; a drop is no move. -/
def Action.move? : Action → Option (Int × Int)
  | .left => some (-1, 0)
  | .right => some (1, 0)
  | .rotate => some (0, 1)
  | .softDrop | .hardDrop | .tick => none

/-- The snapshot with its piece moved. -/
def Snapshot.moved (s : Snapshot) (dx dy turns : Int) : Snapshot :=
  { s with current := s.current.moved dx dy turns }

/-- A piece that a command brings to rest is where it was, or some rows further down. -/
theorem Position.rested?_lands {c : Config} {x : Position} {command : Session.Command} {p : Piece}
    (h : x.rested? c command = some p) : p = x.current ∨ x.Admits c p := by
  cases command with
  | softDrop =>
      rw [rested?, Option.ite_none_left_eq_some] at h
      exact Or.inl (Option.some.inj h.2).symm
  | tick =>
      rw [rested?, Option.ite_none_left_eq_some] at h
      exact Or.inl (Option.some.inj h.2).symm
  | hardDrop =>
      rw [← Option.some.inj h]
      rcases x.fall_current c with hsame | ⟨_, _, hadmits⟩
      · exact Or.inl hsame
      · exact Or.inr hadmits
  | start => cases h
  | look => cases h
  | moveLeft => cases h
  | moveRight => cases h
  | rotate => cases h

/-- A move brings nothing to rest. -/
theorem Position.rested?_of_move {c : Config} {x : Position} {action : Action} {m : Int × Int}
    (h : action.move? = some m) : x.rested? c (Session.commandOf action) = none := by
  cases action with
  | left => rfl
  | right => rfl
  | rotate => rfl
  | softDrop => cases h
  | hardDrop => cases h
  | tick => cases h

namespace Session

/-- The lock of a piece in a snapshot leaves an account and a snapshot, those of its position. -/
structure LocksInto (s : Session) (before : Snapshot) (p : Piece) (account : LockResult)
    (after : Snapshot) : Prop where
  locks : s.Locks before p account
  snapshot : (s.lockedAt before p account).snapshot = some after
  account : account =
    (Position.lock { before.position s.config with current := p }
      s.config s.rules s.supply).account
  position : after.position s.config =
    (Position.lock { before.position s.config with current := p }
      s.config s.rules s.supply).position

/-- What an action does to a session that holds a snapshot whose game is not over. -/
inductive Acts (s : Session) (before : Snapshot) (action : Action) : Session → Prop
  /-- A move to where there is no room. -/
  | refused {dx turns : Int} (hmove : action.move? = some (dx, turns))
      (hblocked : ¬ (before.position s.config).Admits s.config (before.current.moved dx 0 turns)) :
      Acts s before action s
  /-- A move to where there is room. -/
  | shifted {dx turns : Int} (hmove : action.move? = some (dx, turns))
      (hadmits : (before.position s.config).Admits s.config (before.current.moved dx 0 turns)) :
      Acts s before action { s with snapshot := some (before.moved dx 0 turns) }
  /-- A drop by one row. -/
  | lowered (hdrop : action.move? = none)
      (hrest : (before.position s.config).rested? s.config (commandOf action) = none) :
      Acts s before action { s with snapshot := some (before.moved 0 1 0) }
  /-- A drop of a piece that cannot be lowered, or not any further. -/
  | locked {p : Piece} {account : LockResult} {after : Snapshot} (hdrop : action.move? = none)
      (hrest : (before.position s.config).rested? s.config (commandOf action) = some p)
      (hlock : s.LocksInto before p account after) :
      Acts s before action (s.lockedAt before p account)

section Running

variable {s : Session} {before : Snapshot} (hsnap : s.snapshot = some before)
  (hover : before.gameOver = false)

include hsnap

/-- An action leaves a snapshot behind. -/
theorem Acts.exists_snapshot {action : Action} {u : Session} (h : s.Acts before action u) :
    ∃ after, u.snapshot = some after := by
  cases h with
  | refused hmove hblocked => exact ⟨before, hsnap⟩
  | shifted hmove hadmits => exact ⟨_, rfl⟩
  | lowered hdrop hrest => exact ⟨_, rfl⟩
  | locked hdrop hrest hlock => exact ⟨_, hlock.snapshot⟩

omit hsnap in
/-- An action that brings a piece to rest locks that piece. -/
theorem Acts.of_rested?_some {action : Action} {u : Session} {p : Piece}
    (h : s.Acts before action u)
    (hrest : (before.position s.config).rested? s.config (commandOf action) = some p) :
    ∃ account after, s.LocksInto before p account after ∧ u = s.lockedAt before p account := by
  cases h with
  | refused hmove hblocked =>
      rw [Position.rested?_of_move hmove] at hrest
      exact nomatch hrest
  | shifted hmove hadmits =>
      rw [Position.rested?_of_move hmove] at hrest
      exact nomatch hrest
  | lowered hdrop hnone =>
      rw [hrest] at hnone
      exact nomatch hnone
  | locked hdrop hsome hlock =>
      rw [hrest] at hsome
      cases hsome
      exact ⟨_, _, hlock, rfl⟩

include hover

/-! ### Moves -/

section Moves

variable (htidy : before.Tidy s.config) {m : Well → Except Board.Fault (Well × Bool)}
  {dx turns : Int} (hm : ∀ w, m w = w.attempt dx 0 turns)

include htidy hm

theorem move_of_admits
    (h : (before.position s.config).Admits s.config (before.current.moved dx 0 turns)) :
    s.move m =
      { session := { s with snapshot := some (before.moved dx 0 turns) }, answer := .ok true } := by
  have hmoved := Snapshot.attempt_of_admits htidy h
  rw [move, run_running hsnap hover]
  simp only [hm, hmoved]
  rfl

theorem move_of_blocked
    (h : ¬ (before.position s.config).Admits s.config (before.current.moved dx 0 turns)) :
    s.move m = { session := s, answer := .ok false } := by
  have hstays := Snapshot.attempt_of_blocked htidy h
  have hsame : { s with snapshot := (before.thaw s.config).freeze } = s := by
    rw [show (before.thaw s.config).freeze = s.snapshot from hsnap.symm]
  rw [move, run_running hsnap hover]
  simp only [hm, hstays]
  exact congrArg (fun u => Turn.mk u _ _) hsame

/-- A move is granted, and shifts the piece or is refused. -/
theorem move_acts {action : Action} (hmove : action.move? = some (dx, turns)) :
    s.Acts before action (s.move m).session ∧ ∃ moved, (s.move m).answer = .ok moved := by
  by_cases h : (before.position s.config).Admits s.config (before.current.moved dx 0 turns)
  · rw [move_of_admits hsnap hover htidy hm h]
    exact ⟨.shifted hmove h, true, rfl⟩
  · rw [move_of_blocked hsnap hover htidy hm h]
    exact ⟨.refused hmove h, false, rfl⟩

end Moves

/-! ### Drops -/

variable (haccepted : before.Accepted s.config)

include haccepted

omit hsnap in
/-- A piece that was admitted or that the reader accepted is locked without a fault. -/
theorem exists_locksInto {p : Piece}
    (hp : p = before.current ∨ (before.position s.config).Admits s.config p) :
    ∃ account after, s.LocksInto before p account after := by
  have hinside : p.Inside s.config := by
    rcases hp with rfl | hadmits
    · exact haccepted.current
    · exact hadmits.inside
  have hagrees := Snapshot.lock_agrees (s := { before with current := p }) s.rules s.supply
    haccepted.tidy hover (Or.inr hinside)
  obtain ⟨after, hfreeze, -, hposition⟩ := hagrees.after
  exact ⟨_, after, hagrees.answer, hfreeze, rfl, hposition⟩

theorem softDrop_acts {action : Action} (haction : action = .softDrop ∨ action = .tick) :
    s.Acts before action s.softDrop.session ∧ ∃ moved, s.softDrop.answer = .ok moved := by
  have hdrop : action.move? = none := by
    rcases haction with rfl | rfl <;> rfl
  have hrest : (before.position s.config).rested? s.config (commandOf action) =
      if (before.position s.config).Admits s.config (before.current.moved 0 1 0) then none
      else some before.current := by
    rcases haction with rfl | rfl <;> rfl
  by_cases h : (before.position s.config).Admits s.config (before.current.moved 0 1 0)
  · rw [if_pos h] at hrest
    have hlowered : before.lowered 1 = before.moved 0 1 0 := by
      rw [Snapshot.moved, haccepted.currentReduced.lowered]
      rfl
    rw [softDrop_lowers hsnap hover haccepted.tidy.size haccepted.currentReduced h, hlowered]
    exact ⟨.lowered hdrop hrest, true, rfl⟩
  · rw [if_neg h] at hrest
    obtain ⟨account, after, hlock⟩ := exists_locksInto hover haccepted (Or.inl rfl)
    obtain ⟨hanswer, hsession⟩ := softDrop_locks hsnap hover haccepted.tidy.size h hlock.locks
    rw [hsession]
    exact ⟨.locked hdrop hrest hlock, false, hanswer⟩

theorem hardDrop_acts :
    s.Acts before .hardDrop s.hardDrop.session ∧ ∃ rows, s.hardDrop.answer = .ok rows := by
  have hrest : (before.position s.config).rested? s.config (commandOf .hardDrop) =
      some (before.fall s.config before.current).1 := rfl
  obtain ⟨account, after, hlock⟩ :=
    exists_locksInto hover haccepted (Position.rested?_lands hrest)
  obtain ⟨hanswer, hsession⟩ :=
    (hardDrop_locks hsnap hover haccepted.tidy.size).1 account hlock.locks
  rw [hsession]
  exact ⟨.locked rfl hrest hlock, _, hanswer⟩

/-! ### Commands and steps -/

omit hsnap hover haccepted in
/-- Telling of an operation in other words does not refuse it. -/
theorem Turn.exists_answer_map {α β : Type} (f : α → β) {t : Turn α}
    (h : ∃ a, t.answer = .ok a) : ∃ b, (t.map f).answer = .ok b := by
  obtain ⟨a, ha⟩ := h
  exact ⟨f a, by rw [Turn.map, ha, Except.map]⟩

/-- **An action is carried out, and comes to one of the four.** -/
theorem perform_acts (action : Action) :
    s.Acts before action (s.perform (commandOf action)).session ∧
      ∃ a, (s.perform (commandOf action)).answer = .ok a := by
  have hshift {m : Well → Except Board.Fault (Well × Bool)} {dx turns : Int}
      (hm : ∀ w, m w = w.attempt dx 0 turns) (hmove : action.move? = some (dx, turns)) :
      s.Acts before action ((s.move m).map Answer.done).session ∧
        ∃ a, ((s.move m).map Answer.done).answer = .ok a :=
    (move_acts hsnap hover haccepted.tidy hm hmove).imp_right (Turn.exists_answer_map _)
  cases action with
  | left => exact hshift (fun _ => rfl) rfl
  | right => exact hshift (fun _ => rfl) rfl
  | rotate => exact hshift (fun _ => rfl) rfl
  | softDrop =>
      exact (softDrop_acts hsnap hover haccepted (Or.inl rfl)).imp_right (Turn.exists_answer_map _)
  | hardDrop =>
      exact (hardDrop_acts hsnap hover haccepted).imp_right (Turn.exists_answer_map _)
  | tick =>
      obtain ⟨hacts, moved, hmoved⟩ := softDrop_acts hsnap hover haccepted (Or.inr rfl)
      obtain ⟨after, hafter⟩ := hacts.exists_snapshot hsnap
      have htick : s.tick =
          { session := s.softDrop.session, answer := .ok after, events := s.softDrop.events } := by
        rw [tick_eq, Turn.andThen, hmoved, look_some hafter]
      show s.Acts before .tick (s.tick.map Answer.snapshot).session ∧
        ∃ a, (s.tick.map Answer.snapshot).answer = .ok a
      rw [htick]
      exact ⟨hacts, _, rfl⟩

/-- A step is carried out as the action alone, and reports on the two snapshots. -/
theorem step_acts (action : Action) :
    ∃ u after, Acts { s with lastLock := none } before action u ∧
      ({ s with lastLock := none }.perform (commandOf action)).session = u ∧
      u.snapshot = some after ∧
      (s.step (.ok action)).session = u ∧
      (s.step (.ok action)).answer = .ok (report before after u.lastLock) := by
  obtain ⟨hacts, a, ha⟩ :=
    perform_acts (s := { s with lastLock := none }) hsnap hover haccepted action
  obtain ⟨after, hafter⟩ := hacts.exists_snapshot (s := { s with lastLock := none }) hsnap
  refine ⟨_, after, hacts, rfl, hafter, ?_, ?_⟩
  · rw [step_action hsnap hover]
    simp only [Turn.andThen, ha, look_some hafter, Turn.map]
  · rw [step_action hsnap hover]
    simp only [Turn.andThen, ha, look_some hafter, Turn.map, Except.map]

end Running

end Session

end FallingBlocks
