/-
The shapes already drawn decide nothing.

A session draws the shapes that are still to come and never looks back at those that it has
drawn.  So it makes no difference which they were, or how many: with other shapes before
them, a session answers every request as before and draws the same shapes, and the sessions
that come of it stay the same but for what was drawn at first.
-/
import FallingBlocks.Proofs.Queue

namespace FallingBlocks

/-! ### Supplies with a past -/

namespace Supply

/-- The supply with some more shapes that were drawn before all others. -/
def preceded (s : Supply) (past : List Shape) : Supply where
  shapeAt n := past.getD n (s.shapeAt (n - past.length))
  drawn := past.length + s.drawn

/-- The supply without the shapes already drawn. -/
def ahead (s : Supply) : Supply where
  shapeAt n := s.shapeAt (s.drawn + n)

theorem shapeAt_preceded (s : Supply) (past : List Shape) (n : Nat) :
    (s.preceded past).shapeAt (past.length + n) = s.shapeAt n := by
  simp [preceded]

/-- What is drawn next does not depend on the past. -/
theorem draw_preceded (s : Supply) (past : List Shape) :
    (s.preceded past).draw = (s.draw.1, s.draw.2.preceded past) :=
  congrArg (·, _) (shapeAt_preceded s past s.drawn)

theorem since_preceded (s : Supply) (past : List Shape) (first : Nat) :
    (s.preceded past).since (past.length + first) = s.since first := by
  have hcount : (s.preceded past).drawn - (past.length + first) = s.drawn - first :=
    Nat.add_sub_add_left _ _ _
  rw [since, hcount, List.range'_eq_map_range, since, List.range'_eq_map_range, List.map_map,
    List.map_map]
  refine List.map_congr_left fun n _ => ?_
  simp only [Function.comp_apply, Nat.add_assoc, shapeAt_preceded]

/-- Every supply is what lies ahead of it, with what it has drawn as its past. -/
theorem ahead_preceded (s : Supply) : s.ahead.preceded (s.since 0) = s := by
  have hlength : (s.since 0).length = s.drawn := length_since s 0
  have hshapes : (s.ahead.preceded (s.since 0)).shapeAt = s.shapeAt := by
    funext n
    rcases Nat.lt_or_ge n s.drawn with hpast | hahead
    · simp [preceded, since, hpast]
    · obtain ⟨k, rfl⟩ := Nat.exists_eq_add_of_le hahead
      have hplace := shapeAt_preceded s.ahead (s.since 0) k
      rwa [hlength] at hplace
  exact congrArg₂ Supply.mk hshapes hlength

/-- A cycle that has been gone through some number of times begins anew. -/
theorem ahead_cycle (first : Shape) (rest : List Shape) (rounds : Nat) :
    ({ cycle first rest with drawn := (rest.length + 1) * rounds } : Supply).ahead =
      cycle first rest := by
  have hround (n : Nat) : ((rest.length + 1) * rounds + n) % (rest.length + 1) =
      n % (rest.length + 1) := Nat.mul_add_mod ..
  simp only [ahead, cycle, hround]

end Supply

/-- The lock with some more shapes drawn before it. -/
def Locking.preceded (l : Locking) (past : List Shape) : Locking :=
  { l with supply := l.supply.preceded past }

namespace Frame

variable (f : Frame) (rules : Rules) (supply : Supply) (past : List Shape)

theorem settle_preceded (c : Board.Clearing) :
    f.settle rules (supply.preceded past) c = (f.settle rules supply c).preceded past := by
  simp only [settle, Supply.draw_preceded]
  split <;> rfl

theorem land_preceded (cells : List Cell) :
    f.land rules (supply.preceded past) cells = (f.land rules supply cells).preceded past := by
  simp only [land, settle_preceded]
  split <;> rfl

theorem lock_preceded :
    f.lock rules (supply.preceded past) = (f.lock rules supply).preceded past := by
  simp only [lock, land_preceded]
  split
  · rfl
  · split <;> rfl

end Frame

namespace Session

variable {α β : Type}

/-- The session with some more shapes drawn before all others. -/
def preceded (s : Session) (past : List Shape) : Session :=
  { s with supply := s.supply.preceded past }

/-- The turn with some more shapes drawn before it. -/
def Turn.preceded (t : Turn α) (past : List Shape) : Turn α :=
  { t with session := t.session.preceded past }

/-- The effect with some more shapes drawn before it. -/
def Effect.preceded (e : Effect α) (past : List Shape) : Effect α :=
  { e with supply := e.supply.preceded past }

variable (s : Session) (past : List Shape)

/-! ### Operations -/

theorem start_preceded : (s.preceded past).start = s.start.preceded past := by
  simp only [start, preceded, Supply.draw_preceded]
  rfl

theorem look_preceded : (s.preceded past).look = s.look.preceded past := by
  obtain ⟨config, rules, supply, lock, snapshot⟩ := s
  cases snapshot <;> rfl

/-- An operation whose effect does not depend on the past makes a turn that does not. -/
theorem run_preceded {idle : α} {op op' : Frame → Effect α}
    (hop : ∀ f, op' f = (op f).preceded past) :
    (s.preceded past).run idle op' = (s.run idle op).preceded past := by
  obtain ⟨config, rules, supply, lock, snapshot⟩ := s
  cases snapshot with
  | none => rfl
  | some before =>
      cases hover : before.gameOver with
      | true => simp only [preceded, run, hover, if_true, Turn.preceded]
      | false =>
          simp only [preceded, run, hover, Bool.false_eq_true, if_false, hop, Effect.preceded]
          split <;> rfl

theorem locking_preceded (f : Frame) (a : α) :
    (s.preceded past).locking f a = (s.locking f a).preceded past := by
  have hlock : f.lock (s.preceded past).rules (s.preceded past).supply =
      (f.lock s.rules s.supply).preceded past := f.lock_preceded s.rules s.supply past
  simp only [locking, hlock, Locking.preceded]
  split <;> rfl

theorem move_preceded (m : Well → Except Board.Fault (Well × Bool)) :
    (s.preceded past).move m = (s.move m).preceded past := by
  refine run_preceded s past fun f => ?_
  cases m f.toWell <;> rfl

theorem softDrop_preceded : (s.preceded past).softDrop = s.softDrop.preceded past := by
  refine run_preceded s past fun f => ?_
  split
  · rfl
  · rfl
  · exact locking_preceded s past f false

theorem hardDrop_preceded : (s.preceded past).hardDrop = s.hardDrop.preceded past := by
  refine run_preceded s past fun f => ?_
  split
  · rfl
  · exact locking_preceded s past _ _

theorem andThen_preceded (t : Turn α) (next : Turn β) :
    (t.preceded past).andThen (next.preceded past) = (t.andThen next).preceded past := by
  simp only [Turn.andThen, Turn.preceded]
  split <;> rfl

theorem tick_preceded : (s.preceded past).tick = s.tick.preceded past := by
  rw [tick_eq, softDrop_preceded, tick_eq, ← andThen_preceded]
  exact congrArg _ (look_preceded _ past)

/-! ### Requests -/

theorem perform_preceded (command : Command) :
    (s.preceded past).perform command = (s.perform command).preceded past := by
  cases command with
  | start => exact congrArg (Turn.map _) (start_preceded s past)
  | look => exact congrArg (Turn.map _) (look_preceded s past)
  | moveLeft => exact congrArg (Turn.map _) (move_preceded s past _)
  | moveRight => exact congrArg (Turn.map _) (move_preceded s past _)
  | rotate => exact congrArg (Turn.map _) (move_preceded s past _)
  | softDrop => exact congrArg (Turn.map _) (softDrop_preceded s past)
  | hardDrop => exact congrArg (Turn.map _) (hardDrop_preceded s past)
  | tick => exact congrArg (Turn.map _) (tick_preceded s past)

/-- The turn of an operation that is told of by what the session has come to. -/
def Turn.told (tell : Option LockResult → Snapshot → β) (t : Turn α) : Turn β :=
  t.andThen (t.session.look.map (tell t.session.lastLock))

/-- Telling of an operation leaves the session that the operation does. -/
theorem told_session (tell : Option LockResult → Snapshot → β) (t : Turn α) :
    (t.told tell).session = t.session := by
  rw [Turn.told, Turn.andThen]
  split
  · rfl
  · exact look_session t.session

theorem told_preceded (tell : Option LockResult → Snapshot → β) (t : Turn α) :
    (t.preceded past).told tell = (t.told tell).preceded past := by
  rw [Turn.told, Turn.told, ← andThen_preceded]
  exact congrArg (fun u => Turn.andThen _ (Turn.map _ u)) (look_preceded t.session past)

/-- A step is told of by a report on the two snapshots. -/
theorem step_told {s : Session} {before : Snapshot} (hsnap : s.snapshot = some before)
    (hover : before.gameOver = false) (action : Action) :
    s.step (.ok action) =
      ({ s with lastLock := none }.perform (commandOf action)).told
        fun lock after => report before after lock :=
  step_action hsnap hover action

theorem step_preceded (request : Except Action.Fault Action) :
    (s.preceded past).step request = (s.step request).preceded past := by
  cases hsnap : s.snapshot with
  | none =>
      have hpast : (s.preceded past).snapshot = none := hsnap
      rw [step_none hpast, step_none hsnap]
      rfl
  | some before =>
      have hpast : (s.preceded past).snapshot = some before := hsnap
      cases hover : before.gameOver with
      | true =>
          rw [step_over hpast hover, step_over hsnap hover]
          rfl
      | false =>
          cases request with
          | error fault =>
              rw [step_refused hpast hover, step_refused hsnap hover]
              rfl
          | ok action =>
              have hplayed := perform_preceded { s with lastLock := none } past (commandOf action)
              rw [step_told hsnap hover, ← told_preceded, ← hplayed]
              exact step_told hpast hover action

/-- **With other shapes drawn before, a request does what it did.** -/
theorem submit_preceded (r : Request) :
    (s.preceded past).submit r = (s.submit r).preceded past := by
  cases r with
  | command c => exact congrArg (Turn.map _) (perform_preceded s past c)
  | step request => exact congrArg (Turn.map _) (step_preceded s past request)

/-! ### Runs -/

/-- What is seen of a request: the answer, what happened, and what the session has come to. -/
structure Entry where
  answer : Except Fault Reply
  events : List Event
  snapshot : Option Snapshot
  lastLock : Option LockResult
  /-- The shapes that the request has drawn. -/
  drawn : List Shape

/-- What is seen of one request. -/
def entry (s : Session) (r : Request) : Entry :=
  let t := s.submit r
  { answer := t.answer
    events := t.events
    snapshot := t.session.snapshot
    lastLock := t.session.lastLock
    drawn := t.session.supply.since s.supply.drawn }

/-- What is seen of a list of requests, in order. -/
def record (s : Session) : List Request → List Entry
  | [] => []
  | r :: rest => s.entry r :: (s.submit r).session.record rest

theorem entry_preceded (r : Request) : (s.preceded past).entry r = s.entry r := by
  have hdrawn := Supply.since_preceded (s.submit r).session.supply past s.supply.drawn
  simp only [entry, submit_preceded]
  exact congrArg (Entry.mk _ _ _ _) hdrawn

/-- **With other shapes drawn before, a run looks as it did.** -/
theorem record_preceded (requests : List Request) :
    (s.preceded past).record requests = s.record requests := by
  induction requests generalizing s with
  | nil => rfl
  | cons r rest ih =>
      rw [record, entry_preceded, submit_preceded]
      exact congrArg (_ :: ·) (ih _)

end Session

end FallingBlocks
