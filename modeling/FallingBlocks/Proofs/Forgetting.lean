/-
The account of the last lock decides nothing.

A session keeps it for whoever asks, and writes it at every lock, but no command reads
it.  So a session that has forgotten it carries out every command as before: the answers,
the snapshots, the draws and the events are the same, and the sessions stay the same but
for that account.
-/
import FallingBlocks.Proofs.Simulation

namespace FallingBlocks.Session

/-- The session without the account of its last lock. -/
def forget (s : Session) : Session := { s with lastLock := none }

variable {α β : Type}

/-- The turn with the account of the last lock left out of the session. -/
def Turn.forget (t : Turn α) : Turn α := { t with session := t.session.forget }

/-- The effect without the account of the last lock. -/
def Effect.forget (e : Effect α) : Effect α := { e with lastLock := none }

/-! ### Operations on the falling piece -/

variable {s : Session}

/-- Effects that differ in the account alone make turns that differ in it alone. -/
theorem run_forget {idle : α} {op op' : Frame → Effect α}
    (hop : ∀ f, (op' f).forget = (op f).forget) :
    (s.forget.run idle op').forget = (s.run idle op).forget := by
  obtain ⟨config, rules, supply, lock, snapshot⟩ := s
  cases snapshot with
  | none => rfl
  | some before =>
      cases hover : before.gameOver with
      | true => simp only [forget, run, hover, if_true, Turn.forget]
      | false =>
          have heffect := hop (before.thaw config)
          simp only [Effect.forget, Effect.mk.injEq, true_and] at heffect
          obtain ⟨hframe, hsupply, hevents, hanswer⟩ := heffect
          simp only [forget, run, hover, Bool.false_eq_true, if_false, hframe, hsupply, hevents,
            hanswer]
          split <;> rfl

theorem locking_forget (f : Frame) (a : α) :
    (s.forget.locking f a).forget = (s.locking f a).forget := by
  have hsame : f.lock s.forget.rules s.forget.supply = f.lock s.rules s.supply := rfl
  simp only [locking, hsame]
  split <;> rfl

theorem move_forget (s : Session) (m : Well → Except Board.Fault (Well × Bool)) :
    (s.forget.move m).forget = (s.move m).forget := by
  refine run_forget fun f => ?_
  cases m f.toWell <;> rfl

theorem softDrop_forget (s : Session) : s.forget.softDrop.forget = s.softDrop.forget := by
  refine run_forget fun f => ?_
  split
  · rfl
  · rfl
  · exact locking_forget f false

theorem hardDrop_forget (s : Session) : s.forget.hardDrop.forget = s.hardDrop.forget := by
  refine run_forget fun f => ?_
  split
  · rfl
  · exact locking_forget _ _

/-! ### Commands -/

theorem look_forget {s u : Session} (h : u.forget = s.forget) : u.look.forget = s.look.forget := by
  obtain ⟨-, -, -, -, hsnap⟩ := Session.mk.inj h
  simp only [look, hsnap]
  split <;> exact congrArg (fun session => Turn.mk session _ _) h

theorem andThen_forget {t t' : Turn α} {next next' : Turn β} (h : t'.forget = t.forget)
    (hnext : next'.forget = next.forget) : (t'.andThen next').forget = (t.andThen next).forget := by
  obtain ⟨hsession, hanswer, hevents⟩ := Turn.mk.inj h
  simp only [Turn.andThen, hanswer, hevents]
  split
  · exact congrArg (fun session => Turn.mk session _ _) hsession
  · exact congrArg (fun r : Turn β => { r with events := t.events }) hnext

theorem map_forget (f : α → β) {t t' : Turn α} (h : t'.forget = t.forget) :
    (t'.map f).forget = (t.map f).forget :=
  congrArg (Turn.map f) h

/-- **Forgetting the account before a command is forgetting it afterwards.** -/
theorem perform_forget (s : Session) (command : Command) :
    (s.forget.perform command).forget = (s.perform command).forget := by
  cases command with
  | start => rfl
  | look => exact map_forget _ (look_forget rfl)
  | moveLeft => exact map_forget _ (move_forget s _)
  | moveRight => exact map_forget _ (move_forget s _)
  | rotate => exact map_forget _ (move_forget s _)
  | softDrop => exact map_forget _ (softDrop_forget s)
  | hardDrop => exact map_forget _ (hardDrop_forget s)
  | tick =>
      refine map_forget _ ?_
      have hdrop := softDrop_forget s
      rw [tick_eq, tick_eq]
      exact andThen_forget hdrop (look_forget (congrArg Turn.session hdrop))

end FallingBlocks.Session
