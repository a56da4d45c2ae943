/-
Nothing of a game is left in the next one.

A session that begins a game keeps its configuration and its rules, and goes on drawing
where it is in its supply; everything else of it is replaced.  An environment that begins an
episode keeps its four settings only.  So whatever was asked before, and whatever became of
it, the new game is played as one that nothing came before.
-/
import FallingBlocks.Proofs.Environment
import FallingBlocks.Proofs.Past

namespace FallingBlocks

namespace Session

variable {α : Type}

/-! ### What no request changes -/

/-- What a session was made with, but for its supply. -/
def settings (s : Session) : Config × Rules := (s.config, s.rules)

theorem settings_run (s : Session) (idle : α) (op : Frame → Effect α) :
    (s.run idle op).session.settings = s.settings := by
  cases hsnap : s.snapshot with
  | none => rw [run_none hsnap]
  | some before =>
      cases hover : before.gameOver with
      | true => rw [run_over hsnap hover]
      | false =>
          simp only [run_running hsnap hover]
          split <;> rfl

theorem settings_perform (s : Session) (command : Command) :
    (s.perform command).session.settings = s.settings := by
  cases command with
  | start => rfl
  | look => exact congrArg settings (look_session s)
  | moveLeft => exact settings_run s _ _
  | moveRight => exact settings_run s _ _
  | rotate => exact settings_run s _ _
  | softDrop => exact settings_run s _ _
  | hardDrop => exact settings_run s _ _
  | tick => exact (congrArg settings (tick_session s)).trans (settings_run s _ _)

theorem settings_step (s : Session) (request : Except Action.Fault Action) :
    (s.step request).session.settings = s.settings := by
  cases hsnap : s.snapshot with
  | none => rw [step_none hsnap]
  | some before =>
      cases hover : before.gameOver with
      | true => rw [step_over hsnap hover]
      | false =>
          cases request with
          | error fault =>
              rw [step_refused hsnap hover]
              rfl
          | ok action =>
              rw [step_told hsnap hover, told_session]
              exact settings_perform _ _

theorem settings_submit (s : Session) (r : Request) :
    (s.submit r).session.settings = s.settings := by
  cases r with
  | command command => exact settings_perform s command
  | step request => exact settings_step s request

theorem settings_after (s : Session) (requests : List Request) :
    (s.after requests).settings = s.settings := by
  induction requests generalizing s with
  | nil => rfl
  | cons r rest ih => exact (ih _).trans (settings_submit s r)

/-! ### A new game -/

/-- A session that has played nothing, with what a session can still draw. -/
def unplayed (s : Session) : Session :=
  { config := s.config, rules := s.rules, supply := s.supply.ahead }

theorem unplayed_eq {s s' : Session} (hsettings : s.settings = s'.settings)
    (hahead : s.supply.ahead = s'.supply.ahead) : s.unplayed = s'.unplayed := by
  obtain ⟨hconfig, hrules⟩ := Prod.mk.inj hsettings
  rw [unplayed, hconfig, hrules, hahead, unplayed]

/-- **From the beginning of a game on, a session is one that has played nothing.** -/
theorem record_start (s : Session) (requests : List Request) :
    s.record (.command .start :: requests) =
      s.unplayed.record (.command .start :: requests) := by
  have hnew : s.unplayed.preceded (s.supply.since 0) =
      { s with lastLock := none, snapshot := none } := by
    rw [unplayed, preceded, Supply.ahead_preceded]
  rw [← record_preceded s.unplayed (s.supply.since 0), hnew]
  rfl

end Session

namespace Environment

/-! ### Runs of an environment -/

/-- Everything that can be asked of an environment. -/
inductive Request
  | reset (draw : Int)
  | step (request : Except Action.Fault Action)

/-- What requests are answered with; the reward of a step is told as a number, too. -/
inductive Reply
  | began (observation : Observation) (info : ResetInfo)
  | stepped (step : Step) (reward : Option Float)

/-- Carries out a request. -/
def submit (e : Environment) : Request → Turn Reply
  | .reset draw =>
      let t := e.reset draw
      { environment := t.environment
        answer := t.answer.map fun (observation, info) => .began observation info
        events := t.events }
  | .step request =>
      let t := e.step request
      { environment := t.environment
        answer := t.answer.map fun step => .stepped step (step.reward.float? e.penalty)
        events := t.events }

/-- The environment after a list of requests, whether or not they were granted. -/
def through (e : Environment) (requests : List Request) : Environment :=
  requests.foldl (fun e r => (e.submit r).environment) e

/-- The answers to a list of requests and the events on the way, in order. -/
def record (e : Environment) : List Request → List (Except Fault Reply × List Event)
  | [] => []
  | r :: rest =>
      ((e.submit r).answer, (e.submit r).events) :: (e.submit r).environment.record rest

/-- What an environment was made with. -/
def settings (e : Environment) : Config × Rules × Int × Float :=
  (e.config, e.rules, e.maxSteps, e.penalty)

theorem settings_submit (e : Environment) (r : Request) :
    (e.submit r).environment.settings = e.settings := by
  cases r with
  | reset draw => rfl
  | step request =>
      show (e.step request).environment.settings = e.settings
      cases request with
      | error fault =>
          unfold step
          cases e.session.snapshot <;> rfl
      | ok action =>
          obtain ⟨_, hstep⟩ := step_environment e action
          rw [hstep]
          rfl

theorem settings_through (e : Environment) (requests : List Request) :
    (e.through requests).settings = e.settings := by
  induction requests generalizing e with
  | nil => rfl
  | cons r rest ih => exact (ih _).trans (settings_submit e r)

/-- **An episode begins alike in all environments with the same settings.** -/
theorem submit_reset {e e' : Environment} (h : e.settings = e'.settings) (draw : Int) :
    e.submit (.reset draw) = e'.submit (.reset draw) := by
  obtain ⟨config, rules, maxSteps, penalty, session, steps⟩ := e
  obtain ⟨config', rules', maxSteps', penalty', session', steps'⟩ := e'
  obtain ⟨rfl, rfl, rfl, rfl⟩ : config = config' ∧ rules = rules' ∧ maxSteps = maxSteps' ∧
      penalty = penalty' := by simpa [settings] using h
  rfl

theorem record_reset {e e' : Environment} (h : e.settings = e'.settings) (draw : Int)
    (requests : List Request) :
    e.record (.reset draw :: requests) = e'.record (.reset draw :: requests) := by
  rw [record, submit_reset h, record]

end Environment

/--
**Nothing of a game shows in the next one.**  Two environments made with the same settings
answer alike from a reset with the same draw on, and two sessions made with the same
configuration and rules from the beginning of a game on if they are to draw the same shapes,
whatever was asked of either before.
-/
theorem games_leave_no_trace :
    (∀ (e e' : Environment) (past past' : List Environment.Request),
      e.config = e'.config → e.rules = e'.rules → e.maxSteps = e'.maxSteps →
      e.penalty = e'.penalty → ∀ (draw : Int) (requests : List Environment.Request),
        (e.through past).record (.reset draw :: requests) =
          (e'.through past').record (.reset draw :: requests)) ∧
    ∀ (s s' : Session) (past past' : List Session.Request),
      s.config = s'.config → s.rules = s'.rules →
      (s.after past).supply.ahead = (s'.after past').supply.ahead →
      ∀ requests : List Session.Request,
        (s.after past).record (.command .start :: requests) =
          (s'.after past').record (.command .start :: requests) := by
  constructor
  · intro e e' past past' hconfig hrules hsteps hpenalty draw requests
    refine Environment.record_reset ?_ draw requests
    rw [Environment.settings_through, Environment.settings_through]
    simp only [Environment.settings, hconfig, hrules, hsteps, hpenalty]
  · intro s s' past past' hconfig hrules hahead requests
    have hsettings : (s.after past).settings = (s'.after past').settings := by
      rw [Session.settings_after, Session.settings_after]
      exact Prod.ext hconfig hrules
    rw [Session.record_start, Session.unplayed_eq hsettings hahead, ← Session.record_start]

/-- A session that draws `I` and `O` by turns. -/
def Session.paired : Session where
  config := Environment.narrow.config
  supply := .cycle .I [.O]

/-- An environment whose game was over after forty steps. -/
def Environment.finished : Environment :=
  let piece : Piece := { shape := .T, x := 2, y := 0 }
  let last : Snapshot :=
    { board := List.replicate 9 60, current := piece, next := piece, gameOver := true }
  let session := { narrow.session with snapshot := some last, lastLock := some {} }
  { narrow with session, steps := 40 }

/--
An environment that goes on after the end of a game and one in which nothing has begun, and
a session four draws into its cycle and one that has drawn nothing.
-/
theorem games_leave_no_trace_paired :
    let ended := Environment.finished.through [.step (.ok .tick)]
    let idle := Environment.narrow.through []
    let played := Session.paired.after [.command .start, .command .hardDrop, .step (.ok .hardDrop)]
    let unplayed := Session.paired.after []
    (ended.steps = 41 ∧ idle.steps = 0 ∧
      ∀ draw requests,
        ended.record (.reset draw :: requests) = idle.record (.reset draw :: requests)) ∧
    played.supply.drawn = 4 ∧ unplayed.supply.drawn = 0 ∧
      ∀ requests,
        played.record (.command .start :: requests) =
          unplayed.record (.command .start :: requests) := by
  intro ended idle played unplayed
  have hahead : played.supply.ahead = unplayed.supply.ahead := by
    have hplayed : played.supply = { Session.paired.supply with drawn := 4 } := rfl
    rw [hplayed]
    exact (Supply.ahead_cycle .I [.O] 2).trans (Supply.ahead_cycle .I [.O] 0).symm
  exact ⟨⟨rfl, rfl, games_leave_no_trace.1 _ _ _ _ rfl rfl rfl rfl⟩, rfl, rfl,
    games_leave_no_trace.2 _ _ _ _ rfl rfl hahead⟩

end FallingBlocks
