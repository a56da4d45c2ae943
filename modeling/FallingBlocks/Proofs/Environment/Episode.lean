/-
The accounts of an episode.

Several counters are kept in different places: the environment counts steps, the session
keeps the score, and every answer tells a gain and whether anything moved.  Over an episode
they agree.  The steps are the actions that exist, what does not exist changes nothing, and
the rewards add up to the score with one penalty for each step that changed nothing.  This
goes on after the end of the game, when every step gains nothing and moves nothing.

A reward is taken here as the exact number it stands for.  The one thing that can keep a
step from being told of is a gain that is no floating-point number.
-/
import Mathlib.Algebra.BigOperators.Group.List.Basic
import Mathlib.Data.Rat.Cast.Defs
import Mathlib.Tactic.Ring
import FallingBlocks.Proofs.Environment

namespace FallingBlocks

/-! ### Actions by number -/

namespace Action

theorem exists_ofNumber?_iff {n : Int} : (∃ a, ofNumber? n = some a) ↔ 0 ≤ n ∧ n ≤ 5 := by
  constructor
  · rintro ⟨a, ha⟩
    have hnumber : (a.number : Int) = n := by simpa using List.find?_some ha
    rw [← hnumber]
    cases a <;> decide
  · rintro ⟨hlow, hhigh⟩
    obtain rfl | rfl | rfl | rfl | rfl | rfl : n = 0 ∨ n = 1 ∨ n = 2 ∨ n = 3 ∨ n = 4 ∨ n = 5 := by
      omega
    all_goals exact ⟨_, rfl⟩

theorem ofNumber?_eq_none_iff {n : Int} : ofNumber? n = none ↔ ¬ (0 ≤ n ∧ n ≤ 5) := by
  rw [← exists_ofNumber?_iff]
  cases ofNumber? n <;> simp

theorem read_of_action {n : Int} {a : Action} (h : ofNumber? n = some a) :
    read (.int n) = .ok a := by
  simp [read, Document.toWhole, ofValue, Document.whole?, h]

theorem read_of_none {n : Int} (h : ofNumber? n = none) :
    read (.int n) = .error (.unknown (.int n)) := by
  simp [read, Document.toWhole, ofValue, Document.whole?, h]

end Action

namespace Session

variable {s : Session} {before : Snapshot} {action : Action} {r : Report}

/-- The report on a step has the counters that the step led to, unless the game was over before. -/
theorem report_eq (hsnap : s.snapshot = some before) (h : (s.step (.ok action)).answer = .ok r) :
    r.gameOver = r.snapshot.gameOver ∧ (before.gameOver = true → r.info = none) ∧
      (before.gameOver = false → ∃ locked, r.info = some
        { score := r.snapshot.score
          level := r.snapshot.level
          linesCleared := r.snapshot.linesCleared
          locked }) := by
  cases hover : before.gameOver with
  | true =>
      rw [step_over hsnap hover] at h
      cases h
      exact ⟨hover.symm, fun _ => rfl, fun h => absurd h.symm Bool.false_ne_true⟩
  | false =>
      rw [step_action hsnap hover] at h
      generalize ({ s with lastLock := none } : Session).perform (commandOf action) = t at h
      simp only [Turn.andThen] at h
      split at h
      · cases h
      · obtain ⟨after, -, rfl⟩ := except_map_eq_ok.mp h
        exact ⟨rfl, fun h => absurd h Bool.false_ne_true, fun _ => ⟨_, rfl⟩⟩

end Session

namespace Environment

/-! ### Rewards and answers -/

/-- The exact number that a reward stands for, under an exact penalty. -/
def Reward.value (penalty : ℚ) (r : Reward) : ℚ :=
  r.gained + if r.refused then penalty else 0

/-- Takes the step of the action with some number. -/
def act (e : Environment) (n : Int) : Turn Step :=
  e.step (Action.read (.int n))

/-- The environment after a list of actions by number, whether or not they exist. -/
def acted (e : Environment) (numbers : List Int) : Environment :=
  numbers.foldl (fun e n => (e.act n).environment) e

/-- What a list of actions by number is answered with, in order. -/
def answers (e : Environment) : List Int → List (Except Fault Step)
  | [] => []
  | n :: rest => (e.act n).answer :: (e.act n).environment.answers rest

variable {e : Environment} {n : Int}

theorem act_of_action {a : Action} (h : Action.ofNumber? n = some a) :
    e.act n = e.step (.ok a) := by
  rw [act, Action.read_of_action h]

/-- **What is no action changes nothing.** -/
theorem act_of_none {before : Snapshot} (hsnap : e.session.snapshot = some before)
    (h : Action.ofNumber? n = none) :
    e.act n = { environment := e, answer := .error (.action (.unknown (.int n))) } := by
  simp only [act, Action.read_of_none h, step, hsnap]

theorem environment_of_none (h : Action.ofNumber? n = none) : (e.act n).environment = e := by
  rw [act, Action.read_of_none h]
  unfold step
  cases e.session.snapshot <;> rfl

/-- What is no action might as well not have been asked for. -/
theorem acted_eq (e : Environment) (numbers : List Int) :
    e.acted numbers = e.after (numbers.filterMap Action.ofNumber?) := by
  induction numbers generalizing e with
  | nil => rfl
  | cons n rest ih =>
      have hrest : e.acted (n :: rest) = (e.act n).environment.acted rest := rfl
      rw [hrest, ih]
      cases h : Action.ofNumber? n with
      | none => rw [environment_of_none h, List.filterMap_cons_none h]
      | some a => rw [act_of_action h, List.filterMap_cons_some h]; rfl

theorem acted_append (e : Environment) (numbers : List Int) (n : Int) :
    e.acted (numbers ++ [n]) = ((e.acted numbers).act n).environment := by
  simp only [acted, List.foldl_append, List.foldl_cons, List.foldl_nil]

theorem answers_append (e : Environment) (numbers : List Int) (n : Int) :
    e.answers (numbers ++ [n]) = e.answers numbers ++ [((e.acted numbers).act n).answer] := by
  induction numbers generalizing e with
  | nil => rfl
  | cons m rest ih => exact congrArg _ (ih _)

/-! ### One step -/

/-- What is told of a step from one snapshot to another, the step being the `count`th. -/
structure Tells (e : Environment) (count : Int) (before after : Snapshot) (step : Step) : Prop where
  gained : step.reward.gained = after.score - before.score
  refused : step.reward.refused = !step.info.moved
  moved : step.info.moved = decide (after ≠ before)
  terminated : step.terminated = after.gameOver
  truncated : step.truncated = (decide (e.maxSteps ≤ count) && !after.gameOver)
  maxHeight : step.info.features.maxHeight = (after.boardIn e.config).maxHeight
  holes : (after.boardIn e.config).holes = .ok step.info.features.holes
  ended : before.gameOver = true → step.info.report = none
  running : before.gameOver = false → ∃ locked, step.info.report =
    some { score := after.score, level := after.level, linesCleared := after.linesCleared, locked }

theorem features_of_ok {s : Snapshot} {f : Features} (h : e.features s = .ok f) :
    f.maxHeight = (s.boardIn e.config).maxHeight ∧ (s.boardIn e.config).holes = .ok f.holes := by
  have hboard : e.boardOf s = s.boardIn e.config := rfl
  rw [features, hboard] at h
  cases hholes : (s.boardIn e.config).holes with
  | error fault =>
      rw [hholes] at h
      exact nomatch h
  | ok holes =>
      rw [hholes] at h
      cases h
      exact ⟨rfl, rfl⟩

/-- A step that the session grants is counted. -/
theorem environment_of_report {before : Snapshot} {action : Action} {r : Session.Report}
    (hsnap : e.session.snapshot = some before)
    (hreport : (e.session.step (.ok action)).answer = .ok r) :
    (e.step (.ok action)).environment =
      { e with session := (e.session.step (.ok action)).session, steps := e.steps + 1 } := by
  simp only [step, hsnap, hreport]

/-- On a narrow board only the gain can keep a step from being told of. -/
theorem exists_answer_iff_of_narrow {before : Snapshot} {r : Session.Report}
    (hnarrow : e.config.width ≤ 32) (htidy : r.snapshot.Tidy e.config) :
    (∃ step, e.answer before r = .ok step) ↔ (Decimal.float? r.gained).isSome = true := by
  obtain ⟨-, hmasks⟩ := htidy.masks
  exact exists_answer_iff.trans (and_iff_left fun m hm =>
    Board.isWord_of_narrow hnarrow (hmasks m hm).1 (hmasks m hm).2)

theorem answer_of_too_large {before : Snapshot} {r : Session.Report}
    (h : (Decimal.float? r.gained).isSome = false) :
    e.answer before r = .error .rewardTooLarge := by
  simp only [Environment.answer, isNone_float?, h, Bool.not_false, if_true]

/-- What an environment answers to a step, it tells of the two snapshots. -/
theorem tells_of_answer {next : Environment} {before : Snapshot} {r : Session.Report} {step : Step}
    (hconfig : next.config = e.config) (hlimit : next.maxSteps = e.maxSteps)
    (hgained : r.gained = r.snapshot.score - before.score)
    (hover : r.gameOver = r.snapshot.gameOver) (hended : before.gameOver = true → r.info = none)
    (hrunning : before.gameOver = false → ∃ locked, r.info = some
      { score := r.snapshot.score
        level := r.snapshot.level
        linesCleared := r.snapshot.linesCleared
        locked })
    (h : next.answer before r = .ok step) : e.Tells next.steps before r.snapshot step := by
  obtain ⟨-, f, o, hf, -, rfl⟩ := answer_eq_ok_iff.mp h
  obtain ⟨hmax, hholes⟩ := features_of_ok hf
  rw [hconfig] at hmax hholes
  exact
    { gained := hgained
      refused := rfl
      moved := rfl
      terminated := hover
      truncated := by simp only [hlimit, hover]
      maxHeight := hmax
      holes := hholes
      ended := hended
      running := hrunning }

/-- In an episode every action that exists is a step, told of unless its gain is too large. -/
theorem exists_tells (e : Environment) (hwidth : 4 ≤ e.config.width) (hnarrow : e.config.width ≤ 32)
    (hrow : e.config.spawnY + 1 < e.config.height) (draw : Int) (numbers : List Int) {a : Action}
    (ha : Action.ofNumber? n = some a) :
    let played := (e.reset draw).environment.acted numbers
    ∃ before after, played.session.snapshot = some before ∧
      (played.act n).environment.session.snapshot = some after ∧
      (played.act n).environment.steps = played.steps + 1 ∧
      (((Decimal.float? (after.score - before.score)).isSome = false ∧
          (played.act n).answer = .error .rewardTooLarge) ∨
        (Decimal.float? (after.score - before.score)).isSome = true ∧
          ∃ step, (played.act n).answer = .ok step ∧
            e.Tells (played.steps + 1) before after step) := by
  intro played
  obtain ⟨steps, hplayed⟩ := after_environment (e := (e.reset draw).environment)
    (numbers.filterMap Action.ofNumber?)
  rw [← acted_eq] at hplayed
  obtain ⟨before, r, hbefore, hreport, hafter, hgained, htidy⟩ :=
    Session.exists_report (s := e.opening draw) (Or.inr ⟨hwidth, hrow⟩)
      (numbers.filterMap Action.ofNumber?) a
  have hsession : played.session = (e.opening draw).stepped (numbers.filterMap Action.ofNumber?) :=
    congrArg Environment.session hplayed
  have hconfig : played.config = e.config := (congrArg Environment.config hplayed).trans rfl
  have hlimit : played.maxSteps = e.maxSteps := (congrArg Environment.maxSteps hplayed).trans rfl
  rw [← hsession] at hbefore hreport hafter
  let next := (played.step (.ok a)).environment
  have htaken := environment_of_report hbefore hreport
  have hnext : next.config = e.config := (congrArg Environment.config htaken).trans hconfig
  have hsteps : next.steps = played.steps + 1 := congrArg Environment.steps htaken
  have hnextLimit : next.maxSteps = e.maxSteps :=
    (congrArg Environment.maxSteps htaken).trans hlimit
  have hnextSession : next.session = (played.session.step (.ok a)).session :=
    congrArg Environment.session htaken
  rw [act_of_action ha, step_answer hbefore hreport]
  refine ⟨before, r.snapshot, hbefore, hnextSession ▸ hafter, hsteps, ?_⟩
  rw [← hgained]
  cases hgain : (Decimal.float? r.gained).isSome with
  | false => exact Or.inl ⟨rfl, answer_of_too_large hgain⟩
  | true =>
      have hnarrow' : next.config.width ≤ 32 := by rwa [hnext]
      have htidy' : r.snapshot.Tidy next.config := by rwa [hnext]
      have htold : ∃ step, next.answer before r = .ok step :=
        (exists_answer_iff_of_narrow hnarrow' htidy').mpr hgain
      obtain ⟨step, hstep⟩ := htold
      obtain ⟨hover, hended, hrunning⟩ := Session.report_eq hbefore hreport
      rw [← hsteps]
      exact Or.inr ⟨rfl, step, hstep,
        tells_of_answer hnext hnextLimit hgained hover hended hrunning hstep⟩

/-! ### Episodes -/

/-- The steps that were told of, among some answers. -/
def told (answers : List (Except Fault Step)) : List Step :=
  answers.filterMap Except.toOption

theorem told_append_error (answers : List (Except Fault Step)) (fault : Fault) :
    told (answers ++ [.error fault]) = told answers := by
  rw [told, List.filterMap_append]
  exact List.append_nil _

theorem told_append_ok (answers : List (Except Fault Step)) (step : Step) :
    told (answers ++ [.ok step]) = told answers ++ [step] := by
  rw [told, List.filterMap_append]
  rfl

/-- How many of some numbers are those of an action. -/
def taken (numbers : List Int) : Nat :=
  numbers.countP fun n => decide (0 ≤ n ∧ n ≤ 5)

theorem taken_append (numbers : List Int) (n : Int) :
    taken (numbers ++ [n]) = taken numbers + if 0 ≤ n ∧ n ≤ 5 then 1 else 0 := by
  simp only [taken, List.countP_append, List.countP_singleton, decide_eq_true_eq]

/-- The rewards of some steps add up to a score, and a penalty for each that changed nothing. -/
structure Rewards (steps : List Step) (count : Nat) (score : Int) : Prop where
  count : steps.length = count
  total : ∀ p : ℚ, (steps.map fun step => step.reward.value p).sum
    = score + p * (steps.countP fun step => !step.info.moved : Nat)

theorem Rewards.append {e : Environment} {steps : List Step} {count : Nat} {before after : Snapshot}
    {place : Int} {step : Step} (h : Rewards steps count before.score)
    (htells : e.Tells place before after step) :
    Rewards (steps ++ [step]) (count + 1) after.score := by
  refine ⟨by rw [List.length_append, h.count, List.length_singleton], fun p => ?_⟩
  have hreward : step.reward.value p
      = (after.score : ℚ) - before.score + p * (if step.info.moved then 0 else 1 : Nat) := by
    rw [Reward.value, htells.gained, htells.refused]
    cases step.info.moved <;> simp
  have hcount : (steps ++ [step]).countP (fun step => !step.info.moved)
      = steps.countP (fun step => !step.info.moved) + if step.info.moved then 0 else 1 := by
    rw [List.countP_append, List.countP_singleton]
    cases step.info.moved <;> rfl
  rw [List.map_append, List.sum_append, h.total, List.map_singleton, List.sum_singleton, hreward,
    hcount, Nat.cast_add]
  ring

/-- The accounts of an episode agree with the snapshot that it has led to. -/
structure Accounts (numbers : List Int) (answers : List (Except Fault Step)) (played : Environment)
    (s : Snapshot) : Prop where
  snapshot : played.session.snapshot = some s
  steps : played.steps = taken numbers
  /-- If no gain was too large to be told of, every step was. -/
  rewards : (∀ a ∈ answers, a ≠ .error .rewardTooLarge) →
    Rewards (told answers) (taken numbers) s.score

/-- **The accounts agree after every action, whether it exists or not.** -/
theorem exists_accounts (e : Environment) (hwidth : 4 ≤ e.config.width)
    (hnarrow : e.config.width ≤ 32) (hrow : e.config.spawnY + 1 < e.config.height) (draw : Int)
    (numbers : List Int) :
    let began := (e.reset draw).environment
    ∃ s, Accounts numbers (began.answers numbers) (began.acted numbers) s := by
  intro began
  induction numbers using List.reverseRecOn with
  | nil => exact ⟨_, rfl, rfl, fun _ => ⟨rfl, fun p => by simp [told, answers]⟩⟩
  | append_singleton numbers n ih =>
      obtain ⟨s, hs⟩ := ih
      rw [acted_append, answers_append]
      cases ha : Action.ofNumber? n with
      | none =>
          have hno := Action.ofNumber?_eq_none_iff.mp ha
          rw [act_of_none hs.snapshot ha]
          refine ⟨s, hs.snapshot, ?_, fun hgains => ?_⟩
          · rw [taken_append, if_neg hno]
            exact hs.steps
          · rw [taken_append, if_neg hno, told_append_error]
            exact hs.rewards fun a h => hgains a (List.mem_append_left _ h)
      | some a =>
          have hyes := Action.exists_ofNumber?_iff.mp ⟨a, ha⟩
          obtain ⟨before, after, hbefore, hafter, hsteps, htold⟩ :=
            exists_tells e hwidth hnarrow hrow draw numbers ha
          cases hbefore.symm.trans hs.snapshot
          refine ⟨after, hafter, ?_, fun hgains => ?_⟩
          · rw [hsteps, hs.steps, taken_append, if_pos hyes, Nat.cast_succ]
          · rcases htold with ⟨-, hlarge⟩ | ⟨-, step, hstep, htells⟩
            · exact absurd hlarge (hgains _ (List.mem_append_right _ (List.mem_singleton.mpr rfl)))
            · have hold := hs.rewards fun a h => hgains a (List.mem_append_left _ h)
              rw [taken_append, if_pos hyes, hstep, told_append_ok]
              exact hold.append htells

/--
**The accounts of an episode.**  After any actions, existing or not, the environment has counted
those that exist, and as long as every gain is a floating-point number their rewards add up to
the score and one penalty for each that changed nothing.  Of the next action: if it does not
exist, nothing changes; and if it does, it is told of as `Tells` says.
-/
theorem episode_accounts (e : Environment) (hwidth : 4 ≤ e.config.width)
    (hnarrow : e.config.width ≤ 32) (hrow : e.config.spawnY + 1 < e.config.height) (draw : Int)
    (numbers : List Int) :
    let began := (e.reset draw).environment
    let played := began.acted numbers
    ∃ before, Accounts numbers (began.answers numbers) played before ∧
      ∀ n,
        (¬ (0 ≤ n ∧ n ≤ 5) → (played.act n).environment = played ∧
          (played.act n).answer = .error (.action (.unknown (.int n)))) ∧
        (0 ≤ n ∧ n ≤ 5 → ∃ after, (played.act n).environment.session.snapshot = some after ∧
          (played.act n).environment.steps = taken numbers + 1 ∧
          ((Decimal.float? (after.score - before.score)).isSome = true →
            ∃ step, (played.act n).answer = .ok step ∧
              e.Tells (taken numbers + 1) before after step)) := by
  intro began played
  obtain ⟨before, haccounts⟩ := exists_accounts e hwidth hnarrow hrow draw numbers
  refine ⟨before, haccounts, fun n => ⟨fun hno => ?_, fun hyes => ?_⟩⟩
  · rw [act_of_none haccounts.snapshot (Action.ofNumber?_eq_none_iff.mpr hno)]
    exact ⟨rfl, rfl⟩
  · obtain ⟨a, ha⟩ := Action.exists_ofNumber?_iff.mpr hyes
    obtain ⟨before', after, hbefore, hafter, hsteps, htold⟩ :=
      exists_tells e hwidth hnarrow hrow draw numbers ha
    cases hbefore.symm.trans haccounts.snapshot
    rw [haccounts.steps] at hsteps htold
    refine ⟨after, hafter, hsteps, fun hgain => ?_⟩
    rcases htold with ⟨hlarge, -⟩ | ⟨-, htells⟩
    · exact nomatch hlarge.symm.trans hgain
    · exact htells

/-- Of three numbers two are actions, a fourth is none, and a fifth is the third step. -/
theorem episode_accounts_narrow :
    (4 ≤ narrow.config.width ∧ narrow.config.width ≤ 32 ∧
      narrow.config.spawnY + 1 < narrow.config.height) ∧
      ∃ played before after, played = (narrow.reset 7).environment.acted [4, 9, 5] ∧
        Accounts [4, 9, 5] ((narrow.reset 7).environment.answers [4, 9, 5]) played before ∧
        played.steps = 2 ∧
        (played.act 6).environment = played ∧
        (played.act 0).environment.session.snapshot = some after ∧
        (played.act 0).environment.steps = 3 ∧
        ((Decimal.float? (after.score - before.score)).isSome = true →
          ∃ step, (played.act 0).answer = .ok step ∧ narrow.Tells 3 before after step) := by
  obtain ⟨before, haccounts, hnext⟩ :=
    episode_accounts narrow (by decide) (by decide) (by decide) 7 [4, 9, 5]
  have htaken : taken [4, 9, 5] = 2 := by decide
  have hsteps := haccounts.steps
  rw [htaken] at hsteps hnext
  obtain ⟨hsame, -⟩ := (hnext 6).1 (by decide)
  obtain ⟨after, hafter, hcount, htold⟩ := (hnext 0).2 (by decide)
  exact ⟨by decide, _, before, after, rfl, haccounts, hsteps, hsame, hafter, hcount, htold⟩

end Environment

end FallingBlocks
