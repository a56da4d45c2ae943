/-
What an environment answers, and when it has no answer.

Between two resets an environment does nothing to its session but to ask it for steps, so
everything known of the runs of a session is known of it.  With room for the pieces the
session grants every step.  What the environment tells about it may still be missing: the
board is shown as a table of words, and a mask is only sure to be a word on at most 32
columns; and the gain has to be a floating-point number.  By then the step has been taken.
-/
import FallingBlocks.Environment
import FallingBlocks.Proofs.Board.Bitmap
import FallingBlocks.Proofs.Integrity
import FallingBlocks.Proofs.Safety

namespace FallingBlocks

namespace Session

variable {s : Session} {before : Snapshot} {action : Action} {r : Report}

/-- The report on a step names the snapshot that it led to, and the score gained on the way. -/
theorem report_of_step (hsnap : s.snapshot = some before)
    (h : (s.step (.ok action)).answer = .ok r) :
    (s.step (.ok action)).session.snapshot = some r.snapshot ∧
      r.gained = r.snapshot.score - before.score := by
  cases hover : before.gameOver with
  | true =>
      rw [step_over hsnap hover] at h ⊢
      cases h
      exact ⟨hsnap, (Int.sub_self _).symm⟩
  | false =>
      rw [step_action hsnap hover] at h ⊢
      generalize ({ s with lastLock := none } : Session).perform (commandOf action) = t at h ⊢
      simp only [Turn.andThen] at h ⊢
      split at h
      · cases h
      · cases hafter : t.session.snapshot with
        | none => simp [look, hafter, Turn.map, Except.map] at h
        | some after =>
            simp only [look, hafter, Turn.map, Except.map, Except.ok.injEq] at h ⊢
            rw [← h]
            exact ⟨rfl, rfl⟩

/-- The session of an episode: one in which a game has begun, and steps have been asked for. -/
def stepped (s : Session) (actions : List Action) : Session :=
  s.start.session.after (actions.map fun action => .step (.ok action))

/-- With room for the first piece, every step is granted, and reports on what it has done. -/
theorem exists_report (hplayable : s.config.Playable) (actions : List Action) (action : Action) :
    ∃ before r, (s.stepped actions).snapshot = some before ∧
      ((s.stepped actions).step (.ok action)).answer = .ok r ∧
      ((s.stepped actions).step (.ok action)).session.snapshot = some r.snapshot ∧
      r.gained = r.snapshot.score - before.score ∧ r.snapshot.Tidy s.config := by
  have hsteps : .command .start ∉ actions.map fun a => Request.step (.ok a) := by simp
  obtain ⟨hsound, hsteady, hupright⟩ := after_invariant
    (P := fun g => g.Steady ∧ g.Upright) (actions.map fun a => .step (.ok a))
    (fun h => absurd h hsteps)
    (fun _ _ hg hstep => ⟨hstep.steady hg.1, hstep.upright hg.2⟩) (sound_start s)
    (by rw [start_game]; exact ⟨CellGame.steady_start hplayable, CellGame.upright_start _⟩)
  obtain ⟨x, hposition, -⟩ := hupright
  obtain ⟨before, hsnap, -⟩ := Option.map_eq_some_iff.mp hposition
  obtain ⟨reply, hreply⟩ := submit_granted (r := .step (.ok action)) hsound hsteady
    ⟨x, hposition⟩ ⟨action, rfl⟩
  obtain ⟨r, hr, -⟩ := except_map_eq_ok.mp hreply
  obtain ⟨hafter, hgained⟩ := report_of_step hsnap hr
  have htidy := (hsound.submit (.step (.ok action))).tidy r.snapshot hafter
  rw [submit_config hsound, after_config (sound_start s)] at htidy
  exact ⟨before, r, hsnap, hr, hafter, hgained, htidy⟩

end Session

namespace Environment

/-- The environment after a list of actions, whether or not their steps had an answer. -/
def after (e : Environment) (actions : List Action) : Environment :=
  actions.foldl (fun e action => (e.step (.ok action)).environment) e

variable {e : Environment}

/-- Whatever becomes of the answer, the session takes the step, and only the count may follow. -/
theorem step_environment (e : Environment) (action : Action) :
    ∃ steps, (e.step (.ok action)).environment =
      { e with session := (e.session.step (.ok action)).session, steps } := by
  unfold step
  cases hsnap : e.session.snapshot with
  | none =>
      rw [Session.step_none hsnap]
      exact ⟨e.steps, rfl⟩
  | some before =>
      simp only
      split
      · exact ⟨e.steps, rfl⟩
      · exact ⟨e.steps + 1, rfl⟩

theorem step_answer {before : Snapshot} {action : Action} {r : Session.Report}
    (hsnap : e.session.snapshot = some before)
    (hreport : (e.session.step (.ok action)).answer = .ok r) :
    (e.step (.ok action)).answer = (e.step (.ok action)).environment.answer before r := by
  simp only [step, hsnap, hreport]

/-- A list of actions is nothing but a list of requests to the session. -/
theorem after_environment (actions : List Action) :
    ∃ steps, e.after actions =
      { e with session := e.session.after (actions.map fun a => .step (.ok a)), steps } := by
  induction actions generalizing e with
  | nil => exact ⟨e.steps, rfl⟩
  | cons action rest ih =>
      obtain ⟨_, hstep⟩ := step_environment e action
      obtain ⟨steps, hrest⟩ := ih (e := (e.step (.ok action)).environment)
      refine ⟨steps, ?_⟩
      show (e.step (.ok action)).environment.after rest = _
      rw [hrest, hstep]
      rfl

/-! ### What is shown -/

/--
The observation is one of the snapshot: as many lines as the board has rows, as many bits in
each as it has columns, every bit that of a mask, and the numbers of the pieces.
-/
structure Observation.Shows (o : Observation) (c : Config) (s : Snapshot) : Prop where
  height : (o.board.bits.length : Int) = c.height
  width : ∀ line ∈ o.board.bits, (line.length : Int) = c.width
  bit : ∀ row col : Nat, (row : Int) < c.height → (col : Int) < c.width →
    ∃ m, s.board[row]? = some m ∧ o.board.bit? row col = some (m.has col)
  current : o.current = s.current.shape.number
  next : o.next = s.next.shape.number
  rotation : o.rotation = s.current.rotation

theorem exists_features (e : Environment) (s : Snapshot) : ∃ f, e.features s = .ok f := by
  have hfull : (e.boardOf s).fullMask = .ok (Mask.full e.config.width.toNat) :=
    if_neg (Int.not_lt.mpr (Int.le_of_lt e.config.width_pos))
  unfold features Board.holes
  split
  · rename_i h
    split at h
    · exact nomatch h
    · rw [hfull] at h
      exact nomatch h
  · exact ⟨_, rfl⟩

theorem observe_eq_ok_iff {s : Snapshot} {o : Observation} :
    e.observe s = .ok o ↔
      ∃ t, (e.boardOf s).bitmap = .ok t ∧
        o = { board := t
              current := s.current.shape.number
              next := s.next.shape.number
              rotation := s.current.rotation } := by
  unfold observe
  cases (e.boardOf s).bitmap <;> simp [eq_comm]

theorem shows_of_observe {s : Snapshot} {o : Observation} (htidy : s.Tidy e.config)
    (h : e.observe s = .ok o) : o.Shows e.config s := by
  obtain ⟨t, ht, rfl⟩ := observe_eq_ok_iff.mp h
  have hshows := Board.shows_of_bitmap ht
  have hrows : ((e.boardOf s).rows.length : Int) = e.config.height := htidy.size
  refine { height := ?_, width := ?_, bit := ?_, current := rfl, next := rfl, rotation := rfl }
  · rw [hshows.height]
    exact hrows
  · intro line hline
    rw [hshows.width line hline]
    exact Int.toNat_of_nonneg (Int.le_of_lt e.config.width_pos)
  · intro row col hrow hcol
    have hlength : row < s.board.length := by
      have hboard : (s.board.length : Int) = e.config.height := hrows
      omega
    have hget : s.board[row]? = some s.board[row] := List.getElem?_eq_getElem hlength
    have hwidth : col < e.config.width.toNat := by omega
    exact ⟨_, hget, hshows.bit row col _ hget hwidth⟩

/-- A snapshot is shown exactly when all its masks are words. -/
theorem exists_observe_iff {s : Snapshot} :
    (∃ o, e.observe s = .ok o) ↔ ∀ m ∈ s.board, Board.IsWord m := by
  constructor
  · rintro ⟨o, ho⟩
    obtain ⟨t, ht, -⟩ := observe_eq_ok_iff.mp ho
    exact (Board.bitmap_eq_ok_iff.mp ht).1
  · intro h
    exact ⟨_, observe_eq_ok_iff.mpr ⟨_, Board.bitmap_eq_ok_iff.mpr ⟨h, rfl⟩, rfl⟩⟩

/-! ### Answers -/

variable {before : Snapshot} {r : Session.Report} {answer : Step}

theorem isNone_float? {penalty : Float} {gained : Int} {refused : Bool} :
    (Reward.float? penalty { gained, refused }).isNone = !(Decimal.float? gained).isSome := by
  simp [Reward.float?]

/-- What is told of a step, if anything is. -/
theorem answer_eq_ok_iff :
    e.answer before r = .ok answer ↔
      (Decimal.float? r.gained).isSome = true ∧
        ∃ features observation, e.features r.snapshot = .ok features ∧
          e.observe r.snapshot = .ok observation ∧
          { observation
            reward := { gained := r.gained, refused := !decide (r.snapshot ≠ before) }
            terminated := r.gameOver
            truncated := decide (e.maxSteps ≤ e.steps) && !r.gameOver
            info := { report := r.info, moved := decide (r.snapshot ≠ before), features } } =
            answer := by
  simp only [Environment.answer, isNone_float?]
  cases (Decimal.float? r.gained).isSome with
  | false => simp
  | true => simp [except_bind_eq_ok]

/-- A step is told of exactly when its gain is a floating-point number and its board is shown. -/
theorem exists_answer_iff :
    (∃ answer, e.answer before r = .ok answer) ↔
      (Decimal.float? r.gained).isSome = true ∧ ∀ m ∈ r.snapshot.board, Board.IsWord m := by
  simp only [answer_eq_ok_iff]
  constructor
  · rintro ⟨_, hgain, _, o, -, ho, -⟩
    exact ⟨hgain, exists_observe_iff.mp ⟨o, ho⟩⟩
  · rintro ⟨hgain, hwords⟩
    obtain ⟨features, hfeatures⟩ := exists_features e r.snapshot
    obtain ⟨o, ho⟩ := exists_observe_iff.mpr hwords
    exact ⟨_, hgain, features, o, hfeatures, ho, rfl⟩

/-! ### Episodes -/

/-- The session that an episode begins with, before its game has begun. -/
def opening (e : Environment) (draw : Int) : Session :=
  { config := e.config, rules := e.rules, supply := .seeded (draw % seeds) }

/-- An episode is the course of one session, under the configuration that it began with. -/
theorem episode_stepped (e : Environment) (draw : Int) (actions : List Action) :
    ((e.reset draw).environment.after actions).session = (e.opening draw).stepped actions ∧
      ((e.reset draw).environment.after actions).config = e.config := by
  obtain ⟨_, hafter⟩ := after_environment (e := (e.reset draw).environment) actions
  rw [hafter]
  exact ⟨rfl, rfl⟩

/-- **An episode always begins with an observation**, that of an empty board. -/
theorem reset_shows (e : Environment) (draw : Int) :
    ∃ o info s, (e.reset draw).answer = .ok (o, info) ∧
      (e.reset draw).environment.session.snapshot = some s ∧ o.Shows e.config s := by
  let began := (e.reset draw).environment
  obtain ⟨s, hstart⟩ : ∃ s, (e.opening draw).start.answer = .ok s := ⟨_, rfl⟩
  have hsnap : (e.opening draw).start.session.snapshot = some s := by
    cases hstart
    rfl
  have hwords : ∀ m ∈ s.board, Board.IsWord m := by
    cases hstart
    intro m hm
    rw [(List.mem_replicate.mp hm).2]
    exact ⟨by decide, by decide⟩
  obtain ⟨features, hfeatures⟩ := exists_features began s
  obtain ⟨o, ho⟩ := exists_observe_iff (e := began).mpr hwords
  have htidy : s.Tidy e.config := (Session.sound_start (e.opening draw)).tidy s hsnap
  refine ⟨o, ⟨s.score, s.level, s.linesCleared, features⟩, s, ?_, hsnap, shows_of_observe htidy ho⟩
  have hbegun : (e.opening draw).start.answer.mapError Fault.session = .ok s := by
    rw [hstart]
    rfl
  exact except_bind_eq_ok.mpr ⟨s, hbegun, except_bind_eq_ok.mpr ⟨features, hfeatures,
    except_bind_eq_ok.mpr ⟨o, ho, rfl⟩⟩⟩

/--
**In an episode every step is taken, and told of exactly as far as words go.**  With room for
the pieces, a step has an answer exactly when the gain is a floating-point number and every
mask of the new board is a word of 32 bits, which is sure on at most 32 columns; and the
observation of an answer shows the snapshot of the session.
-/
theorem answers_iff_words (e : Environment) (hwidth : 4 ≤ e.config.width)
    (hrow : e.config.spawnY + 1 < e.config.height) (draw : Int) (actions : List Action)
    (action : Action) :
    let played := (e.reset draw).environment.after actions
    let t := played.step (.ok action)
    (∃ o info s, (e.reset draw).answer = .ok (o, info) ∧
      (e.reset draw).environment.session.snapshot = some s ∧ o.Shows e.config s) ∧
    ∃ before s, played.session.snapshot = some before ∧
      t.environment.session = (played.session.step (.ok action)).session ∧
      t.environment.session.snapshot = some s ∧
      ((∃ answer, t.answer = .ok answer) ↔
        (Decimal.float? (s.score - before.score)).isSome = true ∧ ∀ m ∈ s.board, m < 2 ^ 32) ∧
      (e.config.width ≤ 32 → ∀ m ∈ s.board, m < 2 ^ 32) ∧
      ∀ answer, t.answer = .ok answer → answer.observation.Shows e.config s := by
  intro played t
  refine ⟨reset_shows e draw, ?_⟩
  obtain ⟨hsession, hplayed⟩ : played.session = (e.opening draw).stepped actions ∧
      played.config = e.config := episode_stepped e draw actions
  obtain ⟨_, htaken⟩ := step_environment played action
  obtain ⟨before, r, hbefore, hreport, hafter, hgained, htidy⟩ :=
    Session.exists_report (s := e.opening draw) (Or.inr ⟨hwidth, hrow⟩) actions action
  rw [← hsession] at hbefore hreport hafter
  have hmoved : t.environment.session = (played.session.step (.ok action)).session :=
    congrArg Environment.session htaken
  have hconfig : t.environment.config = e.config :=
    (congrArg Environment.config htaken).trans hplayed
  have htold : t.answer = t.environment.answer before r := step_answer hbefore hreport
  have htidy : r.snapshot.Tidy e.config := htidy
  obtain ⟨-, hmasks⟩ := htidy.masks
  refine ⟨before, r.snapshot, hbefore, hmoved, hmoved ▸ hafter, ?_, ?_, ?_⟩
  · rw [htold, exists_answer_iff, hgained]
    exact and_congr_right fun _ => forall₂_congr fun m hm => and_iff_right (hmasks m hm).1
  · intro hnarrow m hm
    exact (Board.isWord_of_narrow hnarrow (hmasks m hm).1 (hmasks m hm).2).2
  · intro answer hanswer
    rw [htold] at hanswer
    obtain ⟨-, _, o, -, ho, rfl⟩ := answer_eq_ok_iff.mp hanswer
    rw [← hconfig]
    exact shows_of_observe (by rw [hconfig]; exact htidy) ho

/-- An environment on a board with fewer columns than a word has bits. -/
def narrow : Environment :=
  create { width := 7, height := 9 } {} 10000 0

/-- On seven columns nothing but the gain can be in the way of an answer. -/
theorem answers_iff_words_narrow :
    (4 ≤ narrow.config.width ∧ narrow.config.spawnY + 1 < narrow.config.height) ∧
      ∃ t before s, t = ((narrow.reset 7).environment.after [.hardDrop, .tick]).step (.ok .rotate) ∧
        ((narrow.reset 7).environment.after [.hardDrop, .tick]).session.snapshot = some before ∧
        t.environment.session.snapshot = some s ∧
        ((∃ answer, t.answer = .ok answer) ↔
          (Decimal.float? (s.score - before.score)).isSome = true) := by
  obtain ⟨-, before, s, hbefore, -, hafter, hanswers, hnarrow, -⟩ :=
    answers_iff_words narrow (by decide) (by decide) 7 [.hardDrop, .tick] .rotate
  refine ⟨by decide, _, before, s, rfl, hbefore, hafter, ?_⟩
  exact hanswers.trans (and_iff_left (hnarrow (by decide)))

end Environment

end FallingBlocks
