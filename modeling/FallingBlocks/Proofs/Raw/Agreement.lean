/-
Two courses, one game.

A raw operation whose values are all small enough runs the ordinary operation, and any other
one runs value by value.  The two courses differ only where the machine has no room left: for
the power of two that a row is compared with, or for as many rows as the board is high.  On a
board that fits the machine, and from a snapshot that the reader accepts, they agree for every
command and every step: what is answered, the session that is left, and what the log is told.
-/
import FallingBlocks.Proofs.Acts
import FallingBlocks.Proofs.Raw.Atomicity
import FallingBlocks.Proofs.Raw.Landing

namespace FallingBlocks

/-! ### What no operation changes -/

namespace Session

variable {α : Type} (s : Session)

theorem run_settings (idle : α) (op : Frame → Effect α) :
    (s.run idle op).session.config = s.config ∧ (s.run idle op).session.rules = s.rules := by
  unfold run
  split
  · exact ⟨rfl, rfl⟩
  · split
    · exact ⟨rfl, rfl⟩
    · dsimp only
      split <;> exact ⟨rfl, rfl⟩

/-- A command leaves the configuration and the rules as they are. -/
theorem perform_settings (command : Command) :
    (s.perform command).session.config = s.config ∧
      (s.perform command).session.rules = s.rules := by
  cases command with
  | start => exact ⟨rfl, rfl⟩
  | look =>
      show s.look.session.config = s.config ∧ s.look.session.rules = s.rules
      rw [look_session]
      exact ⟨rfl, rfl⟩
  | tick =>
      show s.tick.session.config = s.config ∧ s.tick.session.rules = s.rules
      rw [tick_session]
      exact s.run_settings _ _
  | moveLeft => exact s.run_settings _ _
  | moveRight => exact s.run_settings _ _
  | rotate => exact s.run_settings _ _
  | softDrop => exact s.run_settings _ _
  | hardDrop => exact s.run_settings _ _

/-- So does a step. -/
theorem step_settings (request : Except Action.Fault Action) :
    (s.step request).session.config = s.config ∧ (s.step request).session.rules = s.rules := by
  unfold step
  split
  · exact ⟨rfl, rfl⟩
  · split
    · exact ⟨rfl, rfl⟩
    · cases request with
      | error fault => exact ⟨rfl, rfl⟩
      | ok action =>
          have hsettings := perform_settings { s with lastLock := none } (commandOf action)
          dsimp only at hsettings ⊢
          split
          · exact hsettings
          · exact (look_session _).symm ▸ hsettings

end Session

/-- There is room for the board of a configuration, in a number and in the list of its rows. -/
structure Config.Fits [Machine] (c : Config) : Prop where
  width : ¬ Document.TooLarge c.width
  height : c.height < Nat.pow 2 63
  rows : c.height ≤ Machine.items

namespace Raw

variable [Machine]

/-! ### Operations -/

namespace Session

open Course

/-- An ordinary session as raw values. -/
def ofOrdinary (o : FallingBlocks.Session) (kept : Bool) : Session :=
  { settings := .ofConfig o.config
    rules := .ofOrdinary o.rules
    supply := o.supply
    lastLock := o.lastLock.map .ofOrdinary
    snapshot := o.snapshot.map .ofOrdinary
    logged := kept }

variable {α β γ δ : Type} {o : FallingBlocks.Session} {f g : FallingBlocks.Frame} {d d' : Desk}
  {kept : Bool}

omit [Machine] in
theorem ofOrdinary_none (h : o.snapshot = none) : (ofOrdinary o kept).snapshot = none :=
  congrArg (Option.map _) h

omit [Machine] in
theorem ofOrdinary_some {snap : FallingBlocks.Snapshot} (h : o.snapshot = some snap) :
    (ofOrdinary o kept).snapshot = some (.ofOrdinary snap) :=
  congrArg (Option.map _) h

/-- A desk on which an operation of an ordinary session has moved the piece, and no more. -/
structure Serves (o : FallingBlocks.Session) (f : FallingBlocks.Frame) (kept : Bool)
    (d : Desk) : Prop where
  frame : On f d
  supply : d.supply = o.supply
  lastLock : d.lastLock = o.lastLock.map .ofOrdinary
  logged : d.logged = kept
  records : kept = true → d.records = []

omit [Machine] in
theorem Serves.leaves (h : Serves o f kept d) (hleft : d.Leaves g d.supply [] d') :
    Serves o g kept d' := by
  refine ⟨hleft.frame, hleft.supply.trans h.supply, hleft.lastLock.trans h.lastLock,
    hleft.logged.trans h.logged, fun hlogged => ?_⟩
  rw [hleft.records (h.logged.trans hlogged), h.records hlogged]
  rfl

/-- A desk as an ordinary operation leaves its frame and what is beside it. -/
structure Holds (e : FallingBlocks.Session.Effect α) (kept : Bool) (d : Desk) : Prop where
  frame : On e.frame d
  supply : d.supply = e.supply
  lastLock : d.lastLock = e.lastLock.map .ofOrdinary
  records : kept = true → d.records = e.events.map Log.ofEvent

omit [Machine] in
theorem Serves.holds {w : FallingBlocks.Well} (h : Serves o { f with toWell := w } kept d)
    (answer : Except FallingBlocks.Board.Fault α) : Holds (o.moving f w answer) kept d :=
  ⟨h.frame, h.supply, h.lastLock, h.records⟩

omit [Machine] in
theorem locking_answer {result : FallingBlocks.LockResult}
    (hanswer : (f.lock o.rules o.supply).answer = .ok result) (a : α) :
    (o.locking f a).answer = .ok a := by
  simp only [FallingBlocks.Session.locking, hanswer]

/-- The lock, the account of it, and the record that the game ended. -/
theorem locking_ends (hd : Serves o f kept d) {p : FallingBlocks.Piece} (hp : f.piece = some p)
    (h : f.board.Matched) (hfits : ¬ Document.TooLarge f.board.width)
    (hinside : ∀ c ∈ p.cells, 0 ≤ c.col ∧ c.col < f.board.width ∧ c.row < f.board.height)
    {result : FallingBlocks.LockResult} (hanswer : (f.lock o.rules o.supply).answer = .ok result)
    (a : α) :
    (locking (.ofOrdinary o.rules)).Ends d fun _ d' => Holds (o.locking f a) kept d' := by
  simp only [FallingBlocks.Session.locking, hanswer]
  rw [← hd.supply] at hanswer ⊢
  refine Ends.bind ((lock_ends hd.frame hp h hfits hinside o.rules hanswer).mono
    fun r d₁ hleft => ?_)
  obtain ⟨rfl, hleft⟩ := hleft
  have hrecords (hlogged : kept = true) : d₁.records =
      (f.lock o.rules d.supply).events.map Log.ofEvent := by
    rw [hleft.records (hd.logged.trans hlogged), hd.records hlogged]
    rfl
  refine Ends.bind (ends_modify (Ends.bind (ends_get ?_)))
  have hover : d₁.frame.gameOver.isTrue = (f.lock o.rules d.supply).frame.gameOver := by
    rw [hleft.frame]
    rfl
  simp only [hover]
  cases (f.lock o.rules d.supply).frame.gameOver with
  | false =>
      refine ends_pure ⟨hleft.frame, hleft.supply, rfl, fun hkept => ?_⟩
      rw [hrecords hkept, if_neg Bool.false_ne_true, List.append_nil]
  | true =>
      have hrecord := endedRecord_ofOrdinary (f.lock o.rules d.supply).frame
      rw [← hleft.frame] at hrecord
      refine ends_log hrecord fun records hended =>
        ⟨hleft.frame, hleft.supply, rfl, fun hkept => ?_⟩
      rw [hended ((hleft.logged.trans hd.logged).trans hkept), hrecords hkept, if_pos rfl,
        List.map_append]
      rfl

/-! ### Turns -/

/-- The turn of an ordinary session, value for value. -/
structure Turn.Agrees (t : Turn β) (u : FallingBlocks.Session.Turn α) (tell : α → β)
    (kept : Bool) : Prop where
  session : t.session = ofOrdinary u.session kept
  answer : t.answer = (u.answer.mapError faultOf).map tell
  records : kept = true → t.records = u.events.map Log.ofEvent

omit [Machine] in
theorem Turn.Agrees.map {t : Turn β} {u : FallingBlocks.Session.Turn α} {tell : α → β}
    (h : t.Agrees u tell kept) (f : β → δ) (g : α → γ) (tell' : γ → δ)
    (htell : ∀ a, tell' (g a) = f (tell a)) : (t.map f).Agrees (u.map g) tell' kept := by
  refine ⟨h.session, ?_, h.records⟩
  show t.answer.map f = ((u.answer.map g).mapError faultOf).map tell'
  rw [h.answer]
  cases u.answer with
  | error fault => rfl
  | ok a => exact congrArg Except.ok (htell a).symm

omit [Machine] in
theorem freeze_ofOrdinary (f : FallingBlocks.Frame) :
    (Frame.ofOrdinary f).freeze = f.freeze.map Snapshot.ofOrdinary := by
  unfold Frame.freeze FallingBlocks.Frame.freeze
  cases hp : f.piece <;>
    simp [Frame.ofOrdinary, Well.ofOrdinary, hp, Snapshot.ofOrdinary, Board.ofOrdinary]

theorem checkHeight_fits {c : Config} (hfits : c.Fits) : Board.checkHeight c.height = .ok () := by
  have hnear : ¬ (c.height < -(Nat.pow 2 63 : Int) ∨ Nat.pow 2 63 ≤ c.height) := by
    have hpos := c.height_pos
    have hlt := hfits.height
    omega
  rw [Board.checkHeight, if_neg hnear, if_neg (Int.not_lt.mpr hfits.rows)]

theorem thaw_ofOrdinary {c : Config} (hfits : c.Fits) (s : FallingBlocks.Snapshot) :
    (Snapshot.ofOrdinary s).thaw (.ofConfig c) = .ok (.ofOrdinary (s.thaw c)) := by
  have hmake : Board.make (.int c.width) (.int c.height) (some (s.board.map .int)) =
      .ok (.ofOrdinary { width := c.width, height := c.height, rows := s.board }) := by
    show (Board.checkHeight c.height >>= _) = _
    rw [checkHeight_fits hfits]
    show (List.mapM wholeOf (s.board.map Document.int) >>= _) = _
    rw [mapM_wholeOf]
    rfl
  show (Board.make (.int c.width) (.int c.height) (some (s.board.map .int)) >>= _) = _
  rw [hmake]
  rfl

section Commands

variable (hfits : o.config.Fits)

include hfits

/-- **A course that does on the desk what the operation does to the frame makes the same turn.** -/
theorem run_agrees {idle : α} {course : Course α}
    {op : FallingBlocks.Frame → FallingBlocks.Session.Effect α}
    (h : ∀ before, o.snapshot = some before → before.gameOver = false →
      ∃ a, (op (before.thaw o.config)).answer = .ok a ∧
        ∀ d, Serves o (before.thaw o.config) kept d →
          course.Ends d fun answer d' =>
            answer = a ∧ Holds (op (before.thaw o.config)) kept d') :
    ((ofOrdinary o kept).run idle course).Agrees (o.run idle op) id kept := by
  cases hsnap : o.snapshot with
  | none =>
      rw [FallingBlocks.Session.run_none hsnap, run, ofOrdinary_none hsnap]
      exact ⟨rfl, rfl, fun _ => rfl⟩
  | some before =>
      have hflag : (Snapshot.ofOrdinary before).gameOver.isTrue = before.gameOver := rfl
      rw [run, ofOrdinary_some hsnap]
      simp only [hflag]
      cases hover : before.gameOver with
      | true =>
          rw [FallingBlocks.Session.run_over hsnap hover]
          exact ⟨rfl, rfl, fun _ => rfl⟩
      | false =>
          obtain ⟨a, hanswer, hends⟩ := h before hsnap hover
          obtain ⟨answer, d', hrun, rfl, hd'⟩ :=
            hends { frame := .ofOrdinary (before.thaw o.config)
                    supply := (ofOrdinary o kept).supply
                    lastLock := (ofOrdinary o kept).lastLock
                    logged := (ofOrdinary o kept).logged } ⟨rfl, rfl, rfl, rfl, fun _ => rfl⟩
          have hthaw : (Snapshot.ofOrdinary before).thaw (ofOrdinary o kept).settings =
              .ok (.ofOrdinary (before.thaw o.config)) := thaw_ofOrdinary hfits before
          rw [FallingBlocks.Session.run_running hsnap hover]
          simp only [hthaw, hanswer, hrun, if_neg Bool.false_ne_true]
          refine ⟨?_, rfl, hd'.records⟩
          simp only [ofOrdinary, hd'.supply, hd'.lastLock]
          rw [hd'.frame, freeze_ofOrdinary]

/-! ### Commands -/

theorem start_agrees : (ofOrdinary o kept).start.Agrees o.start .ofOrdinary kept := by
  have hmake : Board.make (ofOrdinary o kept).settings.width (ofOrdinary o kept).settings.height
      none = .ok (.ofOrdinary (FallingBlocks.Board.empty o.config.width o.config.height)) := by
    show (Board.checkHeight o.config.height >>= _) = _
    rw [checkHeight_fits hfits]
    rfl
  rw [start, hmake]
  exact ⟨rfl, rfl, fun _ => rfl⟩

omit hfits [Machine] in
theorem look_agrees : (ofOrdinary o kept).look.Agrees o.look .ofOrdinary kept := by
  unfold look FallingBlocks.Session.look
  cases hsnap : o.snapshot with
  | none =>
      rw [ofOrdinary_none hsnap]
      exact ⟨rfl, rfl, fun _ => rfl⟩
  | some snap =>
      rw [ofOrdinary_some hsnap]
      exact ⟨rfl, rfl, fun _ => rfl⟩

variable (haccepted : ∀ snap, o.snapshot = some snap → snap.Accepted o.config)

include haccepted

omit [Machine] hfits in
theorem matched_thaw [Machine] (hfits : o.config.Fits) {before : FallingBlocks.Snapshot}
    (hsnap : o.snapshot = some before) : (before.thaw o.config).board.Matched :=
  ⟨(haccepted before hsnap).tidy.size, hfits.height⟩

theorem move_agrees {move : Well → Except Fault (Well × Bool)}
    {m : FallingBlocks.Well → Except FallingBlocks.Board.Fault (FallingBlocks.Well × Bool)}
    {dx dy turns : Int}
    (hmove : ∀ w : Well, move w = w.attempt (.int dx) (.int dy) (.int turns))
    (hm : ∀ w : FallingBlocks.Well, m w = w.attempt dx dy turns) :
    ((ofOrdinary o kept).run false (moving move)).Agrees (o.move m) id kept := by
  refine run_agrees hfits fun before hsnap hover => ?_
  have hmatched := matched_thaw haccepted hfits hsnap
  obtain ⟨q, moved, htry⟩ := FallingBlocks.Well.exists_attempt
    (w := (before.thaw o.config).toWell) hmatched.size rfl dx dy turns
  simp only [hm, htry]
  refine ⟨moved, rfl, fun d hd => ?_⟩
  exact (moving_ends hd.frame hmatched hmove htry).mono fun answer d' hleft =>
    ⟨hleft.1, (hd.leaves hleft.2).holds _⟩

theorem softDrop_agrees :
    ((ofOrdinary o kept).run false (softDrop (.ofOrdinary o.rules))).Agrees o.softDrop id kept := by
  refine run_agrees hfits fun before hsnap hover => ?_
  have hmatched := matched_thaw haccepted hfits hsnap
  have hbefore := haccepted before hsnap
  by_cases hadmits : (before.thaw o.config).board.pile.Admits (before.thaw o.config).board.width
      (before.thaw o.config).board.height (before.current.moved 0 1 0)
  · have hdrop := FallingBlocks.Well.softDrop_of_admits (w := (before.thaw o.config).toWell)
      hmatched.size rfl hadmits
    simp only [hdrop]
    refine ⟨true, rfl, fun d hd => ?_⟩
    refine Ends.bind ((moving_ends hd.frame hmatched (fun _ => rfl) hdrop).mono
      fun moved d' hleft => ?_)
    obtain ⟨rfl, hleft⟩ := hleft
    rw [if_pos rfl]
    exact ends_pure ⟨rfl, (hd.leaves hleft).holds _⟩
  · have hdrop := FallingBlocks.Well.softDrop_of_blocked (w := (before.thaw o.config).toWell)
      hmatched.size rfl hadmits
    obtain ⟨account, after, hlock⟩ := FallingBlocks.Session.exists_locksInto (s := o) hover hbefore
      (Or.inl rfl)
    simp only [hdrop]
    refine ⟨false, locking_answer hlock.locks false, fun d hd => ?_⟩
    refine Ends.bind ((moving_ends hd.frame hmatched (fun _ => rfl) hdrop).mono
      fun moved d' hleft => ?_)
    obtain ⟨rfl, hleft⟩ := hleft
    rw [if_neg Bool.false_ne_true]
    refine Ends.bind ((locking_ends (hd.leaves hleft) rfl hmatched hfits.width hbefore.current
      hlock.locks false).mono fun _ d'' hheld => ?_)
    exact ends_pure ⟨rfl, hheld⟩

theorem hardDrop_agrees :
    ((ofOrdinary o kept).run 0 (hardDrop (.ofOrdinary o.rules))).Agrees o.hardDrop id kept := by
  refine run_agrees hfits fun before hsnap hover => ?_
  have hmatched := matched_thaw haccepted hfits hsnap
  have hbefore := haccepted before hsnap
  have hrest : (before.position o.config).rested? o.config .hardDrop =
      some (before.fall o.config before.current).1 := rfl
  obtain ⟨q, rows, hfall, hlands⟩ : ∃ q rows,
      (before.thaw o.config).toWell.drop =
        ({ (before.thaw o.config).toWell with piece := some q }, .ok rows) ∧
      (q = before.current ∨ (before.position o.config).Admits o.config q) :=
    ⟨(before.fall o.config before.current).1, (before.fall o.config before.current).2,
      FallingBlocks.Well.drop_eq hmatched.size rfl, Position.rested?_lands hrest⟩
  have hinside : q.Inside o.config := by
    rcases hlands with rfl | hadmits
    · exact hbefore.current
    · exact hadmits.inside
  obtain ⟨account, after, hlock⟩ :=
    FallingBlocks.Session.exists_locksInto (s := o) hover hbefore hlands
  have hdrop := Well.drop_ofOrdinary hmatched rfl
  rw [hfall] at hdrop
  simp only [hfall]
  refine ⟨rows, locking_answer hlock.locks rows, fun d hd => ?_⟩
  refine Ends.bind (ends_get ?_)
  have hwell : d.frame.toWell = .ofOrdinary (before.thaw o.config).toWell := by
    rw [hd.frame]
    rfl
  rw [hwell, hdrop]
  refine Ends.bind (ends_change (Ends.bind (ends_find rfl ?_)))
  let fallen := { before with current := q }.thaw o.config
  have hlocking (d' : Desk) (hd' : Serves o fallen kept d') :=
    locking_ends (p := q) hd' rfl hmatched hfits.width hinside hlock.locks rows
  refine Ends.bind ((hlocking _ ?_).mono fun _ d'' hheld => ends_pure ⟨rfl, hheld⟩)
  exact ⟨by rw [On, hd.frame]; rfl, hd.supply, hd.lastLock, hd.logged, hd.records⟩

/-- Value by value, a command does what it does in the ordinary session. -/
theorem performAny_agrees (command : FallingBlocks.Session.Command) :
    ((ofOrdinary o kept).performAny command).Agrees (o.perform command) .ofOrdinary kept := by
  cases command with
  | start => exact (start_agrees hfits).map _ _ _ fun _ => rfl
  | look => exact look_agrees.map _ _ _ fun _ => rfl
  | moveLeft =>
      exact (move_agrees hfits haccepted (fun _ => rfl) fun _ => rfl).map _ _ _ fun _ => rfl
  | moveRight =>
      exact (move_agrees hfits haccepted (fun _ => rfl) fun _ => rfl).map _ _ _ fun _ => rfl
  | rotate =>
      exact (move_agrees hfits haccepted (fun _ => rfl) fun _ => rfl).map _ _ _ fun _ => rfl
  | softDrop => exact (softDrop_agrees hfits haccepted).map _ _ _ fun _ => rfl
  | hardDrop => exact (hardDrop_agrees hfits haccepted).map _ _ _ fun _ => rfl
  | tick =>
      have hdropped : ((ofOrdinary o kept).run false (softDrop (.ofOrdinary o.rules))).Agrees
          o.softDrop id kept := softDrop_agrees hfits haccepted
      have hrules : (ofOrdinary o kept).rules = .ofOrdinary o.rules := rfl
      rw [FallingBlocks.Session.perform, FallingBlocks.Session.tick_eq, performAny, hrules]
      generalize run _ false (softDrop _) = t at hdropped ⊢
      generalize o.softDrop = u at hdropped ⊢
      obtain ⟨session, answer, records⟩ := t
      obtain ⟨rfl, rfl, hrecords⟩ := hdropped
      obtain ⟨hsession, hanswer, -⟩ :
          (ofOrdinary u.session kept).look.Agrees u.session.look .ofOrdinary kept := look_agrees
      unfold FallingBlocks.Session.Turn.andThen
      cases u.answer with
      | error fault => exact ⟨rfl, rfl, hrecords⟩
      | ok moved =>
          refine ⟨hsession, ?_, hrecords⟩
          show Except.map Answer.snapshot (look (ofOrdinary u.session kept)).answer = _
          rw [hanswer]
          show _ = Except.map _ (Except.mapError _ (Except.map _ u.session.look.answer))
          cases u.session.look.answer <;> rfl

end Commands

/-! ### Either course -/

omit [Machine] in
/-- The settings that describe a configuration describe that one. -/
theorem toConfig_ofConfig (c : Config) : (Settings.ofConfig c).toConfig = .ok c := by
  obtain ⟨width, height, seed, spawnY, hwidth, hheight⟩ := c
  have haccepted : (Settings.ofConfig ⟨width, height, seed, spawnY, hwidth, hheight⟩).accepted =
      .ok () := by
    simp only [Settings.accepted, Settings.ofConfig, Settings.positive, decide_eq_true hwidth,
      decide_eq_true hheight, if_true, bind, Except.bind]
  unfold Settings.toConfig
  rw [haccepted]
  have hseed : ((seed.map Document.int).getD .null).whole? = seed := by
    cases seed <;> rfl
  simp only [Settings.ofConfig, Settings.whole, Document.toWhole, Except.mapError, bind,
    Except.bind, dif_pos hwidth, dif_pos hheight, hseed]
  rfl

theorem configOf?_ofConfig {c e : Config} (h : configOf? (.ofConfig c) = some e) : e = c := by
  unfold configOf? at h
  split at h
  · rw [toConfig_ofConfig] at h
    exact (Option.some.inj h).symm
  · exact nomatch h

theorem ordinary?_ofOrdinary {u : FallingBlocks.Session}
    (h : (ofOrdinary o kept).ordinary? = some u) : u = o := by
  obtain ⟨config, rules, supply, lastLock, snapshot⟩ := o
  simp only [ordinary?, ofOrdinary, Option.bind_eq_bind, Option.bind_eq_some_iff,
    Rules.ordinary?_ofOrdinary, Option.some.injEq] at h
  obtain ⟨c, hc, r, rfl, lock, hlock, snap, hsnap, rfl⟩ := h
  have hlock' : lock = lastLock := by
    cases lastLock with
    | none =>
        cases hlock
        rfl
    | some l =>
        cases hlock
        rfl
  have hsnap' : snap = snapshot := by
    cases snapshot with
    | none =>
        cases hsnap
        rfl
    | some s =>
        simp only [Option.map_some, Option.mapM_some] at hsnap
        obtain ⟨s', hs', rfl⟩ := Option.map_eq_some_iff.mp hsnap
        rw [Snapshot.ordinary?_ofOrdinary hs']
  rw [configOf?_ofConfig hc, hlock', hsnap']

omit [Machine] in
theorem follow_ofOrdinary {u : FallingBlocks.Session} (hconfig : u.config = o.config)
    (hrules : u.rules = o.rules) : (ofOrdinary o kept).follow u = ofOrdinary u kept := by
  simp only [follow, ofOrdinary, hconfig, hrules]

/--
**A command does to values what it does in the ordinary session**, on every board that fits
the machine and from every snapshot that the reader accepts.
-/
theorem perform_agrees (hfits : o.config.Fits)
    (haccepted : ∀ snap, o.snapshot = some snap → snap.Accepted o.config)
    (command : FallingBlocks.Session.Command) :
    ((ofOrdinary o kept).perform command).Agrees (o.perform command) .ofOrdinary kept := by
  unfold perform
  split
  · rename_i u hu
    rw [ordinary?_ofOrdinary hu]
    obtain ⟨hconfig, hrules⟩ := o.perform_settings command
    exact ⟨follow_ofOrdinary hconfig hrules, rfl, fun _ => rfl⟩
  · exact performAny_agrees hfits haccepted command

section Running

variable {s : Session} {before : Snapshot} (hsnap : s.snapshot = some before)
  (hover : before.gameOver.isTrue = false)

include hsnap hover

theorem stepAny_refused (fault : Action.Fault) :
    s.stepAny (.error fault) =
      { session := { s with lastLock := none }, answer := .error (.action fault) } := by
  rw [stepAny, hsnap]
  exact if_neg (Bool.eq_false_iff.mp hover)

theorem stepAny_action (action : Action) :
    s.stepAny (.ok action) =
      let t := { s with lastLock := none }.perform (FallingBlocks.Session.commandOf action)
      { session := t.session
        answer := do
          let _ ← t.answer
          let after ← t.session.look.answer
          report before after t.session.lastLock
        records := t.records } := by
  obtain ⟨settings, rules, supply, lastLock, snapshot, logged⟩ := s
  cases hsnap
  exact if_neg (Bool.eq_false_iff.mp hover)

end Running

omit [Machine] in
/-- What is reported of an action that was carried out. -/
theorem report_agrees {t : Turn Answer}
    {u : FallingBlocks.Session.Turn FallingBlocks.Session.Answer}
    (h : t.Agrees u .ofOrdinary kept) (before : FallingBlocks.Snapshot) :
    Turn.Agrees
      { session := t.session
        answer := do
          let _ ← t.answer
          let after ← t.session.look.answer
          report (.ofOrdinary before) after t.session.lastLock
        records := t.records }
      (u.andThen (u.session.look.map fun after =>
        FallingBlocks.Session.report before after u.session.lastLock))
      Report.ofOrdinary kept := by
  obtain ⟨session, answer, records⟩ := t
  obtain ⟨rfl, rfl, hrecords⟩ := h
  obtain ⟨-, hanswer, -⟩ :
      (ofOrdinary u.session kept).look.Agrees u.session.look .ofOrdinary kept := look_agrees
  have hlook := FallingBlocks.Session.look_session u.session
  unfold FallingBlocks.Session.Turn.andThen FallingBlocks.Session.Turn.map
  cases u.answer with
  | error fault => exact ⟨rfl, rfl, hrecords⟩
  | ok a =>
      refine ⟨congrArg (ofOrdinary · kept) hlook.symm, ?_, hrecords⟩
      show ((ofOrdinary u.session kept).look.answer >>= _) = _
      rw [hanswer]
      cases u.session.look.answer with
      | error fault => rfl
      | ok after =>
          show report (.ofOrdinary before) (.ofOrdinary after)
            (u.session.lastLock.map .ofOrdinary) = _
          cases u.session.lastLock <;> rfl

/-- **So does a step**, and it reports the same. -/
theorem step_agrees (hfits : o.config.Fits)
    (haccepted : ∀ snap, o.snapshot = some snap → snap.Accepted o.config)
    (request : Except Action.Fault Action) :
    ((ofOrdinary o kept).step request).Agrees (o.step request) .ofOrdinary kept := by
  unfold step
  split
  · rename_i u hu
    rw [ordinary?_ofOrdinary hu]
    obtain ⟨hconfig, hrules⟩ := o.step_settings request
    exact ⟨follow_ofOrdinary hconfig hrules, rfl, fun _ => rfl⟩
  · cases hsnap : o.snapshot with
    | none =>
        rw [FallingBlocks.Session.step_none hsnap, stepAny, ofOrdinary_none hsnap]
        exact ⟨rfl, rfl, fun _ => rfl⟩
    | some before =>
        have hraw : (ofOrdinary o kept).snapshot = some (.ofOrdinary before) :=
          ofOrdinary_some hsnap
        cases hover : before.gameOver with
        | true =>
            have hflag : (Snapshot.ofOrdinary before).gameOver.isTrue = true := hover
            rw [FallingBlocks.Session.step_over hsnap hover, stepAny, hraw]
            simp only [hflag, if_true]
            exact ⟨rfl, rfl, fun _ => rfl⟩
        | false =>
            have hflag : (Snapshot.ofOrdinary before).gameOver.isTrue = false := hover
            cases request with
            | error fault =>
                rw [FallingBlocks.Session.step_refused hsnap hover, stepAny_refused hraw hflag]
                exact ⟨rfl, rfl, fun _ => rfl⟩
            | ok action =>
                rw [FallingBlocks.Session.step_action hsnap hover, stepAny_action hraw hflag]
                exact report_agrees (perform_agrees (o := { o with lastLock := none }) hfits
                  haccepted (FallingBlocks.Session.commandOf action)) before

end Session

end Raw

end FallingBlocks
