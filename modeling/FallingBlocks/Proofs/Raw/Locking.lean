/-
Faults come before the draw.

A course of steps on raw values can stop anywhere, and what it has done by then stays done.
That nothing is lost of a session all the same is a matter of order: as long as a step can
still fail, no shape has been drawn and no lock has been accounted for, and from the draw on
nothing fails any more.  So every course is followed in two parts.  Up to the draw it is
enough that its faults leave the supply and the account alone; after it there must be none.
-/
import FallingBlocks.Proofs.Raw.Whole

namespace FallingBlocks.Raw

/-! ### Courses -/

/-- Nothing was drawn between two desks, and no lock was accounted for. -/
structure Desk.Untouched (d d' : Desk) : Prop where
  supply : d'.supply = d.supply
  lastLock : d'.lastLock = d.lastLock

theorem Desk.Untouched.refl (d : Desk) : d.Untouched d := ⟨rfl, rfl⟩

theorem Desk.Untouched.trans {d d' d'' : Desk} (h : d.Untouched d') (h' : d'.Untouched d'') :
    d.Untouched d'' :=
  ⟨h'.supply.trans h.supply, h'.lastLock.trans h.lastLock⟩

/--
What an ordinary operation leaves of a desk: its frame, its supply, and what it tells the log,
if the log is kept.
-/
structure Desk.Leaves (d : Desk) (f : FallingBlocks.Frame) (supply : Supply)
    (events : List Event) (d' : Desk) : Prop where
  frame : d'.frame = .ofOrdinary f
  supply : d'.supply = supply
  lastLock : d'.lastLock = d.lastLock
  logged : d'.logged = d.logged
  records : d.logged = true → d'.records = d.records ++ events.map Log.ofEvent

theorem Desk.Leaves.trans {d d' d'' : Desk} {f g : FallingBlocks.Frame} {supply rest : Supply}
    {events more : List Event} (h : d.Leaves f supply events d')
    (h' : d'.Leaves g rest more d'') : d.Leaves g rest (events ++ more) d'' := by
  refine ⟨h'.frame, h'.supply, h'.lastLock.trans h.lastLock, h'.logged.trans h.logged, ?_⟩
  intro hlogged
  rw [h'.records (h.logged.trans hlogged), h.records hlogged, List.map_append, List.append_assoc]

theorem Desk.Leaves.untouched {d d' : Desk} {f : FallingBlocks.Frame} {events : List Event}
    (h : d.Leaves f d.supply events d') : d.Untouched d' :=
  ⟨h.supply, h.lastLock⟩

namespace Course

variable {α β : Type} {d : Desk} {course : Course α} {next : α → Course β}
  {ends : α → Desk → Prop} {ends' : β → Desk → Prop}

/-- A course that ends as told, or is ended by a fault before anything was drawn. -/
def Leads (course : Course α) (d : Desk) (ends : α → Desk → Prop) : Prop :=
  match course.run d with
  | .ok a d' => ends a d'
  | .error _ d' => d.Untouched d'

/-- A course that ends as told, without a fault. -/
def Ends (course : Course α) (d : Desk) (ends : α → Desk → Prop) : Prop :=
  ∃ a d', course.run d = .ok a d' ∧ ends a d'

theorem Ends.leads (h : course.Ends d ends) : course.Leads d ends := by
  obtain ⟨a, d', hrun, hends⟩ := h
  rw [Leads, hrun]
  exact hends

theorem Leads.mono {ends'' : α → Desk → Prop} (h : course.Leads d ends)
    (himp : ∀ a d', ends a d' → ends'' a d') : course.Leads d ends'' := by
  unfold Leads at h ⊢
  split at h
  · exact himp _ _ h
  · exact h

/-- Steps that have drawn nothing, and then the rest of a course. -/
theorem Leads.bind (h : course.Leads d fun a d' => d.Untouched d' ∧ (next a).Leads d' ends') :
    (course >>= next).Leads d ends' := by
  unfold Leads at h ⊢
  rw [EStateM.run_bind]
  cases hrun : course.run d with
  | error fault d' =>
      simp only [hrun] at h ⊢
      exact h
  | ok a d' =>
      simp only [hrun] at h ⊢
      obtain ⟨huntouched, hnext⟩ := h
      cases hrest : (next a).run d' with
      | ok b d'' =>
          simp only [hrest] at hnext ⊢
          exact hnext
      | error fault d'' =>
          simp only [hrest] at hnext ⊢
          exact huntouched.trans hnext

/-- Steps that may have drawn something, and then a rest that does not fail. -/
theorem Leads.finish (h : course.Leads d fun a d' => (next a).Ends d' ends') :
    (course >>= next).Leads d ends' := by
  unfold Leads at h ⊢
  rw [EStateM.run_bind]
  cases hrun : course.run d with
  | error fault d' =>
      simp only [hrun] at h ⊢
      exact h
  | ok a d' =>
      simp only [hrun] at h ⊢
      obtain ⟨b, d'', hrest, hends⟩ := h
      rw [hrest]
      exact hends

theorem Ends.mono {ends'' : α → Desk → Prop} (h : course.Ends d ends)
    (himp : ∀ a d', ends a d' → ends'' a d') : course.Ends d ends'' := by
  obtain ⟨a, d', hrun, hends⟩ := h
  exact ⟨a, d', hrun, himp a d' hends⟩

theorem Ends.bind (h : course.Ends d fun a d' => (next a).Ends d' ends') :
    (course >>= next).Ends d ends' := by
  obtain ⟨a, d', hrun, b, d'', hrest, hends⟩ := h
  refine ⟨b, d'', ?_, hends⟩
  rw [EStateM.run_bind, hrun]
  exact hrest

theorem leads_find {answer : Except Fault α} (h : ∀ a, answer = .ok a → ends a d) :
    (find answer).Leads d ends := by
  cases answer with
  | ok a => exact h a rfl
  | error fault => exact .refl d

theorem ends_find {answer : Except Fault α} {a : α} (hanswer : answer = .ok a) (h : ends a d) :
    (find answer).Ends d ends := by
  subst hanswer
  exact ⟨a, d, rfl, h⟩

theorem ends_get {ends : Desk → Desk → Prop} (h : ends d d) : (get : Course Desk).Ends d ends :=
  ⟨d, d, rfl, h⟩

theorem ends_change {g : Frame → Frame} {ends : Unit → Desk → Prop}
    (h : ends () { d with frame := g d.frame }) : (change g).Ends d ends :=
  ⟨(), _, rfl, h⟩

theorem ends_modify {g : Desk → Desk} {ends : Unit → Desk → Prop} (h : ends () (g d)) :
    (modify g : Course Unit).Ends d ends :=
  ⟨(), _, rfl, h⟩

theorem ends_draw {ends : Shape → Desk → Prop}
    (h : ends d.supply.draw.1 { d with supply := d.supply.draw.2 }) : draw.Ends d ends :=
  ⟨_, _, rfl, h⟩

theorem ends_set {d' : Desk} {ends : PUnit → Desk → Prop} (h : ends ⟨⟩ d') :
    (set d' : Course PUnit).Ends d ends :=
  ⟨⟨⟩, d', rfl, h⟩

theorem ends_pure {a : α} (h : ends a d) : (pure a : Course α).Ends d ends :=
  ⟨a, d, rfl, h⟩

/-- A record that can be made is written down, if the log is kept. -/
theorem ends_log {answer : Except Fault Log.Record} {record : Log.Record}
    {ends : Unit → Desk → Prop} (hanswer : answer = .ok record)
    (h : ∀ records, (d.logged = true → records = d.records ++ [record]) →
      ends () { d with records }) : (log answer).Ends d ends := by
  refine Ends.bind (ends_get ?_)
  split
  · exact Ends.bind (ends_find hanswer (ends_modify (h _ fun _ => rfl)))
  · rename_i hlogged
    exact ends_pure (h d.records fun hkept => absurd hkept hlogged)

/-! ### Records of whole numbers -/

theorem numberText_int (n : Int) : numberText (.int n) = .ok (toString n) := rfl

theorem levelUpRecord_int (old new linesCleared : Int) :
    levelUpRecord (.int old) (.int new) (.int linesCleared) =
      .ok (Log.ofEvent (.levelUp old new linesCleared)) := by
  simp only [levelUpRecord, numberText_int, bind, Except.bind, Log.ofEvent]

theorem endedRecord_ofOrdinary (f : FallingBlocks.Frame) :
    endedRecord (.ofOrdinary f) =
      .ok (Log.ofEvent (.ended f.score f.linesCleared f.level)) := by
  simp only [endedRecord, Frame.ofOrdinary, numberText_int, bind, Except.bind, Log.ofEvent]

theorem pieceText_ofOrdinary (p : FallingBlocks.Piece) :
    pieceText (.ofOrdinary p) = Log.pieceText p := by
  unfold pieceText Log.pieceText Piece.ofOrdinary
  rw [Document.describe_int, Document.describe_int, Document.describe_int]

theorem topOutRecord_ofOrdinary (p : FallingBlocks.Piece) (reason : String) :
    (.ok ⟨.debug, .lineClear, "top-out: " ++ pieceText (.ofOrdinary p) ++ reason⟩ :
        Except Fault Log.Record) =
      .ok ⟨.debug, .lineClear, "top-out: " ++ Log.pieceText p ++ reason⟩ := by
  rw [pieceText_ofOrdinary]

/-! ### The steps of a lock -/

variable {f : FallingBlocks.Frame} {p : FallingBlocks.Piece}

/-- A desk with this frame on it. -/
def On (f : FallingBlocks.Frame) (d : Desk) : Prop := d.frame = .ofOrdinary f

theorem On.leaves (hd : On f d) : d.Leaves f d.supply [] d :=
  ⟨hd, rfl, rfl, rfl, fun _ => (List.append_nil _).symm⟩

theorem topOut_ends (hd : On f d) (p : FallingBlocks.Piece) :
    (topOut (.ofOrdinary p)).Ends d fun result d' =>
      result = .ofOrdinary { toppedOut := true } ∧
        d.Leaves { f with gameOver := true } d.supply [.restedAbove p] d' := by
  refine Ends.bind (ends_log (topOutRecord_ofOrdinary p _) fun records hrecords =>
    Ends.bind (ends_change (ends_pure ⟨rfl, ?_, rfl, rfl, rfl, hrecords⟩)))
  simp only [On] at hd
  simp only [hd]
  rfl

/-- A desk with this frame on it, but for a board of the same size. -/
def Reboarded (f : FallingBlocks.Frame) (d : Desk) : Prop :=
  ∃ m, On { f with board := m } d ∧ m.height = f.board.height ∧
    m.rows.length = f.board.rows.length

theorem reboarded_of_keeps {x : Board} (hd : On f d) (h : Board.Keeps f.board x) :
    Reboarded f { d with frame := { d.frame with board := x } } := by
  obtain ⟨m, rfl, -, hheight, hrows⟩ := h
  refine ⟨m, ?_, hheight, hrows⟩
  simp only [On] at hd ⊢
  rw [hd]
  rfl

variable [Machine]

theorem merge_leads (hd : On f d) (cells : List Cell) :
    (merge cells).Leads d fun _ d' => d.Untouched d' ∧ Reboarded f d' := by
  refine Leads.bind (ends_get ⟨.refl d, ?_⟩).leads
  refine Leads.bind (ends_change ⟨⟨rfl, rfl⟩, ?_⟩).leads
  refine leads_find fun _ _ => ⟨⟨rfl, rfl⟩, reboarded_of_keeps hd ?_⟩
  have hboard : d.frame.board = .ofOrdinary f.board := by
    rw [hd]
    rfl
  rw [hboard]
  exact Board.keeps_merge f.board cells

theorem clear_leads (hd : On f d) (hsize : (f.board.rows.length : Int) = f.board.height) :
    clear.Leads d fun _ d' => d.Untouched d' ∧ Reboarded f d' := by
  have hboard : d.frame.board = .ofOrdinary f.board := by
    rw [hd]
    rfl
  refine Leads.bind (ends_get ⟨.refl d, ?_⟩).leads
  refine Leads.bind (leads_find fun completed _ => ⟨.refl d, ?_⟩)
  split
  · exact (ends_pure ⟨.refl d, f.board, hd, rfl, rfl⟩).leads
  · refine Leads.bind (leads_find fun cleared hcleared => ⟨.refl d, ?_⟩)
    rw [hboard] at hcleared
    have hkeeps := reboarded_of_keeps hd (Board.keeps_clearFullRows hsize hcleared)
    refine Ends.leads (Ends.bind (ends_change (Ends.bind (ends_log rfl fun _ _ => ?_))))
    exact ends_pure ⟨⟨rfl, rfl⟩, hkeeps⟩

/-- The event of a credit that raised the level. -/
def levelEvents (before after : FallingBlocks.Frame) : List Event :=
  if after.level = before.level then []
  else [.levelUp before.level after.level after.linesCleared]

/-- Counters that are whole numbers are credited as they are in the ordinary frame. -/
theorem credit_ends (hd : On f d) (rules : FallingBlocks.Rules) {c : FallingBlocks.Board.Clearing}
    (hboard : f.board = c.board) :
    (credit (.ofOrdinary rules) c.count).Ends d fun result d' =>
      result = .ofOrdinary (f.account rules c) ∧
        d.Leaves (f.credit rules c) d.supply (levelEvents f (f.credit rules c)) d' := by
  obtain ⟨frame, supply, lastLock, logged, records⟩ := d
  cases hd
  refine Ends.bind (ends_get ?_)
  refine Ends.bind (ends_find (Rules.scoreForLines_ofOrdinary rules c.count f.level) ?_)
  refine Ends.bind (ends_get (Ends.bind (ends_find rfl (Ends.bind (ends_change ?_)))))
  refine Ends.bind (ends_get (Ends.bind (ends_find rfl (Ends.bind (ends_change ?_)))))
  refine Ends.bind (ends_find (Rules.levelAfter_ofOrdinary rules _ f.level) ?_)
  have hframe (level : Int) :
      ({ f with
          score := f.score + rules.scoreForLines c.count f.level
          linesCleared := f.linesCleared + c.count
          level } : FallingBlocks.Frame) = { f.credit rules c with level } := by
    rw [FallingBlocks.Frame.credit, ← hboard]
  unfold levelEvents
  by_cases hlevel : (f.credit rules c).level = f.level
  · have hsame : Document.sameNumber (.int (rules.levelAfter (f.linesCleared + c.count) f.level))
        (.int f.level) = true := by
      rw [Document.sameNumber_int]
      exact beq_iff_eq.mpr hlevel
    rw [if_pos hsame, if_pos hlevel]
    refine ends_pure ⟨?_, ?_, rfl, rfl, rfl, ?_⟩
    · rw [FallingBlocks.Frame.account, decide_eq_false (not_not.mpr hlevel)]
      rfl
    · exact congrArg Frame.ofOrdinary ((hframe f.level).trans (by rw [← hlevel]))
    · exact fun _ => (List.append_nil _).symm
  · have hother : Document.sameNumber (.int (rules.levelAfter (f.linesCleared + c.count) f.level))
        (.int f.level) = false := by
      rw [Document.sameNumber_int]
      exact beq_eq_false_iff_ne.mpr hlevel
    rw [hother, if_neg Bool.false_ne_true, if_neg hlevel]
    refine Ends.bind (ends_log (levelUpRecord_int f.level _ _) fun records hrecords =>
      Ends.bind (ends_change (ends_pure ⟨?_, ?_, rfl, rfl, rfl, hrecords⟩)))
    · rw [FallingBlocks.Frame.account, decide_eq_true hlevel]
      rfl
    · exact congrArg Frame.ofOrdinary (hframe _)

/-- A desk with a frame of whole numbers on it, and a piece in the well. -/
def HasPiece (d : Desk) : Prop := ∃ g : FallingBlocks.Frame, On g d ∧ g.piece.isSome

omit [Machine] in
/-- Such a frame has a snapshot. -/
theorem HasPiece.freeze (h : HasPiece d) : ∃ after, d.frame.freeze = some after := by
  obtain ⟨g, hg, hpiece⟩ := h
  rw [← Option.isSome_iff_exists, hg, Frame.freeze, Option.isSome_map]
  exact (Option.isSome_map ..).trans hpiece

/-- **After the draw nothing fails**: the piece that entered fits, or the game is over. -/
theorem turnOver_ends (hd : On f d) (h : f.board.Matched) (result : FallingBlocks.LockResult)
    {free : Bool} (htry : (f.turnOver d.supply.draw.1).attempt 0 0 0 =
      .ok ((f.turnOver d.supply.draw.1).toWell, free)) :
    (turnOver (.ofOrdinary result)).Ends d fun result' d' =>
      result' = .ofOrdinary (if free then result else { result with toppedOut := true }) ∧
        d.Leaves
          (if free then f.turnOver d.supply.draw.1
            else { f.turnOver d.supply.draw.1 with gameOver := true })
          d.supply.draw.2
          (if free then []
            else (f.turnOver d.supply.draw.1).piece.toList.map .blockedAtSpawn) d' := by
  obtain ⟨frame, supply, lastLock, logged, records⟩ := d
  cases hd
  let turned : FallingBlocks.Frame := f.turnOver supply.draw.1
  have hraw := Well.attempt_ofOrdinary (w := turned.toWell) h 0 0 0
  rw [htry] at hraw
  refine Ends.bind (ends_change (Ends.bind (ends_draw ?_)))
  refine Ends.bind (ends_change (Ends.bind (ends_get (Ends.bind (ends_find hraw ?_)))))
  cases free with
  | true => exact ends_pure ⟨rfl, rfl, rfl, rfl, rfl, fun _ => (List.append_nil _).symm⟩
  | false =>
      refine Ends.bind (ends_log (topOutRecord_ofOrdinary (turned.entering f.next.shape) _)
        fun records hrecords => Ends.bind (ends_change (ends_pure ⟨rfl, rfl, rfl, rfl, rfl, ?_⟩)))
      exact hrecords

/-! ### Locks -/

/-- Value by value, a lock is the five steps up to the draw, and then the rest. -/
theorem lockAny_leads (hd : On f d) (hp : f.piece = some p) (h : f.board.Matched)
    (rules : FallingBlocks.Rules) : (lockAny (.ofOrdinary rules)).Leads d fun _ => HasPiece := by
  have hpiece : d.frame.piece = some (.ofOrdinary p) := by
    rw [hd]
    exact congrArg (Option.map _) hp
  refine Leads.bind (ends_get ⟨.refl d, ?_⟩).leads
  rw [hpiece]
  refine Leads.bind (ends_find (Piece.cells_ofOrdinary p) ⟨.refl d, ?_⟩).leads
  refine Leads.bind (leads_find fun above _ => ⟨.refl d, ?_⟩)
  split
  · exact ((topOut_ends hd p).leads).mono fun _ _ hover =>
      ⟨_, hover.2.frame, Option.isSome_of_eq_some hp⟩
  · refine Leads.bind ((merge_leads hd _).mono fun _ d' hmerged => ⟨hmerged.1, ?_⟩)
    obtain ⟨-, m, hm, hheight, hrows⟩ := hmerged
    have hsize : (m.rows.length : Int) = m.height := by rw [hrows, hheight, h.size]
    refine Leads.bind ((clear_leads hm hsize).mono fun count d'' hcleared => ⟨hcleared.1, ?_⟩)
    obtain ⟨-, b, hb, hheight', hrows'⟩ := hcleared
    have hmatched : b.Matched :=
      ⟨by rw [hrows', hheight', hsize], by rw [hheight', hheight]; exact h.bound⟩
    refine Leads.bind ((credit_ends hb rules (c := ⟨b, [], count⟩) rfl).leads.mono
      fun result d''' hcredited => ⟨hcredited.2.untouched, ?_⟩)
    obtain ⟨rfl, hcredited⟩ := hcredited
    obtain ⟨free, htry⟩ := FallingBlocks.Frame.exists_attempt_turnOver
      ({ f with board := b }.credit rules ⟨b, [], count⟩) d'''.supply.draw.1 hmatched.size
    refine (turnOver_ends hcredited.frame hmatched _ htry).leads.mono fun _ _ hturned => ?_
    obtain ⟨-, hturned⟩ := hturned
    cases free with
    | true => exact ⟨_, hturned.frame, rfl⟩
    | false => exact ⟨_, hturned.frame, rfl⟩

/-- A lock draws a shape only where it cannot fail any more, and leaves a piece in the well. -/
theorem lock_leads (hd : On f d) (hp : f.piece = some p) (h : f.board.Matched)
    (rules : FallingBlocks.Rules) : (lock (.ofOrdinary rules)).Leads d fun _ => HasPiece := by
  refine Leads.bind (ends_get ⟨.refl d, ?_⟩).leads
  split
  · rename_i g r hg hr
    rw [hd] at hg
    cases Frame.ordinary?_ofOrdinary hg
    rw [Rules.ordinary?_ofOrdinary] at hr
    cases hr
    obtain ⟨hrefused, hgranted⟩ := f.lock_settles rules d.supply hp h.size
    cases hanswer : (f.lock rules d.supply).answer with
    | error fault =>
        refine Leads.bind (ends_set ⟨⟨hrefused fault hanswer, rfl⟩, ?_⟩).leads
        simp only [hanswer]
        exact leads_find fun _ hok => nomatch hok
    | ok result =>
        refine Ends.leads (Ends.bind (ends_set ?_))
        simp only [hanswer]
        exact ends_find rfl ⟨_, rfl, hgranted result hanswer⟩
  · exact lockAny_leads hd hp h rules

end Course

/-! ### Operations -/

namespace Session

open Course

variable [Machine] {d : Desk} {f : FallingBlocks.Frame} {p : FallingBlocks.Piece}

/-- No movement fails, and the piece is where it is in the ordinary well. -/
theorem moving_ends (hd : On f d) (h : f.board.Matched)
    {move : Well → Except Fault (Well × Bool)} {dx dy turns : Int}
    (hmove : ∀ w : Well, move w = w.attempt (.int dx) (.int dy) (.int turns))
    {w : FallingBlocks.Well} {moved : Bool}
    (htry : f.attempt dx dy turns = .ok (w, moved)) :
    (moving move).Ends d fun answer d' =>
      answer = moved ∧ d.Leaves { f with toWell := w } d.supply [] d' := by
  have hraw := Well.attempt_ofOrdinary h dx dy turns
  rw [htry] at hraw
  obtain ⟨frame, supply, lastLock, logged, records⟩ := d
  cases hd
  refine Ends.bind (ends_get (Ends.bind (ends_find ((hmove _).trans hraw) ?_)))
  exact Ends.bind (ends_change (ends_pure
    ⟨rfl, rfl, rfl, rfl, rfl, fun _ => (List.append_nil _).symm⟩))

/-- After the lock only the end of the game is left to be told, and that does not fail. -/
theorem locking_leads (hd : On f d) (hp : f.piece = some p) (h : f.board.Matched)
    (rules : FallingBlocks.Rules) : (locking (.ofOrdinary rules)).Leads d fun _ => HasPiece := by
  refine Leads.finish ((lock_leads hd hp h rules).mono fun result d' hleft => ?_)
  obtain ⟨g, hg, hpiece⟩ := hleft
  refine Ends.bind (ends_modify (Ends.bind (ends_get ?_)))
  dsimp only
  split
  · have hrecord := endedRecord_ofOrdinary g
    rw [← hg] at hrecord
    exact ends_log hrecord fun _ _ => ⟨g, hg, hpiece⟩
  · exact ends_pure ⟨g, hg, hpiece⟩

theorem softDrop_leads (hd : On f d) (hp : f.piece = some p) (h : f.board.Matched)
    (rules : FallingBlocks.Rules) : (softDrop (.ofOrdinary rules)).Leads d fun _ => HasPiece := by
  obtain ⟨q, moved, htry⟩ := FallingBlocks.Well.exists_attempt h.size hp 0 1 0
  refine Leads.bind ((moving_ends hd h (fun _ => rfl) htry).leads.mono fun moved d' hmoved =>
    ⟨hmoved.2.untouched, ?_⟩)
  obtain ⟨-, hmoved⟩ := hmoved
  split
  · exact (ends_pure ⟨_, hmoved.frame, rfl⟩).leads
  · exact Leads.finish ((locking_leads hmoved.frame rfl h rules).mono
      fun _ _ hleft => ends_pure hleft)

theorem hardDrop_leads (hd : On f d) (hp : f.piece = some p) (h : f.board.Matched)
    (rules : FallingBlocks.Rules) : (hardDrop (.ofOrdinary rules)).Leads d fun _ => HasPiece := by
  obtain ⟨q, rows, hfall⟩ : ∃ q rows, f.drop = ({ f.toWell with piece := some q }, .ok rows) :=
    ⟨_, _, FallingBlocks.Well.drop_eq h.size hp⟩
  have hdrop := Well.drop_ofOrdinary h hp
  rw [hfall] at hdrop
  obtain ⟨frame, supply, lastLock, logged, records⟩ := d
  cases hd
  refine Leads.bind (ends_get ⟨.refl _, ?_⟩).leads
  refine Leads.bind (ends_change ⟨⟨rfl, rfl⟩, ?_⟩).leads
  refine Leads.bind (ends_find (congrArg Prod.snd hdrop) ⟨.refl _, ?_⟩).leads
  refine Leads.finish ((locking_leads (f := { f with piece := some q }) ?_ rfl h rules).mono
    fun _ _ hleft => ends_pure hleft)
  exact congrArg (fun w => ({ Frame.ofOrdinary f with toWell := w } : Frame))
    (congrArg Prod.fst hdrop)

end Session

end FallingBlocks.Raw
