/-
Services on values.

A service with settings and rules that nobody has checked reads what is stored under them,
plays on it and writes it back within the usual limits.  Where the settings are those of a
configuration whose board fits the machine, it is the service of that configuration: what is
read is read alike, what is played agrees, and a snapshot has changed on one side if it has
changed on the other.  So it plays one long game as well.
-/
import FallingBlocks.Proofs.Raw.Agreement
import FallingBlocks.Proofs.Raw.Loading
import FallingBlocks.Proofs.Service
import FallingBlocks.Raw.Service

namespace FallingBlocks

/-! ### Snapshots that are the same -/

namespace Document

theorem same_int (m n : Int) : (int m).same (int n) = (m == n) := sameNumber_int m n

theorem same_bool (a b : Bool) : (bool a).same (bool b) = (a == b) := by
  cases a <;> cases b <;> rfl

theorem sameItems_map_int (ms ns : List Int) :
    sameItems (ms.map .int) (ns.map .int) = (ms == ns) := by
  induction ms generalizing ns with
  | nil => cases ns <;> rfl
  | cons m ms ih =>
      cases ns with
      | nil => rfl
      | cons n ns =>
          rw [List.map_cons, List.map_cons, sameItems, same_int, ih]
          rfl

end Document

theorem Piece.same_toDocument (p q : Piece) :
    p.toDocument.same q.toDocument = decide (p = q) := by
  have hletter : (Text.ofString (String.singleton p.shape.letter) ==
      Text.ofString (String.singleton q.shape.letter)) = decide (p.shape = q.shape) := by
    cases p.shape <;> cases q.shape <;> rfl
  have hfields : p.toDocument.same q.toDocument =
      (Document.same (.text (String.singleton p.shape.letter))
        (.text (String.singleton q.shape.letter)) &&
      (Document.same (.int p.x) (.int q.x) && (Document.same (.int p.y) (.int q.y) &&
        (Document.same (.int p.rotation) (.int q.rotation) && true)))) := rfl
  rw [hfields, Document.same_int, Document.same_int, Document.same_int, Document.same, hletter]
  obtain ⟨⟩ := p
  obtain ⟨⟩ := q
  rw [Bool.eq_iff_iff]
  simp

/-- The documents of two snapshots are the same value if the snapshots are the same. -/
theorem Snapshot.same_toDocument (s t : Snapshot) :
    s.toDocument.same t.toDocument = decide (s = t) := by
  have hfields : s.toDocument.same t.toDocument =
      (Document.sameItems (s.board.map .int) (t.board.map .int) &&
      (s.current.toDocument.same t.current.toDocument &&
      (s.next.toDocument.same t.next.toDocument &&
      (Document.same (.int s.score) (.int t.score) &&
      (Document.same (.int s.level) (.int t.level) &&
      (Document.same (.int s.linesCleared) (.int t.linesCleared) &&
      (Document.same (.bool s.gameOver) (.bool t.gameOver) && true))))))) := rfl
  rw [hfields, Document.sameItems_map_int, Piece.same_toDocument, Piece.same_toDocument,
    Document.same_int, Document.same_int, Document.same_int, Document.same_bool]
  obtain ⟨⟩ := s
  obtain ⟨⟩ := t
  rw [Bool.eq_iff_iff]
  simp

namespace Service

variable {v : Service}

/-- What is in the store has passed the reader's checks. -/
theorem accepted_of_load {snap : Snapshot} (h : v.load = .ok snap) : snap.Accepted v.config := by
  unfold load at h
  split at h
  · exact nomatch h
  · exact nomatch h
  · exact Snapshot.accepted_of_load (except_mapError_eq_ok.mp h)

/-- What a service is set up with. -/
structure Keeps (v w : Service) : Prop where
  config : w.config = v.config
  rules : w.rules = v.rules
  limits : w.limits = v.limits

theorem commit_keeps (supply : Supply) (after : Snapshot) (a : Session.Answer)
    (events onSave : List Event) :
    v.Keeps (commit { v with supply } after a events onSave).service := by
  unfold commit
  split <;> exact ⟨rfl, rfl, rfl⟩

/-- No command changes what the service is set up with. -/
theorem perform_keeps (command : Session.Command) : v.Keeps (v.perform command).service := by
  by_cases hstart : command = .start
  · subst hstart
    exact commit_keeps ..
  · rw [perform_of_ne_start hstart, apply]
    split
    · exact ⟨rfl, rfl, rfl⟩
    · dsimp only
      split
      · exact ⟨rfl, rfl, rfl⟩
      · exact ⟨rfl, rfl, rfl⟩
      · split
        · exact ⟨rfl, rfl, rfl⟩
        · exact commit_keeps ..

end Service

namespace Raw.Service

variable {v : FallingBlocks.Service}

/-- An ordinary service as raw values. -/
def ofOrdinary (v : FallingBlocks.Service) : Service :=
  { store := v.store
    settings := .ofConfig v.config
    rules := .ofOrdinary v.rules
    supply := v.supply }

/-- The fault of an ordinary service. -/
def faultOf : FallingBlocks.Service.Fault → Fault
  | .store fault => .store fault
  | .snapshot fault => .game (faultOfSnapshot fault)
  | .session fault => .game (Session.faultOf fault)

/-- The turn of an ordinary service, value for value. -/
structure Turn.Agrees (t : Turn) (u : FallingBlocks.Service.Turn) : Prop where
  service : t.service = ofOrdinary u.service
  answer : t.answer = (u.answer.mapError faultOf).map .ofOrdinary
  saved : t.saved = u.saved

/-- What is written is written alike. -/
theorem commit_agrees (hlimits : v.limits = .usual) (after : FallingBlocks.Snapshot)
    (a : FallingBlocks.Session.Answer) (records onSave : List Log.Record)
    (events more : List Event) :
    ((ofOrdinary v).commit (.ofOrdinary after) (.ofOrdinary a) records onSave).Agrees
      (v.commit after a events more) := by
  unfold commit FallingBlocks.Service.commit
  rw [hlimits, Snapshot.toDocument_ofOrdinary]
  have hstore : (ofOrdinary v).store = v.store := rfl
  rw [hstore]
  generalize v.store.saveWithin .usual after.toDocument = saved
  obtain ⟨store, outcome⟩ := saved
  cases outcome <;> exact ⟨rfl, rfl, rfl⟩

variable [Machine]

section Operations

variable (hlimits : v.limits = .usual) (hfits : v.config.Fits)

include hlimits hfits

/-- What is read is read alike. -/
theorem load_ofOrdinary : (ofOrdinary v).load = v.load.mapError faultOf := by
  unfold load FallingBlocks.Service.load
  rw [hlimits]
  have hstore : (ofOrdinary v).store = v.store := rfl
  have hload (d : Document) : Raw.load (ofOrdinary v).settings d =
      (FallingBlocks.Snapshot.load v.config d).mapError faultOfSnapshot :=
    load_ofConfig hfits.width d
  rw [hstore]
  cases v.store.loadWithin .usual with
  | error fault => rfl
  | ok d =>
      cases d with
      | null => rfl
      | _ =>
          simp only [hload]
          cases FallingBlocks.Snapshot.load v.config _ <;> rfl

theorem start_agrees : (ofOrdinary v).start.Agrees v.start := by
  obtain ⟨hsession, hanswer, -⟩ : (Session.ofOrdinary (v.sessionOn none) false).start.Agrees
      (v.sessionOn none).start .ofOrdinary false := Session.start_agrees hfits
  have hon : (ofOrdinary v).sessionOn none = .ofOrdinary (v.sessionOn none) false := rfl
  unfold start FallingBlocks.Service.start
  rw [hon]
  simp only [hsession, hanswer]
  exact commit_agrees (v := { v with supply := (v.sessionOn none).start.session.supply }) hlimits
    _ (.snapshot _) _ _ _ _

theorem apply_agrees (command : FallingBlocks.Session.Command) :
    ((ofOrdinary v).apply command).Agrees (v.apply command) := by
  unfold apply FallingBlocks.Service.apply
  rw [load_ofOrdinary hlimits hfits]
  cases hload : v.load with
  | error fault => exact ⟨rfl, rfl, rfl⟩
  | ok before =>
      have haccepted (snap : FallingBlocks.Snapshot) (hsnap : some before = some snap) :
          snap.Accepted v.config := by
        cases hsnap
        exact FallingBlocks.Service.accepted_of_load hload
      obtain ⟨hsession, hanswer, -⟩ :
          ((Session.ofOrdinary (v.sessionOn (some before)) false).perform command).Agrees
            ((v.sessionOn (some before)).perform command) .ofOrdinary false :=
        Session.perform_agrees hfits haccepted command
      have hon : (ofOrdinary v).sessionOn (some (.ofOrdinary before)) =
          .ofOrdinary (v.sessionOn (some before)) false := rfl
      simp only [Except.mapError, hon, hsession, hanswer]
      generalize (v.sessionOn (some before)).perform command = t
      obtain ⟨⟨config, rules, supply, lastLock, snapshot⟩, answer, events⟩ := t
      cases answer with
      | error fault => exact ⟨rfl, rfl, rfl⟩
      | ok a =>
          cases snapshot with
          | none => exact ⟨rfl, rfl, rfl⟩
          | some after =>
              have hsame : (Snapshot.ofOrdinary after).same (.ofOrdinary before) =
                  decide (after = before) := FallingBlocks.Snapshot.same_toDocument after before
              change Turn.Agrees
                (if (Snapshot.ofOrdinary after).same (.ofOrdinary before) = true then _ else _)
                (if after = before then _ else _)
              rw [hsame]
              by_cases hkept : after = before
              · rw [if_pos hkept, if_pos (decide_eq_true hkept)]
                exact ⟨rfl, rfl, rfl⟩
              · rw [if_neg hkept, if_neg (decide_eq_true_iff.not.mpr hkept)]
                exact commit_agrees (v := { v with supply }) hlimits _ _ _ _ _ _

/-- **A command of an ordinary service is answered alike by the service of its values.** -/
theorem perform_agrees (command : FallingBlocks.Session.Command) :
    ((ofOrdinary v).perform command).Agrees (v.perform command) := by
  by_cases hstart : command = .start
  · subst hstart
    rw [perform, if_pos rfl]
    exact start_agrees hlimits hfits
  · rw [perform, if_neg hstart, FallingBlocks.Service.perform_of_ne_start hstart]
    exact apply_agrees hlimits hfits command

end Operations

/-! ### Runs -/

/-- The service after a list of commands, whether or not they were granted. -/
def after (w : Service) (commands : List FallingBlocks.Session.Command) : Service :=
  commands.foldl (fun w command => (w.perform command).service) w

/-- All the commands of a list are granted, one after the other. -/
def Grants (w : Service) : List FallingBlocks.Session.Command → Prop
  | [] => True
  | c :: rest => (∃ a, (w.perform c).answer = .ok a) ∧ (w.perform c).service.Grants rest

section Running

variable (hlimits : v.limits = .usual) (hfits : v.config.Fits)

include hlimits hfits

/-- After any commands the service is still that of the values. -/
theorem after_ofOrdinary (commands : List FallingBlocks.Session.Command) :
    (ofOrdinary v).after commands = ofOrdinary (v.after commands) := by
  induction commands generalizing v with
  | nil => rfl
  | cons command rest ih =>
      have hkeeps := v.perform_keeps command
      show ((ofOrdinary v).perform command).service.after rest = _
      rw [(perform_agrees hlimits hfits command).service]
      exact ih (hkeeps.limits.trans hlimits) (hkeeps.config.symm ▸ hfits)

theorem grants_ofOrdinary (commands : List FallingBlocks.Session.Command) :
    (ofOrdinary v).Grants commands ↔ v.Grants commands := by
  induction commands generalizing v with
  | nil => exact Iff.rfl
  | cons command rest ih =>
      have hkeeps := v.perform_keeps command
      have hagrees := perform_agrees hlimits hfits command
      have hanswer : (∃ a, ((ofOrdinary v).perform command).answer = .ok a) ↔
          ∃ a, (v.perform command).answer = .ok a := by
        rw [hagrees.answer]
        cases (v.perform command).answer <;> simp [Except.map, Except.mapError]
      rw [Grants, FallingBlocks.Service.Grants, hanswer, hagrees.service,
        ih (hkeeps.limits.trans hlimits) (hkeeps.config.symm ▸ hfits)]

/--
**The service of the values plays as one session that goes on.**  After any commands that were
all granted, the next one draws the shapes that the session draws.  Either it is answered as the
session answers it, and the snapshot of the session is what will be read next.  Or this snapshot
has more digits than can be written, and the store stays as it was.
-/
theorem serves_one_session (hv : v.Playable) {first : Option FallingBlocks.Snapshot}
    (hstores : v.Stores first) (earlier : List FallingBlocks.Session.Command)
    (command : FallingBlocks.Session.Command)
    (hfirst : first = none → (earlier ++ [command]).head? = some .start)
    (hgranted : (ofOrdinary v).Grants earlier) :
    let now := (ofOrdinary v).after earlier
    let s := (v.sessionOn first).after (earlier.map .command)
    let t := now.perform command
    ∃ answer last,
      (s.perform command).answer = .ok answer ∧
      (s.perform command).session.snapshot = some last ∧
      t.service.supply = (s.perform command).session.supply ∧
      (t.answer = .ok (.ofOrdinary answer) ∧ t.service.load = .ok last ∨
        t.answer = .error (.store .tooManyDigits) ∧ t.service.store = now.store ∧
          last.toDocument.hasTooLong .usual = true) := by
  intro now s t
  have htracks : FallingBlocks.Service.Tracks v (v.sessionOn first) := ⟨rfl, hstores⟩
  obtain ⟨hnow, hconfig, hrules, hkept, hbegun⟩ := htracks.after hv hfirst
    ((grants_ofOrdinary hlimits hfits earlier).mp hgranted)
  have hplayable : (v.after earlier).Playable :=
    ⟨hconfig ▸ hv.width, hconfig ▸ hv.row, hrules ▸ hv.scores, hkept ▸ hv.depth⟩
  have husual := hkept.trans hlimits
  have hroom : (v.after earlier).config.Fits := hconfig ▸ hfits
  have hagrees : t.Agrees ((v.after earlier).perform command) := by
    show (((ofOrdinary v).after earlier).perform command).Agrees _
    rw [after_ofOrdinary hlimits hfits]
    exact perform_agrees husual hroom command
  obtain ⟨answer, last, hanswer, hlast, hsupply, houtcome⟩ := hnow.perform hplayable hbegun
  refine ⟨answer, last, hanswer, hlast, ?_, ?_⟩
  · rw [hagrees.service]
    exact hsupply
  · rcases houtcome with ⟨hsame, -, hafter⟩ | ⟨hrefused, hstore, -, hlong⟩
    · refine .inl ⟨?_, ?_⟩
      · rw [hagrees.answer, hsame]
        rfl
      · have hkeeps := (v.after earlier).perform_keeps command
        have hstored := hafter.stores
        rw [hlast] at hstored
        obtain ⟨d, -, hread, hload⟩ := hstored
        rw [hagrees.service, load_ofOrdinary (hkeeps.limits.trans husual)
          (hkeeps.config.symm ▸ hroom), FallingBlocks.Service.load_eq hread hload]
        rfl
    · refine .inr ⟨?_, ?_, husual ▸ hlong⟩
      · rw [hagrees.answer, hrefused]
        rfl
      · rw [hagrees.service]
        show ((v.after earlier).perform command).service.store = _
        rw [hstore]
        show _ = ((ofOrdinary v).after earlier).store
        rw [after_ofOrdinary hlimits hfits]
        rfl

end Running

end Raw.Service

end FallingBlocks
