/-
What is left when a service refuses.

A service reads, plays and writes, in this order.  What it reads has been checked, so that
playing on it loses nothing when it is refused.  A document in memory is replaced as a whole
or not at all.  Only one thing is not taken back: a command that was played to its end has
drawn its shapes, and if the store then refuses the outcome, for a whole number with too many
digits, they are gone.
-/
import FallingBlocks.Proofs.Raw.Atomicity
import FallingBlocks.Proofs.Raw.Loading
import FallingBlocks.Proofs.Service
import FallingBlocks.Raw.Service

namespace FallingBlocks

namespace Raw

/-! ### Services -/

namespace Service

/-- What a service plays when it is given a command: a new game, or the game in its store. -/
inductive Plays [Machine] (v : Service) :
    FallingBlocks.Session.Command → Session.Turn Session.Answer → Prop
  | started : Plays v .start ((v.sessionOn none).start.map .snapshot)
  | resumed {command : FallingBlocks.Session.Command} {before : FallingBlocks.Snapshot}
      (hcommand : command ≠ .start) (hload : v.load = .ok before) :
      Plays v command ((v.sessionOn (some (.ofOrdinary before))).perform command)

/--
The command was played, but the store refuses the snapshot it led to, for a whole number with
too many digits.  The shapes that were drawn are gone.
-/
structure Unwritten [Machine] (v : Service) (command : FallingBlocks.Session.Command) (t : Turn) :
    Prop where
  fault : t.answer = .error (.store .tooManyDigits)
  played : ∃ (played : Session.Turn Session.Answer) (a : Session.Answer) (after : Snapshot),
    Plays v command played ∧ played.answer = .ok a ∧ played.session.snapshot = some after ∧
      after.toDocument.hasTooLong .usual = true ∧ t.service.supply = played.session.supply

variable [Machine] {v : Service} {data : Document} {fault : Fault}
  {command : FallingBlocks.Session.Command} {rules : FallingBlocks.Rules}

omit [Machine] in
/-- A store in memory refuses nothing but numbers with too many digits. -/
theorem commit_refused {after : Snapshot} {a : Session.Answer} {records onSave : List Log.Record}
    (h : (v.commit after a records onSave).answer = .error fault)
    (hstore : v.store = .memory data) :
    (v.commit after a records onSave).service = v ∧ fault = .store .tooManyDigits ∧
      after.toDocument.hasTooLong .usual = true := by
  rw [commit, hstore, Store.saveWithin_memory] at h ⊢
  cases hlong : after.toDocument.hasTooLong .usual with
  | true =>
      rw [hlong, if_pos rfl] at h
      rw [if_pos rfl]
      cases h
      exact ⟨by rw [← hstore], rfl, rfl⟩
  | false =>
      rw [hlong, if_neg Bool.false_ne_true] at h
      cases h

/-- A command that was played and could not be saved. -/
theorem unwritten_of_commit {played : Session.Turn Session.Answer} {a : Session.Answer}
    {after : Snapshot} {records onSave : List Log.Record} (hstore : v.store = .memory data)
    (hplays : Plays v command played) (hanswer : played.answer = .ok a)
    (hafter : played.session.snapshot = some after)
    (h : (commit { v with supply := played.session.supply } after a records onSave).answer =
      .error fault) :
    (commit { v with supply := played.session.supply } after a records onSave).service.store =
        v.store ∧
      Unwritten v command
        (commit { v with supply := played.session.supply } after a records onSave) := by
  obtain ⟨hservice, rfl, hlong⟩ := commit_refused h hstore
  refine ⟨by rw [hservice], h, played, a, after, hplays, hanswer, hafter, hlong, ?_⟩
  rw [hservice]

theorem start_refused (hstore : v.store = .memory data) (h : v.start.answer = .error fault) :
    v.start.service.store = v.store ∧
      (v.start.service.supply = v.supply ∨ Unwritten v .start v.start) := by
  unfold start at h ⊢
  dsimp only at h ⊢
  split at h
  · rename_i fault' hfault
    rw [(v.sessionOn none).start_atomic fault' hfault]
    exact ⟨rfl, .inl rfl⟩
  · rename_i snapshot hsnapshot
    have hstarted := unwritten_of_commit hstore .started
      (congrArg (Except.map Session.Answer.snapshot) hsnapshot)
      (Session.snapshot_of_start hsnapshot) h
    exact ⟨hstarted.1, .inr hstarted.2⟩

theorem rows_of_stored {before : FallingBlocks.Snapshot} (h : v.load = .ok before) :
    v.settings.height.sameNumber (.int before.board.length) = true := by
  unfold load at h
  split at h
  · exact nomatch h
  · exact nomatch h
  · exact rows_of_load (except_mapError_eq_ok.mp h)

theorem apply_refused (hstore : v.store = .memory data) (hrules : v.rules = .ofOrdinary rules)
    (hcommand : command ≠ .start) (h : (v.apply command).answer = .error fault) :
    (v.apply command).service.store = v.store ∧
      ((v.apply command).service.supply = v.supply ∨ Unwritten v command (v.apply command)) := by
  unfold apply at h ⊢
  split at h
  · exact ⟨rfl, .inl rfl⟩
  · rename_i before hload
    have hplays := Plays.resumed hcommand hload
    have hwhole : (v.sessionOn (some (.ofOrdinary before))).Whole := by
      refine ⟨⟨rules, hrules⟩, fun snap hsnap => ⟨before, ?_, rows_of_stored hload⟩⟩
      exact (Option.some.inj hsnap).symm
    dsimp only at h ⊢
    split at h
    · rename_i fault' hfault
      rw [Session.perform_atomic hwhole command fault' hfault]
      exact ⟨rfl, .inl rfl⟩
    · exact nomatch h
    · rename_i a after hanswer hafter
      split at h
      · exact nomatch h
      · rename_i hchanged
        rw [if_neg hchanged]
        have hresumed := unwritten_of_commit hstore hplays hanswer hafter h
        exact ⟨hresumed.1, .inr hresumed.2⟩

theorem perform_refused (hstore : v.store = .memory data) (hrules : v.rules = .ofOrdinary rules)
    (h : (v.perform command).answer = .error fault) :
    (v.perform command).service.store = v.store ∧
      ((v.perform command).service.supply = v.supply ∨
        Unwritten v command (v.perform command)) := by
  unfold perform at h ⊢
  by_cases hcommand : command = .start
  · subst hcommand
    exact start_refused hstore h
  · rw [if_neg hcommand] at h ⊢
    exact apply_refused hstore hrules hcommand h

end Service

/-! ### What a refusal leaves -/

/-- A session on a snapshot of whole numbers. -/
def sessionOn (c : Settings) (rules : FallingBlocks.Rules) (supply : Supply)
    (lastLock : Option LockResult) (logged : Bool) (snap : FallingBlocks.Snapshot) : Session where
  settings := c
  rules := .ofOrdinary rules
  supply := supply
  lastLock := lastLock
  snapshot := some (.ofOrdinary snap)
  logged := logged

end Raw

end FallingBlocks
