/-
No request leaves a complete row, and no lock takes out more rows than the piece has.

The level rule takes for granted that a lock clears four lines at most, and nothing in the
program checks it.  It is true because the board of a session never has a complete row when
an operation begins: then the rows that the operation clears are rows of the piece that it
locks.
-/
import FallingBlocks.Proofs.Counters
import FallingBlocks.Proofs.Drawing

namespace FallingBlocks

/-! ### Masks -/

/-- A snapshot whose position has no complete row holds no full mask. -/
theorem Snapshot.ne_full {c : Config} {snap : Snapshot} (htidy : snap.Tidy c)
    (h : (snap.position c).Unfinished c) : ∀ m ∈ snap.board, m ≠ 2 ^ c.width.toNat - 1 := by
  intro m hm hfull
  have hcount := Board.card_completed (b := snap.boardIn c) htidy
  have hnone : ((snap.boardIn c).pile.completed c.width c.height).card = 0 :=
    Finset.card_eq_zero.mpr h.noneComplete
  have hnot := List.countP_eq_zero.mp (hcount.symm.trans hnone) m hm
  refine hnot (beq_iff_eq.mpr (hfull.trans ?_))
  show (2 : Int) ^ c.width.toNat - 1 = (2 ^ c.width.toNat : Nat) - 1
  rw [Int.natCast_pow]
  rfl

/-- Which piece a command brings to rest is the same in the well and on the pile. -/
theorem Snapshot.rested?_thaw {c : Config} {snap : Snapshot} (htidy : snap.Tidy c)
    (command : Session.Command) :
    (snap.thaw c).toWell.rested? command = (snap.position c).rested? c command := by
  have hsoft : (snap.thaw c).toWell.rested? .softDrop = (snap.position c).rested? c .softDrop := by
    simp only [Well.rested?, Position.rested?, Well.softDrop]
    by_cases h : (snap.position c).Admits c (snap.current.moved 0 1 0)
    · rw [attempt_of_admits htidy h]
      exact (if_pos h).symm
    · rw [attempt_of_blocked htidy h]
      exact (if_neg h).symm
  cases command with
  | softDrop => exact hsoft
  | tick => exact hsoft
  | hardDrop =>
      simp only [Well.rested?, Position.rested?, drop_thaw htidy]
      rfl
  | _ => rfl

namespace Session

variable {s : Session} {r : Request} {before : Snapshot} {p : Piece}

/-- The piece that a request brings to rest: none if no game is on or the piece only moves. -/
def rested? (s : Session) (r : Request) : Option Piece :=
  match s.snapshot with
  | none => none
  | some before =>
      if before.gameOver then none
      else r.command?.bind (before.thaw s.config).toWell.rested?

theorem rested?_running (h : s.rested? r = some p) :
    ∃ before, s.snapshot = some before ∧ before.gameOver = false ∧
      ∃ command, r.command? = some command ∧
        (before.thaw s.config).toWell.rested? command = some p := by
  unfold rested? at h
  split at h
  · exact nomatch h
  · rename_i before hsnap
    split at h
    · exact nomatch h
    · rename_i hover
      obtain ⟨command, hcommand, hp⟩ := Option.bind_eq_some_iff.mp h
      exact ⟨before, hsnap, Bool.eq_false_iff.mpr hover, command, hcommand, hp⟩

theorem rested?_of_running (hsnap : s.snapshot = some before) (hover : before.gameOver = false)
    (r : Request) : s.rested? r = r.command?.bind (before.thaw s.config).toWell.rested? := by
  simp [rested?, hsnap, hover]

/-- On a set of cells a request that brings the piece to rest locks it there. -/
theorem submit_settles (htidy : s.Tidy) (hsnap : s.snapshot = some before)
    (h : s.rested? r = some p) :
    (s.cellGame.submit r).Settles s.cellGame (before.position s.config) p := by
  obtain ⟨before', hsnap', hover, command, hcommand, hp⟩ := rested?_running h
  rw [hsnap] at hsnap'
  cases hsnap'
  have hx := cellGame_position hsnap
  rw [Snapshot.rested?_thaw (htidy before hsnap)] at hp
  cases r with
  | command c =>
      cases hcommand
      exact CellGame.perform_settles hx hover hp
  | step request =>
      cases request with
      | error fault => cases hcommand
      | ok action =>
          cases hcommand
          exact CellGame.step_settles hx hover hp

/-- Beginning a new game brings nothing to rest. -/
theorem ne_start_of_rested? (h : s.rested? r = some p) : r ≠ .command .start := by
  rintro rfl
  obtain ⟨_, _, _, _, hcommand, hp⟩ := rested?_running h
  cases hcommand
  exact nomatch hp

/-! ### Accounts of locks -/

/-- An operation that comes to no lock keeps the account of the last one. -/
theorem run_keeps {α : Type} {idle : α} {op : Frame → Effect α}
    (h : ∀ before, s.snapshot = some before → before.gameOver = false →
      (op (before.thaw s.config)).lastLock = s.lastLock) :
    (s.run idle op).session.lastLock = s.lastLock := by
  unfold run
  split
  · rfl
  · rename_i before hsnap
    split
    · rfl
    · rename_i hover
      have hkept := h before hsnap (Bool.eq_false_iff.mpr hover)
      simp only
      split
      · exact hkept
      · exact hkept

theorem move_keeps (m : Well → Except Board.Fault (Well × Bool)) :
    (s.move m).session.lastLock = s.lastLock := by
  refine run_keeps fun before _ _ => ?_
  split
  · rfl
  · rfl

theorem softDrop_keeps (h : s.rested? (.command .softDrop) = none) :
    s.softDrop.session.lastLock = s.lastLock := by
  refine run_keeps fun before hsnap hover => ?_
  rw [rested?_of_running hsnap hover, Request.command?, Option.bind_some, Well.rested?] at h
  split
  · rfl
  · rfl
  · rename_i hblocked
    rw [hblocked] at h
    exact absurd h (Option.some_ne_none _)

theorem perform_keeps (htidy : s.Tidy) {command : Command} (hstart : command ≠ .start)
    (h : s.rested? (.command command) = none) :
    (s.perform command).session.lastLock = s.lastLock := by
  cases command with
  | start => exact absurd rfl hstart
  | look => exact congrArg Session.lastLock (look_session s)
  | moveLeft => exact move_keeps _
  | moveRight => exact move_keeps _
  | rotate => exact move_keeps _
  | softDrop => exact softDrop_keeps h
  | hardDrop =>
      refine run_keeps fun before hsnap hover => ?_
      rw [rested?_of_running hsnap hover, Request.command?, Option.bind_some,
        Snapshot.rested?_thaw (htidy before hsnap)] at h
      exact absurd h (Option.some_ne_none _)
  | tick => exact (congrArg Session.lastLock (tick_session s)).trans (softDrop_keeps h)

/-- **Where no piece comes to rest, no lock is reported**: the last account stays or is gone. -/
theorem lastLock_of_rested?_none (htidy : s.Tidy) (h : s.rested? r = none) :
    (s.submit r).session.lastLock = s.lastLock ∨ (s.submit r).session.lastLock = none := by
  cases r with
  | command command =>
      by_cases hstart : command = .start
      · subst hstart
        exact Or.inr rfl
      · exact Or.inl (perform_keeps htidy hstart h)
  | step request =>
      show (s.step request).session.lastLock = _ ∨ (s.step request).session.lastLock = none
      cases hsnap : s.snapshot with
      | none => exact Or.inl (by rw [step_none hsnap])
      | some before =>
          cases hover : before.gameOver with
          | true => exact Or.inl (by rw [step_over hsnap hover])
          | false =>
              cases request with
              | error fault => exact Or.inr (by rw [step_refused hsnap hover])
              | ok action =>
                  have hkept : ({ s with lastLock := none }.perform
                      (commandOf action)).session.lastLock = none :=
                    perform_keeps (s := { s with lastLock := none }) htidy (commandOf_ne_start action) h
                  rw [step_action hsnap hover]
                  refine Or.inr ?_
                  simp only [Turn.andThen]
                  split
                  · exact hkept
                  · exact (congrArg Session.lastLock (look_session _)).trans hkept

/--
A piece that comes to rest is locked, with an account that credits rows of the piece only;
or the operation is refused, and nothing but the account of an earlier lock is gone.
-/
theorem lock_of_rested? (hs : s.Sound) (hsnap : s.snapshot = some before)
    (hx : (before.position s.config).Unfinished s.config) (h : s.rested? r = some p) :
    (∃ reply lock, (s.submit r).answer = .ok reply ∧
        (s.submit r).session.lastLock = some lock ∧
        Position.Accounts s.rules before.level p lock) ∨
      ∃ fault lock, (s.submit r).answer = .error fault ∧ (lock = s.lastLock ∨ lock = none) ∧
        (s.submit r).session = { s with lastLock := lock } := by
  rcases submit_follows hs.tidy hs.seated (ne_start_of_rested? h) with ⟨hmirrors, -⟩ | hstuck
  · refine Or.inl ?_
    obtain ⟨hsettled, a, hgranted⟩ := submit_settles hs.tidy hsnap h
    have hlock := congrArg CellGame.lastLock (hmirrors.game.trans hsettled)
    have hlanding : { before.position s.config with current := p }.Unfinished s.config :=
      ⟨hx.onBoard, hx.noneComplete⟩
    cases hanswer : (s.submit r).answer with
    | error fault =>
        have hseen := hmirrors.answer
        rw [hanswer, hgranted] at hseen
        exact nomatch hseen
    | ok reply => exact ⟨reply, _, rfl, hlock, hlanding.accounts s.supply⟩
  · obtain ⟨fault, hfault⟩ := hstuck.fault
    obtain ⟨lock, hlock, hkept⟩ := hstuck.kept
    exact Or.inr ⟨_, lock, hfault, hlock, hkept⟩

/--
**Whatever has been asked for, no row of the board is complete, and a lock takes out no
more lines than the piece has rows, four at the most.**  What the score table is asked for
is the number of lines that the lock reports; an operation that is refused instead has not
come that far.  An operation that brings no piece to rest reports no lock of its own.
-/
theorem lines_of_lock (s : Session) (requests : List Request) :
    let t := s.start.session.after requests
    ∃ snap, t.snapshot = some snap ∧
      (∀ m ∈ snap.board, m ≠ 2 ^ s.config.width.toNat - 1) ∧
      (∀ r, t.rested? r = none → (t.submit r).session.lastLock = t.lastLock ∨
        (t.submit r).session.lastLock = none) ∧
      ∀ r p, t.rested? r = some p →
        (∃ reply lock, (t.submit r).answer = .ok reply ∧
          (t.submit r).session.lastLock = some lock ∧
          0 ≤ lock.linesCleared ∧ lock.linesCleared ≤ p.rows.card ∧ p.rows.card ≤ 4 ∧
          lock.scoreDelta = s.rules.scoreForLines lock.linesCleared snap.level) ∨
        ∃ fault lock, (t.submit r).answer = .error fault ∧ (lock = t.lastLock ∨ lock = none) ∧
          (t.submit r).session = { t with lastLock := lock } := by
  intro t
  have hbegun := sound_start s
  have hempty : s.start.session.cellGame.Unfinished := by
    rw [start_game]
    exact CellGame.unfinished_start s.cellGame
  obtain ⟨hsound, ⟨x, hposition, hx⟩, hrules⟩ := after_invariant
    (P := fun g => g.Unfinished ∧ g.rules = s.rules) requests
    (fun _ g hg => ⟨CellGame.unfinished_start g, hg.2⟩)
    (fun _ _ hg hstep => ⟨hstep.unfinished hg.1, hstep.rules_eq.trans hg.2⟩) hbegun ⟨hempty, rfl⟩
  obtain ⟨snap, hsnap, rfl⟩ := Option.map_eq_some_iff.mp hposition
  have hconfig : t.config = s.config := after_config hbegun requests
  have hmasks := Snapshot.ne_full (hsound.tidy snap hsnap) hx
  refine ⟨snap, hsnap, hconfig ▸ hmasks, fun r => lastLock_of_rested?_none hsound.tidy,
    fun r p hp => ?_⟩
  rcases lock_of_rested? hsound hsnap hx hp with ⟨reply, lock, hgranted, hlock, haccount⟩ | hrefused
  · have hscore := haccount.score
    rw [show t.rules = s.rules from hrules] at hscore
    exact Or.inl ⟨reply, lock, hgranted, hlock, haccount.nonneg, haccount.ofPiece,
      p.card_rows_le, hscore⟩
  · exact Or.inr hrefused

/-- The last of four upright pieces on four columns takes out all four rows that it has. -/
theorem lines_of_lock_upright :
    let s : Session :=
      { config := { width := 4, height := 8 }
        rules := { linesPerLevel := 4 }
        supply := .cycle .I [] }
    let t := s.start.session.after fourColumns.dropLast
    ∃ p lock, t.rested? (.step (.ok .hardDrop)) = some p ∧
      (t.submit (.step (.ok .hardDrop))).session.lastLock = some lock ∧
      lock.linesCleared = p.rows.card ∧ p.rows.card = 4 ∧ lock.scoreDelta = 800 := by
  intro s t
  have hrested : t.rested? (.step (.ok .hardDrop)) =
      some { shape := .I, x := 2, y := 5, rotation := 1 } := by decide +kernel
  have haccount : (t.submit (.step (.ok .hardDrop))).session.lastLock.map
      (fun lock => (lock.linesCleared, lock.scoreDelta)) = some (4, 800) := by decide +kernel
  obtain ⟨snap, hsnap, -, -, hlines⟩ := lines_of_lock s fourColumns.dropLast
  rcases hlines _ _ hrested with
    ⟨reply, lock, -, hlock, -, hfew, hfour, -⟩ | ⟨fault, lock, hfault, -⟩
  · rw [hlock, Option.map_some, Option.some.injEq, Prod.mk.injEq] at haccount
    exact ⟨_, lock, hrested, hlock, by omega, by omega, haccount.2⟩
  · have hgranted : (t.submit (.step (.ok .hardDrop))).answer.isOk = true := by decide +kernel
    rw [hfault] at hgranted
    exact nomatch hgranted

end Session

end FallingBlocks
