/-
A hard drop is a run of soft drops.

A hard drop lowers the piece in one frame and locks it there.  A soft drop lowers it by one
row, and puts frame and snapshot together again before the next.  Both come to the same:
nothing that the next row is decided by is lost in between, and the lock finds the same
board, counters and supply either way.  Gravity is a soft drop, so the same is true of ticks.

Of the snapshot no more is asked than that its board has the right number of rows.  The
masks may have any bits, and the piece may lie anywhere, in which case it does not descend
at all.  The descent is a loop without a bound of its own; what ends it is the floor.
-/
import FallingBlocks.Proofs.Drawing
import FallingBlocks.Proofs.Runs

namespace FallingBlocks

/-! ### The loop of a drop -/

namespace Well

/--
The loop that tries to lower the piece until that fails: `n` rows down from `w` it ends in
the last well.
-/
inductive Descends : Well → Nat → Well → Prop
  /-- There is no room one row further down. -/
  | rest {w : Well} (h : w.softDrop = .ok (w, false)) : Descends w 0 w
  /-- The piece is lowered, and the loop goes on. -/
  | lower {w lower bottom : Well} {n : Nat} (h : w.softDrop = .ok (lower, true))
      (below : Descends lower n bottom) : Descends w (n + 1) bottom

theorem softDrop_of_admits {w : Well} {p : Piece}
    (hsize : (w.board.rows.length : Int) = w.board.height) (hp : w.piece = some p)
    (h : w.board.pile.Admits w.board.width w.board.height (p.moved 0 1 0)) :
    w.softDrop = .ok ({ w with piece := some (p.moved 0 1 0) }, true) := by
  rw [softDrop, attempt_eq hsize hp, if_pos h]

theorem softDrop_of_blocked {w : Well} {p : Piece}
    (hsize : (w.board.rows.length : Int) = w.board.height) (hp : w.piece = some p)
    (h : ¬ w.board.pile.Admits w.board.width w.board.height (p.moved 0 1 0)) :
    w.softDrop = .ok (w, false) := by
  rw [softDrop, attempt_eq hsize hp, if_neg h]

/-- The loop ends where the piece falls to. -/
theorem descends_fall {b : Board} (hsize : (b.rows.length : Int) = b.height) (spawnY : Int)
    (p : Piece) :
    Descends ⟨b, some p, spawnY⟩ (b.pile.fall b.width b.height p).2
      ⟨b, some (b.pile.fall b.width b.height p).1, spawnY⟩ := by
  induction p using Pile.fall.induct b.pile b.width b.height with
  | case1 p hadmits ih =>
      rw [Pile.fall_of_admits hadmits]
      exact .lower (softDrop_of_admits hsize rfl hadmits) ih
  | case2 p hblocked =>
      rw [Pile.fall_of_blocked hblocked]
      exact .rest (softDrop_of_blocked hsize rfl hblocked)

end Well

/-! ### Snapshots on the way down -/

/-- Where a piece falls to on the board of a snapshot, and how many rows that takes. -/
def Snapshot.fall (s : Snapshot) (c : Config) (p : Piece) : Piece × Nat :=
  (s.boardIn c).pile.fall c.width c.height p

/-- The snapshot with its piece some rows further down. -/
def Snapshot.lowered (s : Snapshot) (rows : Nat) : Snapshot :=
  { s with current := { s.current with y := s.current.y + rows } }

theorem Snapshot.lowered_zero (s : Snapshot) : s.lowered 0 = s := by
  simp [lowered]

theorem Snapshot.lowered_lowered (s : Snapshot) (rows more : Nat) :
    (s.lowered rows).lowered more = s.lowered (rows + more) := by
  simp only [lowered, Snapshot.mk.injEq, Piece.mk.injEq, Nat.cast_add, true_and, and_true]
  omega

namespace Session

/-! ### One row, or the lock -/

/-- The session with a piece locked in a snapshot, if the lock succeeds with some account. -/
def lockedAt (s : Session) (before : Snapshot) (p : Piece) (account : LockResult) : Session :=
  let l := ({ before with current := p }.thaw s.config).lock s.rules s.supply
  { s with supply := l.supply, lastLock := some account, snapshot := l.frame.freeze }

/-- The lock of a piece in a snapshot succeeds with some account. -/
def Locks (s : Session) (before : Snapshot) (p : Piece) (account : LockResult) : Prop :=
  (({ before with current := p }.thaw s.config).lock s.rules s.supply).answer = .ok account

/-- A lock that succeeds leaves a snapshot. -/
theorem lockedAt_snapshot {s : Session} {before : Snapshot}
    (hsize : (before.board.length : Int) = s.config.height) {p : Piece} {account : LockResult}
    (h : s.Locks before p account) :
    ∃ final, (s.lockedAt before p account).snapshot = some final := by
  obtain ⟨-, hsettled⟩ := Frame.lock_settles (f := { before with current := p }.thaw s.config)
    s.rules s.supply rfl hsize
  have hpiece := hsettled account h
  obtain ⟨q, hq⟩ := Option.isSome_iff_exists.mp hpiece
  exact ⟨_, congrArg (Option.map _) hq⟩

section Running

variable {s : Session} {before : Snapshot} (hsnap : s.snapshot = some before)
  (hover : before.gameOver = false)
include hsnap hover

/-- An operation that comes to a lock is granted exactly if the lock succeeds. -/
theorem run_locks {α : Type} {idle a : α} {op : Frame → Effect α} {p : Piece}
    (hop : op (before.thaw s.config) = s.locking ({ before with current := p }.thaw s.config) a) :
    (∀ account, s.Locks before p account →
      (s.run idle op).answer = .ok a ∧ (s.run idle op).session = s.lockedAt before p account) ∧
    ∀ b, (s.run idle op).answer = .ok b → b = a ∧ ∃ account, s.Locks before p account := by
  rw [run_running hsnap hover, hop]
  unfold Locks
  cases hlock : (({ before with current := p }.thaw s.config).lock s.rules s.supply).answer with
  | error fault =>
      simp only [locking, hlock]
      refine ⟨fun account h => ?_, fun b h => ?_⟩
      · cases h
      · cases h
  | ok account =>
      simp only [locking, hlock]
      refine ⟨fun account' h => ?_, fun b h => ?_⟩
      · cases h
        exact ⟨trivial, rfl⟩
      · cases h
        exact ⟨rfl, account, rfl⟩

variable (hsize : (before.board.length : Int) = s.config.height)
include hsize

/-- A soft drop with room below lowers the piece, and that is all. -/
theorem softDrop_lowers (hrotation : before.current.Reduced)
    (h : (before.boardIn s.config).pile.Admits s.config.width s.config.height
      (before.current.moved 0 1 0)) :
    s.softDrop =
      { session := { s with snapshot := some (before.lowered 1) }, answer := .ok true } := by
  have hdrop := Well.softDrop_of_admits (w := (before.thaw s.config).toWell) hsize rfl h
  rw [hrotation.lowered] at hdrop
  rw [softDrop, run_running hsnap hover]
  simp only [hdrop]
  rfl

/-- A soft drop without room below locks the piece where it is. -/
theorem softDrop_locks {account : LockResult}
    (h : ¬ (before.boardIn s.config).pile.Admits s.config.width s.config.height
      (before.current.moved 0 1 0)) (hlock : s.Locks before before.current account) :
    s.softDrop.answer = .ok false ∧
      s.softDrop.session = s.lockedAt before before.current account := by
  have hdrop := Well.softDrop_of_blocked (w := (before.thaw s.config).toWell) hsize rfl h
  refine (run_locks hsnap hover ?_).1 account hlock
  simp only [hdrop]

/-- A hard drop locks the piece where it falls to, and counts the rows, if the lock succeeds. -/
theorem hardDrop_locks :
    (∀ account, s.Locks before (before.fall s.config before.current).1 account →
      s.hardDrop.answer = .ok (before.fall s.config before.current).2 ∧ s.hardDrop.session
        = s.lockedAt before (before.fall s.config before.current).1 account) ∧
    ∀ b, s.hardDrop.answer = .ok b → b = (before.fall s.config before.current).2 ∧
      ∃ account, s.Locks before (before.fall s.config before.current).1 account := by
  have hdrop := Well.drop_eq (w := (before.thaw s.config).toWell) hsize rfl
  refine run_locks hsnap hover ?_
  simp only [hdrop]
  rfl

/-- A hard drop that is granted has locked the piece. -/
theorem hardDrop_granted {k : Nat} (h : s.hardDrop.answer = .ok k) :
    k = (before.fall s.config before.current).2 ∧
      ∃ account, s.Locks before (before.fall s.config before.current).1 account ∧
        s.hardDrop.session = s.lockedAt before (before.fall s.config before.current).1 account := by
  obtain ⟨hgrants, hcounts⟩ := hardDrop_locks hsnap hover hsize
  obtain ⟨hk, account, hlock⟩ := hcounts k h
  exact ⟨hk, account, hlock, (hgrants account hlock).2⟩

end Running

/-! ### The same command over and over -/

/-- A command is granted with an answer and leaves a session behind. -/
structure Grants (u : Session) (command : Command) (a : Answer) (v : Session) : Prop where
  session : (u.submit (.command command)).session = v
  answer : (u.submit (.command command)).answer = .ok (.answer a)

/--
Given over and over, a command lowers the piece of a snapshot row by row for `k` times, and
then locks it; `told` is what the command answers when it has moved the piece or not, and
left some snapshot.
-/
structure StepsDown (u : Session) (command : Command) (told : Bool → Snapshot → Answer)
    (before : Snapshot) (k : Nat) (bottom : Session) : Prop where
  /-- Up to the lock nothing but the piece changes. -/
  lowered : ∀ i ≤ k, u.after (List.replicate i (.command command)) =
    { u with snapshot := some (before.lowered i) }
  locked : u.after (List.replicate (k + 1) (.command command)) = bottom
  replies : ∃ final, bottom.snapshot = some final ∧
    u.replies (List.replicate (k + 1) (.command command)) =
      (List.range k).map (fun i => .ok (.answer (told true (before.lowered (i + 1)))))
        ++ [.ok (.answer (told false final))]

variable {u bottom : Session} {command : Command} {told : Bool → Snapshot → Answer}
  {before : Snapshot} {k : Nat}

theorem StepsDown.last {final : Snapshot} (hsnap : u.snapshot = some before)
    (hlast : u.Grants command (told false final) bottom) (hfinal : bottom.snapshot = some final) :
    u.StepsDown command told before 0 bottom := by
  refine ⟨fun i hi => ?_, hlast.session, final, hfinal, ?_⟩
  · rw [Nat.le_zero.mp hi, before.lowered_zero, ← hsnap]
    rfl
  · exact congrArg (fun answer => [answer]) hlast.answer

theorem StepsDown.next (hsnap : u.snapshot = some before)
    (hfirst : u.Grants command (told true (before.lowered 1))
      { u with snapshot := some (before.lowered 1) })
    (hrest : { u with snapshot := some (before.lowered 1) }.StepsDown command told
      (before.lowered 1) k bottom) :
    u.StepsDown command told before (k + 1) bottom := by
  obtain ⟨hlowered, hlocked, final, hfinal, hreplies⟩ := hrest
  refine ⟨fun i hi => ?_, ?_, final, hfinal, ?_⟩
  · cases i with
    | zero =>
        rw [before.lowered_zero, ← hsnap]
        rfl
    | succ i =>
        rw [List.replicate_succ, after_cons, hfirst.session, hlowered i (Nat.le_of_succ_le_succ hi),
          Snapshot.lowered_lowered, Nat.add_comm 1 i]
  · rw [List.replicate_succ, after_cons, hfirst.session, hlocked]
  · rw [List.replicate_succ, Session.replies, hfirst.session, hfirst.answer, hreplies,
      List.range_succ_eq_map, List.map_cons, List.map_map, List.cons_append]
    refine congrArg (fun rest => _ :: (rest ++ _)) (List.map_congr_left fun i _ => ?_)
    rw [Snapshot.lowered_lowered, Nat.add_comm 1 (i + 1)]
    rfl

/-- A command does what a soft drop does, and tells of it in its own way. -/
def DropsSoftly (command : Command) (told : Bool → Snapshot → Answer) : Prop :=
  ∀ (u : Session) (moved : Bool) (snap : Snapshot), u.softDrop.answer = .ok moved →
    u.softDrop.session.snapshot = some snap → u.Grants command (told moved snap) u.softDrop.session

theorem softDrop_dropsSoftly : DropsSoftly .softDrop fun moved _ => .done moved := by
  intro u moved snap hanswer _
  refine ⟨rfl, ?_⟩
  simp only [submit, perform, Turn.map, hanswer, Except.map]

theorem tick_dropsSoftly : DropsSoftly .tick fun _ snap => .snapshot snap := by
  intro u moved snap hanswer hsnap
  have htick : u.tick = { u.softDrop.session.look with events := u.softDrop.events } := by
    rw [tick_eq, Turn.andThen, hanswer]
  rw [look_some hsnap] at htick
  constructor
  · simp only [submit, perform, Turn.map, htick]
  · simp only [submit, perform, Turn.map, htick, Except.map]

/-- **Lowered row by row, the piece is locked where it would have fallen to.** -/
theorem stepsDown_of_locks (hcommand : DropsSoftly command told) {s : Session}
    (hover : before.gameOver = false) (hsize : (before.board.length : Int) = s.config.height)
    {p : Piece} (hp : p.Reduced) {account : LockResult}
    (hlock : s.Locks before (before.fall s.config p).1 account) :
    { s with snapshot := some { before with current := p } }.StepsDown command told
      { before with current := p } (before.fall s.config p).2
      (s.lockedAt before (before.fall s.config p).1 account) := by
  induction p using
    Pile.fall.induct (before.boardIn s.config).pile s.config.width s.config.height with
  | case1 p hadmits ih =>
      have hfall := Pile.fall_of_admits hadmits
      have hlowers := softDrop_lowers
        (s := { s with snapshot := some { before with current := p } }) rfl hover hsize hp hadmits
      rw [Snapshot.fall, hfall] at hlock ⊢
      refine .next rfl ?_ ?_
      · have hfirst := hcommand { s with snapshot := some { before with current := p } } true
        rw [hlowers] at hfirst
        exact hfirst _ rfl rfl
      · have hbelow := ih (p.reduced_moved 0 1 0) hlock
        rw [hp.lowered] at hbelow ⊢
        exact hbelow
  | case2 p hblocked =>
      have hfall := Pile.fall_of_blocked hblocked
      rw [Snapshot.fall, hfall] at hlock ⊢
      obtain ⟨hanswer, hsession⟩ := softDrop_locks
        (s := { s with snapshot := some { before with current := p } })
        rfl hover hsize hblocked hlock
      obtain ⟨final, hfinal⟩ := lockedAt_snapshot hsize hlock
      have hlast := hcommand { s with snapshot := some { before with current := p } } false final
        hanswer (by rw [hsession]; exact hfinal)
      rw [hsession] at hlast
      exact .last rfl hlast hfinal

/--
**A hard drop ends, after no more rows than there are below the lowest cell of the piece,
and if it is granted it does what as many soft drops do and one more.**  So do as many ticks.
The account of an earlier lock makes no difference.
-/
theorem hardDrop_by_softDrops {s : Session} (hsnap : s.snapshot = some before)
    (hover : before.gameOver = false) (hsize : (before.board.length : Int) = s.config.height)
    (hrotation : before.current.Reduced) :
    ∃ n bottom, (before.thaw s.config).toWell.Descends n bottom ∧
      (before.thaw s.config).toWell.drop = (bottom, .ok n) ∧
      (∀ c ∈ before.current.cells, (n : Int) ≤ max 0 (s.config.height - 1 - c.row)) ∧
      ∀ k, s.hardDrop.answer = .ok k → k = n ∧ ∀ lock,
        { s with lastLock := lock }.StepsDown .softDrop (fun moved _ => .done moved) before n
            s.hardDrop.session ∧
          { s with lastLock := lock }.StepsDown .tick (fun _ snap => .snapshot snap) before n
            s.hardDrop.session := by
  refine ⟨_, _, Well.descends_fall hsize _ before.current,
    Well.drop_eq (w := (before.thaw s.config).toWell) hsize rfl, Pile.fall_le _ _ _ _, ?_⟩
  intro k hk
  obtain ⟨rfl, account, hlock, hsession⟩ := hardDrop_granted hsnap hover hsize hk
  refine ⟨rfl, fun lock => ?_⟩
  have hdown (command : Command) (told : Bool → Snapshot → Answer) (h : DropsSoftly command told) :
      { s with lastLock := lock }.StepsDown command told before
        (before.fall s.config before.current).2 s.hardDrop.session := by
    have hsteps :=
      stepsDown_of_locks h (s := { s with lastLock := lock }) hover hsize hrotation hlock
    rw [hsession]
    exact hsnap ▸ hsteps
  exact ⟨hdown _ _ softDrop_dropsSoftly, hdown _ _ tick_dropsSoftly⟩

/-- Over a row that is complete from the start, four soft drops and a fifth make a hard drop. -/
theorem hardDrop_by_softDrops_slot :
    let before : Snapshot :=
      { board := [0, 0, 0, 0, 9, 15]
        current := { shape := .O, x := 1, y := -1 }
        next := { shape := .T, x := 1, y := 0 } }
    let s : Session :=
      { config := { width := 4, height := 6 }, supply := .inOrder, snapshot := some before }
    s.hardDrop.answer.toOption = some 4 ∧
      (s.after (List.replicate 5 (.command .softDrop))).snapshot = s.hardDrop.session.snapshot ∧
      (s.after (List.replicate 5 (.command .tick))).snapshot = s.hardDrop.session.snapshot ∧
      s.hardDrop.session.lastLock.map (·.linesCleared) = some 2 := by
  intro before s
  obtain ⟨n, -, -, -, -, hgranted⟩ :=
    hardDrop_by_softDrops (s := s) rfl rfl rfl ⟨by decide, by decide⟩
  have hrows : s.hardDrop.answer.toOption = some 4 := by decide +kernel
  cases hanswer : s.hardDrop.answer with
  | error fault =>
      rw [hanswer] at hrows
      exact nomatch hrows
  | ok k =>
      rw [hanswer] at hrows
      cases hrows
      obtain ⟨rfl, hdown⟩ := hgranted 4 hanswer
      obtain ⟨hsoft, htick⟩ := hdown none
      exact ⟨rfl, congrArg Session.snapshot hsoft.locked, congrArg Session.snapshot htick.locked,
        by decide +kernel⟩

end Session

end FallingBlocks
