/-
When a shape is drawn.

A piece that comes to rest above the board ends the game.  If one of its cells cannot be
filled, the operation is refused.  Otherwise the piece is merged, and only then is a shape
drawn; after that nothing can go wrong any more.  So whether an operation draws a shape is
settled before it draws, by the snapshot alone, and an operation that is refused has left
the session as it was.

Of the snapshot no more is asked than as many rows as the configuration has.  Its masks,
its pieces and its counters may be any at all: on such a board asking for room never
fails, and clearing it leaves as many rows as there were.
-/
import FallingBlocks.Proofs.Simulation

namespace FallingBlocks

/-! ### Merging a piece -/

namespace Board

theorem size_fill {b filled : Board} {c : Cell} (h : b.fill c = .ok filled) :
    filled.width = b.width ∧ filled.height = b.height ∧ filled.rows.length = b.rows.length := by
  unfold fill at h
  split at h
  · exact nomatch h
  · split at h
    · exact nomatch h
    · cases h
      exact ⟨rfl, rfl, List.length_modify ..⟩

/-- Merged or not, a board keeps its size. -/
theorem size_merge (b : Board) (cells : List Cell) :
    (b.merge cells).1.width = b.width ∧ (b.merge cells).1.height = b.height ∧
      (b.merge cells).1.rows.length = b.rows.length := by
  induction cells generalizing b with
  | nil => exact ⟨rfl, rfl, rfl⟩
  | cons c rest ih =>
      rw [merge]
      cases hfill : b.fill c with
      | error fault => exact ⟨rfl, rfl, rfl⟩
      | ok filled =>
          obtain ⟨hwidth, hheight, hrows⟩ := size_fill hfill
          rw [← hwidth, ← hheight, ← hrows]
          exact ih filled

/-- The board with a piece merged into it, unless the piece reaches above or cannot be filled in. -/
def merged? (b : Board) (p : Piece) : Option Board :=
  if p.Above then none
  else
    match b.merge p.cells with
    | (m, .ok ()) => some m
    | (_, .error _) => none

variable {b m : Board} {p : Piece}

theorem merge_of_merged? (h : b.merged? p = some m) :
    ¬ p.Above ∧ b.merge p.cells = (m, .ok ()) := by
  unfold merged? at h
  split at h
  · exact nomatch h
  · rename_i habove
    split at h
    · rename_i hmerge
      cases h
      exact ⟨habove, hmerge⟩
    · exact nomatch h

theorem not_merged? (h : b.merged? p = none) :
    p.Above ∨ ¬ p.Above ∧ ∃ m fault, b.merge p.cells = (m, .error fault) := by
  unfold merged? at h
  split at h
  · rename_i habove
    exact Or.inl habove
  · rename_i habove
    split at h
    · exact nomatch h
    · rename_i hmerge
      exact Or.inr ⟨habove, _, _, hmerge⟩

end Board

/-! ### Locking a piece -/

namespace Frame

variable {f : Frame} {p : Piece} {m : Board}

/-- Asking whether the piece that has just entered has room never fails, and moves nothing. -/
theorem exists_attempt_turnOver (f : Frame) (drawn : Shape)
    (hsize : (f.board.rows.length : Int) = f.board.height) :
    ∃ free, (f.turnOver drawn).attempt 0 0 0 = .ok ((f.turnOver drawn).toWell, free) := by
  have hstays : (f.entering f.next.shape).moved 0 0 0 = f.entering f.next.shape := by
    simp [Piece.moved, Well.entering, Shape.quarterTurns]
  have htry := Well.attempt_eq (w := (f.turnOver drawn).toWell) hsize rfl 0 0 0
  rw [hstays] at htry
  split at htry
  · exact ⟨true, htry⟩
  · exact ⟨false, htry⟩

/-- The account of a lock, before it is known whether the next piece has room. -/
def account (f : Frame) (rules : Rules) (c : Board.Clearing) : LockResult :=
  { linesCleared := c.count
    scoreDelta := rules.scoreForLines c.count f.level
    leveledUp := decide ((f.credit rules c).level ≠ f.level) }

/-- What follows the clearing, once it is known whether the next piece has room. -/
theorem settle_eq (rules : Rules) (supply : Supply) (c : Board.Clearing) {free : Bool}
    (htry : ((f.credit rules c).turnOver supply.draw.1).attempt 0 0 0 =
      .ok (((f.credit rules c).turnOver supply.draw.1).toWell, free)) :
    let turned := (f.credit rules c).turnOver supply.draw.1
    f.settle rules supply c =
      { frame := if free then turned else { turned with gameOver := true }
        supply := supply.draw.2
        events := creditEvents f (f.credit rules c) c ++
          (if free then [] else turned.piece.toList.map .blockedAtSpawn)
        answer := .ok
          (if free then f.account rules c else { f.account rules c with toppedOut := true }) } := by
  unfold settle
  simp only [htry]
  cases free with
  | true => simp only [if_true, List.append_nil]; rfl
  | false => rfl

/-- After the clearing a shape is drawn, and whether or not there is room the lock succeeds. -/
theorem settle_draws (rules : Rules) (supply : Supply) {c : Board.Clearing}
    (hsize : (c.board.rows.length : Int) = c.board.height) :
    (∃ result, (f.settle rules supply c).answer = .ok result) ∧
      (f.settle rules supply c).supply = supply.draw.2 ∧
      ∃ after, (f.settle rules supply c).frame.freeze = some after ∧
        after.board = c.board.rows := by
  obtain ⟨free, htry⟩ := (f.credit rules c).exists_attempt_turnOver supply.draw.1 hsize
  rw [settle_eq rules supply c htry]
  cases free with
  | true => exact ⟨⟨_, rfl⟩, rfl, _, rfl, rfl⟩
  | false => exact ⟨⟨_, rfl⟩, rfl, _, rfl, rfl⟩

/-- A landing that is granted has merged the piece and cleared the board before it went on. -/
theorem land_granted {rules : Rules} {supply : Supply} {cells : List Cell} {result : LockResult}
    (h : (f.land rules supply cells).answer = .ok result) :
    ∃ m c, f.board.merge cells = (m, .ok ()) ∧ m.clear = .ok c ∧
      f.land rules supply cells = { f with board := m }.settle rules supply c := by
  unfold land at h ⊢
  generalize f.board.merge cells = merged at h ⊢
  obtain ⟨m, outcome⟩ := merged
  cases outcome with
  | error fault => cases h
  | ok _ =>
      cases hclear : m.clear with
      | error fault =>
          simp only [Except.bind, hclear] at h
          cases h
      | ok c => exact ⟨m, c, rfl, hclear, by simp only [Except.bind, hclear]⟩

/-- **A piece that is merged is replaced, and one shape is drawn.** -/
theorem lock_merged (rules : Rules) (supply : Supply) (hp : f.piece = some p)
    (hsize : (f.board.rows.length : Int) = f.board.height) (hwidth : 0 ≤ f.board.width)
    (h : f.board.merged? p = some m) :
    (∃ result, (f.lock rules supply).answer = .ok result) ∧
      (f.lock rules supply).supply = supply.draw.2 ∧
      ∃ after, (f.lock rules supply).frame.freeze = some after ∧ after.board = m.cleared.rows := by
  obtain ⟨habove, hmerge⟩ := Board.merge_of_merged? h
  obtain ⟨hw, hh, hrows⟩ := Board.size_merge f.board p.cells
  rw [hmerge] at hw hh hrows
  have hm : (m.rows.length : Int) = m.height := by rw [hrows, hh, hsize]
  obtain ⟨completed, hclear⟩ := Board.clear_eq hm (hw ▸ hwidth)
  have hland : f.lock rules supply = { f with board := m }.settle rules supply
      ⟨m.cleared, completed, m.rows.countP m.complete⟩ := by
    simp only [lock, hp, Snapshot.any_above_iff, if_neg habove, land, hmerge, Except.bind, hclear]
  have hcleared : (m.cleared.rows.length : Int) = m.cleared.height :=
    (congrArg Nat.cast (Board.length_compacted _ _)).trans hm
  rw [hland]
  exact settle_draws rules supply hcleared

/-- **A piece that is not merged is not replaced**: it ends the game, or nothing is kept. -/
theorem lock_unmerged (rules : Rules) (supply : Supply) (hp : f.piece = some p)
    (h : f.board.merged? p = none) :
    (f.lock rules supply).supply = supply ∧
      ∀ result, (f.lock rules supply).answer = .ok result →
        (f.lock rules supply).frame = { f with gameOver := true } := by
  rcases Board.not_merged? h with habove | ⟨habove, m, fault, hmerge⟩
  · have hlock : f.lock rules supply =
        { frame := { f with gameOver := true }
          supply
          events := [.restedAbove p]
          answer := .ok { toppedOut := true } } := by
      simp only [lock, hp, Snapshot.any_above_iff, if_pos habove]
    rw [hlock]
    exact ⟨rfl, fun _ _ => rfl⟩
  · have hlock : f.lock rules supply =
        { frame := { f with board := m }, supply, answer := .error fault } := by
      simp only [lock, hp, Snapshot.any_above_iff, if_neg habove, land, hmerge, Except.bind]
    rw [hlock]
    exact ⟨rfl, fun _ hanswer => by cases hanswer⟩

/-- A board of negative width is not cleared, and nothing is locked into it. -/
theorem land_narrow (rules : Rules) (supply : Supply) (hwidth : f.board.width < 0)
    (cells : List Cell) :
    ∃ m fault, f.land rules supply cells =
      { frame := { f with board := m }, supply, answer := .error fault } := by
  obtain ⟨hw, -, -⟩ := Board.size_merge f.board cells
  unfold land
  generalize f.board.merge cells = merged at hw ⊢
  obtain ⟨m, outcome⟩ := merged
  cases outcome with
  | error fault => exact ⟨m, fault, rfl⟩
  | ok _ =>
      have hclear : m.clear = .error .negativeShift := by
        rw [Board.clear, Board.fullMask, hw, if_pos hwidth]
        rfl
      exact ⟨m, .negativeShift, by simp only [Except.bind, hclear]⟩

/--
**A lock that is refused has drawn nothing, and one that is granted leaves a piece in the
well**, whatever the width of the board.
-/
theorem lock_settles (rules : Rules) (supply : Supply) (hp : f.piece = some p)
    (hsize : (f.board.rows.length : Int) = f.board.height) :
    (∀ fault, (f.lock rules supply).answer = .error fault →
        (f.lock rules supply).supply = supply) ∧
      ∀ result, (f.lock rules supply).answer = .ok result →
        (f.lock rules supply).frame.piece.isSome := by
  cases hmerged : f.board.merged? p with
  | none =>
      obtain ⟨hsupply, hframe⟩ := lock_unmerged rules supply hp hmerged
      exact ⟨fun _ _ => hsupply, fun result hanswer => by rw [hframe result hanswer, hp]; rfl⟩
  | some m =>
      rcases Int.lt_or_le f.board.width 0 with hwidth | hwidth
      · obtain ⟨habove, -⟩ := Board.merge_of_merged? hmerged
        obtain ⟨m', fault, hland⟩ := land_narrow rules supply hwidth p.cells
        have hlock : f.lock rules supply =
            { frame := { f with board := m' }, supply, answer := .error fault } := by
          simp only [lock, hp, Snapshot.any_above_iff, if_neg habove, hland]
        rw [hlock]
        exact ⟨fun _ _ => rfl, fun _ hanswer => by cases hanswer⟩
      · obtain ⟨⟨result, hok⟩, -, after, hfreeze, -⟩ :=
          lock_merged rules supply hp hsize hwidth hmerged
        refine ⟨fun fault hfault => (by cases hok.symm.trans hfault), fun _ _ => ?_⟩
        obtain ⟨q, hq, -⟩ := Option.map_eq_some_iff.mp hfreeze
        exact Option.isSome_of_eq_some hq

end Frame

/-! ### Which requests merge a piece -/

/-- The piece that a command brings to rest in a well, if the command does not just move it. -/
def Well.rested? (w : Well) : Session.Command → Option Piece
  | .softDrop | .tick =>
      match w.softDrop with
      | .ok (_, false) => w.piece
      | _ => none
  | .hardDrop =>
      match w.drop with
      | (bottom, .ok _) => bottom.piece
      | _ => none
  | _ => none

namespace Session

/-- The command that a request comes down to, if it asks for anything that exists. -/
def Request.command? : Request → Option Command
  | .command c => some c
  | .step (.ok a) => some (commandOf a)
  | .step (.error _) => none

/-- The board with a piece merged by a request, if the request merges one. -/
def merged? (s : Session) (r : Request) : Option Board :=
  match s.snapshot with
  | none => none
  | some before =>
      if before.gameOver then none
      else
        let w := (before.thaw s.config).toWell
        (r.command?.bind w.rested?).bind w.board.merged?

/-- The snapshot has as many rows as the configuration, and whatever else it likes. -/
def Sized (s : Session) : Prop :=
  ∀ snap, s.snapshot = some snap → (snap.board.length : Int) = s.config.height

theorem Tidy.sized {s : Session} (h : s.Tidy) : s.Sized :=
  fun snap hsnap => (h snap hsnap).size

/-- What an operation does to a session, told by the board it merges. -/
inductive Outcome {α : Type} (s : Session) (t : Turn α) : Option Board → Prop
  /-- A piece is merged: the operation succeeds, one shape is drawn and the board is cleared. -/
  | merged {m : Board} (granted : ∃ a, t.answer = .ok a)
      (supply : t.session.supply = s.supply.draw.2)
      (board : t.session.snapshot.map (·.board) = some m.cleared.rows) : Outcome s t (some m)
  /-- No piece is merged: nothing is drawn, and a refusal leaves the session as it was. -/
  | spared (supply : t.session.supply = s.supply)
      (board : t.session.snapshot.map (·.board) = s.snapshot.map (·.board))
      (refused : ∀ fault, t.answer = .error fault → t.session = s) : Outcome s t none

variable {s : Session} {before : Snapshot} {α β : Type}

theorem Outcome.map {t : Turn α} {m : Option Board} (h : Outcome s t m) (f : α → β) :
    Outcome s (t.map f) m := by
  cases h with
  | merged granted supply board =>
      obtain ⟨a, ha⟩ := granted
      exact .merged ⟨f a, by simp only [Turn.map, ha, Except.map]⟩ supply board
  | spared supply board refused =>
      refine .spared supply board fun fault hfault => ?_
      cases ha : t.answer with
      | error fault' => exact refused fault' ha
      | ok a =>
          simp only [Turn.map, ha, Except.map] at hfault
          cases hfault

/-- A look at what an operation left behind, which is refused only if there is nothing. -/
theorem Outcome.andThen {t : Turn α} {next : Turn β} {m : Option Board}
    (hsnap : s.snapshot = some before) (h : Outcome s t m) (hsession : next.session = t.session)
    (hlooked : ∀ after, t.session.snapshot = some after → ∃ b, next.answer = .ok b) :
    Outcome s (t.andThen next) m := by
  cases h with
  | merged granted supply board =>
      obtain ⟨a, ha⟩ := granted
      obtain ⟨after, hafter, -⟩ := Option.map_eq_some_iff.mp board
      simp only [Turn.andThen, ha]
      exact .merged (hlooked after hafter) (hsession ▸ supply) (hsession ▸ board)
  | spared supply board refused =>
      cases ha : t.answer with
      | error fault =>
          simp only [Turn.andThen, ha]
          exact .spared supply board fun _ _ => refused fault ha
      | ok a =>
          obtain ⟨after, hafter, -⟩ := Option.map_eq_some_iff.mp
            (board.trans (congrArg (Option.map _) hsnap))
          obtain ⟨b, hb⟩ := hlooked after hafter
          simp only [Turn.andThen, ha]
          exact .spared (hsession ▸ supply) (hsession ▸ board) fun fault hfault =>
            by cases hb.symm.trans hfault

theorem look_some {after : Snapshot} (hafter : s.snapshot = some after) :
    s.look = { session := s, answer := .ok after } := by
  rw [look, hafter]

theorem look_session (s : Session) : s.look.session = s := by
  unfold look
  split <;> rfl

/-- A tick leaves the session that the soft drop does. -/
theorem tick_session (s : Session) : s.tick.session = s.softDrop.session := by
  rw [tick_eq, Turn.andThen]
  split
  · rfl
  · exact look_session _

/-! ### Operations on a game in progress -/

theorem run_none (hsnap : s.snapshot = none) (idle : α) (op : Frame → Effect α) :
    s.run idle op = { session := s, answer := .error .notInitialized } := by
  simp [run, hsnap]

theorem run_over (hsnap : s.snapshot = some before) (hover : before.gameOver = true) (idle : α)
    (op : Frame → Effect α) : s.run idle op = { session := s, answer := .ok idle } := by
  simp [run, hsnap, hover]

theorem run_running (hsnap : s.snapshot = some before) (hover : before.gameOver = false) (idle : α)
    (op : Frame → Effect α) :
    s.run idle op =
      let e := op (before.thaw s.config)
      let touched := { s with supply := e.supply, lastLock := e.lastLock }
      match e.answer with
      | .error fault =>
          { session := touched, answer := .error (.board fault), events := e.events }
      | .ok a =>
          { session := { touched with snapshot := e.frame.freeze }
            answer := .ok a
            events := e.events } := by
  rw [run, hsnap]
  exact if_neg (Bool.eq_false_iff.mp hover)

theorem merged?_running (hsnap : s.snapshot = some before) (hover : before.gameOver = false)
    (r : Request) :
    s.merged? r =
      (r.command?.bind (before.thaw s.config).toWell.rested?).bind
        (before.boardIn s.config).merged? := by
  rw [merged?, hsnap]
  exact if_neg (Bool.eq_false_iff.mp hover)

/-- An operation that moved the piece, or did not. -/
theorem run_moving (hsnap : s.snapshot = some before) (hover : before.gameOver = false) {idle : α}
    {op : Frame → Effect α} {w : Well} {p : Piece} {a : α}
    (hop : op (before.thaw s.config) = s.moving (before.thaw s.config) w (.ok a))
    (hw : w = { (before.thaw s.config).toWell with piece := some p }) :
    Outcome s (s.run idle op) none := by
  rw [run_running hsnap hover, hop, hw]
  refine .spared rfl ?_ fun fault hfault => nomatch hfault
  rw [hsnap]
  rfl

/-- An operation that brought the piece to rest at `p`. -/
theorem run_locking (hs : s.Sized) (hsnap : s.snapshot = some before)
    (hover : before.gameOver = false) {idle : α} {op : Frame → Effect α} {p : Piece} {a : α}
    (hop : op (before.thaw s.config) = s.locking ({ before with current := p }.thaw s.config) a) :
    Outcome s (s.run idle op) ((before.boardIn s.config).merged? p) := by
  have hsize := hs before hsnap
  have hwidth := Int.le_of_lt s.config.width_pos
  rw [run_running hsnap hover, hop]
  have hpiece : ({ before with current := p }.thaw s.config).piece = some p := rfl
  cases hmerged : (before.boardIn s.config).merged? p with
  | some m =>
      obtain ⟨⟨result, hanswer⟩, hsupply, after, hfreeze, hboard⟩ :=
        Frame.lock_merged s.rules s.supply hpiece hsize hwidth hmerged
      simp only [locking, hanswer, hsupply, hfreeze]
      exact .merged ⟨a, rfl⟩ rfl (congrArg some hboard)
  | none =>
      obtain ⟨hsupply, hframe⟩ := Frame.lock_unmerged s.rules s.supply hpiece hmerged
      cases hanswer :
        (({ before with current := p }.thaw s.config).lock s.rules s.supply).answer with
      | error fault =>
          simp only [locking, hanswer, hsupply]
          exact .spared rfl rfl fun _ _ => rfl
      | ok result =>
          simp only [locking, hanswer, hsupply, hframe result hanswer]
          refine .spared rfl ?_ fun fault hfault => by cases hfault
          rw [hsnap]
          rfl

/-! ### The operations one by one -/

section Operations

variable (hs : s.Sized) (hsnap : s.snapshot = some before) (hover : before.gameOver = false)
include hs hsnap hover

theorem move_outcome {m : Well → Except Board.Fault (Well × Bool)} {dx dy turns : Int}
    (hm : ∀ w, m w = w.attempt dx dy turns) : Outcome s (s.move m) none := by
  have htry :=
    Well.attempt_eq (w := (before.thaw s.config).toWell) (hs before hsnap) rfl dx dy turns
  split at htry
  · refine run_moving hsnap hover (p := before.current.moved dx dy turns) (a := true) ?_ rfl
    simp only [hm, htry]
  · refine run_moving hsnap hover (p := before.current) (a := false) ?_ rfl
    simp only [hm, htry]
    rfl

theorem softDrop_outcome : Outcome s s.softDrop (s.merged? (.command .softDrop)) := by
  have htry := Well.attempt_eq (w := (before.thaw s.config).toWell) (hs before hsnap) rfl 0 1 0
  rw [merged?_running hsnap hover]
  simp only [Request.command?, Option.bind_some, Well.rested?, Well.softDrop]
  split at htry
  · rw [htry]
    refine run_moving hsnap hover (p := before.current.moved 0 1 0) (a := true) ?_ rfl
    simp only [Well.softDrop, htry]
  · rw [htry]
    refine run_locking hs hsnap hover (p := before.current) (a := false) ?_
    simp only [Well.softDrop, htry]

theorem hardDrop_outcome : Outcome s s.hardDrop (s.merged? (.command .hardDrop)) := by
  have hdrop := Well.drop_eq (w := (before.thaw s.config).toWell) (hs before hsnap) rfl
  rw [merged?_running hsnap hover]
  simp only [Request.command?, Option.bind_some, Well.rested?, hdrop]
  refine run_locking hs hsnap hover (a := ((before.boardIn s.config).pile.fall s.config.width
    s.config.height before.current).2) ?_
  simp only [hdrop]
  rfl

theorem tick_outcome : Outcome s s.tick (s.merged? (.command .tick)) := by
  have hsame : s.merged? (.command .tick) = s.merged? (.command .softDrop) := by
    rw [merged?_running hsnap hover, merged?_running hsnap hover]
    rfl
  rw [hsame, tick_eq]
  refine (softDrop_outcome hs hsnap hover).andThen hsnap (look_session _) fun after hafter => ?_
  exact ⟨after, by rw [look_some hafter]⟩

end Operations

/-! ### Sessions with nothing to play -/

/-- What a game that is over answers: that nothing moved, or the last snapshot. -/
def Request.idle (last : Snapshot) : Request → Reply
  | .command .hardDrop => .answer (.rows 0)
  | .command .start | .command .look | .command .tick => .answer (.snapshot last)
  | .command _ => .answer (.done false)
  | .step _ => .report { snapshot := last, gained := 0, gameOver := true, info := none }

/-- **A game that is over is not changed by any request but the one for a new game.** -/
theorem submit_over (hsnap : s.snapshot = some before) (hover : before.gameOver = true)
    {r : Request} (hstart : r ≠ .command .start) :
    s.submit r = { session := s, answer := .ok (r.idle before) } := by
  cases r with
  | step request =>
      rw [submit, step_over hsnap hover]
      rfl
  | command command =>
      have hdrop : s.softDrop = { session := s, answer := .ok false } := run_over hsnap hover _ _
      have hlook : s.look = { session := s, answer := .ok before } := by
        rw [look, hsnap]
      cases command with
      | start => exact absurd rfl hstart
      | look => rw [submit, perform, hlook]; rfl
      | moveLeft => rw [submit, perform, moveLeft, move, run_over hsnap hover]; rfl
      | moveRight => rw [submit, perform, moveRight, move, run_over hsnap hover]; rfl
      | rotate => rw [submit, perform, rotate, move, run_over hsnap hover]; rfl
      | softDrop => rw [submit, perform, hdrop]; rfl
      | hardDrop => rw [submit, perform, hardDrop, run_over hsnap hover]; rfl
      | tick =>
          rw [submit, perform, tick_eq, hdrop]
          simp only [Turn.andThen, hlook]
          rfl

/-- Without a game every request but the one for a new game is refused. -/
theorem submit_none (hsnap : s.snapshot = none) {r : Request} (hstart : r ≠ .command .start) :
    s.submit r = { session := s, answer := .error .notInitialized } := by
  cases r with
  | step request =>
      rw [submit, step_none hsnap]
      rfl
  | command command =>
      have hdrop : s.softDrop = { session := s, answer := .error .notInitialized } :=
        run_none hsnap _ _
      cases command with
      | start => exact absurd rfl hstart
      | look => simp only [submit, perform, look, hsnap]; rfl
      | moveLeft => rw [submit, perform, moveLeft, move, run_none hsnap]; rfl
      | moveRight => rw [submit, perform, moveRight, move, run_none hsnap]; rfl
      | rotate => rw [submit, perform, rotate, move, run_none hsnap]; rfl
      | softDrop => rw [submit, perform, hdrop]; rfl
      | hardDrop => rw [submit, perform, hardDrop, run_none hsnap]; rfl
      | tick => rw [submit, perform, tick_eq, hdrop]; rfl

/-! ### Requests -/

/-- Without a running game no piece is merged. -/
theorem merged?_idle (h : ∀ before, s.snapshot = some before → before.gameOver = true)
    (r : Request) : s.merged? r = none := by
  unfold merged?
  split
  · rfl
  · rw [if_pos (h _ ‹_›)]

theorem merged?_moving (hsnap : s.snapshot = some before) (hover : before.gameOver = false)
    {command : Command} (h : (before.thaw s.config).toWell.rested? command = none) :
    s.merged? (.command command) = none := by
  simp only [merged?_running hsnap hover, Request.command?, Option.bind_some, h, Option.bind_none]

/-- What a command does to a game in progress. -/
theorem perform_outcome (hs : s.Sized) (hsnap : s.snapshot = some before)
    (hover : before.gameOver = false) {command : Command} (hstart : command ≠ .start) :
    Outcome s (s.perform command) (s.merged? (.command command)) := by
  cases command with
  | start => exact absurd rfl hstart
  | look =>
      rw [merged?_moving hsnap hover rfl, perform, look_some hsnap]
      exact .spared rfl rfl fun _ _ => rfl
  | moveLeft =>
      rw [merged?_moving hsnap hover rfl]
      exact (move_outcome hs hsnap hover fun _ => rfl).map Answer.done
  | moveRight =>
      rw [merged?_moving hsnap hover rfl]
      exact (move_outcome hs hsnap hover fun _ => rfl).map Answer.done
  | rotate =>
      rw [merged?_moving hsnap hover rfl]
      exact (move_outcome hs hsnap hover fun _ => rfl).map Answer.done
  | softDrop => exact (softDrop_outcome hs hsnap hover).map Answer.done
  | hardDrop => exact (hardDrop_outcome hs hsnap hover).map Answer.rows
  | tick => exact (tick_outcome hs hsnap hover).map Answer.snapshot

/-- A step does what its command does, once the account of the last lock is forgotten. -/
theorem step_outcome (hs : s.Sized) (hsnap : s.snapshot = some before)
    (hover : before.gameOver = false) (request : Except Action.Fault Action) :
    Outcome { s with lastLock := none } (s.submit (.step request)) (s.merged? (.step request)) := by
  cases request with
  | error fault =>
      rw [submit, step_refused hsnap hover, merged?_running hsnap hover]
      exact .spared rfl rfl fun _ _ => rfl
  | ok action =>
      let fresh : Session := { s with lastLock := none }
      let played := fresh.perform (commandOf action)
      let reported :=
        played.session.look.map fun after => report before after played.session.lastLock
      have hplayed : Outcome fresh played (fresh.merged? (.command (commandOf action))) :=
        perform_outcome (s := fresh) hs hsnap hover (commandOf_ne_start action)
      have hlooked (after : Snapshot) (hafter : played.session.snapshot = some after) :
          ∃ r, reported.answer = .ok r :=
        ⟨_, congrArg (fun t : Turn Snapshot => (t.map _).answer) (look_some hafter)⟩
      have hreported : Outcome fresh (played.andThen reported) (s.merged? (.step (.ok action))) :=
        Outcome.andThen hsnap hplayed (look_session _) hlooked
      rw [submit, step_action hsnap hover]
      exact hreported.map Reply.report

/-- A request made of a session with nothing to play. -/
theorem idle_outcome (h : ∀ before, s.snapshot = some before → before.gameOver = true)
    {r : Request} (hstart : r ≠ .command .start) : Outcome s (s.submit r) (s.merged? r) := by
  rw [merged?_idle h]
  cases hsnap : s.snapshot with
  | none =>
      rw [submit_none hsnap hstart]
      exact .spared rfl rfl fun _ _ => rfl
  | some before =>
      rw [submit_over hsnap (h before hsnap) hstart]
      exact .spared rfl rfl fun _ hfault => nomatch hfault

theorem merged?_start (s : Session) : s.merged? (.command .start) = none := by
  unfold merged?
  split
  · rfl
  · split <;> rfl

/-- A session has a game to play, or it has not. -/
theorem running_or_idle (s : Session) :
    (∃ before, s.snapshot = some before ∧ before.gameOver = false) ∨
      ∀ before, s.snapshot = some before → before.gameOver = true := by
  by_cases h : ∃ before, s.snapshot = some before ∧ before.gameOver = false
  · exact Or.inl h
  · refine Or.inr fun before hsnap => ?_
    simpa using fun hover => h ⟨before, hsnap, hover⟩

/-- **What a command does is told by the board it merges**, in whatever state the session is. -/
theorem command_outcome (hs : s.Sized) {command : Command} (hstart : command ≠ .start) :
    Outcome s (s.submit (.command command)) (s.merged? (.command command)) := by
  rcases running_or_idle s with ⟨before, hsnap, hover⟩ | hidle
  · exact (perform_outcome hs hsnap hover hstart).map Reply.answer
  · exact idle_outcome hidle fun h => hstart (Request.command.inj h)

/-- So is what any request does, short of one for a new game. -/
theorem submit_outcome (hs : s.Sized) {r : Request} (hstart : r ≠ .command .start) :
    ∃ lock, Outcome { s with lastLock := lock } (s.submit r) (s.merged? r) := by
  rcases running_or_idle s with ⟨before, hsnap, hover⟩ | hidle
  · cases r with
    | command command => exact ⟨s.lastLock, command_outcome hs fun h => hstart (congrArg _ h)⟩
    | step request => exact ⟨none, step_outcome hs hsnap hover request⟩
  · exact ⟨s.lastLock, idle_outcome hidle hstart⟩

/-- **A command that is refused leaves the session as it was.** -/
theorem perform_refused (hs : s.Sized) {command : Command} {fault : Fault}
    (h : (s.perform command).answer = .error fault) : (s.perform command).session = s := by
  by_cases hstart : command = .start
  · subst hstart
    cases h
  · have hsubmit : (s.submit (.command command)).answer = .error fault := by
      rw [submit, Turn.map, h]
      rfl
    have houtcome := command_outcome hs hstart
    generalize s.merged? (.command command) = m at houtcome
    cases houtcome with
    | merged granted =>
        obtain ⟨a, ha⟩ := granted
        cases ha.symm.trans hsubmit
    | spared _ _ refused => exact refused fault hsubmit

end Session

end FallingBlocks
