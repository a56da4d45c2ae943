/-
What a step reports.

A lock is recorded twice.  Its account is written while it goes on, from the lines taken out
and the level before them; and the snapshot that is left behind differs from the one before.
A step reports from both records.  They agree under any rules, and on both ways in which a
lock can end the game.

An account stays with the session until something replaces it, so one may be left from an
operation long before.  A step drops it first; the account that is there afterwards is that
of its own lock, or there is none.
-/
import FallingBlocks.Proofs.Acts
import FallingBlocks.Proofs.Forgetting
import FallingBlocks.Proofs.Snapshot.Encoding

namespace FallingBlocks

/-- The level goes up by one, or not at all. -/
theorem Rules.levelAfter_ne_iff (r : Rules) (linesCleared level : Int) :
    r.levelAfter linesCleared level ≠ level ↔ r.levelAfter linesCleared level = level + 1 := by
  unfold levelAfter
  split <;> omega

/-- The account of a lock says how a snapshot differs from the one before. -/
structure LockResult.Explains (lock : LockResult) (before after : Snapshot) : Prop where
  lines : lock.linesCleared = after.linesCleared - before.linesCleared
  score : lock.scoreDelta = after.score - before.score
  levelUp : lock.leveledUp = true ↔ after.level = before.level + 1
  sameLevel : lock.leveledUp = false → after.level = before.level
  toppedOut : lock.toppedOut = true ↔ after.gameOver = true

/-! ### The account of a lock and the position it leaves -/

namespace Position

variable {c : Config} {rules : Rules} {supply : Supply} (x : Position)

theorem lock_lines :
    (x.lock c rules supply).account.linesCleared =
      (x.lock c rules supply).position.linesCleared - x.linesCleared := by
  by_cases habove : x.current.Above
  · simp [lock_of_above habove, restedAbove]
  · simp [lock_of_not_above habove, landed]

theorem lock_score :
    (x.lock c rules supply).account.scoreDelta =
      (x.lock c rules supply).position.score - x.score := by
  by_cases habove : x.current.Above
  · simp [lock_of_above habove, restedAbove]
  · simp [lock_of_not_above habove, landed]

theorem lock_level :
    (x.lock c rules supply).account.leveledUp =
      decide ((x.lock c rules supply).position.level ≠ x.level) := by
  by_cases habove : x.current.Above
  · simp [lock_of_above habove, restedAbove]
  · simp [lock_of_not_above habove, landed]

theorem lock_level_ne_iff :
    (x.lock c rules supply).position.level ≠ x.level ↔
      (x.lock c rules supply).position.level = x.level + 1 := by
  by_cases habove : x.current.Above
  · simp [lock_of_above habove, restedAbove]
  · rw [lock_of_not_above habove]
    exact rules.levelAfter_ne_iff _ _

/-- A piece that rests above the board ends the game, and so does one that cannot enter. -/
theorem lock_toppedOut :
    (x.lock c rules supply).account.toppedOut = (x.lock c rules supply).position.gameOver := by
  by_cases habove : x.current.Above
  · simp [lock_of_above habove, restedAbove]
  · simp [lock_of_not_above habove, landed]

end Position

namespace Session

variable {s : Session} {before after : Snapshot} {p : Piece} {account : LockResult} {d : Document}

/-- **What a lock has written down is what it has changed.** -/
theorem LocksInto.explains (h : s.LocksInto before p account after) :
    account.Explains before after := by
  let x : Position := { before.position s.config with current := p }
  have haccount : account = (x.lock s.config s.rules s.supply).account := h.account
  have hposition : after.position s.config = (x.lock s.config s.rules s.supply).position :=
    h.position
  have hlevel : after.level = (x.lock s.config s.rules s.supply).position.level :=
    congrArg Position.level hposition
  constructor
  · rw [haccount, x.lock_lines, ← hposition]
    rfl
  · rw [haccount, x.lock_score, ← hposition]
    rfl
  · rw [haccount, x.lock_level, hlevel, decide_eq_true_eq]
    exact x.lock_level_ne_iff
  · rw [haccount, x.lock_level, hlevel, decide_eq_false_iff_not, not_not]
    exact id
  · rw [haccount, x.lock_toppedOut, ← hposition]
    rfl

/-- A step that brings a piece to rest leaves behind the lock of that piece, and its account. -/
theorem Acts.locks {action : Action} {u : Session}
    (hacts : Acts { s with lastLock := none } before action u) (hafter : u.snapshot = some after)
    (hp : (before.position s.config).rested? s.config (commandOf action) = some p) :
    ∃ lock, s.Locks before p lock ∧ u = s.lockedAt before p lock ∧ lock.Explains before after := by
  obtain ⟨lock, after', hlock, hlocked⟩ := hacts.of_rested?_some hp
  have hsame : after' = after := by
    rw [hlocked, hlock.snapshot] at hafter
    exact Option.some.inj hafter
  rw [hsame] at hlock
  exact ⟨lock, hlock.locks, hlocked, hlock.explains⟩

end Session

end FallingBlocks
