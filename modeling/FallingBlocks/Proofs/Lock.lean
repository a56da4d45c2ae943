/-
Locking a piece is locking it on the pile.

A piece that lies on the board is merged cell by cell, the board is cleared and the next
piece is tried where it enters; on the pile this is a union, a sinking and one question.
A piece with a cell above the board ends the game on both sides before anything else.

One kind of piece is neither: one that has just entered and hangs over an edge without
reaching above the board.  It cannot be locked at all.  Its merge is bound to fail, and
the fault comes before a shape is drawn.
-/
import FallingBlocks.Proofs.Snapshot

namespace FallingBlocks

/-- The lock of a frame leaves behind what the lock of a position does. -/
structure Locking.Agrees (c : Config) (l : Locking) (k : Position.Locked) : Prop where
  answer : l.answer = .ok k.account
  supply : l.supply = k.supply
  /-- The frame is put together again into a snapshot of the new position. -/
  after : ∃ s, l.frame.freeze = some s ∧ s.Tidy c ∧ s.position c = k.position

namespace Snapshot

variable {c : Config} {s : Snapshot}

theorem any_above_iff (p : Piece) :
    (p.cells.any fun cell => decide (cell.row < 0)) = true ↔ p.Above := by
  simp [Piece.Above]

/-- The new piece is tried where it is, and stays there whatever the answer. -/
theorem attempt_entering {b : Board} (hb : b.WF) (hwidth : b.width = c.width)
    (hheight : b.height = c.height) (shape : Shape) :
    Well.attempt ⟨b, some (c.entering shape), c.spawnY⟩ 0 0 0
      = .ok (⟨b, some (c.entering shape), c.spawnY⟩,
          decide (b.pile.Admits c.width c.height (c.entering shape))) := by
  rw [Well.attempt_eq hb.size rfl, Piece.moved_entering, hwidth, hheight]
  by_cases h : b.pile.Admits c.width c.height (c.entering shape)
  · rw [if_pos h, decide_eq_true h]
  · rw [if_neg h, decide_eq_false h]

/-- Once the cells are merged, what is left of a lock is the same on both sides. -/
theorem settle_agrees (rules : Rules) (supply : Supply) {m : Board} {completed : List Nat}
    (hm : m.WF) (hwidth : m.width = c.width) (hheight : m.height = c.height)
    (hover : s.gameOver = false)
    (hpile : m.pile = (s.boardIn c).pile ∪ s.current.cells.toFinset) :
    (Frame.settle { s.thaw c with board := m } rules supply
      ⟨m.cleared, completed, m.rows.countP m.complete⟩).Agrees c
        ((s.position c).landed c rules supply) := by
  have hwf := Board.wf_cleared hm
  have hsunk := Board.pile_cleared hm
  have hcount := Board.card_completed hm
  rw [hwidth, hheight, hpile] at hsunk hcount
  have hcw : m.cleared.width = c.width := hwidth
  have hch : m.cleared.height = c.height := hheight
  have henter : ∀ p shape, Well.entering ⟨m.cleared, p, c.spawnY⟩ shape = c.entering shape :=
    fun p shape => Well.entering_eq hcw rfl shape
  have htry := attempt_entering hwf hcw hch s.next.shape
  rw [hsunk] at htry
  have htidy : ∀ after : Snapshot, after.board = m.cleared.rows → after.Tidy c := by
    intro after hrows
    rw [Tidy, boardIn_eq hcw hch hrows]
    exact hwf
  have hafter : ∀ after : Snapshot, after.board = m.cleared.rows →
      (after.boardIn c).pile = ((s.boardIn c).pile ∪ s.current.cells.toFinset).sunk
        (((s.boardIn c).pile ∪ s.current.cells.toFinset).completed c.width c.height) := by
    intro after hrows
    rw [boardIn_eq hcw hch hrows]
    exact hsunk
  simp only [Frame.settle, Frame.credit, Frame.turnOver, Well.spawn, thaw, henter, htry, ← hcount,
    hover]
  by_cases h : (((s.boardIn c).pile ∪ s.current.cells.toFinset).sunk
      (((s.boardIn c).pile ∪ s.current.cells.toFinset).completed c.width c.height)).Admits
        c.width c.height (c.entering s.next.shape)
  · simp only [decide_eq_true h]
    refine ⟨?_, rfl, _, rfl, htidy _ rfl, ?_⟩
    · simp only [Position.landed, Except.ok.injEq, LockResult.mk.injEq]
      exact ⟨rfl, rfl, rfl, (congrArg not (decide_eq_true h)).symm⟩
    · simp [Position.landed, position, hafter, h]
  · simp only [decide_eq_false h]
    refine ⟨?_, rfl, _, rfl, htidy _ rfl, ?_⟩
    · simp only [Position.landed, Except.ok.injEq, LockResult.mk.injEq]
      exact ⟨rfl, rfl, rfl, (congrArg not (decide_eq_false h)).symm⟩
    · simp [Position.landed, position, hafter, h]

/-- **A piece that can be locked is locked as on the pile.** -/
theorem lock_agrees (rules : Rules) (supply : Supply) (htidy : s.Tidy c)
    (hover : s.gameOver = false) (hlock : s.current.Lockable c) :
    ((s.thaw c).lock rules supply).Agrees c ((s.position c).lock c rules supply) := by
  have hpiece : (s.thaw c).piece = some s.current := rfl
  rw [Frame.lock, hpiece]
  simp only [any_above_iff]
  by_cases habove : s.current.Above
  · rw [if_pos habove, Position.lock_of_above habove]
    exact ⟨rfl, rfl, { s with gameOver := true }, rfl, htidy, rfl⟩
  · rw [if_neg habove, Position.lock_of_not_above habove]
    have hinside : s.current.Inside c := hlock.resolve_left habove
    obtain ⟨m, hmerge, hm, hwidth, hheight, hpile⟩ :=
      Board.merge_eq (b := s.boardIn c) htidy (Pile.mem_grid_of_inside habove hinside)
    obtain ⟨completed, hclear⟩ := Board.clear_eq hm.size
      (by rw [hwidth]; exact Int.le_of_lt c.width_pos)
    have hland : (s.thaw c).land rules supply s.current.cells
        = Frame.settle { s.thaw c with board := m } rules supply
            ⟨m.cleared, completed, m.rows.countP m.complete⟩ := by
      have hboard : (s.thaw c).board = s.boardIn c := rfl
      simp only [Frame.land, hboard, hmerge, Except.bind, hclear]
    rw [hland]
    exact settle_agrees rules supply hm hwidth hheight hover hpile

/-- **A piece that hangs over an edge cannot be locked, and no shape is drawn in trying.** -/
theorem lock_fails (rules : Rules) (supply : Supply) (htidy : s.Tidy c) {shape : Shape}
    (hpiece : s.current = c.entering shape) (hlock : ¬ s.current.Lockable c) :
    ∃ fault, ((s.thaw c).lock rules supply).answer = .error fault ∧
      ((s.thaw c).lock rules supply).supply = supply := by
  have hthaw : (s.thaw c).piece = some s.current := rfl
  have hboard : (s.thaw c).board = s.boardIn c := rfl
  have hsize : ((s.boardIn c).rows.length : Int) = c.height := htidy.size
  have habove : ¬ s.current.Above := (not_or.mp hlock).1
  rw [hpiece] at hlock
  obtain ⟨hrows, cell, hcell, hout⟩ := Piece.hangs_of_not_lockable hlock
  rw [← hpiece] at hrows hcell
  obtain ⟨fault, hfault⟩ := Board.merge_fails (b := s.boardIn c) hrows
    ⟨cell, hcell, by rwa [hsize]⟩
  rw [Frame.lock, hthaw]
  simp only [any_above_iff, if_neg habove, Frame.land, hboard]
  exact ⟨fault, by simp only [hfault, Except.bind], by simp only [hfault, Except.bind]⟩

end Snapshot

end FallingBlocks
