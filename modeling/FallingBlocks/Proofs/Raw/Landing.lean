/-
Locking value by value.

What a lock needs of the machine is the power of two for its board: the mask of a completed
row is one below it, and the bit of every column is a smaller one.  Where there is that power
the cells of a piece on the board are filled as on the ordinary one, the same rows are found
complete, and the lock that goes through its steps on a desk leaves what the ordinary lock
leaves: the frame, the supply, the account and the records.
-/
import FallingBlocks.Proofs.Raw.Locking

namespace FallingBlocks

variable [Machine]

theorem Document.not_tooLarge_of_le {m n : Int} (h : ¬ TooLarge n) (hle : m ≤ n) :
    ¬ TooLarge m := by
  unfold TooLarge at h ⊢
  omega

namespace Raw

/-! ### Filling cells -/

namespace Board

variable {b : FallingBlocks.Board}

theorem withBit_int {m col : Int} (hcol : 0 ≤ col) (hfits : ¬ Document.TooLarge col) :
    withBit (.int m) (.int col) = .ok (.int (Mask.insert m col.toNat)) := by
  have hlog : (Nat.pow 2 col.toNat : Int).toNat.log2 = col.toNat := by
    rw [Int.toNat_natCast]
    exact Nat.log2_two_pow
  unfold withBit
  rw [Document.powerOfTwo_int hcol hfits]
  simp only [combined_ok, bind, Except.bind, Document.integer?, hlog]

/-- A cell on the board is filled as on the ordinary one. -/
theorem fill_ofOrdinary (h : b.Matched) (hfits : ¬ Document.TooLarge b.width)
    {c : FallingBlocks.Cell} (hc : c ∈ Pile.grid b.width b.height) :
    (ofOrdinary b).fill (.ofOrdinary c) = .ok (ofOrdinary (b.filled c)) := by
  obtain ⟨⟨hrow, hlow⟩, hleft, hright⟩ := Pile.mem_grid.mp hc
  have hcol := Document.not_tooLarge_of_le hfits (Int.le_of_lt hright)
  have hlt : c.row.toNat < b.rows.length := by
    have hsize := h.size
    omega
  have hrows : (b.filled c).rows.map Document.int =
      (ofOrdinary b).rows.set c.row.toNat
        (.int (Mask.insert (b.rows.getD c.row.toNat 0) c.col.toNat)) := by
    rw [FallingBlocks.Board.filled, List.modify_eq_set, List.map_set]
    rfl
  simp only [fill, Cell.ofOrdinary, rowAt_ofOrdinary h hrow hlow, getD_ofOrdinary hlt,
    withBit_int hleft hcol, bind, Except.bind, ← hrows]
  rfl

/-- So are many, one after the other. -/
theorem mergeAny_ofOrdinary (h : b.Matched) (hfits : ¬ Document.TooLarge b.width)
    {cells : List FallingBlocks.Cell} (hcells : ∀ c ∈ cells, c ∈ Pile.grid b.width b.height) :
    (ofOrdinary b).mergeAny (cells.map .ofOrdinary) =
      (ofOrdinary (b.merge cells).1, (b.merge cells).2.mapError .ofBoard) := by
  induction cells generalizing b with
  | nil => rfl
  | cons c rest ih =>
      obtain ⟨hc, hrest⟩ := List.forall_mem_cons.mp hcells
      obtain ⟨⟨hrow, hlow⟩, hleft, -⟩ := Pile.mem_grid.mp hc
      have hfilled : (b.filled c).Matched :=
        ⟨(congrArg Nat.cast (b.length_filled c)).trans h.size, h.bound⟩
      rw [List.map_cons, mergeAny, fill_ofOrdinary h hfits hc, FallingBlocks.Board.merge,
        FallingBlocks.Board.fill_eq hrow (by rw [h.size]; exact hlow) hleft]
      exact ih hfilled hfits hrest

theorem mapM_ordinary?_ofOrdinary {cells es : List FallingBlocks.Cell}
    (h : (cells.map Cell.ofOrdinary).mapM Cell.ordinary? = some es) : es = cells := by
  induction cells generalizing es with
  | nil =>
      cases h
      rfl
  | cons c rest ih =>
      simp only [List.map_cons, List.mapM_cons, Option.bind_eq_bind, Option.bind_eq_some_iff] at h
      obtain ⟨e, he, es', hes, h⟩ := h
      cases h
      rw [Cell.ordinary?_ofOrdinary he, ih hes]

theorem merge_ofOrdinary (h : b.Matched) (hfits : ¬ Document.TooLarge b.width)
    {cells : List FallingBlocks.Cell} (hcells : ∀ c ∈ cells, c ∈ Pile.grid b.width b.height) :
    (ofOrdinary b).merge (cells.map .ofOrdinary) =
      (ofOrdinary (b.merge cells).1, (b.merge cells).2.mapError .ofBoard) := by
  unfold merge
  split
  · rename_i m es hm hes
    rw [ordinary?_ofOrdinary hm, mapM_ordinary?_ofOrdinary hes]
  · exact mergeAny_ofOrdinary h hfits hcells

omit [Machine] in
/-- A board that is merged into and cleared keeps as many rows as it is high. -/
theorem matched_cleared (h : b.Matched) {cells : List FallingBlocks.Cell} {m : FallingBlocks.Board}
    (hmerge : b.merge cells = (m, .ok ())) {c : FallingBlocks.Board.Clearing}
    (hclear : m.clear = .ok c) : m.width = b.width ∧ c.board.Matched := by
  obtain ⟨hwidth, hheight, hrows⟩ := FallingBlocks.Board.size_merge b cells
  rw [hmerge] at hwidth hheight hrows
  have hsize : (m.rows.length : Int) = m.height := by rw [hrows, hheight, h.size]
  obtain ⟨-, hheight', hrows'⟩ := FallingBlocks.Board.size_clear hsize hclear
  exact ⟨hwidth, by rw [hrows', hheight', hsize], by rw [hheight', hheight]; exact h.bound⟩

/-! ### Completed rows -/

theorem fullMask_ofOrdinary (hfits : ¬ Document.TooLarge b.width) :
    (ofOrdinary b).fullMask = b.fullMask.mapError .ofBoard := by
  unfold fullMask FallingBlocks.Board.fullMask
  by_cases hwidth : b.width < 0
  · have hpower : (Document.int b.width).powerOfTwo = .error .negativeShift := if_pos hwidth
    rw [if_pos hwidth]
    show (combined (Document.int b.width).powerOfTwo >>= _) = _
    rw [hpower]
    rfl
  · rw [if_neg hwidth]
    show (combined (Document.int b.width).powerOfTwo >>= _) = _
    rw [Document.powerOfTwo_int (Int.not_lt.mp hwidth) hfits]
    rfl

omit [Machine] in
theorem rowsEqual_ofOrdinary (full : Mask) : (ofOrdinary b).rowsEqual full = b.rowsEqual full := by
  unfold rowsEqual FallingBlocks.Board.rowsEqual
  simp only [ofOrdinary, List.zipIdx_map, List.filter_map, List.map_map]
  congr 1
  refine List.filter_congr fun row _ => ?_
  simp [Prod.map]

theorem fullRows_ofOrdinary (hfits : ¬ Document.TooLarge b.width) :
    (ofOrdinary b).fullRows = b.fullRows.mapError .ofBoard := by
  unfold fullRows
  split
  · rename_i m hm
    rw [ordinary?_ofOrdinary hm]
  · rw [fullMask_ofOrdinary hfits, FallingBlocks.Board.fullRows]
    cases b.fullMask with
    | error fault => rfl
    | ok full => exact congrArg Except.ok (rowsEqual_ofOrdinary full)

theorem clearFullRows_ofOrdinary (hfits : ¬ Document.TooLarge b.width) :
    (ofOrdinary b).clearFullRows =
      (b.clearFullRows.mapError .ofBoard).map fun (m, count) => (ofOrdinary m, count) := by
  unfold clearFullRows
  split
  · rename_i m hm
    rw [ordinary?_ofOrdinary hm]
  · rw [fullMask_ofOrdinary hfits, FallingBlocks.Board.clearFullRows]
    cases b.fullMask with
    | error fault => rfl
    | ok full => exact congrArg Except.ok (compact_ofOrdinary b full)

end Board

/-! ### The lock -/

namespace Course

variable {d : Desk} {f : FallingBlocks.Frame} {p : FallingBlocks.Piece}

omit [Machine] in
theorem On.board (hd : On f d) : d.frame.board = .ofOrdinary f.board := by
  rw [hd]
  rfl

omit [Machine] in
theorem On.leaves_board (hd : On f d) (m : FallingBlocks.Board) :
    d.Leaves { f with board := m } d.supply []
      { d with frame := { d.frame with board := .ofOrdinary m } } := by
  refine ⟨?_, rfl, rfl, rfl, fun _ => (List.append_nil _).symm⟩
  rw [hd]
  rfl

/-- A piece on the board is merged as into the ordinary one. -/
theorem merge_ends (hd : On f d) (h : f.board.Matched) (hfits : ¬ Document.TooLarge f.board.width)
    {cells : List FallingBlocks.Cell}
    (hcells : ∀ c ∈ cells, c ∈ Pile.grid f.board.width f.board.height) {m : FallingBlocks.Board}
    (hmerge : f.board.merge cells = (m, .ok ())) :
    (merge (cells.map .ofOrdinary)).Ends d fun _ d' =>
      d.Leaves { f with board := m } d.supply [] d' := by
  have hraw := Board.merge_ofOrdinary h hfits hcells
  rw [hmerge, ← hd.board] at hraw
  refine Ends.bind (ends_get ?_)
  rw [hraw]
  exact Ends.bind (ends_change (ends_find rfl (hd.leaves_board m)))

/-- The event of a clearing. -/
def clearEvents (c : FallingBlocks.Board.Clearing) : List Event :=
  if c.completed.isEmpty then [] else [.cleared c.completed]

/-- The board is cleared as the ordinary one. -/
theorem clear_ends (hd : On f d) (hfits : ¬ Document.TooLarge f.board.width)
    {c : FallingBlocks.Board.Clearing} (hclear : f.board.clear = .ok c) :
    clear.Ends d fun count d' =>
      count = c.count ∧ d.Leaves { f with board := c.board } d.supply (clearEvents c) d' := by
  rw [FallingBlocks.Board.clear, except_map_eq_ok] at hclear
  obtain ⟨full, hfull, hclear⟩ := hclear
  have hrows := Board.fullRows_ofOrdinary hfits
  have hcleared := Board.clearFullRows_ofOrdinary hfits
  rw [FallingBlocks.Board.fullRows, hfull, ← hd.board] at hrows
  rw [FallingBlocks.Board.clearFullRows, hfull, ← hd.board] at hcleared
  refine Ends.bind (ends_get (Ends.bind (ends_find hrows ?_)))
  split at hclear
  · rename_i hnone
    subst hclear
    rw [hnone, List.isEmpty_nil, if_pos rfl]
    exact ends_pure ⟨rfl, hd.leaves⟩
  · rename_i hsome
    subst hclear
    have hfound : (f.board.rowsEqual full).isEmpty = false := by
      simpa using hsome
    unfold clearEvents
    simp only [hfound, if_neg Bool.false_ne_true]
    refine Ends.bind (ends_find hcleared (Ends.bind (ends_change (Ends.bind (ends_log rfl
      fun records hrecords => ends_pure ⟨rfl, ?_, rfl, rfl, rfl, hrecords⟩)))))
    exact (hd.leaves_board _).frame

omit [Machine] in
/-- Which cells lie above the board is told alike. -/
theorem above_ofOrdinary (cells : List FallingBlocks.Cell) :
    (cells.map Cell.ofOrdinary).mapM (fun c : Cell => combined (c.row.isLT (.int 0))) =
      .ok (cells.map fun c => decide (c.row < 0)) := by
  rw [List.mapM_map]
  simp only [Function.comp_def, Cell.ofOrdinary, Document.isLT_int, combined_ok]
  exact List.mapM_pure

omit [Machine] in
/-- A piece inside the board with no cell above it lies on the board. -/
theorem mem_grid_of_rested {b : FallingBlocks.Board}
    (hinside : ∀ c ∈ p.cells, 0 ≤ c.col ∧ c.col < b.width ∧ c.row < b.height)
    (hrested : ¬ (p.cells.any fun c => decide (c.row < 0)) = true) :
    ∀ c ∈ p.cells, c ∈ Pile.grid b.width b.height := by
  intro c hc
  obtain ⟨hleft, hright, hlow⟩ := hinside c hc
  refine Pile.mem_grid.mpr ⟨⟨?_, hlow⟩, hleft, hright⟩
  by_contra hrow
  exact hrested (List.any_eq_true.mpr ⟨c, hc, decide_eq_true (Int.not_le.mp hrow)⟩)

/-- Value by value, a lock that the ordinary frame grants leaves what it does there. -/
theorem lockAny_ends (hd : On f d) (hp : f.piece = some p) (h : f.board.Matched)
    (hfits : ¬ Document.TooLarge f.board.width)
    (hinside : ∀ c ∈ p.cells, 0 ≤ c.col ∧ c.col < f.board.width ∧ c.row < f.board.height)
    (rules : FallingBlocks.Rules) {result : FallingBlocks.LockResult}
    (hanswer : (f.lock rules d.supply).answer = .ok result) :
    (lockAny (.ofOrdinary rules)).Ends d fun r d' =>
      r = .ofOrdinary result ∧ d.Leaves (f.lock rules d.supply).frame (f.lock rules d.supply).supply
        (f.lock rules d.supply).events d' := by
  have hpiece : d.frame.piece = some (.ofOrdinary p) := by
    rw [hd]
    exact congrArg (Option.map _) hp
  have hany : ((p.cells.map fun c => decide (c.row < 0)).any id) =
      p.cells.any fun c => decide (c.row < 0) := List.any_map
  refine Ends.bind (ends_get ?_)
  rw [hpiece]
  refine Ends.bind (ends_find (Piece.cells_ofOrdinary p) (Ends.bind
    (ends_find (above_ofOrdinary p.cells) ?_)))
  rw [hany]
  simp only [FallingBlocks.Frame.lock, hp] at hanswer ⊢
  by_cases hrested : (p.cells.any fun c => decide (c.row < 0)) = true
  · simp only [if_pos hrested] at hanswer ⊢
    cases hanswer
    exact topOut_ends hd p
  · simp only [if_neg hrested] at hanswer ⊢
    have hcells := mem_grid_of_rested hinside hrested
    obtain ⟨m, c, hmerge, hclear, hland⟩ := FallingBlocks.Frame.land_granted hanswer
    obtain ⟨hwidth, hmatched⟩ := Board.matched_cleared h hmerge hclear
    obtain ⟨free, htry⟩ := FallingBlocks.Frame.exists_attempt_turnOver
      ({ f with board := m }.credit rules c) d.supply.draw.1 hmatched.size
    rw [hland, FallingBlocks.Frame.settle_eq rules d.supply c htry] at hanswer ⊢
    cases hanswer
    -- Each step works on the desk that the one before it leaves, so what is left adds up.
    refine Ends.bind ((merge_ends hd h hfits hcells hmerge).mono fun _ d₁ h₁ => ?_)
    refine Ends.bind ((clear_ends h₁.frame (hwidth ▸ hfits) hclear).mono fun count d₂ h₂ => ?_)
    obtain ⟨rfl, h₂⟩ := h₂
    refine Ends.bind ((credit_ends h₂.frame rules rfl).mono fun result d₃ h₃ => ?_)
    obtain ⟨rfl, h₃⟩ := h₃
    have hdrawn : d₃.supply = d.supply := by rw [h₃.supply, h₂.supply, h₁.supply]
    refine (turnOver_ends h₃.frame hmatched _ (hdrawn ▸ htry)).mono fun r d₄ h₄ => ?_
    obtain ⟨rfl, h₄⟩ := h₄
    rw [hdrawn] at h₄
    have hleft := (h₁.trans h₂).trans (h₃.trans h₄)
    rw [List.nil_append, ← List.append_assoc] at hleft
    exact ⟨rfl, hleft⟩

/-- **A lock that the ordinary frame grants leaves what it does there**, on either course. -/
theorem lock_ends (hd : On f d) (hp : f.piece = some p) (h : f.board.Matched)
    (hfits : ¬ Document.TooLarge f.board.width)
    (hinside : ∀ c ∈ p.cells, 0 ≤ c.col ∧ c.col < f.board.width ∧ c.row < f.board.height)
    (rules : FallingBlocks.Rules) {result : FallingBlocks.LockResult}
    (hanswer : (f.lock rules d.supply).answer = .ok result) :
    (lock (.ofOrdinary rules)).Ends d fun r d' =>
      r = .ofOrdinary result ∧ d.Leaves (f.lock rules d.supply).frame (f.lock rules d.supply).supply
        (f.lock rules d.supply).events d' := by
  refine Ends.bind (ends_get ?_)
  split
  · rename_i g r hg hr
    rw [hd] at hg
    cases Frame.ordinary?_ofOrdinary hg
    rw [Rules.ordinary?_ofOrdinary] at hr
    cases hr
    refine Ends.bind (ends_set ?_)
    simp only [hanswer]
    exact ends_find rfl ⟨rfl, rfl, rfl, rfl, rfl, fun _ => rfl⟩
  · exact lockAny_ends hd hp h hfits hinside rules hanswer

end Course

end Raw

end FallingBlocks
