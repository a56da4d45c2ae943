/-
Sessions on whole numbers lose nothing.

An operation works on a frame of its own, and a fault throws the frame away.  What it has done
beside the frame by then is nothing: faults come before the draw, and before the account of a
lock is replaced.  So a session is after a refusal what it was before, and refuses the same
command again in the same words.
-/
import FallingBlocks.Proofs.Raw.Locking
import FallingBlocks.Raw.Session

namespace FallingBlocks.Raw

theorem mapM_wholeOf (masks : List Mask) :
    (masks.map Document.int).mapM wholeOf = .ok masks := by
  rw [List.mapM_map]
  exact List.mapM_pure.trans (congrArg Except.ok (List.map_id _))

/-- A board that is made of whole numbers, as many as it is to be high, has them for its rows. -/
theorem Board.make_ofOrdinary [Machine] {masks : List Mask} {width height : Document}
    {board : Board} (hrows : height.sameNumber (.int masks.length) = true)
    (h : make width height (some (masks.map .int)) = .ok board) :
    ∃ b : FallingBlocks.Board, board = .ofOrdinary b ∧ b.Matched := by
  simp only [make, wholeOf, Document.toWhole_of_sameNumber hrows, except_bind_eq_ok] at h
  obtain ⟨width, -, _, hheight, _, hcheck, masks', hmasks, h⟩ := h
  cases hheight
  cases (mapM_wholeOf masks).symm.trans hmasks
  cases h
  refine ⟨⟨width, masks.length, masks⟩, rfl, rfl, ?_⟩
  unfold checkHeight at hcheck
  split at hcheck
  · cases hcheck
  · rename_i hcounted
    exact Int.not_le.mp (not_or.mp hcounted).2

/-- The frame of a snapshot of whole numbers is one of whole numbers, and has its piece. -/
theorem Snapshot.thaw_ofOrdinary [Machine] {q : FallingBlocks.Snapshot} {c : Settings}
    {frame : Frame} (hrows : c.height.sameNumber (.int q.board.length) = true)
    (h : (ofOrdinary q).thaw c = .ok frame) :
    ∃ f : FallingBlocks.Frame, frame = .ofOrdinary f ∧ f.piece = some q.current ∧
      f.board.Matched := by
  simp only [thaw, except_bind_eq_ok] at h
  obtain ⟨board, hboard, spawnY, -, h⟩ := h
  obtain ⟨b, rfl, hb⟩ := Board.make_ofOrdinary hrows hboard
  cases h
  exact ⟨⟨⟨b, some q.current, spawnY⟩, q.next, q.score, q.level, q.linesCleared, q.gameOver⟩,
    rfl, rfl, hb⟩

namespace Session

variable {s : Session} {o : FallingBlocks.Session} {q : FallingBlocks.Snapshot} {α β : Type}

/-- A turn that leaves the session as it was if it is refused. -/
def Atomic (s : Session) (t : Turn α) : Prop :=
  ∀ fault, t.answer = .error fault → t.session = s

theorem Atomic.map {t : Turn α} (h : Atomic s t) (f : α → β) : Atomic s (t.map f) :=
  fun fault hfault => h fault (except_map_eq_error.mp hfault)

/-- A session under ordinary rules, whose snapshot has whole numbers and the rows asked for. -/
structure Whole (s : Session) : Prop where
  rules : ∃ r, s.rules = .ofOrdinary r
  snapshot : ∀ snap, s.snapshot = some snap → ∃ q, snap = .ofOrdinary q ∧
    s.settings.height.sameNumber (.int q.board.length) = true

/-- A score that is a number does not grow in place. -/
theorem abandoned_ofOrdinary (q : FallingBlocks.Snapshot) (f : Frame) :
    abandoned (.ofOrdinary q) f = .ofOrdinary q := rfl

variable [Machine]

/--
**A course whose faults come before the draw loses nothing** when it is refused, and leaves a
snapshot when it ends.
-/
theorem run_atomic (hs : s.Whole) (idle : α) {course : Course α}
    (hcourse : ∀ (d : Desk) (f : FallingBlocks.Frame) (p : FallingBlocks.Piece), Course.On f d →
      f.piece = some p → f.board.Matched → course.Leads d fun _ => Course.HasPiece) :
    Atomic s (s.run idle course) ∧ ∀ a, (s.run idle course).answer = .ok a →
      ∃ after, (s.run idle course).session.snapshot = some after := by
  unfold run
  cases hsnap : s.snapshot with
  | none => exact ⟨fun _ _ => rfl, nofun⟩
  | some before =>
      obtain ⟨q, rfl, hrows⟩ := hs.snapshot before hsnap
      simp only
      split
      · exact ⟨nofun, fun _ _ => ⟨_, hsnap⟩⟩
      · cases hthaw : (Snapshot.ofOrdinary q).thaw s.settings with
        | error fault => exact ⟨fun _ _ => rfl, nofun⟩
        | ok frame =>
            obtain ⟨f, hf, hp, hmatched⟩ := Snapshot.thaw_ofOrdinary hrows hthaw
            let desk : Desk :=
              { frame, supply := s.supply, lastLock := s.lastLock, logged := s.logged }
            have hleads := hcourse desk f q.current hf hp hmatched
            unfold Course.Leads at hleads
            simp only
            split at hleads
            · rename_i a d hrun
              rw [hrun]
              exact ⟨nofun, fun _ _ => hleads.freeze⟩
            · rename_i fault d hrun
              rw [hrun]
              obtain ⟨hsupply, hlast⟩ := hleads
              refine ⟨fun _ _ => ?_, nofun⟩
              simp only [abandoned_ofOrdinary, hsupply, hlast, desk, ← hsnap]

theorem start_atomic (s : Session) : Atomic s s.start := by
  intro fault h
  unfold start at h ⊢
  split at h
  · rfl
  · exact nomatch h

/-- What a new game answers is what it holds. -/
theorem snapshot_of_start {snapshot : Snapshot} (h : s.start.answer = .ok snapshot) :
    s.start.session.snapshot = some snapshot := by
  unfold start at h ⊢
  split at h
  · exact nomatch h
  · cases h
    rfl

theorem performAny_atomic (hs : s.Whole) (c : FallingBlocks.Session.Command) :
    Atomic s (s.performAny c) := by
  obtain ⟨rules, hrules⟩ := hs.rules
  have hmove {move : Well → Except Fault (Well × Bool)} {dx dy turns : Int}
      (hmove : ∀ w : Well, move w = w.attempt (.int dx) (.int dy) (.int turns)) :
      Atomic s (s.run false (moving move)) := by
    refine (run_atomic hs false fun d f p hd hp h => ?_).1
    obtain ⟨q, moved, htry⟩ := FallingBlocks.Well.exists_attempt h.size hp dx dy turns
    exact (moving_ends hd h hmove htry).leads.mono fun _ _ hmoved => ⟨_, hmoved.2.frame, rfl⟩
  have hsoft := run_atomic hs false fun d f p hd hp h => hrules ▸ softDrop_leads hd hp h rules
  have hhard := run_atomic hs 0 fun d f p hd hp h => hrules ▸ hardDrop_leads hd hp h rules
  cases c with
  | start => exact s.start_atomic.map _
  | look =>
      refine Atomic.map (fun fault h => ?_) _
      unfold look
      split <;> rfl
  | moveLeft => exact (hmove fun _ => rfl).map _
  | moveRight => exact (hmove fun _ => rfl).map _
  | rotate => exact (hmove fun _ => rfl).map _
  | softDrop => exact hsoft.1.map _
  | hardDrop => exact hhard.1.map _
  | tick =>
      intro fault h
      simp only [performAny] at h ⊢
      split at h
      · rename_i fault' hfault
        exact hsoft.1 fault' hfault
      · rename_i a ha
        obtain ⟨after, hafter⟩ := hsoft.2 a ha
        simp only [look, hafter] at h
        exact nomatch h

omit [Machine] in
/-- What is read and written back is the same again, if there is anything. -/
theorem map_of_mapM {x : Option α} {y : Option β} {read : α → Option β} {write : β → α}
    (h : x.mapM read = some y) (hread : ∀ a, x = some a → ∀ b, read a = some b → write b = a) :
    y.map write = x := by
  cases x with
  | none =>
      cases h
      rfl
  | some a =>
      rw [Option.mapM_some] at h
      obtain ⟨b, hb, rfl⟩ := Option.map_eq_some_iff.mp h
      exact congrArg some (hread a rfl b hb)

/-- An ordinary session that a raw one makes is the raw one again, and of the right size. -/
theorem follow_ordinary (hs : s.Whole) (ho : s.ordinary? = some o) : s.follow o = s ∧ o.Sized := by
  simp only [ordinary?, Option.bind_eq_bind, Option.bind_eq_some_iff] at ho
  obtain ⟨config, hconfig, rules, -, lastLock, hlast, snapshot, hsnap, ho⟩ := ho
  have hlast' : lastLock.map .ofOrdinary = s.lastLock :=
    map_of_mapM hlast fun _ _ _ hr => (LockResult.eq_ofOrdinary hr).symm
  have hsnap' : snapshot.map .ofOrdinary = s.snapshot := by
    refine map_of_mapM hsnap fun snap hsome q' hq' => ?_
    obtain ⟨q, rfl, -⟩ := hs.snapshot snap hsome
    rw [Snapshot.ordinary?_ofOrdinary hq']
  obtain rfl := Option.some.inj ho
  refine ⟨by simp only [follow, hlast', hsnap'], fun snap hsome => ?_⟩
  have hsome' : s.snapshot = some (.ofOrdinary snap) := by
    rw [← hsnap']
    exact congrArg (Option.map _) hsome
  obtain ⟨q, hq, hrows⟩ := hs.snapshot _ hsome'
  have hlength : snap.board.length = q.board.length := by
    simpa [Snapshot.ofOrdinary] using congrArg (fun x : Snapshot => x.board.length) hq
  have hheight := (integer?_of_ordinary? (ordinary_of_configOf? hconfig).2).1
  rw [hheight, Document.sameNumber_int, beq_iff_eq] at hrows
  rw [hlength]
  exact hrows.symm

/-- **A command that is refused leaves the session as it was.** -/
theorem perform_atomic (hs : s.Whole) (c : FallingBlocks.Session.Command) :
    Atomic s (s.perform c) := by
  intro fault h
  unfold perform at h ⊢
  split at h
  · rename_i o ho
    obtain ⟨hfollow, hsized⟩ := follow_ordinary hs ho
    obtain ⟨fault', hfault, -⟩ := except_mapError_eq_error.mp (except_map_eq_error.mp h)
    simp only
    rw [FallingBlocks.Session.perform_refused hsized hfault, hfollow]
  · exact performAny_atomic hs c fault h

end Session

end FallingBlocks.Raw
