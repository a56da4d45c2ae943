/-
What a document promises once it is accepted as a snapshot.

The reader takes the fields one after the other and stops at the first that is wrong,
so a snapshot that comes out has passed every check.  What the checks do not ask is
whether the falling piece overlaps a filled cell, whether a row is complete, and
whether a piece lies above the board; an accepted snapshot may have any of these.
-/
import FallingBlocks.Proofs.Snapshot.Spelling

namespace FallingBlocks.Snapshot

/-- What the reader has made sure of. -/
structure Accepted (c : Config) (s : Snapshot) : Prop where
  tidy : s.Tidy c
  current : s.current.Inside c
  next : s.next.Inside c
  currentReduced : s.current.Reduced
  nextReduced : s.next.Reduced
  score : 0 ≤ s.score
  level : 1 ≤ s.level
  linesCleared : 0 ≤ s.linesCleared

variable {c : Config} {d : Document} {s : Snapshot}

/-- **A document is read as a snapshot exactly when it spells one that passes the checks.** -/
theorem load_eq_ok_iff : load c d = .ok s ↔ s.SpelledBy d ∧ s.Accepted c := by
  unfold load loadWith
  simp only [except_bind_eq_ok, field_eq_ok_iff, readBoard_eq_ok_iff, readPiece_eq_ok_iff,
    readCounter_eq_ok_iff]
  constructor
  · rintro ⟨_, hboard, board, ⟨hwf, hwidth, hheight, rfl⟩, currentPiece, hcurrent, current,
      ⟨hcurrent', hreduced⟩, nextPiece, hnext, next, ⟨hnext', hreduced'⟩, _, hscore, score,
      ⟨rfl, hscore'⟩, _, hlevel, level, ⟨rfl, -⟩, _, hlines, lines, ⟨rfl, hlines'⟩, truth, htruth, h⟩
    split at h
    · split at h
      · exact nomatch h
      · rename_i hleast
        simp only [except_bind_eq_ok, checkPiece_eq_ok_iff hwidth hheight, Except.ok.injEq] at h
        obtain ⟨_, hin, _, hin', rfl⟩ := h
        have htidy : (boardIn c { board := board.rows, current, next }).WF := by
          rw [boardIn_eq hwidth hheight rfl]
          exact hwf
        exact
          ⟨⟨hboard, ⟨_, hcurrent, hcurrent'⟩, ⟨_, hnext, hnext'⟩, hscore, hlevel, hlines, htruth⟩,
            ⟨htidy, hin, hin', hreduced, hreduced', hscore', Int.not_lt.mp hleast, hlines'⟩⟩
    · exact nomatch h
  · rintro ⟨hspelled, h⟩
    obtain ⟨currentPiece, hcurrent, hcurrent'⟩ := hspelled.current
    obtain ⟨nextPiece, hnext, hnext'⟩ := hspelled.next
    have hleast : 0 ≤ s.level := Int.le_trans (by decide) h.level
    refine ⟨_, hspelled.board, s.boardIn c, ⟨h.tidy, rfl, rfl, rfl⟩, _, hcurrent, _,
      ⟨hcurrent', h.currentReduced⟩, _, hnext, _, ⟨hnext', h.nextReduced⟩, _, hspelled.score, _,
      ⟨rfl, h.score⟩, _, hspelled.level, _, ⟨rfl, hleast⟩, _, hspelled.linesCleared, _,
      ⟨rfl, h.linesCleared⟩, _, hspelled.gameOver, ?_⟩
    simp only [if_neg (Int.not_lt.mpr h.level), except_bind_eq_ok,
      checkPiece_eq_ok_iff (b := s.boardIn c) (c := c) rfl rfl]
    exact ⟨(), h.current, (), h.next, rfl⟩

/-- **Every snapshot that the reader gives out has passed its checks.** -/
theorem accepted_of_load (h : load c d = .ok s) : s.Accepted c :=
  (load_eq_ok_iff.mp h).2

end FallingBlocks.Snapshot
