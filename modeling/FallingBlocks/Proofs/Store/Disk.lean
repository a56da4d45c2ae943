/-
What operations on a disk leave where it was.

A path is walked through folders only.  So a path that leads somewhere goes on leading
there for as long as no folder on the way is taken away, whatever happens to files: this is
what `Keeps` says, and none of the operations that a save is made of takes a folder away.
-/
import Mathlib.Tactic.Common
import FallingBlocks.Store.Disk
import FallingBlocks.Proofs.Except

namespace FallingBlocks.Disk

variable {d d' : Disk} {p q : Place} {e : Entry}

/-! ### What lies at a place -/

theorem find?_erase_ne (h : p ≠ q) :
    ((d.erase q).entries.find? fun x => x.1 = p) = d.entries.find? fun x => x.1 = p := by
  rw [erase, List.find?_filter]
  refine congrArg (d.entries.find? ·) (funext fun x => ?_)
  by_cases hx : x.1 = p
  · simp [hx, h]
  · simp [hx]

theorem find?_erase_self : ((d.erase q).entries.find? fun x => x.1 = q) = none := by
  simp [erase, List.find?_eq_none]

/-- What has no name is always a folder. -/
theorem entry_of_root (h : p.names = []) : d.entry? p = some .folder :=
  if_pos (List.isEmpty_iff.mpr h)

/-- What has a name is looked up. -/
theorem entry_of_names (h : p.names ≠ []) :
    d.entry? p = (d.entries.find? fun x => x.1 = p).map (·.2) :=
  if_neg (mt List.isEmpty_iff.mp h)

theorem entry_erase_ne (h : p ≠ q) : Disk.entry? (d.erase q) p = d.entry? p := by
  unfold Disk.entry?
  rw [find?_erase_ne h]

theorem entry_erase_self (h : q.names ≠ []) : Disk.entry? (d.erase q) q = none := by
  rw [entry_of_names h, find?_erase_self]
  rfl

theorem entries_put (d : Disk) (q : Place) (e : Entry) :
    (d.put q e).entries = (d.erase q).entries ++ [(q, e)] := rfl

theorem entry_put_ne (h : p ≠ q) : Disk.entry? (d.put q e) p = d.entry? p := by
  unfold Disk.entry?
  rw [entries_put, List.find?_append, find?_erase_ne h]
  simp [Ne.symm h]

theorem entry_put_self (h : q.names ≠ []) : Disk.entry? (d.put q e) q = some e := by
  rw [entry_of_names h, entries_put, List.find?_append, find?_erase_self]
  simp

/-- Only a place that is always a folder has no name. -/
theorem names_ne_nil (h : d.entry? p ≠ some .folder) : p.names ≠ [] := by
  intro hnames
  exact h (entry_of_root hnames)

/-! ### Folders stay -/

/-- Every folder of the one disk is a folder of the other. -/
def Keeps (d d' : Disk) : Prop :=
  ∀ p, d.entry? p = some .folder → d'.entry? p = some .folder

theorem Keeps.trans {d'' : Disk} (h : Keeps d d') (h' : Keeps d' d'') : Keeps d d'' :=
  fun p hp => h' p (h p hp)

/-- Something is put where there was no folder. -/
theorem keeps_put (h : d.entry? q ≠ some .folder) (e : Entry) : Keeps d (d.put q e) := by
  intro p hp
  have hne : p ≠ q := by
    rintro rfl
    exact h hp
  rw [entry_put_ne hne, hp]

theorem keeps_erase (h : d.entry? q ≠ some .folder) : Keeps d (d.erase q) := by
  intro p hp
  have hne : p ≠ q := by
    rintro rfl
    exact h hp
  rw [entry_erase_ne hne, hp]

/-- A file put on a disk makes no folder. -/
theorem keeps_of_put (d : Disk) (q : Place) (content : ByteArray) :
    Keeps (d.put q (.file content)) d := by
  intro p hp
  by_cases hpq : p = q
  · subst hpq
    by_cases hnames : p.names = []
    · exact entry_of_root hnames
    · rw [entry_put_self hnames] at hp
      exact nomatch hp
  · rwa [entry_put_ne hpq] at hp

/-! ### Walking -/

theorem walk_of_keeps (h : Keeps d d') {path : Path} (hwalk : d.walk p path = .ok q) :
    d'.walk p path = .ok q := by
  induction path generalizing p with
  | nil => exact hwalk
  | cons step rest ih =>
      rw [walk] at hwalk ⊢
      split at hwalk
      · exact nomatch hwalk
      · exact nomatch hwalk
      · rename_i hfolder
        rw [h p hfolder]
        split at hwalk
        · exact nomatch hwalk
        · rename_i hshort
          simp only [if_neg hshort]
          exact ih hwalk

theorem reach_eq_ok {path : Path} :
    d.reach path = .ok p ↔
      refusal? path = none ∧ path.size ≤ pathLimit ∧ d.walk .home path = .ok p := by
  rw [reach, locate]
  cases refusal? path with
  | some fault => simp
  | none =>
      by_cases h : pathLimit < path.size
      · simp [h, Nat.not_le.mpr h]
      · simp [h, Nat.not_lt.mp h]

theorem reach_of_keeps (h : Keeps d d') {path : Path} (hreach : d.reach path = .ok p) :
    d'.reach path = .ok p := by
  obtain ⟨hrefusal, hsize, hwalk⟩ := reach_eq_ok.mp hreach
  exact reach_eq_ok.mpr ⟨hrefusal, hsize, walk_of_keeps h hwalk⟩

/-- The last step of a path leads out of the folder that the rest leads to. -/
theorem walk_concat {path : Path} {step : Step} (h : d.walk p (path ++ [step]) = .ok q) :
    ∃ r, d.walk p path = .ok r ∧ q = r.follow step := by
  induction path generalizing p with
  | nil =>
      rw [List.nil_append, walk] at h
      split at h
      · exact nomatch h
      · exact nomatch h
      · split at h
        · exact nomatch h
        · exact ⟨p, rfl, (Except.ok.inj h).symm⟩
  | cons first rest ih =>
      rw [List.cons_append, walk] at h
      rw [walk]
      split at h
      · exact nomatch h
      · exact nomatch h
      · rename_i hfolder
        split at h
        · exact nomatch h
        · rename_i hshort
          simp only [if_neg hshort]
          exact ih h

/-! ### Making folders -/

theorem hasFolder_iff {path : Path} :
    d.hasFolder path = true ↔ ∃ p, d.reach path = .ok p ∧ d.entry? p = some .folder := by
  rw [hasFolder]
  cases d.reach path with
  | error fault => simp
  | ok p => simp

theorem hasFolder_of_keeps (h : Keeps d d') {path : Path} (hfolder : d.hasFolder path = true) :
    d'.hasFolder path = true := by
  obtain ⟨p, hreach, hentry⟩ := hasFolder_iff.mp hfolder
  exact hasFolder_iff.mpr ⟨p, reach_of_keeps h hreach, h p hentry⟩

theorem makeLast_of_hasFolder {path : Path} (h : d.hasFolder path = true) :
    d.makeLast path true = .ok d := by
  obtain ⟨p, hreach, hentry⟩ := hasFolder_iff.mp h
  have hmade : d.makeOne path = .error .inTheWay := by
    rw [makeOne, hreach]
    simp [bind, Except.bind, hentry]
  rw [makeLast, hmade]
  simp [h]

/-- A folder that is there is not made again. -/
theorem makeFolder_of_hasFolder {path : Path} (h : d.hasFolder path = true) :
    d.makeFolder path true = (d, .ok ()) := by
  rw [makeFolder, makeLast_of_hasFolder h]

theorem hasFolder_of_makeOne {path : Path} (h : d.makeOne path = .ok d') :
    d'.hasFolder path = true := by
  rw [makeOne, except_bind_eq_ok] at h
  obtain ⟨p, hreach, hmade⟩ := h
  split at hmade
  · exact nomatch hmade
  · rename_i hfree
    rw [Option.not_isSome_iff_eq_none] at hfree
    have hnone : d.entry? p ≠ some .folder := by
      rw [hfree]
      exact Option.some_ne_none _ |>.symm
    cases hmade
    exact hasFolder_iff.mpr
      ⟨p, reach_of_keeps (keeps_put hnone .folder) hreach, entry_put_self (names_ne_nil hnone)⟩

theorem hasFolder_of_makeLast {path : Path} (h : d.makeLast path true = .ok d') :
    d'.hasFolder path = true := by
  rw [makeLast] at h
  split at h
  · split at h
    · rename_i hthere
      cases h
      exact hthere.2
    · exact nomatch h
  · exact hasFolder_of_makeOne h

/-- **A folder that has been made is there.** -/
theorem hasFolder_of_makeFolder {path : Path} (h : d.makeFolder path true = (d', .ok ())) :
    d'.hasFolder path = true := by
  rw [makeFolder] at h
  split at h
  · rename_i hlast
    cases h
    exact hasFolder_of_makeLast hlast
  · split at h
    · cases h
    · split at h
      · cases h
      · split at h
        · rename_i hlast
          cases h
          exact hasFolder_of_makeLast hlast
        · cases h
  · cases h

/-! ### Replacing a file

The new content is written next to the file and then takes its place.
-/

/-- The content of the file that a path leads to. -/
theorem file?_of_file {path : Path} {content : ByteArray} (h : d.reach path = .ok p)
    (hentry : d.entry? p = some (.file content)) : d.file? path = .ok (some content) := by
  obtain ⟨hrefusal, hsize, hwalk⟩ := reach_eq_ok.mp h
  rw [file?, hrefusal, locate, if_neg (Nat.not_lt.mpr hsize), hwalk]
  simp only [Option.isSome_none, Bool.false_eq_true, if_false, hentry]

/--
A path to a file that can be replaced: there is a folder for it, and neither the place
`there` of the file nor the place `here` of the temporary file is a folder.
-/
structure Filing (d : Disk) (path : Path) (here there : Place) : Prop where
  folder : d.hasFolder path.parent = true
  temporary : d.reach path.temporary = .ok here
  target : d.reach path = .ok there
  named : path.getLast? ≠ some .up
  hereFree : d.entry? here ≠ some .folder
  thereFree : d.entry? there ≠ some .folder

/-- The disk with a file replaced. -/
def replaced (d : Disk) (here there : Place) (content : ByteArray) : Disk :=
  ((d.put here (.file content)).erase here).put there (.file content)

variable {path : Path} {here there : Place}

/-- A path that leads to a file ends in its name. -/
theorem Filing.path_eq (h : d.Filing path here there) :
    ∃ folder name, path = folder ++ [.into name] := by
  rcases List.eq_nil_or_concat path with rfl | ⟨folder, step, rfl⟩
  · have hhome := (reach_eq_ok.mp h.target).2.2
    cases hhome
    exact absurd rfl h.thereFree
  · cases step with
    | up => exact absurd (by simp) h.named
    | into name => exact ⟨folder, name, List.concat_eq_append⟩

/-- The temporary file lies next to the file. -/
theorem Filing.apart (h : d.Filing path here there) : here ≠ there := by
  obtain ⟨folder, name, rfl⟩ := h.path_eq
  have htemporary : Path.temporary (folder ++ [.into name])
      = folder ++ [.into (name ++ Path.temporaryEnding)] := by
    simp [Path.temporary, Path.parent, Step.name]
  have hhere := h.temporary
  rw [htemporary] at hhere
  obtain ⟨r, hr, rfl⟩ := walk_concat (reach_eq_ok.mp hhere).2.2
  obtain ⟨r', hr', rfl⟩ := walk_concat (reach_eq_ok.mp h.target).2.2
  rw [hr, Except.ok.injEq] at hr'
  subst hr'
  intro hsame
  simp only [Place.follow, Place.mk.injEq, true_and] at hsame
  have hname := List.append_cancel_left hsame
  have hpoints : name.points ++ Path.temporaryEnding.points = name.points :=
    congrArg Text.points (List.cons.inj hname).1
  exact absurd (List.append_right_eq_self.mp hpoints) (by decide)

/-- Replacing a file takes no folder away. -/
theorem Filing.keeps (h : d.Filing path here there) (content : ByteArray) :
    Keeps d (d.replaced here there content) := by
  have hapart := h.apart
  have hwritten := entry_put_self (d := d) (e := .file content) (names_ne_nil h.hereFree)
  refine (keeps_put h.hereFree _).trans ((keeps_erase ?_).trans (keeps_put ?_ _))
  · rw [hwritten]
    exact nofun
  · rw [entry_erase_ne hapart.symm, entry_put_ne hapart.symm]
    exact h.thereFree

theorem Filing.entry_there (h : d.Filing path here there) (content : ByteArray) :
    Disk.entry? (d.replaced here there content) there = some (.file content) :=
  entry_put_self (names_ne_nil h.thereFree)

/-- Nothing is left of the temporary file. -/
theorem Filing.entry_here (h : d.Filing path here there) (content : ByteArray) :
    Disk.entry? (d.replaced here there content) here = none := by
  rw [replaced, entry_put_ne h.apart, entry_erase_self (names_ne_nil h.hereFree)]

/-- **A file that can be replaced is replaced, and can be replaced again.** -/
theorem Filing.replaced (h : d.Filing path here there) (content : ByteArray) :
    (d.replaced here there content).Filing path here there where
  folder := hasFolder_of_keeps (h.keeps content) h.folder
  temporary := reach_of_keeps (h.keeps content) h.temporary
  target := reach_of_keeps (h.keeps content) h.target
  named := h.named
  hereFree := by
    rw [h.entry_here]
    exact nofun
  thereFree := by
    rw [h.entry_there]
    exact nofun

theorem Filing.write (h : d.Filing path here there) (content : ByteArray) :
    d.write path.temporary content = .ok (d.put here (.file content)) := by
  rw [Disk.write, h.temporary]
  exact if_neg h.hereFree

theorem Filing.rename (h : d.Filing path here there) (content : ByteArray) :
    (d.put here (.file content)).rename path.temporary path
      = .ok (d.replaced here there content) := by
  have hkeeps := keeps_put h.hereFree (.file content)
  rw [Disk.rename, reach_of_keeps hkeeps h.temporary, reach_of_keeps hkeeps h.target]
  simp only [bind, Except.bind, if_neg h.named, entry_put_self (names_ne_nil h.hereFree),
    entry_put_ne h.apart.symm, if_neg h.thereFree]
  rfl

/-- **Where a file has been replaced, it can be replaced**: nothing else is asked for. -/
theorem exists_filing {content : ByteArray} {written : Disk}
    (hfolder : d.hasFolder path.parent = true)
    (hwrite : d.write path.temporary content = .ok written)
    (hrename : written.rename path.temporary path = .ok d') :
    ∃ here there, d.Filing path here there := by
  rw [Disk.write, except_bind_eq_ok] at hwrite
  obtain ⟨here, htemporary, hput⟩ := hwrite
  split at hput
  · exact nomatch hput
  · rename_i hhere
    cases hput
    have hback := keeps_of_put d here content
    rw [Disk.rename, except_bind_eq_ok] at hrename
    obtain ⟨here', htemporary', hrename⟩ := hrename
    rw [except_bind_eq_ok] at hrename
    obtain ⟨there, htarget, hrename⟩ := hrename
    split at hrename
    · exact nomatch hrename
    · rename_i hnamed
      split at hrename
      · split at hrename
        · exact nomatch hrename
        · rename_i hthere
          refine ⟨here, there, hfolder, htemporary, reach_of_keeps hback htarget, hnamed, hhere, ?_⟩
          exact fun hfolder => hthere (keeps_put hhere _ there hfolder)
      · exact nomatch hrename

end FallingBlocks.Disk
