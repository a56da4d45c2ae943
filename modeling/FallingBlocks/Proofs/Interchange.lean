/-
A file and memory serve alike.

A service over a file answers every operation as a service over memory does, as long as the
file can be written: what it loads is the document that the other one holds, and what it
saves is read back as it was.  It does not matter what the document is.  One that is no
session, or null, or no file at all, is told of in the same way on both sides, and stays until
a new game takes its place.

An operation can also be to take another service over the same store, with settings and a
supply of its own.
-/
import FallingBlocks.Proofs.Service

namespace FallingBlocks.Service

/-- A service over a file, beside one over memory that holds the document of the file. -/
def Alike (path : Path) (v m : Service) : Prop :=
  ∃ disk data, v = { m with store := .file disk path } ∧ m.store = .memory data ∧
    m.limits = .unlimited ∧ (Store.file disk path).load = .ok data ∧
    (Store.file disk path).Writable

/-- What can be told of a command: the answer, whether it saved, and what happened on the way. -/
def Turn.told (t : Turn) : Except Fault Session.Answer × Bool × List Event :=
  (t.answer, t.saved, t.events)

/-- Two turns that are told in the same way, and leave services behind that are alike. -/
structure Agree (path : Path) (before : Store) (t u : Turn) : Prop where
  told : t.told = u.told
  service : Alike path t.service u.service
  /-- The file is as it was, or there is no temporary file beside it. -/
  tidy : t.service.store = before ∨ t.service.store.hasTemporary = false

variable {path : Path} {v m : Service}

/-! ### Operations -/

theorem Alike.commit (h : Alike path v m) (after : Snapshot) (a : Session.Answer)
    (events onSave : List Event) (before : Store) :
    Agree path before (v.commit after a events onSave) (m.commit after a events onSave) := by
  obtain ⟨disk, data, rfl, hmemory, hlimits, -, hwritable⟩ := h
  obtain ⟨replaced, hsave, hagain, hload, htidy⟩ := hwritable.save after.readsBack_toDocument
  have hkept := Store.save_memory data after.toDocument
  rw [Store.save] at hsave hkept
  simp only [Service.commit, hmemory, hlimits, hsave, hkept]
  exact ⟨rfl, ⟨replaced, _, rfl, rfl, rfl, hload, hagain⟩, Or.inr htidy⟩

/-- An operation that saves nothing leaves the store as it is. -/
theorem Alike.spared (h : Alike path v m) (answer : Except Fault Session.Answer)
    (events : List Event) :
    Agree path v.store { service := v, answer, events } { service := m, answer, events } :=
  ⟨rfl, h, Or.inl rfl⟩

theorem Alike.supplied (h : Alike path v m) (supply : Supply) :
    Alike path { v with supply } { m with supply } := by
  obtain ⟨disk, data, rfl, hmemory, hlimits, hload, hwritable⟩ := h
  exact ⟨disk, data, rfl, hmemory, hlimits, hload, hwritable⟩

/-- Both begin their sessions alike. -/
theorem Alike.sessionOn (h : Alike path v m) (snapshot : Option Snapshot) :
    v.sessionOn snapshot = m.sessionOn snapshot := by
  obtain ⟨disk, data, rfl, -⟩ := h
  rfl

theorem Alike.load (h : Alike path v m) : v.load = m.load := by
  obtain ⟨disk, data, rfl, hmemory, hlimits, hload, -⟩ := h
  have hkept := Store.load_memory data
  rw [Store.load] at hload hkept
  simp only [Service.load, hmemory, hlimits, hload, hkept]

theorem Alike.start (h : Alike path v m) : Agree path v.store v.start m.start := by
  rw [Service.start, Service.start, h.sessionOn]
  exact (h.supplied _).commit _ _ _ _ _

theorem Alike.apply (h : Alike path v m) (command : Session.Command) :
    Agree path v.store (v.apply command) (m.apply command) := by
  rw [Service.apply, Service.apply, h.load]
  cases m.load with
  | error fault => exact h.spared _ _
  | ok before =>
      simp only [h.sessionOn]
      generalize (m.sessionOn (some before)).perform command = t
      have hplayed := h.supplied t.session.supply
      cases t.answer with
      | error fault => exact hplayed.spared _ _
      | ok a =>
          cases t.session.snapshot with
          | none => exact hplayed.spared _ _
          | some after =>
              by_cases hsame : after = before
              · simp only [if_pos hsame]
                exact hplayed.spared _ _
              · simp only [if_neg hsame]
                exact hplayed.commit _ _ _ _ _

/-- **An operation is answered alike over a file and over memory.** -/
theorem Alike.perform (h : Alike path v m) (command : Session.Command) :
    Agree path v.store (v.perform command) (m.perform command) := by
  by_cases hstart : command = .start
  · subst hstart
    exact h.start
  · rw [perform_of_ne_start hstart, perform_of_ne_start hstart]
    exact h.apply command

/-! ### Runs -/

/-- What can be asked of a service, or done with it. -/
inductive Operation
  | command (c : Session.Command)
  /-- Another service takes over the store. -/
  | renew (config : Config) (rules : Rules) (supply : Supply)

/-- The service after an operation. -/
def operate (v : Service) : Operation → Service
  | .command c => (v.perform c).service
  | .renew config rules supply => { v with config, rules, supply }

/-- What can be told of an operation; a service that takes over gives nothing to tell. -/
def reply? (v : Service) : Operation → Option (Except Fault Session.Answer × Bool × List Event)
  | .command c => some (v.perform c).told
  | .renew _ _ _ => none

/-- The service after a list of operations, whether or not they were granted. -/
def through (v : Service) (operations : List Operation) : Service :=
  operations.foldl operate v

/-- What can be told of a list of operations, in order. -/
def replies (v : Service) :
    List Operation → List (Option (Except Fault Session.Answer × Bool × List Event))
  | [] => []
  | o :: rest => v.reply? o :: (v.operate o).replies rest

theorem Alike.operate (h : Alike path v m) (o : Operation) :
    v.reply? o = m.reply? o ∧ Alike path (v.operate o) (m.operate o) ∧
      ((v.operate o).store = v.store ∨ (v.operate o).store.hasTemporary = false) := by
  cases o with
  | command c =>
      have hagree := h.perform c
      exact ⟨congrArg some hagree.told, hagree.service, hagree.tidy⟩
  | renew config rules supply =>
      obtain ⟨disk, data, rfl, hmemory, hlimits, hload, hwritable⟩ := h
      exact ⟨rfl, ⟨disk, data, rfl, hmemory, hlimits, hload, hwritable⟩, Or.inl rfl⟩

/-- So is a list of operations. -/
theorem Alike.through (h : Alike path v m) (operations : List Operation) :
    v.replies operations = m.replies operations ∧
      Alike path (v.through operations) (m.through operations) ∧
      ((v.through operations).store = v.store ∨
        (v.through operations).store.hasTemporary = false) := by
  induction operations generalizing v m with
  | nil => exact ⟨rfl, h, Or.inl rfl⟩
  | cons o rest ih =>
      obtain ⟨hreply, hnext, htidy⟩ := h.operate o
      obtain ⟨hreplies, hlast, hleft⟩ := ih hnext
      refine ⟨congrArg₂ List.cons hreply hreplies, hlast, ?_⟩
      rcases hleft with hsame | hnone
      · have hstore : (v.through (o :: rest)).store = (v.operate o).store := hsame
        rw [hstore]
        exact htidy
      · exact Or.inr hnone

/-- **A document null is no session**: nothing but a new game is granted. -/
theorem perform_of_null (h : v.store.loadWithin v.limits = .ok .null) {command : Session.Command}
    (hstart : command ≠ .start) :
    v.perform command = { service := v, answer := .error (.session .notInitialized) } := by
  rw [perform_of_ne_start hstart, Service.apply, Service.load, h]

/--
**Over a file that can be written a service does what it does over memory.**  Whatever the
document is, whatever is asked for, and whichever services take over: the answers are the
same, so are the saves, the same shapes are drawn, and the file has the document that memory
holds.  The file is as it was at the start, or it has no temporary file beside it.  While the
document is null nothing but a new game is granted on either side.
-/
theorem file_serves_as_memory {disk : Disk} {d : Document}
    (hload : (Store.file disk path).load = .ok d) (hwritable : (Store.file disk path).Writable)
    (config : Config) (rules : Rules) (supply : Supply) (operations : List Operation) :
    let filed : Service := { store := .file disk path, config, rules, supply }
    let kept : Service := { store := .memory d, config, rules, supply }
    let v := filed.through operations
    let m := kept.through operations
    filed.replies operations = kept.replies operations ∧
      v.supply = m.supply ∧
      (∃ after data, v.store = .file after path ∧ v.store.load = .ok data ∧
        m.store = .memory data ∧
        (data = .null → ∀ command ≠ .start,
          v.perform command = { service := v, answer := .error (.session .notInitialized) } ∧
          m.perform command = { service := m, answer := .error (.session .notInitialized) })) ∧
      (v.store = .file disk path ∨ v.store.hasTemporary = false) := by
  intro filed kept v m
  have hbegun : Alike path filed kept := ⟨disk, d, rfl, rfl, rfl, hload, hwritable⟩
  obtain ⟨hreplies, ⟨after, data, hv, hm, hlimits, hread, -⟩, htidy⟩ := hbegun.through operations
  have hstore : v.store = .file after path := congrArg Service.store hv
  have hsupply : v.supply = m.supply := by
    show (filed.through operations).supply = m.supply
    rw [hv]
  have hunlimited : v.limits = .unlimited := by
    show (filed.through operations).limits = .unlimited
    rw [hv]
    exact hlimits
  rw [← hstore] at hread
  refine ⟨hreplies, hsupply, ⟨after, data, hstore, hread, hm, ?_⟩, htidy⟩
  rintro rfl command hcommand
  constructor
  · refine perform_of_null ?_ hcommand
    rw [hunlimited]
    exact hread
  · refine perform_of_null ?_ hcommand
    rw [hm, hlimits]
    exact Store.load_memory .null

/-- A disk with a game of two squares in a folder. -/
def shelf : Disk where
  entries :=
    [(⟨0, ["games"]⟩, .folder),
     (⟨0, ["games", "squares.json"]⟩, .file twoSquares.toDocument.render.toUTF8)]

/-- The path to that game. -/
def squaresFile : Path :=
  [.into "games", .into "squares.json"]

/-- From one service to the next the file has what memory would have, and stays alone. -/
theorem file_serves_as_memory_shelf :
    let operations : List Operation :=
      [.command .moveLeft, .renew squares.config {} .inOrder, .command .hardDrop]
    let filed : Service := { squares with store := .file shelf squaresFile }
    let kept : Service := { squares with store := .memory twoSquares.toDocument }
    filed.store.load = .ok twoSquares.toDocument ∧ filed.store.Writable ∧
      filed.replies operations = kept.replies operations ∧
      (∃ data, (filed.through operations).store.load = .ok data ∧
        (kept.through operations).store = .memory data) ∧
      (filed.through operations).store.hasTemporary = false := by
  intro operations filed kept
  have hload : filed.store.load = .ok twoSquares.toDocument :=
    Store.load_of_render (by rfl) twoSquares.readsBack_toDocument.parse_render
  have hfiling : shelf.Filing squaresFile ⟨0, ["games", "squares.json.tmp"]⟩
      ⟨0, ["games", "squares.json"]⟩ :=
    ⟨by rfl, by rfl, by rfl, by decide, by decide, by decide⟩
  have hready := Disk.makeFolder_of_hasFolder hfiling.folder
  have hwritable : filed.store.Writable := ⟨.null, _, Store.save_file hready hfiling .null⟩
  have halone : filed.store.hasTemporary = false := by rfl
  obtain ⟨hreplies, -, ⟨after, data, -, hread, hkept, -⟩, htidy⟩ :=
    file_serves_as_memory hload hwritable squares.config squares.rules squares.supply operations
  refine ⟨hload, hwritable, hreplies, ⟨data, hread, hkept⟩, ?_⟩
  rcases htidy with hsame | hnone
  · have hsame' : (filed.through operations).store = filed.store := hsame
    rw [hsame', halone]
  · exact hnone

end FallingBlocks.Service
