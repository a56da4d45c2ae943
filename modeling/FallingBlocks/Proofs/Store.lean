/-
Stores hold what was put into them.

A store in memory takes any document within its limits, and gives it out again unless it goes
too deep.  A store in a file takes any document that is read back from its print, if it takes
one at all: whether a save is granted depends on the path and on the folders, and a save leaves
both as the next one needs them.  It leaves nothing else behind either, for the temporary file
has become the file.
-/
import FallingBlocks.Store
import FallingBlocks.Proofs.Document.Reading
import FallingBlocks.Proofs.Store.Disk

namespace FallingBlocks

/-! ### Stores in memory -/

namespace Document

mutual

theorem hasTooLong_unlimited : ∀ d : Document, d.hasTooLong .unlimited = false
  | .null | .bool _ | .int _ | .float _ | .text _ => rfl
  | .array items => anyTooLong_unlimited items
  | .object fields => anyFieldTooLong_unlimited fields

theorem anyTooLong_unlimited : ∀ items : List Document, anyTooLong .unlimited items = false
  | [] => rfl
  | d :: rest => by
      rw [anyTooLong, hasTooLong_unlimited d, anyTooLong_unlimited rest]
      rfl

theorem anyFieldTooLong_unlimited :
    ∀ fields : List (Text × Document), anyFieldTooLong .unlimited fields = false
  | [] => rfl
  | (_, d) :: rest => by
      rw [anyFieldTooLong, hasTooLong_unlimited d, anyFieldTooLong_unlimited rest]
      rfl

end

end Document

namespace Store

/-- A store in memory takes a document in the place of its own, if its numbers can be written. -/
theorem saveWithin_memory (limits : Document.Limits) (data d : Document) :
    (memory data).saveWithin limits d =
      if d.hasTooLong limits then (memory data, .error .tooManyDigits) else (memory d, .ok ()) := by
  simp only [saveWithin, prepare, put]
  rfl

theorem save_memory (data d : Document) : (memory data).save d = (memory d, .ok ()) := by
  rw [save, saveWithin_memory, Document.hasTooLong_unlimited, if_neg Bool.false_ne_true]

theorem loadWithin_memory {limits : Document.Limits} {d : Document}
    (hshort : d.hasTooLong limits = false) (hflat : d.isTooDeep limits = false) :
    (memory d).loadWithin limits = .ok d := by
  rw [loadWithin, hshort, hflat, if_neg Bool.false_ne_true, if_neg Bool.false_ne_true]

theorem load_memory (d : Document) : (memory d).load = .ok d :=
  loadWithin_memory (Document.hasTooLong_unlimited d) rfl

end Store

/-! ### Stores in files -/

namespace Store

/-- A save is granted, of some document at least. -/
def Writable (s : Store) : Prop :=
  ∃ d after, s.save d = (after, .ok ())

/-- Whether something lies where a save puts its temporary file. -/
def hasTemporary : Store → Bool
  | memory _ => false
  | file disk path =>
      match disk.reach path.temporary with
      | .ok place => (disk.entry? place).isSome
      | .error _ => false

/-- What was rendered as text is read from the bytes of the text. -/
theorem decode_render {d : Document} (h : Document.parse .unlimited d.render = .ok d) :
    decode .unlimited d.render.toUTF8 = .ok d := by
  have htext : String.fromUTF8? d.render.toUTF8 = some d.render := by
    unfold String.fromUTF8?
    exact dif_pos d.render.isValidUTF8
  rw [decode, htext]
  exact except_mapError_eq_ok.mpr h

variable {disk ready : Disk} {path : Path} {here there : Place}

/-- A store holds the document whose rendered text is in the file. -/
theorem load_of_render {d : Document} (hfile : disk.file? path = .ok (some d.render.toUTF8))
    (h : Document.parse .unlimited d.render = .ok d) : (file disk path).load = .ok d := by
  rw [load, loadWithin, hfile]
  exact decode_render h

/-- Where the file can be replaced once the folder is there, a save does no more than that. -/
theorem save_file (hready : disk.makeFolder path.parent true = (ready, .ok ()))
    (h : ready.Filing path here there) (d : Document) :
    (file disk path).save d = (file (ready.replaced here there d.render.toUTF8) path, .ok ()) := by
  rw [save, saveWithin, prepare, hready]
  simp only [Document.hasTooLong_unlimited, put, h.write, h.rename, Bool.false_eq_true, if_false]
  rfl

/-- Where one document is taken, the file can be replaced once the folder is there. -/
theorem Writable.filing (h : (file disk path).Writable) :
    ∃ ready here there, disk.makeFolder path.parent true = (ready, .ok ()) ∧
      ready.Filing path here there := by
  obtain ⟨d, after, hsave⟩ := h
  rw [save, saveWithin, prepare] at hsave
  cases hmake : disk.makeFolder path.parent true with
  | mk ready outcome =>
      cases outcome with
      | error fault =>
          simp only [hmake] at hsave
          exact nomatch congrArg Prod.snd hsave
      | ok _ =>
          simp only [hmake, Document.hasTooLong_unlimited, put, Bool.false_eq_true,
            if_false] at hsave
          cases hwrite : ready.write path.temporary d.render.toUTF8 with
          | error fault =>
              simp only [hwrite] at hsave
              exact nomatch congrArg Prod.snd hsave
          | ok written =>
              cases hrename : written.rename path.temporary path with
              | error fault =>
                  simp only [hwrite, hrename] at hsave
                  exact nomatch congrArg Prod.snd hsave
              | ok replaced =>
                  obtain ⟨here, there, hfiling⟩ := Disk.exists_filing
                    (Disk.hasFolder_of_makeFolder hmake) hwrite hrename
                  exact ⟨ready, here, there, rfl, hfiling⟩

/--
**A file that takes one document takes any, and then holds it**: the document is read from the
file, another one would be taken as well, and nothing is left of the temporary file.
-/
theorem Writable.save (h : (file disk path).Writable) {d : Document} (hd : d.ReadsBack) :
    ∃ after, (file disk path).save d = (file after path, .ok ()) ∧
      (file after path).Writable ∧ (file after path).load = .ok d ∧
      (file after path).hasTemporary = false := by
  obtain ⟨ready, here, there, hready, hfiling⟩ := h.filing
  have hagain := hfiling.replaced d.render.toUTF8
  have hmore := save_file (Disk.makeFolder_of_hasFolder hagain.folder) hagain d
  refine ⟨_, save_file hready hfiling d, ⟨d, _, hmore⟩, ?_, ?_⟩
  · exact load_of_render (Disk.file?_of_file hagain.target (hfiling.entry_there _)) hd.parse_render
  · simp only [hasTemporary, hagain.temporary, hfiling.entry_here, Option.isSome_none]

end Store

end FallingBlocks
