/-
What is printed is read back.

A document is printed without a blank in front and without anything that could be taken for
more of it behind, so a reader that is given the print and more text stops where the print
ends.  What may follow is what a printed array or object goes on with.

The reader runs on fuel.  One unit is spent on every call, and no call but the first for an
array, an object or a field leaves its place, so two units for a printed character are
enough.

Proved here for whole numbers, truth values, texts of plain characters, and arrays and objects
of such documents.  Whole numbers beside texts are all that a stored session is made
of; a floating-point number is read back only as far as its digits tell.
-/
import Mathlib.Tactic.Common
import FallingBlocks.Document.Parser
import FallingBlocks.Document.Printer

namespace FallingBlocks.Document

/-- What may follow a printed document: nothing, or what an array or object goes on with. -/
def Ends (rest : List Char) : Prop :=
  ∀ c ∈ rest.head?, c = ',' ∨ c = ']' ∨ c = '\x7d'

theorem ends_nil : Ends [] := by
  intro c hc
  exact nomatch hc

theorem ends_cons {c : Char} (h : c = ',' ∨ c = ']' ∨ c = '\x7d') (rest : List Char) :
    Ends (c :: rest) := by
  intro e he
  rw [← Option.some.inj he]
  exact h

/-- The print of a document begins with a token, and is read back whatever may follow it. -/
structure ReadsBack (d : Document) : Prop where
  /-- The first character is no blank, and does not close an array. -/
  head : ∃ c cs, d.print = c :: cs ∧ isSpace c = false ∧ c ≠ ']'
  reading : ∀ (depth fuel : Nat) (rest : List Char), Ends rest → 2 * d.print.length ≤ fuel →
    readValue .unlimited depth fuel (d.print ++ rest) = .ok (d, rest)

theorem skipSpace_cons {c : Char} (h : isSpace c = false) (s : List Char) :
    skipSpace (c :: s) = c :: s := by
  rw [skipSpace, List.dropWhile_cons_of_neg (by rw [h]; exact Bool.false_ne_true)]

/-- A printed document has no blanks in front. -/
theorem ReadsBack.skipSpace_print {d : Document} (h : d.ReadsBack) (rest : List Char) :
    skipSpace (d.print ++ rest) = d.print ++ rest := by
  obtain ⟨c, cs, hprint, hblank, -⟩ := h.head
  rw [hprint]
  exact skipSpace_cons hblank _

/-! ### Words and numbers -/

/-- What begins like neither a text nor an array nor an object is read as an atom. -/
theorem readValue_atom {c : Char} (htext : c ≠ '\x22') (harray : c ≠ '[') (hobject : c ≠ '\x7b')
    (limits : Limits) (depth fuel : Nat) (s : List Char) :
    readValue limits depth (fuel + 1) (c :: s) = readAtom limits (c :: s) := by
  rw [readValue]
  · exact fun _ h => htext (List.cons.inj h).1
  · exact fun _ h => harray (List.cons.inj h).1
  · exact fun _ h => hobject (List.cons.inj h).1

/-- An atom is read back if the reader of atoms does so. -/
theorem readsBack_of_atom {d : Document} {c : Char} {cs : List Char} (hprint : d.print = c :: cs)
    (hblank : isSpace c = false) (hstart : c ≠ '\x22' ∧ c ≠ '[' ∧ c ≠ '\x7b' ∧ c ≠ ']')
    (hread : ∀ rest, Ends rest → readAtom .unlimited (c :: cs ++ rest) = .ok (d, rest)) :
    d.ReadsBack := by
  obtain ⟨htext, harray, hobject, hclose⟩ := hstart
  refine ⟨⟨c, cs, hprint, hblank, hclose⟩, fun depth fuel rest hrest hfuel => ?_⟩
  rw [hprint] at hfuel ⊢
  cases fuel with
  | zero => exact absurd hfuel (by simp)
  | succ fuel =>
      rw [List.cons_append, readValue_atom htext harray hobject, ← List.cons_append]
      exact hread rest hrest

theorem readsBack_bool (b : Bool) : (bool b).ReadsBack := by
  cases b
  · exact readsBack_of_atom rfl rfl (by decide) fun _ _ => rfl
  · exact readsBack_of_atom rfl rfl (by decide) fun _ _ => rfl

/-- The digits of a number begin with a digit, which is a zero only if it is all there is. -/
theorem toDigits_head (n : Nat) : ∃ c cs, Nat.toDigits 10 n = c :: cs ∧ c.isDigit = true ∧
    (c = '0' → cs = []) := by
  have hdigit : ∀ c ∈ Nat.toDigits 10 n, c.isDigit = true :=
    fun c hc => Nat.isDigit_of_mem_toDigits (by decide) (by decide) hc
  induction n using Nat.strongRecOn with
  | ind n ih =>
      by_cases hlt : n < 10
      · rw [Nat.toDigits_of_lt_base hlt] at hdigit ⊢
        exact ⟨_, [], rfl, hdigit _ (by simp), fun _ => rfl⟩
      · have hsplit := Nat.toDigits_of_base_le (b := 10) (n := n) (by decide) (by omega)
        obtain ⟨c, cs, htop, hc, hzero⟩ := ih (n / 10) (by omega)
          fun c hc => Nat.isDigit_of_mem_toDigits (by decide) (by decide) hc
        rw [htop] at hsplit
        refine ⟨c, _, hsplit, hc, fun h => ?_⟩
        -- a lone zero in front would leave nothing of the number
        have hlead : Nat.ofDigitChars 10 (Nat.toDigits 10 (n / 10)) 0 = n / 10 :=
          Nat.ofDigitChars_ten_toDigits
        rw [htop, h, hzero h] at hlead
        have hnone : n / 10 = 0 := hlead.symm
        omega

/-- A run of plain digits ends where what may follow it begins. -/
theorem spanDigits_append {ds : List Char} (hds : ∀ c ∈ ds, c.isDigit = true) {rest : List Char}
    (hrest : Ends rest) : Decimal.spanDigits (ds ++ rest) = (ds, rest) := by
  have hall : ∀ c ∈ ds, Decimal.isPlainDigit c = true := hds
  rw [Decimal.spanDigits, List.takeWhile_append_of_pos hall, List.dropWhile_append_of_pos hall]
  cases rest with
  | nil => simp
  | cons c cs =>
      have hc : Decimal.isPlainDigit c = false := by
        rcases hrest c rfl with rfl | rfl | rfl <;> rfl
      simp [hc]

theorem readMagnitude_toDigits (n : Nat) {rest : List Char} (hrest : Ends rest) :
    readMagnitude (Nat.toDigits 10 n ++ rest) = .ok (Nat.toDigits 10 n, rest) := by
  obtain ⟨c, cs, hdigits, hc, hzero⟩ := toDigits_head n
  have hplain : ∀ d ∈ Nat.toDigits 10 n, d.isDigit = true := fun d hd =>
    Nat.isDigit_of_mem_toDigits (by decide) (by decide) hd
  rw [hdigits] at hplain ⊢
  by_cases h : c = '0'
  · rw [hzero h, h]
    rfl
  · rw [List.cons_append, readMagnitude, ← List.cons_append, spanDigits_append hplain hrest]
    exact fun _ h' => h (List.cons.inj h').1

/-- Nothing that may follow a whole number makes it a number with a fraction. -/
theorem no_fraction {rest : List Char} (hrest : Ends rest) :
    readFraction rest = none ∧ readExponent rest = none := by
  cases rest with
  | nil => exact ⟨rfl, rfl⟩
  | cons c cs => rcases hrest c rfl with rfl | rfl | rfl <;> exact ⟨rfl, rfl⟩

theorem readUnsigned_toDigits (negative : Bool) (n : Nat) {rest : List Char} (hrest : Ends rest) :
    readUnsigned .unlimited negative (Nat.toDigits 10 n ++ rest)
      = .ok (int (if negative then -(n : Int) else n), rest) := by
  obtain ⟨hfraction, hexponent⟩ := no_fraction hrest
  rw [readUnsigned, readMagnitude_toDigits n hrest]
  simp only [bind, Except.bind, hfraction, hexponent, Option.map_none, Option.getD_none,
    Option.isNone_none, and_self, if_true, Nat.ofDigitChars_ten_toDigits]
  rfl

theorem ne_of_isDigit {c e : Char} (hc : c.isDigit = true) (he : e.isDigit = false) : c ≠ e := by
  rintro rfl
  exact Bool.false_ne_true (he.symm.trans hc)

/-- A digit starts none of the words. -/
theorem readAtom_digit {c : Char} (hc : c.isDigit = true) (limits : Limits) (s : List Char) :
    readAtom limits (c :: s) = readUnsigned limits false (c :: s) := by
  rw [readAtom]
  · exact fun _ h => ne_of_isDigit hc rfl (List.cons.inj h).1
  · exact fun _ h => ne_of_isDigit hc rfl (List.cons.inj h).1
  · exact fun _ h => ne_of_isDigit hc rfl (List.cons.inj h).1
  · exact fun _ h => ne_of_isDigit hc rfl (List.cons.inj h).1
  · exact fun _ h => ne_of_isDigit hc rfl (List.cons.inj h).1
  · exact fun _ h => ne_of_isDigit hc rfl (List.cons.inj h).1
  · exact fun _ h => ne_of_isDigit hc rfl (List.cons.inj h).1

theorem readAtom_minus {c : Char} (hc : c.isDigit = true) (limits : Limits) (s : List Char) :
    readAtom limits ('-' :: c :: s) = readUnsigned limits true (c :: s) := by
  rw [readAtom]
  exact fun _ h => ne_of_isDigit hc rfl (List.cons.inj h).1

/-- **Whole numbers of any size are read back.** -/
theorem readsBack_int (n : Int) : (int n).ReadsBack := by
  obtain ⟨c, cs, hdigits, hc, -⟩ := toDigits_head n.natAbs
  have hblank : isSpace c = false := by
    simp [isSpace, ne_of_isDigit hc]
  have hstart : c ≠ '\x22' ∧ c ≠ '[' ∧ c ≠ '\x7b' ∧ c ≠ ']' :=
    ⟨ne_of_isDigit hc rfl, ne_of_isDigit hc rfl, ne_of_isDigit hc rfl, ne_of_isDigit hc rfl⟩
  by_cases hneg : n < 0
  · have hprint : (int n).print = '-' :: c :: cs := by
      rw [print, Decimal.text, if_pos hneg, hdigits]
    refine readsBack_of_atom hprint rfl (by decide) fun rest hrest => ?_
    have hread := readUnsigned_toDigits true n.natAbs hrest
    rw [List.cons_append, List.cons_append, readAtom_minus hc, ← List.cons_append, ← hdigits, hread]
    simp only [if_true, Except.ok.injEq, Prod.mk.injEq, int.injEq, and_true]
    omega
  · have hprint : (int n).print = c :: cs := by
      rw [print, Decimal.text, if_neg hneg, hdigits]
    refine readsBack_of_atom hprint hblank hstart fun rest hrest => ?_
    have hread := readUnsigned_toDigits false n.natAbs hrest
    rw [List.cons_append, readAtom_digit hc, ← List.cons_append, ← hdigits, hread]
    simp only [Bool.false_eq_true, if_false, Except.ok.injEq, Prod.mk.injEq, int.injEq, and_true]
    omega

/-! ### Texts -/

/-- Whether a character is printed as it is: it is printable, and no quote or backslash. -/
def isPlain (c : Char) : Bool :=
  decide (0x20 ≤ c.toNat) && decide (c.toNat ≤ 0x7e) && c != Text.doubleQuote && c != Text.backslash

/-- A text of characters that are all printed as they are. -/
def PlainText (t : Text) : Prop :=
  ∃ cs : List Char, t = Text.ofChars cs ∧ cs.all isPlain = true

theorem plainText_ofString {s : String} (h : s.toList.all isPlain = true) : PlainText s :=
  ⟨s.toList, rfl, h⟩

variable {c : Char} {cs : List Char}

theorem escapedChar_plain (h : isPlain c = true) : escapedChar c = [c] := by
  simp only [isPlain, Bool.and_eq_true, decide_eq_true_eq, bne_iff_ne] at h
  obtain ⟨⟨⟨hlow, hhigh⟩, hquote⟩, hbackslash⟩ := h
  have hcontrol (e : Char) (he : e.toNat < 0x20) : c ≠ e := by
    rintro rfl
    omega
  rw [escapedChar, if_neg (not_or.mpr ⟨hquote, hbackslash⟩), if_neg (hcontrol _ (by decide)),
    if_neg (hcontrol _ (by decide)), if_neg (hcontrol _ (by decide)),
    if_neg (hcontrol _ (by decide)), if_neg (hcontrol _ (by decide)), if_pos ⟨hlow, hhigh⟩]

theorem flatMap_escaped_plain (h : cs.all isPlain = true) :
    (Text.ofChars cs).points.flatMap escaped = cs := by
  induction cs with
  | nil => rfl
  | cons c cs ih =>
      rw [List.all_cons, Bool.and_eq_true] at h
      have hrest := ih h.2
      simp only [Text.ofChars] at hrest ⊢
      rw [List.map_cons, List.flatMap_cons, hrest, escaped, escapedChar_plain h.1]
      rfl

theorem printText_plain (h : cs.all isPlain = true) (rest : List Char) :
    printText (Text.ofChars cs) ++ rest = '\x22' :: (cs ++ '\x22' :: rest) := by
  rw [printText, flatMap_escaped_plain h]
  simp [Text.doubleQuote]

theorem readUnits_plain (h : cs.all isPlain = true) (rest : List Char) :
    readUnits (cs ++ '\x22' :: rest) = some (cs.map Char.toNat, rest) := by
  induction cs with
  | nil => rfl
  | cons c cs ih =>
      rw [List.all_cons, Bool.and_eq_true] at h
      obtain ⟨hc, hcs⟩ := h
      have hfirst := hc
      simp only [isPlain, Bool.and_eq_true, decide_eq_true_eq, bne_iff_ne] at hfirst
      obtain ⟨⟨⟨hlow, -⟩, hquote⟩, hbackslash⟩ := hfirst
      rw [List.cons_append, readUnits, if_neg (Nat.not_lt.mpr hlow), ih hcs]
      · rfl
      · exact hquote
      · exact fun _ _ _ _ _ h _ => hbackslash h
      · exact fun _ _ h _ => hbackslash h

/-- A unit that is no half stands for itself. -/
theorem joinUnits_cons {n : Nat} (h : isHigh n = false) (rest : List Nat) :
    joinUnits (n :: rest) = .ofNumber n :: joinUnits rest := by
  cases rest with
  | nil => rfl
  | cons m rest => rw [joinUnits, h, Bool.false_and, if_neg Bool.false_ne_true]

theorem joinUnits_plain (h : cs.all isPlain = true) :
    joinUnits (cs.map Char.toNat) = cs.map .char := by
  induction cs with
  | nil => rfl
  | cons c cs ih =>
      rw [List.all_cons, Bool.and_eq_true] at h
      obtain ⟨hc, hcs⟩ := h
      simp only [isPlain, Bool.and_eq_true, decide_eq_true_eq] at hc
      obtain ⟨⟨⟨-, hhigh⟩, -⟩, -⟩ := hc
      have hnumber : CodePoint.ofNumber c.toNat = .char c := by
        rw [CodePoint.ofNumber, dif_neg (by unfold firstHalf; omega), Char.ofNat_toNat]
      have hunit : isHigh c.toNat = false := by
        rw [isHigh, decide_eq_false (by omega), Bool.false_and]
      rw [List.map_cons, List.map_cons, joinUnits_cons hunit, hnumber, ih hcs]

/-- A plain text is read back. -/
theorem readText_plain (h : cs.all isPlain = true) (rest : List Char) :
    readText (cs ++ '\x22' :: rest) = .ok (Text.ofChars cs, rest) := by
  rw [readText, readUnits_plain h]
  simp only [joinUnits_plain h]
  rfl

theorem readsBack_text {t : Text} (ht : PlainText t) : (text t).ReadsBack := by
  obtain ⟨cs, rfl, h⟩ := ht
  have hprint (rest : List Char) : (text (Text.ofChars cs)).print ++ rest
      = '\x22' :: (cs ++ '\x22' :: rest) := printText_plain h rest
  refine ⟨⟨'\x22', cs ++ ['\x22'], (List.append_nil _).symm.trans (hprint []), rfl, by decide⟩, ?_⟩
  intro depth fuel rest hrest hfuel
  rw [hprint]
  cases fuel with
  | zero =>
      have hlength := congrArg List.length (hprint [])
      simp only [List.append_nil, List.length_cons] at hlength
      omega
  | succ fuel =>
      rw [readValue, readText_plain h]
      rfl

/-! ### Arrays -/

/-- A blank in front of a printed document is passed over. -/
theorem ReadsBack.skipSpace_blank {d : Document} (h : d.ReadsBack) (rest : List Char) :
    skipSpace (' ' :: (d.print ++ rest)) = d.print ++ rest :=
  (List.dropWhile_cons_of_pos rfl).trans (h.skipSpace_print rest)

theorem length_printItems_pos (items : List Document) : 0 < (printItems items).length := by
  cases items <;> exact Nat.succ_pos _

theorem ends_printItems (items : List Document) (rest : List Char) :
    Ends (printItems items ++ rest) := by
  cases items with
  | nil => exact ends_cons (by decide) _
  | cons d items => exact ends_cons (by decide) _

/-- The items of an array are read back one after the other. -/
theorem readItems_print {items : List Document} (hitems : ∀ d ∈ items, d.ReadsBack)
    {d : Document} (hd : d.ReadsBack) (depth : Nat) {fuel : Nat} (done : List Document)
    (rest : List Char) (hfuel : 2 * (d.print.length + (printItems items).length) ≤ fuel + 1) :
    readItems .unlimited depth (fuel + 1) done (d.print ++ (printItems items ++ rest))
      = .ok (done.reverse ++ d :: items, rest) := by
  induction items generalizing d fuel done with
  | nil =>
      have hlast := length_printItems_pos []
      rw [readItems, hd.reading depth fuel _ (ends_printItems [] rest) (by omega)]
      simp [bind, Except.bind, printItems, skipSpace_cons (c := ']') rfl]
  | cons e items ih =>
      have he := hitems e List.mem_cons_self
      have hnext : printItems (e :: items) ++ rest
          = ',' :: ' ' :: (e.print ++ (printItems items ++ rest)) := by
        rw [printItems, List.cons_append, List.cons_append, List.append_assoc]
      have hlength : (printItems (e :: items)).length
          = e.print.length + (printItems items).length + 2 := by
        rw [printItems, List.length_cons, List.length_cons, List.length_append]
      rw [readItems, hd.reading depth fuel _ (ends_printItems _ rest) (by omega), hnext]
      obtain ⟨fuel, rfl⟩ : ∃ more, fuel = more + 1 := ⟨fuel - 1, by omega⟩
      simp only [bind, Except.bind, skipSpace_cons (c := ',') rfl, he.skipSpace_blank]
      rw [ih (fun d hd => hitems d (List.mem_cons_of_mem e hd)) he (d :: done) (by omega)]
      simp

/-- Without limits nothing lies too deep. -/
theorem not_beyond_unlimited (depth : Nat) :
    ¬ Limits.beyond Limits.unlimited.depth depth = true := Bool.false_ne_true

/-- **An array of documents that are read back is read back.** -/
theorem readsBack_array {items : List Document} (hitems : ∀ d ∈ items, d.ReadsBack) :
    (array items).ReadsBack := by
  cases items with
  | nil =>
      refine ⟨⟨'[', [']'], rfl, rfl, by decide⟩, fun depth fuel rest _ hfuel => ?_⟩
      obtain ⟨fuel, rfl⟩ : ∃ more, fuel = more + 1 := ⟨fuel - 1, by simp [print] at hfuel; omega⟩
      rfl
  | cons d items =>
      have hd := hitems d List.mem_cons_self
      have hprint : (array (d :: items)).print = '[' :: (d.print ++ printItems items) := rfl
      refine ⟨⟨'[', _, hprint, rfl, by decide⟩, fun depth fuel rest _ hfuel => ?_⟩
      rw [hprint, List.length_cons, List.length_append] at hfuel
      obtain ⟨fuel, rfl⟩ : ∃ more, fuel = more + 2 := ⟨fuel - 2, by omega⟩
      obtain ⟨c, cs, hhead, hblank, hclose⟩ := hd.head
      rw [hprint, List.cons_append, List.append_assoc, readValue, hd.skipSpace_print]
      have hfuel : 2 * (d.print.length + (printItems items).length) ≤ fuel + 1 := by omega
      have hread := readItems_print (fun e he => hitems e (List.mem_cons_of_mem d he)) hd
        (depth + 1) [] rest hfuel
      rw [hhead] at hread ⊢
      rw [if_neg (not_beyond_unlimited _)]
      split
      · rename_i h
        exact absurd (List.cons.inj h).1 hclose
      · rw [hread]
        rfl

/-! ### Objects -/

/-- A field that is read back, its name and its value. -/
structure FieldReadsBack (field : Text × Document) : Prop where
  name : PlainText field.1
  value : field.2.ReadsBack

theorem ends_printFields (fields : List (Text × Document)) (rest : List Char) :
    Ends (printFields fields ++ rest) := by
  cases fields with
  | nil => exact ends_cons (by decide) _
  | cons field fields => exact ends_cons (by decide) _

theorem length_printFields_pos (fields : List (Text × Document)) :
    0 < (printFields fields).length := by
  cases fields <;> exact Nat.succ_pos _

/-- A field of a new name is added at the end. -/
theorem setField_new {name : Text} {fields : List (Text × Document)}
    (h : name ∉ fields.map Prod.fst) (d : Document) :
    setField name d fields = fields ++ [(name, d)] := by
  induction fields with
  | nil => rfl
  | cons field fields ih =>
      rw [List.map_cons, List.mem_cons, not_or] at h
      have hother : ¬ (field.1 == name) = true := fun heq => h.1 (beq_iff_eq.mp heq).symm
      rw [setField, if_neg hother, ih h.2]
      rfl

/-- The print of a field, with what comes after it. -/
theorem readText_name {name : Text} (hname : PlainText name) (s : List Char) :
    ∃ body, printText name ++ s = '\x22' :: body ∧ readText body = .ok (name, s) := by
  obtain ⟨cs, rfl, h⟩ := hname
  exact ⟨_, printText_plain h s, readText_plain h s⟩

/-- A blank in front of the name of a field is passed over. -/
theorem skipSpace_name {name : Text} (hname : PlainText name) (s : List Char) :
    skipSpace (' ' :: (printText name ++ s)) = printText name ++ s := by
  obtain ⟨body, hprint, -⟩ := readText_name hname s
  rw [hprint]
  rfl

/-- Where no name occurs twice, the next one is new. -/
theorem name_new {name : Text} {d : Document} {done fields : List (Text × Document)}
    (h : ((done ++ (name, d) :: fields).map Prod.fst).Nodup) : name ∉ done.map Prod.fst := by
  rw [List.map_append, List.map_cons, List.nodup_append] at h
  exact fun hmem => h.2.2 _ hmem _ List.mem_cons_self rfl

/-- One field is read back, and what follows says whether there are more. -/
theorem readFields_field {name : Text} {d : Document} (hfield : FieldReadsBack (name, d))
    (depth : Nat) {fuel : Nat} {done : List (Text × Document)} (hnew : name ∉ done.map Prod.fst)
    {rest : List Char} (hrest : Ends rest) (hfuel : 2 * d.print.length ≤ fuel) :
    readFields .unlimited depth (fuel + 1) done
        (printText name ++ ':' :: ' ' :: (d.print ++ rest))
      = match skipSpace rest with
        | '\x7d' :: rest => .ok (done ++ [(name, d)], rest)
        | ',' :: rest =>
            readFields .unlimited depth fuel (done ++ [(name, d)]) (skipSpace rest)
        | _ => .error .malformed := by
  obtain ⟨body, hprint, hname⟩ := readText_name hfield.name (':' :: ' ' :: (d.print ++ rest))
  rw [hprint, readFields, hname, ← setField_new hnew]
  simp only [bind, Except.bind, skipSpace_cons (c := ':') rfl, hfield.value.skipSpace_blank]
  rewrite [hfield.value.reading depth fuel _ hrest hfuel]
  rfl

/-- The fields of an object are read back one after the other, if their names are different. -/
theorem readFields_print {fields : List (Text × Document)}
    (hfields : ∀ field ∈ fields, FieldReadsBack field) {name : Text} {d : Document}
    (hfield : FieldReadsBack (name, d)) (depth : Nat) {fuel : Nat} {done : List (Text × Document)}
    (hnames : ((done ++ (name, d) :: fields).map Prod.fst).Nodup) (rest : List Char)
    (hfuel : 2 * (d.print.length + (printFields fields).length) ≤ fuel + 1) :
    readFields .unlimited depth (fuel + 1) done
        (printText name ++ ':' :: ' ' :: (d.print ++ (printFields fields ++ rest)))
      = .ok (done ++ (name, d) :: fields, rest) := by
  induction fields generalizing name d fuel done with
  | nil =>
      have hlast := length_printFields_pos []
      rw [readFields_field hfield depth (name_new hnames) (ends_printFields [] rest) (by omega)]
      rfl
  | cons next fields ih =>
      obtain ⟨name', d'⟩ := next
      have hfield' := hfields _ List.mem_cons_self
      have hprint : printFields ((name', d') :: fields) ++ rest = ',' :: ' ' ::
          (printText name' ++ ':' :: ' ' :: (d'.print ++ (printFields fields ++ rest))) := by
        simp [printFields]
      have hlength : d'.print.length + (printFields fields).length
          < (printFields ((name', d') :: fields)).length := by
        simp only [printFields, List.length_cons, List.length_append]
        omega
      rw [readFields_field hfield depth (name_new hnames) (ends_printFields _ rest) (by omega),
        hprint]
      obtain ⟨fuel, rfl⟩ : ∃ more, fuel = more + 1 := ⟨fuel - 1, by omega⟩
      rw [List.append_cons] at hnames
      simp only [skipSpace_cons (c := ',') rfl, skipSpace_name hfield'.name]
      rw [ih (fun field hf => hfields field (List.mem_cons_of_mem _ hf)) hfield' hnames (by omega)]
      simp

/-- **An object of fields that are read back is read back**, if no two have the same name. -/
theorem readsBack_object {fields : List (Text × Document)}
    (hfields : ∀ field ∈ fields, FieldReadsBack field) (hnames : (fields.map Prod.fst).Nodup) :
    (object fields).ReadsBack := by
  cases fields with
  | nil =>
      refine ⟨⟨'\x7b', ['\x7d'], rfl, rfl, by decide⟩, fun depth fuel rest _ hfuel => ?_⟩
      obtain ⟨fuel, rfl⟩ : ∃ more, fuel = more + 1 := ⟨fuel - 1, by simp [print] at hfuel; omega⟩
      rfl
  | cons field fields =>
      obtain ⟨name, d⟩ := field
      have hfield := hfields _ List.mem_cons_self
      have hprint : (object ((name, d) :: fields)).print
          = '\x7b' :: (printText name ++ ':' :: ' ' :: (d.print ++ printFields fields)) := rfl
      refine ⟨⟨'\x7b', _, hprint, rfl, by decide⟩, fun depth fuel rest _ hfuel => ?_⟩
      rw [hprint] at hfuel ⊢
      simp only [List.length_cons, List.length_append] at hfuel
      obtain ⟨fuel, rfl⟩ : ∃ more, fuel = more + 2 := ⟨fuel - 2, by omega⟩
      have hfuel : 2 * (d.print.length + (printFields fields).length) ≤ fuel + 1 := by omega
      have hread := readFields_print (fun e he => hfields e (List.mem_cons_of_mem _ he)) hfield
        (depth + 1) (hnames : (([] ++ (name, d) :: fields).map Prod.fst).Nodup) rest hfuel
      obtain ⟨body, hquoted, -⟩ := readText_name hfield.name
        (':' :: ' ' :: (d.print ++ (printFields fields ++ rest)))
      simp only [List.cons_append, List.append_assoc]
      rw [hquoted] at hread ⊢
      rw [readValue, if_neg (not_beyond_unlimited _), skipSpace_cons (c := '\x22') rfl]
      exact congrArg (Except.map fun x => (object x.1, x.2)) hread

/-! ### Whole texts -/

/-- **The text that a document is rendered as is parsed as that document.** -/
theorem ReadsBack.parse_render {d : Document} (h : d.ReadsBack) :
    parse .unlimited d.render = .ok d := by
  have hread := h.reading 0 (2 * d.print.length + 2) [] ends_nil (by omega)
  have hblank := h.skipSpace_print []
  rw [List.append_nil] at hread hblank
  rw [parse, render, String.toList_ofList, hblank]
  simp only [hread, bind, Except.bind]
  rfl

end FallingBlocks.Document
