/-
Capital letters, as far as names made of plain capitals are concerned.

A name such as `T` or `WARNING` is recognised in any spelling whose capital form it
is.  Besides the plain small letters a few others have a capital form in plain letters: the
dotless i, the long s, the sharp s and the joined letters.  The form of some of them has
several letters.
-/

namespace FallingBlocks.Text

/-- The letters other than plain ones whose capital form is plain, with that form. -/
def plainForms : List (Char × List Char) :=
  [('ı', ['I']), ('ſ', ['S']), ('ß', ['S', 'S']), ('ﬀ', ['F', 'F']), ('ﬁ', ['F', 'I']),
   ('ﬂ', ['F', 'L']), ('ﬃ', ['F', 'F', 'I']), ('ﬄ', ['F', 'F', 'L']), ('ﬅ', ['S', 'T']),
   ('ﬆ', ['S', 'T'])]

/-- The plain capital form of a character, the character itself if it has none. -/
def capitals (c : Char) : List Char :=
  ((plainForms.find? fun form => form.1 = c).map (·.2)).getD [c.toUpper]

end FallingBlocks.Text
