/-
Row masks.

A row of the board is one integer whose bit `c` says whether column `c` is filled.
Masks are not limited in size, and a negative mask is read in two's complement: it
has all but finitely many columns filled.  `Mask.has` is the view every other
operation is described by.
-/

namespace FallingBlocks

/-- One row of a board as the set of its filled columns, bit `c` for column `c`. -/
abbrev Mask := Int

namespace Mask

/-- Whether column `c` of the mask is filled. -/
def has : Mask → Nat → Bool
  | .ofNat n, c => n.testBit c
  | .negSucc n, c => !n.testBit c

/-- The mask with column `c` filled as well. -/
def insert : Mask → Nat → Mask
  | .ofNat n, c => .ofNat (n ||| Nat.pow 2 c)
  | .negSucc n, c => .negSucc (n ^^^ (n &&& Nat.pow 2 c))

@[simp] theorem has_zero (c : Nat) : has 0 c = false := by
  simp [has]

theorem has_insert (m : Mask) (c d : Nat) : (insert m c).has d = (m.has d || decide (c = d)) := by
  cases m with
  | ofNat n => simp [has, insert, Nat.pow_eq, Nat.testBit_or, Nat.testBit_two_pow]
  | negSucc n =>
    simp only [has, insert, Nat.pow_eq, Nat.testBit_xor, Nat.testBit_and, Nat.testBit_two_pow]
    cases n.testBit d <;> by_cases h : c = d <;> simp [h]

/-- The mask of the first `width` columns, all filled. -/
def full (width : Nat) : Mask :=
  Nat.pow 2 width - 1

/-- What the mask says about the first `width` columns, as a number below `2 ^ width`. -/
def visible (width : Nat) (m : Mask) : Nat :=
  (m % Nat.pow 2 width).toNat

/-- How many binary digits of `n` are one. -/
def card (n : Nat) : Nat :=
  (List.range (n.log2 + 1)).countP n.testBit

end Mask

end FallingBlocks
