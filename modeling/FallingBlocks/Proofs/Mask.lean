/-
What a row mask says about its columns.

A mask between 0 and `2 ^ width` is nothing but the set of its filled columns: it is
full exactly when every column is, and its number of one bits is the size of that set.
Filling a column inside the width keeps a mask in that range.
-/
import Mathlib.Data.Int.Interval
import FallingBlocks.Mask

namespace FallingBlocks.Mask

/-! ### Bits of masks that are not negative -/

theorem has_of_nonneg {m : Mask} (h : 0 ≤ m) (c : Nat) : m.has c = m.toNat.testBit c := by
  obtain ⟨n, rfl⟩ := Int.eq_ofNat_of_zero_le h
  rfl

theorem insert_of_nonneg {m : Mask} (h : 0 ≤ m) (c : Nat) :
    m.insert c = ((m.toNat ||| 2 ^ c : Nat) : Int) := by
  obtain ⟨n, rfl⟩ := Int.eq_ofNat_of_zero_le h
  rfl

theorem toNat_lt {m : Int} {w : Nat} (h : m < 2 ^ w) : m.toNat < 2 ^ w := by
  have hpos : 0 < 2 ^ w := Nat.two_pow_pos w
  have hcast : ((2 ^ w : Nat) : Int) = 2 ^ w := Int.natCast_pow 2 w
  omega

theorem insert_nonneg {m : Mask} (h : 0 ≤ m) (c : Nat) : 0 ≤ m.insert c := by
  rw [insert_of_nonneg h]
  exact Int.natCast_nonneg _

/-- Filling a column inside the width sets no bit outside it. -/
theorem insert_lt {m : Mask} {w c : Nat} (h : 0 ≤ m) (hm : m < 2 ^ w) (hc : c < w) :
    m.insert c < 2 ^ w := by
  have hbit : 2 ^ c < 2 ^ w := Nat.pow_lt_pow_right (by omega) hc
  have hor : m.toNat ||| 2 ^ c < 2 ^ w := Nat.or_lt_two_pow (toNat_lt hm) hbit
  rw [insert_of_nonneg h]
  exact_mod_cast hor

theorem has_eq_false_of_le {m : Mask} {w c : Nat} (h : 0 ≤ m) (hm : m < 2 ^ w) (hc : w ≤ c) :
    m.has c = false := by
  rw [has_of_nonneg h]
  exact Nat.testBit_lt_two_pow
    (Nat.lt_of_lt_of_le (toNat_lt hm) (Nat.pow_le_pow_right (by omega) hc))

/-- A mask inside the width says nothing but what is visible of it. -/
theorem visible_eq {m : Mask} {w : Nat} (h : 0 ≤ m) (hm : m < 2 ^ w) : visible w m = m.toNat := by
  have hpow : ((Nat.pow 2 w : Nat) : Int) = 2 ^ w := Int.natCast_pow 2 w
  rw [visible, hpow, Int.emod_eq_of_lt h hm]

/-- Two masks inside the width that fill the same columns are one. -/
theorem eq_of_has {m n : Mask} {w : Nat} (hm0 : 0 ≤ m) (hm : m < 2 ^ w) (hn0 : 0 ≤ n)
    (hn : n < 2 ^ w) (h : ∀ c < w, m.has c = n.has c) : m = n := by
  have hbits : m.toNat = n.toNat := by
    apply Nat.eq_of_testBit_eq
    intro c
    rw [← has_of_nonneg hm0, ← has_of_nonneg hn0]
    by_cases hc : c < w
    · exact h c hc
    · rw [has_eq_false_of_le hm0 hm (Nat.le_of_not_lt hc),
        has_eq_false_of_le hn0 hn (Nat.le_of_not_lt hc)]
  rw [← Int.toNat_of_nonneg hm0, hbits, Int.toNat_of_nonneg hn0]

/-- A mask inside the width that is not empty fills one of its columns. -/
theorem exists_has {m : Mask} {w : Nat} (h : 0 ≤ m) (hm : m < 2 ^ w) (hne : m ≠ 0) :
    ∃ col < w, m.has col = true := by
  by_contra hnone
  refine hne (eq_of_has h hm (Int.le_refl 0) (Int.pow_pos (by decide)) fun col hcol => ?_)
  rw [has_zero]
  by_contra hhas
  exact hnone ⟨col, hcol, by simpa using hhas⟩

/-! ### Full masks -/

theorem full_eq (w : Nat) : full w = ((2 ^ w - 1 : Nat) : Int) := by
  rw [Int.natCast_sub Nat.one_le_two_pow, Int.natCast_pow]
  rfl

theorem has_full (w c : Nat) : (full w).has c = decide (c < w) := by
  rw [full_eq]
  exact Nat.testBit_two_pow_sub_one w c

theorem full_nonneg (w : Nat) : 0 ≤ full w := by
  rw [full_eq]
  exact Int.natCast_nonneg _

theorem full_lt (w : Nat) : full w < 2 ^ w := by
  rw [full_eq]
  exact_mod_cast Nat.sub_lt (Nat.two_pow_pos w) Nat.one_pos

/-- A mask inside the width is full exactly when every column is filled. -/
theorem eq_full_iff {m : Mask} {w : Nat} (h : 0 ≤ m) (hm : m < 2 ^ w) :
    m = full w ↔ ∀ c < w, m.has c = true := by
  constructor
  · intro heq c hc
    rw [heq, has_full]
    simp [hc]
  · intro hall
    refine eq_of_has h hm (full_nonneg w) (full_lt w) fun c hc => ?_
    rw [hall c hc, has_full, decide_eq_true hc]

/-! ### Counting one bits -/

/-- The one bits of a number below `2 ^ w` are the columns below `w` that it fills. -/
theorem card_eq {n w : Nat} (hn : n < 2 ^ w) :
    card n = ((Finset.range w).filter fun c => n.testBit c = true).card := by
  have hrange : card n = ((Finset.range (n.log2 + 1)).filter fun c => n.testBit c = true).card := by
    rw [card, List.countP_eq_length_filter,
      ← List.toFinset_card_of_nodup (List.nodup_range.filter _)]
    congr 1
    ext c
    simp
  rw [hrange]
  congr 1
  ext c
  simp only [Finset.mem_filter, Finset.mem_range]
  constructor
  · rintro ⟨-, hc⟩
    refine ⟨?_, hc⟩
    by_contra hle
    rw [Nat.testBit_lt_two_pow (Nat.lt_of_lt_of_le hn
      (Nat.pow_le_pow_right (by omega) (Nat.le_of_not_lt hle)))] at hc
    exact Bool.noConfusion hc
  · rintro ⟨-, hc⟩
    refine ⟨?_, hc⟩
    by_contra hle
    rw [Nat.testBit_lt_two_pow (Nat.lt_of_lt_of_le Nat.lt_log2_self
      (Nat.pow_le_pow_right (by omega) (Nat.le_of_not_lt hle)))] at hc
    exact Bool.noConfusion hc

end FallingBlocks.Mask
