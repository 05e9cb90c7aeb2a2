import Foldbook.Proofs.Double.Whole

/-!
# Seventeen digits of a double

A whole number in the query language is the double nearest to its first
seventeen digits.  For a number that is a double this is the number itself:
leaving the other digits out changes it by less than doubles differ.

* `near_roundTo`: the rounded number is near to the one that was rounded.
* `exists_value_ofDecimal`: the double of an exact number has its value.
-/

namespace Foldbook.Double

open Float.Model.UnpackedFloat (Sign)
open Decimal (digits)
open Query (Number)

/-! ## Rounding to digits -/

theorem length_digits_le_iff {n k : Nat} (hk : 0 < k) : (digits n).length ≤ k ↔ n < 10 ^ k :=
  Nat.length_toDigits_le_iff (by decide) hk

/-- What is cut off is at most half a unit of the last digit that is left. -/
theorem near_roundTo {n k : Nat} (hn : 10 ^ 16 * 10 ^ (k + 1) ≤ n) :
    Near ((n + 10 ^ (k + 1) / 2) / 10 ^ (k + 1) * 10 ^ (k + 1)) n := by
  have hunit : 10 ^ (k + 1) = 2 * (5 * 10 ^ k) := by
    rw [Nat.pow_succ]
    omega
  have hpos : 0 < 10 ^ k := Nat.pow_pos (by decide)
  have hsplit := Nat.div_add_mod' (n + 10 ^ (k + 1) / 2) (10 ^ (k + 1))
  have hmod := Nat.mod_lt (n + 10 ^ (k + 1) / 2) (show 0 < 10 ^ (k + 1) by omega)
  -- seventeen digits are enough because `2 ^ 53 < 10 ^ 16`
  constructor <;> omega

/-- A number of many digits is rounded to seventeen, or to a power of ten. -/
theorem roundTo_long {n : Nat} (hn : 10 ^ 17 ≤ n) (negative : Bool) :
    ∃ k c, (Decimal.mk negative n 0).roundTo 17 = ⟨negative, c, (k + 1 : Nat)⟩ ∧
      k + 18 = (digits n).length ∧ 10 ^ 16 ≤ c ∧ (digits c).length ≤ 18 ∧
      Near (c * 10 ^ (k + 1)) n := by
  have hlong : ¬ (digits n).length ≤ 17 := by
    rw [length_digits_le_iff (by decide)]
    omega
  obtain ⟨k, hk⟩ : ∃ k, (digits n).length = k + 18 :=
    ⟨(digits n).length - 18, by omega⟩
  have hleast : 10 ^ 16 * 10 ^ (k + 1) ≤ n := by
    rw [← Nat.pow_add, ← Nat.not_lt, ← length_digits_le_iff (by omega)]
    omega
  have hgreatest : n < 10 ^ 17 * 10 ^ (k + 1) := by
    rw [← Nat.pow_add, ← length_digits_le_iff (by omega)]
    omega
  have hpos : 0 < 10 ^ (k + 1) := Nat.pow_pos (by decide)
  refine ⟨k, (n + 10 ^ (k + 1) / 2) / 10 ^ (k + 1), ?_, hk.symm, ?_, ?_, near_roundTo hleast⟩
  · have hsurplus : (digits n).length - 17 = k + 1 := by omega
    rw [Decimal.roundTo]
    dsimp only
    rw [hsurplus, if_neg (by omega)]
    simp only [Nat.pow_eq, Int.zero_add]
  · rw [Nat.le_div_iff_mul_le hpos]
    omega
  · rw [length_digits_le_iff (by decide), Nat.div_lt_iff_lt_mul hpos]
    omega

/-! ## The double of a whole number -/

variable {m n : Nat} {e : Int}

theorem toFloat_of_ofScientific {d : Decimal} (hne : d.coefficient ≠ 0) (hexponent : 0 ≤ d.exponent)
    (hmagnitude : d.magnitude ≤ 310) (h : Normal m e)
    (hsize : Float.ofScientific d.coefficient false d.exponent.natAbs = ofNormal .positive h) :
    d.toFloat = ofNormal (if d.negative then .negative else .positive) h := by
  have hgreatest : ¬ d.magnitude > 310 := by omega
  have hleast : ¬ d.magnitude < -400 := by
    rw [Decimal.magnitude]
    omega
  have hsign : decide (d.exponent < 0) = false := decide_eq_false (by omega)
  rw [Decimal.toFloat, if_neg hne, if_neg hgreatest, if_neg hleast, hsign, hsize]
  cases d.negative
  · rfl
  · exact neg_ofNormal .positive h

theorem length_digits_of_exact (h : Exact n) : (digits n).length ≤ 309 := by
  obtain ⟨m, e, hm, he, rfl⟩ := h
  rw [length_digits_le_iff (by decide)]
  calc m * 2 ^ e ≤ 2 ^ 53 * 2 ^ 971 :=
        Nat.mul_le_mul (Nat.le_of_lt hm) (Nat.pow_le_pow_right (by decide) he)
    _ < 10 ^ 309 := by decide +kernel

/-- The double of a whole number that is one has its sign and its value. -/
theorem exists_value_ofDecimal (hexact : Exact n) (hpos : 0 < n) (negative : Bool) :
    ∃ m e, ∃ h : Normal m e, Spells m e n ∧
      (Number.ofDecimal { negative, coefficient := n }).value =
        ofNormal (if negative then .negative else .positive) h := by
  have hlength := length_digits_of_exact hexact
  obtain ⟨m, e, h, hspells⟩ := exists_normal hexact hpos
  refine ⟨m, e, h, hspells, ?_⟩
  change ((Decimal.mk negative n 0).roundTo 17).toFloat = _
  by_cases hlong : 10 ^ 17 ≤ n
  · obtain ⟨k, c, hround, hk, hleast, hshort, hnear⟩ := roundTo_long hlong negative
    obtain ⟨j, rfl⟩ := Int.eq_ofNat_of_zero_le (hspells.exponent_nonneg h.fits (by omega))
    rw [hround]
    refine toFloat_of_ofScientific (show c ≠ 0 by omega) (Int.natCast_nonneg _) ?_ h
      (ofScientific_large h (c := c) (d := k + 1) (by omega) (by omega) ?_)
    · change ((digits c).length : Int) - 1 + (k + 1 : Nat) ≤ 310
      omega
    · rwa [hspells.eq (Int.natCast_nonneg _)] at hnear
  · have hshort : (digits n).length ≤ 17 := by
      rw [length_digits_le_iff (by decide)]
      omega
    have hround : (Decimal.mk negative n 0).roundTo 17 = ⟨negative, n, 0⟩ := by
      rw [Decimal.roundTo, if_pos (by dsimp only; omega)]
    rw [hround]
    refine toFloat_of_ofScientific (show n ≠ 0 by omega) (Int.le_refl 0) ?_ h ?_
    · change ((digits n).length : Int) - 1 + 0 ≤ 310
      omega
    · by_cases hsmall : n < 2 ^ 53
      · exact ofScientific_small h hspells hsmall
      · obtain ⟨j, rfl⟩ := Int.eq_ofNat_of_zero_le (hspells.exponent_nonneg h.fits (by omega))
        refine ofScientific_large h (c := n) (d := 0) (by omega) (by decide) ?_
        rw [Nat.pow_zero, Nat.mul_one]
        have hvalue : n = m * 2 ^ j := hspells.eq (Int.natCast_nonneg _)
        rw [← hvalue]
        exact Near.refl hpos

end Foldbook.Double
