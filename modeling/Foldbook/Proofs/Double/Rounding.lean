import Mathlib

/-!
# Rounding to a double

A natural number that lies close enough to a double is rounded to it, at any
scale.

* `roundedMantissa_shiftRight`: what is left when bits are shifted out of a
  number is the multiple it is nearest to.
* `Near` is the distance at which a number has no other double as near: less
  than the `2^54`-th part of the double, which is half a unit in its last
  place above it, and half a unit of the binade below a power of two.
* `roundWithAccuracy_near`: such a number is rounded to that double.
-/

namespace Foldbook.Double

open Float.Model Float.Model.UnpackedFloat

/-! ## Shifting bits out -/

theorem shiftRight_exact (t k : Nat) :
    ExtendedMantissa.mk t false false >>> (k + 1) =
      ⟨t / 2 ^ (k + 1), t / 2 ^ k % 2 != 0, t % 2 ^ k != 0⟩ := by
  induction k with
  | zero => simp [HShiftRight.hShiftRight, Nat.repeat, ExtendedMantissa.shiftRightOne, Nat.mod_one]
  | succ k ih =>
      have hstep : ExtendedMantissa.mk t false false >>> (k + 1 + 1) =
          (ExtendedMantissa.mk t false false >>> (k + 1)).shiftRightOne := rfl
      have hsticky : (t / 2 ^ k % 2 != 0 || t % 2 ^ k != 0) = (t % 2 ^ (k + 1) != 0) := by
        rw [Nat.mod_pow_succ, Bool.eq_iff_iff]
        simp only [Bool.or_eq_true, bne_iff_ne, ne_eq, Nat.add_eq_zero_iff, Nat.mul_eq_zero,
          Nat.two_pow_pos k |>.ne', false_or]
        tauto
      rw [hstep, ih, ExtendedMantissa.shiftRightOne, hsticky, Nat.div_div_eq_div_mul,
        ← Nat.pow_succ]

theorem mantissa_shiftRight (t k : Nat) :
    (ExtendedMantissa.mk t false false >>> k).mantissa = t / 2 ^ k := by
  cases k with
  | zero => simp [HShiftRight.hShiftRight, Nat.repeat]
  | succ k => rw [shiftRight_exact]

/-- Shifting rounds to the nearest multiple. -/
theorem roundedMantissa_shiftRight {t m k : Nat} (hbelow : 2 * (m * 2 ^ k) < 2 * t + 2 ^ k)
    (habove : 2 * t < 2 * (m * 2 ^ k) + 2 ^ k) :
    (ExtendedMantissa.mk t false false >>> k).roundedMantissa = m := by
  cases k with
  | zero =>
      have htm : t = m := by omega
      exact htm
  | succ k =>
      have hpos : 0 < 2 ^ k := Nat.two_pow_pos k
      have hsplit := Nat.div_add_mod t (2 ^ k)
      have hmod := Nat.mod_lt t hpos
      have hhalf : t / 2 ^ (k + 1) = t / 2 ^ k / 2 := by
        rw [Nat.pow_succ, Nat.div_div_eq_div_mul]
      rw [shiftRight_exact, hhalf]
      rw [Nat.pow_succ] at hbelow habove
      -- in halves of a unit, the number lies in the half behind `m` or in the half before it
      have hlow : 2 * m ≤ t / 2 ^ k + 1 := by
        by_contra hlt
        have : 2 ^ k * (t / 2 ^ k + 1 + 1) ≤ 2 ^ k * (2 * m) := Nat.mul_le_mul_left _ (by omega)
        grind
      have hhigh : t / 2 ^ k ≤ 2 * m := by
        by_contra hlt
        have : 2 ^ k * (2 * m + 1) ≤ 2 ^ k * (t / 2 ^ k) := Nat.mul_le_mul_left _ (by omega)
        grind
      rcases (by omega : t / 2 ^ k = 2 * m ∨ t / 2 ^ k + 1 = 2 * m) with hbehind | hbefore
      · have hround : (t / 2 ^ k % 2 != 0) = false := by simp [hbehind]
        have hm : t / 2 ^ k / 2 = m := by omega
        rw [hround, hm]
        cases t % 2 ^ k != 0 <;> rfl
      · have hround : (t / 2 ^ k % 2 != 0) = true := by
          rw [bne_iff_ne]
          omega
        have hsticky : (t % 2 ^ k != 0) = true := by
          rw [bne_iff_ne]
          intro hzero
          have : 2 ^ k * (t / 2 ^ k + 1) = 2 ^ k * (2 * m) := by rw [hbefore]
          grind
        have hm : t / 2 ^ k / 2 + 1 = m := by omega
        rw [hround, hsticky]
        exact hm

/-! ## Rounding -/

theorem shiftToTargetExponent_eq {t k : Nat} {x : Int} (hlog : t.log2 = 52 + k)
    (hx : -1074 ≤ x + k) :
    shiftToTargetExponent Format.binary64 t x .exact =
      (ExtendedMantissa.mk t false false >>> k, x + k) := by
  have htarget : Format.binary64.targetExponent (totalExponent t x) = x + k := by
    simp only [Format.targetExponent, totalExponent, Format.mantissaBits, Format.minExponent, hlog]
    norm_num
    omega
  have hshift : (x + k - x).toNat = k := by omega
  rw [shiftToTargetExponent, htarget, shiftToExponent, hshift]
  rfl

/-- Rounding shifts twice: first all bits out that there is no room for, and then one more if
rounding has made one more. -/
theorem roundWithAccuracy_eq (s : Sign) {t r k j : Nat} {x : Int} (ht : t.log2 = 52 + k)
    (hx : -1074 ≤ x + k) (hr : (ExtendedMantissa.mk t false false >>> k).roundedMantissa = r)
    (hlog : r.log2 = 52 + j) (hpos : 0 < r / 2 ^ j) :
    roundWithAccuracy Format.binary64 s t x .exact = .finite s (r / 2 ^ j) (x + k + j) hpos := by
  have hagain : shiftToTargetExponent Format.binary64 r (x + k) .exact =
      (ExtendedMantissa.mk r false false >>> j, x + k + j) :=
    shiftToTargetExponent_eq hlog (by omega)
  have hne : (ExtendedMantissa.mk r false false >>> j).mantissa ≠ 0 := by
    rw [mantissa_shiftRight]
    omega
  rw [roundWithAccuracy, shiftToTargetExponent_eq ht hx]
  dsimp only
  rw [hr, hagain]
  dsimp only
  rw [dif_neg hne]
  simp only [mantissa_shiftRight]

/-- The number `t` differs from `v` by less than the `2^54`-th part of `v`. -/
structure Near (t v : Nat) : Prop where
  below : v * 2 ^ 54 < t * 2 ^ 54 + v
  above : t * 2 ^ 54 < v * 2 ^ 54 + v

theorem Near.refl {v : Nat} (h : 0 < v) : Near v v := ⟨by omega, by omega⟩

theorem Near.mul_right {t v : Nat} (h : Near t v) {c : Nat} (hc : 0 < c) : Near (t * c) (v * c) := by
  obtain ⟨hbelow, habove⟩ := h
  constructor
  · calc v * c * 2 ^ 54 = v * 2 ^ 54 * c := Nat.mul_right_comm _ _ _
      _ < (t * 2 ^ 54 + v) * c := Nat.mul_lt_mul_of_pos_right hbelow hc
      _ = t * c * 2 ^ 54 + v * c := by rw [Nat.add_mul, Nat.mul_right_comm]
  · calc t * c * 2 ^ 54 = t * 2 ^ 54 * c := Nat.mul_right_comm _ _ _
      _ < (v * 2 ^ 54 + v) * c := Nat.mul_lt_mul_of_pos_right habove hc
      _ = v * c * 2 ^ 54 + v * c := by rw [Nat.add_mul, Nat.mul_right_comm]

/-- A mantissa and an exponent of a double that fills its mantissa. -/
structure Normal (m : Nat) (e : Int) : Prop where
  full : 2 ^ 52 ≤ m
  fits : m < 2 ^ 53
  low : -1074 < e
  high : e ≤ 971

theorem Normal.pos {m : Nat} {e : Int} (h : Normal m e) : 0 < m :=
  Nat.lt_of_lt_of_le (by decide) h.full

/-- A number near a double is rounded to it. -/
theorem roundWithAccuracy_near (s : Sign) {t m k : Nat} {x : Int} (hnormal : Normal m (x + k))
    (hnear : Near t (m * 2 ^ k)) :
    roundWithAccuracy Format.binary64 s t x .exact = .finite s m (x + k) hnormal.pos := by
  obtain ⟨hfull, hfits, hlow, -⟩ := hnormal
  obtain ⟨hbelow, habove⟩ := hnear
  have hunit : 2 ^ 52 * 2 ^ k ≤ m * 2 ^ k := Nat.mul_le_mul_right _ hfull
  have hunit' : m * 2 ^ k ≤ (2 ^ 53 - 1) * 2 ^ k := Nat.mul_le_mul_right _ (by omega)
  by_cases hbinade : m * 2 ^ k ≤ t ∨ m ≠ 2 ^ 52
  · -- the number lies in the binade of the double
    have hlog : t.log2 = 52 + k := by
      have hle : 2 ^ 52 * 2 ^ k ≤ t := by
        rcases hbinade with hle | hne
        · omega
        · have : (2 ^ 52 + 1) * 2 ^ k ≤ m * 2 ^ k := Nat.mul_le_mul_right _ (by omega)
          omega
      rw [Nat.log2_eq_iff (by omega), show 52 + k + 1 = 53 + k by omega, Nat.pow_add, Nat.pow_add]
      omega
    have hround : (ExtendedMantissa.mk t false false >>> k).roundedMantissa = m :=
      roundedMantissa_shiftRight (by omega) (by omega)
    have hmlog : m.log2 = 52 + 0 := (Nat.log2_eq_iff (by omega)).mpr ⟨hfull, hfits⟩
    have hx : -1074 ≤ x + k := by omega
    have hrounded := roundWithAccuracy_eq s hlog hx hround hmlog (by omega)
    simpa using hrounded
  · -- it lies below a power of two, where doubles are twice as dense
    rw [not_or, not_le, not_not] at hbinade
    obtain ⟨hlt, rfl⟩ := hbinade
    cases k with
    | zero => omega
    | succ k =>
        rw [Nat.pow_succ] at *
        have hlog : t.log2 = 52 + k := by
          rw [Nat.log2_eq_iff (by omega), show 52 + k + 1 = 53 + k by omega, Nat.pow_add,
            Nat.pow_add]
          omega
        have hround : (ExtendedMantissa.mk t false false >>> k).roundedMantissa = 2 ^ 53 :=
          roundedMantissa_shiftRight (by omega) (by omega)
        have hcarry : (2 ^ 53).log2 = 52 + 1 := Nat.log2_two_pow
        have hx : -1074 ≤ x + k := by omega
        have hrounded := roundWithAccuracy_eq s hlog hx hround hcarry (by decide)
        rw [hrounded]
        simp only [UnpackedFloat.finite.injEq, true_and]
        omega

end Foldbook.Double
