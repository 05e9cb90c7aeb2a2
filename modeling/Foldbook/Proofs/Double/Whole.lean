import Foldbook.Proofs.Double.Bits

/-!
# Whole numbers that are doubles

A whole number is a double (`Exact`) if it is a mantissa of fifty-three bits
times a power of two, up to the greatest finite double.

* `Spells` says that a mantissa and an exponent denote a number, with no
  fraction on either side.  `exists_normal` finds both for each exact number.
* `toInt?_ofNormal` and `exact_of_toInt?`: the whole numbers that doubles
  answer are the exact ones.
* `ofScientific_small` and `ofScientific_large`: a number is converted to the
  double it is near to, whichever way the conversion goes.
-/

namespace Foldbook.Double

open Float.Model Float.Model.UnpackedFloat
open Decimal (Binary)
open Query (Number)

/-- A whole number that is a double. -/
def Exact (n : Nat) : Prop :=
  ∃ m e, m < 2 ^ 53 ∧ e ≤ 971 ∧ n = m * 2 ^ e

/-- The number is `m * 2 ^ e`. -/
def Spells (m : Nat) (e : Int) (n : Nat) : Prop :=
  n * 2 ^ (-e).toNat = m * 2 ^ e.toNat

variable {m n : Nat} {e : Int}

theorem Spells.eq (h : Spells m e n) (he : 0 ≤ e) : n = m * 2 ^ e.toNat := by
  rw [Spells, show (-e).toNat = 0 by omega, Nat.pow_zero, Nat.mul_one] at h
  exact h

theorem Spells.mantissa_eq (h : Spells m e n) (he : e ≤ 0) : m = n * 2 ^ (-e).toNat := by
  rw [Spells, show e.toNat = 0 by omega, Nat.pow_zero, Nat.mul_one] at h
  exact h.symm

theorem Spells.le_mantissa (h : Spells m e n) (he : e ≤ 0) : n ≤ m := by
  rw [h.mantissa_eq he]
  exact Nat.le_mul_of_pos_right _ (Nat.two_pow_pos _)

/-- A number that no mantissa reaches has no fraction to spare. -/
theorem Spells.exponent_nonneg (h : Spells m e n) (hm : m < 2 ^ 53) (hn : 2 ^ 53 ≤ n) : 0 ≤ e := by
  by_contra hlt
  have hle : n ≤ m := h.le_mantissa (by omega)
  omega

theorem Spells.exact (h : Spells m e n) (hm : m < 2 ^ 53) (he : e ≤ 971) : Exact n := by
  rcases Int.le_total 0 e with hle | hle
  · exact ⟨m, e.toNat, hm, by omega, h.eq hle⟩
  · exact ⟨n, 0, Nat.lt_of_le_of_lt (h.le_mantissa hle) hm, by decide, by simp⟩

/-- Behind the last mantissa, odd numbers are no doubles. -/
theorem not_exact_of_odd (hodd : n % 2 = 1) (hn : 2 ^ 53 ≤ n) : ¬ Exact n := by
  rintro ⟨c, k, hc, -, rfl⟩
  cases k with
  | zero => omega
  | succ k =>
      rw [Nat.pow_succ, ← Nat.mul_assoc, Nat.mul_mod_left] at hodd
      exact absurd hodd (by decide)

/-- An exact number fills its mantissa at some exponent. -/
theorem exists_normal (h : Exact n) (hpos : 0 < n) : ∃ m e, Normal m e ∧ Spells m e n := by
  obtain ⟨c, k, hc, hk, rfl⟩ := h
  have hne : c ≠ 0 := by
    rintro rfl
    omega
  have hfull := Nat.log2_self_le hne
  have hfits := Nat.lt_log2_self (n := c)
  have hlog : c.log2 < 53 := (Nat.log2_lt hne).mpr hc
  have hscale : 2 ^ c.log2 * 2 ^ (52 - c.log2) = 2 ^ 52 := by
    rw [← Nat.pow_add]
    congr 1
    omega
  refine ⟨c * 2 ^ (52 - c.log2), k - (52 - c.log2 : Nat), ⟨?_, ?_, by omega, by omega⟩, ?_⟩
  · rw [← hscale]
    exact Nat.mul_le_mul_right _ hfull
  · calc c * 2 ^ (52 - c.log2) < 2 ^ (c.log2 + 1) * 2 ^ (52 - c.log2) :=
          Nat.mul_lt_mul_of_pos_right hfits (Nat.two_pow_pos _)
      _ = 2 ^ 52 * 2 := by rw [Nat.pow_succ, Nat.mul_right_comm, hscale]
      _ = 2 ^ 53 := rfl
  · rw [Spells, Nat.mul_assoc, Nat.mul_assoc, ← Nat.pow_add, ← Nat.pow_add]
    congr 2
    omega

/-! ## From doubles to whole numbers -/

/-- The whole number that a mantissa and an exponent spell. -/
def whole? (b : Binary) : Option Nat :=
  if b.exponent ≥ 0 then some (b.mantissa * Nat.pow 2 b.exponent.natAbs)
  else if b.mantissa % Nat.pow 2 b.exponent.natAbs = 0 then
    some (b.mantissa / Nat.pow 2 b.exponent.natAbs)
  else none

theorem toInt?_eq (x : Float) :
    Number.toInt? x =
      if x.isNaN || x.isInf then none
      else (whole? (Binary.ofFloat x)).map fun n : Nat => if x < 0 then -(n : Int) else (n : Int) := by
  have h : Number.toInt? x =
      if x.isNaN || x.isInf then none
      else (do
        let n ← whole? (Binary.ofFloat x)
        pure (n : Int) : Option Int).map fun i => if x < 0 then -i else i := rfl
  rw [h]
  cases whole? (Binary.ofFloat x) <;> rfl

theorem whole?_eq_some_iff : whole? ⟨m, e⟩ = some n ↔ Spells m e n := by
  have hpow (k : Nat) : Nat.pow 2 k = 2 ^ k := rfl
  rw [whole?, Spells]
  simp only [hpow]
  split
  · rename_i hle
    rw [show (-e).toNat = 0 by omega, show e.toNat = e.natAbs by omega, Option.some.injEq,
      Nat.pow_zero, Nat.mul_one, eq_comm]
  · rename_i hlt
    rw [show (-e).toNat = e.natAbs by omega, show e.toNat = 0 by omega, Nat.pow_zero, Nat.mul_one]
    have hpos : 0 < 2 ^ e.natAbs := Nat.two_pow_pos _
    split
    · rename_i hdvd
      rw [Option.some.injEq, Nat.div_eq_iff_eq_mul_left hpos (Nat.dvd_of_mod_eq_zero hdvd), eq_comm]
    · rename_i hdvd
      simp only [reduceCtorEq, false_iff]
      rintro rfl
      exact hdvd (Nat.mul_mod_left _ _)

theorem toInt?_ofNormal (s : Sign) (h : Normal m e) (hspells : Spells m e n) :
    Number.toInt? (ofNormal s h) = some (s.apply n) := by
  have hsign : (if ofNormal s h < 0 then -(n : Int) else (n : Int)) = s.apply n := by
    cases s with
    | negative => exact if_pos ((ofNormal_lt_zero _ h).mpr rfl)
    | positive => exact if_neg fun hlt => by cases (ofNormal_lt_zero _ h).mp hlt
  rw [toInt?_eq, isNaN_ofNormal, isInf_ofNormal, ofFloat_ofNormal, whole?_eq_some_iff.mpr hspells,
    ← hsign]
  rfl

/-- What a double answers as a whole number is a double. -/
theorem exact_of_toInt? {x : Float} {i : Int} (h : Number.toInt? x = some i) : Exact i.natAbs := by
  rw [toInt?_eq] at h
  split at h
  · cases h
  · rename_i hfinite
    rw [Bool.or_eq_true, not_or, Bool.not_eq_true, Bool.not_eq_true] at hfinite
    obtain ⟨n, hwhole, rfl⟩ := Option.map_eq_some_iff.mp h
    have hspells := whole?_eq_some_iff.mp hwhole
    have hexact := hspells.exact (mantissa_lt x) (exponent_le hfinite.1 hfinite.2)
    split
    · rwa [Int.natAbs_neg]
    · exact hexact

/-! ## From decimals to doubles -/

theorem round_of_spells (s : Sign) (h : Normal m e) (hle : e ≤ 0) (hspells : Spells m e n) :
    UnpackedFloat.round Format.binary64 s n 0 = .finite s m e h.pos := by
  have hm := hspells.mantissa_eq hle
  have hpos : n ≠ 0 := by
    rintro rfl
    exact h.pos.ne' (by rw [hm, Nat.zero_mul])
  have hlog : n.log2 + (-e).toNat = 52 := by
    rw [← (Nat.log2_eq_iff h.pos.ne').mpr ⟨h.full, h.fits⟩, eq_comm, Nat.log2_eq_iff h.pos.ne', hm,
      Nat.add_right_comm, Nat.pow_add, Nat.pow_add]
    exact ⟨Nat.mul_le_mul_right _ (Nat.log2_self_le hpos),
      Nat.mul_lt_mul_of_pos_right Nat.lt_log2_self (Nat.two_pow_pos _)⟩
  have htarget : Format.binary64.targetExponent (totalExponent n 0) = e := by
    simp only [Format.targetExponent, totalExponent, Format.mantissaBits, Format.minExponent]
    norm_num
    have := h.low
    omega
  have hshift : (0 - e).toNat = (-e).toNat := by omega
  have hexponent : (0 - ((-e).toNat : Int)) = e := by omega
  rw [UnpackedFloat.round, htarget, decreaseExponent, hshift, hexponent, Nat.shiftLeft_eq, ← hm]
  have hrounded := roundWithAccuracy_near s (t := m) (k := 0) (x := e) (by simpa using h)
    (by simpa using Near.refl h.pos)
  simpa using hrounded

theorem mul_near (s₁ s₂ : Sign) {m₁ m₂ k : Nat} {e₁ e₂ : Int} (h₁ : 0 < m₁) (h₂ : 0 < m₂)
    (h : Normal m e) (he : e₁ + e₂ + k = e) (hnear : Near (m₁ * m₂) (m * 2 ^ k)) :
    UnpackedFloat.mul Format.binary64 (.finite s₁ m₁ e₁ h₁) (.finite s₂ m₂ e₂ h₂) =
      .finite (s₁ * s₂) m e h.pos := by
  subst he
  exact roundWithAccuracy_near (s₁ * s₂) h hnear

/-- A number of few bits and no exponent is converted by itself. -/
theorem ofScientific_small (h : Normal m e) (hspells : Spells m e n) (hn : n < 2 ^ 53) :
    Float.ofScientific n false 0 = ofNormal .positive h := by
  have hle : e ≤ 0 := by
    by_contra hlt
    have hdouble : m * 2 ≤ m * 2 ^ e.toNat :=
      Nat.mul_le_mul_left _ (Nat.le_pow (by omega))
    rw [hspells.eq (by omega)] at hn
    have := h.full
    omega
  have hpos : 0 < n := by
    refine Nat.pos_of_ne_zero ?_
    rintro rfl
    exact h.pos.ne' (by rw [hspells.mantissa_eq hle, Nat.zero_mul])
  have hnat : n.toUInt64.toFloat = ofNormal .positive h := by
    have hsize : n.toUInt64.toNat = n := Nat.mod_eq_of_lt (Nat.lt_trans hn (by decide))
    have hgt : compare (n : Int) 0 = .gt := Int.compare_eq_gt.mpr (by omega)
    have hnormalize : UnpackedFloat.normalize Format.binary64 (n : Int) 0 .positive =
        .finite .positive m e h.pos := by
      rw [UnpackedFloat.normalize, hgt]
      exact round_of_spells .positive h hle hspells
    change Float.ofModel (.pack (UnpackedFloat.normalize Format.binary64 n.toUInt64.toNat 0 _)) = _
    rw [hsize, hnormalize]
    rfl
  have hone : (Float.ofBits 0x3FF0000000000000).toModel.unpack =
      .finite .positive (2 ^ 52) (-52) (by decide) := by rfl
  rw [Float.ofScientific, dif_pos ⟨hn, by decide⟩]
  change n.toUInt64.toFloat * Float.ofBits 0x3FF0000000000000 = _
  rw [hnat]
  change Float.ofModel (.pack (UnpackedFloat.mul Format.binary64
    (ofNormal .positive h).toModel.unpack (Float.ofBits 0x3FF0000000000000).toModel.unpack)) = _
  rw [hone, unpack_ofNormal, mul_near _ _ h.pos _ h (k := 52) (by omega)
    (Near.refl (Nat.mul_pos h.pos (by decide)))]
  rfl

/-- A number with more bits or an exponent is multiplied out first. -/
theorem ofScientific_large {c d k : Nat} (h : Normal m k) (hc : ¬ (c < 2 ^ 53 ∧ d ≤ 22))
    (hd : d ≤ 2048) (hnear : Near (c * 10 ^ d) (m * 2 ^ k)) :
    Float.ofScientific c false d = ofNormal .positive h := by
  have hpos : c ≠ 0 := by
    rintro rfl
    have hlarge : 0 < m * 2 ^ k := Nat.mul_pos h.pos (Nat.two_pow_pos _)
    have := hnear.below
    omega
  have hscaled : Near (c <<< 53 * 10 ^ d) (m * 2 ^ (k + 53)) := by
    rw [Nat.shiftLeft_eq, Nat.mul_right_comm, Nat.pow_add, ← Nat.mul_assoc]
    exact hnear.mul_right (by decide)
  have hlimit : (2 ^ Format.binary64.exponentBits : Int) = 2048 := rfl
  rw [Float.ofScientific, dif_neg hc]
  change Float.ofModel (.pack (UnpackedFloat.ofScientific Format.binary64 c (d : Int))) = _
  rw [UnpackedFloat.ofScientific, dif_neg hpos, hlimit, if_neg (by omega), if_neg (by omega),
    if_pos (by omega)]
  have hback : (-53 : Int) + 0 + (k + 53 : Nat) = k := by omega
  exact congrArg (fun x => Float.ofModel (.pack x))
    (mul_near .positive .positive _ _ h hback hscaled)

end Foldbook.Double
