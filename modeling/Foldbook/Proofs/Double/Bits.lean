import Foldbook.Proofs.Double.Rounding
import Foldbook.Query.Number

/-!
# The bits of a double

* `ofNormal` is the double with a sign, a mantissa and an exponent.  Its bits
  give all three back (`unpack_ofNormal`, `ofFloat_ofNormal`), and so its
  kind, its sign and its negative are known.
* `exponent_le` and `mantissa_lt`: how large the parts of a finite double
  are.
-/

namespace Foldbook.Double

open Float.Model Float.Model.UnpackedFloat

/-! ## Packing and unpacking -/

theorem toNat_implicit {w : Nat} (f : BitVec w) : (1#1 ++ f).toNat = 2 ^ w + f.toNat := by
  rw [BitVec.toNat_append, ← Nat.shiftLeft_add_eq_or_of_lt f.isLt]
  simp [Nat.shiftLeft_eq]

variable {m : Nat} {e : Int}

/-- The double with this sign, this mantissa and this exponent. -/
def ofNormal (s : Sign) (h : Normal m e) : Float :=
  .ofModel (.pack (.finite s m e h.pos))

theorem pack_normal (s : Sign) (h : Normal m e) :
    UnpackedFloat.pack Format.binary64 (.finite s m e h.pos) =
      packComponents Format.binary64 s (BitVec.ofNat 11 (e + 1075).toNat) (BitVec.ofNat 52 m) := by
  obtain ⟨hfull, hfits, hlow, hhigh⟩ := h
  have hbiased : (e + (Format.binary64.exponentBias : Nat) + (52 : Nat)).toNat =
      (e + 1075).toNat := by
    change (e + 1023 + 52).toNat = _
    omega
  have hlog : m.log2 + 1 = Format.binary64.mantissaBits := by
    rw [(Nat.log2_eq_iff (by omega)).mpr ⟨hfull, hfits⟩]
    rfl
  rw [UnpackedFloat.pack, hbiased, if_neg (by change ¬ 2 ^ 11 ≤ _; omega), if_pos hlog]

theorem toNat_biased (h : Normal m e) :
    (BitVec.ofNat 11 (e + 1075).toNat).toNat = (e + 1075).toNat := by
  obtain ⟨-, -, hlow, hhigh⟩ := h
  rw [BitVec.toNat_ofNat, Nat.mod_eq_of_lt (by omega)]

theorem toNat_fraction (h : Normal m e) : (BitVec.ofNat 52 m).toNat = m - 2 ^ 52 := by
  obtain ⟨hfull, hfits, -, -⟩ := h
  rw [BitVec.toNat_ofNat]
  omega

theorem unpack_ofNormal (s : Sign) (h : Normal m e) :
    (ofNormal s h).toModel.unpack = .finite s m e h.pos := by
  have hbiased := toNat_biased h
  have hfraction := toNat_fraction h
  obtain ⟨hfull, hfits, hlow, hhigh⟩ := h
  have hnotSpecial : BitVec.ofNat 11 (e + 1075).toNat ≠ -1#11 := by
    intro heq
    rw [heq] at hbiased
    change 2047 = _ at hbiased
    omega
  have hnotSmall : BitVec.ofNat 11 (e + 1075).toNat ≠ 0#11 := by
    intro heq
    rw [heq] at hbiased
    change 0 = _ at hbiased
    omega
  change UnpackedFloat.unpack Format.binary64 (UnpackedFloat.pack Format.binary64 _) = _
  rw [pack_normal s ⟨hfull, hfits, hlow, hhigh⟩, UnpackedFloat.unpack]
  simp only [unpackExponent_packComponents, unpackMantissa_packComponents,
    unpackSign_packComponents, Sign.ofBitVec_toBitVec, if_neg hnotSpecial, if_neg hnotSmall,
    toNat_implicit, hbiased, hfraction, UnpackedFloat.finite.injEq, true_and]
  change 2 ^ 52 + (m - 2 ^ 52) = m ∧ ((e + 1075).toNat : Int) - (1023 + 52) = e
  omega

theorem isNaN_ofNormal (s : Sign) (h : Normal m e) : (ofNormal s h).isNaN = false := by
  change (ofNormal s h).toModel.unpack.isNaN = false
  rw [unpack_ofNormal]
  rfl

theorem isInf_ofNormal (s : Sign) (h : Normal m e) : (ofNormal s h).isInf = false := by
  change (ofNormal s h).toModel.unpack.isInf = false
  rw [unpack_ofNormal]
  rfl

theorem neg_ofNormal (s : Sign) (h : Normal m e) : -ofNormal s h = ofNormal (-s) h := by
  change Float.ofModel (.pack (ofNormal s h).toModel.unpack.neg) = _
  rw [unpack_ofNormal]
  rfl

theorem ofNormal_lt_zero (s : Sign) (h : Normal m e) : ofNormal s h < 0 ↔ s = .negative := by
  have hzero : (0 : Float).toModel.unpack = .zero .positive := by rfl
  change decide ((ofNormal s h).toModel.unpack.lt (0 : Float).toModel.unpack = true) = true ↔ _
  rw [unpack_ofNormal, hzero, decide_eq_true_iff]
  cases s <;> simp [UnpackedFloat.lt, UnpackedFloat.compare]

/-! ## Fields -/

theorem toNat_packComponents (s : Sign) (e : BitVec 11) (f : BitVec 52) :
    (packComponents Format.binary64 s e f).toNat =
      s.toBitVec.toNat * 2 ^ 63 + e.toNat * 2 ^ 52 + f.toNat := by
  change (s.toBitVec ++ e ++ f).toNat = _
  rw [BitVec.toNat_append, BitVec.toNat_append, ← Nat.shiftLeft_add_eq_or_of_lt f.isLt,
    ← Nat.shiftLeft_add_eq_or_of_lt e.isLt, Nat.shiftLeft_eq, Nat.shiftLeft_eq]
  omega

open Decimal (Binary)

theorem ofFloat_eq (x : Float) :
    Binary.ofFloat x =
      if x.toBits.toNat % 2 ^ 63 / 2 ^ 52 = 0 then ⟨x.toBits.toNat % 2 ^ 63 % 2 ^ 52, -1074⟩
      else ⟨2 ^ 52 + x.toBits.toNat % 2 ^ 63 % 2 ^ 52,
        (x.toBits.toNat % 2 ^ 63 / 2 ^ 52 : Nat) - 1075⟩ :=
  rfl

/-- A double is taken apart into its mantissa and its exponent. -/
theorem ofFloat_ofNormal (s : Sign) (h : Normal m e) : Binary.ofFloat (ofNormal s h) = ⟨m, e⟩ := by
  have hbits : (ofNormal s h).toBits.toNat =
      s.toBitVec.toNat * 2 ^ 63 + (e + 1075).toNat * 2 ^ 52 + (m - 2 ^ 52) := by
    rw [← toNat_biased h, ← toNat_fraction h, ← toNat_packComponents, ← pack_normal s h]
    rfl
  obtain ⟨hfull, hfits, hlow, hhigh⟩ := h
  have hsign : s.toBitVec.toNat < 2 := s.toBitVec.isLt
  rw [ofFloat_eq, hbits, if_neg (by omega), Binary.mk.injEq]
  omega

theorem mantissa_lt (x : Float) : (Binary.ofFloat x).mantissa < 2 ^ 53 := by
  rw [ofFloat_eq]
  split
  · change _ % 2 ^ 52 < 2 ^ 53
    omega
  · change 2 ^ 52 + _ % 2 ^ 52 < 2 ^ 53
    omega

theorem toNat_unpackExponent (x : Float) :
    (@unpackExponent Format.binary64 x.toModel.toBits.toBitVec).toNat =
      x.toBits.toNat % 2 ^ 63 / 2 ^ 52 := by
  have hbits : x.toModel.toBits.toBitVec.toNat = x.toBits.toNat := rfl
  rw [unpackExponent, BitVec.toNat_cast, BitVec.extractLsb_toNat, hbits, Nat.shiftRight_eq_div_pow]
  change x.toBits.toNat / 2 ^ 52 % 2 ^ 11 = _
  omega

/-- The exponent above all finite doubles is that of the infinities and of what is no number. -/
theorem exponent_le {x : Float} (hnan : x.isNaN = false) (hinf : x.isInf = false) :
    (Binary.ofFloat x).exponent ≤ 971 := by
  have hfinite : x.toBits.toNat % 2 ^ 63 / 2 ^ 52 ≠ 2047 := by
    rw [← toNat_unpackExponent]
    intro hspecial
    have hexponent : @unpackExponent Format.binary64 x.toModel.toBits.toBitVec = -1#11 :=
      BitVec.eq_of_toNat_eq hspecial
    change x.toModel.unpack.isNaN = false at hnan
    change x.toModel.unpack.isInf = false at hinf
    rw [Float.Model.unpack, UnpackedFloat.unpack] at hnan hinf
    simp only [hexponent, if_true] at hnan hinf
    split at hnan <;> simp_all [UnpackedFloat.isNaN, UnpackedFloat.isInf]
  rw [ofFloat_eq]
  split
  · change (-1074 : Int) ≤ 971
    decide
  · change ((_ : Nat) : Int) - 1075 ≤ 971
    omega

end Foldbook.Double
