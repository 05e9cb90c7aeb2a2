import Foldbook.Json.Printer
import Foldbook.Json.Reader
import Mathlib.Tactic.IntervalCases

/-!
# Numerals, written and read

Numbers stand in a text as numerals: a sign, digits, perhaps a fraction and a
power of ten.

* `ofDigits_digits`: the digits of a number spell it.
* `Numeral.spelled` is the text of a numeral, and `numeral?_spelled` reads it
  back, provided that the numeral follows the grammar (`Numeral.Regular`) and
  nothing behind it goes on with a number (`EndsNumber`).
* `readAtom_intDigits`: a whole number is read back, unless it has too many
  digits.
* `readAtom_floatChars`: a finite double is read back as a double, and the
  words for the other doubles are refused.
-/

namespace Foldbook

namespace Decimal

/-! ## Digits -/

theorem digits_eq (n : Nat) :
    digits n = if n < 10 then [Nat.digitChar n] else digits (n / 10) ++ [Nat.digitChar (n % 10)] :=
  Nat.toDigits_eq_if (by decide)

theorem digits_ne_nil (n : Nat) : digits n ≠ [] := Nat.toDigits_ne_nil

theorem isDigit_of_mem_digits {n : Nat} {c : Char} (h : c ∈ digits n) : c.isDigit = true :=
  Nat.isDigit_of_mem_toDigits (by decide) (by decide) h

theorem digitValue_digitChar {n : Nat} (h : n < 10) : digitValue (Nat.digitChar n) = n := by
  interval_cases n <;> rfl

theorem ofDigits_append_singleton (ds : List Char) (c : Char) :
    ofDigits (ds ++ [c]) = ofDigits ds * 10 + digitValue c := by
  simp [ofDigits, List.foldl_append]

/-- The digits of a number spell it. -/
@[simp] theorem ofDigits_digits (n : Nat) : ofDigits (digits n) = n := by
  induction n using Nat.strongRecOn with
  | ind n ih =>
      rw [digits_eq]
      split
      · rename_i hlt
        simpa [ofDigits] using digitValue_digitChar hlt
      · rw [ofDigits_append_singleton, ih (n / 10) (by omega),
          digitValue_digitChar (by omega)]
        omega

/-- Only zero begins with a zero. -/
theorem head?_digits {n : Nat} (h : n ≠ 0) : (digits n).head? ≠ some '0' := by
  induction n using Nat.strongRecOn with
  | ind n ih =>
      rw [digits_eq]
      split
      · have hpos : 0 < n := by omega
        interval_cases n <;> decide
      · have hrest := ih (n / 10) (by omega) (by omega)
        rwa [List.head?_append, Option.or_of_isSome (by simp [digits_ne_nil])]

/-! ## The shortest decimal

`render` writes a zero in front of the point only where nothing else stands
there, because the coefficient of `shortest` is zero only with exponent
zero. -/

theorem stripZeros_ne_zero (fuel : Nat) {n : Nat} (h : n ≠ 0) (e : Int) :
    (stripZeros fuel n e).1 ≠ 0 := by
  induction fuel generalizing n e with
  | zero => exact h
  | succ fuel ih =>
      rw [stripZeros]
      split
      · rename_i hzero
        simp only [Bool.and_eq_true, decide_eq_true_eq] at hzero
        exact ih (by omega) _
      · exact h

/-- A positive double is not rounded to zero. -/
theorem Binary.not_covers_zero {b : Binary} (h : b.mantissa ≠ 0) (e : Int) :
    b.covers 0 e = false := by
  have hlow : 0 < b.bounds.1 := by
    simp only [Binary.bounds]
    split <;> omega
  have hnum : 0 < (Ratio.scaledBin b.bounds.1 (b.exponent - 2)).num := by
    unfold Ratio.scaledBin
    split
    · exact hlow
    · exact Nat.mul_pos hlow (Nat.pow_pos (by decide))
  have hpoint : (Ratio.scaledDec 0 e).num = 0 := by
    unfold Ratio.scaledDec
    split <;> simp
  have hden : 0 < (Ratio.scaledDec 0 e).den := by
    unfold Ratio.scaledDec
    split
    · exact Nat.pow_pos (by decide)
    · exact Nat.one_pos
  have hprod := Nat.mul_pos hnum hden
  simp only [Binary.covers, Ratio.le, Ratio.lt, hpoint, Nat.zero_mul]
  split
  · simp
    omega
  · simp

/-- What is chosen on a grid rounds to the double. -/
theorem Binary.covers_of_onGrid? {b : Binary} {e : Int} {c : Nat} (h : b.onGrid? e = some c) :
    b.covers c e = true := by
  simp only [Binary.onGrid?] at h
  generalize (Ratio.scaledBin b.mantissa b.exponent).floorDiv (Ratio.scaledDec 1 e) = below at h
  cases hbelow : b.covers below e <;> cases habove : b.covers (below + 1) e <;>
    simp only [hbelow, habove] at h
  · exact absurd h (by simp)
  · cases h
    exact habove
  · cases h
    exact hbelow
  · split at h
    · cases h
      exact hbelow
    · split at h
      · cases h
        exact habove
      · cases h
        split
        · exact hbelow
        · exact habove

theorem Binary.shortest_ne_zero {b : Binary} (h : b.mantissa ≠ 0) :
    b.shortest.coefficient = 0 → b.shortest.exponent = 0 := by
  simp only [Binary.shortest]
  generalize hgrid : (List.range 17).findSome? _ = grid
  cases grid with
  | none => intro; rfl
  | some found => 
    intro hzero
    obtain ⟨n, -, hn⟩ := List.exists_of_findSome?_eq_some hgrid
    rw [Option.map_eq_some_iff] at hn
    obtain ⟨c, hc, rfl⟩ := hn
    have hne : c ≠ 0 := by
      rintro rfl
      have hcovers := Binary.covers_of_onGrid? hc
      rw [Binary.not_covers_zero h] at hcovers
      exact absurd hcovers (by decide)
    exact absurd hzero (stripZeros_ne_zero _ hne _)

theorem exponent_shortest {x : Float} (h : (shortest x).coefficient = 0) :
    (shortest x).exponent = 0 := by
  unfold shortest at h ⊢
  by_cases hzero : (Binary.ofFloat x).mantissa = 0
  · simp [hzero]
  · simp only [hzero, if_false] at h ⊢
    exact Binary.shortest_ne_zero hzero h

end Decimal

namespace Json

/-! ## Numerals in a text -/

/-- Whether what follows a number does not go on with it. -/
def EndsNumber (rest : List Char) : Prop :=
  ∀ c ∈ rest.head?, c.isDigit = false ∧ c ≠ '.' ∧ c ≠ 'e' ∧ c ≠ 'E'

theorem endsNumber_nil : EndsNumber [] := by simp [EndsNumber]

theorem endsNumber_cons {c : Char} (h : c.isDigit = false ∧ c ≠ '.' ∧ c ≠ 'e' ∧ c ≠ 'E')
    (rest : List Char) : EndsNumber (c :: rest) := by
  simpa [EndsNumber] using h

theorem spanDigits_append {ds rest : List Char} (hds : ∀ c ∈ ds, c.isDigit = true)
    (hrest : ∀ c ∈ rest.head?, c.isDigit = false) : spanDigits (ds ++ rest) = (ds, rest) := by
  rw [spanDigits, List.takeWhile_append_of_pos hds, List.dropWhile_append_of_pos hds]
  cases rest with
  | nil => simp
  | cons c rest =>
      have hc : c.isDigit = false := hrest c rfl
      simp [hc]

namespace Numeral

/-- The point and the digits behind it. -/
def fractionText (n : Numeral) : List Char :=
  if n.fraction = [] then [] else '.' :: n.fraction

/-- The mark, the sign and the digits of the power of ten. -/
def powerText (n : Numeral) : List Char :=
  match n.power with
  | none => []
  | some (negative, ds) => 'e' :: (if negative then '-' else '+') :: ds

/-- The text of a numeral, whose power of ten has a sign. -/
def spelled (n : Numeral) : List Char :=
  (if n.negative then ['-'] else []) ++ (n.whole ++ (n.fractionText ++ n.powerText))

/-- The grammar of numbers: digits without a leading zero, and digits behind a mark. -/
structure Regular (n : Numeral) : Prop where
  whole : n.whole = ['0'] ∨ n.whole ≠ [] ∧ n.whole.head? ≠ some '0' ∧ ∀ c ∈ n.whole, c.isDigit = true
  fraction : ∀ c ∈ n.fraction, c.isDigit = true
  power : ∀ negative ds, n.power = some (negative, ds) → ds ≠ [] ∧ ∀ c ∈ ds, c.isDigit = true

variable {n : Numeral} {rest : List Char}

theorem fractionPart_fractionText (h : n.Regular) (hdigit : ∀ c ∈ rest.head?, c.isDigit = false)
    (hpoint : rest.head? ≠ some '.') : fractionPart (n.fractionText ++ rest) = (n.fraction, rest) := by
  unfold fractionText
  split
  · rename_i hnil
    rw [hnil, List.nil_append]
    cases rest with
    | nil => rfl
    | cons c rest =>
        have hc : c ≠ '.' := fun hc => hpoint (by rw [hc, List.head?_cons])
        simp [fractionPart, hc]
  · rename_i hne
    rw [List.cons_append, fractionPart, spanDigits_append h.fraction hdigit]
    split
    · rename_i heq
      exact absurd (congrArg Prod.fst heq) hne
    · rfl

theorem exponentPart_powerText (h : n.Regular) (hrest : EndsNumber rest) :
    exponentPart (n.powerText ++ rest) = (n.power, rest) := by
  unfold powerText
  split
  · rename_i hnone
    rw [hnone, List.nil_append]
    cases rest with
    | nil => rfl
    | cons c rest =>
        obtain ⟨-, -, he, hE⟩ := hrest c rfl
        simp [exponentPart, he, hE]
  · rename_i negative ds hsome
    obtain ⟨hne, hds⟩ := h.power negative ds hsome
    have hspan : spanDigits (ds ++ rest) = (ds, rest) :=
      spanDigits_append hds fun c hc => (hrest c hc).1
    cases negative <;> simp [exponentPart, hspan, hsome]

theorem head?_powerText_append (hrest : EndsNumber rest) :
    ∀ c ∈ (n.powerText ++ rest).head?, c.isDigit = false ∧ c ≠ '.' := by
  unfold powerText
  split
  · intro c hc
    obtain ⟨hdigit, hpoint, -, -⟩ := hrest c hc
    exact ⟨hdigit, hpoint⟩
  · simp

/-- A numeral that follows the grammar is read back. -/
theorem numeral?_spelled (h : n.Regular) (hrest : EndsNumber rest) :
    numeral? (n.spelled ++ rest) = some (n, rest) := by
  have hpower := head?_powerText_append (n := n) hrest
  have hfraction := fractionPart_fractionText h (fun c hc => (hpower c hc).1)
    (fun hc => (hpower '.' hc).2 rfl)
  have hexponent := exponentPart_powerText h hrest
  have hdigit : ∀ c ∈ (n.fractionText ++ (n.powerText ++ rest)).head?, c.isDigit = false := by
    unfold fractionText
    split
    · exact fun c hc => (hpower c hc).1
    · simp
  obtain ⟨negative, whole, fraction, power⟩ := n
  simp only [spelled, List.append_assoc] at *
  rcases h.whole with rfl | ⟨hne, hzero, hwhole⟩
  · cases negative <;> simp [numeral?, hfraction, hexponent]
  · obtain ⟨d, ds, rfl⟩ := List.exists_cons_of_ne_nil hne
    have hspan := spanDigits_append hwhole hdigit
    have hd : d.isDigit = true := hwhole d (by simp)
    have hd0 : d ≠ '0' := by simpa using hzero
    have hminus : d ≠ '-' := by
      rintro rfl
      exact absurd hd (by decide)
    rw [List.cons_append] at hspan
    cases negative <;>
      simp [numeral?, hd, hminus, hspan, hfraction, hexponent, -List.append_assoc]

/-- A numeral begins with a digit, or with a minus sign and a digit. -/
theorem exists_spelled_eq (h : n.Regular) :
    ∃ d ds, d.isDigit = true ∧ (n.spelled = d :: ds ∨ n.spelled = '-' :: d :: ds) := by
  have hdigit : ∃ d ds, d.isDigit = true ∧ n.whole = d :: ds := by
    rcases h.whole with hzero | ⟨hne, -, hwhole⟩
    · exact ⟨'0', [], by decide, hzero⟩
    · obtain ⟨d, ds, hds⟩ := List.exists_cons_of_ne_nil hne
      exact ⟨d, ds, hwhole d (by simp [hds]), hds⟩
  obtain ⟨d, ds, hd, hds⟩ := hdigit
  refine ⟨d, ds ++ (n.fractionText ++ n.powerText), hd, ?_⟩
  unfold spelled
  rw [hds]
  cases n.negative <;> simp

/-- No word begins like a number. -/
theorem findWord_digit {d : Char} (h : d.isDigit = true) (cs : List Char) :
    findWord (d :: cs) = none ∧ findWord ('-' :: d :: cs) = none := by
  have hletter : ∀ c : Char, c.isDigit = false → c ≠ d := by
    rintro c hc rfl
    exact absurd h (by simp [hc])
  constructor <;> simp [findWord, words, word?, hletter]

/-- A numeral is none of the words. -/
theorem findWord_spelled (h : n.Regular) (rest : List Char) :
    findWord (n.spelled ++ rest) = none := by
  obtain ⟨d, ds, hd, hspelled⟩ := exists_spelled_eq h
  rcases hspelled with hspelled | hspelled <;> rw [hspelled]
  · exact (findWord_digit hd _).1
  · exact (findWord_digit hd _).2

/-- A numeral that follows the grammar is read as the value it stands for. -/
theorem readAtom_spelled (h : n.Regular) (hrest : EndsNumber rest) :
    readAtom (n.spelled ++ rest) =
      if n.isWhole && n.whole.length > digitLimit then stuck (.tooManyDigits n.whole.length) rest
      else .ok (n.toJson, rest) := by
  rw [readAtom, findWord_spelled h, numeral?_spelled h hrest]

/-! ## Whole numbers -/

/-- The numeral of an integer. -/
def ofInt (n : Int) : Numeral := ⟨n < 0, Decimal.digits n.natAbs, [], none⟩

theorem regular_digits (n : Nat) :
    Decimal.digits n = ['0'] ∨ Decimal.digits n ≠ [] ∧ (Decimal.digits n).head? ≠ some '0' ∧
      ∀ c ∈ Decimal.digits n, c.isDigit = true := by
  by_cases hzero : n = 0
  · exact .inl (by rw [hzero]; rfl)
  · exact .inr ⟨Decimal.digits_ne_nil n, Decimal.head?_digits hzero,
      fun c hc => Decimal.isDigit_of_mem_digits hc⟩

theorem regular_ofInt (n : Int) : (ofInt n).Regular :=
  ⟨regular_digits n.natAbs, by simp [ofInt], by simp [ofInt]⟩

theorem spelled_ofInt (n : Int) : (ofInt n).spelled = Decimal.intDigits n := by
  cases n with
  | ofNat n => simp [spelled, ofInt, fractionText, powerText, Decimal.intDigits]
  | negSucc n => simp [spelled, ofInt, fractionText, powerText, Decimal.intDigits]

theorem toJson_ofInt (n : Int) : (ofInt n).toJson = .int n := by
  simp only [toJson, ofInt, isWhole, List.isEmpty_nil, Option.isNone_none, Bool.and_self, if_true,
    Decimal.ofDigits_digits, decide_eq_true_eq]
  congr 1
  split <;> omega

end Numeral

/-- A whole number is read back, unless it has too many digits. -/
theorem readAtom_intDigits (n : Int) {rest : List Char} (hrest : EndsNumber rest) :
    readAtom (Decimal.intDigits n ++ rest) =
      if (Decimal.digits n.natAbs).length ≤ digitLimit then .ok (.int n, rest)
      else stuck (.tooManyDigits (Decimal.digits n.natAbs).length) rest := by
  rw [← Numeral.spelled_ofInt, Numeral.readAtom_spelled (Numeral.regular_ofInt n) hrest,
    Numeral.toJson_ofInt]
  by_cases hlimit : (Decimal.digits n.natAbs).length ≤ digitLimit
  · simp [Numeral.ofInt, Numeral.isWhole, hlimit]
  · simp [Numeral.ofInt, Numeral.isWhole, hlimit, Nat.lt_of_not_le hlimit]

/-! ## Doubles -/

/-- The digits of an exponent, at least two. -/
def powerDigits (e : Int) : List Char :=
  if (Decimal.digits e.natAbs).length < 2 then '0' :: Decimal.digits e.natAbs
  else Decimal.digits e.natAbs

theorem powerDigits_ne_nil (e : Int) : powerDigits e ≠ [] := by
  unfold powerDigits
  split
  · exact List.cons_ne_nil _ _
  · exact Decimal.digits_ne_nil _

theorem isDigit_of_mem_powerDigits {e : Int} {c : Char} (h : c ∈ powerDigits e) :
    c.isDigit = true := by
  unfold powerDigits at h
  split at h
  · rcases List.mem_cons.mp h with rfl | hc
    · decide
    · exact Decimal.isDigit_of_mem_digits hc
  · exact Decimal.isDigit_of_mem_digits h

theorem isDigit_of_mem_zeros {k : Nat} {c : Char} (h : c ∈ List.replicate k '0') :
    c.isDigit = true := by
  rw [List.eq_of_mem_replicate h]
  decide

/-- A number with an exponent follows the grammar. -/
theorem regular_scientific {first : Char} {more : List Char}
    (hdigits : ∀ c ∈ first :: more, c.isDigit = true) (e : Int) :
    Numeral.Regular ⟨false, [first], more, some (e < 0, powerDigits e)⟩ where
  whole := by
    by_cases hzero : first = '0'
    · exact .inl (by rw [hzero])
    · exact .inr ⟨by simp, by simpa using hzero, by simpa using hdigits first (by simp)⟩
  fraction := fun c hc => hdigits c (List.mem_cons_of_mem _ hc)
  power := by
    rintro sign ds h
    cases h
    exact ⟨powerDigits_ne_nil e, fun c hc => isDigit_of_mem_powerDigits hc⟩

/-- A number without an exponent follows the grammar if its digits in front of the point do. -/
theorem regular_positional (whole fraction : List Char)
    (hwhole : whole = ['0'] ∨
      whole ≠ [] ∧ whole.head? ≠ some '0' ∧ ∀ c ∈ whole, c.isDigit = true)
    (hfraction : ∀ c ∈ fraction, c.isDigit = true) :
    Numeral.Regular ⟨false, whole, fraction, none⟩ :=
  ⟨hwhole, hfraction, by simp⟩

/-- The text of a decimal follows the grammar and shows that it is no whole number. -/
theorem exists_spelled_render {c : Nat} {e : Int} (h : c = 0 → e = 0) :
    ∃ n : Numeral, n.Regular ∧ n.isWhole = false ∧ n.negative = false ∧
      n.spelled = Decimal.render floatLayout ⟨false, c, e⟩ := by
  have hds : ∀ d ∈ Decimal.digits c, d.isDigit = true := fun d hd => Decimal.isDigit_of_mem_digits hd
  have hne := Decimal.digits_ne_nil c
  have hhead := @Decimal.head?_digits c
  have hzero : c = 0 → Decimal.digits c = ['0'] := by
    rintro rfl
    rfl
  have htop : Decimal.magnitude ⟨false, c, e⟩ = (Decimal.digits c).length - 1 + e := rfl
  simp only [Decimal.render, if_false, Bool.false_eq_true]
  generalize Decimal.digits c = ds at *
  generalize Decimal.magnitude ⟨false, c, e⟩ = top at *
  have hlength : 0 < ds.length := List.length_pos_iff.mpr hne
  split
  · obtain ⟨first, more, rfl⟩ := List.exists_cons_of_ne_nil hne
    refine ⟨_, regular_scientific hds top, by simp [Numeral.isWhole], rfl, ?_⟩
    cases more <;>
      simp [Numeral.spelled, Numeral.fractionText, Numeral.powerText, Decimal.exponentDigits,
        powerDigits]
  · split
    · refine ⟨_, regular_positional (ds ++ List.replicate e.toNat '0') ['0'] ?_ (by simp),
        by simp [Numeral.isWhole], rfl, ?_⟩
      · by_cases hc : c = 0
        · exact .inl (by simp [hzero hc, h hc])
        · refine .inr ⟨by simp [hne], ?_, ?_⟩
          · rw [List.head?_append, Option.or_of_isSome (by simp [hne])]
            exact hhead hc
          · intro d hd
            rcases List.mem_append.mp hd with hd | hd
            · exact hds d hd
            · exact isDigit_of_mem_zeros hd
      · simp [Numeral.spelled, Numeral.fractionText, Numeral.powerText, floatLayout]
    · rename_i hexponent
      have hc : c ≠ 0 := fun hc => hexponent (by rw [h hc])
      split
      · have hdrop : ds.drop (top.toNat + 1) ≠ [] := by
          rw [ne_eq, List.drop_eq_nil_iff]
          omega
        refine ⟨_, regular_positional (ds.take (top.toNat + 1)) (ds.drop (top.toNat + 1)) ?_ ?_,
          by simp [Numeral.isWhole, hdrop], rfl, ?_⟩
        · refine .inr ⟨by simp [hne], ?_, fun d hd => hds d (List.mem_of_mem_take hd)⟩
          rw [List.head?_take, if_neg (by omega)]
          exact hhead hc
        · exact fun d hd => hds d (List.mem_of_mem_drop hd)
        · simp [Numeral.spelled, Numeral.fractionText, Numeral.powerText, hdrop]
      · refine ⟨_, regular_positional ['0'] (List.replicate (-top - 1).toNat '0' ++ ds) (.inl rfl) ?_,
          by simp [Numeral.isWhole, hne], rfl, ?_⟩
        · intro d hd
          rcases List.mem_append.mp hd with hd | hd
          · exact isDigit_of_mem_zeros hd
          · exact hds d hd
        · simp [Numeral.spelled, Numeral.fractionText, Numeral.powerText, hne]

theorem exists_spelled_floatChars {x : Float} (hnan : x.isNaN = false) (hinf : x.isInf = false) :
    ∃ n : Numeral, n.Regular ∧ n.isWhole = false ∧ n.spelled = floatChars x := by
  have hshortest := @Decimal.exponent_shortest x
  simp only [floatChars, hnan, hinf, Bool.false_eq_true, if_false]
  generalize Decimal.shortest x = d at *
  obtain ⟨negative, c, e⟩ := d
  obtain ⟨n, hregular, hwhole, hnegative, hspelled⟩ := exists_spelled_render hshortest
  cases negative with
  | false => exact ⟨n, hregular, hwhole, hspelled⟩
  | true =>
      refine ⟨{ n with negative := true }, ⟨hregular.whole, hregular.fraction, hregular.power⟩,
        hwhole, ?_⟩
      have hminus : Decimal.render floatLayout ⟨true, c, e⟩ =
          '-' :: Decimal.render floatLayout ⟨false, c, e⟩ := rfl
      rw [hminus, ← hspelled]
      simp [Numeral.spelled, hnegative, Numeral.fractionText, Numeral.powerText]

/-- The double that the text of a double denotes. -/
def readBack (x : Float) : Float :=
  match numeral? (floatChars x) with
  | some (n, _) => n.toDecimal.toFloat
  | none => x

theorem readAtom_floatChars {x : Float} (hnan : x.isNaN = false) (hinf : x.isInf = false)
    {rest : List Char} (hrest : EndsNumber rest) :
    readAtom (floatChars x ++ rest) = .ok (.float (readBack x), rest) := by
  obtain ⟨n, hregular, hwhole, hspelled⟩ := exists_spelled_floatChars hnan hinf
  have hnumeral := Numeral.numeral?_spelled hregular endsNumber_nil
  rw [List.append_nil] at hnumeral
  rw [readBack, ← hspelled, Numeral.readAtom_spelled hregular hrest, hnumeral]
  simp [hwhole, Numeral.toJson]

theorem readAtom_of_refused {word : String} {rest : List Char}
    (h : findWord (word.toList ++ rest) = some (.error (.constant word), rest)) :
    readAtom (word.toList ++ rest) = stuck (.constant word) rest := by
  rw [readAtom, h]

/-- The words for a double that is infinite or no number are refused. -/
theorem readAtom_floatChars_of_not_finite {x : Float} (h : ¬(x.isNaN = false ∧ x.isInf = false))
    (rest : List Char) :
    ∃ word, readAtom (floatChars x ++ rest) = stuck (.constant word) rest := by
  unfold floatChars
  split
  · exact ⟨"NaN", readAtom_of_refused rfl⟩
  · split
    · split
      · exact ⟨"-Infinity", readAtom_of_refused rfl⟩
      · exact ⟨"Infinity", readAtom_of_refused rfl⟩
    · exact absurd ⟨by simpa using ‹¬x.isNaN = true›, by simpa using ‹¬x.isInf = true›⟩ h

end Json
end Foldbook
