import Foldbook.Json.Printer
import Foldbook.Json.Reader
import Mathlib.Tactic.IntervalCases

/-!
# Strings, written and read

A string is written one character at a time (`escapeChar`), and each escape is
read back as the character it stands for, whatever follows.

* `hexFour?_hex`: four hexadecimal digits are read back.
* `readEscape_unicodeEscape` and `readEscape_surrogates`: a character that is
  escaped by its number, in one code unit or as a pair.
* `readChars_escapeChar` is the step for one character, and
  `readString_stringChars` the run over a whole string.
* `of_mem_stringChars`: which characters the text of a string has.
-/

namespace Foldbook.Json

open Text.Quoted (hex)

/-! ## Hexadecimal digits -/

theorem hexValue?_digitChar {n : Nat} (h : n < 16) : hexValue? (Nat.digitChar n) = some n := by
  interval_cases n <;> rfl

theorem hex_four (n : Nat) :
    hex 4 n = [Nat.digitChar (n / 4096 % 16), Nat.digitChar (n / 256 % 16),
      Nat.digitChar (n / 16 % 16), Nat.digitChar (n % 16)] := by
  simp only [hex, List.nil_append, List.cons_append, Nat.div_div_eq_div_mul]

/-- Four hexadecimal digits are read back if something follows them. -/
theorem hexFour?_hex {n : Nat} (h : n < 65536) (c : Char) (rest : List Char) :
    hexFour? (hex 4 n ++ c :: rest) = some (n, c :: rest) := by
  rw [hex_four]
  simp only [List.cons_append, List.nil_append, hexFour?,
    hexValue?_digitChar (Nat.mod_lt _ (show 0 < 16 by decide)), Option.bind_eq_bind,
    Option.bind_some, Option.some.injEq, Prod.mk.injEq, and_true]
  omega

/-! ## Escapes -/

theorem toNat_lt_of_isValidChar (c : Char) :
    c.toNat < 0xD800 ∨ 0xDFFF < c.toNat ∧ c.toNat < 0x110000 := c.valid

/-- A character of one code unit is read back from its number. -/
theorem readEscape_unicodeEscape (begin : List Char) {c : Char} (h : c.toNat < 0x10000) (d : Char)
    (rest : List Char) :
    readEscape begin ('u' :: (hex 4 c.toNat ++ d :: rest)) = .ok (c, d :: rest) := by
  have hrange := toNat_lt_of_isValidChar c
  have hhigh : isHighSurrogate c.toNat = false := by
    simp [isHighSurrogate]
    omega
  have hlow : isLowSurrogate c.toNat = false := by
    simp [isLowSurrogate]
    omega
  have hunit : unitChar c.toNat = c := by simp [unitChar, hhigh, hlow, Char.ofNat_toNat]
  simp only [readEscape, hexFour?_hex h, hhigh, hunit]

/-- An escape that begins a pair, with the escape that ends it behind. -/
theorem readEscape_pair (begin : List Char) {cs more behind : List Char} {high low : Nat}
    (hhigh : hexFour? cs = some (high, '\\' :: 'u' :: more)) (hfirst : isHighSurrogate high = true)
    (hlength : 4 < more.length) (hlow : hexFour? more = some (low, behind))
    (hsecond : isLowSurrogate low = true) :
    readEscape begin ('u' :: cs) =
      .ok (Char.ofNat (0x10000 + (high - 0xD800) * 0x400 + (low - 0xDC00)), behind) := by
  simp only [readEscape, hhigh, hfirst, Nat.not_le.mpr hlength, if_false, hlow, hsecond, if_true]

/-- A character of two code units is read back from the pair. -/
theorem readEscape_surrogates (begin : List Char) {c : Char} (h : 0x10000 ≤ c.toNat) (d : Char)
    (rest : List Char) :
    readEscape begin ('u' :: (hex 4 (0xD800 + (c.toNat - 0x10000) / 0x400) ++
      (unicodeEscape (0xDC00 + (c.toNat - 0x10000) % 0x400) ++ d :: rest))) =
        .ok (c, d :: rest) := by
  have hrange := toNat_lt_of_isValidChar c
  generalize hhigh : 0xD800 + (c.toNat - 0x10000) / 0x400 = high
  generalize hlow : 0xDC00 + (c.toNat - 0x10000) % 0x400 = low
  have hfirst : isHighSurrogate high = true := by
    simp [isHighSurrogate]
    omega
  have hsecond : isLowSurrogate low = true := by
    simp [isLowSurrogate]
    omega
  have hlength : 4 < (hex 4 low ++ d :: rest).length := by
    rw [hex_four]
    simp
  have hchar : 0x10000 + (high - 0xD800) * 0x400 + (low - 0xDC00) = c.toNat := by omega
  have hread := readEscape_pair begin
    (hexFour?_hex (n := high) (by omega) '\\' ('u' :: (hex 4 low ++ d :: rest)))
    hfirst hlength (hexFour?_hex (by omega) d rest) hsecond
  rw [hchar, Char.ofNat_toNat] at hread
  exact hread

/-! ## Strings -/

/-- An escape in a string is read as its character. -/
theorem readChars_escape {begin more rest : List Char} {c : Char}
    (h : readEscape begin more = .ok (c, rest)) (fuel : Nat) (found : List Char) :
    readChars begin (fuel + 1) found ('\\' :: more) = readChars begin fuel (c :: found) rest := by
  rw [readChars, if_neg (by decide), if_pos rfl, h]

/-- One character of a string is read back, whatever text follows it. -/
theorem readChars_escapeChar (begin : List Char) (asciiOnly : Bool) (c : Char) (fuel : Nat)
    (found : List Char) (d : Char) (rest : List Char) :
    readChars begin (fuel + 1) found (escapeChar asciiOnly c ++ d :: rest) =
      readChars begin fuel (c :: found) (d :: rest) := by
  unfold escapeChar
  split
  iterate 7 exact readChars_escape rfl fuel found
  rename_i hquote hbackslash _ _ _ _ _
  have hself (hcontrol : ¬c.toNat < 32) : readChars begin (fuel + 1) found (c :: d :: rest) =
      readChars begin fuel (c :: found) (d :: rest) := by
    rw [readChars, if_neg hquote, if_neg hbackslash, if_neg hcontrol]
  split
  · exact readChars_escape (readEscape_unicodeEscape begin (by omega) d rest) fuel found
  · rename_i hcontrol
    split
    · split
      · rename_i hunit
        split
        · exact hself hcontrol
        · exact readChars_escape (readEscape_unicodeEscape begin hunit d rest) fuel found
      · rename_i hpair
        rw [List.append_assoc]
        exact readChars_escape (readEscape_surrogates begin (by omega) d rest) fuel found
    · exact hself hcontrol

/-- The characters of a string are read back one by one. -/
theorem readChars_flatMap (begin : List Char) (asciiOnly : Bool) (cs found rest : List Char)
    {fuel : Nat} (h : cs.length < fuel) :
    readChars begin fuel found (cs.flatMap (escapeChar asciiOnly) ++ '"' :: rest) =
      .ok (String.ofList (found.reverse ++ cs), rest) := by
  induction cs generalizing fuel found with
  | nil =>
      obtain ⟨fuel, rfl⟩ : ∃ n, fuel = n + 1 := ⟨fuel - 1, by omega⟩
      simp [readChars]
  | cons c cs ih =>
      obtain ⟨fuel, rfl⟩ : ∃ n, fuel = n + 1 := ⟨fuel - 1, by omega⟩
      rw [List.length_cons, Nat.add_lt_add_iff_right] at h
      obtain ⟨d, more, hmore⟩ : ∃ d more,
          cs.flatMap (escapeChar asciiOnly) ++ '"' :: rest = d :: more :=
        List.exists_cons_of_ne_nil (by simp)
      rw [List.flatMap_cons, List.append_assoc, hmore, readChars_escapeChar, ← hmore,
        ih (c :: found) h]
      simp

theorem escapeChar_ne_nil (asciiOnly : Bool) (c : Char) : escapeChar asciiOnly c ≠ [] := by
  unfold escapeChar
  repeat' split
  all_goals simp [unicodeEscape]

theorem length_le_length_flatMap_escapeChar (asciiOnly : Bool) (cs : List Char) :
    cs.length ≤ (cs.flatMap (escapeChar asciiOnly)).length := by
  induction cs with
  | nil => exact Nat.le_refl 0
  | cons c cs ih =>
      have hone := List.length_pos_iff.mpr (escapeChar_ne_nil asciiOnly c)
      rw [List.flatMap_cons, List.length_append, List.length_cons]
      omega

/-- A string is read back up to its closing quote. -/
theorem readString_stringChars (asciiOnly : Bool) (s : String) (rest : List Char) :
    ∃ more, stringChars asciiOnly s ++ rest = '"' :: more ∧ readString more = .ok (s, rest) := by
  refine ⟨s.toList.flatMap (escapeChar asciiOnly) ++ '"' :: rest, by simp [stringChars], ?_⟩
  have hlength := length_le_length_flatMap_escapeChar asciiOnly s.toList
  rw [readString, readChars_flatMap]
  · simp
  · rw [List.length_append]
    omega

/-! ## The characters of a string's text -/

theorem isAlphanum_of_mem_hex {n : Nat} {d : Char} (h : d ∈ hex 4 n) : d.isAlphanum = true := by
  have hdigit : ∀ k < 16, (Nat.digitChar k).isAlphanum = true := by decide
  have hmod (m : Nat) : m % 16 < 16 := Nat.mod_lt m (by decide)
  rw [hex_four] at h
  simp only [List.mem_cons, List.not_mem_nil, or_false] at h
  rcases h with rfl | rfl | rfl | rfl
  · exact hdigit _ (hmod _)
  · exact hdigit _ (hmod _)
  · exact hdigit _ (hmod _)
  · exact hdigit _ (hmod _)

theorem of_mem_unicodeEscape {n : Nat} {d : Char} (h : d ∈ unicodeEscape n) :
    d = '\\' ∨ d.isAlphanum = true := by
  simp only [unicodeEscape, List.mem_cons] at h
  rcases h with rfl | rfl | h
  · exact .inl rfl
  · exact .inr (by decide)
  · exact .inr (isAlphanum_of_mem_hex h)

/-- A character stands for itself, or it is escaped with a backslash, quotes, letters and digits. -/
theorem of_mem_escapeChar {asciiOnly : Bool} {c d : Char} (h : d ∈ escapeChar asciiOnly c) :
    d = c ∧ 32 ≤ c.toNat ∨ d = '"' ∨ d = '\\' ∨ d.isAlphanum = true := by
  unfold escapeChar at h
  split at h
  iterate 7
    simp only [List.mem_cons, List.not_mem_nil, or_false] at h
    rcases h with rfl | rfl <;> decide
  have hself (hcontrol : ¬c.toNat < 32) (h : d ∈ [c]) :
      d = c ∧ 32 ≤ c.toNat ∨ d = '"' ∨ d = '\\' ∨ d.isAlphanum = true :=
    .inl ⟨List.mem_singleton.mp h, Nat.le_of_not_lt hcontrol⟩
  split at h
  · exact .inr (.inr (of_mem_unicodeEscape h))
  · rename_i hcontrol
    split at h
    · split at h
      · split at h
        · exact hself hcontrol h
        · exact .inr (.inr (of_mem_unicodeEscape h))
      · rcases List.mem_append.mp h with h | h
        · exact .inr (.inr (of_mem_unicodeEscape h))
        · exact .inr (.inr (of_mem_unicodeEscape h))
    · exact hself hcontrol h

theorem of_mem_stringChars {asciiOnly : Bool} {s : String} {d : Char}
    (h : d ∈ stringChars asciiOnly s) :
    d ∈ s.toList ∧ 32 ≤ d.toNat ∨ d = '"' ∨ d = '\\' ∨ d.isAlphanum = true := by
  simp only [stringChars, List.mem_cons, List.mem_append, List.mem_flatMap, List.not_mem_nil,
    or_false] at h
  rcases h with rfl | ⟨c, hc, hd⟩ | rfl
  · exact .inr (.inl rfl)
  · rcases of_mem_escapeChar hd with ⟨rfl, hcontrol⟩ | hd
    · exact .inl ⟨hc, hcontrol⟩
    · exact .inr hd
  · exact .inr (.inl rfl)

end Foldbook.Json
