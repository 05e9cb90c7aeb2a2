import Foldbook.Text.Utf8
import Mathlib.Data.List.Basic

/-!
# UTF-8, written and read

`decode_encode`: the octets of a text are read as the text.  The step is
`next_utf8EncodeChar`, with one case for each length of a character.

`decode_eq_ok_iff`: no other octets are read as the text.  The step is
`of_next`, which undoes `next` along the same four lengths.

`prefix_of_encode_prefix`: octets that begin those of a text are those of a
beginning of it, if they are the octets of a text at all.
-/

namespace Foldbook.Text.Utf8

theorem toList_loop (octets : ByteArray) (i : Nat) (found : List UInt8) :
    ByteArray.toList.loop octets i found = found.reverse ++ octets.data.toList.drop i := by
  fun_induction ByteArray.toList.loop octets i found with
  | case1 i found h ih =>
      rw [ih, List.reverse_cons, List.append_assoc]
      congr 1
      have hi : i < octets.data.toList.length := by simpa using h
      rw [List.drop_eq_getElem_cons hi, List.singleton_append]
      congr 1
      simp [ByteArray.get!, h]
  | case2 i found h =>
      have hi : octets.data.toList.length ≤ i := by simpa using h
      rw [List.drop_eq_nil_of_le hi, List.append_nil]

theorem encode_eq_flatMap (s : String) : encode s = s.toList.flatMap String.utf8EncodeChar := by
  rw [encode, String.toUTF8_eq_toByteArray, ← String.utf8Encode_toList, List.utf8Encode,
    ByteArray.toList, toList_loop]
  simp

/-! ## One character, written

The octets of a character are given by their payloads: `a` in the leading octet, and six bits in
each tail. -/

section

variable {lead second third fourth : UInt8} {a b c d : Nat} (rest : List UInt8)

theorem next_one (hlead : lead.toNat = a) (ha : a < 128) :
    next lead rest = .char (Char.ofNat a) 1 := by
  have hlength : lengthOf? lead = some 1 := by
    simp [lengthOf?, UInt8.lt_iff_toNat_lt, hlead, ha]
  simp [next, hlength, readTails, scalar, hlead]

theorem isTail_of_payload {tail : UInt8} (htail : tail.toNat = b + 128) (hb : b < 64) :
    isTail tail = true := by
  simp [isTail, UInt8.le_iff_toNat_le, htail]
  omega

theorem next_two (hlead : lead.toNat = a + 192) (ha : 2 ≤ a) (ha' : a < 32)
    (hsecond : second.toNat = b + 128) (hb : b < 64) :
    next lead (second :: rest) = .char (Char.ofNat (a * 64 + b)) 2 := by
  have hlength : lengthOf? lead = some 2 := by
    simp only [lengthOf?, UInt8.lt_iff_toNat_lt, hlead, UInt8.reduceToNat]
    rw [if_neg (by omega), if_neg (by omega), if_pos (by omega)]
  have hfits : (secondBounds lead).1 ≤ second ∧ second ≤ (secondBounds lead).2 := by
    simp only [secondBounds, beq_iff_eq, ← UInt8.toNat_inj, UInt8.le_iff_toNat_le, hlead, hsecond,
      UInt8.reduceToNat]
    split_ifs <;> simp <;> omega
  have hscalar : scalar lead [second] = a * 64 + b := by
    simp only [scalar, List.length_singleton, List.foldl_cons, List.foldl_nil, hlead, hsecond]
    omega
  simp [next, hlength, readTails, hfits, hscalar]

theorem next_three (hlead : lead.toNat = a + 224) (ha : a < 16)
    (hsecond : second.toNat = b + 128) (hb : b < 64) (hlow : a = 0 → 32 ≤ b)
    (hsurrogate : a = 13 → b < 32) (hthird : third.toNat = c + 128) (hc : c < 64) :
    next lead (second :: third :: rest) = .char (Char.ofNat ((a * 64 + b) * 64 + c)) 3 := by
  have hlength : lengthOf? lead = some 3 := by
    simp only [lengthOf?, UInt8.lt_iff_toNat_lt, hlead, UInt8.reduceToNat]
    rw [if_neg (by omega), if_neg (by omega), if_neg (by omega), if_pos (by omega)]
  have hfits : (secondBounds lead).1 ≤ second ∧ second ≤ (secondBounds lead).2 := by
    simp only [secondBounds, beq_iff_eq, ← UInt8.toNat_inj, UInt8.le_iff_toNat_le, hlead, hsecond,
      UInt8.reduceToNat]
    split_ifs <;> simp <;> omega
  have hscalar : scalar lead [second, third] = (a * 64 + b) * 64 + c := by
    simp only [scalar, List.length_cons, List.length_nil, List.foldl_cons, List.foldl_nil, hlead,
      hsecond, hthird]
    omega
  simp [next, hlength, readTails, hfits, isTail_of_payload hthird hc, hscalar]

theorem next_four (hlead : lead.toNat = a + 240) (ha : a < 5)
    (hsecond : second.toNat = b + 128) (hb : b < 64) (hlow : a = 0 → 16 ≤ b)
    (hhigh : a = 4 → b < 16) (hthird : third.toNat = c + 128) (hc : c < 64)
    (hfourth : fourth.toNat = d + 128) (hd : d < 64) :
    next lead (second :: third :: fourth :: rest) =
      .char (Char.ofNat (((a * 64 + b) * 64 + c) * 64 + d)) 4 := by
  have hlength : lengthOf? lead = some 4 := by
    simp only [lengthOf?, UInt8.lt_iff_toNat_lt, hlead, UInt8.reduceToNat]
    rw [if_neg (by omega), if_neg (by omega), if_neg (by omega), if_neg (by omega),
      if_pos (by omega)]
  have hfits : (secondBounds lead).1 ≤ second ∧ second ≤ (secondBounds lead).2 := by
    simp only [secondBounds, beq_iff_eq, ← UInt8.toNat_inj, UInt8.le_iff_toNat_le, hlead, hsecond,
      UInt8.reduceToNat]
    split_ifs <;> simp <;> omega
  have hscalar : scalar lead [second, third, fourth] = ((a * 64 + b) * 64 + c) * 64 + d := by
    simp only [scalar, List.length_cons, List.length_nil, List.foldl_cons, List.foldl_nil, hlead,
      hsecond, hthird, hfourth]
    omega
  simp [next, hlength, readTails, hfits, isTail_of_payload hthird hc,
    isTail_of_payload hfourth hd, hscalar]

end

theorem toNat_ofNat_of_lt {n : Nat} (h : n < 256) : (UInt8.ofNat n).toNat = n := by
  rw [UInt8.toNat_ofNat', Nat.mod_eq_of_lt h]

/-- The octets of a character are read as the character, whatever follows. -/
theorem next_utf8EncodeChar (c : Char) :
    ∃ lead tails, String.utf8EncodeChar c = lead :: tails ∧
      ∀ rest, next lead (tails ++ rest) = .char c (tails.length + 1) := by
  have hvalid : c.toNat < 0xD800 ∨ 0xDFFF < c.toNat ∧ c.toNat < 0x110000 := c.valid
  have hchar : ∀ n, n = c.toNat → Char.ofNat n = c := by
    rintro n rfl
    exact Char.ofNat_toNat c
  simp only [String.utf8EncodeChar, Char.toNat_val]
  generalize c.toNat = n at *
  split
  · refine ⟨_, _, rfl, fun rest => ?_⟩
    rw [List.nil_append, next_one rest (toNat_ofNat_of_lt (by omega)) (by omega), hchar n rfl]
    rfl
  · split
    · refine ⟨_, _, rfl, fun rest => ?_⟩
      rw [List.cons_append, List.nil_append,
        next_two rest (toNat_ofNat_of_lt (by omega)) (by omega) (by omega)
          (toNat_ofNat_of_lt (by omega)) (by omega), hchar _ (by omega)]
      rfl
    · split
      · refine ⟨_, _, rfl, fun rest => ?_⟩
        rw [List.cons_append, List.cons_append, List.nil_append,
          next_three rest (toNat_ofNat_of_lt (by omega)) (by omega)
            (toNat_ofNat_of_lt (by omega)) (by omega) (by omega) (by omega)
            (toNat_ofNat_of_lt (by omega)) (by omega), hchar _ (by omega)]
        rfl
      · refine ⟨_, _, rfl, fun rest => ?_⟩
        rw [List.cons_append, List.cons_append, List.cons_append, List.nil_append,
          next_four rest (toNat_ofNat_of_lt (by omega)) (by omega)
            (toNat_ofNat_of_lt (by omega)) (by omega) (by omega) (by omega)
            (toNat_ofNat_of_lt (by omega)) (by omega)
            (toNat_ofNat_of_lt (by omega)) (by omega), hchar _ (by omega)]
        rfl

/-! ## One character, read -/


theorem toNat_charOfNat {n : Nat} (h : n < 0xD800 ∨ 0xDFFF < n ∧ n < 0x110000) :
    (Char.ofNat n).toNat = n := by
  rw [Char.ofNat, dif_pos h]
  rfl

section

variable {lead second third fourth : UInt8} {a b c d : Nat}

theorem ofNat_eq_octet (octet : UInt8) {n : Nat} (h : n = octet.toNat) : UInt8.ofNat n = octet := by
  rw [h, UInt8.ofNat_toNat]

theorem utf8EncodeChar_one (hlead : lead.toNat = a) (ha : a < 128) :
    String.utf8EncodeChar (Char.ofNat a) = [lead] := by
  have hn := toNat_charOfNat (n := a) (by omega)
  simp only [String.utf8EncodeChar, Char.toNat_val, hn]
  rw [if_pos (by omega), ofNat_eq_octet lead hlead.symm]

theorem utf8EncodeChar_two (hlead : lead.toNat = a + 192) (ha : 2 ≤ a) (ha' : a < 32)
    (hsecond : second.toNat = b + 128) (hb : b < 64) :
    String.utf8EncodeChar (Char.ofNat (a * 64 + b)) = [lead, second] := by
  have hn := toNat_charOfNat (n := a * 64 + b) (by omega)
  simp only [String.utf8EncodeChar, Char.toNat_val, hn]
  rw [if_neg (by omega), if_pos (by omega), ofNat_eq_octet lead (by omega),
    ofNat_eq_octet second (by omega)]

theorem utf8EncodeChar_three (hlead : lead.toNat = a + 224) (ha : a < 16)
    (hsecond : second.toNat = b + 128) (hb : b < 64) (hlow : a = 0 → 32 ≤ b)
    (hsurrogate : a = 13 → b < 32) (hthird : third.toNat = c + 128) (hc : c < 64) :
    String.utf8EncodeChar (Char.ofNat ((a * 64 + b) * 64 + c)) = [lead, second, third] := by
  have hn := toNat_charOfNat (n := (a * 64 + b) * 64 + c) (by omega)
  simp only [String.utf8EncodeChar, Char.toNat_val, hn]
  rw [if_neg (by omega), if_neg (by omega), if_pos (by omega),
    ofNat_eq_octet lead (by omega), ofNat_eq_octet second (by omega),
    ofNat_eq_octet third (by omega)]

theorem utf8EncodeChar_four (hlead : lead.toNat = a + 240) (ha : a < 5)
    (hsecond : second.toNat = b + 128) (hb : b < 64) (hlow : a = 0 → 16 ≤ b)
    (hhigh : a = 4 → b < 16) (hthird : third.toNat = c + 128) (hc : c < 64)
    (hfourth : fourth.toNat = d + 128) (hd : d < 64) :
    String.utf8EncodeChar (Char.ofNat (((a * 64 + b) * 64 + c) * 64 + d)) =
      [lead, second, third, fourth] := by
  have hn := toNat_charOfNat (n := ((a * 64 + b) * 64 + c) * 64 + d) (by omega)
  simp only [String.utf8EncodeChar, Char.toNat_val, hn]
  rw [if_neg (by omega), if_neg (by omega), if_neg (by omega),
    ofNat_eq_octet lead (by omega), ofNat_eq_octet second (by omega),
    ofNat_eq_octet third (by omega), ofNat_eq_octet fourth (by omega)]

theorem of_lengthOf? {n : Nat} (h : lengthOf? lead = some n) :
    n = 1 ∧ lead.toNat < 128 ∨ n = 2 ∧ 194 ≤ lead.toNat ∧ lead.toNat < 224 ∨
      n = 3 ∧ 224 ≤ lead.toNat ∧ lead.toNat < 240 ∨
        n = 4 ∧ 240 ≤ lead.toNat ∧ lead.toNat < 245 := by
  simp only [lengthOf?, UInt8.lt_iff_toNat_lt, UInt8.reduceToNat] at h
  split_ifs at h <;> cases h <;> omega

/-- The first tail is within its bounds. -/
theorem of_readTails_first {wanted : Nat} {rest : List UInt8} {char : Char} {width : Nat}
    (h : readTails lead [] (wanted + 1) rest = .char char width) :
    ∃ b after, rest = b :: after ∧ (secondBounds lead).1 ≤ b ∧ b ≤ (secondBounds lead).2 ∧
      readTails lead [b] wanted after = .char char width := by
  cases rest with
  | nil => cases h
  | cons b after =>
      simp only [readTails, List.isEmpty_nil, if_true, Bool.and_eq_true, decide_eq_true_eq] at h
      split_ifs at h with hfits
      exact ⟨b, after, rfl, hfits.1, hfits.2, h⟩

theorem of_readTails_cons {wanted width : Nat} {seen rest : List UInt8} {last : UInt8} {char : Char}
    (h : readTails lead (last :: seen) (wanted + 1) rest = .char char width) :
    ∃ b after, rest = b :: after ∧ 128 ≤ b.toNat ∧ b.toNat < 192 ∧
      readTails lead (b :: last :: seen) wanted after = .char char width := by
  cases rest with
  | nil => cases h
  | cons b after =>
      simp only [readTails, List.isEmpty_cons, Bool.false_eq_true, if_false, isTail,
        UInt8.le_iff_toNat_le, Bool.and_eq_true, decide_eq_true_eq, UInt8.reduceToNat] at h
      split_ifs at h with hfits
      exact ⟨b, after, rfl, hfits.1, by omega, h⟩

theorem secondBounds_toNat (h : (secondBounds lead).1 ≤ second)
    (h' : second ≤ (secondBounds lead).2) :
    128 ≤ second.toNat ∧ second.toNat < 192 ∧ (lead.toNat = 224 → 160 ≤ second.toNat) ∧
      (lead.toNat = 237 → second.toNat < 160) ∧ (lead.toNat = 240 → 144 ≤ second.toNat) ∧
        (lead.toNat = 244 → second.toNat < 144) := by
  simp only [secondBounds, beq_iff_eq, ← UInt8.toNat_inj, UInt8.reduceToNat] at h h'
  split_ifs at h h' <;> simp only [UInt8.le_iff_toNat_le, UInt8.reduceToNat] at h h' <;> omega

end

/-- What is read as a character is what the character is written as. -/
theorem of_next {lead : UInt8} {rest : List UInt8} {c : Char} {width : Nat}
    (h : next lead rest = .char c width) :
    ∃ tails after, rest = tails ++ after ∧ width = tails.length + 1 ∧
      String.utf8EncodeChar c = lead :: tails := by
  have hread := h
  unfold next at hread
  split at hread
  · cases hread
  · rename_i n hn
    rcases of_lengthOf? hn with ⟨rfl, hlead⟩ | ⟨rfl, hlead⟩ | ⟨rfl, hlead⟩ | ⟨rfl, hlead⟩
    · rw [next_one rest rfl hlead] at h
      cases h
      exact ⟨[], rest, rfl, rfl, utf8EncodeChar_one rfl hlead⟩
    · obtain ⟨second, after, rfl, hlow, hhigh, -⟩ := of_readTails_first hread
      have hsecond := secondBounds_toNat hlow hhigh
      obtain ⟨a, ha⟩ : ∃ a, lead.toNat = a + 192 := ⟨lead.toNat - 192, by omega⟩
      obtain ⟨b, hb⟩ : ∃ b, second.toNat = b + 128 := ⟨second.toNat - 128, by omega⟩
      rw [next_two after ha (by omega) (by omega) hb (by omega)] at h
      cases h
      exact ⟨[second], after, rfl, rfl,
        utf8EncodeChar_two ha (by omega) (by omega) hb (by omega)⟩
    · obtain ⟨second, after, rfl, hlow, hhigh, hread⟩ := of_readTails_first hread
      obtain ⟨third, after, rfl, hthird, hthird', -⟩ := of_readTails_cons hread
      have hsecond := secondBounds_toNat hlow hhigh
      obtain ⟨a, ha⟩ : ∃ a, lead.toNat = a + 224 := ⟨lead.toNat - 224, by omega⟩
      obtain ⟨b, hb⟩ : ∃ b, second.toNat = b + 128 := ⟨second.toNat - 128, by omega⟩
      obtain ⟨c, hc⟩ : ∃ c, third.toNat = c + 128 := ⟨third.toNat - 128, by omega⟩
      rw [next_three after ha (by omega) hb (by omega) (by omega) (by omega) hc (by omega)] at h
      cases h
      exact ⟨[second, third], after, rfl, rfl,
        utf8EncodeChar_three ha (by omega) hb (by omega) (by omega) (by omega) hc (by omega)⟩
    · obtain ⟨second, after, rfl, hlow, hhigh, hread⟩ := of_readTails_first hread
      obtain ⟨third, after, rfl, hthird, hthird', hread⟩ := of_readTails_cons hread
      obtain ⟨fourth, after, rfl, hfourth, hfourth', -⟩ := of_readTails_cons hread
      have hsecond := secondBounds_toNat hlow hhigh
      obtain ⟨a, ha⟩ : ∃ a, lead.toNat = a + 240 := ⟨lead.toNat - 240, by omega⟩
      obtain ⟨b, hb⟩ : ∃ b, second.toNat = b + 128 := ⟨second.toNat - 128, by omega⟩
      obtain ⟨c, hc⟩ : ∃ c, third.toNat = c + 128 := ⟨third.toNat - 128, by omega⟩
      obtain ⟨d, hd⟩ : ∃ d, fourth.toNat = d + 128 := ⟨fourth.toNat - 128, by omega⟩
      rw [next_four after ha (by omega) hb (by omega) (by omega) (by omega) hc (by omega) hd
        (by omega)] at h
      cases h
      exact ⟨[second, third, fourth], after, rfl, rfl,
        utf8EncodeChar_four ha (by omega) hb (by omega) (by omega) (by omega) hc (by omega) hd
          (by omega)⟩

/-! ## Texts -/

/-- Octets that belong to the character before are passed over. -/
theorem decodeWith_skip {ε : Type} (onFault : Fault → Except ε Char) (position : Nat)
    (tails rest : List UInt8) :
    decodeWith onFault position tails.length (tails ++ rest) =
      decodeWith onFault (position + tails.length) 0 rest := by
  induction tails generalizing position with
  | nil => rfl
  | cons b tails ih =>
      rw [List.cons_append, List.length_cons, decodeWith, ih]
      congr 1
      omega

theorem decodeWith_encode {ε : Type} (onFault : Fault → Except ε Char) (position : Nat)
    (cs : List Char) :
    decodeWith onFault position 0 (cs.flatMap String.utf8EncodeChar) = .ok cs := by
  induction cs generalizing position with
  | nil => rfl
  | cons c cs ih =>
      obtain ⟨lead, tails, hoctets, hnext⟩ := next_utf8EncodeChar c
      rw [List.flatMap_cons, hoctets, List.cons_append, decodeWith, hnext]
      simp only [Nat.add_sub_cancel, decodeWith_skip, ih]
      rfl

/-- The octets of a text are read as the text. -/
@[simp] theorem decode_encode (s : String) : decode (encode s) = .ok s := by
  rw [decode, encode_eq_flatMap, decodeWith_encode]
  simp [Except.map]

/-- The octets of a text begin with those of another one only if the text begins with it. -/
theorem prefix_of_flatMap_prefix {cs ds : List Char}
    (h : cs.flatMap String.utf8EncodeChar <+: ds.flatMap String.utf8EncodeChar) : cs <+: ds := by
  induction cs generalizing ds with
  | nil => exact List.nil_prefix
  | cons c cs ih =>
      obtain ⟨lead, tails, hoctets, hnext⟩ := next_utf8EncodeChar c
      obtain ⟨after, hafter⟩ := h
      rw [List.flatMap_cons, hoctets, List.cons_append, List.cons_append, List.append_assoc]
        at hafter
      cases ds with
      | nil => cases hafter
      | cons d ds =>
          obtain ⟨lead', tails', hoctets', hnext'⟩ := next_utf8EncodeChar d
          rw [List.flatMap_cons, hoctets', List.cons_append] at hafter
          obtain ⟨rfl, htails⟩ := List.cons.inj hafter
          -- The same octets are read as both characters.
          have hread := hnext (cs.flatMap String.utf8EncodeChar ++ after)
          rw [htails, hnext'] at hread
          obtain ⟨rfl, -⟩ := Step.char.inj hread
          obtain rfl : tails = tails' := (List.cons.inj (hoctets.symm.trans hoctets')).2
          rw [List.prefix_cons_inj]
          exact ih ⟨after, List.append_cancel_left htails⟩

theorem prefix_of_encode_prefix {s t : String} (h : encode s <+: encode t) :
    s.toList <+: t.toList := by
  rw [encode_eq_flatMap, encode_eq_flatMap] at h
  exact prefix_of_flatMap_prefix h

/-- Octets that are read without a fault are those of the characters. -/
theorem eq_flatMap_of_decodeWith {position : Nat} {octets : List UInt8} {cs : List Char}
    (h : decodeWith Except.error position 0 octets = .ok cs) :
    octets = cs.flatMap String.utf8EncodeChar := by
  induction hn : octets.length using Nat.strongRecOn generalizing position octets cs with
  | _ n ih =>
    cases octets with
    | nil =>
        cases h
        rfl
    | cons lead rest =>
        rw [decodeWith] at h
        cases hnext : next lead rest with
        | fault cause width =>
            rw [hnext] at h
            cases h
        | char c width =>
            obtain ⟨tails, after, rfl, rfl, hoctets⟩ := of_next hnext
            rw [hnext] at h
            simp only [Nat.add_sub_cancel, decodeWith_skip] at h
            cases hrest : decodeWith Except.error (position + 1 + tails.length) 0 after with
            | error fault =>
                rw [hrest] at h
                cases h
            | ok rest =>
                rw [hrest] at h
                cases h
                rw [List.flatMap_cons, hoctets, List.cons_append,
                  ← ih _ (by simp at hn; omega) hrest rfl]

/-- Octets are read as a text exactly if they are the octets of the text. -/
theorem decode_eq_ok_iff {octets : List UInt8} {s : String} :
    decode octets = .ok s ↔ octets = encode s := by
  constructor
  · intro h
    rw [decode] at h
    cases hcs : decodeWith Except.error 0 0 octets with
    | error fault =>
        rw [hcs] at h
        cases h
    | ok cs =>
        rw [hcs] at h
        cases h
        rw [encode_eq_flatMap, String.toList_ofList]
        exact eq_flatMap_of_decodeWith hcs
  · rintro rfl
    exact decode_encode s

end Foldbook.Text.Utf8
