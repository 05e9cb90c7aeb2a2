import Foldbook.Proofs.Json.Numeral
import Foldbook.Proofs.Json.Parts
import Foldbook.Proofs.Json.Strings

/-!
# The characters of a text

Which characters the printer writes.

* `laid_of_mem_chars`: a control character in the text of a value comes from the
  layout, so a carriage return is never written
  (`carriageReturn_notMem_chars`).
* `Unpaired`: no two opening braces stand next to each other, and the text
  does not end with one.  The property is kept when texts are joined
  (`Unpaired.append`), and `unpaired_chars` shows it for values whose strings
  have no opening braces.
-/

namespace Foldbook.Json

/-! ## Numbers -/

theorem of_mem_spelled {n : Numeral} (h : n.Regular) {c : Char} (hc : c ∈ n.spelled) :
    c.isDigit = true ∨ c = '-' ∨ c = '.' ∨ c = 'e' ∨ c = '+' := by
  have hwhole : ∀ d ∈ n.whole, d.isDigit = true := by
    rcases h.whole with hzero | ⟨-, -, hdigits⟩
    · simp [hzero]
    · exact hdigits
  simp only [Numeral.spelled, List.mem_append] at hc
  rcases hc with hc | hc | hc | hc
  · split at hc
    · exact .inr (.inl (List.mem_singleton.mp hc))
    · exact absurd hc List.not_mem_nil
  · exact .inl (hwhole c hc)
  · unfold Numeral.fractionText at hc
    split at hc
    · exact absurd hc List.not_mem_nil
    · rcases List.mem_cons.mp hc with rfl | hc
      · exact .inr (.inr (.inl rfl))
      · exact .inl (h.fraction c hc)
  · unfold Numeral.powerText at hc
    split at hc
    · exact absurd hc List.not_mem_nil
    · rename_i negative ds hpower
      simp only [List.mem_cons] at hc
      rcases hc with rfl | hc | hc
      · exact .inr (.inr (.inr (.inl rfl)))
      · split at hc
        · exact .inr (.inl hc)
        · exact .inr (.inr (.inr (.inr hc)))
      · exact .inl ((h.power negative ds hpower).2 c hc)

/-- Whether a character can stand in a number or in a word. -/
def isAtomChar (c : Char) : Bool := c.isAlphanum || c == '-' || c == '.' || c == '+'

theorem isAtomChar_of_mem_spelled {n : Numeral} (h : n.Regular) {c : Char} (hc : c ∈ n.spelled) :
    isAtomChar c = true := by
  rcases of_mem_spelled h hc with hdigit | rfl | rfl | rfl | rfl
  · simp [isAtomChar, Char.isAlphanum, hdigit]
  all_goals decide

theorem isAtomChar_of_mem_intDigits {n : Int} {c : Char} (hc : c ∈ Decimal.intDigits n) :
    isAtomChar c = true :=
  isAtomChar_of_mem_spelled (Numeral.regular_ofInt n) (Numeral.spelled_ofInt n ▸ hc)

theorem isAtomChar_of_mem_floatChars {x : Float} {c : Char} (hc : c ∈ floatChars x) :
    isAtomChar c = true := by
  by_cases h : x.isNaN = false ∧ x.isInf = false
  · obtain ⟨n, hregular, -, hspelled⟩ := exists_spelled_floatChars h.1 h.2
    exact isAtomChar_of_mem_spelled hregular (hspelled ▸ hc)
  · have hwords : ∀ word ∈ ["NaN", "Infinity", "-Infinity"], word.toList.all isAtomChar = true := by
      decide
    unfold floatChars at hc
    split at hc
    · exact List.all_eq_true.mp (hwords _ (by simp)) c hc
    · split at hc
      · split at hc
        · exact List.all_eq_true.mp (hwords _ (by simp)) c hc
        · exact List.all_eq_true.mp (hwords _ (by simp)) c hc
      · exact absurd ⟨by simpa using ‹¬x.isNaN = true›, by simpa using ‹¬x.isInf = true›⟩ h

theorem le_toNat_of_isAtomChar {c : Char} (h : isAtomChar c = true) : 32 ≤ c.toNat := by
  simp only [isAtomChar, Char.isAlphanum, Bool.or_eq_true, beq_iff_eq] at h
  delta Char.isAlpha Char.isUpper Char.isLower Char.isDigit at h
  simp only [Bool.or_eq_true, Bool.and_eq_true, decide_eq_true_eq] at h
  change (((((65 ≤ c.toNat ∧ c.toNat ≤ 90) ∨ (97 ≤ c.toNat ∧ c.toNat ≤ 122)) ∨
    (48 ≤ c.toNat ∧ c.toNat ≤ 57)) ∨ c = '-') ∨ c = '.') ∨ c = '+' at h
  rcases h with ((h | rfl) | rfl) | rfl
  · omega
  all_goals decide

/-! ## All values -/

/-- A character that is no control character, or that the layout adds. -/
def Laid (l : Layout) (c : Char) : Prop :=
  32 ≤ c.toNat ∨ c ∈ l.comma ∨ c ∈ l.colon ∨ ∃ level, c ∈ l.gap level

section Laid

variable {l : Layout} {c : Char}

theorem laid_of_mem_stringChars {s : String} (h : c ∈ stringChars l.asciiOnly s) : Laid l c := by
  rcases of_mem_stringChars h with ⟨-, hprintable⟩ | rfl | rfl | halphanum
  · exact .inl hprintable
  · exact .inl (by decide)
  · exact .inl (by decide)
  · exact .inl (le_toNat_of_isAtomChar (by simp [isAtomChar, halphanum]))

theorem laid_of_mem_itemsChars {items : List Json}
    (hitems : ∀ v ∈ items, ∀ level, ∀ c ∈ chars l level v, Laid l c) {level : Nat}
    (h : c ∈ itemsChars l level items) : Laid l c := by
  induction items with
  | nil => exact absurd h List.not_mem_nil
  | cons v items ih =>
      obtain ⟨hv, hitems⟩ := List.forall_mem_cons.mp hitems
      simp only [itemsChars, List.mem_append] at h
      rcases h with ((h | h) | h) | h
      · exact .inr (.inl h)
      · exact .inr (.inr (.inr ⟨level, h⟩))
      · exact hv level c h
      · exact ih hitems h

theorem laid_of_mem_membersChars {members : List (String × Json)}
    (hmembers : ∀ m ∈ members, ∀ level, ∀ c ∈ chars l level m.2, Laid l c) {level : Nat}
    (h : c ∈ membersChars l level members) : Laid l c := by
  induction members with
  | nil => exact absurd h List.not_mem_nil
  | cons m members ih =>
      obtain ⟨name, v⟩ := m
      obtain ⟨hv, hmembers⟩ := List.forall_mem_cons.mp hmembers
      simp only [membersChars, List.mem_append] at h
      rcases h with ((((h | h) | h) | h) | h) | h
      · exact .inr (.inl h)
      · exact .inr (.inr (.inr ⟨level, h⟩))
      · exact laid_of_mem_stringChars h
      · exact .inr (.inr (.inl h))
      · exact hv level c h
      · exact ih hmembers h

/-- Control characters in the text of a value come from the layout. -/
theorem laid_of_mem_chars (v : Json) : ∀ level, ∀ c ∈ chars l level v, Laid l c := by
  have hwords : ∀ word ∈ ["null", "true", "false"], word.toList.all isAtomChar = true := by
    decide
  have hatom {d : Char} (hd : isAtomChar d = true) : Laid l d := .inl (le_toNat_of_isAtomChar hd)
  have hmark {d : Char} (hd : 32 ≤ d.toNat) : Laid l d := .inl hd
  induction v using Json.induction with
  | null => exact fun _ c hc => hatom (List.all_eq_true.mp (hwords _ (by simp)) c hc)
  | bool b => cases b <;> exact fun _ c hc => hatom (List.all_eq_true.mp (hwords _ (by simp)) c hc)
  | int n => exact fun _ c hc => hatom (isAtomChar_of_mem_intDigits hc)
  | float x => exact fun _ c hc => hatom (isAtomChar_of_mem_floatChars hc)
  | str s => exact fun _ c hc => laid_of_mem_stringChars hc
  | arr items ih =>
      intro level c hc
      cases items with
      | nil =>
          simp only [chars, List.mem_cons, List.not_mem_nil, or_false] at hc
          rcases hc with rfl | rfl <;> exact hmark (by decide)
      | cons v items =>
          obtain ⟨hv, hitems⟩ := List.forall_mem_cons.mp ih
          simp only [chars, List.mem_cons, List.mem_append, List.not_mem_nil, or_false] at hc
          rcases hc with rfl | (((hc | hc) | hc) | hc) | rfl
          · exact hmark (by decide)
          · exact .inr (.inr (.inr ⟨_, hc⟩))
          · exact hv _ c hc
          · exact laid_of_mem_itemsChars hitems hc
          · exact .inr (.inr (.inr ⟨_, hc⟩))
          · exact hmark (by decide)
  | obj members ih =>
      intro level c hc
      cases members with
      | nil =>
          simp only [chars, List.mem_cons, List.not_mem_nil, or_false] at hc
          rcases hc with rfl | rfl <;> exact hmark (by decide)
      | cons m members =>
          obtain ⟨name, v⟩ := m
          obtain ⟨hv, hmembers⟩ := List.forall_mem_cons.mp ih
          simp only [chars, List.mem_cons, List.mem_append, List.not_mem_nil, or_false] at hc
          rcases hc with rfl | (((((hc | hc) | hc) | hc) | hc) | hc) | rfl
          · exact hmark (by decide)
          · exact .inr (.inr (.inr ⟨_, hc⟩))
          · exact laid_of_mem_stringChars hc
          · exact .inr (.inr (.inl hc))
          · exact hv _ c hc
          · exact laid_of_mem_membersChars hmembers hc
          · exact .inr (.inr (.inr ⟨_, hc⟩))
          · exact hmark (by decide)

end Laid

theorem of_mem_gap {l : Layout} {level : Nat} {c : Char} (h : c ∈ l.gap level) :
    c = '\n' ∨ c = ' ' := by
  unfold Layout.gap at h
  split at h
  · exact absurd h List.not_mem_nil
  · rcases List.mem_cons.mp h with rfl | h
    · exact .inl rfl
    · exact .inr (List.eq_of_mem_replicate h)

/-- A carriage return is never written. -/
theorem carriageReturn_notMem_chars {l : Layout} (hcomma : '\r' ∉ l.comma) (hcolon : '\r' ∉ l.colon)
    (level : Nat) (v : Json) : '\r' ∉ chars l level v := by
  intro h
  rcases laid_of_mem_chars v level _ h with hprintable | hc | hc | ⟨k, hc⟩
  · exact absurd hprintable (by decide)
  · exact hcomma hc
  · exact hcolon hc
  · rcases of_mem_gap hc with hc | hc <;> exact absurd hc (by decide)

/-! ## Adjacent braces -/

/-- No two opening braces stand next to each other, and the last character is none. -/
def Unpaired : List Char → Prop
  | [] => True
  | c :: cs => (c = '\x7b' → ∃ d ∈ cs.head?, d ≠ '\x7b') ∧ Unpaired cs

theorem Unpaired.append {cs ds : List Char} (hcs : Unpaired cs) (hds : Unpaired ds) :
    Unpaired (cs ++ ds) := by
  induction cs with
  | nil => exact hds
  | cons c cs ih =>
      rw [List.cons_append]
      refine ⟨fun hc => ?_, ih hcs.2⟩
      obtain ⟨d, hd, hne⟩ := hcs.1 hc
      refine ⟨d, ?_, hne⟩
      rw [List.head?_append, hd]
      rfl

theorem unpaired_of_notMem {cs : List Char} (h : '\x7b' ∉ cs) : Unpaired cs := by
  induction cs with
  | nil => trivial
  | cons c cs ih =>
      rw [List.mem_cons, not_or] at h
      exact ⟨fun hc => absurd hc.symm h.1, ih h.2⟩

/-- Two opening braces stand nowhere in the text. -/
theorem Unpaired.ne_append {cs : List Char} (h : Unpaired cs) (before after : List Char) :
    cs ≠ before ++ '\x7b' :: '\x7b' :: after := by
  induction before generalizing cs with
  | nil =>
      rintro rfl
      obtain ⟨d, hd, hne⟩ := h.1 rfl
      cases hd
      exact hne rfl
  | cons c before ih =>
      rintro rfl
      exact ih h.2 rfl

/-- Neither a string nor a name of a member has an opening brace. -/
def Unbraced : Json → Prop
  | .str s => '\x7b' ∉ s.toList
  | .obj members => ∀ m ∈ members, '\x7b' ∉ m.1.toList
  | _ => True

instance : DecidablePred Unbraced := fun v =>
  match v with
  | .str s => inferInstanceAs (Decidable ('\x7b' ∉ s.toList))
  | .obj members => inferInstanceAs (Decidable (∀ m ∈ members, '\x7b' ∉ m.1.toList))
  | .null | .bool _ | .int _ | .float _ | .arr _ => isTrue trivial

section Unpaired

variable {l : Layout}

theorem unpaired_stringChars {s : String} (h : '\x7b' ∉ s.toList) :
    Unpaired (stringChars l.asciiOnly s) := by
  apply unpaired_of_notMem
  intro hmem
  rcases of_mem_stringChars hmem with hs | hs | hs | hs
  · exact h hs.1
  all_goals exact absurd hs (by decide)

theorem unpaired_gap (level : Nat) : Unpaired (l.gap level) := by
  apply unpaired_of_notMem
  intro hmem
  rcases of_mem_gap hmem with h | h <;> exact absurd h (by decide)

/-- A gap and a string behind it do not begin with a brace. -/
theorem exists_head?_gap_append {s : String} (level : Nat) (rest : List Char) :
    ∃ d ∈ (l.gap level ++ (stringChars l.asciiOnly s ++ rest)).head?, d ≠ '\x7b' := by
  cases hgap : l.gap level with
  | nil => exact ⟨'"', rfl, by decide⟩
  | cons d blanks =>
      have hd : d ∈ l.gap level := by simp [hgap]
      refine ⟨d, rfl, ?_⟩
      rintro rfl
      rcases of_mem_gap hd with h | h <;> exact absurd h (by decide)

variable (hcomma : '\x7b' ∉ l.comma) (hcolon : '\x7b' ∉ l.colon)
include hcomma

theorem unpaired_itemsChars {items : List Json} {level : Nat}
    (hitems : ∀ v ∈ items, Unpaired (chars l level v)) : Unpaired (itemsChars l level items) := by
  induction items with
  | nil => trivial
  | cons v items ih =>
      obtain ⟨hv, hitems⟩ := List.forall_mem_cons.mp hitems
      exact (((unpaired_of_notMem hcomma).append (unpaired_gap level)).append hv).append (ih hitems)

include hcolon

theorem unpaired_membersChars {members : List (String × Json)} {level : Nat}
    (hnames : ∀ m ∈ members, '\x7b' ∉ m.1.toList)
    (hmembers : ∀ m ∈ members, Unpaired (chars l level m.2)) :
    Unpaired (membersChars l level members) := by
  induction members with
  | nil => trivial
  | cons m members ih =>
      obtain ⟨name, v⟩ := m
      obtain ⟨hname, hnames⟩ := List.forall_mem_cons.mp hnames
      obtain ⟨hv, hmembers⟩ := List.forall_mem_cons.mp hmembers
      exact (((((unpaired_of_notMem hcomma).append (unpaired_gap level)).append
        (unpaired_stringChars hname)).append (unpaired_of_notMem hcolon)).append hv).append
          (ih hnames hmembers)

/-- The printer writes an opening brace only in front of a name, a gap or a closing brace. -/
theorem unpaired_chars {v : Json} (h : v.Every Unbraced) (level : Nat) :
    Unpaired (chars l level v) := by
  have hwords : ∀ word ∈ ["null", "true", "false"], '\x7b' ∉ word.toList := by decide
  have hatom {cs : List Char} (hcs : ∀ c ∈ cs, isAtomChar c = true) : Unpaired cs :=
    unpaired_of_notMem fun hmem => absurd (hcs _ hmem) (by decide)
  induction v using Json.induction generalizing level with
  | null => exact unpaired_of_notMem (hwords "null" (by simp))
  | bool b =>
      cases b with
      | true => exact unpaired_of_notMem (hwords "true" (by simp))
      | false => exact unpaired_of_notMem (hwords "false" (by simp))
  | int n => exact hatom fun c => isAtomChar_of_mem_intDigits
  | float x => exact hatom fun c => isAtomChar_of_mem_floatChars
  | str s => exact unpaired_stringChars (every_str.mp h)
  | arr items ih =>
      rw [every_arr] at h
      have hitems (k : Nat) : ∀ v ∈ items, Unpaired (chars l k v) :=
        fun v hv => ih v hv (h.2 v hv) k
      cases items with
      | nil => exact unpaired_of_notMem (by simp [chars])
      | cons v items =>
          obtain ⟨hv, hrest⟩ := List.forall_mem_cons.mp (hitems (level + 1))
          have hbracket : Unpaired ['['] := unpaired_of_notMem (by decide)
          exact hbracket.append (((((unpaired_gap (level + 1)).append hv).append
            (unpaired_itemsChars hcomma hrest)).append (unpaired_gap level)).append
              (unpaired_of_notMem (by decide)))
  | obj members ih =>
      rw [every_obj] at h
      have hmembers (k : Nat) : ∀ m ∈ members, Unpaired (chars l k m.2) :=
        fun m hm => ih m hm (h.2 m hm) k
      cases members with
      | nil => exact ⟨fun _ => ⟨'\x7d', rfl, by decide⟩, unpaired_of_notMem (by decide)⟩
      | cons m members =>
          obtain ⟨name, v⟩ := m
          obtain ⟨hname, hnames⟩ := List.forall_mem_cons.mp h.1
          obtain ⟨hv, hrest⟩ := List.forall_mem_cons.mp (hmembers (level + 1))
          refine ⟨fun _ => ?_, ((((((unpaired_gap (level + 1)).append
            (unpaired_stringChars hname)).append (unpaired_of_notMem hcolon)).append hv).append
              (unpaired_membersChars hcomma hcolon hnames hrest)).append
                (unpaired_gap level)).append (unpaired_of_notMem (by decide))⟩
          simp only [List.append_assoc]
          exact exists_head?_gap_append (level + 1) _

omit hcomma hcolon in
/-- Adjacent opening braces in what is substituted for a value come from a string in it. -/
theorem unpaired_inlineText {v : Json} (h : v.Every Unbraced) : Unpaired v.inlineText.toList := by
  have hrender : Unpaired (render compact v).toList := by
    rw [render, String.toList_ofList]
    exact unpaired_chars (by decide) (by decide) h 0
  cases v with
  | str s => exact unpaired_of_notMem (every_str.mp h)
  | _ => exact hrender

end Unpaired

end Foldbook.Json
