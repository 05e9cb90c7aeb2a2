import Foldbook.Proofs.Json.Numeral
import Foldbook.Proofs.Json.Parts
import Foldbook.Proofs.Json.Strings

/-!
# Values, written and read again

What the reader makes of the text of a value, for every layout that only adds
blanks (`Layout.Legible`).

* `reread` says what becomes of a value: a double is the double its digits
  denote, an infinite one or one that is no number is refused, and so is a
  whole number with too many digits.
* `readValue_chars` is the equation between the reader, the printer and
  `reread`; `read?_render` is its form for whole texts.  The induction is on
  the value, and what stands behind it is arbitrary as long as it does not go
  on with a number.
* `isSome_reread_iff`: which values can be read again.
* `reread_eq_self`: without floating-point numbers a value comes back as it
  was, with the order of all its members, and no other value comes back as it
  (`eq_of_reread`).
-/

namespace Foldbook.Json

/-! ## Blanks -/

theorem skipSpace_blanks {blanks : List Char} (h : ∀ c ∈ blanks, isSpace c = true)
    (rest : List Char) : skipSpace (blanks ++ rest) = skipSpace rest :=
  List.dropWhile_append_of_pos h

theorem skipSpace_cons {c : Char} (h : isSpace c = false) (rest : List Char) :
    skipSpace (c :: rest) = c :: rest := by
  simp [skipSpace, h]

/-- A layout whose commas, colons and gaps are legible for a reader of JSON. -/
structure Layout.Legible (l : Layout) : Prop where
  comma : ∃ blanks, l.comma = ',' :: blanks ∧ ∀ c ∈ blanks, isSpace c = true
  colon : ∃ blanks, l.colon = ':' :: blanks ∧ ∀ c ∈ blanks, isSpace c = true

theorem legible_compact : compact.Legible := ⟨⟨[], rfl, by simp⟩, ⟨[], rfl, by simp⟩⟩

theorem legible_pretty : pretty.Legible := ⟨⟨[], rfl, by simp⟩, ⟨[' '], rfl, by simp [isSpace]⟩⟩

theorem isSpace_of_mem_gap {l : Layout} {level : Nat} {c : Char} (h : c ∈ l.gap level) :
    isSpace c = true := by
  unfold Layout.gap at h
  split at h
  · exact absurd h List.not_mem_nil
  · rcases List.mem_cons.mp h with rfl | h
    · rfl
    · rw [List.eq_of_mem_replicate h]
      rfl

/-- A bracket or a comma ends a number, also behind blanks. -/
theorem endsNumber_blanks {blanks : List Char} (h : ∀ c ∈ blanks, isSpace c = true) {rest : List Char}
    (hrest : EndsNumber rest) : EndsNumber (blanks ++ rest) := by
  cases blanks with
  | nil => exact hrest
  | cons c blanks =>
      have hc := h c List.mem_cons_self
      simp only [isSpace, Bool.or_eq_true, beq_iff_eq] at hc
      apply endsNumber_cons
      rcases hc with ((rfl | rfl) | rfl) | rfl <;> decide

/-! ## The first character -/

/-- Whether a character can begin a word or a number. -/
def beginsAtom (c : Char) : Bool :=
  c.isDigit || c == '-' || c == 'n' || c == 't' || c == 'f' || c == 'N' || c == 'I'

/-- Whether a character can begin a value. -/
def beginsValue (c : Char) : Bool := beginsAtom c || c == '"' || c == '[' || c == '\x7b'

theorem exists_spelled_eq_cons {n : Numeral} (h : n.Regular) :
    ∃ c cs, n.spelled = c :: cs ∧ beginsAtom c = true := by
  obtain ⟨d, ds, hd, hspelled | hspelled⟩ := Numeral.exists_spelled_eq h
  · exact ⟨d, ds, hspelled, by simp [beginsAtom, hd]⟩
  · exact ⟨'-', d :: ds, hspelled, rfl⟩

theorem exists_intDigits_eq_cons (n : Int) :
    ∃ c cs, Decimal.intDigits n = c :: cs ∧ beginsAtom c = true :=
  Numeral.spelled_ofInt n ▸ exists_spelled_eq_cons (Numeral.regular_ofInt n)

theorem exists_floatChars_eq_cons (x : Float) :
    ∃ c cs, floatChars x = c :: cs ∧ beginsAtom c = true := by
  by_cases h : x.isNaN = false ∧ x.isInf = false
  · obtain ⟨n, hregular, -, hspelled⟩ := exists_spelled_floatChars h.1 h.2
    exact hspelled ▸ exists_spelled_eq_cons hregular
  · unfold floatChars
    split
    · exact ⟨'N', _, rfl, rfl⟩
    · split
      · split
        · exact ⟨'-', _, rfl, rfl⟩
        · exact ⟨'I', _, rfl, rfl⟩
      · exact absurd ⟨by simpa using ‹¬x.isNaN = true›, by simpa using ‹¬x.isInf = true›⟩ h

theorem exists_chars_eq_cons (l : Layout) (level : Nat) (v : Json) :
    ∃ c cs, chars l level v = c :: cs ∧ beginsValue c = true := by
  have hatom (c : Char) (h : beginsAtom c = true) : beginsValue c = true := by
    simp [beginsValue, h]
  cases v with
  | null => exact ⟨'n', _, rfl, rfl⟩
  | bool b => cases b <;> exact ⟨_, _, rfl, rfl⟩
  | int n =>
      obtain ⟨c, cs, hcs, hc⟩ := exists_intDigits_eq_cons n
      exact ⟨c, cs, hcs, hatom c hc⟩
  | float x =>
      obtain ⟨c, cs, hcs, hc⟩ := exists_floatChars_eq_cons x
      exact ⟨c, cs, hcs, hatom c hc⟩
  | str s => exact ⟨'"', _, rfl, rfl⟩
  | arr items => cases items <;> exact ⟨'[', _, rfl, rfl⟩
  | obj members => cases members <;> exact ⟨'\x7b', _, rfl, rfl⟩

theorem ne_of_beginsValue {c d : Char} (hc : beginsValue c = true) (hd : beginsValue d = false) :
    c ≠ d := by
  rintro rfl
  exact absurd hc (by simp [hd])

theorem isSpace_of_beginsValue {c : Char} (h : beginsValue c = true) : isSpace c = false := by
  rw [Bool.eq_false_iff]
  intro hc
  simp only [isSpace, Bool.or_eq_true, beq_iff_eq] at hc
  rcases hc with ((rfl | rfl) | rfl) | rfl <;> exact absurd h (by decide)

/-- No blanks stand in front of a value. -/
theorem skipSpace_chars (l : Layout) (level : Nat) (v : Json) (rest : List Char) :
    skipSpace (chars l level v ++ rest) = chars l level v ++ rest := by
  obtain ⟨c, cs, hcs, hc⟩ := exists_chars_eq_cons l level v
  rw [hcs, List.cons_append, skipSpace_cons (isSpace_of_beginsValue hc)]

theorem skipSpace_stringChars (asciiOnly : Bool) (s : String) (rest : List Char) :
    skipSpace (stringChars asciiOnly s ++ rest) = stringChars asciiOnly s ++ rest :=
  skipSpace_cons rfl _

/-! ## Reading again -/

mutual

/-- What is read from the text of a value. -/
def reread : Json → Option Json
  | .int n => if (Decimal.digits n.natAbs).length ≤ digitLimit then some (.int n) else none
  | .float x => if x.isNaN || x.isInf then none else some (.float (readBack x))
  | .arr items => (rereadItems items).map .arr
  | .obj members => (rereadMembers members).map fun members => .obj (ofMembers members)
  | v => some v

/-- What is read from the texts of the items. -/
def rereadItems : List Json → Option (List Json)
  | [] => some []
  | v :: vs => (reread v).bind fun w => (rereadItems vs).map (w :: ·)

/-- What is read from the texts of the members. -/
def rereadMembers : List (String × Json) → Option (List (String × Json))
  | [] => some []
  | (name, v) :: ms => (reread v).bind fun w => (rereadMembers ms).map ((name, w) :: ·)

end

/-- The text of a value is read as `reread` says, whatever stands behind it. -/
def ReadsBack (l : Layout) (v : Json) : Prop :=
  ∀ {level fuel : Nat} {rest : List Char}, 2 * (chars l level v).length ≤ fuel → EndsNumber rest →
    (readValue fuel (chars l level v ++ rest)).toOption = (reread v).map (·, rest)

/-! ## One step of the reader

What the reader answers if the reason for a refusal is left out. -/

@[simp] theorem toOption_ok {ε α : Type} (a : α) : (.ok a : Except ε α).toOption = some a := rfl

@[simp] theorem toOption_error {ε α : Type} (e : ε) : (.error e : Except ε α).toOption = none := rfl

theorem toOption_readItems (fuel : Nat) (found : List Json) (cs : List Char) :
    (readItems (fuel + 1) found cs).toOption =
      (readValue fuel cs).toOption.bind fun (v, rest) =>
        match skipSpace rest with
        | ']' :: rest => some ((v :: found).reverse, rest)
        | ',' :: rest => (readItems fuel (v :: found) (skipSpace rest)).toOption
        | _ => none := by
  rw [readItems]
  cases readValue fuel cs with
  | error fault => rfl
  | ok read =>
      simp only [toOption_ok, Option.bind_some]
      generalize skipSpace read.2 = behind
      split <;> simp_all [stuck]

theorem toOption_readMembers (fuel : Nat) (found : List (String × Json)) (asciiOnly : Bool)
    (name : String) (behind : List Char) :
    (readMembers (fuel + 1) found (stringChars asciiOnly name ++ behind)).toOption =
      match skipSpace behind with
      | ':' :: rest =>
        (readValue fuel (skipSpace rest)).toOption.bind fun (v, rest) =>
          match skipSpace rest with
          | '\x7d' :: rest => some (((name, v) :: found).reverse, rest)
          | ',' :: rest => (readMembers fuel ((name, v) :: found) (skipSpace rest)).toOption
          | _ => none
      | _ => none := by
  obtain ⟨more, hmore, hname⟩ := readString_stringChars asciiOnly name behind
  rw [hmore, readMembers, hname]
  simp only
  generalize skipSpace behind = rest
  split
  · rename_i rest
    obtain ⟨answer, hread⟩ : ∃ answer, readValue fuel (skipSpace rest) = answer := ⟨_, rfl⟩
    simp only [hread]
    cases answer with
    | error fault => rfl
    | ok read =>
        simp only [toOption_ok, Option.bind_some]
        generalize skipSpace read.2 = rest
        split <;> simp_all [stuck]
  · simp_all [stuck]

theorem toOption_readValue_arr (fuel : Nat) {rest : List Char}
    (h : (skipSpace rest).head? ≠ some ']') :
    (readValue (fuel + 1) ('[' :: rest)).toOption =
      (readItems fuel [] (skipSpace rest)).toOption.map fun (items, rest) => (.arr items, rest) := by
  rw [readValue]
  split
  · rename_i heq
    exact absurd (by rw [heq, List.head?_cons]) h
  · cases readItems fuel [] (skipSpace rest) <;> rfl

theorem toOption_readValue_obj (fuel : Nat) {rest : List Char}
    (h : (skipSpace rest).head? ≠ some '\x7d') :
    (readValue (fuel + 1) ('\x7b' :: rest)).toOption =
      (readMembers fuel [] (skipSpace rest)).toOption.map
        fun (members, rest) => (.obj (ofMembers members), rest) := by
  rw [readValue]
  split
  · rename_i heq
    exact absurd (by rw [heq, List.head?_cons]) h
  · cases readMembers fuel [] (skipSpace rest) <;> rfl

section

variable {l : Layout}

/-- A value and the items behind it are read up to the closing bracket. -/
theorem readItems_itemsChars (hl : l.Legible) {items : List Json}
    (hitems : ∀ v ∈ items, ReadsBack l v) {v : Json} (hv : ReadsBack l v) {level : Nat}
    {blanks : List Char} (hblanks : ∀ c ∈ blanks, isSpace c = true) {fuel : Nat}
    (hfuel : 2 * (chars l level v ++ itemsChars l level items ++ [']']).length ≤ fuel)
    (found : List Json) (rest : List Char) :
    (readItems fuel found (chars l level v ++ (itemsChars l level items ++
        (blanks ++ ']' :: rest)))).toOption =
      (rereadItems (v :: items)).map fun read => (found.reverse ++ read, rest) := by
  obtain ⟨commaBlanks, hcomma, hcommaBlanks⟩ := hl.comma
  induction items generalizing v fuel found with
  | nil =>
      simp only [List.length_append, itemsChars, List.length_cons, List.length_nil] at hfuel
      obtain ⟨fuel, rfl⟩ : ∃ n, fuel = n + 1 := ⟨fuel - 1, by omega⟩
      have hread := @hv level fuel (blanks ++ ']' :: rest) (by omega)
        (endsNumber_blanks hblanks (endsNumber_cons (by decide) rest))
      rw [itemsChars, List.nil_append, toOption_readItems, hread]
      cases hw : reread v with
      | none => simp [rereadItems, hw]
      | some w =>
          simp [rereadItems, hw, skipSpace_blanks hblanks,
            skipSpace_cons (show isSpace ']' = false from rfl)]
  | cons next items ih =>
      obtain ⟨hnext, hitems⟩ := List.forall_mem_cons.mp hitems
      simp only [List.length_append, itemsChars, List.length_cons, List.length_nil, hcomma] at hfuel
      obtain ⟨fuel, rfl⟩ : ∃ n, fuel = n + 1 := ⟨fuel - 1, by omega⟩
      have hread := @hv level fuel (itemsChars l level (next :: items) ++ (blanks ++ ']' :: rest))
        (by omega) (by
          rw [itemsChars, hcomma]
          exact endsNumber_cons (by decide) _)
      rw [toOption_readItems, hread]
      cases hw : reread v with
      | none => simp [rereadItems, hw]
      | some w =>
          have hlength : 2 * (chars l level next ++ itemsChars l level items ++ [']']).length ≤
              fuel := by
            simp only [List.length_append, List.length_cons, List.length_nil]
            omega
          have hrest := ih hitems hnext hlength (w :: found)
          simp only [Option.map_some, Option.bind_some, itemsChars, hcomma, List.cons_append,
            List.append_assoc, skipSpace_cons (show isSpace ',' = false from rfl),
            skipSpace_blanks hcommaBlanks, skipSpace_blanks fun c => isSpace_of_mem_gap,
            skipSpace_chars]
          rw [hrest]
          simp [rereadItems, hw, Function.comp_def]

/-- A member and the members behind it are read up to the closing brace. -/
theorem readMembers_membersChars (hl : l.Legible) {members : List (String × Json)}
    (hmembers : ∀ m ∈ members, ReadsBack l m.2) {name : String} {v : Json} (hv : ReadsBack l v)
    {level : Nat} {blanks : List Char} (hblanks : ∀ c ∈ blanks, isSpace c = true) {fuel : Nat}
    (hfuel : 2 * (stringChars l.asciiOnly name ++ chars l level v ++
      membersChars l level members ++ ['\x7d']).length ≤ fuel)
    (found : List (String × Json)) (rest : List Char) :
    (readMembers fuel found (stringChars l.asciiOnly name ++ (l.colon ++ (chars l level v ++
        (membersChars l level members ++ (blanks ++ '\x7d' :: rest)))))).toOption =
      (rereadMembers ((name, v) :: members)).map fun read => (found.reverse ++ read, rest) := by
  obtain ⟨commaBlanks, hcomma, hcommaBlanks⟩ := hl.comma
  obtain ⟨colonBlanks, hcolon, hcolonBlanks⟩ := hl.colon
  induction members generalizing name v fuel found with
  | nil =>
      simp only [List.length_append, membersChars, List.length_cons, List.length_nil] at hfuel
      obtain ⟨fuel, rfl⟩ : ∃ n, fuel = n + 1 := ⟨fuel - 1, by omega⟩
      have hread := @hv level fuel (blanks ++ '\x7d' :: rest) (by omega)
        (endsNumber_blanks hblanks (endsNumber_cons (by decide) rest))
      rw [membersChars, List.nil_append, toOption_readMembers]
      simp only [hcolon, List.cons_append, skipSpace_cons (show isSpace ':' = false from rfl),
        skipSpace_blanks hcolonBlanks, skipSpace_chars]
      rw [hread]
      cases hw : reread v with
      | none => simp [rereadMembers, hw]
      | some w =>
          simp [rereadMembers, hw, skipSpace_blanks hblanks,
            skipSpace_cons (show isSpace '\x7d' = false from rfl)]
  | cons next members ih =>
      obtain ⟨nextName, next⟩ := next
      obtain ⟨hnext, hmembers⟩ := List.forall_mem_cons.mp hmembers
      simp only [List.length_append, membersChars, List.length_cons, List.length_nil,
        hcomma] at hfuel
      obtain ⟨fuel, rfl⟩ : ∃ n, fuel = n + 1 := ⟨fuel - 1, by omega⟩
      have hread := @hv level fuel
        (membersChars l level ((nextName, next) :: members) ++ (blanks ++ '\x7d' :: rest))
        (by omega) (by
          rw [membersChars, hcomma]
          exact endsNumber_cons (by decide) _)
      rw [toOption_readMembers]
      simp only [hcolon, List.cons_append, skipSpace_cons (show isSpace ':' = false from rfl),
        skipSpace_blanks hcolonBlanks, skipSpace_chars]
      rw [hread]
      cases hw : reread v with
      | none => simp [rereadMembers, hw]
      | some w =>
          have hlength : 2 * (stringChars l.asciiOnly nextName ++ chars l level next ++
              membersChars l level members ++ ['\x7d']).length ≤ fuel := by
            simp only [List.length_append, List.length_cons, List.length_nil]
            omega
          have hrest := ih hmembers hnext hlength ((name, w) :: found)
          simp only [Option.map_some, Option.bind_some, membersChars, hcomma, List.cons_append,
            List.append_assoc, skipSpace_cons (show isSpace ',' = false from rfl),
            skipSpace_blanks hcommaBlanks, skipSpace_blanks fun c => isSpace_of_mem_gap,
            skipSpace_stringChars]
          rw [hrest]
          simp [rereadMembers, hw, Function.comp_def]

/-- A text that does not begin like a string, a list or an object is a word or a number. -/
theorem readValue_eq_readAtom {c : Char} {cs : List Char} (hc : beginsAtom c = true) (fuel : Nat) :
    readValue (fuel + 1) (c :: cs) = readAtom (c :: cs) := by
  have hne (d : Char) (hd : beginsAtom d = false) : c ≠ d := by
    rintro rfl
    exact absurd hc (by simp [hd])
  rw [readValue]
  · rintro rest ⟨rfl, -⟩
    exact hne '"' rfl rfl
  · rintro rest ⟨rfl, -⟩
    exact hne '[' rfl rfl
  · rintro rest ⟨rfl, -⟩
    exact hne '\x7b' rfl rfl

/-- A value that is written as a word or a number is read again if the reader of words and numbers
does so. -/
theorem readsBack_of_readAtom {v : Json} (text : List Char)
    (htext : ∀ level, chars l level v = text)
    (hatom : ∃ c cs, text = c :: cs ∧ beginsAtom c = true)
    (hread : ∀ rest, EndsNumber rest →
      (readAtom (text ++ rest)).toOption = (reread v).map (·, rest)) : ReadsBack l v := by
  intro level fuel rest hfuel hrest
  rw [htext] at hfuel ⊢
  obtain ⟨c, cs, rfl, hc⟩ := hatom
  rw [List.length_cons] at hfuel
  obtain ⟨fuel, rfl⟩ : ∃ n, fuel = n + 1 := ⟨fuel - 1, by omega⟩
  rw [← hread rest hrest, List.cons_append, readValue_eq_readAtom hc]

/-- A value that is written as a word is read again if the word stands for it. -/
theorem readsBack_of_word {v : Json} (word : String) (htext : ∀ level, chars l level v = word.toList)
    (hatom : ∃ c cs, word.toList = c :: cs ∧ beginsAtom c = true)
    (hword : ∀ rest, findWord (word.toList ++ rest) = some (.ok v, rest))
    (hself : reread v = some v) : ReadsBack l v := by
  refine readsBack_of_readAtom word.toList htext hatom fun rest _ => ?_
  rw [readAtom, hword, hself]
  rfl

theorem readsBack_int (n : Int) : ReadsBack l (.int n) := by
  refine readsBack_of_readAtom (Decimal.intDigits n) (fun _ => rfl) (exists_intDigits_eq_cons n)
    fun rest hrest => ?_
  rw [readAtom_intDigits n hrest, reread]
  split <;> rfl

theorem readsBack_float (x : Float) : ReadsBack l (.float x) := by
  refine readsBack_of_readAtom (floatChars x) (fun _ => rfl) (exists_floatChars_eq_cons x)
    fun rest hrest => ?_
  rw [reread]
  by_cases h : x.isNaN = false ∧ x.isInf = false
  · have hkept : (x.isNaN || x.isInf) = false := by rw [h.1, h.2, Bool.or_false]
    rw [readAtom_floatChars h.1 h.2 hrest, hkept, if_neg Bool.false_ne_true]
    rfl
  · obtain ⟨word, hword⟩ := readAtom_floatChars_of_not_finite h rest
    have hrefused : (x.isNaN || x.isInf) = true := by
      cases hnan : x.isNaN <;> cases hinf : x.isInf <;> simp_all
    rw [hword, if_pos hrefused]
    rfl

theorem readsBack_str (s : String) : ReadsBack l (.str s) := by
  intro level fuel rest hfuel hrest
  obtain ⟨more, hmore, hread⟩ := readString_stringChars l.asciiOnly s rest
  simp only [chars, stringChars, List.length_cons] at hfuel
  obtain ⟨fuel, rfl⟩ : ∃ n, fuel = n + 1 := ⟨fuel - 1, by omega⟩
  rw [chars, hmore, readValue, hread]
  rfl

/-- A list is read again if its items are. -/
theorem readsBack_arr (hl : l.Legible) {items : List Json} (hitems : ∀ v ∈ items, ReadsBack l v) :
    ReadsBack l (.arr items) := by
  intro level fuel rest hfuel hrest
  cases items with
  | nil =>
      obtain ⟨fuel, rfl⟩ : ∃ n, fuel = n + 1 := ⟨fuel - 1, by simp [chars] at hfuel; omega⟩
      simp [chars, readValue, skipSpace_cons (show isSpace ']' = false from rfl), reread,
        rereadItems]
  | cons v items =>
      obtain ⟨hv, hitems⟩ := List.forall_mem_cons.mp hitems
      simp only [chars, List.length_append, List.length_cons, List.length_nil] at hfuel
      obtain ⟨fuel, rfl⟩ : ∃ n, fuel = n + 1 := ⟨fuel - 1, by omega⟩
      have hlength : 2 * (chars l (level + 1) v ++ itemsChars l (level + 1) items ++
          [']']).length ≤ fuel := by
        simp only [List.length_append, List.length_cons, List.length_nil]
        omega
      have hread := readItems_itemsChars hl hitems hv
        (fun c => @isSpace_of_mem_gap l level c) hlength [] rest
      have htext : chars l level (.arr (v :: items)) ++ rest =
          '[' :: (l.gap (level + 1) ++ (chars l (level + 1) v ++
            (itemsChars l (level + 1) items ++ (l.gap level ++ ']' :: rest)))) := by
        simp [chars]
      obtain ⟨c, cs, hcs, hc⟩ := exists_chars_eq_cons l (level + 1) v
      have hne : c ≠ ']' := ne_of_beginsValue hc rfl
      rw [htext, toOption_readValue_arr, skipSpace_blanks fun c => isSpace_of_mem_gap,
        skipSpace_chars, hread, reread]
      · cases rereadItems (v :: items) <;> rfl
      · rw [skipSpace_blanks fun c => isSpace_of_mem_gap, skipSpace_chars, hcs]
        simpa using hne

/-- An object is read again if the values of its members are. -/
theorem readsBack_obj (hl : l.Legible) {members : List (String × Json)}
    (hmembers : ∀ m ∈ members, ReadsBack l m.2) : ReadsBack l (.obj members) := by
  intro level fuel rest hfuel hrest
  cases members with
  | nil =>
      obtain ⟨fuel, rfl⟩ : ∃ n, fuel = n + 1 := ⟨fuel - 1, by simp [chars] at hfuel; omega⟩
      simp [chars, readValue, skipSpace_cons (show isSpace '\x7d' = false from rfl), reread,
        rereadMembers, ofMembers]
  | cons m members =>
      obtain ⟨name, v⟩ := m
      obtain ⟨hv, hmembers⟩ := List.forall_mem_cons.mp hmembers
      simp only [chars, List.length_append, List.length_cons, List.length_nil] at hfuel
      obtain ⟨fuel, rfl⟩ : ∃ n, fuel = n + 1 := ⟨fuel - 1, by omega⟩
      have hlength : 2 * (stringChars l.asciiOnly name ++ chars l (level + 1) v ++
          membersChars l (level + 1) members ++ ['\x7d']).length ≤ fuel := by
        simp only [List.length_append, List.length_cons, List.length_nil]
        omega
      have hread := readMembers_membersChars hl hmembers hv
        (fun c => @isSpace_of_mem_gap l level c) hlength [] rest
      have htext : chars l level (.obj ((name, v) :: members)) ++ rest =
          '\x7b' :: (l.gap (level + 1) ++ (stringChars l.asciiOnly name ++ (l.colon ++
            (chars l (level + 1) v ++ (membersChars l (level + 1) members ++
              (l.gap level ++ '\x7d' :: rest)))))) := by
        simp [chars]
      rw [htext, toOption_readValue_obj, skipSpace_blanks fun c => isSpace_of_mem_gap,
        skipSpace_stringChars, hread, reread]
      · cases rereadMembers ((name, v) :: members) <;> rfl
      · rw [skipSpace_blanks fun c => isSpace_of_mem_gap, skipSpace_stringChars]
        simp [stringChars]

/-- The text of every value is read as `reread` says. -/
theorem readValue_chars (hl : l.Legible) (v : Json) : ReadsBack l v := by
  induction v using Json.induction with
  | null => exact readsBack_of_word "null" (fun _ => rfl) ⟨'n', _, rfl, rfl⟩ (fun _ => rfl) rfl
  | bool b =>
      cases b with
      | true => exact readsBack_of_word "true" (fun _ => rfl) ⟨'t', _, rfl, rfl⟩ (fun _ => rfl) rfl
      | false =>
          exact readsBack_of_word "false" (fun _ => rfl) ⟨'f', _, rfl, rfl⟩ (fun _ => rfl) rfl
  | int n => exact readsBack_int n
  | float x => exact readsBack_float x
  | str s => exact readsBack_str s
  | arr items ih => exact readsBack_arr hl ih
  | obj members ih => exact readsBack_obj hl ih

/-- A whole text is read as `reread` says. -/
theorem read?_render (hl : l.Legible) (v : Json) : read? (render l v) = reread v := by
  have hread := @readValue_chars l hl v 0 (2 * (chars l 0 v).length + 2) []
    (by omega) endsNumber_nil
  obtain ⟨c, cs, hcs, hc⟩ := exists_chars_eq_cons l 0 v
  have hmark : c ≠ '\uFEFF' := ne_of_beginsValue hc rfl
  have hskip := skipSpace_chars l 0 v []
  rw [List.append_nil] at hread hskip
  have htext : (readChars? (chars l 0 v)).toOption = reread v := by
    rw [readChars?]
    · rw [hskip]
      cases hw : reread v with
      | none =>
          rw [hw] at hread
          cases hvalue : readValue (2 * (chars l 0 v).length + 2) (chars l 0 v) with
          | error fault => rfl
          | ok read => simp [hvalue] at hread
      | some w =>
          rw [hw] at hread
          cases hvalue : readValue (2 * (chars l 0 v).length + 2) (chars l 0 v) with
          | error fault => simp [hvalue] at hread
          | ok read =>
              simp only [hvalue, toOption_ok, Option.map_some, Option.some.injEq] at hread
              rw [hread]
              rfl
    · intro tail htail
      rw [hcs, List.cons.injEq] at htail
      exact hmark htail.1
  unfold read? read render
  rw [String.toList_ofList, ← htext]
  cases readChars? (chars l 0 v) <;> rfl

end

/-! ## What can be read again -/

theorem isSome_rereadItems_iff {items : List Json} :
    (rereadItems items).isSome = true ↔ ∀ v ∈ items, (reread v).isSome = true := by
  induction items with
  | nil => simp [rereadItems]
  | cons v items ih =>
      rw [rereadItems, List.forall_mem_cons, ← ih]
      cases reread v <;> simp

theorem isSome_rereadMembers_iff {members : List (String × Json)} :
    (rereadMembers members).isSome = true ↔ ∀ m ∈ members, (reread m.2).isSome = true := by
  induction members with
  | nil => simp [rereadMembers]
  | cons m members ih =>
      obtain ⟨name, v⟩ := m
      rw [rereadMembers, List.forall_mem_cons, ← ih]
      cases reread v <;> simp

/-- A value can be read again exactly if its doubles are finite and its whole numbers are not too
long. -/
theorem isSome_reread_iff {v : Json} :
    (reread v).isSome = true ↔ v.Every fun p => p.ShortInt ∧ p.Finite := by
  induction v using Json.induction with
  | null => simp [reread, ShortInt, Finite]
  | bool b => simp [reread, ShortInt, Finite]
  | int n => simp [reread, ShortInt, Finite]
  | float x => simp [reread, ShortInt, Finite]
  | str s => simp [reread, ShortInt, Finite]
  | arr items ih =>
      rw [reread, Option.isSome_map, isSome_rereadItems_iff, every_arr]
      simp only [ShortInt, Finite, true_and]
      exact forall₂_congr ih
  | obj members ih =>
      rw [reread, Option.isSome_map, isSome_rereadMembers_iff, every_obj]
      simp only [ShortInt, Finite, true_and]
      exact forall₂_congr ih

/-- The names of the members and their order are kept. -/
theorem map_fst_rereadMembers {members read : List (String × Json)}
    (h : rereadMembers members = some read) : read.map Prod.fst = members.map Prod.fst := by
  induction members generalizing read with
  | nil => simp_all [rereadMembers]
  | cons m members ih =>
      obtain ⟨name, v⟩ := m
      simp only [rereadMembers, Option.bind_eq_some_iff, Option.map_eq_some_iff] at h
      obtain ⟨w, -, rest, hrest, rfl⟩ := h
      simp [ih hrest]

theorem rereadItems_eq_self {items : List Json} (h : ∀ v ∈ items, reread v = some v) :
    rereadItems items = some items := by
  induction items with
  | nil => rfl
  | cons v items ih =>
      obtain ⟨hv, hitems⟩ := List.forall_mem_cons.mp h
      simp [rereadItems, hv, ih hitems]

theorem rereadMembers_eq_self {members : List (String × Json)}
    (h : ∀ m ∈ members, reread m.2 = some m.2) : rereadMembers members = some members := by
  induction members with
  | nil => rfl
  | cons m members ih =>
      obtain ⟨hm, hmembers⟩ := List.forall_mem_cons.mp h
      simp [rereadMembers, hm, ih hmembers]

/-- A value without floating-point numbers comes back as it was. -/
theorem reread_eq_self {v : Json}
    (h : v.Every fun p => p.ShortInt ∧ p.DistinctNames ∧ p.NotFloat) : reread v = some v := by
  induction v using Json.induction with
  | null => rfl
  | bool b => rfl
  | int n => exact if_pos (every_int.mp h).1
  | float x => exact absurd (every_float.mp h).2.2 id
  | str s => rfl
  | arr items ih =>
      rw [every_arr] at h
      rw [reread, rereadItems_eq_self fun v hv => ih v hv (h.2 v hv)]
      rfl
  | obj members ih =>
      rw [every_obj] at h
      obtain ⟨⟨-, hnames, -⟩, hmembers⟩ := h
      rw [reread, rereadMembers_eq_self fun m hm => ih m hm (hmembers m hm), Option.map_some,
        ofMembers_eq_self hnames]

theorem eq_of_rereadItems {items read : List Json}
    (h : ∀ v ∈ items, ∀ w ∈ read, reread v = some w → v = w) (hread : rereadItems items = some read) :
    items = read := by
  induction items generalizing read with
  | nil => simpa [rereadItems] using hread
  | cons v items ih =>
      simp only [rereadItems, Option.bind_eq_some_iff, Option.map_eq_some_iff] at hread
      obtain ⟨w, hw, rest, hrest, rfl⟩ := hread
      obtain ⟨hv, hitems⟩ := List.forall_mem_cons.mp h
      rw [hv w List.mem_cons_self hw,
        ih (fun v hv w hw => hitems v hv w (List.mem_cons_of_mem _ hw)) hrest]

theorem eq_of_rereadMembers {members read : List (String × Json)}
    (h : ∀ m ∈ members, ∀ w ∈ read, reread m.2 = some w.2 → m.2 = w.2)
    (hread : rereadMembers members = some read) : members = read := by
  induction members generalizing read with
  | nil => simpa [rereadMembers] using hread
  | cons m members ih =>
      obtain ⟨name, v⟩ := m
      simp only [rereadMembers, Option.bind_eq_some_iff, Option.map_eq_some_iff] at hread
      obtain ⟨w, hw, rest, hrest, rfl⟩ := hread
      obtain ⟨hv, hmembers⟩ := List.forall_mem_cons.mp h
      rw [show v = w from hv (name, w) List.mem_cons_self hw,
        ih (fun m hm w hw => hmembers m hm w (List.mem_cons_of_mem _ hw)) hrest]

/-- What is read again as a value without floating-point numbers is that value. -/
theorem eq_of_reread {v w : Json} (hnames : v.Every DistinctNames) (hw : w.Every NotFloat)
    (h : reread v = some w) : v = w := by
  induction v using Json.induction generalizing w with
  | null => exact Option.some.inj h
  | bool b => exact Option.some.inj h
  | int n =>
      rw [reread] at h
      split at h
      · exact Option.some.inj h
      · cases h
  | float x =>
      rw [reread] at h
      split at h
      · cases h
      · cases h
        exact (every_float.mp hw).elim
  | str s => exact Option.some.inj h
  | arr items ih =>
      rw [reread, Option.map_eq_some_iff] at h
      obtain ⟨read, hread, rfl⟩ := h
      rw [every_arr] at hnames hw
      rw [eq_of_rereadItems (fun v hv w hmem => ih v hv (hnames.2 v hv) (hw.2 w hmem)) hread]
  | obj members ih =>
      rw [reread, Option.map_eq_some_iff] at h
      obtain ⟨read, hread, rfl⟩ := h
      rw [every_obj] at hnames
      have hself : ofMembers read = read :=
        ofMembers_eq_self (by rw [map_fst_rereadMembers hread]; exact hnames.1)
      rw [hself, every_obj] at hw
      rw [hself, eq_of_rereadMembers (fun m hm w hmem => ih m hm (hnames.2 m hm) (hw.2 w hmem)) hread]

end Foldbook.Json
