import Foldbook.Proofs.Json.Rereading

/-!
# Texts that are cut short

The text of an object ends with a brace, and no part in front of that brace is
JSON: `read?_of_cut`.

* `Stops`: the text behind a number or a word begins with a character that
  ends it, so it ends there whatever follows.  `readAtom_append` is what that
  is for.
* `findWord_eq_some_iff`: no word begins another one, so a longer text does
  not begin with another word.
* `readString_append`: in a string an escape may wait for its partner, so
  what an escape stands for depends on the text behind it.  But a string that
  is broken off in an escape is refused (`escapeWhole_of_readChars`).
* `ReadsOn` says of the three functions that read values that they answer the
  same if more text follows, and `readsOn` is one induction on the fuel.
-/

namespace Foldbook.Json

variable {cs rest more : List Char}

/-! ## Numbers and words -/

/-- What follows does not go on with a number, and there is something that follows. -/
structure Stops (rest : List Char) : Prop where
  ends : EndsNumber rest
  ne_nil : rest ≠ []

theorem Stops.append (h : Stops rest) (more : List Char) : Stops (rest ++ more) := by
  obtain ⟨c, rest, rfl⟩ := List.exists_cons_of_ne_nil h.ne_nil
  exact ⟨h.ends, List.cons_ne_nil _ _⟩

/-- A bracket, a brace or a comma ends a number, also behind blanks. -/
theorem stops_of_skipSpace {c : Char} (h : skipSpace rest = c :: more)
    (hc : c.isDigit = false ∧ c ≠ '.' ∧ c ≠ 'e' ∧ c ≠ 'E') : Stops rest := by
  have hsplit : rest.takeWhile isSpace ++ c :: more = rest := by
    rw [← h]
    exact List.takeWhile_append_dropWhile
  refine ⟨?_, ?_⟩
  · rw [← hsplit]
    exact endsNumber_blanks (fun d hd => List.all_eq_true.mp List.all_takeWhile d hd)
      (endsNumber_cons hc _)
  · rintro rfl
    exact absurd h (by simp [skipSpace])

theorem skipSpace_append (h : skipSpace cs ≠ []) (more : List Char) :
    skipSpace (cs ++ more) = skipSpace cs ++ more := by
  have hsplit : cs = cs.takeWhile isSpace ++ skipSpace cs :=
    List.takeWhile_append_dropWhile.symm
  obtain ⟨c, rest, hrest⟩ := List.exists_cons_of_ne_nil h
  have hc : isSpace c = false := by
    have hhead := List.head?_dropWhile_not isSpace cs
    rw [← skipSpace, hrest] at hhead
    simpa using hhead
  conv_lhs => rw [hsplit]
  rw [List.append_assoc, skipSpace_blanks fun d hd => List.all_eq_true.mp List.all_takeWhile d hd,
    hrest, List.cons_append, skipSpace_cons hc]

theorem spanDigits_append_more {ds : List Char} (h : spanDigits cs = (ds, rest)) (hne : rest ≠ [])
    (more : List Char) : spanDigits (cs ++ more) = (ds, rest ++ more) := by
  obtain ⟨rfl, rfl⟩ : cs.takeWhile Char.isDigit = ds ∧ cs.dropWhile Char.isDigit = rest :=
    Prod.mk.inj h
  have hsplit : cs ++ more =
      cs.takeWhile Char.isDigit ++ (cs.dropWhile Char.isDigit ++ more) := by
    rw [← List.append_assoc, List.takeWhile_append_dropWhile]
  rw [hsplit]
  refine spanDigits_append (fun d hd => List.all_eq_true.mp List.all_takeWhile d hd) ?_
  rw [List.head?_append_of_ne_nil _ hne]
  intro c hc
  have hhead := List.head?_dropWhile_not Char.isDigit cs
  rw [Option.mem_def.mp hc] at hhead
  simpa using hhead

/-- The digits of an exponent, or everything from its mark on if there are none. -/
def exponentBehind (marked : List Char) (negative : Bool) (cs : List Char) :
    Option (Bool × List Char) × List Char :=
  match spanDigits cs with
  | ([], _) => (none, marked)
  | (ds, rest) => (some (negative, ds), rest)

theorem exponentBehind_append {marked : List Char} {negative : Bool}
    {power : Option (Bool × List Char)} (h : exponentBehind marked negative cs = (power, rest))
    (hne : rest ≠ []) (hmarked : rest ≠ marked) (marked' more : List Char) :
    exponentBehind marked' negative (cs ++ more) = (power, rest ++ more) := by
  unfold exponentBehind at h ⊢
  split at h
  · cases h
    exact absurd rfl hmarked
  · rename_i hdigits hspan
    cases h
    rw [spanDigits_append_more hspan hne]
    split
    · rename_i heq
      cases heq
      exact absurd rfl hdigits
    · rename_i heq
      cases heq
      rfl

theorem exponentPart_append {power : Option (Bool × List Char)}
    (h : exponentPart cs = (power, rest)) (hstops : Stops rest) (more : List Char) :
    exponentPart (cs ++ more) = (power, rest ++ more) := by
  cases cs with
  | nil => exact absurd (congrArg Prod.snd h).symm hstops.ne_nil
  | cons c behind =>
      unfold exponentPart at h ⊢
      dsimp only [List.cons_append] at h ⊢
      split at h
      · rename_i hmark
        rw [if_pos hmark]
        -- Without digits the mark would be left, but it goes on with a number.
        have hmarked : rest ≠ c :: behind := by
          rintro rfl
          obtain ⟨-, -, he, hE⟩ := hstops.ends c rfl
          simp [he, hE] at hmark
        split at h
        · exact exponentBehind_append h hstops.ne_nil hmarked _ more
        · exact exponentBehind_append h hstops.ne_nil hmarked _ more
        · rename_i hminus hplus
          cases behind with
          | nil =>
              cases h
              exact absurd rfl hmarked
          | cons d behind =>
              rw [List.cons_append]
              split
              · rename_i heq
                cases heq
                exact absurd rfl (hminus _)
              · rename_i heq
                cases heq
                exact absurd rfl (hplus _)
              · exact exponentBehind_append h hstops.ne_nil hmarked _ more
      · rename_i hmark
        rw [if_neg hmark]
        cases h
        rfl

theorem fractionPart_append {fraction : List Char} (h : fractionPart cs = (fraction, rest))
    (hstops : rest ≠ [] ∧ rest.head? ≠ some '.') (more : List Char) :
    fractionPart (cs ++ more) = (fraction, rest ++ more) := by
  cases cs with
  | nil => exact absurd (congrArg Prod.snd h).symm hstops.1
  | cons c behind =>
      by_cases hpoint : c = '.'
      · subst hpoint
        rw [fractionPart] at h
        rw [List.cons_append, fractionPart]
        split at h
        · cases h
          exact absurd rfl hstops.2
        · rename_i hne
          rw [spanDigits_append_more h hstops.1]
          split
          · rename_i heq
            cases heq
            exact absurd h (hne _)
          · rfl
      · have hself (behind : List Char) : fractionPart (c :: behind) = ([], c :: behind) := by
          rw [fractionPart]
          rintro _ ⟨⟩
          exact hpoint rfl
        rw [hself] at h
        cases h
        exact hself _

theorem not_point_of_exponentPart {power : Option (Bool × List Char)}
    (h : exponentPart cs = (power, rest)) (hstops : Stops rest) :
    cs ≠ [] ∧ cs.head? ≠ some '.' := by
  cases cs with
  | nil => exact absurd (congrArg Prod.snd h).symm hstops.ne_nil
  | cons c behind =>
      refine ⟨List.cons_ne_nil _ _, ?_⟩
      rintro ⟨⟩
      cases h
      exact absurd rfl (hstops.ends '.' rfl).2.1

theorem ne_nil_of_fractionPart {fraction : List Char} (h : fractionPart cs = (fraction, rest))
    (hne : rest ≠ []) : cs ≠ [] := by
  rintro rfl
  cases h
  exact hne rfl

/-- The numeral with these digits in front of the point, and what follows it. -/
def numeralBehind (negative : Bool) (whole rest : List Char) : Numeral × List Char :=
  let (fraction, rest) := fractionPart rest
  let (power, rest) := exponentPart rest
  (⟨negative, whole, fraction, power⟩, rest)

/-- The numeral behind a sign. -/
def unsigned? (negative : Bool) : List Char → Option (Numeral × List Char)
  | '0' :: rest => some (numeralBehind negative ['0'] rest)
  | c :: rest =>
    if c.isDigit then
      let (ds, rest) := spanDigits (c :: rest)
      some (numeralBehind negative ds rest)
    else none
  | [] => none

theorem numeral?_minus (cs : List Char) : numeral? ('-' :: cs) = unsigned? true cs := by
  simp only [numeral?]
  unfold unsigned?
  split <;> simp_all [numeralBehind]

theorem numeral?_of_ne_minus {c : Char} (h : c ≠ '-') (cs : List Char) :
    numeral? (c :: cs) = unsigned? false (c :: cs) := by
  unfold numeral? unsigned?
  split
  rename_i negative left heq
  split at heq
  · rename_i hcons
    cases hcons
    exact absurd rfl h
  · cases heq
    split <;> simp_all [numeralBehind]

theorem numeralBehind_append {n : Numeral} {negative : Bool} {whole : List Char}
    (h : numeralBehind negative whole cs = (n, rest)) (hstops : Stops rest) :
    cs ≠ [] ∧ ∀ more, numeralBehind negative whole (cs ++ more) = (n, rest ++ more) := by
  obtain ⟨fraction, mid, hfraction⟩ : ∃ fraction mid, fractionPart cs = (fraction, mid) :=
    ⟨_, _, rfl⟩
  obtain ⟨power, behind, hpower⟩ : ∃ power behind, exponentPart mid = (power, behind) :=
    ⟨_, _, rfl⟩
  simp only [numeralBehind, hfraction, hpower] at h
  cases h
  have hmid := not_point_of_exponentPart hpower hstops
  refine ⟨ne_nil_of_fractionPart hfraction hmid.1, fun more => ?_⟩
  simp only [numeralBehind, fractionPart_append hfraction hmid, exponentPart_append hpower hstops]

theorem unsigned?_append {n : Numeral} {negative : Bool}
    (h : unsigned? negative cs = some (n, rest)) (hstops : Stops rest) (more : List Char) :
    unsigned? negative (cs ++ more) = some (n, rest ++ more) := by
  unfold unsigned? at h
  split at h
  · rename_i behind
    rw [List.cons_append, unsigned?]
    exact congrArg some ((numeralBehind_append (Option.some.inj h) hstops).2 more)
  · rename_i c behind hzero
    split_ifs at h with hdigit
    obtain ⟨hne, happend⟩ := numeralBehind_append (Option.some.inj h) hstops
    rw [List.cons_append, unsigned?.eq_2 _ _ _ hzero, if_pos hdigit, ← List.cons_append,
      spanDigits_append_more rfl hne]
    exact congrArg some (happend more)
  · cases h

/-- A number that ends is read as the same number if more text follows. -/
theorem numeral?_append {n : Numeral} (h : numeral? cs = some (n, rest)) (hstops : Stops rest)
    (more : List Char) : numeral? (cs ++ more) = some (n, rest ++ more) := by
  cases cs with
  | nil => cases h
  | cons c behind =>
      by_cases hminus : c = '-'
      · subst hminus
        rw [numeral?_minus] at h
        rw [List.cons_append, numeral?_minus, unsigned?_append h hstops]
      · rw [numeral?_of_ne_minus hminus] at h
        rw [List.cons_append, numeral?_of_ne_minus hminus, ← List.cons_append,
          unsigned?_append h hstops]

theorem word?_eq_some_iff {word : String} :
    word? word cs = some rest ↔ cs = word.toList ++ rest := by
  unfold word?
  dsimp only
  split_ifs with h
  · obtain ⟨rest', rfl⟩ := List.isPrefixOf_iff_prefix.mp h
    simp [eq_comm]
  · refine ⟨nofun, ?_⟩
    rintro rfl
    exact absurd (List.isPrefixOf_iff_prefix.mpr (List.prefix_append _ _)) h

/-- No word begins another one, so a text begins with one word at most. -/
theorem findWord_eq_some_iff {found : Except Cause Json} :
    findWord cs = some (found, rest) ↔
      ∃ word, (word, found) ∈ words ∧ cs = word.toList ++ rest := by
  have hprefixFree : ∀ w ∈ words, ∀ w' ∈ words, w.1.toList <+: w'.1.toList → w = w' := by
    decide
  constructor
  · intro h
    obtain ⟨⟨word, v⟩, hmem, hword⟩ := List.exists_of_findSome?_eq_some h
    obtain ⟨left, hleft, heq⟩ := Option.map_eq_some_iff.mp hword
    cases heq
    exact ⟨word, hmem, word?_eq_some_iff.mp hleft⟩
  · rintro ⟨word, hmem, rfl⟩
    have hself : word? word (word.toList ++ rest) = some rest := word?_eq_some_iff.mpr rfl
    cases hfind : findWord (word.toList ++ rest) with
    | none =>
        have hnone := List.findSome?_eq_none_iff.mp hfind (word, found) hmem
        simp [hself] at hnone
    | some other =>
        obtain ⟨⟨word', v⟩, hmem', hword'⟩ := List.exists_of_findSome?_eq_some hfind
        obtain ⟨left, hleft, rfl⟩ := Option.map_eq_some_iff.mp hword'
        have heq := word?_eq_some_iff.mp hleft
        have hsame : (word, found) = (word', v) := by
          rcases List.prefix_or_prefix_of_prefix ⟨rest, rfl⟩ ⟨left, heq.symm⟩ with h | h
          · exact hprefixFree _ hmem _ hmem' h
          · exact (hprefixFree _ hmem' _ hmem h).symm
        cases hsame
        rw [List.append_cancel_left heq]

theorem findWord_append {found : Except Cause Json} (h : findWord cs = some (found, rest))
    (more : List Char) : findWord (cs ++ more) = some (found, rest ++ more) := by
  obtain ⟨word, hmem, rfl⟩ := findWord_eq_some_iff.mp h
  exact findWord_eq_some_iff.mpr ⟨word, hmem, List.append_assoc _ _ _⟩

theorem exists_digit_of_unsigned? {n : Numeral} {negative : Bool}
    (h : unsigned? negative cs = some (n, rest)) : ∃ d ds, cs = d :: ds ∧ d.isDigit = true := by
  unfold unsigned? at h
  split at h
  · exact ⟨'0', _, rfl, by decide⟩
  · split_ifs at h with hdigit
    exact ⟨_, _, rfl, hdigit⟩
  · cases h

theorem findWord_append_of_numeral? {n : Numeral} (h : numeral? cs = some (n, rest))
    (more : List Char) : findWord (cs ++ more) = none := by
  cases cs with
  | nil => cases h
  | cons c behind =>
      by_cases hminus : c = '-'
      · subst hminus
        rw [numeral?_minus] at h
        obtain ⟨d, ds, rfl, hd⟩ := exists_digit_of_unsigned? h
        exact (Numeral.findWord_digit hd _).2
      · rw [numeral?_of_ne_minus hminus] at h
        obtain ⟨d, ds, heq, hd⟩ := exists_digit_of_unsigned? h
        rw [heq]
        exact (Numeral.findWord_digit hd _).1

theorem readAtom_append {v : Json} (h : readAtom cs = .ok (v, rest)) (hstops : Stops rest)
    (more : List Char) : readAtom (cs ++ more) = .ok (v, rest ++ more) := by
  unfold readAtom at h ⊢
  split at h
  · rename_i hword
    cases h
    rw [findWord_append hword]
  · exact absurd h (by simp [stuck])
  · rename_i hword
    split at h
    · exact absurd h (by simp [stuck])
    · rename_i n left hnumeral
      split_ifs at h with hdigits
      · exact absurd h (by simp [stuck])
      · cases h
        rw [findWord_append_of_numeral? hnumeral, numeral?_append hnumeral hstops]
        simp only [if_neg hdigits]

/-! ## Strings -/

/-- Four hexadecimal digits are read with the first character of what follows them in sight. -/
theorem exists_of_hexFour? {n : Nat} (h : hexFour? cs = some (n, rest)) :
    ∃ e behind, rest = e :: behind ∧
      ∀ more, hexFour? (cs ++ more) = some (n, e :: (behind ++ more)) := by
  match cs, h with
  | a :: b :: c :: d :: e :: behind, h =>
      simp only [hexFour?, Option.bind_eq_bind, Option.bind_eq_some_iff] at h
      obtain ⟨a', ha, b', hb, c', hc, d', hd, hfour⟩ := h
      cases hfour
      refine ⟨e, behind, rfl, fun more => ?_⟩
      simp [hexFour?, ha, hb, hc, hd]

theorem hexFour?_of_length_le (h : cs.length ≤ 4) : hexFour? cs = none := by
  match cs, h with
  | [], _ | [_], _ | [_, _], _ | [_, _, _], _ | [_, _, _, _], _ => rfl

/-- If an escape begins the text, then all of it is there. -/
structure EscapeWhole (cs : List Char) : Prop where
  mark : cs ≠ ['\\']
  digits : ∀ tail, cs = '\\' :: 'u' :: tail → 4 < tail.length

theorem readEscape_append {begin : List Char} {c : Char} (h : readEscape begin cs = .ok (c, rest))
    (hrest : EscapeWhole rest) (begin' more : List Char) :
    readEscape begin' (cs ++ more) = .ok (c, rest ++ more) := by
  unfold readEscape at h
  split at h
  · exact absurd h (by simp [stuck])
  · rename_i behind
    split at h
    · exact absurd h (by simp [stuck])
    · rename_i high left hhigh
      obtain ⟨e, tail, rfl, hmore⟩ := exists_of_hexFour? hhigh
      rw [List.cons_append]
      split at h
      -- The first half of a pair, and a mark of another escape.
      · rename_i tail hsurrogate htail
        cases htail
        split_ifs at h with hlength
        · cases h
          exact absurd (hrest.digits _ rfl) (by omega)
        · have hlonger : ¬(tail ++ more).length ≤ 4 := by
            rw [List.length_append]
            omega
          split at h
          · exact absurd h (by simp [stuck])
          · rename_i low behind hlow
            obtain ⟨d, tail', rfl, hlowMore⟩ := exists_of_hexFour? hlow
            simp only [readEscape, hmore, hsurrogate, List.cons_append, if_neg hlonger, hlowMore]
            split_ifs at h ⊢ with hsecond
            · obtain ⟨rfl, rfl⟩ := Prod.mk.inj (Except.ok.inj h)
              rw [List.cons_append]
            · cases h
              rfl
      -- Anything else stands alone, also if more text makes the mark whole.
      · rename_i hsingle
        cases h
        simp only [readEscape, hmore]
        split
        · rename_i hsurrogate heq
          obtain ⟨rfl, htail⟩ := List.cons.inj heq
          cases tail with
          | nil => exact absurd rfl hrest.mark
          | cons d tail =>
              cases htail
              exact (hsingle _ hsurrogate rfl).elim
        · rfl
  · rename_i d behind hunit
    split at h
    iterate 8
      cases h
      rfl
    exact absurd h (by simp [stuck])

/-- An escape that is broken off stops a string. -/
theorem escapeWhole_of_readChars {begin found behind : List Char} {fuel : Nat} {s : String}
    (h : readChars begin fuel found rest = .ok (s, behind)) : EscapeWhole rest := by
  cases fuel with
  | zero => exact absurd h (by simp [readChars, stuck])
  | succ fuel =>
      constructor
      · rintro rfl
        exact absurd h (by simp [readChars, readEscape, stuck])
      · rintro tail rfl
        by_contra hlength
        have hnone := hexFour?_of_length_le (Nat.not_lt.mp hlength)
        exact absurd h (by simp [readChars, readEscape, stuck, hnone])

theorem readChars_append {begin found : List Char} {fuel fuel' : Nat} {s : String}
    (h : readChars begin fuel found cs = .ok (s, rest)) (hfuel : fuel ≤ fuel')
    (begin' more : List Char) :
    readChars begin' fuel' found (cs ++ more) = .ok (s, rest ++ more) := by
  induction fuel generalizing fuel' found cs with
  | zero => exact absurd h (by simp [readChars, stuck])
  | succ fuel ih =>
      obtain ⟨fuel', rfl⟩ : ∃ n, fuel' = n + 1 := ⟨fuel' - 1, by omega⟩
      have hfuel : fuel ≤ fuel' := by omega
      cases cs with
      | nil => exact absurd h (by simp [readChars, stuck])
      | cons c cs =>
          rw [readChars] at h
          rw [List.cons_append, readChars]
          split_ifs at h ⊢ with hquote hbackslash hcontrol
          · cases h
            rfl
          · split at h
            · rename_i d behind hescape
              have hwhole := escapeWhole_of_readChars h
              rw [readEscape_append hescape hwhole]
              exact ih h hfuel
            · cases h
          · exact absurd h (by simp [stuck])
          · exact ih h hfuel

/-- A string whose closing quote is there is read as the same string if more text follows. -/
theorem readString_append {s : String} (h : readString cs = .ok (s, rest)) (more : List Char) :
    readString (cs ++ more) = .ok (s, rest ++ more) := by
  refine readChars_append h ?_ _ _
  rw [List.length_append]
  omega

/-! ## Values -/

theorem skipSpace_append_of_eq_cons {c : Char} {behind : List Char} (h : skipSpace cs = c :: behind)
    (more : List Char) : skipSpace (cs ++ more) = c :: (behind ++ more) := by
  rw [skipSpace_append (h ▸ List.cons_ne_nil _ _), h, List.cons_append]

theorem ne_nil_of_readValue {fuel : Nat} {v : Json} (h : readValue fuel cs = .ok (v, rest)) :
    cs ≠ [] := by
  rintro rfl
  cases fuel <;> cases h

theorem ne_nil_of_readItems {fuel : Nat} {found items : List Json}
    (h : readItems fuel found cs = .ok (items, rest)) : cs ≠ [] := by
  rintro rfl
  rcases fuel with - | - | fuel <;> cases h

theorem ne_nil_of_readMembers {fuel : Nat} {found members : List (String × Json)}
    (h : readMembers fuel found cs = .ok (members, rest)) : cs ≠ [] := by
  rintro rfl
  cases fuel <;> cases h

/-- What the three readers answer with some fuel, they answer with more fuel and with more text
behind. -/
structure ReadsOn (fuel : Nat) : Prop where
  value : ∀ {fuel' cs rest v}, fuel ≤ fuel' → readValue fuel cs = .ok (v, rest) → Stops rest →
    ∀ more, readValue fuel' (cs ++ more) = .ok (v, rest ++ more)
  items : ∀ {fuel' found cs rest items}, fuel ≤ fuel' →
    readItems fuel found cs = .ok (items, rest) →
    ∀ more, readItems fuel' found (cs ++ more) = .ok (items, rest ++ more)
  members : ∀ {fuel' found cs rest members}, fuel ≤ fuel' →
    readMembers fuel found cs = .ok (members, rest) →
    ∀ more, readMembers fuel' found (cs ++ more) = .ok (members, rest ++ more)

section

variable {fuel fuel' : Nat}

theorem exists_of_append_eq_cons {c : Char} (h : cs ++ more = c :: rest) (hne : cs ≠ []) :
    ∃ tail, cs = c :: tail := by
  obtain ⟨d, tail, rfl⟩ := List.exists_cons_of_ne_nil hne
  cases h
  exact ⟨tail, rfl⟩

/-- A list ends with its bracket. -/
theorem ReadsOn.list_succ (ih : ReadsOn fuel) {v : Json} (hfuel : fuel ≤ fuel')
    (h : readValue (fuel + 1) ('[' :: cs) = .ok (v, rest)) (more : List Char) :
    readValue (fuel' + 1) ('[' :: (cs ++ more)) = .ok (v, rest ++ more) := by
  rw [readValue] at h ⊢
  split at h
  · rename_i hclose
    cases h
    simp only [skipSpace_append_of_eq_cons hclose]
  · rename_i hopen
    split at h
    · rename_i hitems
      cases h
      have hne := ne_nil_of_readItems hitems
      rw [skipSpace_append hne]
      split
      · rename_i heq
        obtain ⟨tail, htail⟩ := exists_of_append_eq_cons heq hne
        exact (hopen tail htail).elim
      · rw [ih.items hfuel hitems]
    · cases h

/-- An object ends with its brace. -/
theorem ReadsOn.object_succ (ih : ReadsOn fuel) {v : Json} (hfuel : fuel ≤ fuel')
    (h : readValue (fuel + 1) ('\x7b' :: cs) = .ok (v, rest)) (more : List Char) :
    readValue (fuel' + 1) ('\x7b' :: (cs ++ more)) = .ok (v, rest ++ more) := by
  rw [readValue] at h ⊢
  split at h
  · rename_i hclose
    cases h
    simp only [skipSpace_append_of_eq_cons hclose]
  · rename_i hopen
    split at h
    · rename_i hmembers
      cases h
      have hne := ne_nil_of_readMembers hmembers
      rw [skipSpace_append hne]
      split
      · rename_i heq
        obtain ⟨tail, htail⟩ := exists_of_append_eq_cons heq hne
        exact (hopen tail htail).elim
      · rw [ih.members hfuel hmembers]
    · cases h

theorem ReadsOn.value_succ (ih : ReadsOn fuel) {v : Json} (hfuel : fuel ≤ fuel')
    (h : readValue (fuel + 1) cs = .ok (v, rest)) (hstops : Stops rest) (more : List Char) :
    readValue (fuel' + 1) (cs ++ more) = .ok (v, rest ++ more) := by
  obtain ⟨c, cs, rfl⟩ := List.exists_cons_of_ne_nil (ne_nil_of_readValue h)
  by_cases hbracket : c = '['
  · subst hbracket
    exact ih.list_succ hfuel h more
  by_cases hbrace : c = '\x7b'
  · subst hbrace
    exact ih.object_succ hfuel h more
  by_cases hquote : c = '"'
  · subst hquote
    rw [readValue] at h
    rw [List.cons_append, readValue]
    split at h
    · rename_i hstring
      cases h
      rw [readString_append hstring]
    · cases h
  have hatom (fuel : Nat) (cs : List Char) :
      readValue (fuel + 1) (c :: cs) = readAtom (c :: cs) := by
    rw [readValue] <;> simp_all
  rw [hatom] at h
  rw [List.cons_append, hatom, ← List.cons_append, readAtom_append h hstops]

theorem ReadsOn.items_succ (ih : ReadsOn fuel) {found items : List Json} (hfuel : fuel ≤ fuel')
    (h : readItems (fuel + 1) found cs = .ok (items, rest)) (more : List Char) :
    readItems (fuel' + 1) found (cs ++ more) = .ok (items, rest ++ more) := by
  unfold readItems at h ⊢
  split at h
  · cases h
  · rename_i v behind hv
    split at h
    · rename_i hclose
      cases h
      rw [ih.value hfuel hv (stops_of_skipSpace hclose (by decide))]
      simp only [skipSpace_append_of_eq_cons hclose]
    · rename_i hcomma
      rw [ih.value hfuel hv (stops_of_skipSpace hcomma (by decide))]
      simp only [skipSpace_append_of_eq_cons hcomma, skipSpace_append (ne_nil_of_readItems h)]
      exact ih.items hfuel h more
    · exact absurd h (by simp [stuck])

theorem ReadsOn.members_succ (ih : ReadsOn fuel) {found members : List (String × Json)}
    (hfuel : fuel ≤ fuel')
    (h : readMembers (fuel + 1) found cs = .ok (members, rest)) (more : List Char) :
    readMembers (fuel' + 1) found (cs ++ more) = .ok (members, rest ++ more) := by
  unfold readMembers at h
  split at h
  · rename_i behind
    split at h
    · cases h
    · rename_i name behind hname
      rw [List.cons_append, readMembers, readString_append hname]
      split at h
      · rename_i hcolon
        simp only [skipSpace_append_of_eq_cons hcolon]
        split at h
        · cases h
        · rename_i v behind hv
          rw [skipSpace_append (ne_nil_of_readValue hv)]
          split at h
          · rename_i hclose
            cases h
            rw [ih.value hfuel hv (stops_of_skipSpace hclose (by decide))]
            simp only [skipSpace_append_of_eq_cons hclose]
          · rename_i hcomma
            rw [ih.value hfuel hv (stops_of_skipSpace hcomma (by decide))]
            simp only [skipSpace_append_of_eq_cons hcomma,
              skipSpace_append (ne_nil_of_readMembers h)]
            exact ih.members hfuel h more
          · exact absurd h (by simp [stuck])
      · exact absurd h (by simp [stuck])
  · exact absurd h (by simp [stuck])

end

theorem readsOn (fuel : Nat) : ReadsOn fuel := by
  induction fuel with
  | zero => constructor <;> intros <;> simp_all [readValue, readItems, readMembers, stuck]
  | succ fuel ih =>
      have hpred {fuel' : Nat} (h : fuel + 1 ≤ fuel') : ∃ n, fuel' = n + 1 ∧ fuel ≤ n :=
        ⟨fuel' - 1, by omega, by omega⟩
      constructor
      · intro _ cs rest v hfuel
        obtain ⟨fuel', rfl, hle⟩ := hpred hfuel
        exact ih.value_succ hle
      · intro _ found cs rest items hfuel
        obtain ⟨fuel', rfl, hle⟩ := hpred hfuel
        exact ih.items_succ hle
      · intro _ found cs rest members hfuel
        obtain ⟨fuel', rfl, hle⟩ := hpred hfuel
        exact ih.members_succ hle

/-- A text that begins as an object and is one was read up to its end. -/
theorem readValue_of_read? {v : Json} (h : read? (String.ofList ('\x7b' :: cs)) = some v) :
    ∃ rest, readValue (2 * ('\x7b' :: cs).length + 2) ('\x7b' :: cs) = .ok (v, rest) := by
  unfold read? read at h
  rw [String.toList_ofList] at h
  unfold readChars? at h
  rw [skipSpace_cons (by decide)] at h
  split at h
  · rename_i heq
    cases heq
  · split at h
    · cases h
    · rename_i rest hread
      split at h
      · cases h
        exact ⟨rest, hread⟩
      · cases h

/-- The text of an object is no object any more, nor anything else, without its end. -/
theorem read?_of_cut {l : Layout} (hl : l.Legible) {members : List (String × Json)}
    (h : chars l 0 (.obj members) = cs ++ more) (hmore : more ≠ []) :
    read? (String.ofList cs) = none := by
  cases cs with
  | nil => rfl
  | cons c cs =>
      obtain ⟨behind, hbehind⟩ : ∃ behind, chars l 0 (.obj members) = '\x7b' :: behind := by
        cases members <;> exact ⟨_, rfl⟩
      obtain ⟨rfl, -⟩ := List.cons.inj (hbehind.symm.trans h)
      rw [Option.eq_none_iff_forall_ne_some]
      intro v hv
      obtain ⟨rest, hread⟩ := readValue_of_read? hv
      obtain ⟨fuel, hle, hfuel⟩ : ∃ fuel, 2 * ('\x7b' :: cs).length + 1 ≤ fuel ∧
          2 * (chars l 0 (.obj members)).length ≤ fuel + 1 := by
        refine ⟨2 * (chars l 0 (.obj members)).length + 1, ?_, by omega⟩
        rw [h, List.length_append]
        omega
      -- The whole text is read as the same value, but something would be left of it.
      have hwhole := (readsOn _).object_succ hle hread more
      have hback := readValue_chars hl (.obj members) hfuel endsNumber_nil
      rw [List.append_nil, h, List.cons_append, hwhole, toOption_ok, eq_comm,
        Option.map_eq_some_iff] at hback
      obtain ⟨_, -, heq⟩ := hback
      exact hmore (List.append_eq_nil_iff.mp (Prod.mk.inj heq).2.symm).2
end Foldbook.Json
