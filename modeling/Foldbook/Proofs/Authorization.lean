import Foldbook.Http.Authorization
import Foldbook.Proofs.Text
import Foldbook.Proofs.Utf8
import Mathlib.Data.List.TakeWhile

/-!
# Literal credentials

What becomes of a header on its way to the client program.

* `Base64.decode?_encode`: the Base64 text of any octets is read back to
  them, and no colon is in it (`Base64.notMem_encode`).
* `Literal` is the form of a basic authorization with literal credentials,
  and `credentials?` finds the one with the longest words in front
  (`of_credentials?`).
* `encodeAuthorization_encoded`: literal credentials are replaced by their
  Base64 text, any other header stays, and doing it again changes nothing.
-/

namespace Foldbook

/-! ## Base64 -/

namespace Text.Base64

theorem value?_digit {n : Nat} (h : n < 64) : value? (digit n) = some n := by
  have hall : ∀ n < 64, value? (digit n) = some n := by decide
  exact hall n h

/-- Only characters with a value are digits. -/
theorem digit_ne {c : Char} (hc : value? c = none) {n : Nat} (h : n < 64) : digit n ≠ c := by
  intro hdigit
  rw [← hdigit, value?_digit h] at hc
  cases hc

/-- Four digits are read to three octets. -/
theorem decode?_digits {x y z w : Nat} (hx : x < 64) (hy : y < 64) (hz : z < 64) (hw : w < 64)
    (rest : List Char) :
    decode? (digit x :: digit y :: digit z :: digit w :: rest) =
      (decode? rest).map fun tail =>
        UInt8.ofNat (x * 4 + y / 16) :: UInt8.ofNat (y % 16 * 16 + z / 4) ::
          UInt8.ofNat (z % 4 * 64 + w) :: tail := by
  have hpad : digit w ≠ '=' := digit_ne (by decide) hw
  rw [decode?, value?_digit hx, value?_digit hy, value?_digit hz, value?_digit hw]
  · cases decode? rest <;> rfl
  · rintro - h -
    exact hpad h
  · rintro h -
    exact hpad h

theorem decode?_encode (octets : List UInt8) : decode? (encode octets) = some octets := by
  fun_induction encode octets with
  | case1 => rfl
  | case2 a =>
    have ha := a.toNat_lt
    have hfirst : a.toNat / 4 * 4 + a.toNat % 4 * 16 / 16 = a.toNat := by omega
    have hspare : a.toNat % 4 * 16 % 16 = 0 := by omega
    rw [decode?, value?_digit (by omega), value?_digit (by omega)]
    show (if _ then some [UInt8.ofNat _] else none) = some [a]
    rw [if_pos hspare, Utf8.ofNat_eq_octet a hfirst]
  | case3 a b =>
    have ha := a.toNat_lt
    have hb := b.toNat_lt
    have hfirst : a.toNat / 4 * 4 + (a.toNat % 4 * 16 + b.toNat / 16) / 16 = a.toNat := by omega
    have hsecond : (a.toNat % 4 * 16 + b.toNat / 16) % 16 * 16 + b.toNat % 16 * 4 / 4 =
        b.toNat := by omega
    have hspare : b.toNat % 16 * 4 % 4 = 0 := by omega
    have hpad : digit (b.toNat % 16 * 4) ≠ '=' := digit_ne (by decide) (by omega)
    rw [decode?, value?_digit (by omega), value?_digit (by omega), value?_digit (by omega)]
    · show (if _ then some [UInt8.ofNat _, UInt8.ofNat _] else none) = some [a, b]
      rw [if_pos hspare, Utf8.ofNat_eq_octet a hfirst, Utf8.ofNat_eq_octet b hsecond]
    · exact hpad
  | case4 a b c rest ih =>
    have ha := a.toNat_lt
    have hb := b.toNat_lt
    have hc := c.toNat_lt
    have hfirst : a.toNat / 4 * 4 + (a.toNat % 4 * 16 + b.toNat / 16) / 16 = a.toNat := by omega
    have hsecond : (a.toNat % 4 * 16 + b.toNat / 16) % 16 * 16 +
        (b.toNat % 16 * 4 + c.toNat / 64) / 4 = b.toNat := by omega
    have hthird : (b.toNat % 16 * 4 + c.toNat / 64) % 4 * 64 + c.toNat % 64 = c.toNat := by omega
    rw [decode?_digits (by omega) (by omega) (by omega) (by omega), ih, Option.map_some,
      Utf8.ofNat_eq_octet a hfirst, Utf8.ofNat_eq_octet b hsecond, Utf8.ofNat_eq_octet c hthird]

/-- Only digits and padding stand in a Base64 text. -/
theorem notMem_encode {c : Char} (hc : value? c = none) (hpad : c ≠ '=') (octets : List UInt8) :
    c ∉ encode octets := by
  have hdigit : ∀ {n : Nat}, n < 64 → c ≠ digit n := fun hn => (digit_ne hc hn).symm
  fun_induction encode octets with
  | case1 => exact List.not_mem_nil
  | case2 a =>
    have ha := a.toNat_lt
    simp only [List.mem_cons, List.not_mem_nil, or_false, not_or]
    exact ⟨hdigit (by omega), hdigit (by omega), hpad, hpad⟩
  | case3 a b =>
    have ha := a.toNat_lt
    have hb := b.toNat_lt
    simp only [List.mem_cons, List.not_mem_nil, or_false, not_or]
    exact ⟨hdigit (by omega), hdigit (by omega), hdigit (by omega), hpad⟩
  | case4 a b d rest ih =>
    have ha := a.toNat_lt
    have hb := b.toNat_lt
    have hd := d.toNat_lt
    simp only [List.mem_cons, not_or]
    exact ⟨hdigit (by omega), hdigit (by omega), hdigit (by omega), hdigit (by omega), ih⟩

end Text.Base64

namespace Http

open Text

/-! ## Literal credentials in a header -/

/-- The words in front of the credentials. -/
def IsFront (front : List Char) : Prop :=
  ∃ blanks more, front = "Authorization:".toList ++ blanks ++ "Basic".toList ++ more ∧
    blanks ≠ [] ∧ more ≠ [] ∧ ∀ c ∈ blanks ++ more, isBlank c = true

/-- A user and a password with the only colon between them. -/
def IsPair (credentials : List Char) : Prop :=
  ∃ user password, credentials = user ++ ':' :: password ∧ user ≠ [] ∧ password ≠ [] ∧
    ':' ∉ user ++ password

/-- The header is a basic authorization with literal credentials. -/
structure Literal (header front credentials : List Char) : Prop where
  eq : header = front ++ credentials
  isFront : IsFront front
  isPair : IsPair credentials

theorem isCredentials_iff {cs : List Char} : isCredentials cs = true ↔ IsPair cs := by
  unfold isCredentials
  constructor
  · intro h
    split at h
    · rename_i user password hcut
      obtain ⟨rfl, huser⟩ := firstCut_singleton_iff.mp (cutAt?_eq_some_iff.mp hcut)
      simp only [Bool.and_eq_true, Bool.not_eq_true', List.isEmpty_eq_false_iff,
        List.contains_eq_mem, decide_eq_false_iff_not] at h
      exact ⟨user, password, rfl, h.1.1, h.1.2, by simp [huser, h.2]⟩
    · cases h
  · rintro ⟨user, password, rfl, huser, hpassword, hcolon⟩
    rw [List.mem_append, not_or] at hcolon
    rw [cutAt?_eq_some_iff.mpr (firstCut_singleton_iff.mpr ⟨rfl, hcolon.1⟩)]
    simp [huser, hpassword, hcolon.2]

/-- Behind the two words and the blanks between them the credentials are looked for. -/
theorem credentials?_append {blanks : List Char} (hne : blanks ≠ [])
    (hblanks : ∀ c ∈ blanks, isBlank c = true) (rest : List Char) :
    credentials? ("Authorization:".toList ++ blanks ++ "Basic".toList ++ rest) =
      afterSomeBlanks (fun cs => if isCredentials cs then some cs else none) rest := by
  obtain ⟨b, blanks, rfl⟩ := List.exists_cons_of_ne_nil hne
  obtain ⟨hb, hblanks⟩ := List.forall_mem_cons.mp hblanks
  have hdrop : (blanks ++ ("Basic".toList ++ rest)).dropWhile isBlank = "Basic".toList ++ rest :=
    dropWhile_blanks_append hblanks (by decide) _
  unfold credentials?
  rw [List.append_assoc, List.append_assoc, dropPrefix?_append, List.cons_append]
  show (if isBlank b then _ else none) = _
  rw [if_pos hb, hdrop, dropPrefix?_append]
  rfl

/-- The words, the blanks between them, and what stands behind are told apart in one way. -/
theorem words_inj {blanks others rest behind : List Char}
    (hblanks : ∀ c ∈ blanks, isBlank c = true) (hothers : ∀ c ∈ others, isBlank c = true)
    (h : "Authorization:".toList ++ blanks ++ "Basic".toList ++ rest =
      "Authorization:".toList ++ others ++ "Basic".toList ++ behind) :
    blanks = others ∧ rest = behind := by
  simp only [List.append_assoc, List.append_cancel_left_eq] at h
  have hdrop := congrArg (List.dropWhile isBlank) h
  have hword : ∀ {bs : List Char} (cs : List Char), (∀ c ∈ bs, isBlank c = true) →
      (bs ++ ("Basic".toList ++ cs)).dropWhile isBlank = "Basic".toList ++ cs :=
    fun _ hbs => dropWhile_blanks_append hbs (by decide) _
  rw [hword rest hblanks, hword behind hothers] at hdrop
  obtain rfl : rest = behind := List.append_cancel_left hdrop
  exact ⟨List.append_cancel_right h, rfl⟩

/-- Credentials are found only behind the two words. -/
theorem exists_of_credentials? {header credentials : List Char}
    (h : credentials? header = some credentials) :
    ∃ blanks rest, header = "Authorization:".toList ++ blanks ++ "Basic".toList ++ rest ∧
      blanks ≠ [] ∧ (∀ c ∈ blanks, isBlank c = true) := by
  simp only [credentials?, Option.bind_eq_bind, Option.bind_eq_some_iff] at h
  obtain ⟨behind, hheader, h⟩ := h
  rw [dropPrefix?_eq_some_iff] at hheader
  split at h
  · rename_i c behind
    split at h
    · rename_i hc
      rw [Option.bind_eq_some_iff] at h
      obtain ⟨rest, hrest, -⟩ := h
      rw [dropPrefix?_eq_some_iff] at hrest
      refine ⟨c :: behind.takeWhile isBlank, rest, ?_, List.cons_ne_nil _ _, ?_⟩
      · rw [hheader, List.append_assoc, List.append_assoc, List.cons_append, ← hrest,
          List.takeWhile_append_dropWhile]
      · exact List.forall_mem_cons.mpr ⟨hc, fun d hd => List.mem_takeWhile_imp hd⟩
    · cases h
  · cases h

/-- What is found are the literal credentials with the most blanks in front. -/
theorem of_credentials? {header credentials : List Char}
    (h : credentials? header = some credentials) :
    ∃ front, Literal header front credentials ∧
      ∀ front' credentials', Literal header front' credentials' →
        front'.length ≤ front.length := by
  obtain ⟨blanks, behind, rfl, hne, hblanks⟩ := exists_of_credentials? h
  rw [credentials?_append hne hblanks] at h
  obtain ⟨more, rest, rfl, hmoreNe, hmore, hrest, hlongest⟩ := of_afterSomeBlanks h
  obtain ⟨hpair, hsame⟩ := Option.ite_none_right_eq_some.mp hrest
  obtain rfl : rest = credentials := Option.some.inj hsame
  refine ⟨"Authorization:".toList ++ blanks ++ "Basic".toList ++ more,
    ⟨(List.append_assoc _ _ _).symm,
      ⟨blanks, more, rfl, hne, hmoreNe, List.forall_mem_append.mpr ⟨hblanks, hmore⟩⟩,
      isCredentials_iff.mp hpair⟩, ?_⟩
  rintro - credentials' ⟨heq, ⟨others, more', rfl, -, -, hothers⟩, hpair'⟩
  rw [List.forall_mem_append] at hothers
  rw [List.append_assoc _ more'] at heq
  obtain ⟨rfl, hbehind⟩ := words_inj hblanks hothers.1 heq
  suffices hle : more'.length ≤ more.length by
    simp only [List.length_append]
    omega
  -- with more blanks in front the credentials behind them would have been found
  rcases List.append_eq_append_iff.mp hbehind with ⟨extra, rfl, hextra⟩ | ⟨extra, rfl, -⟩
  · by_cases hne' : extra = []
    · rw [hne', List.append_nil]
    · have hnone := hlongest extra credentials' hextra
        (fun c hc => hothers.2 c (List.mem_append_right _ hc)) hne'
      rw [if_pos (isCredentials_iff.mpr hpair')] at hnone
      cases hnone
  · rw [List.length_append]
    exact Nat.le_add_right _ _

/-- Literal credentials are found, if perhaps with more blanks in front. -/
theorem Literal.isSome {header front credentials : List Char}
    (h : Literal header front credentials) : (credentials? header).isSome = true := by
  obtain ⟨rfl, ⟨blanks, more, rfl, hne, hmoreNe, hblanks⟩, hpair⟩ := h
  rw [List.forall_mem_append] at hblanks
  rw [List.append_assoc _ more, credentials?_append hne hblanks.1, isSome_afterSomeBlanks_iff]
  refine ⟨more, credentials, rfl, hmoreNe, hblanks.2, ?_⟩
  rw [if_pos (isCredentials_iff.mpr hpair)]
  rfl

/-! ## The header that is sent -/

/-- What a header becomes. -/
inductive Encoded (header : List Char) : List Char → Prop
  /-- A header without literal credentials stays. -/
  | other (h : ∀ front credentials, ¬Literal header front credentials) : Encoded header header
  /-- The longest words stay in front, and the text behind them says the credentials. -/
  | literal {front credentials token : List Char} (h : Literal header front credentials)
    (longest : ∀ front' credentials', Literal header front' credentials' →
      front'.length ≤ front.length)
    (octets : Base64.decode? token = some (String.ofList credentials).toUTF8.toList) :
    Encoded header (front ++ token)

/-- Behind the words, a text without a colon is no credentials. -/
theorem credentials?_of_notMem {front token : List Char} (hfront : IsFront front)
    (htoken : ':' ∉ token) : credentials? (front ++ token) = none := by
  obtain ⟨blanks, more, rfl, hne, -, hblanks⟩ := hfront
  rw [List.forall_mem_append] at hblanks
  rw [List.append_assoc _ more, credentials?_append hne hblanks.1, Option.eq_none_iff_forall_ne_some]
  intro credentials hsome
  obtain ⟨blanks', rest, hrest, -, -, hnext, -⟩ := of_afterSomeBlanks hsome
  obtain ⟨user, password, rfl, -, -, -⟩ :=
    isCredentials_iff.mp (Option.ite_none_right_eq_some.mp hnext).1
  have hcolon : ':' ∈ more ++ token := by
    rw [hrest]
    simp
  rcases List.mem_append.mp hcolon with hmore | hmem
  · exact absurd (hblanks.2 _ hmore) (by decide)
  · exact htoken hmem

/-- Literal credentials are sent in Base64, any other header is sent as it is, and a header that
has been encoded stays. -/
theorem encodeAuthorization_encoded (header : String) :
    Encoded header.toList (encodeAuthorization header).toList ∧
      encodeAuthorization (encodeAuthorization header) = encodeAuthorization header := by
  cases hfound : credentials? header.toList with
  | none =>
      have hsame : encodeAuthorization header = header := by
        simp only [encodeAuthorization, hfound]
      rw [hsame]
      refine ⟨.other fun front credentials hliteral => ?_, hsame⟩
      have hsome := hliteral.isSome
      rw [hfound] at hsome
      cases hsome
  | some credentials =>
      obtain ⟨front, hliteral, hlongest⟩ := of_credentials? hfound
      have hsent : (encodeAuthorization header).toList =
          front ++ Base64.encode (String.ofList credentials).toUTF8.toList := by
        simp only [encodeAuthorization, hfound]
        simp [hliteral.eq, Base64.ofText]
      have hcolon := Base64.notMem_encode (c := ':') (by decide) (by decide)
        (String.ofList credentials).toUTF8.toList
      constructor
      · rw [hsent]
        exact .literal hliteral hlongest (Base64.decode?_encode _)
      · rw [encodeAuthorization, hsent, credentials?_of_notMem hliteral.isFront hcolon]

/-- A blank is left to the credentials where the user would have no name. -/
example : credentials? "Authorization: Basic  :p".toList = some " :p".toList := by decide

end Http
end Foldbook
