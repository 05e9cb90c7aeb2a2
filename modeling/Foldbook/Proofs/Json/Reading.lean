import Foldbook.Proofs.Json.Numeral
import Foldbook.Proofs.Json.Parts

/-!
# What the reader answers

Whatever the text, the parts of a value that was read have whole numbers of at
most `digitLimit` digits and distinct names (`wellRead_of_read`).

The reader is three functions that call each other with less fuel
(`readValue`, `readItems`, `readMembers`).  `ReadsWell` says it of the three of
them together, and `readsWell` is one induction on the fuel.
-/

namespace Foldbook

namespace Decimal

theorem digitValue_lt_ten {c : Char} (h : c.isDigit = true) : digitValue c < 10 := by
  simp only [Char.isDigit, Bool.and_eq_true, decide_eq_true_eq] at h
  have hle : c.toNat ≤ 57 := h.2
  unfold digitValue
  omega

theorem ofDigits_lt {ds : List Char} (h : ∀ c ∈ ds, c.isDigit = true) :
    ofDigits ds < 10 ^ ds.length := by
  induction ds using List.reverseRecOn with
  | nil => decide
  | append_singleton ds c ih =>
      rw [List.forall_mem_append, List.forall_mem_singleton] at h
      have hlt := ih h.1
      have hc := digitValue_lt_ten h.2
      rw [ofDigits_append_singleton, List.length_append, List.length_singleton, Nat.pow_succ]
      omega

/-- A number has no more digits than a text that spells it. -/
theorem length_digits_ofDigits_le {ds : List Char} (hne : ds ≠ [])
    (h : ∀ c ∈ ds, c.isDigit = true) : (digits (ofDigits ds)).length ≤ ds.length :=
  (Nat.length_toDigits_le_iff (by decide) (List.length_pos_iff.mpr hne)).mpr (ofDigits_lt h)

end Decimal

namespace Json

/-- What holds of every part of a value that was read. -/
def WellRead (v : Json) : Prop := v.Every fun p => p.ShortInt ∧ p.DistinctNames

/-- In front of the point there are digits, and nothing else. -/
theorem whole_of_numeral? {cs rest : List Char} {n : Numeral} (h : numeral? cs = some (n, rest)) :
    n.whole ≠ [] ∧ ∀ c ∈ n.whole, c.isDigit = true := by
  unfold numeral? at h
  dsimp only at h
  split at h
  · obtain ⟨rfl, -⟩ := h
    exact ⟨by simp, by simp⟩
  · rename_i d ds _ _
    split at h
    · rename_i hd
      cases h
      exact ⟨by simp [spanDigits, *], fun c hc => List.all_eq_true.mp List.all_takeWhile c hc⟩
    · exact absurd h (by simp)
  · exact absurd h (by simp)

/-- A word or a number that was read. -/
theorem wellRead_of_readAtom {cs rest : List Char} {v : Json} (h : readAtom cs = .ok (v, rest)) :
    v.WellRead := by
  unfold readAtom at h
  split at h
  · rename_i w behind hword
    cases h
    have hmem : (.ok v : Except Cause Json) ∈ words.map Prod.snd := by
      obtain ⟨⟨word, value⟩, hmem, hvalue⟩ := List.exists_of_findSome?_eq_some hword
      simp only [Option.map_eq_some_iff, Prod.mk.injEq] at hvalue
      obtain ⟨-, -, hvalue, -⟩ := hvalue
      exact hvalue ▸ List.mem_map_of_mem hmem
    simp only [words, List.map_cons, List.map_nil, List.mem_cons, Except.ok.injEq, reduceCtorEq,
      List.not_mem_nil, or_false] at hmem
    rcases hmem with rfl | rfl | rfl <;> simp [WellRead, ShortInt, DistinctNames]
  · exact absurd h (by simp [stuck])
  · split at h
    · exact absurd h (by simp [stuck])
    · rename_i n behind hnumeral
      obtain ⟨hne, hdigits⟩ := whole_of_numeral? hnumeral
      split at h
      · exact absurd h (by simp [stuck])
      · rename_i hlimit
        cases h
        by_cases hwhole : n.isWhole = true
        · have hlength := Decimal.length_digits_ofDigits_le hne hdigits
          simp only [hwhole, Bool.true_and, decide_eq_true_eq, not_lt] at hlimit
          have habs : (if n.negative then -(Decimal.ofDigits n.whole : Int)
              else Decimal.ofDigits n.whole).natAbs = Decimal.ofDigits n.whole := by
            split <;> omega
          simp only [WellRead, Numeral.toJson, hwhole, if_true, every_int, ShortInt, habs,
            DistinctNames, and_true]
          omega
        · simp [WellRead, Numeral.toJson, hwhole, ShortInt, DistinctNames]

theorem wellRead_obj {members : List (String × Json)} (h : ∀ m ∈ members, m.2.WellRead) :
    (Json.obj (ofMembers members)).WellRead :=
  every_obj.mpr ⟨⟨trivial, nodup_ofMembers members⟩, every_ofMembers h⟩

/-- The three readers answer only values that are well read, if those found before are. -/
structure ReadsWell (fuel : Nat) : Prop where
  value : ∀ {cs rest v}, readValue fuel cs = .ok (v, rest) → v.WellRead
  items : ∀ {found cs rest items}, readItems fuel found cs = .ok (items, rest) →
    (∀ v ∈ found, v.WellRead) → ∀ v ∈ items, v.WellRead
  members : ∀ {found cs rest members}, readMembers fuel found cs = .ok (members, rest) →
    (∀ m ∈ found, m.2.WellRead) → ∀ m ∈ members, m.2.WellRead

section

variable {fuel : Nat} {cs rest : List Char}

theorem ReadsWell.value_succ (ih : ReadsWell fuel) {v : Json}
    (h : readValue (fuel + 1) cs = .ok (v, rest)) : v.WellRead := by
  unfold readValue at h
  split at h
  · split at h
    · cases h
      simp [WellRead, ShortInt, DistinctNames]
    · exact absurd h (by simp)
  · split at h
    · cases h
      simp [WellRead, ShortInt, DistinctNames]
    · split at h
      · rename_i hitems
        cases h
        exact every_arr.mpr ⟨⟨trivial, trivial⟩, ih.items hitems (List.forall_mem_nil _)⟩
      · exact absurd h (by simp)
  · split at h
    · cases h
      simp [WellRead, ShortInt, DistinctNames]
    · split at h
      · rename_i hmembers
        cases h
        exact wellRead_obj (ih.members hmembers (List.forall_mem_nil _))
      · exact absurd h (by simp)
  · exact wellRead_of_readAtom h

theorem ReadsWell.items_succ (ih : ReadsWell fuel) {found items : List Json}
    (h : readItems (fuel + 1) found cs = .ok (items, rest)) (hfound : ∀ v ∈ found, v.WellRead) :
    ∀ v ∈ items, v.WellRead := by
  unfold readItems at h
  split at h
  · exact absurd h (by simp)
  · rename_i v behind hv
    have hcons : ∀ w ∈ v :: found, w.WellRead := List.forall_mem_cons.mpr ⟨ih.value hv, hfound⟩
    split at h
    · cases h
      exact fun w hw => hcons w (List.mem_reverse.mp hw)
    · exact ih.items h hcons
    · exact absurd h (by simp [stuck])

theorem ReadsWell.members_succ (ih : ReadsWell fuel) {found members : List (String × Json)}
    (h : readMembers (fuel + 1) found cs = .ok (members, rest))
    (hfound : ∀ m ∈ found, m.2.WellRead) : ∀ m ∈ members, m.2.WellRead := by
  unfold readMembers at h
  split at h
  · split at h
    · exact absurd h (by simp)
    · rename_i name behind hname
      split at h
      · split at h
        · exact absurd h (by simp)
        · rename_i v behind hv
          have hcons : ∀ m ∈ (name, v) :: found, m.2.WellRead :=
            List.forall_mem_cons.mpr ⟨ih.value hv, hfound⟩
          split at h
          · cases h
            exact fun m hm => hcons m (List.mem_reverse.mp hm)
          · exact ih.members h hcons
          · exact absurd h (by simp [stuck])
      · exact absurd h (by simp [stuck])
  · exact absurd h (by simp [stuck])

end

theorem readsWell (fuel : Nat) : ReadsWell fuel := by
  induction fuel with
  | zero => constructor <;> intros <;> simp_all [readValue, readItems, readMembers, stuck]
  | succ fuel ih => exact ⟨ih.value_succ, ih.items_succ, ih.members_succ⟩

/-- A value that was read has whole numbers that are not too long, and distinct names. -/
theorem wellRead_of_read {text : String} {v : Json} (h : read text = .ok v) : v.WellRead := by
  have hchars : readChars? text.toList = .ok v := by
    unfold read at h
    cases hchars : readChars? text.toList with
    | error fault =>
        rw [hchars] at h
        exact absurd h (by simp [Except.mapError])
    | ok w =>
        rw [hchars] at h
        exact congrArg Except.ok (Except.ok.inj h)
  unfold readChars? at hchars
  split at hchars
  · exact absurd hchars (by simp [stuck])
  · split at hchars
    · exact absurd hchars (by simp)
    · rename_i w behind hvalue
      split at hchars
      · cases hchars
        exact (readsWell _).value hvalue
      · exact absurd hchars (by simp [stuck])

end Json
end Foldbook
