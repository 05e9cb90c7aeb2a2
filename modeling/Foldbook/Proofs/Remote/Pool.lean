import Foldbook.Remote.Pool
import Mathlib.Data.List.Nodup

/-!
# What a pool holds

`Pool.Proper` is what a pool keeps to: a destination has at most one idle
session, is leased at most once, and is never both.

* `lease_of_isLeased`, `lease_of_lookup`, `lease_of_lookup_none`: the three
  ways in which a lease can begin.  In the last two the pool is left as
  `takeOut` says.
* `Proper.takeOut`, `Proper.forget`, `Proper.giveBack`, `Proper.drain`: every
  operation keeps the pool proper.
* `perm_idle_of_lookup`: which sessions are idle in front of a lease and
  behind it.
* `Proper.idle_giveBack`: a session that is handed back takes no other's
  place.
-/

namespace Foldbook

/-- What is left without the one entry that has a certain key. -/
theorem perm_filter_bne {α β : Type} [DecidableEq β] (key : α → β) {l rest : List α} {a : α}
    (h : l.Perm (a :: rest)) (hnodup : (l.map key).Nodup) :
    (l.filter fun x => key x != key a).Perm rest := by
  have hkeys : (key a :: rest.map key).Nodup := (h.map key).nodup_iff.mp hnodup
  have hkeep : rest.filter (fun x => key x != key a) = rest := by
    refine List.filter_eq_self.mpr fun x hx => bne_iff_ne.mpr fun hsame => ?_
    exact (List.nodup_cons.mp hkeys).1 (hsame ▸ List.mem_map_of_mem hx)
  have hfilter := h.filter fun x => key x != key a
  rwa [List.filter_cons_of_neg (by simp), hkeep] at hfilter

/-- One entry is left out, and then others. -/
theorem filter_bne_filter_notMem {α : Type} [DecidableEq α] (l : List α) (a : α) (others : List α) :
    (l.filter (· != a)).filter (fun x => decide (x ∉ others)) =
      l.filter fun x => decide (x ∉ a :: others) := by
  rw [List.filter_filter]
  refine List.filter_congr fun x _ => ?_
  rw [Bool.eq_iff_iff]
  simp [and_comm]

namespace Pool

variable {ς ε : Type} {p : Pool ς} {destination : String} {session : ς}

/-- The destinations with an idle session. -/
def destinations (p : Pool ς) : List String := p.idle.map Prod.fst

/-- The idle sessions. -/
def sessions (p : Pool ς) : List ς := p.idle.map Prod.snd

/-- A destination has at most one idle session, is leased at most once, and is never both. -/
structure Proper (p : Pool ς) : Prop where
  idle_nodup : p.destinations.Nodup
  leased_nodup : p.leased.Nodup
  apart : ∀ destination ∈ p.leased, destination ∉ p.destinations

/-- The pool behind the beginning of a lease. -/
def takeOut (p : Pool ς) (destination : String) : Pool ς where
  idle := p.idle.filter fun entry => entry.1 != destination
  leased := destination :: p.leased

/-! ## Beginning a lease -/

theorem isLeased_eq_true_iff : p.isLeased destination = true ↔ destination ∈ p.leased := by
  rw [isLeased, List.contains_iff_mem]

theorem isLeased_eq_false_iff : p.isLeased destination = false ↔ destination ∉ p.leased := by
  rw [← isLeased_eq_true_iff, Bool.not_eq_true]

section

variable {m : Type → Type} [Monad m] (connect : m (Except ε ς))

theorem lease_of_isLeased (h : p.isLeased destination = true) :
    p.lease connect destination = pure (.error (.alreadyLeased destination)) := by
  rw [lease, if_pos h]

theorem lease_of_lookup (h : p.isLeased destination = false)
    (hidle : p.idle.lookup destination = some session) :
    p.lease connect destination = pure (.ok (session, p.takeOut destination)) := by
  rw [lease, h, hidle]
  rfl

theorem lookup_idle_eq_none_iff :
    p.idle.lookup destination = none ↔ destination ∉ p.destinations := by
  rw [List.lookup_eq_none_iff]
  constructor
  · intro h hmem
    obtain ⟨entry, hentry, rfl⟩ := List.mem_map.mp hmem
    exact absurd (h entry hentry) (by simp)
  · intro h entry hentry
    rw [bne_iff_ne]
    rintro rfl
    exact h (List.mem_map_of_mem hentry)

/-- Without an idle session nothing is taken out. -/
theorem takeOut_of_lookup_none (hidle : p.idle.lookup destination = none) :
    p.takeOut destination = { p with leased := destination :: p.leased } := by
  have hkeep : p.idle.filter (fun entry => entry.1 != destination) = p.idle := by
    refine List.filter_eq_self.mpr fun entry hentry => ?_
    have hne := List.lookup_eq_none_iff.mp hidle entry hentry
    rwa [bne_comm]
  rw [takeOut, hkeep]

theorem lease_of_lookup_none (h : p.isLeased destination = false)
    (hidle : p.idle.lookup destination = none) :
    p.lease connect destination = connect >>= fun
      | .ok session => pure (.ok (session, p.takeOut destination))
      | .error fault => pure (.error (.notConnected fault)) := by
  rw [lease, h, hidle, takeOut_of_lookup_none hidle]
  refine congrArg (connect >>= ·) (funext fun answer => ?_)
  cases answer <;> rfl

end

/-- The session that a lease takes out is the only one of its destination. -/
theorem perm_idle_of_lookup (hnodup : p.destinations.Nodup)
    (hidle : p.idle.lookup destination = some session) :
    p.idle.Perm ((destination, session) :: (p.takeOut destination).idle) := by
  obtain ⟨before, behind, hsplit, -⟩ := List.lookup_eq_some_iff.mp hidle
  have hperm : p.idle.Perm ((destination, session) :: (before ++ behind)) :=
    hsplit ▸ List.perm_middle
  exact hperm.trans ((perm_filter_bne Prod.fst hperm hnodup).symm.cons _)

/-! ## Handing a session back -/

theorem put_of_notMem (session : ς) {idle : List (String × ς)}
    (h : destination ∉ idle.map Prod.fst) :
    put destination session idle = idle ++ [(destination, session)] := by
  induction idle with
  | nil => rfl
  | cons entry idle ih =>
    rw [List.map_cons, List.mem_cons, not_or] at h
    rw [put, if_neg (Ne.symm h.1), ih h.2, List.cons_append]

/-! ## Proper pools -/

namespace Proper

theorem empty : ({} : Pool ς).Proper := ⟨List.nodup_nil, List.nodup_nil, by simp⟩

theorem takeOut (h : p.Proper) (hleased : p.isLeased destination = false) :
    (p.takeOut destination).Proper where
  idle_nodup := (List.filter_sublist.map Prod.fst).nodup h.idle_nodup
  leased_nodup := List.nodup_cons.mpr ⟨isLeased_eq_false_iff.mp hleased, h.leased_nodup⟩
  apart := by
    refine List.forall_mem_cons.mpr ⟨?_, fun other hother hidle => ?_⟩
    · simp [Pool.takeOut, destinations]
    · exact h.apart other hother ((List.filter_sublist.map Prod.fst).subset hidle)

theorem forget (h : p.Proper) (destination : String) : (p.forget destination).Proper where
  idle_nodup := h.idle_nodup
  leased_nodup := h.leased_nodup.filter _
  apart other hother := h.apart other (List.mem_of_mem_filter hother)

/-- While a destination is leased it has no idle session that the one handed back could
replace. -/
theorem idle_giveBack (h : p.Proper) (hleased : destination ∈ p.leased) (session : ς) :
    (p.giveBack destination session).idle = p.idle ++ [(destination, session)] :=
  put_of_notMem session (h.apart destination hleased)

theorem giveBack (h : p.Proper) (hleased : destination ∈ p.leased) (session : ς) :
    (p.giveBack destination session).Proper := by
  have hdestinations : (p.giveBack destination session).destinations =
      p.destinations ++ [destination] := by
    rw [destinations, h.idle_giveBack hleased, List.map_append]
    rfl
  refine ⟨?_, h.leased_nodup.filter _, fun other hother hidle => ?_⟩
  · rw [hdestinations, ← List.concat_eq_append]
    exact h.idle_nodup.concat (h.apart destination hleased)
  · obtain ⟨hother, hne⟩ : other ∈ p.leased ∧ other ≠ destination := by
      simpa [Pool.giveBack, Pool.forget] using hother
    rw [hdestinations, List.mem_append, List.mem_singleton] at hidle
    rcases hidle with hidle | rfl
    · exact h.apart other hother hidle
    · exact hne rfl

theorem drain (h : p.Proper) : p.drain.2.Proper where
  idle_nodup := List.nodup_nil
  leased_nodup := h.leased_nodup
  apart _ _ := List.not_mem_nil

end Proper

end Pool

end Foldbook
