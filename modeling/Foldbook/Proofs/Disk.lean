import Foldbook.Disk
import Mathlib.Tactic.SplitIfs

/-!
# Writing files

`Disk.Writes` lists what writing a file can end with, and `writes_of_write`
says that it is one of these.

A write that fails may have opened the file before (`CutsShort`).  Then the
file has a beginning of the octets, and what it had is gone.
`files_ne_iff_of_writes` says when a write that fails has changed a file, and
`read?_of_cutsShort` what the file is left with.
-/

namespace Foldbook.Disk

variable {d d' : Disk} {path : String} {octets : List UInt8} {files : List (String × List UInt8)}

/-! ## One file -/

/-- A file is left as it is by its own octets only. -/
theorem put_eq_self_iff : put path octets files = files ↔ files.lookup path = some octets := by
  induction files with
  | nil => simp [put]
  | cons file files ih =>
      obtain ⟨p, o⟩ := file
      by_cases h : p = path
      · simp [put, h, eq_comm]
      · have hne : (path == p) = false := by simpa using fun e : path = p => h e.symm
        simp [put, h, List.lookup_cons, hne, ih]

theorem namesDirectory_of_misplaced? (h : d.misplaced? path = none) :
    namesDirectory path = false := by
  simp only [misplaced?] at h
  split_ifs at h with _ _ _ _ hdirectory
  simpa using hdirectory

theorem read?_holding (h : namesDirectory path = false) :
    (d.holding path octets).read? path = some octets := by
  rw [read?, h, if_neg Bool.false_ne_true]
  exact lookup_put _ _ _

theorem files_holding_eq_iff (h : namesDirectory path = false) :
    (d.holding path octets).files = d.files ↔ d.read? path = some octets := by
  rw [read?, h, if_neg Bool.false_ne_true]
  exact put_eq_self_iff

/-! ## One write -/

/-- What a write ends with: the file has the octets, or there can be no file in this place, or the
file cannot be opened, or it has been opened and has only the first ones of the octets. -/
inductive Writes (d : Disk) (path : String) (octets : List UInt8) :
    Except WriteFault Unit → Disk → Prop where
  | whole (place : d.misplaced? path = none) (mishap : d.mishap? = none) :
    Writes d path octets (.ok ()) (d.passed.holding path octets)
  | misplaced (fault : WriteFault) (place : d.misplaced? path = some fault) :
    Writes d path octets (.error fault) d.passed
  | refused (reason : String) (place : d.misplaced? path = none)
      (mishap : d.mishap? = some (.refused reason)) :
    Writes d path octets (.error (.refused reason)) d.passed
  | cutShort (kept : Nat) (reason : String) (place : d.misplaced? path = none)
      (mishap : d.mishap? = some (.cutShort kept reason)) :
    Writes d path octets (.error (.cutShort reason)) (d.passed.holding path (octets.take kept))

theorem writes_of_write {outcome : Except WriteFault Unit}
    (h : d.write path octets = (outcome, d')) : d.Writes path octets outcome d' := by
  unfold write at h
  split at h
  · rename_i fault hplace
    cases h
    exact .misplaced fault hplace
  · rename_i hplace
    split at h
    · rename_i hmishap
      cases h
      exact .whole hplace hmishap
    · rename_i reason hmishap
      cases h
      exact .refused reason hplace hmishap
    · rename_i kept reason hmishap
      cases h
      exact .cutShort kept reason hplace hmishap

/-- The file can be opened, but the next write is broken off when it has so many octets. -/
structure CutsShort (d : Disk) (path : String) (kept : Nat) : Prop where
  place : d.misplaced? path = none
  mishap : ∃ reason, d.mishap? = some (.cutShort kept reason)

/-- A file that was written holds what was written. -/
theorem read?_of_writes (h : d.Writes path octets (.ok ()) d') : d'.read? path = some octets := by
  cases h with
  | whole place mishap => exact read?_holding (namesDirectory_of_misplaced? place)

theorem read?_of_cutsShort {fault : WriteFault} {kept : Nat} (hcut : d.CutsShort path kept)
    (h : d.Writes path octets (.error fault) d') :
    d'.read? path = some (octets.take kept) := by
  obtain ⟨hplace, reason, hmishap⟩ := hcut
  cases h with
  | misplaced _ place => cases place.symm.trans hplace
  | refused _ _ mishap => cases mishap.symm.trans hmishap
  | cutShort _ _ _ mishap =>
      cases mishap.symm.trans hmishap
      exact read?_holding (namesDirectory_of_misplaced? hplace)

/-- A write that fails changes a file exactly if it is broken off, unless the file had just what is
left of the octets. -/
theorem files_ne_iff_of_writes {fault : WriteFault} (h : d.Writes path octets (.error fault) d') :
    d'.files ≠ d.files ↔ ∃ kept, d.CutsShort path kept ∧ d.read? path ≠ some (octets.take kept) := by
  have hsame (hnone : ∀ kept reason, d.misplaced? path = none →
      d.mishap? ≠ some (.cutShort kept reason)) :
      d.passed.files ≠ d.files ↔
        ∃ kept, d.CutsShort path kept ∧ d.read? path ≠ some (octets.take kept) := by
    refine ⟨fun hne => absurd rfl hne, ?_⟩
    rintro ⟨kept, ⟨hplace, reason, hmishap⟩, -⟩
    exact absurd hmishap (hnone kept reason hplace)
  cases h with
  | misplaced _ place =>
      refine hsame fun kept reason hplace => ?_
      cases place.symm.trans hplace
  | refused _ _ mishap =>
      refine hsame fun kept reason _ hmishap => ?_
      cases mishap.symm.trans hmishap
  | cutShort kept reason place mishap =>
      have hnames := namesDirectory_of_misplaced? place
      have hiff : (d.passed.holding path (octets.take kept)).files = d.files ↔
          d.read? path = some (octets.take kept) := files_holding_eq_iff hnames
      constructor
      · intro hne
        exact ⟨kept, ⟨place, reason, mishap⟩, fun hread => hne (hiff.mpr hread)⟩
      · rintro ⟨_, ⟨-, _, hmishap⟩, hread⟩ hfiles
        cases mishap.symm.trans hmishap
        exact hread (hiff.mp hfiles)

end Foldbook.Disk
