import Foldbook.Proofs.Remote.Traffic
import Foldbook.Text.Shell

/-!
# Command lines for a remote shell

A remote command goes out as one line, which the shell of the host takes
apart again.

* `scan_quote`: an argument is read as one word, whatever stands behind it.
  It rests on `scan_safe` for arguments without quotes and on
  `scan_quoteBody` for those with quotes.
* `outside` lists the characters of a line that stand outside of quotes.
  `of_mem_outside_commandChars` says which ones a command line has there,
  and `count_outside_commandChars` how many spaces.
* `command_arrives` says both of the line that a connection sends.
-/

namespace Foldbook

namespace Text.Shell

/-! ## Safe characters -/

theorem isSafe_of_isMeta {c : Char} (h : isMeta c = true) : isSafe c = false := by
  have hall : ("|&;<>()$\x60\\\"'*?[]#~!\x7b\x7d\n\t ".toList.all fun c => !isSafe c) = true := by
    decide +kernel
  have hunsafe := List.all_eq_true.mp hall c (List.contains_iff_mem.mp h)
  rwa [Bool.not_eq_true'] at hunsafe

theorem isMeta_of_isSafe {c : Char} (h : isSafe c = true) : isMeta c = false := by
  rw [Bool.eq_false_iff]
  intro hmeta
  exact absurd h (by simp [isSafe_of_isMeta hmeta])

/-- A safe character is none that the reader of a command line looks for. -/
theorem ne_of_isSafe {c d : Char} (hc : isSafe c = true) (hd : isMeta d = true) : c ≠ d := by
  rintro rfl
  exact absurd hd (by simp [isMeta_of_isSafe hc])

/-! ## Reading an argument -/

theorem scan_safe {cs : List Char} (h : ∀ c ∈ cs, isSafe c = true) (word rest : List Char) :
    scan .plain word (cs ++ rest) = scan .plain (cs.reverse ++ word) rest := by
  induction cs generalizing word with
  | nil => rfl
  | cons c cs ih =>
      obtain ⟨hc, hcs⟩ := List.forall_mem_cons.mp h
      rw [List.cons_append, scan, if_neg (ne_of_isSafe hc (by decide)),
        if_neg (ne_of_isSafe hc (by decide)), if_neg (ne_of_isSafe hc (by decide)),
        if_neg (by simp [isMeta_of_isSafe hc]), ih hcs, List.reverse_cons, List.append_assoc,
        List.singleton_append]

/-- Between single quotes every character stands for itself.  A single quote is left for a moment
and comes between double quotes. -/
theorem scan_quoteBody (cs word rest : List Char) :
    scan .single word (quoteBody cs ++ '\'' :: rest) = scan .plain (cs.reverse ++ word) rest := by
  induction cs generalizing word with
  | nil => simp [quoteBody, scan]
  | cons c cs ih =>
      rw [List.reverse_cons, List.append_assoc, List.singleton_append, ← ih]
      by_cases hc : c = '\''
      · subst hc
        simp [quoteBody, scan, isDoubleMeta]
      · simp [quoteBody, scan, hc]

/-- In front of a word its first character is read as inside of it. -/
theorem scan_between_cons {c : Char} (h : c ≠ ' ') (cs : List Char) :
    scan .between [] (c :: cs) = scan .plain [] (c :: cs) := by
  rw [scan, scan, if_neg h, if_neg h]

theorem scan_quote (arg rest : List Char) :
    scan .between [] (quote arg ++ rest) = scan .plain arg.reverse rest := by
  unfold quote
  split
  · rename_i hempty
    simp [List.isEmpty_iff.mp hempty, scan]
  · split
    · rename_i hempty hsafe
      rw [List.all_eq_true] at hsafe
      cases arg with
      | nil => exact absurd rfl hempty
      | cons c cs =>
          have hc : c ≠ ' ' := ne_of_isSafe (hsafe c List.mem_cons_self) (by decide)
          rw [List.cons_append, scan_between_cons hc, ← List.cons_append, scan_safe hsafe,
            List.append_nil]
    · have hscan := scan_quoteBody arg [] rest
      simpa [scan] using hscan

/-- A command line is read as its arguments. -/
theorem scan_commandChars (args : List (List Char)) :
    scan .between [] (commandChars args) = some args := by
  fun_induction commandChars args with
  | case1 => rfl
  | case2 arg =>
      have hscan := scan_quote arg []
      rw [List.append_nil] at hscan
      rw [hscan, scan, List.reverse_reverse]
  | case3 arg rest hrest ih =>
      rw [scan_quote, scan, if_pos rfl, ih, List.reverse_reverse]
      rfl

theorem words?_command (args : List String) : words? (command args) = some args := by
  rw [words?, command, String.toList_ofList, scan_commandChars, Option.map_some, List.map_map]
  simp [Function.comp_def]

example : command ["curl", "it's $HOME", ""] = "curl 'it'\"'\"'s $HOME' ''" := by decide +kernel

/-! ## Outside of quotes -/

/-- The characters outside of quotes, those between words too. -/
def outside : Mode → List Char → List Char
  | _, [] => []
  | .single, c :: cs => if c = '\'' then outside .plain cs else outside .single cs
  | .double, c :: cs => if c = '"' then outside .plain cs else outside .double cs
  | .between, c :: cs | .plain, c :: cs =>
    if c = '\'' then outside .single cs
    else if c = '"' then outside .double cs
    else c :: outside .plain cs

theorem outside_between (cs : List Char) : outside .between cs = outside .plain cs := by
  cases cs <;> rfl

theorem outside_safe {cs : List Char} (h : ∀ c ∈ cs, isSafe c = true) (rest : List Char) :
    outside .plain (cs ++ rest) = cs ++ outside .plain rest := by
  induction cs with
  | nil => rfl
  | cons c cs ih =>
      obtain ⟨hc, hcs⟩ := List.forall_mem_cons.mp h
      rw [List.cons_append, outside, if_neg (ne_of_isSafe hc (by decide)),
        if_neg (ne_of_isSafe hc (by decide)), ih hcs, List.cons_append]

theorem outside_quoteBody (cs rest : List Char) :
    outside .single (quoteBody cs ++ '\'' :: rest) = outside .plain rest := by
  induction cs with
  | nil => simp [quoteBody, outside]
  | cons c cs ih =>
      rw [← ih]
      by_cases hc : c = '\''
      · subst hc
        simp [quoteBody, outside]
      · simp [quoteBody, outside, hc]

/-- What an argument has outside of quotes: nothing, or all of it. -/
def bare (arg : List Char) : List Char := if arg.all isSafe then arg else []

theorem outside_quote (arg rest : List Char) :
    outside .plain (quote arg ++ rest) = bare arg ++ outside .plain rest := by
  unfold quote bare
  split
  · rename_i hempty
    simp [List.isEmpty_iff.mp hempty, outside]
  · split
    · rename_i hsafe
      exact outside_safe (List.all_eq_true.mp hsafe) rest
    · have houtside := outside_quoteBody arg rest
      simpa [outside] using houtside

theorem outside_quote_last (arg : List Char) : outside .plain (quote arg) = bare arg := by
  have houtside := outside_quote arg []
  rwa [outside, List.append_nil, List.append_nil] at houtside

theorem isSafe_of_mem_bare {arg : List Char} {c : Char} (h : c ∈ bare arg) : isSafe c = true := by
  unfold bare at h
  split at h
  · rename_i hsafe
    exact List.all_eq_true.mp hsafe c h
  · exact absurd h List.not_mem_nil

theorem count_space_bare (arg : List Char) : (bare arg).count ' ' = 0 :=
  List.count_eq_zero_of_not_mem fun h => absurd (isSafe_of_mem_bare h) (by decide)

/-- Outside of quotes there is nothing but safe characters and spaces. -/
theorem of_mem_outside_commandChars (args : List (List Char)) :
    ∀ c ∈ outside .plain (commandChars args), c = ' ' ∨ isSafe c = true := by
  fun_induction commandChars args with
  | case1 => exact fun c hc => absurd hc List.not_mem_nil
  | case2 arg =>
      rw [outside_quote_last]
      exact fun c hc => .inr (isSafe_of_mem_bare hc)
  | case3 arg rest hrest ih =>
      intro c hc
      rw [outside_quote, outside, if_neg (by decide), if_neg (by decide), List.mem_append,
        List.mem_cons] at hc
      rcases hc with hc | rfl | hc
      · exact .inr (isSafe_of_mem_bare hc)
      · exact .inl rfl
      · exact ih c hc

/-- There is one space outside of quotes between two arguments. -/
theorem count_outside_commandChars (args : List (List Char)) :
    (outside .plain (commandChars args)).count ' ' = args.length - 1 := by
  fun_induction commandChars args with
  | case1 => rfl
  | case2 arg =>
      rw [outside_quote_last, count_space_bare]
      rfl
  | case3 arg rest hrest ih =>
      have hlength : 0 < rest.length := List.length_pos_iff.mpr hrest
      rw [outside_quote, outside, if_neg (by decide), if_neg (by decide), List.count_append,
        count_space_bare, List.count_cons_self, ih, List.length_cons]
      omega

end Text.Shell

open Text

/-- A command goes out over an open connection as one line, over a closed one not at all.  The shell
of the host takes the line apart into the program and its arguments, whatever characters they are
made of.  Outside of quotes the line has only safe characters and one space in front of each
argument. -/
theorem Connection.command_arrives (c : Connection) (program : String) (args : List String)
    (r : Runner) :
    ∃ line : String,
      ((c.command program args).Ends r fun _ behind =>
        behind.started =
          (if c.directory ∈ r.directories.map ControlDirectory.name then
            [[c.program, "-S", c.socket, c.target.destination, line]] else []) ++ r.started) ∧
      Shell.words? line = some (program :: args) ∧
      (∀ ch ∈ Shell.outside .between line.toList, ch = ' ' ∨ Shell.isSafe ch = true) ∧
      (Shell.outside .between line.toList).count ' ' = args.length := by
  refine ⟨Shell.command (program :: args), ?_, Shell.words?_command _, ?_, ?_⟩
  · refine (run_ends c _).mono fun answer behind hruns => ?_
    change behind.traffic.started = _
    generalize behind.traffic = t at hruns ⊢
    cases hruns with
    | closed f hclosed => exact (if_neg hclosed).symm ▸ rfl
    | done a hopen => exact (if_pos hopen).symm ▸ rfl
    | failed stop hopen stops => exact (if_pos hopen).symm ▸ rfl
  · rw [Shell.command, String.toList_ofList, Shell.outside_between]
    exact Shell.of_mem_outside_commandChars _
  · rw [Shell.command, String.toList_ofList, Shell.outside_between,
      Shell.count_outside_commandChars, List.length_map]
    rfl

end Foldbook
