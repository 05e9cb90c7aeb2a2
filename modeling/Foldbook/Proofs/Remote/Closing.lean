import Foldbook.Proofs.Remote.Route

/-!
# Closing a pool

A pool is emptied first, and then its sessions are closed one after the other.
Each is asked to exit, and where starting the program for that breaks, the
sessions behind it are not reached any more.

* `Runner.Homed` is what closing relies on: every idle session is open, in a
  directory of its own.  So it is between any two commands (`Ready.homed`).
* `SessionsClosed` says what closing some sessions changes, and `Halted` where it
  comes to an end.
* `closeAll_poolClosed`: every session is closed exactly if nothing breaks
  in front of the last one.
-/

namespace Foldbook

/-- Starting the program breaks. -/
def Conduct.Breaks (conduct : Conduct) : Prop := ∃ message, conduct = .breaks message

/-- Every idle session is open, in a directory of its own. -/
structure Runner.Homed (r : Runner) : Prop where
  opened : ∀ c ∈ r.pool.sessions, c.directory ∈ r.traffic.directories
  own : (r.pool.sessions.map Connection.directory).Nodup

theorem Ready.homed {r : Runner} (h : Ready r.traffic) : r.Homed := by
  obtain ⟨-, spare, hhoused⟩ := h
  have hnodup := hhoused.directories.nodup_iff.mp hhoused.distinct
  exact ⟨fun c hc => hhoused.mem hc, (List.nodup_append.mp hnodup).1⟩

/-! ## Closing some sessions -/

/-- What closing some sessions changes: each is asked to exit, in order, and loses its directory. -/
structure SessionsClosed (closed : List Connection) (t t' : Traffic) : Prop where
  pool : t'.pool = t.pool
  started : t'.started = (closed.map Connection.exitWords).reverse ++ t.started
  directories : t'.directories =
    t.directories.filter fun name => name ∉ closed.map Connection.directory

theorem SessionsClosed.nil (t : Traffic) : SessionsClosed [] t t where
  pool := rfl
  started := rfl
  directories := by simp

theorem SessionsClosed.cons {c : Connection} {closed : List Connection} {t t' : Traffic}
    (h : SessionsClosed closed ((t.starting c.exitWords).removing c.directory) t') :
    SessionsClosed (c :: closed) t t' where
  pool := h.pool
  started := by
    rw [h.started, List.map_cons, List.reverse_cons, List.append_assoc]
    rfl
  directories := by
    rw [h.directories]
    exact filter_bne_filter_notMem t.directories c.directory (closed.map Connection.directory)

/-- Where closing sessions in order comes to an end, by the conduct of the programs that are
started for it: behind the last one, or behind the first one for which a program breaks. -/
inductive Halted (r : Runner) : List Connection → List Connection → Except Stop Unit → Prop where
  | finished {closed : List Connection} (quiet : ∀ i < closed.length, ¬(r.conductAt i).Breaks) :
    Halted r closed [] (.ok ())
  | broken {front left : List Connection} (c : Connection) (message : String)
      (quiet : ∀ i < front.length, ¬(r.conductAt i).Breaks)
      (breaks : r.conductAt front.length = .breaks message) :
    Halted r (front ++ [c]) left (.error (.broken message))

namespace Halted

variable {r r' : Runner} {closed left : List Connection} {answer : Except Stop Unit}

/-- One more session in front, for which nothing breaks. -/
theorem cons (h : Halted r' closed left answer) (c : Connection)
    (hquiet : ¬(r.conductAt 0).Breaks)
    (hconduct : ∀ i, r'.conductAt i = r.conductAt (i + 1)) :
    Halted r (c :: closed) left answer := by
  have hlater : ∀ n, (∀ i < n, ¬(r'.conductAt i).Breaks) →
      ∀ i < n + 1, ¬(r.conductAt i).Breaks := by
    intro n hn i hi
    cases i with
    | zero => exact hquiet
    | succ i =>
      rw [← hconduct i]
      exact hn i (by omega)
  cases h with
  | finished quiet => exact .finished (hlater _ quiet)
  | @broken front left last message quiet breaks =>
    show Halted r ((c :: front) ++ [last]) left (.error (.broken message))
    exact .broken last message (hlater _ quiet) ((hconduct front.length).symm.trans breaks)

/-- All sessions are reached if no program breaks in front of the last one. -/
theorem left_eq_nil_iff (h : Halted r closed left answer) :
    left = [] ↔ ∀ i, i + 1 < (closed ++ left).length → ¬(r.conductAt i).Breaks := by
  cases h with
  | finished quiet =>
    simp only [List.append_nil, true_iff]
    intro i hi
    exact quiet i (by omega)
  | @broken front left last message quiet breaks =>
    constructor
    · rintro rfl i hi
      simp only [List.append_nil, List.length_append, List.length_singleton] at hi
      exact quiet i (by omega)
    · intro hnone
      by_contra hne
      have hpos : 0 < left.length := List.length_pos_iff.mpr hne
      refine hnone front.length ?_ ⟨message, breaks⟩
      simp only [List.length_append, List.length_singleton]
      omega

theorem eq_ok_iff (h : Halted r closed left answer) :
    answer = .ok () ↔ ∀ i < (closed ++ left).length, ¬(r.conductAt i).Breaks := by
  cases h with
  | finished quiet => simpa using quiet
  | @broken front left last message quiet breaks =>
    simp only [reduceCtorEq, false_iff]
    intro hnone
    refine hnone front.length ?_ ⟨message, breaks⟩
    simp only [List.length_append, List.length_singleton]
    omega

end Halted

/-- The programs that are left behind the first one. -/
theorem Runner.conductAt_of_tail {r r' : Runner} (hprograms : r'.programs = r.programs.tail)
    (hotherwise : r'.otherwise = r.otherwise) (i : Nat) :
    r'.conductAt i = r.conductAt (i + 1) := by
  rw [conductAt, conductAt, hprograms, hotherwise, List.drop_tail]

/-! ## Closing one session -/

namespace Connection

variable {r : Runner} {c : Connection}

/-- The request to exit breaks.  The directory is removed all the same. -/
theorem close_ends_of_breaks (hopen : c.directory ∈ r.traffic.directories) {message : String}
    (hbreaks : r.conductAt 0 = .breaks message) :
    c.close.Ends r fun answer behind => answer = .error (.broken message) ∧
      behind.traffic = (r.traffic.starting c.exitWords).removing c.directory := by
  have hstart : ∀ words : List String, (Act.start c.program words).perform r =
      (.error (.broken message),
        { r with programs := r.programs.tail, started := (c.program :: words) :: r.started }) := by
    intro words
    have hconduct : r.programs.headD r.otherwise = .breaks message := hbreaks
    simp only [Act.start, Act.perform_bind, Act.perform_get, Act.perform_set, hconduct]
    rfl
  refine (isOpen_ends c).bind ?_ fun stop behind h => absurd h.1 (by simp)
  rintro opened r₁ ⟨hopened, rfl⟩
  obtain rfl := Except.ok.inj hopened
  simp only [hopen, decide_true, Bool.not_true, Bool.false_eq_true, if_false, Act.ends_bind,
    Act.ends_tryCatch, Act.ends_map]
  rw [Act.Ends, hstart]
  simp only [removeDirectory, Act.ends_modify, Act.ends_throw, true_and]
  exact traffic_removing (r := { r₁ with
    programs := r₁.programs.tail
    started := c.exitWords :: r₁.started }) c.directory

/-- Any other outcome of the request closes the session. -/
theorem close_ends_of_not_breaks (hopen : c.directory ∈ r.traffic.directories)
    (hquiet : ¬(r.conductAt 0).Breaks) :
    c.close.Ends r fun answer behind => answer = .ok () ∧
      behind.traffic = (r.traffic.starting c.exitWords).removing c.directory := by
  refine c.close_ends.mono fun answer behind hcloses => ?_
  generalize behind.traffic = t at hcloses
  cases hcloses with
  | already hclosed => exact absurd hopen hclosed
  | asked _ => exact ⟨rfl, rfl⟩
  | broken message _ breaks => exact absurd ⟨message, breaks⟩ hquiet

end Connection

/-! ## Closing all sessions -/

namespace Act

/-- Sessions that are open, each in its own directory, are closed in order up to the first for which
a program breaks. -/
theorem closeEach_halts (sessions : List Connection) {r : Runner}
    (hopen : ∀ c ∈ sessions, c.directory ∈ r.traffic.directories)
    (hown : (sessions.map Connection.directory).Nodup) :
    (closeEach sessions).Ends r fun answer behind =>
      ∃ closed left, sessions = closed ++ left ∧ SessionsClosed closed r.traffic behind.traffic ∧
        Halted r closed left answer := by
  induction sessions generalizing r with
  | nil => exact ⟨[], [], rfl, .nil _, .finished fun i hi => absurd hi (Nat.not_lt_zero i)⟩
  | cons c sessions ih =>
    obtain ⟨hc, hmore⟩ := List.forall_mem_cons.mp hopen
    rw [List.map_cons, List.nodup_cons] at hown
    rw [closeEach]
    by_cases hbreaks : (r.conductAt 0).Breaks
    · obtain ⟨message, hbreaks⟩ := hbreaks
      refine (Connection.close_ends_of_breaks hc hbreaks).bind
        (fun _ _ h => absurd h.1 (by simp)) fun stop r₁ h => ?_
      obtain ⟨hstop, hbehind⟩ := h
      rw [hstop]
      refine ⟨[c], sessions, rfl, .cons (hbehind ▸ .nil _), ?_⟩
      show Halted r ([] ++ [c]) sessions (.error (.broken message))
      exact .broken c message (fun i hi => absurd hi (Nat.not_lt_zero i)) hbreaks
    · refine (Connection.close_ends_of_not_breaks hc hbreaks).bind (fun _ r₁ h => ?_)
        fun stop _ h => absurd h.1 (by simp)
      obtain ⟨-, hbehind⟩ := h
      -- a session that is left has another directory than the one that is removed
      have hleft : ∀ d ∈ sessions, d.directory ∈ r₁.traffic.directories := by
        intro d hd
        rw [hbehind]
        refine List.mem_filter.mpr ⟨hmore d hd, bne_iff_ne.mpr fun hsame => ?_⟩
        exact hown.1 (hsame ▸ List.mem_map_of_mem hd)
      refine (ih hleft hown.2).mono fun answer r₂ hrest => ?_
      obtain ⟨closed, left, hsessions, hclosed, hhalted⟩ := hrest
      refine ⟨c :: closed, left, congrArg (c :: ·) hsessions, .cons (hbehind ▸ hclosed), ?_⟩
      exact hhalted.cons c hbreaks (Runner.conductAt_of_tail
        (congrArg Traffic.programs hbehind) (congrArg Traffic.otherwise hbehind))

/-- How a pool is closed: the sessions `closed` are asked to exit, each once, and lose their
directories, and the sessions `left` are in no pool any more. -/
structure PoolClosed (r : Runner) (closed left : List Connection) (answer : Except Stop Unit)
    (behind : Runner) : Prop where
  sessions : r.pool.sessions = closed ++ left
  emptied : behind.pool.idle = []
  asked : behind.started = (closed.map Connection.exitWords).reverse ++ r.started
  removed : ∀ c ∈ closed, c.directory ∉ behind.traffic.directories
  kept : ∀ c ∈ left, c.directory ∈ behind.traffic.directories
  /-- Every session is reached exactly if nothing breaks in front of the last one. -/
  left_eq_nil_iff : left = [] ↔ ∀ i, i + 1 < r.pool.size → ¬(r.conductAt i).Breaks
  eq_ok_iff : answer = .ok () ↔ ∀ i < r.pool.size, ¬(r.conductAt i).Breaks

/-- Closing the pool closes its sessions in order.  If the program that is started for a session
breaks, that session is closed too, but those behind it are not: they are asked nothing, keep their
directories, and cannot be reached any more. -/
theorem closeAll_poolClosed {r : Runner} (h : r.Homed) :
    closeAll.Ends r fun answer behind =>
      ∃ closed left, PoolClosed r closed left answer behind := by
  simp only [closeAll, ends_bind, ends_get, ends_modify]
  refine (closeEach_halts r.pool.sessions (r := { r with pool := r.pool.drain.2 }) h.opened
    h.own).mono fun answer behind hends => ?_
  obtain ⟨closed, left, hsessions, hclosed, hhalted⟩ := hends
  have hsize : r.pool.size = (closed ++ left).length := by
    rw [← hsessions, Pool.sessions, List.length_map]
    rfl
  have hown := h.own
  rw [hsessions, List.map_append, List.nodup_append] at hown
  have hdirectory : ∀ c : Connection, c.directory ∈ behind.traffic.directories ↔
      c.directory ∈ r.traffic.directories ∧ c.directory ∉ closed.map Connection.directory := by
    intro c
    rw [hclosed.directories, List.mem_filter, decide_eq_true_iff]
    exact Iff.rfl
  refine ⟨closed, left, hsessions, congrArg Pool.idle hclosed.pool, hclosed.started, ?_, ?_, ?_, ?_⟩
  · intro c hc hkept
    exact ((hdirectory c).mp hkept).2 (List.mem_map_of_mem hc)
  · intro c hc
    have hmem : c ∈ r.pool.sessions := hsessions ▸ List.mem_append_right closed hc
    refine (hdirectory c).mpr ⟨h.opened c hmem, fun hother => ?_⟩
    exact hown.2.2 _ hother _ (List.mem_map_of_mem hc) rfl
  · rw [hsize]
    exact hhalted.left_eq_nil_iff
  · rw [hsize]
    exact hhalted.eq_ok_iff

end Act

/-- A runner that connects to two hosts, and breaks when it asks the first one to exit. -/
def twoHostRunner : Runner where
  store := { document := .obj [("sshTo", .str "a")], backend := .memory 0 }
  programs := [.quiet, .quiet, .quiet, .quiet, .breaks "crash"]

/-- A lookup on either host. -/
def twoHostErrands : List Errand :=
  [.lookup "$X", .assign "sshTo" (.str "b"), .lookup "$X"]

/-- The session to the second host is never closed. -/
theorem closeAll_poolClosed_twoHosts :
    (Errand.performAll twoHostErrands twoHostRunner).Homed ∧
      (Act.closeAll.Ends (Errand.performAll twoHostErrands twoHostRunner) fun answer behind =>
        ∃ closed left, Act.PoolClosed (Errand.performAll twoHostErrands twoHostRunner) closed left
          answer behind) ∧
      (Errand.performAll twoHostErrands twoHostRunner).pool.destinations = ["a", "b"] ∧
      (Act.closeAll.perform (Errand.performAll twoHostErrands twoHostRunner)).1 =
        .error (.broken "crash") ∧
      (Act.closeAll.perform (Errand.performAll twoHostErrands twoHostRunner)).2.directories =
        [{ name := "CTL2" }] := by
  have hnew : twoHostRunner.New := ⟨rfl, rfl, rfl, rfl⟩
  have hhomed := (Errand.performAll_ready hnew twoHostErrands).1.homed
  exact ⟨hhomed, Act.closeAll_poolClosed hhomed, by decide +kernel, by decide +kernel,
    by decide +kernel⟩

end Foldbook
