import Foldbook.Proofs.Acting
import Foldbook.Proofs.Remote.Contacts
import Foldbook.Proofs.Remote.Pool

/-!
# The traffic of connections

`Traffic` is what connections read and change of a runner.  For each function
that works on connections there is one inversion: it says what the function
can end with and which traffic it leaves.

* `Connection.Connects`: connecting makes a directory and starts a master.
* `Connection.run_ends`, `Connection.close_ends`: a command starts one
  program, and so does closing, which also removes the directory.
* `Visits` is all that a remote command can do, with the lease around it
  (`withSession_ends`).
-/

namespace Foldbook

/-- What connections read and change of a runner. -/
structure Traffic where
  client : String
  shell : String
  pool : Pool Connection
  programs : List Conduct
  otherwise : Conduct
  started : List (List String)
  /-- The names of the control directories. -/
  directories : List String
  directoriesMade : Nat
  store : Store

/-- The traffic of a runner. -/
def Runner.traffic (r : Runner) : Traffic where
  client := r.client
  shell := r.shell
  pool := r.pool
  programs := r.programs
  otherwise := r.otherwise
  started := r.started
  directories := r.directories.map ControlDirectory.name
  directoriesMade := r.directoriesMade
  store := r.store

namespace Traffic

/-- How the program behaves that is started next. -/
def conduct (t : Traffic) : Conduct := t.programs.headD t.otherwise

/-- The traffic behind the start of a program. -/
def starting (t : Traffic) (words : List String) : Traffic :=
  { t with programs := t.programs.tail, started := words :: t.started }

/-- The name of the directory that is made next. -/
def nextDirectory (t : Traffic) : String := s!"CTL{t.directoriesMade + 1}"

/-- The traffic behind the making of a directory. -/
def makingDirectory (t : Traffic) : Traffic :=
  { t with
    directories := t.directories ++ [t.nextDirectory]
    directoriesMade := t.directoriesMade + 1 }

/-- The traffic without a directory. -/
def removing (t : Traffic) (directory : String) : Traffic :=
  { t with directories := t.directories.filter (· != directory) }

end Traffic

/-- How an action can stop behind the start of a program: if the program breaks, with that, and
else with a failure. -/
def Conduct.Stops (conduct : Conduct) (stop : Stop) : Prop :=
  (∃ message, conduct = .breaks message ∧ stop = .broken message) ∨
    (∃ f, stop = .failure f)

/-- How a program that is started can answer, by its conduct. -/
inductive Starts (conduct : Conduct) : Except Stop (Except StartFault Finished) → Prop where
  | faulty (fault : StartFault) (fails : conduct.succeeds = false) :
    Starts conduct (.ok (.error fault))
  | finished (finished : Finished) (succeeds : conduct.succeeds = (finished.status == 0)) :
    Starts conduct (.ok (.ok finished))
  | broken (message : String) (breaks : conduct = .breaks message) :
    Starts conduct (.error (.broken message))

variable {r : Runner}

/-! ## Programs and directories -/

namespace Act

theorem writeLog_ends (path : String) (octets : List UInt8) :
    (writeLog path octets).Ends r fun answer behind =>
      answer = .ok () ∧ behind.traffic = r.traffic := by
  have hnames : (r.directories.map fun d =>
      if d.name ++ "/master.log" = path then { d with logged := some octets } else d).map
        ControlDirectory.name = r.directories.map ControlDirectory.name := by
    rw [List.map_map]
    refine List.map_congr_left fun d _ => ?_
    rw [Function.comp_apply]
    split <;> rfl
  exact ⟨rfl, congrArg (fun names => { r.traffic with directories := names }) hnames⟩

theorem start_ends (program : String) (args : List String) :
    (start program args).Ends r fun answer behind =>
      Starts r.traffic.conduct answer ∧ behind.traffic = r.traffic.starting (program :: args) := by
  have hconduct : r.programs.headD r.otherwise = r.traffic.conduct := rfl
  simp only [start, ends_bind, ends_get, ends_set, hconduct]
  cases r.traffic.conduct with
  | missing => exact ⟨.faulty _ rfl, rfl⟩
  | refused reason => exact ⟨.faulty _ rfl, rfl⟩
  | breaks message => exact ⟨.broken message rfl, rfl⟩
  | runs status output diagnostics logged =>
    have hfinished : Starts (.runs status output diagnostics logged)
        (.ok (.ok { status, output, diagnostics })) := .finished _ rfl
    dsimp only
    split
    · rw [ends_bind]
      refine (writeLog_ends _ _).mono fun answer behind hlog => ?_
      rw [hlog.1]
      exact ⟨hfinished, hlog.2⟩
    · exact ⟨hfinished, rfl⟩

end Act

namespace Connection

open Act

theorem makeDirectory_ends :
    makeDirectory.Ends r fun answer behind =>
      answer = .ok r.traffic.nextDirectory ∧ behind.traffic = r.traffic.makingDirectory := by
  simp only [makeDirectory, ends_bind, ends_get, ends_set, ends_pure]
  refine ⟨rfl, ?_⟩
  simp only [Runner.traffic, Traffic.makingDirectory, List.map_append]
  rfl

theorem traffic_removing (name : String) :
    ({ r with directories := r.directories.filter fun d => d.name != name } : Runner).traffic =
      r.traffic.removing name := by
  have hnames : (r.directories.filter fun d => d.name != name).map ControlDirectory.name =
      (r.directories.map ControlDirectory.name).filter (· != name) := by
    rw [List.filter_map]
    rfl
  exact congrArg (fun names => { r.traffic with directories := names }) hnames

/-- A directory is removed in front of what follows. -/
theorem removeDirectory_bind_ends {α : Type} (name : String) {next : Unit → Act α}
    {Q : Except Stop α → Runner → Prop}
    (h : ∀ behind, behind.traffic = r.traffic.removing name → (next ()).Ends behind Q) :
    (removeDirectory name >>= next).Ends r Q := by
  rw [removeDirectory, ends_bind, ends_modify]
  exact h _ (traffic_removing name)

theorem loggedText?_ends (name : String) :
    (loggedText? name).Ends r fun answer behind => (∃ logged, answer = .ok logged) ∧ behind = r :=
  ⟨⟨_, rfl⟩, rfl⟩

theorem isOpen_ends (c : Connection) :
    c.isOpen.Ends r fun answer behind =>
      answer = .ok (decide (c.directory ∈ r.traffic.directories)) ∧ behind = r := by
  simp only [isOpen, ends_bind, ends_get, ends_pure, and_true]
  refine congrArg Except.ok ?_
  rw [Bool.eq_iff_iff, List.any_eq_true, decide_eq_true_iff, Runner.traffic, List.mem_map]
  simp only [beq_iff_eq]

/-! ## Connecting -/

/-- The command line that starts the master of a connection. -/
def masterWords (c : Connection) (home : String) : List String :=
  c.program :: (["-E", c.directory ++ "/master.log", "-S", c.socket, "-M", "-f", "-N",
    "-o", "ControlPersist=yes", "-o", "BatchMode=yes"] ++ c.target.connectOptions home ++
      [c.target.destination])

/-- The command line of a command on the host. -/
def commandWords (c : Connection) (line : String) : List String :=
  [c.program, "-S", c.socket, c.target.destination, line]

/-- The command line that asks the master to exit. -/
def exitWords (c : Connection) : List String :=
  [c.program, "-S", c.socket, "-O", "exit", c.target.destination]

/-- What connecting to a host ends with. -/
inductive Connects (target : Target) (program : String) (t : Traffic) :
    Except Stop Connection → Traffic → Prop where
  | unexpanded (h : target.expands = false) :
    Connects target program t (.error nullName) t.makingDirectory
  | refused (home : String) (f : Failure) (fails : t.conduct.succeeds = false) :
    Connects target program t (.error (.failure f))
      ((t.makingDirectory.starting
        (masterWords ⟨target, program, t.nextDirectory⟩ home)).removing t.nextDirectory)
  | broken (home message : String) (breaks : t.conduct = .breaks message) :
    Connects target program t (.error (.broken message))
      (t.makingDirectory.starting (masterWords ⟨target, program, t.nextDirectory⟩ home))
  | connected (home : String) (succeeds : t.conduct.succeeds = true) :
    Connects target program t (.ok ⟨target, program, t.nextDirectory⟩)
      (t.makingDirectory.starting (masterWords ⟨target, program, t.nextDirectory⟩ home))

theorem connect_ends (target : Target) (program : String) :
    (connect target program).Ends r fun answer behind =>
      Connects target program r.traffic answer behind.traffic := by
  refine makeDirectory_ends.bind ?_ fun stop behind h => absurd h.1 (by simp)
  rintro directory r₁ ⟨hdirectory, hmade⟩
  obtain rfl : directory = r.traffic.nextDirectory := Except.ok.inj hdirectory
  have hconduct : r₁.traffic.conduct = r.traffic.conduct := by rw [hmade]; rfl
  dsimp only
  cases hexpands : target.expands with
  | false =>
    rw [Bool.not_false, if_pos rfl, ends_bind, ends_throw]
    dsimp only
    rw [hmade]
    exact .unexpanded hexpands
  | true =>
    rw [Bool.not_true, if_neg Bool.false_ne_true]
    simp only [home, ends_bind, ends_get, ends_pure, ends_note]
    generalize (List.lookup "HOME" r₁.environ).getD "" = home
    refine (start_ends program _).mono fun answer r₂ hstart => ?_
    obtain ⟨hstarts, hstarted⟩ := hstart
    change Starts r₁.traffic.conduct answer at hstarts
    rw [hconduct] at hstarts
    have hbehind : r₂.traffic = r.traffic.makingDirectory.starting
        (masterWords ⟨target, program, r.traffic.nextDirectory⟩ home) := by
      rw [← hmade]
      exact hstarted
    cases hstarts with
    | broken message breaks =>
      dsimp only
      rw [hbehind]
      exact .broken home message breaks
    | faulty fault fails =>
      refine removeDirectory_bind_ends _ fun r₃ hgone => ?_
      rw [ends_fail, hgone, hbehind]
      exact .refused home _ fails
    | finished finished succeeds =>
      dsimp only
      split
      · rename_i hstatus
        have hfails : r.traffic.conduct.succeeds = false := by
          rw [succeeds]
          exact beq_eq_false_iff_ne.mpr hstatus
        refine (loggedText?_ends _).bind (fun logged r₃ hlogged => ?_) fun stop r₃ hlogged => ?_
        · refine removeDirectory_bind_ends _ fun r₄ hgone => ?_
          rw [ends_fail, hgone, hlogged.2, hbehind]
          exact .refused home _ hfails
        · exact absurd hlogged.1 (by simp)
      · rename_i hstatus
        rw [ends_pure, hbehind]
        refine .connected home ?_
        rw [succeeds]
        exact beq_iff_eq.mpr (not_not.mp hstatus)

/-! ## Commands and closing -/

/-- What running a command line on the host ends with. -/
inductive Runs {α : Type} (c : Connection) (line : String) (t : Traffic) :
    Except Stop α → Traffic → Prop where
  | closed (f : Failure) (h : c.directory ∉ t.directories) : Runs c line t (.error (.failure f)) t
  | done (a : α) (h : c.directory ∈ t.directories) :
    Runs c line t (.ok a) (t.starting (c.commandWords line))
  | failed (stop : Stop) (h : c.directory ∈ t.directories) (stops : t.conduct.Stops stop) :
    Runs c line t (.error stop) (t.starting (c.commandWords line))

/-- What closing a connection ends with. -/
inductive Closes (c : Connection) (t : Traffic) : Except Stop Unit → Traffic → Prop where
  | already (h : c.directory ∉ t.directories) : Closes c t (.ok ()) t
  | asked (h : c.directory ∈ t.directories) :
    Closes c t (.ok ()) ((t.starting c.exitWords).removing c.directory)
  | broken (message : String) (h : c.directory ∈ t.directories)
      (breaks : t.conduct = .breaks message) :
    Closes c t (.error (.broken message)) ((t.starting c.exitWords).removing c.directory)

theorem run_ends (c : Connection) (line : String) :
    (c.run line).Ends r fun answer behind => Runs c line r.traffic answer behind.traffic := by
  refine (isOpen_ends c).bind ?_ fun stop behind h => absurd h.1 (by simp)
  rintro opened r₁ ⟨hopened, rfl⟩
  obtain rfl := Except.ok.inj hopened
  by_cases hopen : c.directory ∈ r₁.traffic.directories
  case neg =>
    simp only [hopen, decide_false, Bool.not_false, if_true, ends_fail]
    exact .closed _ hopen
  case pos =>
    simp only [hopen, decide_true, Bool.not_true, Bool.false_eq_true, if_false, ends_bind]
    refine (start_ends c.program _).mono fun answer r₂ hstart => ?_
    obtain ⟨hstarts, hstarted⟩ := hstart
    change r₂.traffic = r₁.traffic.starting (c.commandWords line) at hstarted
    cases hstarts with
    | broken message breaks =>
      dsimp only
      rw [hstarted]
      exact .failed _ hopen (.inl ⟨message, breaks, rfl⟩)
    | faulty fault fails =>
      dsimp only
      rw [ends_fail, hstarted]
      exact .failed _ hopen (.inr ⟨_, rfl⟩)
    | finished finished succeeds =>
      dsimp only
      split
      · rw [ends_fail, hstarted]
        exact .failed _ hopen (.inr ⟨_, rfl⟩)
      · rw [ends_pure, hstarted]
        exact .done _ hopen

theorem raw_ends (c : Connection) (line : String) :
    (c.raw line).Ends r fun answer behind => Runs c line r.traffic answer behind.traffic := by
  refine (run_ends c line).bind (fun a behind h => ?_) fun stop behind h => ?_
  · rw [ends_pure]
    generalize r.traffic = t, behind.traffic = t' at h ⊢
    cases h with
    | done a hopen => exact .done a.1 hopen
  · generalize r.traffic = t, behind.traffic = t' at h ⊢
    cases h with
    | closed f hclosed => exact .closed f hclosed
    | failed stop hopen stops => exact .failed stop hopen stops

theorem close_ends (c : Connection) :
    c.close.Ends r fun answer behind => Closes c r.traffic answer behind.traffic := by
  refine (isOpen_ends c).bind ?_ fun stop behind h => absurd h.1 (by simp)
  rintro opened r₁ ⟨hopened, rfl⟩
  obtain rfl := Except.ok.inj hopened
  by_cases hopen : c.directory ∈ r₁.traffic.directories
  case neg =>
    simp only [hopen, decide_false, Bool.not_false, if_true, ends_pure]
    exact .already hopen
  case pos =>
    simp only [hopen, decide_true, Bool.not_true, Bool.false_eq_true, if_false, ends_bind,
      ends_tryCatch, ends_map]
    refine (start_ends c.program _).mono fun answer r₂ hstart => ?_
    obtain ⟨hstarts, hstarted⟩ := hstart
    change r₂.traffic = r₁.traffic.starting c.exitWords at hstarted
    cases hstarts with
    | broken message breaks =>
      simp only [removeDirectory, ends_modify, ends_throw, traffic_removing, hstarted]
      exact .broken message hopen breaks
    | finished finished succeeds =>
      refine removeDirectory_bind_ends _ fun r₃ hgone => ?_
      rw [ends_note]
      change Closes c r₁.traffic (.ok ()) r₃.traffic
      rw [hgone, hstarted]
      exact .asked hopen
    | faulty fault fails =>
      dsimp only
      rw [ends_bind, ends_note]
      refine removeDirectory_bind_ends _ fun r₃ hgone => ?_
      rw [ends_note]
      change Closes c r₁.traffic (.ok ()) r₃.traffic
      change r₃.traffic = r₂.traffic.removing c.directory at hgone
      rw [hgone, hstarted]
      exact .asked hopen

end Connection

/-! ## Idle and leased connections -/

/-- Between two leases: nothing is leased, and every idle connection is the only one to its
destination. -/
structure Resting (pool : Pool Connection) : Prop where
  free : pool.leased = []
  keyed : ∀ entry ∈ pool.idle, entry.2.target.destination = entry.1
  nodup : pool.destinations.Nodup

/-- During a lease: one connection is leased, and no idle one is to its destination. -/
structure Lending (pool : Pool Connection) (destination : String) (c : Connection) : Prop where
  leased : pool.leased = [destination]
  keyed : ∀ entry ∈ pool.idle, entry.2.target.destination = entry.1
  nodup : pool.destinations.Nodup
  notMem : destination ∉ pool.destinations
  destination : c.target.destination = destination

section

variable {pool : Pool Connection} {destination : String} {c : Connection}

theorem Resting.of_lookup (h : Resting pool) (hidle : pool.idle.lookup destination = some c) :
    (destination, c) ∈ pool.idle ∧ c.target.destination = destination ∧
      pool.sessions.Perm (c :: (pool.takeOut destination).sessions) := by
  have hperm := Pool.perm_idle_of_lookup h.nodup hidle
  have hmem : (destination, c) ∈ pool.idle := hperm.mem_iff.mpr List.mem_cons_self
  exact ⟨hmem, h.keyed _ hmem, hperm.map Prod.snd⟩

theorem Resting.takeOut (h : Resting pool) (hc : c.target.destination = destination) :
    Lending (pool.takeOut destination) destination c where
  leased := congrArg _ h.free
  keyed entry hentry := h.keyed entry (List.mem_of_mem_filter hentry)
  nodup := (List.filter_sublist.map Prod.fst).nodup h.nodup
  notMem := by simp [Pool.takeOut, Pool.destinations]
  destination := hc

theorem Lending.leased_forget (h : Lending pool destination c) :
    (pool.forget destination).leased = [] := by
  rw [Pool.forget, h.leased]
  simp

theorem Lending.forget (h : Lending pool destination c) : Resting (pool.forget destination) :=
  ⟨h.leased_forget, h.keyed, h.nodup⟩

theorem Lending.idle_giveBack (h : Lending pool destination c) :
    (pool.giveBack destination c).idle = pool.idle ++ [(destination, c)] :=
  Pool.put_of_notMem c h.notMem

theorem Lending.giveBack (h : Lending pool destination c) :
    Resting (pool.giveBack destination c) where
  free := h.leased_forget
  keyed entry hentry := by
    rw [h.idle_giveBack, List.mem_append, List.mem_singleton] at hentry
    rcases hentry with hentry | rfl
    · exact h.keyed entry hentry
    · exact h.destination
  nodup := by
    rw [Pool.destinations, h.idle_giveBack, List.map_append, List.map_singleton,
      ← List.concat_eq_append]
    exact h.nodup.concat h.notMem

theorem Lending.perm_giveBack (h : Lending pool destination c) :
    (c :: pool.sessions).Perm (pool.giveBack destination c).sessions := by
  rw [Pool.sessions, Pool.sessions, h.idle_giveBack, List.map_append]
  exact (List.perm_append_singleton _ _).symm

end

/-! ## Leases -/

/-- What the beginning of a lease ends with. -/
inductive Obtains (target : Target) (t : Traffic) : Except Stop Connection → Traffic → Prop where
  | leased (h : t.pool.isLeased target.destination = true) :
    Obtains target t (.error (.doubleLease target.destination)) t
  | idle (c : Connection) (free : t.pool.isLeased target.destination = false)
      (h : t.pool.idle.lookup target.destination = some c) :
    Obtains target t (.ok c) { t with pool := t.pool.takeOut target.destination }
  | connected (c : Connection) (t' : Traffic) (free : t.pool.isLeased target.destination = false)
      (none : t.pool.idle.lookup target.destination = none)
      (h : Connection.Connects target t.shell t (.ok c) t') :
    Obtains target t (.ok c) { t' with pool := t.pool.takeOut target.destination }
  | unconnected (stop : Stop) (t' : Traffic)
      (free : t.pool.isLeased target.destination = false)
      (none : t.pool.idle.lookup target.destination = none)
      (h : Connection.Connects target t.shell t (.error stop) t') :
    Obtains target t (.error stop) t'

/-- What one command line with a leased session ends with. -/
inductive Uses {α : Type} (destination : String) (c : Connection) (line : String) (t : Traffic) :
    Except Stop α → Traffic → Prop where
  | served (a : α) (t' : Traffic) (run : c.Runs line t (.ok a) t') :
    Uses destination c line t (.ok a) { t' with pool := t'.pool.giveBack destination c }
  | dropped (stop : Stop) (t₁ t₂ : Traffic) (run : c.Runs line t (.error stop : Except Stop α) t₁)
      (close : c.Closes { t₁ with pool := t₁.pool.forget destination } (.ok ()) t₂) :
    Uses destination c line t (.error stop) t₂
  | broken (stop other : Stop) (t₁ t₂ : Traffic)
      (run : c.Runs line t (.error stop : Except Stop α) t₁)
      (close : c.Closes { t₁ with pool := t₁.pool.forget destination } (.error other) t₂) :
    Uses destination c line t (.error other) t₂

/-- What one command line on a host ends with, the lease included. -/
inductive Visits {α : Type} (target : Target) (line : String) (t : Traffic) :
    Except Stop α → Traffic → Prop where
  | unmet (stop : Stop) (t' : Traffic) (h : Obtains target t (.error stop) t') :
    Visits target line t (.error stop) t'
  | met (c : Connection) (answer : Except Stop α) (t₁ t₂ : Traffic)
      (h : Obtains target t (.ok c) t₁) (uses : Uses target.destination c line t₁ answer t₂) :
    Visits target line t answer t₂

namespace Act

variable {α : Type}

theorem useSession_ends (destination : String) (c : Connection) (line : String)
    {body : Connection → Act α}
    (hbody : ∀ r, (body c).Ends r fun answer behind =>
      c.Runs line r.traffic answer behind.traffic) :
    (useSession destination c body).Ends r fun answer behind =>
      Uses destination c line r.traffic answer behind.traffic := by
  simp only [useSession, ends_bind, ends_modify, ends_note, ends_tryCatch]
  refine (hbody _).mono fun answer r₁ hrun => ?_
  cases answer with
  | ok a => exact .served a r₁.traffic hrun
  | error stop =>
    refine (Connection.close_ends c).mono fun closing r₂ hclose => ?_
    cases closing with
    | ok _ => exact .dropped stop r₁.traffic r₂.traffic hrun hclose
    | error other => exact .broken stop other r₁.traffic r₂.traffic hrun hclose

/-- An action whose stop is answered. -/
theorem observe_ends (act : Runner → Act α) {r : Runner} {P : Except Stop α → Runner → Prop}
    (h : (act r).Ends r P) :
    Ends (fun r => (.ok ((act r).perform r).1, ((act r).perform r).2)) r fun observed behind =>
      ∃ answer, observed = .ok answer ∧ P answer behind :=
  ⟨_, rfl, h⟩

theorem withSession_ends (target : Target) (line : String) {body : Connection → Act α}
    (hbody : ∀ c r, (body c).Ends r fun answer behind =>
      c.Runs line r.traffic answer behind.traffic) :
    (withSession target body).Ends r fun answer behind =>
      Visits target line r.traffic answer behind.traffic := by
  rw [withSession, ends_bind, ends_get]
  dsimp only
  cases hleased : r.pool.isLeased target.destination with
  | true =>
    rw [Pool.lease_of_isLeased _ hleased, pure_bind]
    exact .unmet _ _ (.leased hleased)
  | false =>
    cases hidle : r.pool.idle.lookup target.destination with
    | some c =>
      rw [Pool.lease_of_lookup _ hleased hidle, pure_bind]
      simp only [ends_bind, ends_modify]
      refine (useSession_ends target.destination c line (hbody c)).mono fun answer r₁ huses => ?_
      exact .met c answer _ _ (.idle c hleased hidle) huses
    | none =>
      rw [Pool.lease_of_lookup_none _ hleased hidle, bind_assoc]
      have hconnect := observe_ends (fun r => Connection.connect target r.shell)
        (Connection.connect_ends target r.shell)
      rw [ends_bind]
      refine hconnect.mono ?_
      rintro _ r₁ ⟨answer, rfl, hconnects⟩
      cases answer with
      | error stop => exact .unmet stop r₁.traffic (.unconnected stop _ hleased hidle hconnects)
      | ok c =>
        simp only [pure_bind, ends_bind, ends_modify]
        refine (useSession_ends target.destination c line (hbody c)).mono fun answer r₂ huses => ?_
        exact .met c answer _ _ (.connected c r₁.traffic hleased hidle hconnects) huses

end Act

end Foldbook
