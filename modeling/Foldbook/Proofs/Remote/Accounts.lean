import Foldbook.Proofs.Remote.Contacts
import Foldbook.Proofs.Remote.Traffic

/-!
# Accounts of sessions

`Accounts first sessions spare t` compares what a runner has started, and how
the programs behaved, with the sessions that it should have.  `first` is the
runner as it was before anything was started, and holds the programs to come;
`sessions` are the connections with a live master, each with its directory,
and `spare` are the directories without one.

There is one lemma for each thing that connections do: make a directory, start
a master, a command or another program, ask a master to exit, and remove a
directory.  `Settled.visits` puts them together: between two leases the live
sessions are the idle ones.
-/

namespace Foldbook

/-- How the program behaves that is started behind so many others. -/
def Runner.conductAt (r : Runner) (number : Nat) : Conduct :=
  (r.programs.drop number).headD r.otherwise

/-- The contacts that the programs started from a runner make, both last first. -/
def Runner.contacts (r : Runner) : List (List String) → List Contact
  | [] => []
  | words :: earlier =>
    (Contact.of? r.shell (r.conductAt earlier.length) words).toList ++ r.contacts earlier

/-- The name of a control directory. -/
def Traffic.directoryName (number : Nat) : String := s!"CTL{number}"

/-- A session as the contacts show it. -/
def Connection.entry (c : Connection) : String × String := (c.socket, c.target.destination)

/-- The directories are those of the sessions, each its own, and the spare ones. -/
structure Housed (sessions : List Connection) (spare : List String) (t : Traffic) : Prop where
  directories : t.directories.Perm (sessions.map Connection.directory ++ spare)
  distinct : t.directories.Nodup
  numbered : ∀ name ∈ t.directories, ∃ n ≤ t.directoriesMade, name = Traffic.directoryName n

/-- The sessions and the directories of a runner that began as `first`. -/
structure Accounts (first : Runner) (sessions : List Connection) (spare : List String)
    (t : Traffic) : Prop extends Housed sessions spare t where
  client : t.client = first.client
  shell : t.shell = first.shell
  programs : t.programs = first.programs.drop t.started.length
  otherwise : t.otherwise = first.otherwise
  lawful : Contact.Lawful (first.contacts t.started)
  live : (Contact.live (first.contacts t.started)).Perm (sessions.map Connection.entry)
  owned : ∀ c ∈ sessions, c.program = first.shell
  sockets : ∀ c ∈ first.contacts t.started, ∃ n ≤ t.directoriesMade,
    c.socket = Traffic.directoryName n ++ "/master"

/-! ## What the command lines show -/

namespace Connection

variable {c : Connection} {shell : String}

theorem contact_masterWords (h : c.program = shell) (conduct : Conduct) (home : String) :
    Contact.of? shell conduct (c.masterWords home) =
      some (.master c.socket c.target.destination conduct.succeeds) := by
  have hlast : ((["-M", "-f", "-N", "-o", "ControlPersist=yes", "-o", "BatchMode=yes"] ++
      c.target.connectOptions home) ++ [c.target.destination]).getLastD "" =
        c.target.destination := by
    rw [List.getLastD_eq_getLast?, List.getLast?_concat, Option.getD_some]
  refine (if_pos h).trans ?_
  exact congrArg (fun d => some (Contact.master c.socket d conduct.succeeds)) hlast

theorem contact_commandWords (h : c.program = shell) (conduct : Conduct) (line : String) :
    Contact.of? shell conduct (c.commandWords line) =
      some (.command c.socket c.target.destination line) := by
  refine (if_pos h).trans ?_
  simp [Contact.ofArguments?]

theorem contact_exitWords (h : c.program = shell) (conduct : Conduct) :
    Contact.of? shell conduct c.exitWords = some (.exit c.socket c.target.destination) := by
  exact if_pos h

end Connection

theorem Contact.of?_of_ne {program shell : String} (h : program ≠ shell) (conduct : Conduct)
    (args : List String) : Contact.of? shell conduct (program :: args) = none :=
  if_neg h

theorem Traffic.directoryName_inj {m n : Nat}
    (h : Traffic.directoryName m = Traffic.directoryName n) : m = n := by
  have hrepr : "CTL" ++ m.repr = "CTL" ++ n.repr := by
    simpa [Traffic.directoryName] using h
  have hdigits : Nat.toDigits 10 m = Nat.toDigits 10 n := by
    simpa [Nat.repr_eq_ofList_toDigits, String.ofList_inj] using hrepr
  have hread := congrArg (fun digits => Nat.ofDigitChars 10 digits 0) hdigits
  simpa [Nat.ofDigitChars_toDigits] using hread

/-! ## Directories -/

namespace Housed

variable {sessions others : List Connection} {spare : List String} {c : Connection} {t : Traffic}

theorem perm (h : Housed sessions spare t) (hperm : sessions.Perm others) :
    Housed others spare t :=
  { h with directories := h.directories.trans ((hperm.map _).append_right spare) }

/-- Programs and the pool do not matter. -/
theorem starting (h : Housed sessions spare t) (words : List String) :
    Housed sessions spare (t.starting words) :=
  { h with }

theorem withPool (h : Housed sessions spare t) (pool : Pool Connection) :
    Housed sessions spare { t with pool } :=
  { h with }

theorem mem (h : Housed sessions spare t) (hc : c ∈ sessions) : c.directory ∈ t.directories :=
  h.directories.mem_iff.mpr (List.mem_append_left _ (List.mem_map_of_mem hc))

/-- A session is connected. -/
theorem house (h : Housed sessions (c.directory :: spare) t) : Housed (c :: sessions) spare t :=
  { h with directories := h.directories.trans List.perm_middle }

/-- A session is given up. -/
theorem empty (h : Housed (c :: sessions) spare t) : Housed sessions (c.directory :: spare) t :=
  { h with directories := h.directories.trans List.perm_middle.symm }

/-- A directory without a session is removed. -/
theorem removing {name : String} (h : Housed sessions (name :: spare) t) :
    Housed sessions spare (t.removing name) where
  directories := by
    have hnodup : (t.directories.map id).Nodup := by
      rw [List.map_id]
      exact h.distinct
    exact perm_filter_bne id (h.directories.trans List.perm_middle) hnodup
  distinct := h.distinct.filter _
  numbered other hother := h.numbered other (List.mem_of_mem_filter hother)

/-- A directory is made. -/
theorem makingDirectory (h : Housed sessions spare t) :
    Housed sessions (t.nextDirectory :: spare) t.makingDirectory where
  directories :=
    (List.perm_append_singleton _ _).trans ((h.directories.cons _).trans List.perm_middle.symm)
  distinct := by
    have hfresh : t.nextDirectory ∉ t.directories := by
      intro hmem
      obtain ⟨n, hn, hname⟩ := h.numbered _ hmem
      have hsame : t.directoriesMade + 1 = n := Traffic.directoryName_inj hname
      omega
    rw [Traffic.makingDirectory, ← List.concat_eq_append]
    exact h.distinct.concat hfresh
  numbered name hname := by
    rcases List.mem_append.mp hname with hname | hname
    · obtain ⟨n, hn, heq⟩ := h.numbered name hname
      exact ⟨n, Nat.le_succ_of_le hn, heq⟩
    · exact ⟨_, Nat.le_refl _, List.mem_singleton.mp hname⟩

end Housed

/-! ## What each step does to the accounts -/

namespace Accounts

variable {first : Runner} {sessions : List Connection} {spare : List String} {t : Traffic}
  {c : Connection}

theorem conduct_eq (h : Accounts first sessions spare t) :
    first.conductAt t.started.length = t.conduct := by
  rw [Runner.conductAt, Traffic.conduct, h.programs, h.otherwise]

theorem contacts_starting (h : Accounts first sessions spare t) (words : List String) :
    first.contacts (t.starting words).started =
      (Contact.of? first.shell t.conduct words).toList ++ first.contacts t.started := by
  rw [← h.conduct_eq]
  rfl

theorem programs_starting (h : Accounts first sessions spare t) (words : List String) :
    (t.starting words).programs = first.programs.drop (t.starting words).started.length := by
  rw [Traffic.starting, List.length_cons, h.programs, List.tail_drop]

theorem perm (h : Accounts first sessions spare t) {others : List Connection}
    (hperm : sessions.Perm others) : Accounts first others spare t :=
  { h.toHoused.perm hperm, h with
    live := h.live.trans (hperm.map _)
    owned := fun c hc => h.owned c (hperm.mem_iff.mpr hc) }

/-- The pool and the store do not matter. -/
theorem withPool (h : Accounts first sessions spare t) (pool : Pool Connection) :
    Accounts first sessions spare { t with pool } :=
  { h with }

theorem withStore (h : Accounts first sessions spare t) (store : Store) :
    Accounts first sessions spare { t with store } :=
  { h with }

/-- A program other than the one that connects. -/
theorem starting_other (h : Accounts first sessions spare t) {program : String}
    (hprogram : program ≠ first.shell) (args : List String) :
    Accounts first sessions spare (t.starting (program :: args)) := by
  have hcontacts := h.contacts_starting (program :: args)
  rw [Contact.of?_of_ne hprogram, Option.toList_none, List.nil_append] at hcontacts
  exact { h with
    programs := h.programs_starting _
    lawful := hcontacts ▸ h.lawful
    live := hcontacts ▸ h.live
    sockets := hcontacts ▸ h.sockets }

/-- A live session has the socket of a directory that has been made. -/
theorem socket_numbered (h : Accounts first sessions spare t) {session : String × String}
    (hlives : session ∈ Contact.live (first.contacts t.started)) :
    ∃ n ≤ t.directoriesMade, session.1 = Traffic.directoryName n ++ "/master" := by
  obtain ⟨contact, hcontact, hsame⟩ := Contact.mem_of_mem_live hlives
  obtain ⟨n, hn, hname⟩ := h.sockets contact hcontact
  exact ⟨n, hn, hsame.symm.trans hname⟩

/-- A command on the host of a live session. -/
theorem starting_command (h : Accounts first sessions spare t) (hc : c ∈ sessions)
    (line : String) : Accounts first sessions spare (t.starting (c.commandWords line)) := by
  have hcontacts := h.contacts_starting (c.commandWords line)
  rw [Connection.contact_commandWords (h.owned c hc), Option.toList_some,
    List.singleton_append] at hcontacts
  have hlives : (c.socket, c.target.destination) ∈ Contact.live (first.contacts t.started) :=
    h.live.mem_iff.mpr (List.mem_map_of_mem hc)
  exact { h with
    programs := h.programs_starting _
    lawful := hcontacts ▸ .command h.lawful hlives
    live := hcontacts ▸ h.live
    sockets := hcontacts ▸ List.forall_mem_cons.mpr ⟨h.socket_numbered hlives, h.sockets⟩ }

/-- The request to exit. -/
theorem starting_exit (h : Accounts first (c :: sessions) spare t) :
    Accounts first sessions (c.directory :: spare) (t.starting c.exitWords) := by
  have hcontacts := h.contacts_starting c.exitWords
  rw [Connection.contact_exitWords (h.owned c List.mem_cons_self), Option.toList_some,
    List.singleton_append] at hcontacts
  have hlives : (c.socket, c.target.destination) ∈ Contact.live (first.contacts t.started) :=
    h.live.mem_iff.mpr List.mem_cons_self
  have hleft := perm_filter_bne Prod.fst h.live h.lawful.sockets_nodup
  exact { h.toHoused.empty.starting c.exitWords, h with
    programs := h.programs_starting _
    lawful := hcontacts ▸ .exit h.lawful hlives
    live := hcontacts ▸ hleft
    owned := fun d hd => h.owned d (List.mem_cons_of_mem c hd)
    sockets := hcontacts ▸ List.forall_mem_cons.mpr ⟨h.socket_numbered hlives, h.sockets⟩ }

theorem removing {name : String} (h : Accounts first sessions (name :: spare) t) :
    Accounts first sessions spare (t.removing name) :=
  { h.toHoused.removing, h with }

theorem makingDirectory (h : Accounts first sessions spare t) :
    Accounts first sessions (t.nextDirectory :: spare) t.makingDirectory :=
  { h.toHoused.makingDirectory, h with
    sockets := by
      intro contact hcontact
      obtain ⟨n, hn, heq⟩ := h.sockets contact hcontact
      exact ⟨n, Nat.le_succ_of_le hn, heq⟩ }

/-- A session with the directory that is made next has a new name. -/
theorem socket_fresh (h : Accounts first sessions spare t)
    (hdirectory : c.directory = t.nextDirectory)
    (contact : Contact) (hcontact : contact ∈ first.contacts t.started) :
    contact.socket ≠ c.socket := by
  obtain ⟨n, hn, hname⟩ := h.sockets contact hcontact
  intro hsame
  have hsocket : Traffic.directoryName (t.directoriesMade + 1) ++ "/master" =
      Traffic.directoryName n ++ "/master" := by
    rw [← hname, hsame, Connection.socket, hdirectory]
    rfl
  have hnumber : t.directoriesMade + 1 = n :=
    Traffic.directoryName_inj ((String.append_left_inj "/master").mp hsocket)
  omega

/-- A master is started for the directory that is made next. -/
theorem starting_master (h : Accounts first sessions spare t)
    (hfree : c.target.destination ∉ sessions.map fun d => d.target.destination)
    (hprogram : c.program = first.shell) (hdirectory : c.directory = t.nextDirectory)
    (home : String) :
    if t.conduct.succeeds then
      Accounts first (c :: sessions) spare (t.makingDirectory.starting (c.masterWords home))
    else
      Accounts first sessions (c.directory :: spare)
        (t.makingDirectory.starting (c.masterWords home)) := by
  have hmade := h.makingDirectory
  rw [← hdirectory] at hmade
  have hcontacts := hmade.contacts_starting (c.masterWords home)
  rw [Connection.contact_masterWords hprogram, Option.toList_some, List.singleton_append]
    at hcontacts
  have hfree' : c.target.destination ∉
      (Contact.live (first.contacts t.started)).map Prod.snd := by
    rw [(h.live.map Prod.snd).mem_iff, List.map_map]
    exact hfree
  have hlawful : Contact.Lawful (.master c.socket c.target.destination t.conduct.succeeds ::
      first.contacts t.started) := .master h.lawful (h.socket_fresh hdirectory) hfree'
  have hsocket : ∃ n ≤ t.directoriesMade + 1, c.socket = Traffic.directoryName n ++ "/master" :=
    ⟨_, Nat.le_refl _, by rw [Connection.socket, hdirectory]; rfl⟩
  have hsockets : ∀ contact ∈ .master c.socket c.target.destination t.conduct.succeeds ::
      first.contacts t.started, ∃ n ≤ t.directoriesMade + 1,
        contact.socket = Traffic.directoryName n ++ "/master" :=
    List.forall_mem_cons.mpr ⟨hsocket, hmade.sockets⟩
  have hlive : Contact.live (.master c.socket c.target.destination t.conduct.succeeds ::
      first.contacts t.started) = if t.conduct.succeeds then
        c.entry :: Contact.live (first.contacts t.started)
      else Contact.live (first.contacts t.started) := rfl
  split
  case isTrue hsucceeds =>
    rw [if_pos hsucceeds] at hlive
    exact { (hmade.toHoused.starting (c.masterWords home)).house, hmade with
      programs := hmade.programs_starting _
      lawful := hcontacts ▸ hlawful
      live := hcontacts ▸ hlive ▸ h.live.cons _
      owned := List.forall_mem_cons.mpr ⟨hprogram, h.owned⟩
      sockets := hcontacts ▸ hsockets }
  case isFalse hfails =>
    rw [if_neg hfails] at hlive
    exact { hmade with
      programs := hmade.programs_starting _
      lawful := hcontacts ▸ hlawful
      live := hcontacts ▸ hlive ▸ h.live
      sockets := hcontacts ▸ hsockets }

end Accounts

/-! ## Leases -/

/-- No program breaks. -/
def Runner.Unbroken (r : Runner) : Prop :=
  ∀ conduct ∈ r.otherwise :: r.programs, ∀ message, conduct ≠ .breaks message

theorem Runner.Unbroken.conductAt {r : Runner} (h : r.Unbroken) (number : Nat)
    (message : String) : r.conductAt number ≠ .breaks message := by
  refine h _ ?_ message
  rw [Runner.conductAt]
  cases hleft : r.programs.drop number with
  | nil => exact List.mem_cons_self
  | cons conduct more =>
    have hmem : conduct ∈ r.programs.drop number := hleft ▸ List.mem_cons_self
    exact List.mem_cons_of_mem _ (List.mem_of_mem_drop hmem)

/-- Between two leases the sessions are the idle ones. -/
structure Settled (first : Runner) (spare : List String) (t : Traffic) : Prop where
  accounts : Accounts first t.pool.sessions spare t
  resting : Resting t.pool

/-- During a lease there is one more. -/
structure Lent (first : Runner) (spare : List String) (destination : String) (c : Connection)
    (t : Traffic) : Prop where
  accounts : Accounts first (c :: t.pool.sessions) spare t
  lending : Lending t.pool destination c

section

variable {first : Runner} {sessions : List Connection} {spare : List String} {t t' : Traffic}
  {target : Target} {destination line : String} {c : Connection}

theorem Accounts.not_breaks (h : Accounts first sessions spare t) (hfirst : first.Unbroken)
    (message : String) : t.conduct ≠ .breaks message :=
  h.conduct_eq ▸ hfirst.conductAt t.started.length message

/-- The destinations of the idle sessions are the names in the pool. -/
theorem Resting.map_destination {pool : Pool Connection} (h : Resting pool) :
    pool.sessions.map (fun c => c.target.destination) = pool.destinations := by
  rw [Pool.sessions, List.map_map]
  exact List.map_congr_left h.keyed

/-- What a lease leaves, or a part of it: an answer with `answered`; with a failure no directory
more than before; or else a path could not be written out, and one directory more is left. -/
def Leaves {α : Type} (target : Target) (answered : α → Prop) (kept : List String → Prop)
    (spare : List String) : Except Stop α → Prop
  | .ok a => answered a
  | .error (.failure _) => kept spare
  | .error stop => stop = Connection.nullName ∧ target.expands = false ∧
      ∃ directory, kept (directory :: spare)

/-- Only what is kept matters to a stop. -/
theorem Leaves.error {α β : Type} {answered : α → Prop} {answered' : β → Prop}
    {kept kept' : List String → Prop} {stop : Stop}
    (h : Leaves target answered kept spare (.error stop))
    (hkept : ∀ spare, kept spare → kept' spare) :
    Leaves target answered' kept' spare (.error stop) := by
  cases stop with
  | failure f => exact hkept _ h
  | doubleLease destination =>
    obtain ⟨hstop, hexpands, directory, hdirectory⟩ := h
    exact ⟨hstop, hexpands, directory, hkept _ hdirectory⟩
  | broken message =>
    obtain ⟨hstop, hexpands, directory, hdirectory⟩ := h
    exact ⟨hstop, hexpands, directory, hkept _ hdirectory⟩

theorem Settled.connects (h : Settled first spare t) (hfirst : first.Unbroken)
    (hfree : target.destination ∉ t.pool.destinations) {answer : Except Stop Connection}
    (hconnects : Connection.Connects target t.shell t answer t') :
    t'.store = t.store ∧ t'.pool = t.pool ∧
      Leaves target (fun c => c.target = target ∧ Accounts first (c :: t.pool.sessions) spare t')
        (fun spare => Accounts first t.pool.sessions spare t') spare answer := by
  rw [← h.resting.map_destination] at hfree
  have hmaster := fun home => h.accounts.starting_master
    (c := ⟨target, t.shell, t.nextDirectory⟩) hfree h.accounts.shell rfl home
  cases hconnects with
  | unexpanded hexpands => exact ⟨rfl, rfl, rfl, hexpands, _, h.accounts.makingDirectory⟩
  | broken home message breaks => exact absurd breaks (h.accounts.not_breaks hfirst message)
  | connected home succeeds =>
    have hconnected := hmaster home
    rw [if_pos succeeds] at hconnected
    exact ⟨rfl, rfl, rfl, hconnected⟩
  | refused home f fails =>
    have hrefused := hmaster home
    rw [fails, if_neg Bool.false_ne_true] at hrefused
    exact ⟨rfl, rfl, hrefused.removing⟩

theorem Settled.obtains (h : Settled first spare t) (hfirst : first.Unbroken)
    {answer : Except Stop Connection} (hobtains : Obtains target t answer t') :
    t'.store = t.store ∧
      Leaves target (fun c => Lent first spare target.destination c t')
        (fun spare => Settled first spare t') spare answer := by
  cases hobtains with
  | leased hleased =>
    rw [Pool.isLeased_eq_true_iff, h.resting.free] at hleased
    exact absurd hleased List.not_mem_nil
  | idle c free hidle =>
    obtain ⟨-, hc, hperm⟩ := h.resting.of_lookup hidle
    exact ⟨rfl, (h.accounts.perm hperm).withPool _, h.resting.takeOut hc⟩
  | connected c t₁ free hnone hconnects =>
    have hfree := Pool.lookup_idle_eq_none_iff.mp hnone
    obtain ⟨hstore, -, htarget, haccounts⟩ := h.connects hfirst hfree hconnects
    have hsessions : (t.pool.takeOut target.destination).sessions = t.pool.sessions := by
      rw [Pool.takeOut_of_lookup_none hnone]
      rfl
    refine ⟨hstore, ?_, h.resting.takeOut (by rw [htarget])⟩
    exact (hsessions ▸ haccounts).withPool _
  | unconnected stop t₁ free hnone hconnects =>
    have hfree := Pool.lookup_idle_eq_none_iff.mp hnone
    obtain ⟨hstore, hpool, hleaves⟩ := h.connects hfirst hfree hconnects
    refine ⟨hstore, hleaves.error fun spare haccounts => ?_⟩
    exact ⟨hpool ▸ haccounts, hpool ▸ h.resting⟩

/-- A command with a leased session, and the end of the lease. -/
theorem Lent.uses (h : Lent first spare destination c t) (hfirst : first.Unbroken) {α : Type}
    {answer : Except Stop α} (huses : Uses destination c line t answer t') :
    t'.store = t.store ∧
      Leaves target (fun _ => Settled first spare t') (fun spare => Settled first spare t') spare
        answer := by
  have hcommand := h.accounts.starting_command List.mem_cons_self line
  have hopened : c.directory ∈ t.directories := h.accounts.mem List.mem_cons_self
  cases huses with
  | served a t₁ run =>
    cases run with
    | done a hopen =>
      have hkept := (hcommand.perm h.lending.perm_giveBack).withPool (t.pool.giveBack destination c)
      exact ⟨rfl, hkept, h.lending.giveBack⟩
  | dropped stop t₁ t₂ run close =>
    cases run with
    | closed f hclosed => exact absurd hopened hclosed
    | failed stop hopen stops =>
      obtain ⟨message, hbreaks, -⟩ | ⟨f, rfl⟩ := stops
      · exact absurd hbreaks (h.accounts.not_breaks hfirst message)
      cases close with
      | already hclosed => exact absurd hopen hclosed
      | asked hopen =>
        have hexit := (hcommand.withPool (t.pool.forget destination)).starting_exit
        exact ⟨rfl, hexit.removing, h.lending.forget⟩
  | broken stop other t₁ t₂ run close =>
    cases run with
    | closed f hclosed => exact absurd hopened hclosed
    | failed stop hopen stops =>
      cases close with
      | broken message hopen breaks =>
        exact absurd breaks (hcommand.not_breaks hfirst message)

/-- A command on a host, with the lease around it. -/
theorem Settled.visits (h : Settled first spare t) (hfirst : first.Unbroken) {α : Type}
    {answer : Except Stop α} (hvisits : Visits target line t answer t') :
    t'.store = t.store ∧
      Leaves target (fun _ => Settled first spare t') (fun spare => Settled first spare t') spare
        answer := by
  cases hvisits with
  | unmet stop t' hobtains =>
    obtain ⟨hstore, hleaves⟩ := h.obtains hfirst hobtains
    exact ⟨hstore, hleaves.error fun _ hsettled => hsettled⟩
  | met c answer t₁ t₂ hobtains huses =>
    obtain ⟨hstore, hlent⟩ := h.obtains hfirst hobtains
    obtain ⟨hsame, hleaves⟩ := Lent.uses hlent hfirst huses
    exact ⟨hsame.trans hstore, hleaves⟩

/-- Closing a session that is not leased. -/
theorem Accounts.closes (h : Accounts first (c :: sessions) spare t) (hfirst : first.Unbroken)
    {answer : Except Stop Unit} (hcloses : c.Closes t answer t') :
    answer = .ok () ∧ Accounts first sessions spare t' ∧ t'.pool = t.pool := by
  have hopen : c.directory ∈ t.directories := h.mem List.mem_cons_self
  cases hcloses with
  | already hclosed => exact absurd hopen hclosed
  | broken message hopen breaks => exact absurd breaks (h.not_breaks hfirst message)
  | asked hopen => exact ⟨rfl, h.starting_exit.removing, rfl⟩

end

end Foldbook
