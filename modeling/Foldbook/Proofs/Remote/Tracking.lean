import Foldbook.Proofs.Remote.Route
import Foldbook.Proofs.Remote.Usage

/-!
# The program's use of its pool

`Pool.Usage` numbers the sessions of a pool.  Here the numbers stand for
connections, and what the program does to its pool is what can be done with a
usage.

* `Pool.map`: what is done with a pool does not depend on what the sessions
  are.
* `Tracks`: the program's pool is that of the usage, and the sessions that
  have been closed are those that have lost their directories.
* `Tracks.of_obtains`: a lease begins as with `Usage.lease`.
* `useSession_tracks`: it ends as with `Usage.release` if the command answers,
  and as with `Usage.fail` if it stops.
* `closeAll_tracks`: closing the pool is `Usage.closeAll` if no program
  breaks, and empties the pool in any case.
* `Errand.performAll_tracked`: behind any commands the pool is that of a usage
  behind some actions, so `Usage.sound_after` holds of the program.
-/

namespace Foldbook

/-! ## Other sessions in a pool -/

namespace Pool

variable {ς τ : Type} (f : ς → τ)

/-- The pool with other sessions in the places of its own. -/
def map (p : Pool ς) : Pool τ where
  idle := p.idle.map fun entry => (entry.1, f entry.2)
  leased := p.leased

theorem map_put (destination : String) (session : ς) (idle : List (String × ς)) :
    (put destination session idle).map (fun entry => (entry.1, f entry.2)) =
      put destination (f session) (idle.map fun entry => (entry.1, f entry.2)) := by
  induction idle with
  | nil => rfl
  | cons entry idle ih =>
      rw [List.map_cons, put, put]
      split
      · rfl
      · rw [List.map_cons, ih]

theorem map_forget (p : Pool ς) (destination : String) :
    (p.forget destination).map f = (p.map f).forget destination := rfl

theorem map_giveBack (p : Pool ς) (destination : String) (session : ς) :
    (p.giveBack destination session).map f = (p.map f).giveBack destination (f session) := by
  rw [giveBack, giveBack, map, map_put]
  rfl

theorem map_drain (p : Pool ς) :
    (p.map f).drain = (p.drain.1.map f, p.drain.2.map f) := by
  simp [drain, map]

theorem map_takeOut (p : Pool ς) (destination : String) :
    (p.takeOut destination).map f = (p.map f).takeOut destination := by
  simp only [takeOut, map, List.filter_map]
  rfl

theorem lookup_map (idle : List (String × ς)) (destination : String) :
    (idle.map fun entry => (entry.1, f entry.2)).lookup destination =
      (idle.lookup destination).map f := by
  induction idle with
  | nil => rfl
  | cons entry idle ih =>
      rw [List.map_cons, List.lookup_cons, List.lookup_cons, ih]
      cases destination == entry.1 <;> rfl

/-- Only the sessions in the pool matter. -/
theorem map_congr {f g : ς → τ} {p : Pool ς} (h : ∀ session ∈ p.sessions, f session = g session) :
    p.map f = p.map g := by
  have hidle : (p.idle.map fun entry => (entry.1, f entry.2)) =
      p.idle.map fun entry => (entry.1, g entry.2) :=
    List.map_congr_left fun entry hentry =>
      congrArg (entry.1, ·) (h entry.2 (List.mem_map_of_mem hentry))
  rw [map, map, hidle]

end Pool

open Pool (Usage Lease)

/-! ## The effects on pool and directories -/

/-- A session that is closed loses its directory, whatever its master answers. -/
theorem Connection.Closes.effect {c : Connection} {t t' : Traffic} {answer : Except Stop Unit}
    (h : c.Closes t answer t') :
    t'.pool = t.pool ∧ t'.directoriesMade = t.directoriesMade ∧
      t'.directories = t.directories.filter (· != c.directory) := by
  cases h with
  | already hclosed =>
      refine ⟨rfl, rfl, (List.filter_eq_self.mpr fun name hname => bne_iff_ne.mpr ?_).symm⟩
      rintro rfl
      exact hclosed hname
  | asked _ => exact ⟨rfl, rfl, rfl⟩
  | broken _ _ _ => exact ⟨rfl, rfl, rfl⟩

/-- Connecting makes a directory, and no other one comes or goes. -/
theorem Connection.Connects.effect {target : Target} {program : String} {t t' : Traffic}
    {answer : Except Stop Connection} (h : Connects target program t answer t') :
    t'.pool = t.pool ∧ t'.directoriesMade = t.directoriesMade + 1 ∧
      (∀ name ≠ t.nextDirectory, name ∈ t'.directories ↔ name ∈ t.directories) ∧
      ∀ c, answer = .ok c → c.directory = t.nextDirectory ∧ t.nextDirectory ∈ t'.directories := by
  have hmade : ∀ name ≠ t.nextDirectory,
      name ∈ t.directories ++ [t.nextDirectory] ↔ name ∈ t.directories := by
    intro name hname
    rw [List.mem_append, List.mem_singleton, or_iff_left hname]
  cases h with
  | unexpanded _ => exact ⟨rfl, rfl, hmade, fun _ hok => by cases hok⟩
  | refused home f _ =>
      refine ⟨rfl, rfl, fun name hname => ?_, fun _ hok => by cases hok⟩
      refine List.mem_filter.trans ?_
      rw [bne_iff_ne, and_iff_left hname]
      exact hmade name hname
  | broken home message _ => exact ⟨rfl, rfl, hmade, fun _ hok => by cases hok⟩
  | connected home _ =>
      refine ⟨rfl, rfl, hmade, ?_⟩
      rintro _ ⟨rfl⟩
      exact ⟨rfl, List.mem_append_right _ (List.mem_singleton_self _)⟩

/-! ## Sessions by their numbers -/

/-- The sessions of the program's pool are those of the usage, by their numbers.  Each has a
directory of its own, which is there exactly as long as the usage has not closed the session. -/
structure Tracks (f : Nat → Connection) (u : Usage) (t : Traffic) : Prop where
  pool : t.pool = u.pool.map f
  own : ∀ session < u.connected.length, ∀ other < u.connected.length,
    (f session).directory = (f other).directory → session = other
  opened : ∀ session < u.connected.length,
    (f session).directory ∈ t.directories ↔ session ∉ u.closed
  numbered : ∀ session < u.connected.length,
    ∃ n ≤ t.directoriesMade, (f session).directory = Traffic.directoryName n

namespace Tracks

variable {f : Nat → Connection} {u : Usage} {l : Lease} {t t' : Traffic} {target : Target}

/-- Before anything is started there are no sessions. -/
theorem new {r : Runner} (h : r.New) (f : Nat → Connection) : Tracks f {} r.traffic where
  pool := by
    have hempty : r.pool = {} := by
      rw [← h.idle, ← h.leased]
    exact hempty
  own session hsession := absurd hsession (Nat.not_lt_zero _)
  opened session hsession := absurd hsession (Nat.not_lt_zero _)
  numbered session hsession := absurd hsession (Nat.not_lt_zero _)

theorem congr (h : Tracks f u t) (pool : t'.pool = t.pool)
    (directories : t'.directories = t.directories) (made : t'.directoriesMade = t.directoriesMade) :
    Tracks f u t' :=
  ⟨pool.trans h.pool, h.own, directories ▸ h.opened, made ▸ h.numbered⟩

/-- Programs that are started change neither the pool nor the directories. -/
theorem of_runs {α : Type} {c : Connection} {line : String} {answer : Except Stop α}
    (h : Tracks f u t) (hruns : c.Runs line t answer t') : Tracks f u t' := by
  cases hruns with
  | closed _ _ => exact h
  | done _ _ => exact h.congr rfl rfl rfl
  | failed _ _ _ => exact h.congr rfl rfl rfl

theorem release (h : Tracks f u t) (hl : l ∈ u.leases) :
    Tracks f (u.release l)
      { t with pool := t.pool.giveBack l.destination (f l.session) } := by
  rw [Usage.release, if_pos hl]
  refine ⟨?_, h.own, h.opened, h.numbered⟩
  change t.pool.giveBack _ _ = _
  rw [h.pool, Pool.map_giveBack]

theorem fail (h : Tracks f u t) (hsound : u.Sound) (hl : l ∈ u.leases)
    {answer : Except Stop Unit}
    (hcloses : (f l.session).Closes { t with pool := t.pool.forget l.destination } answer t') :
    Tracks f (u.fail l) t' := by
  obtain ⟨hpool, hmade, hdirectories⟩ := hcloses.effect
  rw [Usage.fail, if_pos hl]
  refine ⟨?_, h.own, fun session hsession => ?_, hmade ▸ h.numbered⟩
  · rw [hpool]
    change t.pool.forget _ = _
    rw [h.pool, Pool.map_forget]
  · have hsame : (f session).directory = (f l.session).directory ↔ session = l.session :=
      ⟨h.own session hsession l.session (hsound.session_lt hl), fun heq => heq ▸ rfl⟩
    rw [hdirectories, List.mem_filter, bne_iff_ne, ne_eq, hsame, h.opened session hsession,
      List.mem_cons, not_or, and_comm]

/-- A lease that ends is a lease of the usage that ends in the same way. -/
theorem of_uses {α : Type} {line : String} {answer : Except Stop α} (h : Tracks f u t)
    (hsound : u.Sound) (hl : l ∈ u.leases)
    (huses : Uses l.destination (f l.session) line t answer t') :
    Tracks f (if answer.isOk then u.release l else u.fail l) t' := by
  cases huses with
  | served _ _ hruns => exact (h.of_runs hruns).release hl
  | dropped _ _ _ hruns hcloses => exact (h.of_runs hruns).fail hsound hl hcloses
  | broken _ _ _ _ hruns hcloses => exact (h.of_runs hruns).fail hsound hl hcloses

/-- The directory that is made next is that of no session so far. -/
theorem directory_ne_nextDirectory (h : Tracks f u t) {session : Nat}
    (hsession : session < u.connected.length) : (f session).directory ≠ t.nextDirectory := by
  obtain ⟨n, hn, hname⟩ := h.numbered session hsession
  intro hsame
  have hnext : n = t.directoriesMade + 1 := Traffic.directoryName_inj (hname.symm.trans hsame)
  omega

/-- Connecting does not change the sessions so far. -/
theorem of_connects {program : String} {answer : Except Stop Connection} (h : Tracks f u t)
    (hconnects : Connection.Connects target program t answer t') : Tracks f u t' := by
  obtain ⟨hpool, hmade, hothers, -⟩ := hconnects.effect
  refine ⟨hpool.trans h.pool, h.own, fun session hsession => ?_, fun session hsession => ?_⟩
  · rw [hothers _ (h.directory_ne_nextDirectory hsession), h.opened session hsession]
  · obtain ⟨n, hn, hname⟩ := h.numbered session hsession
    exact ⟨n, by omega, hname⟩

/-- The session that is connected has the next number. -/
theorem connect (h : Tracks f u t) (hsound : u.Sound) {c : Connection} {program : String}
    (hconnects : Connection.Connects target program t (.ok c) t') (destination : String) :
    Tracks (Function.update f u.connected.length c) (u.connectTo destination) t' := by
  have hold {session : Nat} (hsession : session < u.connected.length) :
      Function.update f u.connected.length c session = f session :=
    Function.update_of_ne (Nat.ne_of_lt hsession) _ _
  have hnew : Function.update f u.connected.length c u.connected.length = c :=
    Function.update_self _ _ _
  have hsessions {session : Nat} (hsession : session < (u.connectTo destination).connected.length) :
      session < u.connected.length ∨ session = u.connected.length := by
    simp only [Usage.connectTo, List.length_append, List.length_singleton] at hsession
    omega
  obtain ⟨-, hmade, -, hdirectory⟩ := hconnects.effect
  obtain ⟨hown, hthere⟩ := hdirectory c rfl
  have hbefore := h.of_connects hconnects
  -- The directory of the new session is that of none before.
  have hdifferent {session : Nat} (hsession : session < u.connected.length) :
      (f session).directory ≠ c.directory := hown ▸ h.directory_ne_nextDirectory hsession
  refine ⟨?_, ?_, ?_, ?_⟩
  · rw [hbefore.pool]
    exact Pool.map_congr fun session hsession => (hold (hsound.lt_of_mem_sessions hsession)).symm
  · intro session hsession other hother hsame
    rcases hsessions hsession with hlt | rfl <;> rcases hsessions hother with hlt' | rfl
    · rw [hold hlt, hold hlt'] at hsame
      exact h.own session hlt other hlt' hsame
    · rw [hold hlt, hnew] at hsame
      exact absurd hsame (hdifferent hlt)
    · rw [hnew, hold hlt'] at hsame
      exact absurd hsame.symm (hdifferent hlt')
    · rfl
  · intro session hsession
    rcases hsessions hsession with hlt | rfl
    · rw [hold hlt]
      exact hbefore.opened session hlt
    · rw [hnew, hown]
      refine ⟨fun _ hclosed => ?_, fun _ => hthere⟩
      exact absurd (hsound.lt_of_mem_closed hclosed) (Nat.lt_irrefl _)
  · intro session hsession
    rcases hsessions hsession with hlt | rfl
    · rw [hold hlt]
      exact hbefore.numbered session hlt
    · rw [hnew, hown, hmade]
      exact ⟨_, Nat.le_refl _, rfl⟩

/-- An idle session is taken out of the pool. -/
theorem takeOut (h : Tracks f u t) (destination : String) (session : Nat) :
    Tracks f (u.hold destination session) { t with pool := t.pool.takeOut destination } := by
  refine ⟨?_, h.own, h.opened, h.numbered⟩
  change t.pool.takeOut _ = (u.pool.takeOut _).map f
  rw [h.pool, Pool.map_takeOut]

/-- A lease that begins is one of the usage, with the session that stands for the connection. -/
theorem of_obtains (h : Tracks f u t) (hsound : u.Sound) {c : Connection}
    (hobtains : Obtains target t (.ok c) t') :
    ∃ g session, Tracks g (u.step (.lease target.destination true)) t' ∧ g session = c ∧
      ⟨target.destination, session⟩ ∈ (u.step (.lease target.destination true)).leases := by
  have hleased : u.pool.isLeased = t.pool.isLeased := by rw [h.pool]; rfl
  have hlookup : t.pool.idle.lookup target.destination =
      (u.pool.idle.lookup target.destination).map f := by
    rw [h.pool]
    exact Pool.lookup_map f _ _
  rw [Usage.step]
  cases hobtains with
  | idle _ free hidle =>
      rw [hlookup, Option.map_eq_some_iff] at hidle
      obtain ⟨session, hsession, rfl⟩ := hidle
      rw [Usage.lease_of_lookup (hleased ▸ free) hsession]
      exact ⟨f, session, h.takeOut _ _, rfl, List.mem_cons_self⟩
  | connected _ t₁ free none hconnects =>
      rw [hlookup, Option.map_eq_none_iff] at none
      rw [Usage.lease_of_accepted (hleased ▸ free) none]
      have hconnected := (h.connect hsound hconnects target.destination).takeOut
        target.destination u.connected.length
      rw [hconnects.effect.1] at hconnected
      exact ⟨_, u.connected.length, hconnected, Function.update_self _ _ _, List.mem_cons_self⟩

/-- A lease that does not begin changes nothing. -/
theorem of_unmet (h : Tracks f u t) {stop : Stop} (hobtains : Obtains target t (.error stop) t') :
    Tracks f u t' := by
  cases hobtains with
  | leased _ => exact h
  | unconnected _ _ _ _ hconnects => exact h.of_connects hconnects

/-- A command on a host is a lease and its end, or nothing. -/
theorem visits {α : Type} {line : String} {answer : Except Stop α} (h : Tracks f u t)
    (hsound : u.Sound) (hvisits : Visits target line t answer t') :
    ∃ (g : Nat → Connection) (actions : List Usage.Action),
      Tracks g (actions.foldl Usage.step u) t' := by
  cases hvisits with
  | unmet stop _ hobtains => exact ⟨f, [], h.of_unmet hobtains⟩
  | met c _ t₁ _ hobtains huses =>
      obtain ⟨g, session, htracks, rfl, hmem⟩ := h.of_obtains hsound hobtains
      have hends := htracks.of_uses (hsound.step _) hmem huses
      cases answer with
      | ok a => exact ⟨g, [.lease target.destination true, .release ⟨_, session⟩], hends⟩
      | error stop => exact ⟨g, [.lease target.destination true, .fail ⟨_, session⟩], hends⟩

end Tracks

/-- Whatever commands are run, the pool has been used as `Pool.Usage` says. -/
theorem Errand.performAll_tracked {first : Runner} (h : first.New) (errands : List Errand) :
    ∃ f actions, Tracks f (Usage.after actions) (performAll errands first).traffic := by
  induction errands using List.reverseRecOn with
  | nil =>
      exact ⟨fun _ => { target := { destination := "" }, program := "", directory := "" }, [],
        .new h _⟩
  | append_singleton errands e ih =>
      obtain ⟨f, actions, htracks⟩ := ih
      rw [performAll, List.foldl_append, ← performAll]
      change ∃ f actions, Tracks f _ (e.perform (performAll errands first)).traffic
      cases perform_does e (performAll errands first) with
      | aside _ pool directories made =>
        exact ⟨f, actions, htracks.congr pool directories made⟩
      | visits target line answer names _ hvisits =>
        obtain ⟨g, more, hmore⟩ := htracks.visits (Usage.sound_after actions) hvisits
        refine ⟨g, actions ++ more, ?_⟩
        rw [Usage.after, List.foldl_append]
        exact hmore

namespace Act

variable {f : Nat → Connection} {u : Usage} {r : Runner}

/-- A command with a leased session hands the session back if it answers, as `Usage.release` does.
If it stops, the session is closed, as `Usage.fail` does, also where closing it breaks. -/
theorem useSession_tracks {α : Type} {l : Lease} {line : String} {body : Connection → Act α}
    (hbody : ∀ r, (body (f l.session)).Ends r fun answer behind =>
      (f l.session).Runs line r.traffic answer behind.traffic)
    (h : Tracks f u r.traffic) (hsound : u.Sound) (hl : l ∈ u.leases) :
    (useSession l.destination (f l.session) body).Ends r fun answer behind =>
      Tracks f (if answer.isOk then u.release l else u.fail l) behind.traffic :=
  (useSession_ends l.destination (f l.session) line hbody).mono fun _ _ huses =>
    h.of_uses hsound hl huses

/-- Closing sessions leaves the pool alone.  If nothing breaks, all of them lose their directories,
and no others. -/
theorem closeEach_closes (sessions : List Connection) :
    (closeEach sessions).Ends r fun answer behind =>
      behind.traffic.pool = r.traffic.pool ∧
      behind.traffic.directoriesMade = r.traffic.directoriesMade ∧
      (answer = .ok () → behind.traffic.directories = r.traffic.directories.filter
        fun name => name ∉ sessions.map Connection.directory) := by
  induction sessions generalizing r with
  | nil => exact ⟨rfl, rfl, fun _ => (List.filter_eq_self.mpr fun _ _ => by simp).symm⟩
  | cons c sessions ih =>
      rw [closeEach]
      refine (Connection.close_ends c).bind (fun _ between hcloses => ?_)
        fun stop between hcloses => ?_
      · obtain ⟨hpool, hmade, hdirectories⟩ := hcloses.effect
        refine ih.mono fun answer behind hrest => ?_
        obtain ⟨hpool', hmade', hdirectories'⟩ := hrest
        refine ⟨hpool'.trans hpool, hmade'.trans hmade, fun hok => ?_⟩
        rw [hdirectories' hok, hdirectories]
        exact filter_bne_filter_notMem _ c.directory (sessions.map Connection.directory)
      · exact ⟨hcloses.effect.1, hcloses.effect.2.1, fun hok => by cases hok⟩

/-- Closing the pool empties it, as `Usage.closeAll` does, and closes all its sessions if nothing
breaks. -/
theorem closeAll_tracks (h : Tracks f u r.traffic) (hsound : u.Sound) :
    closeAll.Ends r fun answer behind =>
      behind.traffic.pool = u.closeAll.pool.map f ∧
      (answer = .ok () → Tracks f u.closeAll behind.traffic) := by
  simp only [closeAll, ends_bind, ends_get, ends_modify]
  have hpool : r.pool = u.pool.map f := h.pool
  refine (closeEach_closes r.pool.drain.1).mono fun answer behind hends => ?_
  obtain ⟨hdrained, hmade, hdirectories⟩ := hends
  have hemptied : behind.traffic.pool = u.closeAll.pool.map f := by
    rw [hdrained]
    change r.pool.drain.2 = _
    rw [hpool, Pool.map_drain]
    rfl
  refine ⟨hemptied, fun hok =>
    ⟨hemptied, h.own, fun session hsession => ?_, hmade ▸ h.numbered⟩⟩
  -- The directory is one of those that are removed exactly if the session was idle.
  have hidle : (f session).directory ∈ r.pool.drain.1.map Connection.directory ↔
      session ∈ u.pool.sessions := by
    rw [hpool, Pool.map_drain, List.map_map, List.mem_map]
    refine ⟨?_, fun hmem => ⟨session, hmem, rfl⟩⟩
    rintro ⟨other, hother, hsame⟩
    exact h.own other (hsound.lt_of_mem_sessions hother) session hsession hsame ▸ hother
  rw [hdirectories hok, List.mem_filter, decide_eq_true_iff, hidle]
  change (f session).directory ∈ r.traffic.directories ∧ _ ↔ session ∉ u.pool.sessions ++ u.closed
  rw [h.opened session hsession, List.mem_append, not_or, and_comm]

end Act

end Foldbook
