import Foldbook.Proofs.Remote.Pool

/-!
# A pool in use

Any number of users lease sessions from one pool at the same time, to
different destinations.  `Usage` is the pool with the leases that have not
ended, the sessions connected so far, and how often each has been closed.
The sessions are numbered in the order in which they were connected.

* `Usage.lease`, `Usage.release`, `Usage.fail` and `Usage.closeAll` are what
  can be done; every one is done as a whole.
* `Usage.Sound` is what each of them keeps (`Sound.step`), so it holds after
  any number of them (`sound_after`).
* `orderly_after`: no session is lost, duplicated or leased after it has been
  closed.
-/

namespace Foldbook.Pool

/-- A lease that has not ended. -/
structure Lease where
  destination : String
  session : Nat
  deriving DecidableEq, Repr

/-- A pool, the leases from it, and what has become of the sessions. -/
structure Usage where
  pool : Pool Nat := {}
  /-- The leases that have not ended, last first. -/
  leases : List Lease := []
  /-- The destinations of the sessions connected so far, in the order of their numbers. -/
  connected : List String := []
  /-- The sessions that have been closed, last first, each as often as it has been. -/
  closed : List Nat := []
  deriving Repr

namespace Usage

/-- The usage with one more session connected. -/
def connectTo (u : Usage) (destination : String) : Usage :=
  { u with connected := u.connected ++ [destination] }

/-- Connects to a host, which accepts the connection or refuses it. -/
def connect (destination : String) (accepts : Bool) : StateM Usage (Except Unit Nat) := do
  if accepts then
    let u ← get
    set (u.connectTo destination)
    return .ok u.connected.length
  else return .error ()

/-- Begins a lease and answers its session. -/
def lease (destination : String) (accepts : Bool) :
    StateM Usage (Except (LeaseFault Unit) Nat) := do
  match ← (← get).pool.lease (connect destination accepts) destination with
  | .error fault => return .error fault
  | .ok (session, pool) =>
    modify fun u => { u with pool, leases := ⟨destination, session⟩ :: u.leases }
    return .ok session

/-- Ends a lease normally. -/
def release (l : Lease) (u : Usage) : Usage :=
  if l ∈ u.leases then
    { u with pool := u.pool.giveBack l.destination l.session, leases := u.leases.erase l }
  else u

/-- Ends a lease by a failure, which closes the session. -/
def fail (l : Lease) (u : Usage) : Usage :=
  if l ∈ u.leases then
    { u with
      pool := u.pool.forget l.destination
      leases := u.leases.erase l
      closed := l.session :: u.closed }
  else u

/-- Closes all idle sessions, also while others are leased. -/
def closeAll (u : Usage) : Usage :=
  { u with pool := u.pool.drain.2, closed := u.pool.drain.1 ++ u.closed }

/-- Something that can be done with a pool. -/
inductive Action where
  /-- Leases a session to the destination, which accepts a connection or refuses it if one has to
  be made. -/
  | lease (destination : String) (accepts : Bool)
  | release (l : Lease)
  | fail (l : Lease)
  | closeAll
  deriving DecidableEq, Repr

/-- The usage behind an action. -/
def step (u : Usage) : Action → Usage
  | .lease destination accepts => ((lease destination accepts).run u).2
  | .release l => u.release l
  | .fail l => u.fail l
  | .closeAll => u.closeAll

/-- The usage behind a list of actions, from an empty pool. -/
def after (actions : List Action) : Usage := actions.foldl step {}

/-- Where a session can be. -/
inductive Place where
  | idle
  | held
  | closed
  deriving DecidableEq, Repr

/-- How often a session is in a place.  A closed session is there as often as it has been closed. -/
def count (u : Usage) (session : Nat) : Place → Nat
  | .idle => u.pool.sessions.count session
  | .held => (u.leases.map Lease.session).count session
  | .closed => u.closed.count session

/-! ## Beginning a lease -/

section

variable {u : Usage} {destination : String} {session : Nat} {l : Lease}

/-- The usage behind the beginning of a lease. -/
def hold (u : Usage) (destination : String) (session : Nat) : Usage :=
  { u with
    pool := u.pool.takeOut destination
    leases := ⟨destination, session⟩ :: u.leases }

theorem lease_of_isLeased (h : u.pool.isLeased destination = true) (accepts : Bool) :
    (lease destination accepts).run u = (.error (.alreadyLeased destination), u) := by
  rw [lease, StateT.run_bind, StateT.run_get]
  rw [pure_bind, Pool.lease_of_isLeased _ h]
  rfl

theorem lease_of_lookup (h : u.pool.isLeased destination = false)
    (hidle : u.pool.idle.lookup destination = some session) (accepts : Bool) :
    (lease destination accepts).run u = (.ok session, u.hold destination session) := by
  rw [lease, StateT.run_bind, StateT.run_get]
  rw [pure_bind, Pool.lease_of_lookup _ h hidle]
  rfl

theorem lease_of_accepted (h : u.pool.isLeased destination = false)
    (hidle : u.pool.idle.lookup destination = none) :
    (lease destination true).run u =
      (.ok u.connected.length, (u.connectTo destination).hold destination u.connected.length) := by
  rw [lease, StateT.run_bind, StateT.run_get]
  rw [pure_bind, Pool.lease_of_lookup_none _ h hidle]
  rfl

theorem lease_of_refused (h : u.pool.isLeased destination = false)
    (hidle : u.pool.idle.lookup destination = none) :
    (lease destination false).run u = (.error (.notConnected ()), u) := by
  rw [lease, StateT.run_bind, StateT.run_get]
  rw [pure_bind, Pool.lease_of_lookup_none _ h hidle]
  rfl

end

/-! ## What every action keeps -/

/-- What the leases have to do with the pool, and where the sessions are. -/
structure Sound (u : Usage) : Prop where
  proper : u.pool.Proper
  /-- The leased destinations are those of the leases. -/
  leased : (u.leases.map Lease.destination).Perm u.pool.leased
  /-- Every session is somewhere, and nowhere else. -/
  once : ∀ session, u.count session .idle + u.count session .held + u.count session .closed =
    if session < u.connected.length then 1 else 0
  idle : ∀ entry ∈ u.pool.idle, u.connected[entry.2]? = some entry.1
  held : ∀ l ∈ u.leases, u.connected[l.session]? = some l.destination

namespace Sound

variable {u : Usage} {destination : String} {session : Nat} {l : Lease}

theorem empty : Sound {} where
  proper := Proper.empty
  leased := .nil
  once _ := rfl
  idle _ h := absurd h List.not_mem_nil
  held _ h := absurd h List.not_mem_nil

/-- An idle session is leased. -/
theorem hold (h : u.Sound) (hleased : u.pool.isLeased destination = false)
    (hidle : u.pool.idle.lookup destination = some session) :
    (u.hold destination session).Sound := by
  have hperm := perm_idle_of_lookup h.proper.idle_nodup hidle
  have hsession : u.connected[session]? = some destination :=
    h.idle (destination, session) (hperm.mem_iff.mpr List.mem_cons_self)
  refine ⟨h.proper.takeOut hleased, h.leased.cons destination, fun other => ?_,
    fun entry hentry => h.idle entry (List.mem_of_mem_filter hentry),
    List.forall_mem_cons.mpr ⟨hsession, h.held⟩⟩
  -- What the place of the idle sessions loses, that of the leased ones gains.
  have hcount : u.pool.sessions.count other =
      (session :: (u.pool.takeOut destination).sessions).count other :=
    (hperm.map Prod.snd).count_eq other
  refine Eq.trans ?_ (h.once other)
  simp only [count, Usage.hold, List.map_cons, List.count_cons] at hcount ⊢
  omega

/-- A session is connected and leased. -/
theorem hold_connectTo (h : u.Sound) (hleased : u.pool.isLeased destination = false)
    (hidle : u.pool.idle.lookup destination = none) :
    ((u.connectTo destination).hold destination u.connected.length).Sound := by
  have hgrown : ∀ {session : Nat} {d : String}, u.connected[session]? = some d →
      (u.connected ++ [destination])[session]? = some d := by
    intro session d hd
    rwa [List.getElem?_append_left (List.getElem?_eq_some_iff.mp hd).1]
  have hsame := takeOut_of_lookup_none hidle
  refine ⟨h.proper.takeOut hleased, h.leased.cons destination, fun other => ?_, fun entry hentry =>
    hgrown (h.idle entry (List.mem_of_mem_filter hentry)),
    List.forall_mem_cons.mpr ⟨List.getElem?_concat_length, fun l hl => hgrown (h.held l hl)⟩⟩
  have honce := h.once other
  simp only [count, Usage.hold, connectTo, hsame, sessions, List.map_cons, List.count_cons,
    List.length_append, List.length_singleton, beq_iff_eq] at honce ⊢
  split at honce <;> split <;> split <;> omega

/-- The leased destinations behind the end of a lease. -/
theorem leased_forget (h : u.Sound) (hl : l ∈ u.leases) :
    ((u.leases.erase l).map Lease.destination).Perm (u.pool.forget l.destination).leased := by
  have hperm : u.pool.leased.Perm (l.destination :: (u.leases.erase l).map Lease.destination) :=
    h.leased.symm.trans ((List.perm_cons_erase hl).map Lease.destination)
  have hnodup : (u.pool.leased.map id).Nodup := by
    rw [List.map_id]
    exact h.proper.leased_nodup
  exact (perm_filter_bne id hperm hnodup).symm

/-- How often a session is held in front of the end of a lease. -/
theorem count_held_of_mem (hl : l ∈ u.leases) (other : Nat) :
    u.count other .held =
      ((u.leases.erase l).map Lease.session).count other + if l.session = other then 1 else 0 := by
  have hperm := (List.perm_cons_erase hl).map Lease.session
  rw [count, hperm.count_eq, List.map_cons, List.count_cons]
  simp only [beq_iff_eq]

theorem mem_leased (h : u.Sound) (hl : l ∈ u.leases) : l.destination ∈ u.pool.leased :=
  h.leased.mem_iff.mp (List.mem_map_of_mem hl)

theorem release (h : u.Sound) (l : Lease) : (u.release l).Sound := by
  rw [Usage.release]
  split
  case isFalse => exact h
  case isTrue hl =>
    have hidle := h.proper.idle_giveBack (h.mem_leased hl) l.session
    refine ⟨h.proper.giveBack (h.mem_leased hl) l.session, h.leased_forget hl, fun other => ?_,
      fun entry hentry => ?_, fun other hother => h.held other (List.mem_of_mem_erase hother)⟩
    · have honce := h.once other
      rw [count_held_of_mem hl] at honce
      simp only [count, sessions, hidle, List.map_append, List.count_append, List.map_cons,
        List.map_nil, List.count_singleton, beq_iff_eq] at honce ⊢
      omega
    · rw [hidle, List.mem_append, List.mem_singleton] at hentry
      rcases hentry with hentry | rfl
      · exact h.idle entry hentry
      · exact h.held l hl

theorem fail (h : u.Sound) (l : Lease) : (u.fail l).Sound := by
  rw [Usage.fail]
  split
  case isFalse => exact h
  case isTrue hl =>
    refine ⟨h.proper.forget l.destination, h.leased_forget hl, fun other => ?_, h.idle,
      fun other hother => h.held other (List.mem_of_mem_erase hother)⟩
    have honce := h.once other
    rw [count_held_of_mem hl] at honce
    simp only [count, sessions, Pool.forget, List.count_cons, beq_iff_eq] at honce ⊢
    omega

theorem closeAll (h : u.Sound) : u.closeAll.Sound where
  proper := h.proper.drain
  leased := h.leased
  once session := by
    refine Eq.trans ?_ (h.once session)
    simp only [count, sessions, Usage.closeAll, drain, List.count_append, List.map_nil,
      List.count_nil]
    omega
  idle _ hentry := absurd hentry List.not_mem_nil
  held := h.held

theorem session_lt (h : u.Sound) (hl : l ∈ u.leases) : l.session < u.connected.length :=
  (List.getElem?_eq_some_iff.mp (h.held l hl)).1

theorem lt_of_mem_sessions (h : u.Sound) (hsession : session ∈ u.pool.sessions) :
    session < u.connected.length := by
  obtain ⟨entry, hentry, rfl⟩ := List.mem_map.mp hsession
  exact (List.getElem?_eq_some_iff.mp (h.idle entry hentry)).1

theorem lt_of_mem_closed (h : u.Sound) (hsession : session ∈ u.closed) :
    session < u.connected.length := by
  have hone := h.once session
  have hcount : 0 < u.count session .closed := List.count_pos_iff.mpr hsession
  split at hone
  · assumption
  · omega

/-- What one action keeps. -/
theorem step (h : u.Sound) (action : Action) : (u.step action).Sound := by
  cases action with
  | release l => exact h.release l
  | fail l => exact h.fail l
  | closeAll => exact h.closeAll
  | lease destination accepts =>
    rw [Usage.step]
    cases hleased : u.pool.isLeased destination with
    | true =>
      rw [lease_of_isLeased hleased]
      exact h
    | false =>
      cases hidle : u.pool.idle.lookup destination with
      | some session =>
        rw [lease_of_lookup hleased hidle]
        exact h.hold hleased hidle
      | none =>
        cases accepts with
        | true =>
          rw [lease_of_accepted hleased hidle]
          exact h.hold_connectTo hleased hidle
        | false =>
          rw [lease_of_refused hleased hidle]
          exact h

end Sound

/-- Any number of actions leave a sound usage. -/
theorem sound_after (actions : List Action) : (after actions).Sound := by
  have hrun : ∀ u : Usage, u.Sound → (actions.foldl Usage.step u).Sound := by
    induction actions with
    | nil => exact fun u h => h
    | cons action actions ih => exact fun u h => ih (u.step action) (h.step action)
  exact hrun {} Sound.empty

/-! ## What the users can rely on -/

/-- No session is lost, duplicated or leased after it has been closed. -/
structure Orderly (u : Usage) : Prop where
  /-- A destination has at most one idle session, and none while it is leased. -/
  idle_nodup : u.pool.destinations.Nodup
  apart : ∀ destination ∈ u.pool.leased, destination ∉ u.pool.destinations
  /-- A leased destination has exactly one lease, any other none. -/
  one_lease : ∀ destination, (u.leases.map Lease.destination).count destination =
    if destination ∈ u.pool.leased then 1 else 0
  /-- Every session is in exactly one place, and there once. -/
  one_place : ∀ session < u.connected.length, ∃ place, ∀ other,
    u.count session other = if other = place then 1 else 0
  /-- Idle sessions are those of their destinations, and so are held ones. -/
  idle : ∀ entry ∈ u.pool.idle, u.connected[entry.2]? = some entry.1
  held : ∀ l ∈ u.leases, u.connected[l.session]? = some l.destination
  /-- A second lease is an error and changes nothing. -/
  second_lease : ∀ destination ∈ u.pool.leased, ∀ accepts,
    (lease destination accepts).run u = (.error (.alreadyLeased destination), u)
  /-- A refused connection changes nothing. -/
  refused : ∀ destination ∉ u.pool.leased, destination ∉ u.pool.destinations →
    (lease destination false).run u = (.error (.notConnected ()), u)
  /-- Any other lease begins, with a session that has not been closed. -/
  leases : ∀ destination ∉ u.pool.leased, ∀ accepts,
    destination ∈ u.pool.destinations ∨ accepts = true →
    ∃ session v, (lease destination accepts).run u = (.ok session, v) ∧
      v.leases = ⟨destination, session⟩ :: u.leases ∧ v.count session .closed = 0

namespace Sound

variable {u : Usage} {destination : String} {session : Nat} {l : Lease}

theorem one_lease (h : u.Sound) (destination : String) :
    (u.leases.map Lease.destination).count destination =
      if destination ∈ u.pool.leased then 1 else 0 := by
  rw [h.leased.count_eq, List.Nodup.count h.proper.leased_nodup]

/-- The place of a session. -/
theorem one_place (h : u.Sound) (hsession : session < u.connected.length) :
    ∃ place, ∀ other, u.count session other = if other = place then 1 else 0 := by
  have honce := h.once session
  rw [if_pos hsession] at honce
  have hsome : u.count session .idle = 1 ∨ u.count session .held = 1 ∨
      u.count session .closed = 1 := by omega
  rcases hsome with hplace | hplace | hplace
  · refine ⟨.idle, fun other => ?_⟩
    cases other <;> simp only [reduceCtorEq, if_true, if_false] <;> omega
  · refine ⟨.held, fun other => ?_⟩
    cases other <;> simp only [reduceCtorEq, if_true, if_false] <;> omega
  · refine ⟨.closed, fun other => ?_⟩
    cases other <;> simp only [reduceCtorEq, if_true, if_false] <;> omega

/-- A held session has not been closed. -/
theorem count_closed_of_mem (h : u.Sound) (hl : l ∈ u.leases) :
    u.count l.session .closed = 0 := by
  have honce := h.once l.session
  have hheld : 0 < u.count l.session .held :=
    List.count_pos_iff.mpr (List.mem_map_of_mem hl)
  rw [if_pos (h.session_lt hl)] at honce
  omega

/-- A lease that nothing stands against begins. -/
theorem exists_lease (h : u.Sound) (hleased : destination ∉ u.pool.leased) (accepts : Bool)
    (hcan : destination ∈ u.pool.destinations ∨ accepts = true) :
    ∃ session v, (lease destination accepts).run u = (.ok session, v) ∧
      v.leases = ⟨destination, session⟩ :: u.leases ∧ v.count session .closed = 0 := by
  have hfree := isLeased_eq_false_iff.mpr hleased
  cases hidle : u.pool.idle.lookup destination with
  | some session =>
    exact ⟨session, _, lease_of_lookup hfree hidle accepts, rfl,
      (h.hold hfree hidle).count_closed_of_mem List.mem_cons_self⟩
  | none =>
    obtain rfl : accepts = true :=
      hcan.resolve_left (lookup_idle_eq_none_iff.mp hidle)
    exact ⟨_, _, lease_of_accepted hfree hidle, rfl,
      (h.hold_connectTo hfree hidle).count_closed_of_mem List.mem_cons_self⟩

theorem orderly (h : u.Sound) : u.Orderly where
  idle_nodup := h.proper.idle_nodup
  apart := h.proper.apart
  one_lease := h.one_lease
  one_place _ := h.one_place
  idle := h.idle
  held := h.held
  second_lease _ hleased := lease_of_isLeased (isLeased_eq_true_iff.mpr hleased)
  refused _ hleased hidle :=
    lease_of_refused (isLeased_eq_false_iff.mpr hleased) (lookup_idle_eq_none_iff.mpr hidle)
  leases _ := h.exists_lease

end Sound

/-- After any actions on an empty pool, with any number of leases at the same time, every session
ever connected is idle under its destination, held by one lease or closed once, and nothing else.
A destination is never idle and leased, and is leased at most once; a second lease of it, and a
lease whose connection is refused, change nothing. -/
theorem orderly_after (actions : List Action) : (after actions).Orderly :=
  (sound_after actions).orderly

end Usage

end Foldbook.Pool
