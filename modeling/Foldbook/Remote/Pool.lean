/-!
# Session pools

Open sessions by destination.  A session is leased for one command and handed back afterwards, so a
destination never has two commands in flight; a session whose command failed is not handed back.
The pool holds the idle sessions, oldest first, and the names of the leased destinations.
-/

namespace Foldbook

/-- Idle sessions and leased destinations. -/
structure Pool (ς : Type) where
  idle : List (String × ς) := []
  leased : List String := []
  deriving Repr

/-- Why a session was not leased. -/
inductive LeaseFault (ε : Type) where
  /-- The destination is leased already. -/
  | alreadyLeased (destination : String)
  /-- Connecting failed. -/
  | notConnected (fault : ε)
  deriving DecidableEq, Repr

namespace Pool

variable {ς ε : Type}

/-- The number of idle sessions. -/
def size (p : Pool ς) : Nat := p.idle.length

/-- Whether a destination is leased. -/
def isLeased (p : Pool ς) (destination : String) : Bool := p.leased.contains destination

/-- Takes the idle session of a destination out of the pool and marks the destination as leased;
without one it connects first. -/
def lease {m : Type → Type} [Monad m] (connect : m (Except ε ς)) (p : Pool ς)
    (destination : String) : m (Except (LeaseFault ε) (ς × Pool ς)) :=
  if p.isLeased destination then pure (.error (.alreadyLeased destination))
  else
    match p.idle.lookup destination with
    | some session =>
      pure (.ok (session, {
        idle := p.idle.filter fun entry => entry.1 != destination
        leased := destination :: p.leased }))
    | none => do
      match ← connect with
      | .ok session => pure (.ok (session, { p with leased := destination :: p.leased }))
      | .error fault => pure (.error (.notConnected fault))

/-- Ends a lease without handing the session back. -/
def forget (p : Pool ς) (destination : String) : Pool ς :=
  { p with leased := p.leased.filter (· != destination) }

/-- Replaces the idle session of a destination, or adds one at the end. -/
def put (destination : String) (session : ς) : List (String × ς) → List (String × ς)
  | [] => [(destination, session)]
  | (d, s) :: rest =>
    if d = destination then (d, session) :: rest else (d, s) :: put destination session rest

/-- Ends a lease and hands the session back. -/
def giveBack (p : Pool ς) (destination : String) (session : ς) : Pool ς :=
  { p.forget destination with idle := put destination session p.idle }

/-- The idle sessions, and the pool without them. -/
def drain (p : Pool ς) : List ς × Pool ς :=
  (p.idle.map Prod.snd, { p with idle := [] })

end Pool

end Foldbook
