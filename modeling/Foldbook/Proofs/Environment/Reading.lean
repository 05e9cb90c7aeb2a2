import Foldbook.Proofs.Composing
import Foldbook.Store

/-!
# What reads the environment

`Act.Keeps I` says of an action that it keeps what holds of the environment
and the files.  The functions below keep everything, one after another in
the order in which they call each other: programs that are started, the
connections to remote hosts, the variables of the process, substitution
(`keeps_settle`) and requests (`keeps_send`).  So they leave the environment
and the files as they were (`same_of_keeps`).

What setting variables keeps is kept by whole documents (`keeps_runLines`).
-/

namespace Foldbook

namespace Act

variable {I : Store → Disk → Prop} {α : Type}

/-- The action keeps what holds of the environment and the files. -/
def Keeps (I : Store → Disk → Prop) (act : Act α) : Prop :=
  ∀ r, I r.store r.disk → act.Ends r fun _ behind => I behind.store behind.disk

namespace Keeps

theorem pure (a : α) : Keeps I (Pure.pure a : Act α) := fun _ h => h

theorem get : Keeps I (MonadState.get : Act Runner) := fun _ h => h

theorem note (record : LogRecord) : Keeps I (note record) := fun _ h => h

theorem throw (stop : Stop) : Keeps I (throw stop : Act α) := fun _ h => h

theorem fail (f : Failure) : Keeps I (fail f : Act α) := .throw _

/-- A change of the runner that is none of the environment or the files. -/
theorem modify {change : Runner → Runner} (hstore : ∀ r, (change r).store = r.store)
    (hdisk : ∀ r, (change r).disk = r.disk) : Keeps I (modify change : Act PUnit) := by
  intro r h
  rw [ends_modify, hstore, hdisk]
  exact h

theorem bind {β : Type} {act : Act α} {next : α → Act β} (hact : Keeps I act)
    (hnext : ∀ a, Keeps I (next a)) : Keeps I (act >>= next) := fun r h =>
  (hact r h).bind (fun a behind hbehind => hnext a behind hbehind) fun _ _ hbehind => hbehind

theorem attempt {act : Act α} (hact : Keeps I act) : Keeps I (attempt act) := by
  intro r h
  rw [ends_attempt]
  refine (hact r h).mono fun answer behind hbehind => ?_
  rcases answer with (f | destination | message) | a <;> exact hbehind

theorem tryCatch {act : Act α} {handler : Stop → Act α} (hact : Keeps I act)
    (hhandler : ∀ stop, Keeps I (handler stop)) : Keeps I (tryCatch act handler) := by
  intro r h
  rw [ends_tryCatch]
  refine (hact r h).mono fun answer behind hbehind => ?_
  cases answer with
  | ok a => exact hbehind
  | error stop => exact hhandler stop behind hbehind

end Keeps

theorem composes_keeps : Composes fun _ => Keeps I where
  pure := .pure
  get := .get
  note := .note
  fail := .fail
  mono := id
  bind := .bind
  attempt := .attempt

/-! ## Programs and connections -/

theorem keeps_start (program : String) (args : List String) : Keeps I (start program args) := by
  intro r h
  simp only [start, ends_bind, ends_get, ends_set]
  split
  · exact h
  · exact h
  · exact h
  · split <;> exact h

end Act

namespace Connection

open Act

variable {I : Store → Disk → Prop}

theorem keeps_removeDirectory (name : String) : Keeps I (removeDirectory name) :=
  .modify (fun _ => rfl) fun _ => rfl

theorem keeps_isOpen (c : Connection) : Keeps I c.isOpen := .bind .get fun _ => .pure _

theorem keeps_connect (target : Target) (program : String) : Keeps I (connect target program) := by
  have hmake : Keeps I makeDirectory := fun _ h => h
  have hlogged (name : String) : Keeps I (loggedText? name) := fun _ h => h
  refine hmake.bind fun directory => ?_
  dsimp only
  split
  · intro r h
    rw [ends_bind, ends_throw]
    exact h
  · refine Keeps.bind (.bind .get fun _ => .pure _) fun home => .bind (.note _) fun _ => ?_
    refine (keeps_start _ _).bind fun answer => ?_
    cases answer with
    | error fault => exact (keeps_removeDirectory _).bind fun _ => .fail _
    | ok finished =>
      dsimp only
      split
      · exact (hlogged _).bind fun logged => (keeps_removeDirectory _).bind fun _ => .fail _
      · exact .pure _

theorem keeps_run (c : Connection) (line : String) : Keeps I (c.run line) := by
  refine c.keeps_isOpen.bind fun opened => ?_
  split
  · exact .fail _
  · refine (keeps_start _ _).bind fun answer => ?_
    cases answer with
    | error fault => exact .fail _
    | ok finished =>
      dsimp only
      split
      · exact .fail _
      · exact .pure _

theorem keeps_close (c : Connection) : Keeps I c.close := by
  refine c.keeps_isOpen.bind fun opened => ?_
  split
  · exact .pure _
  · have hstart (words : List String) : Keeps I (some <$> start c.program words) := by
      rw [map_eq_pure_bind]
      exact (keeps_start _ _).bind fun _ => .pure _
    have hasked := (hstart ["-S", c.socket, "-O", "exit", c.target.destination]).tryCatch
      fun stop => (keeps_removeDirectory c.directory).bind fun _ => .throw stop
    refine hasked.bind fun outcome => ?_
    dsimp only
    split
    · exact .bind (.note _) fun _ => (keeps_removeDirectory _).bind fun _ => .note _
    · exact (keeps_removeDirectory _).bind fun _ => .note _

end Connection

namespace Act

variable {I : Store → Disk → Prop} {α : Type}

theorem keeps_useSession (destination : String) (c : Connection) {body : Connection → Act α}
    (hbody : ∀ c, Keeps I (body c)) : Keeps I (useSession destination c body) := by
  refine .bind (.note _) fun _ => ?_
  refine Keeps.bind ((hbody c).tryCatch fun stop => ?_) fun answer => ?_
  · refine .bind (.modify (fun _ => rfl) fun _ => rfl) fun _ => ?_
    exact c.keeps_close.bind fun _ => .throw _
  · exact .bind (.modify (fun _ => rfl) fun _ => rfl) fun _ => .pure _

theorem keeps_lease (pool : Pool Connection) {connect : Act (Except Stop Connection)}
    (hconnect : Keeps I connect) (destination : String) :
    Keeps I (pool.lease connect destination) := by
  unfold Pool.lease
  split
  · exact .pure _
  · split
    · exact .pure _
    · refine hconnect.bind fun answer => ?_
      cases answer <;> exact .pure _

theorem keeps_withSession (target : Target) {body : Connection → Act α}
    (hbody : ∀ c, Keeps I (body c)) : Keeps I (withSession target body) := by
  refine .bind .get fun r => ?_
  have hconnect : Keeps I fun r =>
      (.ok ((Connection.connect target r.shell).perform r).1,
        ((Connection.connect target r.shell).perform r).2) :=
    fun r h => Connection.keeps_connect target r.shell r h
  refine (keeps_lease r.pool hconnect target.destination).bind fun leased => ?_
  split
  · exact .throw _
  · exact .throw _
  · refine .bind (.modify (fun _ => rfl) fun _ => rfl) fun _ => ?_
    exact keeps_useSession _ _ hbody

theorem keeps_target? : Keeps I target? := .bind .get fun _ => composes_keeps.ofExcept _

theorem keeps_processVariable (selector name : String) :
    Keeps I (processVariable selector name) := by
  refine keeps_target?.bind fun target => ?_
  cases target with
  | none => exact .bind .get fun _ => .pure _
  | some target =>
    refine (keeps_withSession target fun c => ?_).bind fun told => .pure _
    exact (c.keeps_run _).bind fun _ => .pure _

theorem keeps_runLocally (program : String) (args : List String) :
    Keeps I (runLocally program args) := by
  refine (keeps_start _ _).bind fun answer => ?_
  cases answer with
  | error fault => exact .fail _
  | ok finished =>
    dsimp only
    split
    · exact .fail _
    · exact .pure _

theorem keeps_runClient (args : List String) : Keeps I (runClient args) := by
  refine .bind .get fun r => keeps_target?.bind fun target => ?_
  cases target with
  | none => exact keeps_runLocally _ _
  | some target => exact keeps_withSession target fun c => c.keeps_run _

theorem keeps_settle (text : String) : Keeps I (settle text) :=
  composes_keeps.settle keeps_processVariable text

theorem keeps_send (request : Request) (debug verbose : Bool) :
    Keeps I (Act.send request debug verbose) :=
  composes_keeps.send keeps_processVariable keeps_runClient request debug verbose

/-- What keeps everything leaves the environment and the files as they were. -/
theorem same_of_keeps {act : Act α} (h : ∀ I, Keeps I act) {r behind : Runner}
    {answer : Except Stop α} (hact : act.perform r = (answer, behind)) :
    behind.store = r.store ∧ behind.disk = r.disk := by
  have hsame := h (fun store disk => store = r.store ∧ disk = r.disk) r ⟨rfl, rfl⟩
  rw [Ends, hact] at hsame
  exact hsame

/-- What is kept by setting variables is kept by whole documents. -/
theorem keeps_runLines (hset : ∀ name value, Keeps I (setVariable name value))
    (lines : List String) (plainFirst : Bool) : Keeps I (runLines lines plainFirst) :=
  composes_keeps.runLines keeps_processVariable hset keeps_runClient lines plainFirst

end Act

end Foldbook
