import Foldbook.Proofs.Composing
import Foldbook.Proofs.Environment.Setting
import Foldbook.Proofs.Remote.Accounts

/-!
# What a runner leaves behind

Whatever a runner is asked to do, it leaves the sessions settled:
`Act.Settles` says so of an action, and is kept by putting actions together
(`Act.composes_settles`), so that it holds of whole documents.

* `Act.settles_processVariable` and `Act.settles_runClient` are the two
  places where sessions are leased.
* `Operation.performAll_settled`: behind any operations the live sessions are
  the idle ones, and each interruption has left one directory.
* `Runner.Fresh.accounted`: when the runner closes then, every session has
  been asked to exit, once and last, and no other directory is left.
-/

namespace Foldbook

/-- The environment names the host. -/
def Runner.Names (r : Runner) (target : Target) : Prop :=
  Target.ofSettings r.store.remoteSettings = .ok (some target)

/-- The environment names a host whose paths cannot be written out, and there is a directory for
it. -/
def Runner.Lost (r first : Runner) (spare : List String) : Prop :=
  ∃ target directory, r.Names target ∧ target.expands = false ∧
    Settled first (directory :: spare) r.traffic

namespace Act

variable {first : Runner} {α : Type} {spare : List String} {r : Runner}

/-- What an action leaves that began with the sessions settled, and that may only end with a failure
if `fails`. -/
def LeavesSettled (first : Runner) (fails : Prop) (spare : List String) :
    Except Stop α → Runner → Prop
  | .ok _, behind => Settled first spare behind.traffic
  | .error (.failure _), behind => fails ∧ Settled first spare behind.traffic
  | .error stop, behind => stop = Connection.nullName ∧ behind.Lost first spare

/-- The action leaves the sessions settled. -/
def Settles (first : Runner) (fails : Prop) (act : Act α) : Prop :=
  ∀ r spare, Settled first spare r.traffic → act.Ends r (LeavesSettled first fails spare)

/-- Leaving the sessions settled is kept by putting actions together. -/
theorem composes_settles : Composes fun fails => Settles first fails where
  pure a := fun _ _ h => h
  get := fun _ _ h => h
  note record := fun _ _ h => h
  fail f := fun _ _ h => ⟨trivial, h⟩
  mono := by
    intro fails α act h r spare hsettled
    refine (h r spare hsettled).mono fun answer behind hleaves => ?_
    rcases answer with (f | destination | message) | a
    · exact hleaves.1.elim
    · exact hleaves
    · exact hleaves
    · exact hleaves
  bind := by
    intro fails α β act next h hnext r spare hsettled
    refine (h r spare hsettled).bind (fun a behind hbehind => ?_) fun stop behind hstop => ?_
    · exact hnext a behind spare hbehind
    · cases stop <;> exact hstop
  attempt := by
    intro α act h r spare hsettled
    rw [ends_attempt]
    refine (h r spare hsettled).mono fun answer behind hleaves => ?_
    rcases answer with (f | destination | message) | a
    · exact hleaves.2
    · exact hleaves
    · exact hleaves
    · exact hleaves

/-! ## The two places where sessions are leased -/

/-- A command on the host that the environment names. -/
theorem withSession_leavesSettled (hfirst : first.Unbroken)
    (hsettled : Settled first spare r.traffic) {target : Target} (hnames : r.Names target)
    (line : String) {body : Connection → Act α}
    (hbody : ∀ c r, (body c).Ends r fun answer behind =>
      c.Runs line r.traffic answer behind.traffic) :
    (withSession target body).Ends r (LeavesSettled first True spare) := by
  refine (withSession_ends target line hbody).mono fun answer behind hvisits => ?_
  obtain ⟨hstore, hleaves⟩ := hsettled.visits hfirst hvisits
  have hsame : behind.Names target := by
    change behind.store = r.store at hstore
    rw [Runner.Names, hstore]
    exact hnames
  rcases answer with (f | destination | message) | a
  · exact ⟨trivial, hleaves⟩
  · obtain ⟨hstop, hexpands, directory, hbehind⟩ := hleaves
    exact ⟨hstop, target, directory, hsame, hexpands, hbehind⟩
  · obtain ⟨hstop, hexpands, directory, hbehind⟩ := hleaves
    exact ⟨hstop, target, directory, hsame, hexpands, hbehind⟩
  · exact hleaves

/-- Something is done on the host that the environment names, or else here. -/
theorem onTarget_ends {remote : Target → Act α} {here : Act α}
    {Q : Except Stop α → Runner → Prop}
    (hremote : ∀ target, r.Names target → (remote target).Ends r Q)
    (hhere : (∀ target, ¬r.Names target) → here.Ends r Q)
    (hrefused : (∀ target, ¬r.Names target) → ∀ f, Q (.error (.failure f)) r) :
    Ends (do
      match ← target? with
      | some target => remote target
      | none => here) r Q := by
  simp only [target?, ends_bind, ends_get, ends_ofExcept]
  cases hnamed : Target.ofSettings r.store.remoteSettings with
  | error cause =>
    refine hrefused (fun target hnames => ?_) _
    rw [Runner.Names, hnamed] at hnames
    cases hnames
  | ok named =>
    cases named with
    | some target => exact hremote target hnamed
    | none =>
      refine hhere fun target hnames => ?_
      rw [Runner.Names, hnamed] at hnames
      cases hnames

theorem settles_processVariable (hfirst : first.Unbroken) (selector name : String) :
    Settles first True (processVariable selector name) := by
  intro r spare hsettled
  refine onTarget_ends (fun target hnames => ?_) (fun _ => hsettled) fun _ f => ⟨trivial, hsettled⟩
  have hraw : ∀ c r, (Connection.raw c ("echo " ++ selector)).Ends r fun answer behind =>
      c.Runs ("echo " ++ selector) r.traffic answer behind.traffic := fun c r => c.raw_ends _
  refine (withSession_leavesSettled hfirst hsettled hnames _ hraw).bind (fun told behind h => h) ?_
  intro stop behind hstop
  cases stop <;> exact hstop

theorem runLocally_ends (program : String) (args : List String) :
    (runLocally program args).Ends r fun answer behind =>
      behind.traffic = r.traffic.starting (program :: args) ∧
        ∀ stop, answer = .error stop → r.traffic.conduct.Stops stop := by
  rw [runLocally, ends_bind]
  refine (start_ends program args).mono fun answer behind hstart => ?_
  obtain ⟨hstarts, hstarted⟩ := hstart
  cases hstarts with
  | broken message breaks =>
    exact ⟨hstarted, fun stop hstop => .inl ⟨message, breaks, (Except.error.inj hstop).symm⟩⟩
  | faulty fault _ =>
    exact ⟨hstarted, fun stop hstop => .inr ⟨_, (Except.error.inj hstop).symm⟩⟩
  | finished finished _ =>
    dsimp only
    split
    · exact ⟨hstarted, fun stop hstop => .inr ⟨_, (Except.error.inj hstop).symm⟩⟩
    · exact ⟨hstarted, fun stop hstop => absurd hstop (by simp)⟩

theorem settles_runLocally (hfirst : first.Unbroken) {program : String}
    (hprogram : program ≠ first.shell) (args : List String) :
    Settles first True (runLocally program args) := by
  intro r spare hsettled
  refine (runLocally_ends program args).mono fun answer behind hrun => ?_
  obtain ⟨hstarted, hstops⟩ := hrun
  have hbehind : Settled first spare behind.traffic := by
    rw [hstarted]
    exact ⟨hsettled.accounts.starting_other hprogram args, hsettled.resting⟩
  cases answer with
  | ok told => exact hbehind
  | error stop =>
    obtain ⟨message, hbreaks, -⟩ | ⟨f, rfl⟩ := hstops stop rfl
    · exact absurd hbreaks (hsettled.accounts.not_breaks hfirst message)
    · exact ⟨trivial, hbehind⟩

theorem settles_runClient (hfirst : first.Unbroken) (hclient : first.client ≠ first.shell)
    (args : List String) : Settles first True (runClient args) := by
  intro r spare hsettled
  rw [runClient, ends_bind, ends_get]
  have hprogram : r.client ≠ first.shell := by
    have hsame : r.client = first.client := hsettled.accounts.client
    rwa [hsame]
  have hcommand : ∀ c r', (Connection.command c r.client args).Ends r' fun answer behind =>
      c.Runs (Text.Shell.command (r.client :: args)) r'.traffic answer behind.traffic :=
    fun c r' => c.run_ends _
  refine onTarget_ends (fun target hnames => ?_) (fun _ => ?_) fun _ f => ⟨trivial, hsettled⟩
  · exact withSession_leavesSettled hfirst hsettled hnames _ hcommand
  · exact settles_runLocally hfirst hprogram args r spare hsettled

/-! ## Setting variables -/

theorem setVariable_ends (name : String) (value : Json) :
    (setVariable name value).Ends r fun answer behind =>
      (∃ store, behind.traffic = { r.traffic with store }) ∧
        ∀ stop, answer = .error stop → ∃ f, stop = .failure f := by
  refine (setVariable_sets name value r).mono ?_
  rintro _ _ ⟨outcome, store, disk, log, rfl, rfl, -⟩
  refine ⟨⟨store, rfl⟩, fun stop hstop => ?_⟩
  cases outcome with
  | error f => exact ⟨f, (Except.error.inj hstop).symm⟩
  | ok _ => cases hstop

theorem settles_setVariable (name : String) (value : Json) :
    Settles first True (setVariable name value) := by
  intro r spare hsettled
  refine (setVariable_ends name value).mono fun answer behind hset => ?_
  obtain ⟨⟨store, hstore⟩, hstops⟩ := hset
  have hkept : Settled first spare behind.traffic :=
    hstore ▸ ⟨hsettled.accounts.withStore store, hsettled.resting⟩
  cases answer with
  | ok _ => exact hkept
  | error stop =>
    obtain ⟨f, rfl⟩ := hstops stop rfl
    exact ⟨trivial, hkept⟩

/-! ## Whole operations -/

section

variable (hfirst : first.Unbroken)

include hfirst

theorem settles_resolve (selector : String) : Settles first True (resolve selector) :=
  composes_settles.resolve (settles_processVariable hfirst) selector

theorem settles_settle (text : String) : Settles first True (settle text) :=
  composes_settles.settle (settles_processVariable hfirst) text

theorem settles_define (line : String) : Settles first True (define line) :=
  composes_settles.define (settles_processVariable hfirst) settles_setVariable line

theorem settles_requestArguments (request : Request) (verbose : Bool) :
    Settles first True (requestArguments request verbose) :=
  composes_settles.requestArguments (settles_processVariable hfirst) request verbose

variable (hclient : first.client ≠ first.shell)

include hclient

theorem settles_send (request : Request) (debug verbose : Bool) :
    Settles first True (Act.send request debug verbose) :=
  composes_settles.send (settles_processVariable hfirst) (settles_runClient hfirst hclient) request
    debug verbose

theorem simulates_settles (rounds : Nat) :
    Simulates (fun act _ => Settles first False act) (services rounds) (services rounds) :=
  composes_settles.simulates (settles_processVariable hfirst) settles_setVariable
    (settles_runClient hfirst hclient) rounds

theorem settles_runLines (lines : List String) (plainFirst : Bool) :
    Settles first False (runLines lines plainFirst) :=
  composes_settles.runLines (settles_processVariable hfirst) settles_setVariable
    (settles_runClient hfirst hclient) lines plainFirst

theorem settles_runLoop (block : LoopBlock) (run : LoopRun) :
    Settles first False (runLoop block run) := by
  refine composes_settles.bind composes_settles.get fun r => ?_
  have h := simulates_settles hfirst hclient r.rounds
  exact h.runLoop (y := Document.runLines (services r.rounds) block.lines true) block
    (h.runLines block.lines true) r.rounds run

/-- A document that is stopped reports the stop. -/
theorem handle_ends (source : String) {r : Runner} (hsettled : Settled first spare r.traffic) :
    (handle source).Ends r fun answer behind => ∃ outcome, answer = .ok outcome ∧
      match outcome with
      | .success _ => Settled first spare behind.traffic
      | .error message => message = Connection.nullName.message ∧ behind.Lost first spare := by
  have hrun :=
    (simulates_settles hfirst hclient r.rounds).runLines (Text.documentLines source) false
  simp only [handle, ends_tryCatch, ends_bind, ends_get, ends_pure, ends_note]
  refine (hrun r spare hsettled).mono fun answer behind hleaves => ?_
  rcases answer with (f | destination | message) | text
  · exact hleaves.1.elim
  · exact absurd hleaves.1 (by simp [Connection.nullName])
  · obtain ⟨hstop, hlost⟩ := hleaves
    exact ⟨_, rfl, congrArg Stop.message hstop, hlost⟩
  · exact ⟨_, rfl, hleaves⟩

end

/-! ## Closing -/

theorem closeEach_ends (hfirst : first.Unbroken) (sessions : List Connection) {r : Runner}
    (h : Accounts first sessions spare r.traffic) :
    (closeEach sessions).Ends r fun answer behind =>
      answer = .ok () ∧ Accounts first [] spare behind.traffic ∧
        behind.traffic.pool = r.traffic.pool := by
  induction sessions generalizing r with
  | nil => exact ⟨rfl, h, rfl⟩
  | cons c sessions ih =>
    refine (c.close_ends).bind (fun _ r₁ hcloses => ?_) fun stop r₁ hcloses => ?_
    · obtain ⟨-, haccounts, hpool⟩ := h.closes hfirst hcloses
      refine (ih haccounts).mono fun answer r₂ hrest => ?_
      exact ⟨hrest.1, hrest.2.1, hrest.2.2.trans hpool⟩
    · exact absurd (h.closes hfirst hcloses).1 (by simp)

/-- Closing asks every session to exit. -/
theorem closeAll_ends (hfirst : first.Unbroken) {r : Runner}
    (hsettled : Settled first spare r.traffic) :
    closeAll.Ends r fun answer behind =>
      answer = .ok () ∧ Settled first spare behind.traffic ∧
        Accounts first [] spare behind.traffic := by
  simp only [closeAll, ends_bind, ends_get, ends_modify]
  have hdrained : Accounts first r.pool.sessions spare
      ({ r with pool := r.pool.drain.2 } : Runner).traffic := hsettled.accounts.withPool _
  refine (closeEach_ends hfirst _ hdrained).mono fun answer behind hclosed => ?_
  obtain ⟨hanswer, haccounts, hpool⟩ := hclosed
  refine ⟨hanswer, ⟨?_, ?_⟩, haccounts⟩
  · rw [hpool]
    exact haccounts
  · rw [hpool]
    exact ⟨hsettled.resting.free, fun entry hentry => absurd hentry List.not_mem_nil,
      List.nodup_nil⟩

end Act

/-! ## Operations -/

/-- Something a runner can be asked to do. -/
inductive Operation where
  | handle (source : String)
  | runLines (lines : List String) (plainFirst : Bool)
  | runLoop (block : LoopBlock) (run : LoopRun)
  | settle (text : String)
  | define (line : String)
  | resolve (selector : String)
  | setVariable (name : String) (value : Json)
  | requestArguments (request : Request) (verbose : Bool)
  | send (request : Request) (debug verbose : Bool)
  | runClient (args : List String)
  | closeAll

namespace Operation

/-- Does what is asked for.  A document reports by itself what has stopped it. -/
def act : Operation → Act (Option String)
  | .handle source => do
    match ← Act.handle source with
    | .success _ => return none
    | .error message => return some message
  | .runLines lines plainFirst => (fun _ => none) <$> Act.runLines lines plainFirst
  | .runLoop block run => (fun _ => none) <$> Act.runLoop block run
  | .settle text => (fun _ => none) <$> Act.settle text
  | .define line => (fun _ => none) <$> Act.define line
  | .resolve selector => (fun _ => none) <$> Act.resolve selector
  | .setVariable name value => (fun _ => none) <$> Act.setVariable name value
  | .requestArguments request verbose => (fun _ => none) <$> Act.requestArguments request verbose
  | .send request debug verbose => (fun _ => none) <$> Act.send request debug verbose
  | .runClient args => (fun _ => none) <$> Act.runClient args
  | .closeAll => (fun _ => none) <$> Act.closeAll

/-- The words of what interrupted an operation.  A failure is an answer, not an interruption. -/
def interruption : Except Stop (Option String) → Option String
  | .ok reported => reported
  | .error (.failure _) => none
  | .error stop => some stop.message

/-- Does what is asked for on a runner, and answers what interrupted it. -/
def perform (o : Operation) (r : Runner) : Option String × Runner :=
  (interruption (o.act.perform r).1, (o.act.perform r).2)

/-- Does one thing after another, and answers the interruptions. -/
def performAll : List Operation → Runner → List String × Runner
  | [], r => ([], r)
  | o :: more, r =>
    let rest := performAll more (o.perform r).2
    ((o.perform r).1.toList ++ rest.1, rest.2)

section

variable {first : Runner} {spare : List String} {r : Runner}

/-- The sessions are settled behind an operation, and if it has been interrupted, that was by a path
that could not be written out. -/
def LeavesSettled (first : Runner) (spare : List String) : Option String → Runner → Prop
  | none, behind => Settled first spare behind.traffic
  | some message, behind =>
    message = Connection.nullName.message ∧ behind.Lost first spare

theorem map_leavesSettled {α : Type} {fails : Prop} {act : Act α}
    (h : Act.Settles first fails act) (hsettled : Settled first spare r.traffic) :
    ((fun _ => none) <$> act : Act (Option String)).Ends r fun answer behind =>
      LeavesSettled first spare (interruption answer) behind := by
  rw [Act.ends_map]
  refine (h r spare hsettled).mono fun answer behind hleaves => ?_
  rcases answer with (f | destination | message) | a
  · exact hleaves.2
  · exact ⟨congrArg Stop.message hleaves.1, hleaves.2⟩
  · exact ⟨congrArg Stop.message hleaves.1, hleaves.2⟩
  · exact hleaves

theorem perform_leavesSettled (hfirst : first.Unbroken) (hclient : first.client ≠ first.shell)
    (o : Operation) (hsettled : Settled first spare r.traffic) :
    LeavesSettled first spare (o.perform r).1 (o.perform r).2 := by
  change o.act.Ends r fun answer behind => LeavesSettled first spare (interruption answer) behind
  cases o with
  | handle source =>
    refine (Act.handle_ends hfirst hclient source hsettled).bind (fun outcome behind h => ?_)
      fun stop behind h => ?_
    · obtain ⟨same, hsame, hleaves⟩ := h
      obtain rfl := Except.ok.inj hsame
      cases outcome <;> exact hleaves
    · obtain ⟨outcome, hsame, -⟩ := h
      exact absurd hsame (by simp)
  | runLines lines plainFirst =>
    exact map_leavesSettled (Act.settles_runLines hfirst hclient lines plainFirst) hsettled
  | runLoop block run =>
    exact map_leavesSettled (Act.settles_runLoop hfirst hclient block run) hsettled
  | settle text => exact map_leavesSettled (Act.settles_settle hfirst text) hsettled
  | define line => exact map_leavesSettled (Act.settles_define hfirst line) hsettled
  | resolve selector => exact map_leavesSettled (Act.settles_resolve hfirst selector) hsettled
  | setVariable name value => exact map_leavesSettled (Act.settles_setVariable name value) hsettled
  | requestArguments request verbose =>
    exact map_leavesSettled (Act.settles_requestArguments hfirst request verbose) hsettled
  | send request debug verbose =>
    exact map_leavesSettled (Act.settles_send hfirst hclient request debug verbose) hsettled
  | runClient args => exact map_leavesSettled (Act.settles_runClient hfirst hclient args) hsettled
  | closeAll =>
    rw [act, Act.ends_map]
    refine (Act.closeAll_ends hfirst hsettled).mono fun answer behind hclosed => ?_
    obtain ⟨rfl, hbehind, -⟩ := hclosed
    exact hbehind

/-- Every interruption has left one directory. -/
theorem performAll_settled (hfirst : first.Unbroken) (hclient : first.client ≠ first.shell)
    (operations : List Operation) (hsettled : Settled first spare r.traffic) :
    (∀ message ∈ (performAll operations r).1, message = Connection.nullName.message) ∧
      ∃ left, left.length = (performAll operations r).1.length + spare.length ∧
        Settled first left (performAll operations r).2.traffic := by
  induction operations generalizing r spare with
  | nil => exact ⟨fun _ h => absurd h List.not_mem_nil, spare, (Nat.zero_add _).symm, hsettled⟩
  | cons o more ih =>
    have hstep := perform_leavesSettled hfirst hclient o hsettled
    rw [performAll]
    dsimp only
    cases hinterrupted : (o.perform r).1 with
    | none =>
      rw [hinterrupted] at hstep
      exact ih hstep
    | some message =>
      rw [hinterrupted] at hstep
      obtain ⟨hmessage, target, directory, -, -, hbehind⟩ := hstep
      obtain ⟨hmessages, left, hleft, hend⟩ := ih hbehind
      refine ⟨List.forall_mem_cons.mpr ⟨hmessage, hmessages⟩, left, ?_, hend⟩
      rw [Option.toList_some, List.singleton_append, List.length_cons, hleft, List.length_cons]
      omega

end

end Operation

/-- A runner that has not started anything. -/
structure Runner.New (r : Runner) : Prop where
  idle : r.pool.idle = []
  leased : r.pool.leased = []
  started : r.started = []
  directories : r.directories = []

theorem Runner.New.resting {r : Runner} (h : r.New) : Resting r.pool where
  free := h.leased
  keyed entry hentry := by
    rw [h.idle] at hentry
    exact absurd hentry List.not_mem_nil
  nodup := by
    rw [Pool.destinations, h.idle]
    exact List.nodup_nil

theorem Runner.New.housed {r : Runner} (h : r.New) :
    Housed r.traffic.pool.sessions [] r.traffic := by
  have hsessions : r.traffic.pool.sessions = [] := by
    rw [Pool.sessions, Runner.traffic, h.idle, List.map_nil]
  have hdirectories : r.traffic.directories = [] := by
    rw [Runner.traffic, h.directories, List.map_nil]
  rw [hsessions]
  exact {
    directories := hdirectories ▸ .nil
    distinct := hdirectories ▸ List.nodup_nil
    numbered := hdirectories ▸ fun name hname => absurd hname List.not_mem_nil }

/-- A new runner that will not start a program that breaks, and does not connect with the program
that sends requests. -/
structure Runner.Fresh (r : Runner) : Prop extends r.New where
  apart : r.client ≠ r.shell
  unbroken : r.Unbroken

theorem Runner.Fresh.settled {r : Runner} (h : r.Fresh) : Settled r [] r.traffic := by
  have hsessions : r.traffic.pool.sessions = [] := by
    rw [Pool.sessions, Runner.traffic, h.idle, List.map_nil]
  have hcontacts : r.contacts r.traffic.started = [] := by
    rw [Runner.traffic, h.started]
    rfl
  have hhoused := h.housed
  refine ⟨?_, h.resting⟩
  rw [hsessions] at hhoused ⊢
  exact { hhoused with
    client := rfl
    shell := rfl
    programs := by rw [Runner.traffic, h.started, List.length_nil, List.drop_zero]
    otherwise := rfl
    lawful := hcontacts ▸ .nil
    live := hcontacts ▸ .nil
    owned := fun c hc => absurd hc List.not_mem_nil
    sockets := hcontacts ▸ fun c hc => absurd hc List.not_mem_nil }

/-- How a runner stands behind some operations, and how it is left when it closes then. -/
structure Accounted (first : Runner) (interruptions : List String) (behind : Runner) : Prop where
  /-- No destination is leased between operations. -/
  free : behind.pool.leased = []
  /-- Nothing has interrupted an operation but a path that could not be written out. -/
  interrupted : ∀ message ∈ interruptions, message = "embedded null byte"
  /-- The next operation is only interrupted if the environment then names a host with such a
  path. -/
  named : ∀ (o : Operation) (message : String), (o.perform behind).1 = some message →
    ∃ target, (o.perform behind).2.Names target ∧ target.expands = false
  /-- Closing is not interrupted. -/
  closes : (Act.closeAll.perform behind).1 = .ok ()
  /-- At no time have two sessions to one destination been live. -/
  live : ∀ contacts, contacts <:+ first.contacts (Act.closeAll.perform behind).2.started →
    ((Contact.live contacts).map Prod.snd).Nodup
  /-- Every session whose master has connected has been asked to exit once, and then had no more
  commands. -/
  ended : ∀ socket destination,
    .master socket destination true ∈ first.contacts (Act.closeAll.perform behind).2.started →
      ∃ lines : List String, Contact.ofSession socket
          (first.contacts (Act.closeAll.perform behind).2.started) =
        .exit socket destination :: lines.map (.command socket destination) ++
          [.master socket destination true]
  /-- As many directories are left as operations have been interrupted. -/
  directories : (Act.closeAll.perform behind).2.directories.length = interruptions.length

/-- A runner that has done any operations, on any hosts and with any outcomes of the programs it
starts, leaves no session when it closes, and a directory only for each operation that has been
interrupted by a path that could not be written out. -/
theorem Runner.Fresh.accounted {first : Runner} (h : first.Fresh) (operations : List Operation) :
    Accounted first (Operation.performAll operations first).1
      (Operation.performAll operations first).2 := by
  obtain ⟨hmessages, left, hleft, hbehind⟩ :=
    Operation.performAll_settled h.unbroken h.apart operations h.settled
  obtain ⟨hclosing, hclosed, haccounts⟩ := Act.closeAll_ends h.unbroken hbehind
  have hlive : Contact.live (first.contacts _) = [] := List.perm_nil.mp haccounts.live
  refine ⟨hbehind.resting.free, hmessages, fun o message hmessage => ?_, hclosing,
    fun contacts hsuffix => ?_, fun socket destination hmaster => ?_, ?_⟩
  · have hstep := Operation.perform_leavesSettled h.unbroken h.apart o hbehind
    rw [hmessage] at hstep
    obtain ⟨-, target, directory, hnames, hexpands, -⟩ := hstep
    exact ⟨target, hnames, hexpands⟩
  · exact (haccounts.lawful.of_suffix hsuffix).live_nodup
  · exact haccounts.lawful.ended_of_live_eq_nil hlive hmaster
  · have hlength := haccounts.directories.length_eq
    rw [List.map_nil, List.nil_append, hleft] at hlength
    simpa [Runner.traffic] using hlength

/-- An environment with a key file in the home of a user whose name has a null character. -/
def nullKeyRunner : Runner where
  store := {
    document := .obj [("sshTo", .str "b"), ("sshKey", .str "~\x00")]
    backend := .memory 0 }

/-- A document that asks for a variable of the host, and then a lookup with another key file. -/
def nullKeyOperations : List Operation :=
  [.handle "###\x7b\n@x = \x7b\x7b$X\x7d\x7d\n###\x7d", .setVariable "sshKey" (.str "key"),
    .resolve "$X"]

theorem accounted_nullKey :
    nullKeyRunner.Fresh ∧
      Accounted nullKeyRunner (Operation.performAll nullKeyOperations nullKeyRunner).1
        (Operation.performAll nullKeyOperations nullKeyRunner).2 ∧
      (Operation.performAll nullKeyOperations nullKeyRunner).1 = ["embedded null byte"] ∧
      (Act.closeAll.perform
        (Operation.performAll nullKeyOperations nullKeyRunner).2).2.directories =
          [{ name := "CTL1" }] := by
  have hunbroken : nullKeyRunner.Unbroken := by
    intro conduct hconduct message
    rw [List.mem_singleton.mp hconduct]
    exact fun h => Conduct.noConfusion h
  have hfresh : nullKeyRunner.Fresh := ⟨⟨rfl, rfl, rfl, rfl⟩, by decide, hunbroken⟩
  exact ⟨hfresh, hfresh.accounted nullKeyOperations, by decide +kernel, by decide +kernel⟩

end Foldbook
