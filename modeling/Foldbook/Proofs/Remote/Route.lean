import Mathlib.Data.List.Induction
import Foldbook.Proofs.Remote.Operations

/-!
# Which way a command takes

The environment may name another host, or the same host in another way, from
one command to the next.  A command goes to the destination that is named when
it is run.  If there is an idle session to this destination it is used as it
is; the port and the files are those that were named when it was connected.

* `Errand` is what matters to this: assignments, requests and lookups.
* `Route` says which programs are started for one command.
* `Ready.visits`: what one command does to the sessions.
* `Errand.performAll_ready`: what there is behind any errands, by induction on them.
* `Errand.routed`: the way that the next command takes.
-/

namespace Foldbook

/-! ## The programs of one command -/

/-- The programs that are started for a command over a connection, last first.  If the command
fails, the session ends. -/
inductive Carries (c : Connection) (line : String) : List (List String) → Prop where
  | kept : Carries c line [c.commandWords line]
  | dropped : Carries c line [c.exitWords, c.commandWords line]

/-- The programs that are started for a command on a host, last first. -/
inductive Route (pool : Pool Connection) (target : Target) (line : String) :
    List (List String) → Prop where
  /-- The command goes over the idle session to the destination. -/
  | pooled (c : Connection) (words : List (List String))
      (idle : (target.destination, c) ∈ pool.idle) (carries : Carries c line words) :
    Route pool target line words
  /-- There is none, and the command goes over a session that is connected for it. -/
  | connected (c : Connection) (home : String) (words : List (List String))
      (none : target.destination ∉ pool.destinations) (same : c.target = target)
      (carries : Carries c line words) :
    Route pool target line (words ++ [c.masterWords home])
  /-- There is none, and the host refuses. -/
  | refused (c : Connection) (home : String)
      (none : target.destination ∉ pool.destinations) (same : c.target = target) :
    Route pool target line [c.masterWords home]
  /-- There is none, and a path cannot be written out. -/
  | unexpanded (none : target.destination ∉ pool.destinations) (h : target.expands = false) :
    Route pool target line []

/-- Between two commands, at which every idle session has its directory. -/
structure Ready (t : Traffic) : Prop where
  resting : Resting t.pool
  housed : ∃ spare, Housed t.pool.sessions spare t

section

variable {t t' : Traffic} {target : Target} {destination line : String} {c : Connection}
  {spare : List String}

theorem Ready.congr (h : Ready t) (pool : t'.pool = t.pool)
    (directories : t'.directories = t.directories) (made : t'.directoriesMade = t.directoriesMade) :
    Ready t' := by
  obtain ⟨hresting, spare, hhoused⟩ := h
  refine ⟨pool ▸ hresting, spare, ?_⟩
  rw [pool]
  exact {
    directories := directories ▸ hhoused.directories
    distinct := directories ▸ hhoused.distinct
    numbered := by
      rw [directories, made]
      exact hhoused.numbered }

theorem Housed.closes {sessions : List Connection} (h : Housed (c :: sessions) spare t)
    {answer : Except Stop Unit} (hcloses : c.Closes t answer t') :
    Housed sessions spare t' ∧ t'.pool = t.pool ∧ t'.started = c.exitWords :: t.started := by
  cases hcloses with
  | already hclosed => exact absurd (h.mem List.mem_cons_self) hclosed
  | asked _ => exact ⟨(h.empty.starting c.exitWords).removing, rfl, rfl⟩
  | broken message _ _ => exact ⟨(h.empty.starting c.exitWords).removing, rfl, rfl⟩

/-- A command over a leased session is started, and leaves no idle session more than this one. -/
theorem Uses.carries {α : Type} {answer : Except Stop α}
    (huses : Uses destination c line t answer t') (hlending : Lending t.pool destination c)
    (hhoused : Housed (c :: t.pool.sessions) spare t) :
    Ready t' ∧ (∃ words, Carries c line words ∧ t'.started = words ++ t.started) ∧
      ∀ entry ∈ t'.pool.idle, entry ∈ t.pool.idle ∨ entry = (destination, c) := by
  have hopened : c.directory ∈ t.directories := hhoused.mem List.mem_cons_self
  have hcommand := hhoused.starting (c.commandWords line)
  -- Both ways of closing leave the same.
  have hdropped : ∀ {stop : Stop} {t₁ : Traffic} {closing : Except Stop Unit},
      c.Runs line t (.error stop : Except Stop α) t₁ →
      c.Closes { t₁ with pool := t₁.pool.forget destination } closing t' →
      Ready t' ∧ (∃ words, Carries c line words ∧ t'.started = words ++ t.started) ∧
        ∀ entry ∈ t'.pool.idle, entry ∈ t.pool.idle ∨ entry = (destination, c) := by
    intro stop t₁ closing hrun hcloses
    cases hrun with
    | closed f hclosed => exact absurd hopened hclosed
    | failed stop _ _ =>
      obtain ⟨hleft, hpool, hstarted⟩ := (hcommand.withPool _).closes hcloses
      refine ⟨⟨hpool ▸ hlending.forget, spare, hpool ▸ hleft⟩, ⟨_, .dropped, hstarted⟩, ?_⟩
      rw [hpool]
      exact fun entry hentry => .inl hentry
  cases huses with
  | dropped stop t₁ _ run close => exact hdropped run close
  | broken stop other t₁ _ run close => exact hdropped run close
  | served a t₁ run =>
    cases run with
    | done a _ =>
      have hkept := (hcommand.perm hlending.perm_giveBack).withPool (t.pool.giveBack destination c)
      refine ⟨⟨hlending.giveBack, spare, hkept⟩, ⟨_, .kept, rfl⟩, fun entry hentry => ?_⟩
      change entry ∈ (t.pool.giveBack destination c).idle at hentry
      rw [hlending.idle_giveBack, List.mem_append, List.mem_singleton] at hentry
      exact hentry

/-- A session that is connected for a command is to the host as the environment names it. -/
structure ConnectedFor (target : Target) (words : List (List String)) (c : Connection) : Prop where
  same : c.target = target
  master : ∃ home, c.masterWords home ∈ words

/-- Where the session of a command comes from. -/
inductive Lends (target : Target) (t : Traffic) (c : Connection) (t' : Traffic) : Prop where
  | pooled (idle : (target.destination, c) ∈ t.pool.idle) (started : t'.started = t.started)
  | connected (home : String) (none : target.destination ∉ t.pool.destinations)
      (same : c.target = target) (started : t'.started = c.masterWords home :: t.started)

/-- The lease of a command begins. -/
theorem Ready.meets (h : Ready t) (hobtains : Obtains target t (.ok c) t') :
    Lending t'.pool target.destination c ∧
      (∃ spare, Housed (c :: t'.pool.sessions) spare t') ∧
      (∀ entry ∈ t'.pool.idle, entry ∈ t.pool.idle) ∧ Lends target t c t' := by
  obtain ⟨hresting, spare, hhoused⟩ := h
  cases hobtains with
  | idle c _ hidle =>
    obtain ⟨hmem, hc, hperm⟩ := hresting.of_lookup hidle
    exact ⟨hresting.takeOut hc, ⟨spare, (hhoused.perm hperm).withPool _⟩,
      fun entry hentry => List.mem_of_mem_filter hentry, .pooled hmem rfl⟩
  | connected c t₁ _ hnone hconnects =>
    have hfree := Pool.lookup_idle_eq_none_iff.mp hnone
    have hsessions : (t.pool.takeOut target.destination).sessions = t.pool.sessions := by
      rw [Pool.takeOut_of_lookup_none hnone]
      rfl
    cases hconnects with
    | connected home _ =>
      have hnew : Housed (⟨target, t.shell, t.nextDirectory⟩ :: t.pool.sessions) spare
          (t.makingDirectory.starting
            (Connection.masterWords ⟨target, t.shell, t.nextDirectory⟩ home)) :=
        Housed.house (hhoused.makingDirectory.starting _)
      rw [← hsessions] at hnew
      exact ⟨hresting.takeOut rfl, ⟨spare, hnew.withPool _⟩,
        fun entry hentry => List.mem_of_mem_filter hentry, .connected home hfree rfl rfl⟩

/-- The lease of a command does not begin. -/
theorem Ready.unmet (h : Ready t) {stop : Stop} (hobtains : Obtains target t (.error stop) t') :
    Ready t' ∧ t'.pool = t.pool ∧
      ∃ words, Route t.pool target line words ∧ t'.started = words ++ t.started := by
  obtain ⟨hresting, spare, hhoused⟩ := h
  cases hobtains with
  | leased hleased =>
    rw [Pool.isLeased_eq_true_iff, hresting.free] at hleased
    exact absurd hleased List.not_mem_nil
  | unconnected stop _ _ hnone hconnects =>
    have hfree := Pool.lookup_idle_eq_none_iff.mp hnone
    have hmade := hhoused.makingDirectory
    cases hconnects with
    | unexpanded hexpands => exact ⟨⟨hresting, _, hmade⟩, rfl, [], .unexpanded hfree hexpands, rfl⟩
    | refused home f _ =>
      exact ⟨⟨hresting, _, (hmade.starting _).removing⟩, rfl, _, .refused _ home hfree rfl, rfl⟩
    | broken home message _ =>
      exact ⟨⟨hresting, _, hmade.starting _⟩, rfl, _, .refused _ home hfree rfl, rfl⟩

/-- A command on a host takes one of the routes, and leaves no idle session but those that there
were and the one that it has connected. -/
theorem Ready.visits (h : Ready t) {α : Type} {answer : Except Stop α}
    (hvisits : Visits target line t answer t') :
    Ready t' ∧ ∃ words, Route t.pool target line words ∧ t'.started = words ++ t.started ∧
      ∀ entry ∈ t'.pool.idle, entry ∈ t.pool.idle ∨
        target.destination ∉ t.pool.destinations ∧ ConnectedFor target words entry.2 := by
  cases hvisits with
  | unmet stop _ hobtains =>
    obtain ⟨hready, hpool, words, hroute, hstarted⟩ := h.unmet hobtains
    exact ⟨hready, words, hroute, hstarted, fun entry hentry => .inl (hpool ▸ hentry)⟩
  | met c _ t₁ _ hobtains huses =>
    obtain ⟨hlending, ⟨spare, hhoused⟩, hidle, hlends⟩ := h.meets hobtains
    obtain ⟨hready, ⟨words, hcarries, hstarted⟩, hleft⟩ := huses.carries hlending hhoused
    cases hlends with
    | pooled hmem hsame =>
      refine ⟨hready, words, .pooled c words hmem hcarries, hsame ▸ hstarted, ?_⟩
      intro entry hentry
      rcases hleft entry hentry with hentry | rfl
      · exact .inl (hidle entry hentry)
      · exact .inl hmem
    | connected home hfree hsame hmaster =>
      refine ⟨hready, words ++ [_], .connected c home words hfree hsame hcarries, ?_, ?_⟩
      · rw [hstarted, hmaster, List.append_assoc, List.singleton_append]
      · intro entry hentry
        rcases hleft entry hentry with hentry | rfl
        · exact .inl (hidle entry hentry)
        · exact .inr ⟨hfree, hsame, home, List.mem_append_right _ List.mem_cons_self⟩

end

/-! ## Errands -/

/-- What decides which way commands take: assignments, requests and lookups of variables. -/
inductive Errand where
  | assign (name : String) (value : Json)
  | request (args : List String)
  | lookup (selector : String)

namespace Errand

/-- Does an errand, however it ends. -/
def act : Errand → Act Unit
  | .assign name value => Act.setVariable name value
  | .request args => (fun _ => ()) <$> Act.runClient args
  | .lookup selector => (fun _ => ()) <$> Act.resolve selector

def perform (e : Errand) (r : Runner) : Runner := (e.act.perform r).2

/-- Does one errand after another. -/
def performAll (errands : List Errand) (r : Runner) : Runner :=
  errands.foldl (fun r e => e.perform r) r

/-- The command line of an errand on a host. -/
def line? (r : Runner) : Errand → Option String
  | .assign _ _ => none
  | .request args => some (Text.Shell.command (r.client :: args))
  | .lookup selector => (variableName? selector).map fun _ => "echo " ++ selector

/-- What an errand does to the traffic: a command on the host that the environment names, or nothing
that connections see. -/
inductive Does (e : Errand) (r : Runner) (t : Traffic) : Prop where
  | visits {α : Type} (target : Target) (line : String) (answer : Except Stop α)
      (names : r.Names target) (hline : e.line? r = some line)
      (h : Visits target line r.traffic answer t)
  | aside (here : ∀ target, r.Names target → e.line? r = none) (pool : t.pool = r.pool)
      (directories : t.directories = r.traffic.directories)
      (made : t.directoriesMade = r.directoriesMade)

/-- An errand for a host. -/
theorem withSession_does {α : Type} {e : Errand} {r : Runner} {target : Target} {line : String}
    (hnames : r.Names target) (hline : e.line? r = some line) {body : Connection → Act α}
    (hbody : ∀ c r, (body c).Ends r fun answer behind =>
      c.Runs line r.traffic answer behind.traffic) :
    (Act.withSession target body).Ends r fun _ behind => e.Does r behind.traffic :=
  (Act.withSession_ends target line hbody).mono fun answer _ hvisits =>
    .visits target line answer hnames hline hvisits

theorem perform_does (e : Errand) (r : Runner) : e.Does r (e.perform r).traffic := by
  change e.act.Ends r fun _ behind => e.Does r behind.traffic
  cases e with
  | assign name value =>
    refine (Act.setVariable_ends name value).mono fun answer behind hset => ?_
    obtain ⟨⟨store, hstore⟩, -⟩ := hset
    rw [hstore]
    exact .aside (fun _ _ => rfl) rfl rfl rfl
  | request args =>
    have hclient : (Act.runClient args).Ends r fun _ behind =>
        Does (.request args) r behind.traffic := by
      rw [Act.runClient, Act.ends_bind, Act.ends_get]
      refine Act.onTarget_ends (fun target hnames => ?_) (fun hnone => ?_) fun hnone _ => ?_
      · exact withSession_does hnames rfl fun c r => c.run_ends _
      · refine (Act.runLocally_ends r.client args).mono fun answer behind hrun => ?_
        rw [hrun.1]
        exact .aside (fun target hnames => absurd hnames (hnone target)) rfl rfl rfl
      · exact .aside (fun target hnames => absurd hnames (hnone target)) rfl rfl rfl
    exact hclient.behind_map (P := fun behind => Does _ r behind.traffic) _
  | lookup selector =>
    have hresolve : (Act.resolve selector).Ends r fun _ behind =>
        Does (.lookup selector) r behind.traffic := by
      unfold Act.resolve
      cases hname : variableName? selector with
      | none =>
        have hline : line? r (.lookup selector) = none := by
          rw [line?, hname]
          rfl
        dsimp only
        rw [Act.ends_bind, Act.ends_get]
        dsimp only
        rw [Act.ends_ofExcept]
        exact .aside (fun _ _ => hline) rfl rfl rfl
      | some name =>
        have hline : line? r (.lookup selector) = some ("echo " ++ selector) := by
          rw [line?, hname]
          rfl
        refine Act.onTarget_ends (fun target hnames => ?_) (fun hnone => ?_) fun hnone _ => ?_
        · exact (withSession_does hnames hline fun c r => c.raw_ends _).behind_map
            (P := fun behind => Does _ r behind.traffic) _
        · exact .aside (fun target hnames => absurd hnames (hnone target)) rfl rfl rfl
        · exact .aside (fun target hnames => absurd hnames (hnone target)) rfl rfl rfl
    exact hresolve.behind_map (P := fun behind => Does _ r behind.traffic) _

/-- The session was connected for an earlier errand, to the host as the environment named it
then. -/
def Connected (first : Runner) (errands : List Errand) (c : Connection) : Prop :=
  ∃ (before : List Errand) (e : Errand) (more : List Errand) (words : List (List String)),
    errands = before ++ e :: more ∧
    (performAll before first).Names c.target ∧
    c.target.destination ∉ (performAll before first).pool.destinations ∧
    (e.perform (performAll before first)).started =
      words ++ (performAll before first).started ∧
    ∃ home, c.masterWords home ∈ words

theorem Connected.append {first : Runner} {errands : List Errand} {c : Connection}
    (h : Connected first errands c) (e : Errand) : Connected first (errands ++ [e]) c := by
  obtain ⟨before, e', more, words, rfl, hrest⟩ := h
  exact ⟨before, e', more ++ [e], words, by rw [List.append_assoc, List.cons_append], hrest⟩

/-- Behind some errands the sessions are ready, and every idle one has been connected for one of
them. -/
theorem performAll_ready {first : Runner} (h : first.New) (errands : List Errand) :
    Ready (performAll errands first).traffic ∧
      ∀ entry ∈ (performAll errands first).pool.idle, Connected first errands entry.2 := by
  induction errands using List.reverseRecOn with
  | nil =>
    refine ⟨⟨h.resting, [], h.housed⟩, fun entry hentry => ?_⟩
    rw [performAll, List.foldl_nil, h.idle] at hentry
    exact absurd hentry List.not_mem_nil
  | append_singleton errands e ih =>
    obtain ⟨hready, hconnected⟩ := ih
    rw [performAll, List.foldl_append, ← performAll]
    change Ready (e.perform (performAll errands first)).traffic ∧
      ∀ entry ∈ (e.perform (performAll errands first)).pool.idle, _
    cases perform_does e (performAll errands first) with
    | aside _ pool directories made =>
      refine ⟨hready.congr pool directories made, fun entry hentry => ?_⟩
      exact (hconnected entry (pool ▸ hentry)).append e
    | visits target line answer names _ hvisits =>
      obtain ⟨hbehind, words, -, hstarted, hleft⟩ := hready.visits hvisits
      refine ⟨hbehind, fun entry hentry => ?_⟩
      rcases hleft entry hentry with hentry | ⟨hfree, hsame, hmaster⟩
      · exact (hconnected entry hentry).append e
      · exact ⟨errands, e, [], words, rfl, hsame ▸ names, hsame ▸ hfree, hstarted, hmaster⟩

/-- Where commands go behind some errands. -/
structure Routed (first : Runner) (errands : List Errand) : Prop where
  /-- Every idle session is to its destination, and to the host as the environment named it when the
  session was connected. -/
  connected : ∀ entry ∈ (performAll errands first).pool.idle,
    entry.2.target.destination = entry.1 ∧ Connected first errands entry.2
  /-- The next command goes to the destination that the environment names. -/
  route : ∀ (e : Errand) (target : Target) (line : String),
    (performAll errands first).Names target → e.line? (performAll errands first) = some line →
    ∃ words, Route (performAll errands first).pool target line words ∧
      (e.perform (performAll errands first)).started =
        words ++ (performAll errands first).started

/-- Whatever is assigned, requested and looked up in front of it, a command goes to the destination
that the environment names when it is run: over the idle session to this destination, which was
connected as the environment named the host at that time, or, if there is none, over a session that
is connected as the environment names the host now. -/
theorem routed {first : Runner} (h : first.New) (errands : List Errand) :
    Routed first errands := by
  obtain ⟨hready, hconnected⟩ := performAll_ready h errands
  refine ⟨fun entry hentry => ⟨hready.resting.keyed entry hentry, hconnected entry hentry⟩, ?_⟩
  intro e target line hnames hline
  cases perform_does e (performAll errands first) with
  | aside here _ _ _ =>
    rw [here target hnames] at hline
    cases hline
  | visits target' line' answer names hline' hvisits =>
    obtain rfl : target = target' := by
      rw [Runner.Names, names] at hnames
      cases hnames
      rfl
    obtain rfl : line = line' := Option.some.inj (hline.symm.trans hline')
    obtain ⟨-, words, hroute, hstarted, -⟩ := hready.visits hvisits
    exact ⟨words, hroute, hstarted⟩

end Errand

/-- An environment that names a host and a port of it. -/
def portRunner : Runner where
  store := {
    document := .obj [("sshTo", .str "b"), ("sshPort", .int 22)]
    backend := .memory 0 }

/-- A lookup on the host, and then the assignment of another port. -/
def portErrands : List Errand :=
  [.lookup "$X", .assign "sshPort" (.int 2222)]

theorem routed_port :
    portRunner.New ∧ Errand.Routed portRunner portErrands ∧
      (Errand.performAll portErrands portRunner).pool.destinations = ["b"] := by
  have hnew : portRunner.New := ⟨rfl, rfl, rfl, rfl⟩
  exact ⟨hnew, Errand.routed hnew portErrands, by decide +kernel⟩

theorem Connection.portWord_mem_masterWords {c : Connection} {port : Int}
    (h : c.target.port = some port) (home : String) :
    String.ofList (Decimal.intDigits port) ∈ c.masterWords home := by
  simp [masterWords, Target.connectOptions, h]

/-- Another port alone does not connect another session: the next lookup goes over the session that
there is, and no session has been connected to the port. -/
theorem lookup_at_old_port :
    (Errand.performAll portErrands portRunner).Names
        { destination := "b", port := some 2222 } ∧
      ((Errand.lookup "$X").perform (Errand.performAll portErrands portRunner)).started =
        ["ssh", "-S", "CTL1/master", "b", "echo $X"] ::
          (Errand.performAll portErrands portRunner).started ∧
      ∀ (c : Connection) (home : String), c.target.port = some 2222 →
        c.masterWords home ∉
          ((Errand.lookup "$X").perform (Errand.performAll portErrands portRunner)).started := by
  have hwords : ∀ words ∈
      ((Errand.lookup "$X").perform (Errand.performAll portErrands portRunner)).started,
      "2222" ∉ words := by
    decide +kernel
  refine ⟨by unfold Runner.Names; decide +kernel, by decide +kernel, fun c home hport hmem => ?_⟩
  exact hwords _ hmem (Connection.portWord_mem_masterWords hport home)

end Foldbook
