import RowScope.Engine

/-!
# Hosts

A `Host` is everything that one process holds: engines over one catalog, handles
to them, the sessions that were begun and the rows in memory.  A clone of an
engine is one more handle to it, so all handles to an engine see the same
definitions and the same cache.

Whoever uses a host gives it a `Command` and gets a `Reply` or the error of the
command; `Host.step` is one command and `Host.run` a list of them.

Every engine has its cache at a site of its own, which the surroundings of the host
provide.  An engine whose cache gets no memory does not come in.
-/

namespace RowScope

/-- Engines, sessions and rows.  Sessions are numbered in the order in which they
began, and one that has ended leaves its place empty. -/
structure Host where
  /-- The site of the cache of every engine, also of those to come. -/
  sites : Nat → Cache.Site
  catalog : Catalog
  rows : List Row
  engines : List Engine
  /-- The engine of every handle. -/
  handles : List Nat
  sessions : List (Option Session)

/-- What a host can be asked for.  An `engine` is the number of a handle and a
`session` that of a session. -/
inductive Command
  | newEngine (settings : Settings)
  | cloneEngine (engine : Nat)
  | settings (engine : Nat)
  | register (engine : Nat) (entity name : String) (params : List Parameter) (template : Expr)
  | convention (engine : Nat) (name : String) (params : List Parameter) (template : Expr)
  | activate (engine : Nat)
  | beginSession (engine : Nat)
  | endSession (session : Nat)
  /-- Switches a filter on, gives its parameters values and reads some of them. -/
  | enable (session : Nat) (filter : String) (values : List (String × Value))
      (read : List String)
  /-- Gives the parameters of a filter values and reads some of them. -/
  | select (session : Nat) (filter : String) (values : List (String × Value))
      (read : List String)
  | disable (session : Nat) (filter : String)
  | inspect (session : Nat) (filters : List String) (parameters : List (String × String))
  | intercept (engine session : Nat) (entity : String) (predicate : Option Expr)
      (context : Context)
  | compiledFilters (engine session : Nat) (entity : String) (context : Context)
      (rows : List Row)
  | compile (engine : Nat) (entity name : String) (values : Dict Value) (rows : List Row)
  | lookup (engine : Nat) (entity name : String)
  | filtersFor (engine : Nat) (entity : String)
  | named (engine : Nat) (name : String)
  | parameter (engine : Nat) (filter parameter : String)
  | registry (engine : Nat)
  | stats (engine : Nat)
  | entities (engine : Nat)
  | insert (rows : List Row)
  | execute (engine session : Nat) (query : Query) (context : Context)
  | find (engine session : Nat) (entity : String) (key : Value)
  /-- Executes a query by an executor that gives the query back, or that fails
  for the reason `failure`. -/
  | plan (engine session : Nat) (query : Query) (context : Context) (failure : Option String)

/-- A predicate and which of some rows match it. -/
structure Matched where
  predicate : Predicate
  holds : List Bool

/-- Tests a predicate on rows. -/
def Predicate.matched (rows : List Row) (p : Predicate) : Matched := ⟨p, rows.map p.holds⟩

/-- What a host answers. -/
inductive Reply
  /-- There is no engine or no session of the number asked for. -/
  | absent
  /-- There is no memory for a new engine. -/
  | failed (failure : Memory.Failure)
  | settings (s : Settings)
  | engine (handle : Nat)
  | definition (d : Definition)
  | entities (names : List String)
  | activated (changed : Bool)
  | begun (session id : Nat) (active : Bool)
  | ended
  | filter (name : String) (enabled : Bool) (read : List (Option Value))
  | disabled (enabled : Bool)
  | state (enabled : List String) (isEnabled : List Bool) (read : List (Option Value))
  | predicate (e : Option Expr)
  | filters (ms : List Matched)
  | compiled (m : Matched)
  | onEntity (has : Bool) (ds : List Definition)
  | underName (contains : Bool) (ds : List Definition)
  | parameter (p : Option Parameter)
  | registry (r : Registry)
  | stats (s : Cache.Stats)
  | size (rows : Nat)
  | rows (rs : List Row)
  | row (r : Option Row)
  | plan (q : Query)

namespace Host

/-- What a command comes to: its reply or its error, and the host after it. -/
abbrev Outcome := Logged (Except FilterError Reply × Host)

/-! ## Parts of a host -/

/-- The engine of a handle. -/
def engine? (h : Host) (handle : Nat) : Option Engine :=
  (h.handles[handle]?).bind fun i => h.engines[i]?

/-- The session of a number, unless it has ended. -/
def session? (h : Host) (session : Nat) : Option Session :=
  (h.sessions[session]?).join

/-- The host with another state of an engine. -/
def withEngine (h : Host) (e : Engine) : Host := { h with engines := h.engines.set e.id e }

/-- The host with another state of a session. -/
def withSession (h : Host) (session : Nat) (s : Session) : Host :=
  { h with sessions := h.sessions.set session (some s) }

/-- Answers without a change. -/
def answer (h : Host) (r : Reply) : Outcome := .quiet (.ok r, h)

/-- Answers with what an engine did. -/
def reply {α : Type} (h : Host) (toReply : α → Reply)
    (x : Logged (Except FilterError α × Engine)) : Outcome := do
  let (answer, e) ← x
  pure (answer.map toReply, h.withEngine e)

/-- Continues with the engine of a handle. -/
def onEngine (h : Host) (handle : Nat) (f : Engine → Outcome) : Outcome :=
  match h.engine? handle with
  | some e => f e
  | none => h.answer .absent

/-- Continues with the session of a number. -/
def onSession (h : Host) (session : Nat) (f : Session → Outcome) : Outcome :=
  match h.session? session with
  | some s => f s
  | none => h.answer .absent

/-- Continues with a session and the registry that it asks. -/
def onHome (h : Host) (session : Nat) (f : Registry → Session → Outcome) : Outcome :=
  h.onSession session fun s =>
    match h.engines[s.home]? with
    | some e => f e.registry s
    | none => h.answer .absent

/-! ## Commands -/

/-- The host with one more engine and a handle to it. -/
def addEngine (h : Host) (e : Engine) : Host :=
  { h with engines := h.engines ++ [e], handles := h.handles ++ [h.engines.length] }

/-- A new engine for a host, if there is memory for it. -/
def newEngine (h : Host) (settings : Settings) : Except Memory.Failure (Logged Engine) :=
  Engine.create h.engines.length (h.sites h.engines.length) h.catalog settings

/-- A host with one engine. -/
def create (sites : Nat → Cache.Site) (catalog : Catalog) (settings : Settings)
    (rows : List Row) : Except Memory.Failure (Logged Host) :=
  let vacant : Host := ⟨sites, catalog, rows, [], [], []⟩
  (vacant.newEngine settings).map fun made => vacant.addEngine <$> made

/-- Adds a handle to the engine of a handle. -/
def cloneEngine (h : Host) (handle : Nat) : Outcome :=
  match h.handles[handle]? with
  | some i => .quiet (.ok (.engine h.handles.length), { h with handles := h.handles ++ [i] })
  | none => h.answer .absent

/-- Begins a session on an engine. -/
def beginSession (h : Host) (e : Engine) : Outcome := do
  let index := h.sessions.length
  let (s, e) ← e.beginSession (index + 1)
  let h := { h.withEngine e with sessions := h.sessions ++ [some s] }
  pure (.ok (.begun index s.id e.registry.active), h)

/-- Ends a session. -/
def endSession (h : Host) (session : Nat) (s : Session) : Outcome :=
  ⟨(.ok .ended, { h with sessions := h.sessions.set session none }), [s.endEvent]⟩

/-- Gives the parameters of a filter that was turned to values and reads some of
them. -/
def bindAndRead (h : Host) (session : Nat) (r : Registry) (filter : String)
    (values : List (String × Value)) (read : List String)
    (turned : Except FilterError Unit × Session) : Outcome :=
  match turned with
  | (.error e, s) => .quiet (.error e, h.withSession session s)
  | (.ok (), s) => do
    match ← s.setParameters r filter values with
    | (.error e, s) => pure (.error e, h.withSession session s)
    | (.ok (), s) =>
      pure (.ok (.filter filter (s.isEnabled filter) (read.map (s.parameter? filter))),
        h.withSession session s)

/-- Turns to a filter of a session. -/
def select (r : Registry) (s : Session) (filter : String) : Except FilterError Unit × Session :=
  match s.select r filter with
  | .ok s => (.ok (), s)
  | .error e => (.error e, s)

/-- What can be seen of a session. -/
def inspect (s : Session) (filters : List String) (parameters : List (String × String)) :
    Reply :=
  .state s.enabledFilters (filters.map s.isEnabled)
    (parameters.map fun (filter, parameter) => s.parameter? filter parameter)

/-- One command. -/
def step (h : Host) : Command → Outcome
  | .newEngine settings =>
    match h.newEngine settings with
    | .ok made => do
      let e ← made
      pure (.ok (.settings e.settings), h.addEngine e)
    | .error failure => h.answer (.failed failure)
  | .cloneEngine engine => h.cloneEngine engine
  | .settings engine => h.onEngine engine fun e => h.answer (.settings e.settings)
  | .register engine entity name params template =>
    h.onEngine engine fun e => h.reply .definition (e.register entity name params template)
  | .convention engine name params template =>
    h.onEngine engine fun e => h.reply .entities (e.registerConvention name params template)
  | .activate engine => h.onEngine engine fun e => do
    let (changed, e) ← e.activate
    pure (.ok (.activated changed), h.withEngine e)
  | .beginSession engine => h.onEngine engine fun e => h.beginSession e
  | .endSession session => h.onSession session fun s => h.endSession session s
  | .enable session filter values read => h.onHome session fun r s => do
    let turned ← s.enable r filter
    h.bindAndRead session r filter values read turned
  | .select session filter values read => h.onHome session fun r s =>
    h.bindAndRead session r filter values read (select r s filter)
  | .disable session filter => h.onSession session fun s => do
    let s ← s.disable filter
    pure (.ok (.disabled (s.isEnabled filter)), h.withSession session s)
  | .inspect session filters parameters => h.onSession session fun s =>
    h.answer (inspect s filters parameters)
  | .intercept engine session entity predicate context =>
    h.onEngine engine fun e => h.onSession session fun s =>
      h.reply .predicate (e.intercept s entity predicate context)
  | .compiledFilters engine session entity context rows =>
    h.onEngine engine fun e => h.onSession session fun s =>
      h.reply (fun ps => .filters (ps.map (Predicate.matched rows)))
        (e.compiledFilters s entity context)
  | .compile engine entity name values rows => h.onEngine engine fun e =>
    h.reply (fun p => .compiled (p.matched rows)) (e.compile entity name values)
  | .lookup engine entity name => h.onEngine engine fun e =>
    .quiet ((e.registry.lookup entity name).map .definition, h)
  | .filtersFor engine entity => h.onEngine engine fun e =>
    h.answer (.onEntity (e.registry.hasFilters entity) (e.registry.filtersFor entity))
  | .named engine name => h.onEngine engine fun e =>
    h.answer (.underName (e.registry.contains name) (e.registry.named name))
  | .parameter engine filter parameter => h.onEngine engine fun e =>
    h.answer (.parameter (e.registry.parameter? filter parameter))
  | .registry engine => h.onEngine engine fun e => h.answer (.registry e.registry)
  | .stats engine => h.onEngine engine fun e => h.answer (.stats e.cache.stats)
  | .entities engine => h.onEngine engine fun e =>
    h.answer (.entities e.registry.catalog.listed)
  | .insert rows =>
    .quiet (.ok (.size (h.rows ++ rows).length), { h with rows := h.rows ++ rows })
  | .execute engine session query context =>
    h.onEngine engine fun e => h.onSession session fun s =>
      h.reply .rows (e.execute h.rows s query context)
  | .find engine session entity key =>
    h.onEngine engine fun e => h.onSession session fun s =>
      h.reply .row (e.find h.rows s entity key)
  | .plan engine session query context failure =>
    h.onEngine engine fun e => h.onSession session fun s =>
      h.reply .plan (e.executeWith (fun q => match failure with
        | some reason => .error (.intercept reason)
        | none => .ok q) s query context)

/-- One command after the other: the outcome of each, with its events, and the
host after all of them. -/
def run (h : Host) : List Command → List (Logged (Except FilterError Reply)) × Host
  | [] => ([], h)
  | c :: cs =>
    let outcome := h.step c
    let (outcomes, last) := run outcome.result.2 cs
    (⟨outcome.result.1, outcome.events⟩ :: outcomes, last)

end Host

end RowScope
