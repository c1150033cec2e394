import RowScope.Interception

/-!
# Engines

An `Engine` is a registry of definitions with the cache that its predicates are
kept in.  Sessions begin on an engine, and an engine intercepts and executes
queries only for sessions that began on it.

Looking up, compiling and executing change nothing of an engine but its cache.
-/

namespace RowScope

/-- A registry, the cache of its predicates and the settings of both. -/
structure Engine where
  id : Nat
  settings : Settings
  registry : Registry
  cache : Cache

namespace Engine

/-- An engine without definitions, if there is memory for its cache. -/
def create (id : Nat) (site : Cache.Site) (catalog : Catalog) (settings : Settings) :
    Except Memory.Failure (Logged Engine) := do
  let settings := settings.normalized
  let cache ← Cache.create site settings.capacity settings.shards
  let size := s!"capacity {settings.capacity} in {settings.shards} shard(s)"
  pure ⟨⟨id, settings, .empty catalog, cache⟩,
    [⟨.debug, s!"Filter engine created, predicate cache {size}"⟩]⟩

/-! ## Definitions -/

/-- Registers a filter on one entity type. -/
def register (e : Engine) (entity name : String) (params : List Parameter) (template : Expr) :
    Logged (Except FilterError Definition × Engine) := do
  let (answer, registry) ← e.registry.register entity name params template
  pure (answer, { e with registry })

/-- Registers a filter on every entity type that carries the fields it reads. -/
def registerConvention (e : Engine) (name : String) (params : List Parameter)
    (template : Expr) : Logged (Except FilterError (List String) × Engine) := do
  let (answer, registry) ← e.registry.registerConvention name params template
  pure (answer, { e with registry })

/-- Freezes the definitions; the answer is whether they were not frozen before. -/
def activate (e : Engine) : Logged (Bool × Engine) := do
  let (answer, registry) ← e.registry.activate
  pure (answer, { e with registry })

/-! ## Sessions -/

/-- Begins a session, which freezes the definitions if the settings ask for it. -/
def beginSession (e : Engine) (id : Nat) : Logged (Session × Engine) := do
  let (_, e) ← if e.settings.activateOnFirstSession then e.activate else pure (false, e)
  let session ← Session.start id e.id
  Logged.report .debug s!"Session {id} started"
  pure (session, e)

/-! ## Queries -/

/-- The predicates of the filters on an entity type that are on in a session. -/
def compiledFilters (e : Engine) (s : Session) (entity : String) (context : Context) :
    Logged (Except FilterError (List Predicate) × Engine) :=
  if s.home ≠ e.id then .quiet (.error (Interception.foreignSession s), e)
  else do
    let (answer, cache) ← Interception.compiledFilters e.registry s entity context e.cache
    pure (answer, { e with cache })

/-- A predicate with the filters of a session and-ed on. -/
def intercept (e : Engine) (s : Session) (entity : String) (predicate : Option Expr)
    (context : Context) : Logged (Except FilterError (Option Expr) × Engine) := do
  let (answer, e) ← e.compiledFilters s entity context
  pure (answer.map (Query.inject predicate), e)

/-- A query with the filters of a session injected. -/
def plan (e : Engine) (s : Session) (q : Query) (context : Context) :
    Logged (Except FilterError Query × Engine) := do
  let (answer, e) ← e.compiledFilters s q.entity context
  pure (answer.map fun filters => { q with filters }, e)

/-- The rows that a query asks for and that the filters of a session let
through.  `execute` is whoever has the rows; it is asked only for a query that
has its filters. -/
def executeWith {α : Type} (execute : Query → Except FilterError α) (e : Engine) (s : Session)
    (q : Query) (context : Context) : Logged (Except FilterError α × Engine) := do
  let (answer, e) ← e.plan s q context
  pure (answer.bind execute, e)

/-- The rows of a list that a query asks for and that the filters of a session
let through. -/
def execute (rows : List Row) (e : Engine) (s : Session) (q : Query) (context : Context) :
    Logged (Except FilterError (List Row) × Engine) :=
  executeWith (fun q => q.execute rows) e s q context

/-- The first row whose key equals a value and that the filters of a session let
through. -/
def find (rows : List Row) (e : Engine) (s : Session) (entity : String) (key : Value) :
    Logged (Except FilterError (Option Row) × Engine) :=
  match e.registry.catalog.schema? entity with
  | none => .quiet (.error (.intercept s!"entity type '{entity}' is not mapped"), e)
  | some schema => do
    let (answer, e) ← e.execute rows s (Query.byKey entity schema.key key) .empty
    pure (answer.map List.head?, e)

/-- The predicate of a definition with the values of its parameters. -/
def compile (e : Engine) (entity name : String) (values : Dict Value) :
    Logged (Except FilterError Predicate × Engine) :=
  match e.registry.lookup entity name with
  | .error error => .quiet (.error error, e)
  | .ok d => do
    let (answer, cache) ← d.compile values e.cache
    pure (answer, { e with cache })

end Engine

end RowScope
