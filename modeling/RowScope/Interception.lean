import RowScope.Compilation
import RowScope.Query
import RowScope.Session

/-!
# Interception

Interception happens once per query, before it is executed.  For every filter on
the entity type of the query that is on in the session, in the order of
registration, the values of its parameters are gathered, its predicate is
compiled, and the predicates are injected into the query.  A filter that lacks a
value stops the query: it is never executed without a filter that is on.

A value that the session gives counts; one of the context is asked for only where
there is none, and has to be of the declared type.
-/

namespace RowScope

/-- Values that come with a query instead of a session. -/
abbrev Context := Dict Value

namespace Interception

/-- The error of a session that belongs to another engine. -/
def foreignSession (s : Session) : FilterError :=
  .intercept s!"session {s.id} was not created by this filter engine"

/-- The value that the context has for a parameter without one of its own. -/
def contextValue? (context : Context) (p : Parameter) : Option Value :=
  match p.contextKey with
  | some key => context.get? key
  | none => none

/-- The values of a session and, for parameters that it gives none, those of the
context.  The first value of the context that is not of its declared type is the
error. -/
def gather (filter : String) (explicit : Dict Value) (context : Context) :
    List Parameter → Dict Value → Except FilterError (Dict Value)
  | [], values => .ok values
  | p :: ps, values =>
    if explicit.contains p.name then gather filter explicit context ps values
    else match contextValue? context p with
      | none => gather filter explicit context ps values
      | some v =>
        if p.type.accepts v then
          gather filter explicit context ps (values.put p.name (p.type.coerce v))
        else .error (.typeMismatch filter p.name p.type.name v.typeName)

/-- The predicate of one filter that is on, with the values of the session and
the context. -/
def compileOne (d : Definition) (explicit : Dict Value) (context : Context)
    (cache : Cache) : Logged (Except FilterError Predicate × Cache) :=
  match gather d.name explicit context d.parameters explicit with
  | .error e => .quiet (.error e, cache)
  | .ok values => d.compile values cache

/-- What is reported when a filter stops a query. -/
def abortEvent (s : Session) (entity filter : String) (e : FilterError) : Event :=
  ⟨.warn, s!"Session {s.id} query on '{entity}' aborted by filter '{filter}': {e.message}"⟩

/-- The names and predicates of those of some definitions that are on in a
session, up to the first one that fails. -/
def compileEach (s : Session) (entity : String) (context : Context) :
    List Definition → Cache →
      Logged (Except FilterError (List (String × Predicate)) × Cache)
  | [], cache => .quiet (.ok [], cache)
  | d :: ds, cache =>
    match s.enabledValues? d.name with
    | none => compileEach s entity context ds cache
    | some explicit => do
      match ← compileOne d explicit context cache with
      | (.error e, cache) => ⟨(.error e, cache), [abortEvent s entity d.name e]⟩
      | (.ok p, cache) =>
        match ← compileEach s entity context ds cache with
        | (.error e, cache) => pure (.error e, cache)
        | (.ok ps, cache) => pure (.ok ((d.name, p) :: ps), cache)

/-- What is reported of the filters that go into a query. -/
def injectionEvents (s : Session) (entity : String) (filters : List String) : List Event :=
  if filters.isEmpty then []
  else
    let names := String.intercalate ", " filters
    [⟨.debug, s!"Session {s.id} injecting filter(s) [{names}] into query on '{entity}'"⟩]

/-- The predicates of the filters on an entity type that are on in a session, in
the order of registration. -/
def compiledFilters (r : Registry) (s : Session) (entity : String) (context : Context)
    (cache : Cache) : Logged (Except FilterError (List Predicate) × Cache) := do
  match ← compileEach s entity context (r.filtersFor entity) cache with
  | (.error e, cache) => pure (.error e, cache)
  | (.ok ps, cache) =>
    ⟨(.ok (ps.map Prod.snd), cache), injectionEvents s entity (ps.map Prod.fst)⟩

end Interception

end RowScope
