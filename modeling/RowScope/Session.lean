import RowScope.Registry

/-!
# Sessions

A `Session` is the filter state of one unit of work: which filters are on, and
which values their parameters have.  It belongs to one registry, its home, and
asks it which filters and parameters there are.

* Switching a filter off and on again keeps the values of its parameters.
* `setParameter` keeps a value only if the declared type accepts it, and then as
  a value of exactly that type.
* Every operation that fails leaves the session as it was.
-/

namespace RowScope

/-- The state of one filter in a session. -/
structure FilterState where
  enabled : Bool
  values : Dict Value

namespace FilterState

/-- A filter that nothing was done to. -/
def initial : FilterState := ⟨false, .empty⟩

instance : Inhabited FilterState := ⟨initial⟩

end FilterState

/-- The filter state of one unit of work. -/
structure Session where
  id : Nat
  /-- The engine whose registry the session asks. -/
  home : Nat
  filters : Dict FilterState

namespace Session

/-- A session without any filter on. -/
def start (id home : Nat) : Logged Session :=
  ⟨⟨id, home, .empty⟩, [⟨.trace, s!"Session {id} filter state created"⟩]⟩

/-- The state of a filter. -/
def state (s : Session) (filter : String) : FilterState :=
  (s.filters.get? filter).getD .initial

/-- Whether a filter is on. -/
def isEnabled (s : Session) (filter : String) : Bool := (s.state filter).enabled

/-- The filters that are on, in ascending order. -/
def enabledFilters (s : Session) : List String :=
  ((s.filters.entries.filter fun e => e.2.enabled).map Prod.fst).mergeSort
    fun a b => decide (a ≤ b)

/-- The value of a parameter. -/
def parameter? (s : Session) (filter parameter : String) : Option Value :=
  (s.state filter).values.get? parameter

/-- The values of the parameters of a filter that is on. -/
def enabledValues? (s : Session) (filter : String) : Option (Dict Value) :=
  let state := s.state filter
  if state.enabled then some state.values else none

/-- The session with another state of one filter. -/
def withState (s : Session) (filter : String) (state : FilterState) : Session :=
  { s with filters := s.filters.put filter state }

/-- Turns to a filter, which some entity type must have. -/
def select (r : Registry) (s : Session) (filter : String) : Except FilterError Session :=
  if r.contains filter then .ok (s.withState filter (s.state filter))
  else .error (.unknownFilter filter)

/-- Switches a filter on. -/
def enable (r : Registry) (s : Session) (filter : String) :
    Logged (Except FilterError Unit × Session) :=
  match select r s filter with
  | .error e => .quiet (.error e, s)
  | .ok s =>
    if s.isEnabled filter then .quiet (.ok (), s)
    else
      ⟨(.ok (), s.withState filter { s.state filter with enabled := true }),
        [⟨.debug, s!"Session {s.id} enabled filter '{filter}'"⟩]⟩

/-- Switches a filter off; one that is off, or that there is not, stays so. -/
def disable (s : Session) (filter : String) : Logged Session :=
  if s.isEnabled filter then
    ⟨s.withState filter { s.state filter with enabled := false },
      [⟨.debug, s!"Session {s.id} disabled filter '{filter}'"⟩]⟩
  else .quiet s

/-- Gives a parameter of a filter a value. -/
def setParameter (r : Registry) (s : Session) (filter parameter : String) (value : Value) :
    Logged (Except FilterError Unit × Session) :=
  match r.parameter? filter parameter with
  | none => .quiet (.error (.unknownParameter filter parameter), s)
  | some p =>
    if p.type.accepts value then
      let state := s.state filter
      let values := state.values.put parameter (p.type.coerce value)
      ⟨(.ok (), s.withState filter { state with values := values }),
        [⟨.debug, s!"Session {s.id} bound {filter}.{parameter} = {value.display}"⟩]⟩
    else
      .quiet (.error (.typeMismatch filter parameter p.type.name value.typeName), s)

/-- Gives one parameter after the other a value, up to the first one that is
refused. -/
def setParameters (r : Registry) (filter : String) :
    List (String × Value) → Session → Logged (Except FilterError Unit × Session)
  | [], s => .quiet (.ok (), s)
  | (parameter, value) :: rest, s => do
    match ← setParameter r s filter parameter value with
    | (.error e, s) => pure (.error e, s)
    | (.ok (), s) => setParameters r filter rest s

/-- What is reported when a session ends. -/
def endEvent (s : Session) : Event :=
  ⟨.trace,
    s!"Session {s.id} filter state discarded with {s.enabledFilters.length} enabled filter(s)"⟩

end Session

end RowScope
