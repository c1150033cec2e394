import RowScope.Log
import RowScope.Template

/-!
# The registry of definitions

A `Registry` holds the filter definitions of all entity types, in two indexes:
by entity type for the queries on it, by filter name for the sessions that
enable it.  Both keep the order of registration.  Filters of one name on several
entity types agree on the types of the parameters that they share.

* `examine` decides about a definition and changes nothing; `add` files one in
  both indexes; `register` is the two together.
* `registerConvention` registers one template on every entity type that carries
  the fields it reads.  It stops at the first refusal and keeps what it has
  registered before.
* `activate` freezes the registry: from then on every definition is refused.
-/

namespace RowScope

/-- A registered filter. -/
structure Definition where
  name : String
  entity : String
  parameters : List Parameter
  template : Template
  ordinal : Nat

/-- The declaration of a parameter of a filter. -/
def Definition.parameter? (d : Definition) (name : String) : Option Parameter :=
  Template.declaration? d.parameters name

/-- Filter definitions by entity type and by name. -/
structure Registry where
  catalog : Catalog
  byEntity : Dict (List Definition)
  byName : Dict (List Definition)
  active : Bool
  nextOrdinal : Nat

namespace Registry

/-- The registry without definitions. -/
def empty (catalog : Catalog) : Registry := ⟨catalog, .empty, .empty, false, 0⟩

instance : Inhabited Registry := ⟨empty .empty⟩

/-! ## Look-up -/

/-- The definitions on an entity type, in the order of registration. -/
def filtersFor (r : Registry) (entity : String) : List Definition :=
  (r.byEntity.get? entity).getD []

/-- Whether an entity type has definitions. -/
def hasFilters (r : Registry) (entity : String) : Bool :=
  match r.byEntity.get? entity with
  | some ds => !ds.isEmpty
  | none => false

/-- The definitions of a name, in the order of registration. -/
def named (r : Registry) (name : String) : List Definition :=
  (r.byName.get? name).getD []

/-- Whether some entity type has a filter of a name. -/
def contains (r : Registry) (name : String) : Bool := r.byName.contains name

/-- The definition of a name on an entity type. -/
def find? (r : Registry) (entity name : String) : Option Definition :=
  (r.filtersFor entity).find? fun d => d.name = name

/-- The definition of a name on an entity type, or the error that there is
none. -/
def lookup (r : Registry) (entity name : String) : Except FilterError Definition :=
  match r.find? entity name with
  | some d => .ok d
  | none => .error (.unknownFilter name)

/-- The declaration of a parameter by the first filter of a name that has one. -/
def parameter? (r : Registry) (filter parameter : String) : Option Parameter :=
  (r.named filter).findSome? fun d => d.parameter? parameter

/-- All definitions, those of one entity type after those of the other. -/
def definitions (r : Registry) : List Definition := r.byEntity.entries.flatMap fun e => e.2

/-- The number of definitions. -/
def size (r : Registry) : Nat := r.definitions.length

def isEmpty (r : Registry) : Bool := r.size == 0

/-- The names of the filters in ascending order. -/
def filterNames (r : Registry) : List String :=
  r.byName.keys.mergeSort fun a b => decide (a ≤ b)

/-- A registry as a record of its names, size and state. -/
def debug (r : Registry) : String :=
  "FilterStore \x7b filters: " ++ Text.literals r.filterNames ++ ", definitions: "
    ++ toString r.size ++ ", active: " ++ toString r.active ++ " \x7d"

/-! ## Registration -/

/-- The fault of a parameter that a filter of the same name declares with
another type: the first one in the order of the new parameters and then of
registration. -/
def sharedFault? (existing : List Definition) (params : List Parameter) :
    Option TemplateFault :=
  params.findSome? fun p => existing.findSome? fun d =>
    match d.parameter? p.name with
    | some q => if q.type = p.type then none else some (.sharedParameter p.name q.type d.entity)
    | none => none

/-- The definition that a template makes, or the fault of it. -/
def define (r : Registry) (entity name : String) (params : List Parameter) (template : Expr) :
    Except TemplateFault Definition :=
  match r.catalog.schema? entity with
  | none => .error .unmapped
  | some schema => do
    let resolved ← Template.resolve schema params template
    match sharedFault? (r.named name) params with
    | some fault => .error fault
    | none => .ok ⟨name, entity, params, resolved, r.nextOrdinal⟩

/-- Decides about a definition. -/
def examine (r : Registry) (entity name : String) (params : List Parameter) (template : Expr) :
    Except FilterError Definition :=
  if r.active then .error (.storeFrozen entity name)
  else if (r.find? entity name).isSome then .error (.duplicateFilter entity name)
  else match r.define entity name params template with
    | .ok d => .ok d
    | .error fault => .error (.invalidTemplate entity name fault.reason)

/-- A list of definitions in an index with one more at its end. -/
def file (index : Dict (List Definition)) (key : String) (d : Definition) :
    Dict (List Definition) :=
  index.put key ((index.get? key).getD [] ++ [d])

/-- The registry with one more definition in both indexes. -/
def add (r : Registry) (d : Definition) : Registry :=
  { r with
    byEntity := file r.byEntity d.entity d
    byName := file r.byName d.name d
    nextOrdinal := r.nextOrdinal + 1 }

/-- What is reported of a refusal.  Only that of a frozen registry is. -/
def refusalEvents (r : Registry) (entity name : String) : List Event :=
  if r.active then
    let subject := s!"filter '{name}' for entity '{entity}'"
    [⟨.warn, s!"Rejected registration of {subject}: store is active"⟩]
  else []

/-- What is reported of a new definition. -/
def registeredEvent (d : Definition) : Event :=
  let content := s!"{d.parameters.length} parameter(s): {d.template.expr.display}"
  ⟨.info, s!"Registered filter '{d.name}' for entity '{d.entity}' with {content}"⟩

/-- Registers a filter on one entity type. -/
def register (r : Registry) (entity name : String) (params : List Parameter)
    (template : Expr) : Logged (Except FilterError Definition × Registry) :=
  match r.examine entity name params template with
  | .error e => ⟨(.error e, r), r.refusalEvents entity name⟩
  | .ok d => ⟨(.ok d, r.add d), [registeredEvent d]⟩

/-- Registers a filter on one entity type after the other, up to the first
refusal. -/
def registerEach (name : String) (params : List Parameter) (template : Expr) :
    List String → Registry → Logged (Except FilterError Unit × Registry)
  | [], r => .quiet (.ok (), r)
  | entity :: entities, r => do
    match ← r.register entity name params template with
    | (.error e, r) => pure (.error e, r)
    | (.ok _, r) => registerEach name params template entities r

/-- The listed entity types whose schema has every field of a template. -/
def carriers (r : Registry) (template : Expr) : List String :=
  r.catalog.listed.filter fun entity =>
    match r.catalog.schema? entity with
    | some schema => template.fields.all fun f => (schema.field? f).isSome
    | none => false

/-- Registers a filter on every entity type that carries the fields of its
template, and gives these. -/
def registerConvention (r : Registry) (name : String) (params : List Parameter)
    (template : Expr) : Logged (Except FilterError (List String) × Registry) :=
  let entities := r.carriers template
  if entities.isEmpty then
    .quiet (.error (.invalidTemplate "*" name TemplateFault.noCarrier.reason), r)
  else do
    match ← registerEach name params template entities r with
    | (.error e, r) => pure (.error e, r)
    | (.ok (), r) => pure (.ok entities, r)

/-! ## Activation -/

/-- Freezes the registry; the answer is whether it was not frozen before. -/
def activate (r : Registry) : Logged (Bool × Registry) :=
  if r.active then .quiet (false, r)
  else
    let content := s!"{r.size} filter definition(s) over {r.byEntity.size} entity type(s)"
    ⟨(true, { r with active := true }), [⟨.info, s!"Filter store activated with {content}"⟩]⟩

end Registry

end RowScope
