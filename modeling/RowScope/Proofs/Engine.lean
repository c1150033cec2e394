import RowScope.Engine
import RowScope.Proofs.Interception
import RowScope.Proofs.Query

/-!
# Engines whose cache can be trusted

`Engine.Sound`: the registry records some definitions and the cache is faithful to
them.  What a sound engine answers is read off its registry alone.

* `Engine.filtersFor` are the predicates that a query gets, made afresh;
  `Sound.result_compiledFilters` and the lemmas after it express the answers by
  them.
* `Engine.Recached` and `Engine.Grown` are the two ways in which an engine changes:
  another cache that is as faithful, or a registry with more definitions.  Both keep
  it sound.
* `Engine.Answerable` and `Engine.Admits` say which queries are executed and which
  rows they give; `Sound.execute_eq_ok_iff` is the proof.
-/

namespace RowScope

namespace Engine

/-- The cache of an engine is faithful to the definitions of its registry. -/
def Sound (e : Engine) : Prop := ∃ ds, e.registry.Records ds ∧ e.cache.Faithful ds

/-- Nothing but the cache differs, and faithful it stays. -/
def Recached (e e' : Engine) : Prop :=
  ∃ cache, e' = { e with cache } ∧
    ∀ ds, e.registry.Records ds → e.cache.Faithful ds → cache.Faithful ds

/-- Nothing but the registry differs, and that by new definitions or its
activation. -/
def Grown (e e' : Engine) : Prop :=
  ∃ registry, e' = { e with registry } ∧ e.registry.Extends registry

variable {e e' : Engine} {s : Session} {q : Query} {context : Context}

theorem Recached.refl (e : Engine) : e.Recached e := ⟨e.cache, rfl, fun _ _ faithful => faithful⟩

theorem Grown.refl (e : Engine) : e.Grown e := ⟨e.registry, rfl, .refl _⟩

theorem Sound.recached (sound : e.Sound) (recached : e.Recached e') : e'.Sound := by
  obtain ⟨ds, records, faithful⟩ := sound
  obtain ⟨cache, rfl, kept⟩ := recached
  exact ⟨ds, records, kept ds records faithful⟩

theorem Sound.grown (sound : e.Sound) (grown : e.Grown e') : e'.Sound := by
  obtain ⟨ds, records, faithful⟩ := sound
  obtain ⟨registry, rfl, extended⟩ := grown
  obtain ⟨more, records⟩ := extended.records records
  exact ⟨ds ++ more, records, faithful.append more⟩

/-- The engine stays the same one, keeps its definitions and stays sound. -/
structure Evolves (e e' : Engine) : Prop where
  id : e'.id = e.id
  registry : e.registry.Extends e'.registry
  sound : e.Sound → e'.Sound

theorem Recached.evolves (recached : e.Recached e') : e.Evolves e' := by
  have kept : e.Sound → e'.Sound := fun sound => sound.recached recached
  obtain ⟨cache, rfl, -⟩ := recached
  exact ⟨rfl, .refl _, kept⟩

theorem Grown.evolves (grown : e.Grown e') : e.Evolves e' := by
  have kept : e.Sound → e'.Sound := fun sound => sound.grown grown
  obtain ⟨registry, rfl, extended⟩ := grown
  exact ⟨rfl, extended, kept⟩

/-- A new engine has normal settings, no definitions and a new cache. -/
theorem exists_cache_of_create {id : Nat} {site : Cache.Site} {catalog : Catalog}
    {settings : Settings} {made : Logged Engine}
    (created : create id site catalog settings = .ok made) : ∃ cache,
      Cache.create site settings.normalized.capacity settings.normalized.shards = .ok cache ∧
      made.result = ⟨id, settings.normalized, .empty catalog, cache⟩ := by
  obtain ⟨cache, allocated, rest⟩ := bind_eq_ok_iff.1 created
  cases rest
  exact ⟨cache, allocated, rfl⟩

theorem sound_of_create {id : Nat} {site : Cache.Site} {catalog : Catalog}
    {settings : Settings} {made : Logged Engine}
    (created : create id site catalog settings = .ok made) : made.result.Sound := by
  obtain ⟨cache, allocated, same⟩ := exists_cache_of_create created
  rw [same]
  exact ⟨[], Registry.records_empty catalog, (Cache.created_of_create allocated).faithful []⟩

/-! ## What changes an engine -/

theorem grown_register (e : Engine) (entity name : String) (params : List Parameter)
    (template : Expr) : e.Grown (e.register entity name params template).result.2 :=
  ⟨_, rfl, e.registry.extends_register entity name params template⟩

theorem grown_registerConvention (e : Engine) (name : String) (params : List Parameter)
    (template : Expr) : e.Grown (e.registerConvention name params template).result.2 :=
  ⟨_, rfl, e.registry.extends_registerConvention name params template⟩

theorem grown_activate (e : Engine) : e.Grown e.activate.result.2 :=
  ⟨_, rfl, e.registry.extends_activate⟩

/-- The session that begins on an engine is a new one, and the engine is activated
or left as it was. -/
theorem result_beginSession (e : Engine) (id : Nat) :
    (e.beginSession id).result.1 = (Session.start id e.id).result ∧
      e.Grown (e.beginSession id).result.2 := by
  rw [beginSession]
  split
  · exact ⟨rfl, e.grown_activate⟩
  · exact ⟨rfl, .refl e⟩

theorem recached_compiledFilters (e : Engine) (s : Session) (entity : String)
    (context : Context) : e.Recached (e.compiledFilters s entity context).result.2 := by
  rw [compiledFilters]
  split
  · exact .refl e
  · exact ⟨_, rfl, fun ds records faithful =>
      (Interception.result_compiledFilters faithful records s entity context).2⟩

theorem recached_intercept (e : Engine) (s : Session) (entity : String)
    (predicate : Option Expr) (context : Context) :
    e.Recached (e.intercept s entity predicate context).result.2 :=
  e.recached_compiledFilters s entity context

theorem recached_executeWith {α : Type} (execute : Query → Except FilterError α) (e : Engine)
    (s : Session) (q : Query) (context : Context) :
    e.Recached (executeWith execute e s q context).result.2 :=
  e.recached_compiledFilters s q.entity context

theorem recached_execute (rows : List Row) (e : Engine) (s : Session) (q : Query)
    (context : Context) : e.Recached (execute rows e s q context).result.2 :=
  recached_executeWith _ e s q context

theorem recached_find (rows : List Row) (e : Engine) (s : Session) (entity : String)
    (key : Value) : e.Recached (find rows e s entity key).result.2 := by
  rw [find]
  split
  · exact .refl e
  · exact recached_execute rows e s _ .empty

theorem recached_compile (e : Engine) (entity name : String) (values : Dict Value) :
    e.Recached (e.compile entity name values).result.2 := by
  rw [compile]
  split
  · exact .refl e
  · next d found =>
    exact ⟨_, rfl, fun ds records faithful =>
      faithful.compile (records.mem_of_lookup found).1 values⟩

/-! ## Answers without the cache -/

/-- The predicates of the filters on an entity type that are on in a session, made
afresh. -/
def filtersFor (e : Engine) (s : Session) (entity : String) (context : Context) :
    Except FilterError (List Predicate) :=
  if s.home ≠ e.id then .error (Interception.foreignSession s)
  else (Interception.predicatesFor s context (e.registry.filtersFor entity)).map
    fun ps => ps.map Prod.snd

theorem Sound.result_compiledFilters (sound : e.Sound) (s : Session) (entity : String)
    (context : Context) :
    (e.compiledFilters s entity context).result.1 = e.filtersFor s entity context := by
  obtain ⟨ds, records, faithful⟩ := sound
  rw [compiledFilters, filtersFor]
  split
  · rfl
  · exact (Interception.result_compiledFilters faithful records s entity context).1

theorem Sound.result_intercept (sound : e.Sound) (s : Session) (entity : String)
    (predicate : Option Expr) (context : Context) :
    (e.intercept s entity predicate context).result.1 =
      (e.filtersFor s entity context).map (Query.inject predicate) := by
  rw [← sound.result_compiledFilters]
  rfl

/-- What comes of a query with these predicates. -/
def answerFor {α : Type} (execute : Query → Except FilterError α) (e : Engine) (s : Session)
    (q : Query) (context : Context) : Except FilterError α :=
  (e.filtersFor s q.entity context).bind fun filters => execute { q with filters }

theorem Sound.result_executeWith (sound : e.Sound) {α : Type}
    (execute : Query → Except FilterError α) (s : Session) (q : Query) (context : Context) :
    (executeWith execute e s q context).result.1 = answerFor execute e s q context := by
  rw [answerFor, ← sound.result_compiledFilters]
  simp only [executeWith, plan, Logged.result_bind, Logged.result_pure]
  cases (e.compiledFilters s q.entity context).result.1 <;> rfl

theorem Sound.result_find (sound : e.Sound) (rows : List Row) (s : Session) (entity : String)
    (key : Value) :
    (find rows e s entity key).result.1 =
      match e.registry.catalog.schema? entity with
      | none => .error (.intercept s!"entity type '{entity}' is not mapped")
      | some schema =>
        (answerFor (fun q => q.execute rows) e s (Query.byKey entity schema.key key)
          .empty).map List.head? := by
  cases mapped : e.registry.catalog.schema? entity with
  | none =>
    rw [find, mapped]
    rfl
  | some schema =>
    have answered := sound.result_executeWith (fun q => q.execute rows) s
      (Query.byKey entity schema.key key) .empty
    rw [find, mapped]
    exact congrArg (Except.map List.head?) answered

theorem Sound.result_compile (sound : e.Sound) (entity name : String) (values : Dict Value) :
    (e.compile entity name values).result.1 =
      (e.registry.lookup entity name).bind fun d => d.compileAfresh values := by
  obtain ⟨ds, records, faithful⟩ := sound
  rw [compile]
  cases found : e.registry.lookup entity name with
  | error error => rfl
  | ok d =>
    exact Definition.result_compile faithful records (records.mem_of_lookup found).1 values

/-! ## Execution -/

/-- A query can be executed if the predicate of its caller has no parameters and
every parameter of every filter that is on is supplied with a value. -/
def Answerable (e : Engine) (s : Session) (q : Query) (context : Context) : Prop :=
  (∀ p ∈ q.predicate, p.paramOccurrences = []) ∧
    ∀ d ∈ e.registry.definitions, d.entity = q.entity → s.isEnabled d.name = true →
      ∀ p ∈ d.parameters,
        (Interception.supplied? (s.state d.name).values context p).isSome = true

instance (e : Engine) (s : Session) (q : Query) (context : Context) :
    Decidable (e.Answerable s q context) :=
  inferInstanceAs (Decidable (_ ∧ _))

/-- A row is one that a query asks for if it is of the entity type and matches the
predicate of the caller, and one that the session may see if the template of every
filter on the entity type that is on holds with the values supplied. -/
def Admits (e : Engine) (s : Session) (q : Query) (context : Context) (row : Row) : Prop :=
  row.entity = q.entity ∧ (∀ p ∈ q.predicate, p.Holds (fun _ => .null) row) ∧
    ∀ d ∈ e.registry.definitions, d.entity = q.entity → s.isEnabled d.name = true →
      d.template.expr.Holds
        (Interception.environment (s.state d.name).values context d) row

instance (e : Engine) (s : Session) (q : Query) (context : Context) (row : Row) :
    Decidable (e.Admits s q context row) :=
  inferInstanceAs (Decidable (_ ∧ _ ∧ _))

/-- **Filtered execution.**  A sound engine executes a query of one of its sessions
exactly if it is answerable, and gives the rows that it admits, in their order. -/
theorem Sound.execute_eq_ok_iff (sound : e.Sound) (home : s.home = e.id)
    {rows answer : List Row} :
    (execute rows e s q context).result.1 = .ok answer ↔
      e.Answerable s q context ∧ answer = rows.filter fun row => e.Admits s q context row := by
  have answered := sound.result_executeWith (fun q => q.execute rows) s q context
  obtain ⟨ds, records, -⟩ := sound
  rw [execute, answered, answerFor, filtersFor, if_neg (not_not.2 home), Answerable,
    ← Interception.exists_predicates_iff records]
  cases made : Interception.predicatesFor s context (e.registry.filtersFor q.entity) with
  | error error => simp [Except.map, Except.bind]
  | ok ps =>
    let injected : Query := { q with filters := ps.map Prod.snd }
    have selected : ∀ row, injected.Selects row ↔ e.Admits s q context row := by
      intro row
      rw [Admits, ← Interception.forall_holds_iff records made row, Query.Selects,
        List.forall_mem_map]
    have executed : injected.execute rows = .ok answer ↔
        (∀ p ∈ q.predicate, p.paramOccurrences = []) ∧
          answer = rows.filter fun row => injected.Selects row := Query.execute_eq_ok_iff
    simp only [selected] at executed
    simpa [Except.map, Except.bind] using executed

end Engine

end RowScope
