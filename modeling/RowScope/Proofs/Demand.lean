import RowScope.Proofs.CacheUse
import RowScope.Proofs.Engine

/-!
# What an interception demands of the cache

To intercept a query is to demand one predicate after the other of the cache, up to
the first filter that lacks a value.

* `Cache.Demand` is a key with the way to make its predicate, `Cache.meetAll` what
  demands do to a cache, and `Cache.Met` the two ways in which one is met.
* `Interception.demands` are those of the filters that are on; `after_compileEach`
  says that the cache afterwards is the one that has met them, and `length_demands`
  that they are as many as there are filters before the first that lacks a value.
* `Engine.demands` are those of a query, `Sound.after_compiledFilters` says what
  intercepting it does to an engine.
-/

namespace RowScope

/-! ## Demands -/

namespace Cache

/-- A key, and how its predicate is made. -/
structure Demand where
  key : Key
  compile : Logged (Except FilterError Predicate)

/-- Its predicate can be made. -/
def Demand.Compiles (m : Demand) : Prop := ∃ p, m.compile.result = .ok p

/-- The cache after a demand. -/
def meet (c : Cache) (m : Demand) : Cache := (c.getOrInsert m.key m.compile).result.2

/-- The cache after a list of demands. -/
def meetAll (c : Cache) (ms : List Demand) : Cache := ms.foldl meet c

/-- How a demand that compiles is met: its key is found, or its predicate is made
and pushed. -/
inductive Met (c : Cache) (m : Demand) : Cache → Prop
  | found {e : Entry} (found : c.find? m.key = some e) :
    Met c m { c with entries := promote e c.entries, hits := c.hits + 1 }
  | made {p : Predicate} {c' : Cache} (missing : c.find? m.key = none)
      (pushed : { c with misses := c.misses + 1 }.Pushed ⟨m.key, p⟩ c') : Met c m c'

theorem met_meet {c : Cache} (capacity : 0 < c.shardCapacity.toNat) {m : Demand}
    (compiles : m.Compiles) : c.Met m (c.meet m) := by
  obtain ⟨p, made⟩ := compiles
  rw [meet, getOrInsert_eq]
  cases found : c.find? m.key with
  | some e => exact .found found
  | none =>
    rw [made]
    have pushed := pushed_push (c := { c with misses := c.misses + 1 }) capacity ⟨m.key, p⟩
    exact .made found pushed

/-- A demand that compiles is answered with a predicate. -/
theorem getOrInsert_of_compiles (c : Cache) {m : Demand} (compiles : m.Compiles) :
    ∃ p, (c.getOrInsert m.key m.compile).result = (.ok p, c.meet m) := by
  obtain ⟨p, made⟩ := compiles
  have answer := c.result_getOrInsert m.key m.compile
  rw [meet]
  cases found : c.find? m.key with
  | some e =>
    rw [found] at answer
    exact ⟨e.predicate, Prod.ext answer rfl⟩
  | none =>
    rw [found, made] at answer
    exact ⟨p, Prod.ext answer rfl⟩

end Cache

/-! ## Definitions -/

namespace Definition

variable {catalog : Catalog} {d : Definition} {values : Dict Value} {m : Cache.Demand}

/-- What a definition with values for its parameters demands of the cache. -/
def demand (d : Definition) (values : Dict Value) : Except FilterError Cache.Demand :=
  (declaredValues d.name values d.parameters).map fun vs =>
    ⟨d.cacheKey vs, d.bindAndCompile values⟩

/-- To compile a definition is to put its demand to the cache, if it has one. -/
theorem compile_eq (d : Definition) (values : Dict Value) (cache : Cache) :
    (d.compile values cache).result =
      match d.demand values with
      | .error e => (.error e, cache)
      | .ok m => (cache.getOrInsert m.key m.compile).result := by
  rw [compile, demand]
  cases declaredValues d.name values d.parameters with
  | error e => rfl
  | ok vs => rfl

/-- The predicate of a definition is what its demand compiles to. -/
theorem compileAfresh_eq (d : Definition) (values : Dict Value) :
    d.compileAfresh values = (d.demand values).bind fun m => m.compile.result := by
  rw [demand]
  cases collected : declaredValues d.name values d.parameters with
  | error e => exact compileAfresh_of_error collected
  | ok vs => exact compileAfresh_of_declaredValues collected

theorem compiles_of_demand (resolved : d.Resolved catalog) (demanded : d.demand values = .ok m) :
    m.Compiles := by
  obtain ⟨vs, collected, rfl⟩ := map_eq_ok_iff.1 demanded
  have given := (exists_declaredValues_iff d.name).1 ⟨vs, collected⟩
  obtain ⟨p, made⟩ := (exists_compileAfresh_iff resolved).2 given
  exact ⟨p, (compileAfresh_of_declaredValues collected).symm.trans made⟩

theorem key_of_demand (demanded : d.demand values = .ok m) : m.key.filter = d.name := by
  obtain ⟨vs, -, rfl⟩ := map_eq_ok_iff.1 demanded
  rfl

end Definition

/-! ## Interception -/

namespace Interception

/-- What a filter with some values demands of the cache. -/
def demand (explicit : Dict Value) (context : Context) (d : Definition) :
    Except FilterError Cache.Demand := do
  let values ← gather d.name explicit context d.parameters explicit
  d.demand values

/-- What the filters that are on demand of the cache, up to the first that lacks a
value. -/
def demands (s : Session) (context : Context) : List Definition → List Cache.Demand
  | [] => []
  | d :: ds =>
    match s.enabledValues? d.name with
    | none => demands s context ds
    | some explicit =>
      match demand explicit context d with
      | .error _ => []
      | .ok m => m :: demands s context ds

/-- The number of filters that are on before the first one that lacks a value. -/
def reached (s : Session) (context : Context) (ds : List Definition) : Nat :=
  let on := ds.filter fun d => s.isEnabled d.name
  (on.takeWhile fun d => d.parameters.all fun p =>
    (supplied? (s.state d.name).values context p).isSome).length

section Demand

variable {catalog : Catalog} {d : Definition} {explicit : Dict Value} {context : Context}
  {m : Cache.Demand}

/-- To compile a filter is to put its demand to the cache, if it has one. -/
theorem compileOne_eq (d : Definition) (explicit : Dict Value) (context : Context)
    (cache : Cache) :
    (compileOne d explicit context cache).result =
      match demand explicit context d with
      | .error e => (.error e, cache)
      | .ok m => (cache.getOrInsert m.key m.compile).result := by
  rw [compileOne, demand]
  cases gather d.name explicit context d.parameters explicit with
  | error e => rfl
  | ok values => exact d.compile_eq values cache

/-- The predicate of a filter is what its demand compiles to. -/
theorem predicateFor_eq (explicit : Dict Value) (context : Context) (d : Definition) :
    predicateFor explicit context d =
      (demand explicit context d).bind fun m => m.compile.result := by
  rw [predicateFor, demand]
  cases gather d.name explicit context d.parameters explicit with
  | error e => rfl
  | ok values => exact d.compileAfresh_eq values

theorem demand_compiles (resolved : d.Resolved catalog)
    (demanded : demand explicit context d = .ok m) : m.Compiles := by
  obtain ⟨values, -, demanded⟩ := bind_eq_ok_iff.1 demanded
  exact Definition.compiles_of_demand resolved demanded

/-- A filter has a demand exactly if all its parameters are supplied. -/
theorem exists_demand_iff (resolved : d.Resolved catalog) :
    (∃ m, demand explicit context d = .ok m) ↔
      ∀ p ∈ d.parameters, (supplied? explicit context p).isSome = true := by
  rw [← exists_predicateFor_iff resolved, predicateFor_eq]
  constructor
  · rintro ⟨m, demanded⟩
    obtain ⟨p, made⟩ := demand_compiles resolved demanded
    exact ⟨p, by rw [demanded]; exact made⟩
  · rintro ⟨p, made⟩
    cases demanded : demand explicit context d with
    | error e =>
      rw [demanded] at made
      cases made
    | ok m => exact ⟨m, rfl⟩

theorem key_of_demand (demanded : demand explicit context d = .ok m) :
    m.key.filter = d.name := by
  obtain ⟨values, -, demanded⟩ := bind_eq_ok_iff.1 demanded
  exact Definition.key_of_demand demanded

end Demand

section Demands

variable {catalog : Catalog} {fs : List Definition} {s : Session} {context : Context}

theorem compiles_of_mem_demands (resolved : ∀ d ∈ fs, d.Resolved catalog) :
    ∀ m ∈ demands s context fs, m.Compiles := by
  induction fs with
  | nil => simp [demands]
  | cons d fs ih =>
    obtain ⟨first, rest⟩ := List.forall_mem_cons.1 resolved
    rw [demands]
    cases s.enabledValues? d.name with
    | none => exact ih rest
    | some explicit =>
      dsimp only
      cases demanded : demand explicit context d with
      | error e => simp
      | ok m => exact List.forall_mem_cons.2 ⟨demand_compiles first demanded, ih rest⟩

/-- Filters with different names demand different keys. -/
theorem names_of_demands (s : Session) (context : Context) (fs : List Definition) :
    ((demands s context fs).map fun m => m.key.filter).Sublist (fs.map Definition.name) := by
  induction fs with
  | nil => exact .slnil
  | cons d fs ih =>
    rw [demands, List.map_cons]
    cases s.enabledValues? d.name with
    | none => exact ih.cons _
    | some explicit =>
      dsimp only
      cases demanded : demand explicit context d with
      | error e => exact List.nil_sublist _
      | ok m =>
        rw [List.map_cons, key_of_demand demanded]
        exact ih.cons_cons _

/-- There are as many demands as filters before the first that lacks a value. -/
theorem length_demands (resolved : ∀ d ∈ fs, d.Resolved catalog) :
    (demands s context fs).length = reached s context fs := by
  induction fs with
  | nil => rfl
  | cons d fs ih =>
    obtain ⟨first, rest⟩ := List.forall_mem_cons.1 resolved
    rw [demands, reached, List.filter_cons]
    cases given : s.enabledValues? d.name with
    | none =>
      rw [Session.enabledValues?_eq_none_iff.1 given]
      exact ih rest
    | some explicit =>
      obtain ⟨on, rfl⟩ := Session.enabledValues?_eq_some_iff.1 given
      have supplied : (∃ m, demand (s.state d.name).values context d = .ok m) ↔
          ∀ p ∈ d.parameters, (supplied? (s.state d.name).values context p).isSome = true :=
        exists_demand_iff first
      rw [on, if_pos rfl, List.takeWhile_cons]
      dsimp only
      cases demanded : demand (s.state d.name).values context d with
      | error e =>
        have lacking : (d.parameters.all fun p =>
            (supplied? (s.state d.name).values context p).isSome) = false := by
          rw [← Bool.not_eq_true, List.all_eq_true, ← supplied, demanded]
          simp
        rw [lacking]
        rfl
      | ok m =>
        have complete : (d.parameters.all fun p =>
            (supplied? (s.state d.name).values context p).isSome) = true := by
          rw [List.all_eq_true]
          exact supplied.1 ⟨m, demanded⟩
        rw [complete, if_pos rfl, List.length_cons, List.length_cons, ih rest]
        rfl

/-- The predicates of a query that is not stopped are as many as its demands. -/
theorem length_predicatesFor {ps : List (String × Predicate)}
    (made : predicatesFor s context fs = .ok ps) : ps.length = (demands s context fs).length := by
  induction fs generalizing ps with
  | nil =>
    cases made
    rfl
  | cons d fs ih =>
    rw [predicatesFor] at made
    rw [demands]
    cases given : s.enabledValues? d.name with
    | none =>
      rw [given] at made
      exact ih made
    | some explicit =>
      rw [given] at made
      obtain ⟨p, first, made⟩ := bind_eq_ok_iff.1 made
      obtain ⟨qs, rest, made⟩ := bind_eq_ok_iff.1 made
      cases made
      rw [predicateFor_eq] at first
      dsimp only
      cases demanded : demand explicit context d with
      | error e =>
        rw [demanded] at first
        cases first
      | ok m => exact congrArg Nat.succ (ih rest)

/-- **To compile the filters that are on** is to have the cache meet their demands. -/
theorem after_compileEach (resolved : ∀ d ∈ fs, d.Resolved catalog) (s : Session)
    (entity : String) (context : Context) (cache : Cache) :
    (compileEach s entity context fs cache).result.2 =
      cache.meetAll (demands s context fs) := by
  induction fs generalizing cache with
  | nil => rfl
  | cons d fs ih =>
    obtain ⟨first, rest⟩ := List.forall_mem_cons.1 resolved
    rw [compileEach, demands]
    cases s.enabledValues? d.name with
    | none => exact ih rest cache
    | some explicit =>
      dsimp only
      rw [Logged.result_bind, compileOne_eq]
      cases demanded : demand explicit context d with
      | error e => rfl
      | ok m =>
        obtain ⟨p, answered⟩ := cache.getOrInsert_of_compiles (demand_compiles first demanded)
        have further := ih rest (cache.meet m)
        dsimp only
        rw [answered]
        dsimp only
        rw [Logged.result_bind]
        generalize (compileEach s entity context fs (cache.meet m)).result = outcome at further ⊢
        rcases outcome with ⟨_ | ps, cache'⟩
        · exact further
        · exact further

end Demands

end Interception

/-! ## Engines -/

namespace Engine

variable {e : Engine} {s : Session} {entity : String} {context : Context}

/-- What a query of a session demands of the cache of an engine. -/
def demands (e : Engine) (s : Session) (entity : String) (context : Context) :
    List Cache.Demand :=
  if s.home ≠ e.id then [] else Interception.demands s context (e.registry.filtersFor entity)

/-- The number of filters that are compiled for a query of a session: those that are
on, up to the first that lacks a value. -/
def reached (e : Engine) (s : Session) (entity : String) (context : Context) : Nat :=
  if s.home ≠ e.id then 0 else Interception.reached s context (e.registry.filtersFor entity)

theorem Sound.resolved_of_mem (sound : e.Sound) (entity : String) :
    ∀ d ∈ e.registry.filtersFor entity, d.Resolved e.registry.catalog := by
  obtain ⟨ds, records, -⟩ := sound
  exact fun d filed => records.resolved d (records.mem_filtersFor.1 filed).1

/-- An engine whose cache has met the demands of a query. -/
def queried (e : Engine) (s : Session) (entity : String) (context : Context) : Engine :=
  { e with cache := e.cache.meetAll (e.demands s entity context) }

/-- **To intercept a query** is to have the cache meet its demands. -/
theorem Sound.after_compiledFilters (sound : e.Sound) (s : Session) (entity : String)
    (context : Context) :
    (e.compiledFilters s entity context).result.2 = e.queried s entity context := by
  rw [compiledFilters, queried, demands]
  split
  · rfl
  · have after := Interception.after_compileEach (sound.resolved_of_mem entity) s entity context
      e.cache
    rw [Logged.result_bind, Interception.compiledFilters, Logged.result_bind, ← after]
    generalize (Interception.compileEach s entity context (e.registry.filtersFor entity)
      e.cache).result = outcome
    rcases outcome with ⟨_ | ps, cache⟩
    · rfl
    · rfl

theorem Sound.compiles_of_mem_demands (sound : e.Sound) :
    ∀ m ∈ e.demands s entity context, m.Compiles := by
  rw [demands]
  split
  · simp
  · exact Interception.compiles_of_mem_demands (sound.resolved_of_mem entity)

theorem Sound.length_demands (sound : e.Sound) :
    (e.demands s entity context).length = e.reached s entity context := by
  rw [demands, reached]
  split
  · rfl
  · exact Interception.length_demands (sound.resolved_of_mem entity)

/-- The filters that are injected into a query are all that are reached. -/
theorem Sound.length_filters (sound : e.Sound) {filters : List Predicate}
    (made : (e.compiledFilters s entity context).result.1 = .ok filters) :
    filters.length = e.reached s entity context := by
  rw [sound.result_compiledFilters, filtersFor] at made
  rw [← sound.length_demands, demands]
  split at made
  · cases made
  next home =>
  rw [if_neg home]
  cases named : Interception.predicatesFor s context (e.registry.filtersFor entity) with
  | error error =>
    rw [named] at made
    cases made
  | ok ps =>
    rw [named] at made
    cases made
    rw [List.length_map, Interception.length_predicatesFor named]

/-- A query demands every key once. -/
theorem Sound.nodup_demands (sound : e.Sound) :
    ((e.demands s entity context).map Cache.Demand.key).Nodup := by
  obtain ⟨ds, records, -⟩ := sound
  rw [demands]
  split
  · exact List.nodup_nil
  · have names : ((e.registry.filtersFor entity).map Definition.name).Nodup := by
      rw [records.onEntity]
      refine List.pairwise_map.2 ((records.distinct.filter _).imp_of_mem ?_)
      intro d d' member member' apart
      have onEntity := (List.mem_filter.1 member).2
      have onEntity' := (List.mem_filter.1 member').2
      rw [decide_eq_true_iff] at onEntity onEntity'
      exact apart (onEntity.trans onEntity'.symm)
    have kept := names.sublist
      (Interception.names_of_demands s context (e.registry.filtersFor entity))
    have filters : ((Interception.demands s context (e.registry.filtersFor entity)).map
        Cache.Demand.key).map Cache.Key.filter = (Interception.demands s context
          (e.registry.filtersFor entity)).map fun m => m.key.filter := List.map_map
    exact (filters ▸ kept).of_map

/-- What it demands of the cache to compile a definition directly. -/
def directDemand (e : Engine) (entity name : String) (values : Dict Value) :
    Except FilterError Cache.Demand := do
  let d ← e.registry.lookup entity name
  d.demand values

theorem compile_eq (e : Engine) (entity name : String) (values : Dict Value) :
    (e.compile entity name values).result =
      match e.directDemand entity name values with
      | .error error => (.error error, e)
      | .ok m =>
        let outcome := (e.cache.getOrInsert m.key m.compile).result
        (outcome.1, { e with cache := outcome.2 }) := by
  rw [compile, directDemand]
  cases e.registry.lookup entity name with
  | error error => rfl
  | ok d =>
    have demanded : ((.ok d : Except FilterError Definition) >>= fun d => d.demand values) =
      d.demand values := rfl
    dsimp only
    rw [demanded, Logged.result_bind, d.compile_eq]
    cases d.demand values with
    | error error => rfl
    | ok m => rfl

/-- **To compile a definition** directly is to have the cache meet one demand, or none if
a value is missing. -/
theorem Sound.after_compile (sound : e.Sound) (entity name : String) (values : Dict Value) :
    ∃ ms : List Cache.Demand, (∀ m ∈ ms, m.Compiles) ∧
      (e.compile entity name values).result.2 = { e with cache := e.cache.meetAll ms } ∧
      ms.length = (e.compile entity name values).result.1.isOk.toNat := by
  rw [compile_eq]
  cases demanded : e.directDemand entity name values with
  | error error => exact ⟨[], by simp, rfl, rfl⟩
  | ok m =>
    obtain ⟨ds, records, -⟩ := sound
    obtain ⟨d, found, demanded⟩ := bind_eq_ok_iff.1 demanded
    have resolved := records.resolved d (records.mem_of_lookup found).1
    have compiles := Definition.compiles_of_demand resolved demanded
    obtain ⟨p, answered⟩ := e.cache.getOrInsert_of_compiles compiles
    refine ⟨[m], List.forall_mem_singleton.2 compiles, ?_, ?_⟩
    · rfl
    · dsimp only
      rw [answered]
      rfl

end Engine

end RowScope
