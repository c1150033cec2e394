import RowScope.Compilation
import RowScope.Proofs.Cache
import RowScope.Proofs.Registry
import RowScope.Proofs.Signature

/-!
# The cache is transparent

What a definition compiles to does not depend on the cache it is compiled through.

* `Definition.compileAfresh` is compilation without a cache.
* `Cache.Faithful ds`: every entry is what some definition of `ds` compiles to
  afresh for values of its signature.  Signatures tell values apart, entity type
  and name tell definitions apart, and a template asks for declared parameters
  only, so an entry under a key is right for everyone who asks under that key
  (`Cache.Faithful.find?_eq`).
* `Definition.result_compile`: through a faithful cache a definition compiles to
  what it compiles to afresh, and the cache stays faithful.
* `Cache.serveAll` is any history of requests; it leads from an empty cache to a
  faithful one.
-/

namespace RowScope

namespace Definition

/-! ## Declared values -/

section DeclaredValues

variable {filter : String} {values values' : Dict Value} {params : List Parameter}
  {vs : List Value}

theorem exists_declaredValues_iff (filter : String) :
    (∃ vs, declaredValues filter values params = .ok vs) ↔
      ∀ p ∈ params, values.contains p.name = true := by
  induction params with
  | nil => simp [declaredValues]
  | cons p ps ih =>
    rw [List.forall_mem_cons, ← ih, declaredValues, Dict.contains]
    cases found : values.get? p.name with
    | none => simp
    | some v =>
      dsimp only
      constructor
      · rintro ⟨vs, collected⟩
        obtain ⟨ws, rest, -⟩ := bind_eq_ok_iff.1 collected
        exact ⟨rfl, ws, rest⟩
      · rintro ⟨-, ws, rest⟩
        exact ⟨v :: ws, by rw [rest]; rfl⟩

theorem declaredValues_congr
    (agree : ∀ p ∈ params, values.get? p.name = values'.get? p.name) :
    declaredValues filter values params = declaredValues filter values' params := by
  induction params with
  | nil => rfl
  | cons p ps ih =>
    obtain ⟨head, tail⟩ := List.forall_mem_cons.1 agree
    rw [declaredValues, declaredValues, head, ih tail]

/-- The list of declared values determines the value of each parameter. -/
theorem get?_eq_of_declaredValues (collected : declaredValues filter values params = .ok vs)
    (collected' : declaredValues filter values' params = .ok vs) :
    ∀ p ∈ params, values.get? p.name = values'.get? p.name := by
  induction params generalizing vs with
  | nil => simp
  | cons p ps ih =>
    rw [declaredValues] at collected collected'
    cases found : values.get? p.name with
    | none =>
      rw [found] at collected
      cases collected
    | some v =>
      cases found' : values'.get? p.name with
      | none =>
        rw [found'] at collected'
        cases collected'
      | some v' =>
        rw [found] at collected
        rw [found'] at collected'
        obtain ⟨ws, rest, collected⟩ := bind_eq_ok_iff.1 collected
        obtain ⟨ws', rest', collected'⟩ := bind_eq_ok_iff.1 collected'
        cases collected
        cases collected'
        exact List.forall_mem_cons.2 ⟨found.trans found'.symm, ih rest rest'⟩

end DeclaredValues

/-! ## Compilation without a cache -/

/-- The predicate of a definition and values for its parameters, made afresh. -/
def compileAfresh (d : Definition) (values : Dict Value) : Except FilterError Predicate := do
  let _ ← declaredValues d.name values d.parameters
  Predicate.compile (← d.template.expr.bind d.name values)

variable {catalog : Catalog} {d : Definition} {values values' : Dict Value} {p : Predicate}

theorem compileAfresh_of_declaredValues {vs : List Value}
    (collected : declaredValues d.name values d.parameters = .ok vs) :
    d.compileAfresh values = (d.bindAndCompile values).result := by
  rw [compileAfresh, collected, bindAndCompile]
  cases d.template.expr.bind d.name values with
  | error e => rfl
  | ok bound => rfl

theorem compileAfresh_of_error {e : FilterError}
    (missing : declaredValues d.name values d.parameters = .error e) :
    d.compileAfresh values = .error e := by
  rw [compileAfresh, missing]
  rfl

/-- What is compiled is the bound template. -/
theorem bind_of_compileAfresh (compiled : d.compileAfresh values = .ok p) :
    d.template.expr.bind d.name values = .ok p.toExpr := by
  obtain ⟨vs, -, compiled⟩ := bind_eq_ok_iff.1 compiled
  obtain ⟨bound, done, compiled⟩ := bind_eq_ok_iff.1 compiled
  rw [done, Predicate.compile_eq_ok_iff.1 compiled]

/-- A row matches a compiled predicate exactly if the template holds with the values. -/
theorem holds_compileAfresh_iff (compiled : d.compileAfresh values = .ok p) (row : Row) :
    p.holds row = true ↔ d.template.expr.Holds (Expr.environment values) row := by
  rw [Predicate.holds_iff (Expr.environment values), Expr.Holds, Expr.Holds,
    Expr.value_of_bind _ row _ (bind_of_compileAfresh compiled)]

/-- Compilation succeeds exactly if every declared parameter has a value. -/
theorem exists_compileAfresh_iff (resolved : d.Resolved catalog) :
    (∃ p, d.compileAfresh values = .ok p) ↔
      ∀ p ∈ d.parameters, values.contains p.name = true := by
  rw [← exists_declaredValues_iff d.name]
  constructor
  · rintro ⟨p, compiled⟩
    obtain ⟨vs, collected, -⟩ := bind_eq_ok_iff.1 compiled
    exact ⟨vs, collected⟩
  · rintro ⟨vs, collected⟩
    have supplied := (exists_declaredValues_iff d.name).1 ⟨vs, collected⟩
    have referred : ∀ name ∈ d.template.expr.paramOccurrences,
        values.contains name = true := by
      intro name member
      obtain ⟨q, declared, rfl⟩ := resolved.declared name member
      exact supplied q declared
    obtain ⟨p, done⟩ := Expr.exists_bind d.name _ referred
    refine ⟨p, ?_⟩
    rw [compileAfresh, collected, done]
    exact Predicate.compile_toExpr p

/-- Only the values of the declared parameters matter. -/
theorem compileAfresh_congr (resolved : d.Resolved catalog)
    (agree : ∀ p ∈ d.parameters, values.get? p.name = values'.get? p.name) :
    d.compileAfresh values = d.compileAfresh values' := by
  have bound : d.template.expr.bind d.name values = d.template.expr.bind d.name values' :=
    Expr.bind_congr _ fun name member => by
      obtain ⟨q, declared, rfl⟩ := resolved.declared name member
      exact agree q declared
  rw [compileAfresh, compileAfresh, declaredValues_congr agree, bound]

end Definition

/-! ## Faithful caches -/

/-- `p` is what some definition of `ds` compiles to for the values of a key. -/
def Cache.Key.Stands (ds : List Definition) (key : Cache.Key) (p : Predicate) : Prop :=
  ∃ d ∈ ds, ∃ values vs, Definition.declaredValues d.name values d.parameters = .ok vs ∧
    key = d.cacheKey vs ∧ d.compileAfresh values = .ok p

/-- Every entry is what a definition compiles to for the values of its key. -/
def Cache.Faithful (ds : List Definition) (c : Cache) : Prop := c.All (Cache.Key.Stands ds)

theorem Cache.Created.faithful {site : Cache.Site} {capacity shards : UInt64} {c : Cache}
    (created : c.Created site capacity shards) (ds : List Definition) : c.Faithful ds :=
  created.all

theorem Cache.Faithful.append {ds : List Definition} {c : Cache} (faithful : c.Faithful ds)
    (more : List Definition) : c.Faithful (ds ++ more) :=
  faithful.mono fun _ _ ⟨d, member, made⟩ => ⟨d, List.mem_append_left _ member, made⟩

section Faithful

variable {r : Registry} {ds : List Definition} {c : Cache} {d : Definition}
  {values : Dict Value} {vs : List Value}

/-- An entry under the key of a definition and its values is what these compile to
afresh. -/
theorem Cache.Faithful.find?_eq (faithful : c.Faithful ds) (records : r.Records ds)
    (member : d ∈ ds) (collected : Definition.declaredValues d.name values d.parameters = .ok vs)
    {e : Cache.Entry} (found : c.find? (d.cacheKey vs) = some e) :
    d.compileAfresh values = .ok e.predicate := by
  obtain ⟨d', member', values', vs', collected', key, made⟩ := faithful.of_find? found
  simp only [Definition.cacheKey, Cache.Key.mk.injEq] at key
  obtain ⟨entity, name, signature⟩ := key
  obtain rfl := records.eq_of_key member member' entity name
  obtain rfl := Value.signature_injective signature
  rw [← made]
  exact Definition.compileAfresh_congr (records.resolved d member)
    (Definition.get?_eq_of_declaredValues collected collected')

/-- **Compilation through a faithful cache** gives what it gives afresh. -/
theorem Definition.result_compile (faithful : c.Faithful ds) (records : r.Records ds)
    (member : d ∈ ds) (values : Dict Value) :
    (d.compile values c).result.1 = d.compileAfresh values := by
  rw [compile]
  split
  · next e missing => exact (compileAfresh_of_error missing).symm
  · next vs collected =>
    rw [Cache.result_getOrInsert]
    split
    · next e found => exact (faithful.find?_eq records member collected found).symm
    · exact (compileAfresh_of_declaredValues collected).symm

/-- Compilation keeps a cache faithful. -/
theorem Cache.Faithful.compile (faithful : c.Faithful ds) (member : d ∈ ds)
    (values : Dict Value) : (d.compile values c).result.2.Faithful ds := by
  rw [Definition.compile]
  split
  · exact faithful
  · next vs collected =>
    refine faithful.getOrInsert _ fun p made => ?_
    exact ⟨d, member, values, vs, collected, rfl,
      (Definition.compileAfresh_of_declaredValues collected).trans made⟩

end Faithful

/-! ## Histories of requests -/

/-- What a cache of predicates is asked to do. -/
inductive Cache.Request
  | compile (d : Definition) (values : Dict Value)
  | clear

namespace Cache

/-- The cache after a request. -/
def serve (c : Cache) : Request → Cache
  | .compile d values => (d.compile values c).result.2
  | .clear => c.clear

/-- The cache after a list of requests. -/
def serveAll (c : Cache) (requests : List Request) : Cache := requests.foldl serve c

/-- A request is about a definition of a list, if it is about any. -/
def Request.Within (ds : List Definition) : Request → Prop
  | .compile d _ => d ∈ ds
  | .clear => True

variable {ds : List Definition} {c : Cache}

theorem Faithful.serve (faithful : c.Faithful ds) {request : Request}
    (within : request.Within ds) : (c.serve request).Faithful ds := by
  cases request with
  | compile d values => exact faithful.compile within values
  | clear => exact all_clear c

theorem Faithful.serveAll (faithful : c.Faithful ds) {requests : List Request}
    (within : ∀ request ∈ requests, request.Within ds) :
    (c.serveAll requests).Faithful ds := by
  induction requests generalizing c with
  | nil => exact faithful
  | cons request requests ih =>
    obtain ⟨first, rest⟩ := List.forall_mem_cons.1 within
    exact ih (faithful.serve first) rest

end Cache

/-- **The cache is transparent.** After any history of requests about the
definitions of a registry, whatever the shards and their capacity, a definition
compiles to what it compiles to with any empty cache.  The predicate is the bound
template; there is one exactly if every declared parameter has a value; and the
values of other names do not matter. -/
theorem Definition.compile_serveAll {r : Registry} (reachable : r.Reachable)
    {site site' : Cache.Site} {capacity shards capacity' shards' : UInt64} {new new' : Cache}
    (created : Cache.create site capacity shards = .ok new)
    (created' : Cache.create site' capacity' shards' = .ok new')
    {requests : List Cache.Request}
    (within : ∀ request ∈ requests, request.Within r.definitions)
    {d : Definition} (member : d ∈ r.definitions) (values : Dict Value) :
    let c := new.serveAll requests
    let answer := (d.compile values c).result.1
    answer = (d.compile values new').result.1 ∧
      (∀ p, answer = .ok p → d.template.expr.bind d.name values = .ok p.toExpr) ∧
      ((∃ p, answer = .ok p) ↔ ∀ p ∈ d.parameters, values.contains p.name = true) ∧
      ∀ values' : Dict Value, (∀ p ∈ d.parameters, values'.get? p.name = values.get? p.name) →
        (d.compile values' c).result.1 = answer := by
  intro c answer
  obtain ⟨ds, records⟩ := reachable.exists_records
  have listed : d ∈ ds := records.mem_definitions.1 member
  have resolved := records.resolved d listed
  have withinDs : ∀ request ∈ requests, request.Within ds := by
    intro request asked
    have kept := within request asked
    cases request with
    | compile d' values' => exact records.mem_definitions.1 kept
    | clear => trivial
  have empty := (Cache.created_of_create created).faithful ds
  have faithful : c.Faithful ds := empty.serveAll withinDs
  have fresh : answer = d.compileAfresh values := result_compile faithful records listed values
  refine ⟨?_, ?_, ?_, ?_⟩
  · rw [fresh]
    have empty := (Cache.created_of_create created').faithful ds
    exact (result_compile empty records listed values).symm
  · intro p made
    exact bind_of_compileAfresh (fresh.symm.trans made)
  · rw [fresh]
    exact exists_compileAfresh_iff resolved
  · intro values' agree
    rw [fresh, result_compile faithful records listed values']
    exact compileAfresh_congr resolved agree

/-! A filter by tenant on two entity types, in a cache with room for one
predicate. -/

/-- Posts and comments belong to tenants. -/
def Catalog.blog : Catalog :=
  .ofSchemas [] [⟨"Post", "id", [⟨"id", .int⟩, ⟨"tenant", .int⟩]⟩,
    ⟨"Comment", "id", [⟨"id", .int⟩, ⟨"tenant", .int⟩]⟩]

/-- The filter by tenant on every entity type that has one. -/
def Registry.blog : Registry :=
  ((empty .blog).registerConvention "tenant" [⟨"id", .int, some "tenant"⟩]
    (.compare .eq (.field "tenant") (.param "id"))).result.2

theorem Definition.compile_serveAll_blog : ∃ d ∈ Registry.blog.definitions, ∃ p,
    (d.compile (.ofList [("id", .int 1), ("owner", .null)])
      (Cache.single.serveAll
        (Registry.blog.definitions.map fun d => .compile d (.ofList [("id", .int 1)])))).result.1
      = .ok p ∧
    p.toExpr = .compare .eq (.field "tenant") (.literal (.int 1)) := by
  have reachable : Registry.blog.Reachable := .convention _ _ _ (.empty .blog)
  have some_definition : 0 < Registry.blog.definitions.length := by decide
  have within : ∀ request ∈ Registry.blog.definitions.map
      (fun d => Cache.Request.compile d (.ofList [("id", .int 1)])),
      request.Within Registry.blog.definitions := by
    intro request asked
    obtain ⟨d, member, rfl⟩ := List.mem_map.1 asked
    exact member
  have supplied : ∀ d ∈ Registry.blog.definitions, ∀ p ∈ d.parameters,
      (Dict.ofList [("id", Value.int 1), ("owner", .null)]).contains p.name = true := by decide
  have member := List.getElem_mem some_definition
  have created : Cache.create .small 1 1 = .ok Cache.single := rfl
  obtain ⟨-, bound, answered, -⟩ := compile_serveAll reachable created created within member
    (.ofList [("id", .int 1), ("owner", .null)])
  obtain ⟨p, made⟩ := answered.2 (supplied _ member)
  refine ⟨_, member, p, made, ?_⟩
  have tree := bound p made
  have expected : (Registry.blog.definitions[0]).template.expr.bind
      (Registry.blog.definitions[0]).name (.ofList [("id", .int 1), ("owner", .null)]) =
        .ok (.compare .eq (.field "tenant") (.literal (.int 1))) := by rfl
  exact Except.ok.inj (tree.symm.trans expected)

end RowScope
