import RowScope.Proofs.Carriers
import RowScope.Proofs.Refusal

/-!
# A registered filter compiles unless a value is missing

Three stages of a compilation can fail: the collection of the declared values, the binding
of the template, and the compilation of the bound one.  Of a definition that a registry
has accepted only the first ever does, and it comes before the cache is asked.

* `Definition.Registered`: what a registration or a convention has made, in whatever
  registry.  Its template asks for declared parameters only (`Registered.exists_resolved`).
* `Definition.exists_bindAndCompile`: so nothing fails behind the declared values.
* `Definition.compile_of_error`: in front of the cache nothing has happened yet.
* `Definition.Registered.compile_exact` puts these together.
-/

namespace RowScope

/-- A convention makes the definitions that are found under its name afterwards. -/
theorem Registry.Files.mem_of_lookup {r r' : Registry} {name : String}
    {params : List Parameter} {template : Expr} {ds : List Definition}
    (files : Files name params template r ds r') {entity : String}
    (filed : entity ∈ ds.map Definition.entity) {d : Definition}
    (found : r'.lookup entity name = .ok d) : d ∈ ds := by
  obtain ⟨own, member, rfl⟩ := List.mem_map.1 filed
  obtain ⟨front, middle, before, examined⟩ := files.exists_examined own member
  -- no older definition has the name, or this one would have been refused
  have unknown : r.find? own.entity name = none := by
    have refused := (of_examine examined).2.1
    rw [find?, before.gains.onEntity, List.find?_append, Option.or_eq_none_iff] at refused
    exact refused.1
  have first : r'.find? own.entity name = some d := by
    rw [lookup] at found
    split at found
    · next found' =>
      rw [found', Except.ok.inj found]
    · cases found
  rw [find?] at unknown
  rw [find?, files.gains.onEntity, List.find?_append, unknown, Option.none_or] at first
  exact List.mem_of_mem_filter (List.mem_of_find?_eq_some first)

namespace Definition

/-- A definition that a registry has accepted: the one that a registration answers with, or
the one that a convention leaves on an entity type that it names. -/
inductive Registered (d : Definition) : Prop
  | alone {r r' : Registry} {entity name : String} {params : List Parameter} {template : Expr}
      (registered : (r.register entity name params template).result = (.ok d, r'))
  | byConvention {r r' : Registry} {name : String} {params : List Parameter} {template : Expr}
      {entities : List String} {entity : String}
      (succeeded : (r.registerConvention name params template).result = (.ok entities, r'))
      (named : entity ∈ entities) (found : r'.lookup entity name = .ok d)

variable {d : Definition} {values : Dict Value} {cache : Cache}

/-- A definition that was accepted has been resolved. -/
theorem Registered.exists_resolved (registered : d.Registered) :
    ∃ catalog, d.Resolved catalog := by
  cases registered with
  | @alone r _ _ _ _ _ registered =>
    have examined := (Registry.register_eq_ok_iff.1 registered).1
    exact ⟨r.catalog, (Registry.of_examine examined).2.2.2.2.2.2.2.1⟩
  | byConvention succeeded named found =>
    obtain ⟨-, rfl, ds, files, all⟩ := Registry.files_of_convention_succeeded succeeded
    have member := files.mem_of_lookup (all ▸ named) found
    obtain ⟨-, middle, -, examined⟩ := files.exists_examined d member
    exact ⟨middle.catalog, (Registry.of_examine examined).2.2.2.2.2.2.2.1⟩

/-- Behind the declared values nothing fails. -/
theorem exists_bindAndCompile {catalog : Catalog} (resolved : d.Resolved catalog)
    {vs : List Value} (collected : declaredValues d.name values d.parameters = .ok vs) :
    ∃ p : Predicate, d.template.expr.bind d.name values = .ok p.toExpr ∧
      (d.bindAndCompile values).result = .ok p := by
  have supplied := (exists_declaredValues_iff d.name).1 ⟨vs, collected⟩
  obtain ⟨p, compiled⟩ := (exists_compileAfresh_iff resolved).2 supplied
  exact ⟨p, bind_of_compileAfresh compiled,
    (compileAfresh_of_declaredValues collected).symm.trans compiled⟩

/-- In front of the declared values nothing has happened. -/
theorem compile_of_error {error : FilterError}
    (missing : declaredValues d.name values d.parameters = .error error) :
    d.compile values cache = .quiet (.error error, cache) := by
  rw [compile, missing]

/-- With the declared values there is a predicate, from the cache or made anew. -/
theorem exists_compile_of_ok (cache : Cache) {catalog : Catalog} (resolved : d.Resolved catalog)
    {vs : List Value} (collected : declaredValues d.name values d.parameters = .ok vs) :
    ∃ p, (d.compile values cache).result.1 = .ok p := by
  obtain ⟨p, -, made⟩ := exists_bindAndCompile resolved collected
  rw [compile, collected]
  dsimp only
  rw [Cache.result_getOrInsert, made]
  cases cache.find? (d.cacheKey vs) with
  | some e => exact ⟨e.predicate, rfl⟩
  | none => exact ⟨p, rfl⟩

/-- Compilation fails exactly where the collection of the declared values does. -/
theorem compile_eq_error_iff {catalog : Catalog} (resolved : d.Resolved catalog)
    {error : FilterError} :
    (d.compile values cache).result.1 = .error error ↔
      declaredValues d.name values d.parameters = .error error := by
  constructor
  · intro failed
    cases collected : declaredValues d.name values d.parameters with
    | error e =>
      rw [compile_of_error collected] at failed
      rw [Except.error.inj failed]
    | ok vs =>
      obtain ⟨p, made⟩ := exists_compile_of_ok cache resolved collected
      rw [made] at failed
      cases failed
  · intro missing
    rw [compile_of_error missing]
    rfl

/-- **A registered filter fails to compile in one way only.**  Whatever the values and the
cache, it does so exactly if some declared parameter has no value, the error is about the
first of these as they are declared, and the cache is left as it was.  Once the declared
values are there, neither the binding of the template nor the compilation of the bound one
fails. -/
theorem Registered.compile_exact (registered : d.Registered) (values : Dict Value)
    (cache : Cache) :
    ((∃ error, (d.compile values cache).result.1 = .error error) ↔
        ∃ p ∈ d.parameters, values.contains p.name = false) ∧
      (∀ error, (d.compile values cache).result.1 = .error error ↔
        ∃ p, d.parameters.find? (fun p => !values.contains p.name) = some p ∧
          error = .missingBinding d.name p.name) ∧
      (∀ error, (d.compile values cache).result.1 = .error error →
        (d.compile values cache).result.2 = cache ∧ (d.compile values cache).events = []) ∧
      (∀ vs, declaredValues d.name values d.parameters = .ok vs →
        ∃ p : Predicate, d.template.expr.bind d.name values = .ok p.toExpr ∧
          (d.bindAndCompile values).result = .ok p) ∧
      ∀ name, (d.compile values cache).result.1 ≠ .error (Predicate.unboundParameter name) := by
  obtain ⟨catalog, resolved⟩ := registered.exists_resolved
  have first : ∀ error, (d.compile values cache).result.1 = .error error ↔
      ∃ p, d.parameters.find? (fun p => !values.contains p.name) = some p ∧
        error = .missingBinding d.name p.name := fun error =>
    (compile_eq_error_iff resolved).trans declaredValues_eq_error_iff
  refine ⟨?_, first, ?_, fun vs collected => exists_bindAndCompile resolved collected, ?_⟩
  · rw [exists_congr first, exists_comm]
    simp only [exists_and_left, exists_eq, and_true]
    rw [← Option.isSome_iff_exists, List.find?_isSome]
    simp
  · intro error failed
    rw [compile_of_error ((compile_eq_error_iff resolved).1 failed)]
    exact ⟨rfl, rfl⟩
  · intro name failed
    obtain ⟨p, -, same⟩ := (first _).1 failed
    cases same

/-! A parameter that the template does not use needs a value all the same. -/

/-- A filter by an upper bound, which declares a lower one too. -/
def window : Definition :=
  ⟨"window", "Post", [⟨"from", .int, none⟩, ⟨"to", .int, none⟩],
    ⟨.compare .lt (.field "id") (.param "to"), ⟨[⟨"id", .int⟩], ["to"]⟩⟩, 0⟩

theorem Registered.compile_exact_window :
    window.Registered ∧ ∀ cache,
      (window.compile (.ofList [("to", .int 9), ("other", .null)]) cache).result =
        (.error (.missingBinding "window" "from"), cache) := by
  have accepted : ((Registry.empty .blog).register window.entity window.name
      window.parameters window.template.expr).result =
        (.ok window, (Registry.empty .blog).add window) := rfl
  have registered : window.Registered := .alone accepted
  refine ⟨registered, fun cache => ?_⟩
  obtain ⟨-, first, untouched, -⟩ :=
    registered.compile_exact (.ofList [("to", .int 9), ("other", .null)]) cache
  have failed := (first (.missingBinding "window" "from")).2 ⟨⟨"from", .int, none⟩, rfl, rfl⟩
  exact Prod.ext failed (untouched _ failed).1

end Definition

end RowScope
