import RowScope.Proofs.Admission
import RowScope.Proofs.Engine
import RowScope.Proofs.SessionHistory

/-!
# Registries that differ in order only

`Registry.Alike`: two registries record the same definitions, in whatever order.

* What a session asks them is answered alike: `Alike.contains_eq`, `Alike.type_eq`, and so
  `Alike.enable_eq`, `Alike.select_eq` and `Alike.setParameters_eq`.
* What a query asks them is answered alike up to order.  `Agreeing` relates results that
  are both errors or both answers; `agreeing_predicatesFor` says that the predicates of
  the filters that are on are the same in another order, or that there are none for
  either.  Which filter stops a query first may differ.
* `Engine.Alike` carries this over to engines: `agreeing_intercept` with
  `Expr.Reordered` for what is injected, `agreeing_execute` and `agreeing_find` for rows.
-/

namespace RowScope

/-! ## Results up to a relation -/

/-- Two results that are both errors, or both answers that are related. -/
inductive Agreeing {α β : Type} (R : α → β → Prop) :
    Except FilterError α → Except FilterError β → Prop
  | answered {a : α} {b : β} (related : R a b) : Agreeing R (.ok a) (.ok b)
  | failed (e e' : FilterError) : Agreeing R (.error e) (.error e')

namespace Agreeing

variable {α β γ δ : Type} {R : α → β → Prop} {x : Except FilterError α}
  {y : Except FilterError β}

theorem refl {R : α → α → Prop} (same : ∀ a, R a a) (x : Except FilterError α) :
    Agreeing R x x := by
  cases x with
  | error e => exact .failed e e
  | ok a => exact .answered (same a)

theorem trans {R : α → α → Prop} (compose : ∀ {a b c}, R a b → R b c → R a c)
    {x y z : Except FilterError α} (first : Agreeing R x y) (second : Agreeing R y z) :
    Agreeing R x z := by
  cases first with
  | answered related =>
    cases second with
    | answered related' => exact .answered (compose related related')
  | failed e e' =>
    cases second with
    | failed _ e'' => exact .failed e e''

theorem bind {R' : γ → δ → Prop} (agreeing : Agreeing R x y)
    {f : α → Except FilterError γ} {g : β → Except FilterError δ}
    (each : ∀ a b, R a b → Agreeing R' (f a) (g b)) : Agreeing R' (x.bind f) (y.bind g) := by
  cases agreeing with
  | answered related => exact each _ _ related
  | failed e e' => exact .failed e e'

theorem map {R' : γ → δ → Prop} (agreeing : Agreeing R x y) {f : α → γ} {g : β → δ}
    (each : ∀ a b, R a b → R' (f a) (g b)) : Agreeing R' (x.map f) (y.map g) := by
  cases agreeing with
  | answered related => exact .answered (each _ _ related)
  | failed e e' => exact .failed e e'

end Agreeing

/-! ## Registries -/

namespace Registry

/-- Two registries record the same definitions, in whatever order. -/
structure Alike (r r' : Registry) : Prop where
  catalog : r'.catalog = r.catalog
  active : r'.active = r.active
  recorded : ∃ ds ds', r.Records ds ∧ r'.Records ds' ∧
    (ds.map Definition.unnumbered).Perm (ds'.map Definition.unnumbered)

variable {r r' : Registry} {ds ds' : List Definition}

theorem alike_empty (catalog : Catalog) : (empty catalog).Alike (empty catalog) :=
  ⟨rfl, rfl, [], [], records_empty catalog, records_empty catalog, .refl _⟩

theorem Alike.symm (alike : r.Alike r') : r'.Alike r := by
  obtain ⟨ds, ds', records, records', perm⟩ := alike.recorded
  exact ⟨alike.catalog.symm, alike.active.symm, ds', ds, records', records, perm.symm⟩

/-- What is recorded does not depend on whether a registry is active. -/
theorem Records.of_active (records : r.Records ds) (active : Bool) :
    { r with active }.Records ds :=
  ⟨records.onEntity, records.underName, records.entityFiled, records.nameFiled,
    records.ordinals, records.distinct, records.agree, records.resolved⟩

theorem Alike.activate (alike : r.Alike r') :
    r.activate.result.1 = r'.activate.result.1 ∧
      r.activate.result.2.Alike r'.activate.result.2 := by
  rw [Registry.activate, Registry.activate, alike.active]
  split
  · exact ⟨rfl, alike⟩
  · obtain ⟨ds, ds', records, records', perm⟩ := alike.recorded
    exact ⟨rfl, alike.catalog, rfl, ds, ds', records.of_active true, records'.of_active true, perm⟩

/-- The definitions of one of them are those of the other. -/
theorem Alike.exists_definition (alike : r.Alike r') {d : Definition}
    (member : d ∈ r.definitions) : ∃ d' ∈ r'.definitions, d'.unnumbered = d.unnumbered := by
  obtain ⟨ds, ds', records, records', perm⟩ := alike.recorded
  have listed := List.mem_map_of_mem (f := Definition.unnumbered) (records.mem_definitions.1 member)
  obtain ⟨d', listed', same⟩ := List.mem_map.1 (perm.mem_iff.1 listed)
  exact ⟨d', records'.mem_definitions.2 listed', same⟩

/-! ### What sessions ask -/

theorem Alike.contains (alike : r.Alike r') {name : String} (known : r.contains name = true) :
    r'.contains name = true := by
  obtain ⟨ds, ds', records, records', -⟩ := alike.recorded
  obtain ⟨d, member, underName⟩ := records.contains_iff.1 known
  obtain ⟨d', member', same⟩ := alike.exists_definition (records.mem_definitions.2 member)
  obtain ⟨-, name', -⟩ := Definition.of_unnumbered same
  exact records'.contains_iff.2 ⟨d', records'.mem_definitions.1 member', name'.trans underName⟩

theorem Alike.contains_eq (alike : r.Alike r') (name : String) :
    r'.contains name = r.contains name :=
  Bool.eq_iff_iff.2 ⟨alike.symm.contains, alike.contains⟩

theorem Alike.declares (alike : r.Alike r') {filter parameter : String} {type : ScalarType}
    (declares : r.Declares filter parameter type) : r'.Declares filter parameter type := by
  obtain ⟨d, member, underName, p, declared, named, typed⟩ := declares
  obtain ⟨d', member', same⟩ := alike.exists_definition member
  obtain ⟨-, name', parameters⟩ := Definition.of_unnumbered same
  exact ⟨d', member', name'.trans underName, p, parameters ▸ declared, named, typed⟩

/-- The declarations that the registries find first may differ, but not in type. -/
theorem Alike.type_eq (alike : r.Alike r') (filter parameter : String) :
    (r'.parameter? filter parameter).map Parameter.type =
      (r.parameter? filter parameter).map Parameter.type := by
  obtain ⟨ds, ds', records, records', -⟩ := alike.recorded
  refine Option.ext fun type => ?_
  rw [Option.map_eq_some_iff, Option.map_eq_some_iff, ← records'.declares_iff,
    ← records.declares_iff]
  exact ⟨alike.symm.declares, alike.declares⟩

/-! ### What queries ask -/

theorem Alike.lookup_of_ok (alike : r.Alike r') {entity name : String} {d : Definition}
    (found : r.lookup entity name = .ok d) :
    ∃ d', r'.lookup entity name = .ok d' ∧ d'.unnumbered = d.unnumbered := by
  obtain ⟨ds, ds', records, records', -⟩ := alike.recorded
  obtain ⟨member, onEntity, underName⟩ := records.lookup_eq_ok_iff.1 found
  obtain ⟨d', member', same⟩ := alike.exists_definition (records.mem_definitions.2 member)
  obtain ⟨entity', name', -⟩ := Definition.of_unnumbered same
  exact ⟨d', records'.lookup_eq_ok_iff.2 ⟨records'.mem_definitions.1 member',
    entity'.trans onEntity, name'.trans underName⟩, same⟩

theorem lookup_eq_error {entity name : String} {error : FilterError}
    (unknown : r.lookup entity name = .error error) : error = .unknownFilter name := by
  rw [lookup] at unknown
  split at unknown
  · cases unknown
  · cases unknown
    rfl

/-- What is compiled of a definition does not depend on its place. -/
theorem Alike.compileAfresh_eq (alike : r.Alike r') (entity name : String)
    (values : Dict Value) :
    ((r'.lookup entity name).bind fun d => d.compileAfresh values) =
      (r.lookup entity name).bind fun d => d.compileAfresh values := by
  cases found : r.lookup entity name with
  | ok d =>
    obtain ⟨d', found', same⟩ := alike.lookup_of_ok found
    have blank : d'.unnumbered.compileAfresh values = d.unnumbered.compileAfresh values := by
      rw [same]
    rw [found']
    exact blank
  | error error =>
    cases found' : r'.lookup entity name with
    | ok d' =>
      obtain ⟨d, looked, -⟩ := alike.symm.lookup_of_ok found'
      rw [found] at looked
      cases looked
    | error error' => rw [lookup_eq_error found, lookup_eq_error found']

theorem Records.unnumbered_filtersFor (records : r.Records ds) (entity : String) :
    (r.filtersFor entity).map Definition.unnumbered =
      (ds.map Definition.unnumbered).filter fun d => d.entity = entity := by
  rw [records.onEntity, List.filter_map]
  rfl

theorem Alike.filtersFor_perm (alike : r.Alike r') (entity : String) :
    ((r.filtersFor entity).map Definition.unnumbered).Perm
      ((r'.filtersFor entity).map Definition.unnumbered) := by
  obtain ⟨ds, ds', records, records', perm⟩ := alike.recorded
  rw [records.unnumbered_filtersFor, records'.unnumbered_filtersFor]
  exact perm.filter _

end Registry

/-! ## Sessions -/

namespace Session

open Registry

variable {r r' : Registry}

theorem select_alike (alike : r.Alike r') (s : Session) (filter : String) :
    select r' s filter = select r s filter := by
  rw [select, select, alike.contains_eq]

theorem enable_alike (alike : r.Alike r') (s : Session) (filter : String) :
    s.enable r' filter = s.enable r filter := by
  rw [enable, enable, select_alike alike]

theorem setParameter_alike (alike : r.Alike r') (s : Session) (filter parameter : String)
    (v : Value) : s.setParameter r' filter parameter v = s.setParameter r filter parameter v := by
  have types := alike.type_eq filter parameter
  rw [setParameter, setParameter]
  cases found : r.parameter? filter parameter with
  | none =>
    rw [found, Option.map_none, Option.map_eq_none_iff] at types
    rw [types]
  | some p =>
    rw [found, Option.map_some] at types
    obtain ⟨p', found', same⟩ := Option.map_eq_some_iff.1 types
    rw [found']
    dsimp only
    rw [same]

theorem setParameters_alike (alike : r.Alike r') (filter : String)
    (values : List (String × Value)) (s : Session) :
    setParameters r' filter values s = setParameters r filter values s := by
  induction values generalizing s with
  | nil => rfl
  | cons given rest ih =>
    obtain ⟨parameter, v⟩ := given
    rw [setParameters, setParameters, setParameter_alike alike]
    simp only [ih]

end Session

/-! ## Interception -/

namespace Interception

variable {fs fs' : List Definition}

/-- The name and the predicate of a filter, if it is on. -/
def entryFor (s : Session) (context : Context) (d : Definition) :
    Except FilterError (List (String × Predicate)) :=
  match s.enabledValues? d.name with
  | none => .ok []
  | some explicit => (predicateFor explicit context d).map fun p => [(d.name, p)]

theorem predicatesFor_cons (s : Session) (context : Context) (d : Definition)
    (ds : List Definition) :
    predicatesFor s context (d :: ds) = (entryFor s context d).bind fun ps =>
      (predicatesFor s context ds).map fun qs => ps ++ qs := by
  rw [predicatesFor, entryFor]
  cases s.enabledValues? d.name with
  | none =>
    cases predicatesFor s context ds <;> rfl
  | some explicit =>
    dsimp only
    cases predicateFor explicit context d with
    | error e => rfl
    | ok p => cases predicatesFor s context ds <;> rfl

/-- Predicates do not depend on the places of definitions. -/
theorem predicatesFor_unnumbered (s : Session) (context : Context) (ds : List Definition) :
    predicatesFor s context (ds.map Definition.unnumbered) = predicatesFor s context ds := by
  induction ds with
  | nil => rfl
  | cons d ds ih =>
    rw [List.map_cons, predicatesFor_cons, predicatesFor_cons, ih]
    rfl

/-- **The predicates of filters in another order** are the same in another order, or
there are none for either. -/
theorem agreeing_predicatesFor (s : Session) (context : Context) (perm : fs.Perm fs') :
    Agreeing List.Perm (predicatesFor s context fs) (predicatesFor s context fs') := by
  induction perm with
  | nil => exact .answered (.refl _)
  | cons d _ ih =>
    rw [predicatesFor_cons, predicatesFor_cons]
    refine (Agreeing.refl (R := Eq) (fun _ => rfl) (entryFor s context d)).bind ?_
    rintro ps _ rfl
    exact ih.map fun _ _ perm => perm.append_left ps
  | swap d d' ds =>
    simp only [predicatesFor_cons]
    cases entryFor s context d with
    | error e =>
      cases entryFor s context d' with
      | error e' => exact .failed e' e
      | ok ps' => exact .failed e e
    | ok ps =>
      cases entryFor s context d' with
      | error e' => exact .failed e' e'
      | ok ps' =>
        cases predicatesFor s context ds with
        | error e => exact .failed e e
        | ok qs =>
          refine .answered ?_
          change (ps' ++ (ps ++ qs)).Perm (ps ++ (ps' ++ qs))
          rw [← List.append_assoc, ← List.append_assoc]
          exact List.perm_append_comm.append_right qs
  | trans _ _ first second => exact first.trans (fun perm perm' => perm.trans perm') second

end Interception

/-! ## Injection -/

/-- Two expressions that may be missing are the same up to the order of the operands of
one conjunction. -/
inductive Expr.Reordered : Option Expr → Option Expr → Prop
  | same (e : Option Expr) : Expr.Reordered e e
  | conj {es es' : List Expr} (perm : es.Perm es') :
    Expr.Reordered (some (.conj es)) (some (.conj es'))

namespace Query

variable {filters filters' : List Predicate}

/-- A filter that is and-ed on makes one conjunction of all. -/
theorem inject_some_cons (e : Expr) (p : Predicate) (filters : List Predicate) :
    inject (some e) (p :: filters) =
      some (.conj (e.conjuncts ++ (p :: filters).flatMap fun p => p.toExpr.conjuncts)) := by
  induction filters generalizing e p with
  | nil =>
    rw [List.flatMap_singleton]
    rfl
  | cons q filters ih =>
    have rest := ih (e.conjoin p.toExpr) q
    rw [List.flatMap_cons, ← List.append_assoc]
    exact rest

/-- **Filters in another order** inject the same conjuncts in another order. -/
theorem reordered_inject (predicate : Option Expr) (perm : filters.Perm filters') :
    Expr.Reordered (inject predicate filters) (inject predicate filters') := by
  cases filters with
  | nil =>
    obtain rfl := List.nil_perm.1 perm
    exact .same _
  | cons p filters =>
    cases filters' with
    | nil => exact absurd perm (List.not_perm_cons_nil)
    | cons p' filters' =>
      cases predicate with
      | some e =>
        rw [inject_some_cons, inject_some_cons]
        exact .conj ((perm.flatMap_right _).append_left _)
      | none =>
        cases filters with
        | nil =>
          obtain ⟨rfl, rfl⟩ := List.cons.inj (List.singleton_perm.1 perm)
          exact .same _
        | cons q filters =>
          cases filters' with
          | nil => cases List.perm_singleton.1 perm
          | cons q' filters' =>
            change Expr.Reordered (inject (some p.toExpr) (q :: filters))
              (inject (some p'.toExpr) (q' :: filters'))
            rw [inject_some_cons, inject_some_cons]
            have joined := perm.flatMap_right fun p : Predicate => p.toExpr.conjuncts
            rw [List.flatMap_cons, List.flatMap_cons] at joined
            exact .conj joined

/-- Filters in another order let the same rows through. -/
theorem execute_perm (q : Query) (perm : filters.Perm filters') (rows : List Row) :
    execute { q with filters } rows = execute { q with filters := filters' } rows := by
  have all : ∀ row : Row, (filters.all fun f => f.holds row) =
      filters'.all fun f => f.holds row := fun row => perm.all_eq
  rw [execute, execute]
  simp only [all]

end Query

/-! ## Engines -/

namespace Engine

/-- Two engines of one number and settings, over registries that are alike. -/
structure Alike (e e' : Engine) : Prop where
  id : e'.id = e.id
  settings : e'.settings = e.settings
  registry : e.registry.Alike e'.registry

variable {e e' : Engine} (alike : e.Alike e') (sound : e.Sound) (sound' : e'.Sound)

include alike

theorem Alike.recached {e₁ e₁' : Engine} (recached : e.Recached e₁)
    (recached' : e'.Recached e₁') : e₁.Alike e₁' := by
  obtain ⟨cache, rfl, -⟩ := recached
  obtain ⟨cache', rfl, -⟩ := recached'
  exact ⟨alike.id, alike.settings, alike.registry⟩

theorem Alike.activate : e.activate.result.1 = e'.activate.result.1 ∧
    e.activate.result.2.Alike e'.activate.result.2 := by
  obtain ⟨answers, registries⟩ := alike.registry.activate
  exact ⟨answers, alike.id, alike.settings, registries⟩

theorem Alike.beginSession (id : Nat) :
    (e.beginSession id).result.1 = (e'.beginSession id).result.1 ∧
      (e.beginSession id).result.2.Alike (e'.beginSession id).result.2 := by
  rw [Engine.beginSession, Engine.beginSession, alike.settings]
  split
  · refine ⟨?_, alike.activate.2⟩
    change (Session.start id e.id).result = (Session.start id e'.id).result
    rw [alike.id]
  · refine ⟨?_, alike⟩
    change (Session.start id e.id).result = (Session.start id e'.id).result
    rw [alike.id]

theorem Alike.agreeing_filtersFor (s : Session) (entity : String) (context : Context) :
    Agreeing List.Perm (e.filtersFor s entity context) (e'.filtersFor s entity context) := by
  rw [filtersFor, filtersFor, alike.id]
  split
  · exact .failed _ _
  · have perm := alike.registry.filtersFor_perm entity
    have named := Interception.agreeing_predicatesFor s context perm
    rw [Interception.predicatesFor_unnumbered, Interception.predicatesFor_unnumbered] at named
    exact named.map fun _ _ perm => perm.map _

include sound sound'

theorem Alike.agreeing_compiledFilters (s : Session) (entity : String) (context : Context) :
    Agreeing List.Perm (e.compiledFilters s entity context).result.1
      (e'.compiledFilters s entity context).result.1 := by
  rw [sound.result_compiledFilters, sound'.result_compiledFilters]
  exact alike.agreeing_filtersFor s entity context

theorem Alike.agreeing_intercept (s : Session) (entity : String) (predicate : Option Expr)
    (context : Context) :
    Agreeing Expr.Reordered (e.intercept s entity predicate context).result.1
      (e'.intercept s entity predicate context).result.1 := by
  rw [sound.result_intercept, sound'.result_intercept]
  exact (alike.agreeing_filtersFor s entity context).map fun _ _ perm =>
    Query.reordered_inject predicate perm

/-- Whoever executes a query may see its filters in another order. -/
theorem Alike.agreeing_executeWith {α : Type} {R : α → α → Prop}
    {execute : Query → Except FilterError α} (s : Session) (q : Query) (context : Context)
    (each : ∀ filters filters', filters.Perm filters' →
      Agreeing R (execute { q with filters }) (execute { q with filters := filters' })) :
    Agreeing R (executeWith execute e s q context).result.1
      (executeWith execute e' s q context).result.1 := by
  rw [sound.result_executeWith, sound'.result_executeWith]
  exact (alike.agreeing_filtersFor s q.entity context).bind each

theorem Alike.agreeing_execute (rows : List Row) (s : Session) (q : Query)
    (context : Context) :
    Agreeing Eq (execute rows e s q context).result.1
      (execute rows e' s q context).result.1 := by
  refine alike.agreeing_executeWith sound sound' s q context fun filters filters' perm => ?_
  rw [q.execute_perm perm]
  exact .refl (fun _ => rfl) _

theorem Alike.agreeing_find (rows : List Row) (s : Session) (entity : String) (key : Value) :
    Agreeing Eq (find rows e s entity key).result.1 (find rows e' s entity key).result.1 := by
  have executed := fun schema => alike.agreeing_execute sound sound' rows s
    (Query.byKey entity schema key) .empty
  rw [find, find, alike.registry.catalog]
  cases e.registry.catalog.schema? entity with
  | none => exact .failed _ _
  | some schema => exact (executed schema.key).map fun _ _ same => congrArg List.head? same

/-- Direct compilation finds the one definition of its key. -/
theorem Alike.result_compile_eq (entity name : String) (values : Dict Value) :
    (e.compile entity name values).result.1 = (e'.compile entity name values).result.1 := by
  rw [sound.result_compile, sound'.result_compile]
  exact (alike.registry.compileAfresh_eq entity name values).symm

end Engine

end RowScope
