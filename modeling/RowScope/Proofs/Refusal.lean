import Mathlib.Data.List.Find
import RowScope.Proofs.Conjunction
import RowScope.Proofs.Host

/-!
# Why an interception is refused

A query is stopped before it is executed if its session belongs to another engine, or
else if some filter that is on cannot be bound.  Several filters and several of their
parameters may be at fault; which of them is reported is decided here.

* `Interception.illTyped` and `Interception.unbound` are the two faults of a parameter,
  and `Interception.Refuses` says which one a filter reports.  Gathering goes over all
  parameters before compilation asks for their values, so that a value of a wrong type
  comes before a missing one, wherever the two parameters stand
  (`predicateFor_eq_error_iff`).
* `predicatesFor_eq_error_iff` says which filter reports: the first one that is on and
  cannot be bound.  `forall₂_predicatesFor` says what there is if there is none: one
  predicate for every filter that is on.
* `Engine.Refuses` is the same for an engine, and `Host.Reachable.fail_closed` says what
  comes of a refusal.
-/

namespace RowScope

/-! ## Parameters of the caller -/

/-- A query fails only for a parameter in the predicate of its caller. -/
theorem Query.unbound_of_execute {q : Query} {rows : List Row} {error : FilterError}
    (failed : q.execute rows = .error error) : ∃ name, error = Predicate.unboundParameter name := by
  rw [execute] at failed
  cases caller : q.predicate with
  | none =>
    rw [caller] at failed
    cases failed
  | some e =>
    rw [caller, compile?] at failed
    cases made : Predicate.compile e with
    | ok p =>
      rw [made] at failed
      cases failed
    | error error' =>
      rw [made] at failed
      cases failed
      exact (Expr.compile_eq_error_iff.1 made).imp fun _ first => first.2

/-! ## Missing values -/

namespace Definition

/-- Values are collected up to the first parameter that has none. -/
theorem declaredValues_eq_error_iff {filter : String} {values : Dict Value}
    {params : List Parameter} {error : FilterError} :
    declaredValues filter values params = .error error ↔
      ∃ p, params.find? (fun p => !values.contains p.name) = some p ∧
        error = .missingBinding filter p.name := by
  induction params with
  | nil => simp [declaredValues]
  | cons p ps ih =>
    rw [declaredValues, List.find?_cons, Dict.contains]
    cases found : values.get? p.name with
    | none => simp [eq_comm]
    | some v =>
      refine bind_eq_error_iff.trans ?_
      rw [ih]
      simp [pure, Except.pure]

/-- Compilation fails exactly if some declared parameter has no value. -/
theorem compileAfresh_eq_error_iff {catalog : Catalog} {d : Definition} {values : Dict Value}
    {error : FilterError} (resolved : d.Resolved catalog) :
    d.compileAfresh values = .error error ↔
      declaredValues d.name values d.parameters = .error error := by
  constructor
  · intro failed
    cases collected : declaredValues d.name values d.parameters with
    | error e =>
      obtain rfl := Except.error.inj ((compileAfresh_of_error collected).symm.trans failed)
      rfl
    | ok vs =>
      have supplied := (exists_declaredValues_iff d.name).1 ⟨vs, collected⟩
      obtain ⟨p, compiled⟩ := (exists_compileAfresh_iff resolved).2 supplied
      rw [compiled] at failed
      cases failed
  · exact compileAfresh_of_error

end Definition

namespace Interception

/-! ## One filter -/

/-- The session gives a parameter no value, and the context gives it one that its type
does not accept. -/
def illTyped (explicit : Dict Value) (context : Context) (p : Parameter) : Bool :=
  !explicit.contains p.name && (contextValue? context p).any fun v => !p.type.accepts v

/-- Neither the session nor the context gives a parameter a value. -/
def unbound (explicit : Dict Value) (context : Context) (p : Parameter) : Bool :=
  !explicit.contains p.name && (contextValue? context p).isNone

/-- The error of a filter that cannot be bound.  It is about the first parameter whose
value is of a wrong type, and only if there is none about the first one without a
value. -/
inductive Refuses (explicit : Dict Value) (context : Context) (d : Definition) :
    FilterError → Prop
  | illTyped {p : Parameter} {v : Value}
      (first : d.parameters.find? (illTyped explicit context) = some p)
      (given : contextValue? context p = some v) :
    Refuses explicit context d (.typeMismatch d.name p.name p.type.name v.typeName)
  | unbound {p : Parameter}
      (typed : d.parameters.find? (Interception.illTyped explicit context) = none)
      (first : d.parameters.find? (unbound explicit context) = some p) :
    Refuses explicit context d (.missingBinding d.name p.name)

section Parameters

variable {filter : String} {explicit values handed : Dict Value} {context : Context}
  {params : List Parameter} {p : Parameter} {error : FilterError}

/-- No type accepts a null. -/
theorem illTyped_of_null (absent : explicit.contains p.name = false)
    (given : contextValue? context p = some .null) : illTyped explicit context p = true := by
  rw [illTyped, absent, given]
  rfl

/-- A parameter is supplied with a value unless it has one of the two faults. -/
theorem isSome_supplied? (explicit : Dict Value) (context : Context) (p : Parameter) :
    (supplied? explicit context p).isSome =
      (!illTyped explicit context p && !unbound explicit context p) := by
  rw [supplied?, illTyped, unbound, Dict.contains]
  cases explicit.get? p.name with
  | some v => rfl
  | none =>
    cases contextValue? context p with
    | none => rfl
    | some v =>
      cases accepted : p.type.accepts v <;> simp [accepted]

/-- Gathering stops at the first value of a wrong type. -/
theorem gather_eq_error_iff :
    gather filter explicit context params values = .error error ↔
      ∃ p v, params.find? (illTyped explicit context) = some p ∧
        contextValue? context p = some v ∧
        error = .typeMismatch filter p.name p.type.name v.typeName := by
  induction params generalizing values with
  | nil => simp [gather]
  | cons p ps ih =>
    rw [gather, List.find?_cons, illTyped]
    cases explicit.contains p.name with
    | true => exact ih
    | false =>
      cases found : contextValue? context p with
      | none => exact ih
      | some v =>
        cases accepted : p.type.accepts v with
        | true =>
          simpa [accepted] using ih
        | false =>
          simp [accepted, found, eq_comm]

/-- Gathering goes through exactly if there is no such value. -/
theorem exists_gather_iff_find? :
    (∃ handed, gather filter explicit context params values = .ok handed) ↔
      params.find? (illTyped explicit context) = none := by
  rw [exists_gather_iff, List.find?_eq_none]
  refine forall₂_congr fun p _ => ?_
  rw [illTyped]
  cases explicit.contains p.name with
  | true => simp
  | false => cases contextValue? context p <;> simp

end Parameters

section PredicateFor

variable {catalog : Catalog} {d : Definition} {explicit handed : Dict Value}
  {context : Context} {error : FilterError}

/-- What is handed over lacks the parameters that neither session nor context gives a
value. -/
theorem find?_contains_gather (resolved : d.Resolved catalog)
    (gathered : gather d.name explicit context d.parameters explicit = .ok handed) :
    d.parameters.find? (fun p => !handed.contains p.name) =
      d.parameters.find? (unbound explicit context) := by
  have typed := List.find?_eq_none.1 (exists_gather_iff_find?.1 ⟨handed, gathered⟩)
  refine List.find?_congr fun p declared => ?_
  have accepted := typed p declared
  rw [Bool.not_eq_true] at accepted
  rw [Dict.contains, supplied?_of_gather resolved.distinct gathered declared,
    isSome_supplied?, accepted]
  exact Bool.not_not _

/-- **The error of one filter** that cannot be bound. -/
theorem predicateFor_eq_error_iff (resolved : d.Resolved catalog) :
    predicateFor explicit context d = .error error ↔ Refuses explicit context d error := by
  rw [predicateFor, bind_eq_error_iff]
  constructor
  · rintro (stopped | ⟨handed, gathered, failed⟩)
    · obtain ⟨p, v, first, given, rfl⟩ := gather_eq_error_iff.1 stopped
      exact .illTyped first given
    · have typed := exists_gather_iff_find?.1 ⟨handed, gathered⟩
      rw [Definition.compileAfresh_eq_error_iff resolved,
        Definition.declaredValues_eq_error_iff, find?_contains_gather resolved gathered] at failed
      obtain ⟨p, first, rfl⟩ := failed
      exact .unbound typed first
  · rintro (⟨first, given⟩ | ⟨typed, first⟩)
    · exact .inl (gather_eq_error_iff.2 ⟨_, _, first, given, rfl⟩)
    · obtain ⟨handed, gathered⟩ := exists_gather_iff_find?.2 typed
      refine .inr ⟨handed, gathered, ?_⟩
      rw [Definition.compileAfresh_eq_error_iff resolved,
        Definition.declaredValues_eq_error_iff, find?_contains_gather resolved gathered]
      exact ⟨_, first, rfl⟩

end PredicateFor

/-! ## All filters that are on -/

/-- A filter stops a query of a session if it is on and some parameter is not supplied
with a value. -/
def stops (s : Session) (context : Context) (d : Definition) : Bool :=
  s.isEnabled d.name &&
    d.parameters.any fun p => (supplied? (s.state d.name).values context p).isNone

section PredicatesFor

variable {catalog : Catalog} {s : Session} {context : Context} {d : Definition}
  {fs : List Definition} {error : FilterError}

theorem stops_iff :
    stops s context d = true ↔ s.isEnabled d.name = true ∧
      ∃ p ∈ d.parameters, supplied? (s.state d.name).values context p = none := by
  simp [stops]

/-- A filter that is on stops a query exactly if it has no predicate. -/
theorem stops_eq_false_iff (resolved : d.Resolved catalog) (on : s.isEnabled d.name = true) :
    stops s context d = false ↔
      ∃ p, predicateFor (s.state d.name).values context d = .ok p := by
  rw [exists_predicateFor_iff resolved, stops, on]
  simp [Option.isSome_iff_ne_none]

/-- **The error of several filters** is that of the first one that stops the query. -/
theorem predicatesFor_eq_error_iff (resolved : ∀ d ∈ fs, d.Resolved catalog) :
    predicatesFor s context fs = .error error ↔
      ∃ d, fs.find? (stops s context) = some d ∧
        Refuses (s.state d.name).values context d error := by
  induction fs with
  | nil => simp [predicatesFor]
  | cons d fs ih =>
    obtain ⟨first, rest⟩ := List.forall_mem_cons.1 resolved
    rw [predicatesFor, List.find?_cons]
    cases given : s.enabledValues? d.name with
    | none =>
      have passed : stops s context d = false := by
        rw [stops, Session.enabledValues?_eq_none_iff.1 given]
        rfl
      rw [passed]
      exact ih rest
    | some explicit =>
      obtain ⟨on, rfl⟩ := Session.enabledValues?_eq_some_iff.1 given
      refine bind_eq_error_iff.trans ?_
      cases stopped : stops s context d with
      | true =>
        have failed : ¬ ∃ p, predicateFor (s.state d.name).values context d = .ok p := by
          rw [← stops_eq_false_iff first on, stopped]
          exact Bool.noConfusion
        rw [predicateFor_eq_error_iff first]
        constructor
        · rintro (refused | ⟨p, made, -⟩)
          · exact ⟨d, rfl, refused⟩
          · exact absurd ⟨p, made⟩ failed
        · rintro ⟨_, ⟨⟩, refused⟩
          exact .inl refused
      | false =>
        obtain ⟨p, made⟩ := (stops_eq_false_iff first on).1 stopped
        rw [made]
        simp only [reduceCtorEq, false_or, Except.ok.injEq, exists_eq_left']
        refine bind_eq_error_iff.trans ?_
        rw [ih rest]
        simp [pure, Except.pure]

/-- Otherwise **no filter that is on is left out**: there is one predicate for each of
them, in their order. -/
theorem forall₂_predicatesFor {ps : List (String × Predicate)}
    (made : predicatesFor s context fs = .ok ps) :
    List.Forall₂ (fun d entry => predicateFor (s.state d.name).values context d = .ok entry.2)
      (fs.filter fun d => s.isEnabled d.name) ps := by
  induction fs generalizing ps with
  | nil =>
    cases made
    exact .nil
  | cons d fs ih =>
    rw [predicatesFor] at made
    cases given : s.enabledValues? d.name with
    | none =>
      rw [given] at made
      have off := Session.enabledValues?_eq_none_iff.1 given
      rw [List.filter_cons_of_neg (by simp [off])]
      exact ih made
    | some explicit =>
      rw [given] at made
      obtain ⟨on, rfl⟩ := Session.enabledValues?_eq_some_iff.1 given
      obtain ⟨p, first, made⟩ := bind_eq_ok_iff.1 made
      obtain ⟨qs, rest, made⟩ := bind_eq_ok_iff.1 made
      cases made
      rw [List.filter_cons_of_pos (by simp [on])]
      exact .cons first (ih rest)

/-- There is an error exactly if some filter stops the query. -/
theorem exists_error_predicatesFor_iff (resolved : ∀ d ∈ fs, d.Resolved catalog) :
    (∃ error, predicatesFor s context fs = .error error) ↔
      ∃ d ∈ fs, stops s context d = true := by
  constructor
  · rintro ⟨error, failed⟩
    obtain ⟨d, first, -⟩ := (predicatesFor_eq_error_iff resolved).1 failed
    exact ⟨d, List.mem_of_find?_eq_some first, List.find?_some first⟩
  · rintro ⟨d, member, stopped⟩
    cases result : predicatesFor s context fs with
    | error error => exact ⟨error, rfl⟩
    | ok ps =>
      have on := (stops_iff.1 stopped).1
      have made := exists_predicatesFor_iff.1 ⟨ps, result⟩ d member _
        (Session.enabledValues?_eq_some_iff.2 ⟨on, rfl⟩)
      rw [(stops_eq_false_iff (resolved d member) on).2 made] at stopped
      cases stopped

end PredicatesFor

end Interception

/-! ## Engines -/

namespace Engine

/-- The error of an interception: the session is another engine's, or else the first
filter that stops the query reports its own. -/
inductive Refuses (e : Engine) (s : Session) (entity : String) (context : Context) :
    FilterError → Prop
  | foreign (apart : s.home ≠ e.id) : Refuses e s entity context (Interception.foreignSession s)
  | filter {d : Definition} {error : FilterError} (own : s.home = e.id)
      (first : (e.registry.filtersFor entity).find? (Interception.stops s context) = some d)
      (refuses : Interception.Refuses (s.state d.name).values context d error) :
    Refuses e s entity context error

variable {e : Engine} {s : Session} {entity : String} {context : Context} {error : FilterError}

/-- The definitions of a sound engine are resolved. -/
theorem Sound.resolved (sound : e.Sound) (entity : String) :
    ∀ d ∈ e.registry.filtersFor entity, d.Resolved e.registry.catalog := by
  obtain ⟨ds, records, -⟩ := sound
  intro d filed
  exact records.resolved d (records.mem_filtersFor.1 filed).1

/-- **The error of an interception.** -/
theorem Sound.compiledFilters_eq_error_iff (sound : e.Sound) :
    (e.compiledFilters s entity context).result.1 = .error error ↔
      e.Refuses s entity context error := by
  rw [sound.result_compiledFilters, filtersFor]
  split
  · next apart =>
    constructor
    · rintro ⟨⟩
      exact .foreign apart
    · rintro (_ | ⟨own, -, -⟩)
      · rfl
      · exact absurd own apart
  · next own =>
    rw [not_not] at own
    rw [map_eq_error_iff, Interception.predicatesFor_eq_error_iff (sound.resolved entity)]
    constructor
    · rintro ⟨d, first, refuses⟩
      exact .filter own first refuses
    · rintro (apart | ⟨-, first, refuses⟩)
      · exact absurd own apart
      · exact ⟨_, first, refuses⟩

/-- There is one exactly if the session is another engine's or some filter stops the
query. -/
theorem Sound.exists_error_compiledFilters_iff (sound : e.Sound) :
    (∃ error, (e.compiledFilters s entity context).result.1 = .error error) ↔
      s.home ≠ e.id ∨
        ∃ d ∈ e.registry.filtersFor entity, Interception.stops s context d = true := by
  rw [sound.result_compiledFilters, filtersFor]
  split
  · next apart => simp [apart]
  · next own =>
    rw [not_not] at own
    simp only [map_eq_error_iff]
    rw [Interception.exists_error_predicatesFor_iff (sound.resolved entity)]
    simp [own]

/-- Otherwise there is one predicate for every filter on the entity type that is on, and
a row matches it exactly if the template of the filter holds with the values supplied. -/
theorem Sound.forall₂_compiledFilters (sound : e.Sound) {ps : List Predicate}
    (made : (e.compiledFilters s entity context).result.1 = .ok ps) :
    List.Forall₂
      (fun d p => ∀ row, p.holds row = true ↔
        d.template.expr.Holds
          (Interception.environment (s.state d.name).values context d) row)
      ((e.registry.filtersFor entity).filter fun d => s.isEnabled d.name) ps := by
  rw [sound.result_compiledFilters, filtersFor] at made
  split at made
  · cases made
  cases named : Interception.predicatesFor s context (e.registry.filtersFor entity) with
  | error error =>
    rw [named] at made
    cases made
  | ok entries =>
    rw [named] at made
    cases made
    have resolved : ∀ d ∈ (e.registry.filtersFor entity).filter fun d => s.isEnabled d.name,
        d.Resolved e.registry.catalog :=
      fun d member => sound.resolved entity d (List.mem_filter.1 member).1
    have each := (List.forall₂_and_left _ _).2
      ⟨resolved, Interception.forall₂_predicatesFor named⟩
    refine List.forall₂_map_right_iff.2 (each.imp ?_)
    rintro d entry ⟨resolved, compiled⟩ row
    exact Interception.holds_predicateFor_iff resolved compiled row

/-- A session of another engine is refused before anything is looked up. -/
theorem compiledFilters_of_foreign (apart : s.home ≠ e.id) (entity : String)
    (context : Context) :
    (e.compiledFilters s entity context).result = (.error (Interception.foreignSession s), e) := by
  rw [compiledFilters, if_pos apart]
  rfl

/-- An executor is not asked for a query that is refused: whichever it is, the outcome
is that of the interception. -/
theorem executeWith_of_error {α : Type} (execute : Query → Except FilterError α) {q : Query}
    {e' : Engine} (refused : (e.compiledFilters s q.entity context).result = (.error error, e')) :
    (executeWith execute e s q context).result = (.error error, e') := by
  simp only [executeWith, plan, Logged.result_bind, Logged.result_pure, refused]
  rfl

end Engine

/-! ## Hosts -/

namespace Host

/-- The commands that ask for the interception of a query: of which handle, for which
session, and on which entity type and in which context. -/
inductive Intercepts (catalog : Catalog) (handle session : Nat) :
    String → Context → Command → Prop
  | compiledFilters (entity : String) (context : Context) (rows : List Row) :
    Intercepts catalog handle session entity context
      (.compiledFilters handle session entity context rows)
  | intercept (entity : String) (predicate : Option Expr) (context : Context) :
    Intercepts catalog handle session entity context
      (.intercept handle session entity predicate context)
  | execute (q : Query) (context : Context) :
    Intercepts catalog handle session q.entity context (.execute handle session q context)
  /-- A look-up by key is a query without context, if the entity type is mapped. -/
  | find {entity : String} {schema : Schema} (mapped : catalog.schema? entity = some schema)
      (key : Value) :
    Intercepts catalog handle session entity .empty (.find handle session entity key)

variable {h : Host} {handle session : Nat} {e : Engine} {s : Session} {entity : String}
  {context : Context}

/-- What a query of a live session comes to. -/
theorem result_query (found : h.engine? handle = some e) (live : h.session? session = some s)
    {α : Type} (toReply : α → Reply)
    (f : Engine → Session → Logged (Except FilterError α × Engine)) :
    (h.onEngine handle fun e => h.onSession session fun s => h.reply toReply (f e s)).result =
      ((f e s).result.1.map toReply, h.withEngine (f e s).result.2) := by
  rw [query_of_found found live]
  rfl

/-- **A refusal ends the command**, whatever it wanted the predicates for. -/
theorem result_step_of_refused (found : h.engine? handle = some e)
    (live : h.session? session = some s) {error : FilterError} {e' : Engine}
    (refused : (e.compiledFilters s entity context).result = (.error error, e')) {c : Command}
    (intercepts : Intercepts e.registry.catalog handle session entity context c) :
    (h.step c).result = (.error error, h.withEngine e') := by
  cases intercepts with
  | compiledFilters _ _ rows =>
    refine (result_query found live _ fun e s => e.compiledFilters s entity context).trans ?_
    rw [refused]
    rfl
  | intercept _ predicate _ =>
    refine (result_query found live _ fun e s =>
      e.intercept s entity predicate context).trans ?_
    rw [Engine.intercept, Logged.result_bind, refused]
    rfl
  | execute q _ =>
    refine (result_query found live _ fun e s => e.execute h.rows s q context).trans ?_
    rw [Engine.execute, Engine.executeWith_of_error _ refused]
    rfl
  | @find _ schema mapped key =>
    have executed := Engine.executeWith_of_error (fun q => q.execute h.rows)
      (q := Query.byKey entity schema.key key) refused
    refine (result_query found live _ fun e s => e.find h.rows s entity key).trans ?_
    rw [Engine.find, mapped]
    dsimp only
    rw [Logged.result_bind, Engine.execute, executed]
    rfl

/-- **There is no other error** than that of the interception and, where rows are asked
for, that of a parameter in the predicate of the caller. -/
theorem refuses_or_unbound (sound : e.Sound) (found : h.engine? handle = some e)
    (live : h.session? session = some s) {error : FilterError} {c : Command}
    (intercepts : Intercepts e.registry.catalog handle session entity context c)
    (failed : (h.step c).result.1 = .error error) :
    e.Refuses s entity context error ∨ ∃ name, error = Predicate.unboundParameter name := by
  have executed : ∀ q : Query, q.entity = entity →
      (e.execute h.rows s q context).result.1 = .error error →
        e.Refuses s entity context error ∨ ∃ name, error = Predicate.unboundParameter name := by
    rintro q rfl failed
    rw [Engine.execute, sound.result_executeWith, Engine.answerFor] at failed
    obtain refused | ⟨filters, -, failed⟩ := bind_eq_error_iff.1 failed
    · rw [← sound.result_compiledFilters] at refused
      exact .inl (sound.compiledFilters_eq_error_iff.1 refused)
    · exact .inr (Query.unbound_of_execute failed)
  cases intercepts with
  | compiledFilters _ _ rows =>
    have answered := result_query found live
      (fun ps => .filters (ps.map (Predicate.matched rows)))
      fun e s => e.compiledFilters s entity context
    rw [step, answered, map_eq_error_iff] at failed
    exact .inl (sound.compiledFilters_eq_error_iff.1 failed)
  | intercept _ predicate _ =>
    have answered := result_query found live .predicate
      fun e s => e.intercept s entity predicate context
    rw [step, answered, map_eq_error_iff, sound.result_intercept, map_eq_error_iff,
      ← sound.result_compiledFilters] at failed
    exact .inl (sound.compiledFilters_eq_error_iff.1 failed)
  | execute q _ =>
    have answered := result_query found live .rows fun e s => e.execute h.rows s q context
    rw [step, answered, map_eq_error_iff] at failed
    exact executed q rfl failed
  | @find _ schema mapped key =>
    have answered := result_query found live .row fun e s => e.find h.rows s entity key
    rw [step, answered, map_eq_error_iff, Engine.find, mapped] at failed
    exact executed (.byKey entity schema.key key) rfl (map_eq_error_iff.1 failed)

/-- **Interception fails closed.**  After any commands, take an engine, a live session, an
entity type and a context.

The interception fails exactly if the session is another engine's, which is checked
first, or some filter on the entity type is on and has a parameter that neither the
session nor, with a value of the declared type, the context supplies.  Its error is that
of `Engine.Refuses`, and a null of the context is of no declared type.

If it fails, so does every command that asks for it, with the same error.  So does
execution by any executor, which therefore is not asked.  Nothing changes but the cache
of the engine, and not even that for the session of another one.

If it does not fail, there is one predicate for every filter on the entity type that is
on, in the order of registration, and a row matches it exactly if the template holds
with the values supplied. -/
theorem Reachable.fail_closed (reachable : h.Reachable) (found : h.engine? handle = some e)
    (live : h.session? session = some s) (entity : String) (context : Context) :
    let answer := (e.compiledFilters s entity context).result.1
    ((∃ error, answer = .error error) ↔
      s.home ≠ e.id ∨ ∃ d ∈ e.registry.filtersFor entity, s.isEnabled d.name = true ∧
        ∃ p ∈ d.parameters,
          Interception.supplied? (s.state d.name).values context p = none) ∧
      (∀ error, answer = .error error ↔ e.Refuses s entity context error) ∧
      (∀ (explicit : Dict Value) p, explicit.contains p.name = false →
        Interception.contextValue? context p = some .null →
          Interception.illTyped explicit context p = true) ∧
      (∀ error, answer = .error error → ∃ cache, (s.home ≠ e.id → cache = e.cache) ∧
        (∀ c, Intercepts e.registry.catalog handle session entity context c →
          (h.step c).result = (.error error, h.withEngine { e with cache })) ∧
        ∀ {α : Type} (execute : Query → Except FilterError α) (q : Query),
          q.entity = entity →
            (Engine.executeWith execute e s q context).result =
              (.error error, { e with cache })) ∧
      ∀ ps, answer = .ok ps →
        List.Forall₂
          (fun d p => ∀ row, p.holds row = true ↔
            d.template.expr.Holds
              (Interception.environment (s.state d.name).values context d) row)
          ((e.registry.filtersFor entity).filter fun d => s.isEnabled d.name) ps := by
  intro answer
  have wellFormed := reachable.wellFormed
  have sound := wellFormed.sound e.id e (wellFormed.engines_of_engine? found)
  refine ⟨?_, ?_, ?_, ?_, ?_⟩
  · simp only [← Interception.stops_iff]
    exact sound.exists_error_compiledFilters_iff
  · exact fun error => sound.compiledFilters_eq_error_iff
  · exact fun explicit p => Interception.illTyped_of_null
  · intro error failed
    obtain ⟨cache, left, -⟩ := e.recached_compiledFilters s entity context
    have refused : (e.compiledFilters s entity context).result =
        (.error error, { e with cache }) := Prod.ext failed left
    refine ⟨cache, ?_, ?_, ?_⟩
    · intro apart
      rw [e.compiledFilters_of_foreign apart] at left
      exact (congrArg Engine.cache left).symm
    · exact fun c intercepts => result_step_of_refused found live refused intercepts
    · rintro α execute q rfl
      exact Engine.executeWith_of_error execute refused
  · exact fun ps made => sound.forall₂_compiledFilters made

/-! A filter asks for a number that nobody supplies and for a tenant that the context gives
as a null.  The null is what is reported, and no executor is asked. -/

/-- A host with a filter of two parameters and a session that has it on. -/
def ranged : Host :=
  (emptyBlog.run
    [.register 0 "Post" "range" [⟨"least", .int, none⟩, ⟨"id", .int, some "tenant"⟩]
        (.conj [.compare .ge (.field "id") (.param "least"),
          .compare .eq (.field "tenant") (.param "id")]),
      .beginSession 0, .enable 0 "range" [] []]).2

def rangedEngine : Engine := (ranged.engine? 0).get (by decide)

def rangedSession : Session := (ranged.session? 0).get (by decide)

/-- A context with a null for a tenant. -/
def nobody : Context := .ofList [("tenant", .null)]

theorem Reachable.fail_closed_ranged :
    ranged.engine? 0 = some rangedEngine ∧ ranged.session? 0 = some rangedSession ∧
      (ranged.step (.execute 0 0 (.all "Post") nobody)).result.1 =
        .error (.typeMismatch "range" "id" "Int" "Null") ∧
      (Engine.executeWith (fun _ => .ok ()) rangedEngine rangedSession (.all "Post")
        nobody).result.1 = .error (.typeMismatch "range" "id" "Int" "Null") := by
  have reachable : ranged.Reachable := reachable_emptyBlog.run _
  have found : ranged.engine? 0 = some rangedEngine := (Option.some_get _).symm
  have live : ranged.session? 0 = some rangedSession := (Option.some_get _).symm
  have own : rangedSession.home = rangedEngine.id := by decide
  obtain ⟨d, first⟩ : ∃ d, (rangedEngine.registry.filtersFor "Post").find?
      (Interception.stops rangedSession nobody) = some d :=
    Option.isSome_iff_exists.1 (by decide)
  have refuses : Interception.Refuses (rangedSession.state d.name).values nobody d
      (.typeMismatch "range" "id" "Int" "Null") := by
    cases first
    exact .illTyped (p := ⟨"id", .int, some "tenant"⟩) (v := .null) (by decide) rfl
  obtain ⟨-, errors, -, refused, -⟩ := reachable.fail_closed found live "Post" nobody
  have failed := (errors _).2 (.filter own first refuses)
  obtain ⟨cache, -, stopped, unasked⟩ := refused _ failed
  refine ⟨found, live, ?_, ?_⟩
  · rw [stopped _ (.execute (.all "Post") nobody)]
  · rw [unasked (fun _ => .ok ()) (.all "Post") rfl]

end Host

end RowScope
