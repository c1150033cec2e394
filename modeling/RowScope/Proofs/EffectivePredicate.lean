import RowScope.Proofs.Conjunction
import RowScope.Proofs.Host

/-!
# Two ways of honouring filters

An engine gives the filters of a session away in two forms: and-ed onto the
predicate of the caller (`Engine.intercept`), or beside it in the query that an
executor is handed (`Engine.plan`).  Both come of the same predicates, so they
succeed or fail alike and mean the same.

* `Interception.predicatesFor_eq_nil_iff`: nothing is injected exactly if no filter
  on the entity type is on.
* `Engine.Sound.result_plan` and `Engine.filtersFor_recached`: what is handed over is
  read off the registry, so the state of the cache does not matter.
* `Host.Reachable.intercept_plan_agree` puts both forms beside each other.
-/

namespace RowScope

namespace Interception

/-- Nothing is injected exactly if no filter is on. -/
theorem predicatesFor_eq_nil_iff {s : Session} {context : Context} {fs : List Definition}
    {ps : List (String × Predicate)} (made : predicatesFor s context fs = .ok ps) :
    ps = [] ↔ ∀ d ∈ fs, s.isEnabled d.name = false := by
  induction fs generalizing ps with
  | nil =>
    cases made
    simp
  | cons d fs ih =>
    rw [predicatesFor] at made
    rw [List.forall_mem_cons]
    cases on : s.enabledValues? d.name with
    | none =>
      rw [on] at made
      have off : s.isEnabled d.name = false := Session.enabledValues?_eq_none_iff.1 on
      simp [ih made, off]
    | some explicit =>
      rw [on] at made
      obtain ⟨enabled, -⟩ := Session.enabledValues?_eq_some_iff.1 on
      obtain ⟨p, -, made⟩ := bind_eq_ok_iff.1 made
      obtain ⟨qs, -, made⟩ := bind_eq_ok_iff.1 made
      cases made
      simp [enabled]

end Interception

namespace Engine

variable {e e' : Engine}

/-- The predicates that a query gets are read off the registry. -/
theorem filtersFor_recached (recached : e.Recached e') (s : Session) (entity : String)
    (context : Context) : e'.filtersFor s entity context = e.filtersFor s entity context := by
  obtain ⟨cache, rfl, -⟩ := recached
  rfl

theorem recached_plan (e : Engine) (s : Session) (q : Query) (context : Context) :
    e.Recached (e.plan s q context).result.2 :=
  e.recached_compiledFilters s q.entity context

theorem Sound.result_plan (sound : e.Sound) (s : Session) (q : Query) (context : Context) :
    (e.plan s q context).result.1 =
      (e.filtersFor s q.entity context).map fun filters => { q with filters } := by
  rw [← sound.result_compiledFilters]
  rfl

/-- No filter is on exactly if there are no predicates. -/
theorem Sound.filters_eq_nil_iff (sound : e.Sound) {s : Session} {entity : String}
    {context : Context} {filters : List Predicate}
    (made : e.filtersFor s entity context = .ok filters) :
    filters = [] ↔
      ∀ d ∈ e.registry.definitions, d.entity = entity → s.isEnabled d.name = false := by
  obtain ⟨ds, records, -⟩ := sound
  rw [filtersFor] at made
  split at made
  · cases made
  cases named : Interception.predicatesFor s context (e.registry.filtersFor entity) with
  | error error =>
    rw [named] at made
    cases made
  | ok ps =>
    rw [named] at made
    cases made
    rw [List.map_eq_nil_iff, Interception.predicatesFor_eq_nil_iff named]
    constructor
    · intro off d member onEntity
      exact off d (records.mem_filtersFor.2 ⟨records.mem_definitions.1 member, onEntity⟩)
    · intro off d filed
      obtain ⟨member, onEntity⟩ := records.mem_filtersFor.1 filed
      exact off d (records.mem_definitions.2 member) onEntity

end Engine

namespace Host

variable {h : Host}

/-- **Both ways of honouring filters agree.**  After any commands, for any session,
query and context, an engine either gives the caller's predicate with the filters
and-ed on and hands a query with the same filters to an executor, or fails in both
with one error; neither spoils the cache for the other.  The query that is handed
over keeps entity type and predicate, and its effective predicate is the tree of the
interception, which is missing only if there is neither a predicate nor a filter that
is on.  That tree compiles exactly if the predicate of the caller does, with the same
error otherwise, and a row matches it exactly if it matches the predicate, if there is
one, and every injected filter; so either form selects the same rows. -/
theorem Reachable.intercept_plan_agree (reachable : h.Reachable) {handle : Nat} {e : Engine}
    (found : h.engine? handle = some e) (s : Session) (q : Query) (context : Context) :
    let tree := (e.intercept s q.entity q.predicate context).result
    let handed := (e.plan s q context).result
    (tree.2.plan s q context).result.1 = handed.1 ∧
      (handed.2.intercept s q.entity q.predicate context).result.1 = tree.1 ∧
      (∀ (α : Type) (execute : Query → Except FilterError α),
        (Engine.executeWith execute e s q context).result.1 = handed.1.bind execute) ∧
      (∀ error, tree.1 = .error error ↔ handed.1 = .error error) ∧
      ∀ q', handed.1 = .ok q' →
        q'.entity = q.entity ∧ q'.predicate = q.predicate ∧ tree.1 = .ok q'.effectivePredicate ∧
        (q'.effectivePredicate = none ↔ q.predicate = none ∧
          ∀ d ∈ e.registry.definitions, d.entity = q.entity → s.isEnabled d.name = false) ∧
        (∀ error, Query.compile? q'.effectivePredicate = .error error ↔
          Query.compile? q.predicate = .error error) ∧
        (∀ whole caller, Query.compile? q'.effectivePredicate = .ok whole →
          Query.compile? q.predicate = .ok caller → ∀ row,
            Query.matchesPredicate whole row = (Query.matchesPredicate caller row &&
              q'.filters.all fun filter => filter.holds row)) ∧
        ∀ rows, q'.translated.execute rows = q'.execute rows := by
  intro tree handed
  have wellFormed := reachable.wellFormed
  have sound := wellFormed.sound _ e (wellFormed.engines_of_engine? found)
  have intercepted := e.recached_intercept s q.entity q.predicate context
  have planned := e.recached_plan s q context
  have treeOf : tree.1 = _ := sound.result_intercept s q.entity q.predicate context
  have handedOf : handed.1 = _ := sound.result_plan s q context
  refine ⟨?_, ?_, ?_, ?_, ?_⟩
  · rw [(sound.recached intercepted).result_plan, Engine.filtersFor_recached intercepted, handedOf]
  · rw [(sound.recached planned).result_intercept, Engine.filtersFor_recached planned, treeOf]
  · intro α execute
    rfl
  · intro error
    rw [treeOf, handedOf, map_eq_error_iff, map_eq_error_iff]
  · intro q' given
    rw [handedOf] at given
    cases made : e.filtersFor s q.entity context with
    | error error =>
      rw [made] at given
      cases given
    | ok filters =>
      rw [made] at given treeOf
      cases given
      refine ⟨rfl, rfl, treeOf, ?_, ?_, ?_, ?_⟩
      · rw [← sound.filters_eq_nil_iff made]
        exact Query.inject_eq_none_iff q.predicate filters
      · intro error
        exact Query.compile?_inject_eq_error_iff
      · intro whole caller wholeOf callerOf
        exact Query.matchesPredicate_of_compile?_inject wholeOf callerOf
      · exact Query.execute_translated _

/-! The caller asks for the posts with a positive number that are not the second one,
and the first session adds its tenant. -/

theorem Reachable.intercept_plan_agree_blog :
    let caller : Expr := .conj [.compare .gt (.field "id") (.literal (.int 0)),
      .neg (.compare .eq (.field "id") (.literal (.int 2)))]
    ∃ q', (blogEngine.plan blogSession ⟨"Post", some caller, []⟩ .empty).result.1 = .ok q' ∧
      (blogEngine.intercept blogSession "Post" (some caller) .empty).result.1 =
        .ok q'.effectivePredicate ∧
      q'.effectivePredicate = some (.conj [.compare .gt (.field "id") (.literal (.int 0)),
        .neg (.compare .eq (.field "id") (.literal (.int 2))),
        .compare .eq (.field "tenant") (.literal (.int 1))]) ∧
      ∀ rows, q'.translated.execute rows = q'.execute rows := by
  intro caller
  have found : blog.engine? 0 = some blogEngine := (Option.some_get _).symm
  obtain ⟨-, -, -, -, given⟩ :=
    reachable_blog.intercept_plan_agree found blogSession ⟨"Post", some caller, []⟩ .empty
  obtain ⟨-, -, tree, -, -, -, alike⟩ := given
    ⟨"Post", some caller, [.compare .eq (.field "tenant") (.literal (.int 1))]⟩ rfl
  exact ⟨_, rfl, tree, rfl, alike⟩

end Host

end RowScope
