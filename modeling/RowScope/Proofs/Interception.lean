import RowScope.Interception
import RowScope.Proofs.Compilation
import RowScope.Proofs.Session

/-!
# What an interception injects

* `Interception.supplied?` is the value that a parameter gets: that of the session,
  or else that of the context, if the declared type accepts it.
  `supplied?_of_gather` says that gathering hands over these values.
* `Interception.predicateFor` is the predicate of one filter without a cache.  It
  is there exactly if every declared parameter is supplied with a value
  (`exists_predicateFor_iff`), and a row matches it exactly if the template holds
  with the supplied values (`holds_predicateFor_iff`).
* `Interception.predicatesFor` are those of all filters that are on, and
  `result_compiledFilters` says that an interception through a faithful cache
  comes to these.
-/

namespace RowScope.Interception

/-! ## Gathering values -/

/-- The value that a parameter gets from the session, or else from the context. -/
def supplied? (explicit : Dict Value) (context : Context) (p : Parameter) : Option Value :=
  match explicit.get? p.name with
  | some v => some v
  | none =>
    match contextValue? context p with
    | some v => if p.type.accepts v then some (p.type.coerce v) else none
    | none => none

section Gather

variable {filter : String} {explicit values handed : Dict Value} {context : Context}
  {params : List Parameter} {p : Parameter}

/-- Gathering succeeds exactly if the context has no value of a wrong type for a
parameter that the session gives none. -/
theorem exists_gather_iff :
    (∃ handed, gather filter explicit context params values = .ok handed) ↔
      ∀ p ∈ params, explicit.contains p.name = false → ∀ v,
        contextValue? context p = some v → p.type.accepts v = true := by
  induction params generalizing values with
  | nil => simp [gather]
  | cons p ps ih =>
    rw [List.forall_mem_cons, gather]
    cases given : explicit.contains p.name with
    | true =>
      rw [if_pos rfl, ih]
      simp
    | false =>
      rw [if_neg Bool.false_ne_true]
      cases found : contextValue? context p with
      | none =>
        dsimp only
        rw [ih]
        simp
      | some v =>
        dsimp only
        cases accepted : p.type.accepts v with
        | true =>
          rw [if_pos rfl, ih]
          simp [accepted]
        | false => simp [accepted]

/-- Gathering touches no name but those of the parameters without a value. -/
theorem get?_gather_of_untouched
    (gathered : gather filter explicit context params values = .ok handed) {name : String}
    (untouched : ∀ p ∈ params, p.name = name → explicit.contains name = true) :
    handed.get? name = values.get? name := by
  induction params generalizing values with
  | nil =>
    cases gathered
    rfl
  | cons p ps ih =>
    obtain ⟨head, tail⟩ := List.forall_mem_cons.1 untouched
    rw [gather] at gathered
    split at gathered
    · exact ih gathered tail
    next absent =>
    split at gathered
    · exact ih gathered tail
    · split at gathered
      · have other : p.name ≠ name := fun same => absent (same ▸ head same)
        rw [ih gathered tail, Dict.get?_put, if_neg other]
      · cases gathered

/-- Gathering puts the value of the context where the session has none. -/
theorem get?_gather (distinct : (params.map Parameter.name).Nodup)
    (gathered : gather filter explicit context params values = .ok handed) (member : p ∈ params)
    (absent : explicit.contains p.name = false) :
    handed.get? p.name =
      match contextValue? context p with
      | some v => some (p.type.coerce v)
      | none => values.get? p.name := by
  induction params generalizing values with
  | nil => cases member
  | cons q ps ih =>
    obtain ⟨apart, rest⟩ := List.nodup_cons.1 distinct
    rw [gather] at gathered
    rcases List.mem_cons.1 member with rfl | later
    · have untouched : ∀ q ∈ ps, q.name = p.name → explicit.contains p.name = true :=
        fun q member same => absurd (List.mem_map.2 ⟨q, member, same⟩) apart
      rw [absent, if_neg Bool.false_ne_true] at gathered
      split at gathered
      · next missing =>
        rw [missing]
        exact get?_gather_of_untouched gathered untouched
      · next v found =>
        split at gathered
        · rw [found, get?_gather_of_untouched gathered untouched, Dict.get?_put, if_pos rfl]
        · cases gathered
    · have other : q.name ≠ p.name := fun same =>
        apart (List.mem_map.2 ⟨p, later, same.symm⟩)
      split at gathered
      · exact ih rest gathered later
      split at gathered
      · exact ih rest gathered later
      · split at gathered
        · rw [ih rest gathered later, Dict.get?_put, if_neg other]
        · cases gathered

/-- What is handed over for a declared parameter is what it is supplied with. -/
theorem supplied?_of_gather (distinct : (params.map Parameter.name).Nodup)
    (gathered : gather filter explicit context params explicit = .ok handed)
    (member : p ∈ params) : handed.get? p.name = supplied? explicit context p := by
  have accepted := exists_gather_iff.1 ⟨handed, gathered⟩ p member
  rw [supplied?]
  cases given : explicit.get? p.name with
  | some v =>
    refine (get?_gather_of_untouched gathered fun q _ _ => ?_).trans given
    rw [Dict.contains, given]
    rfl
  | none =>
    have absent : explicit.contains p.name = false := by rw [Dict.contains, given]; rfl
    rw [get?_gather distinct gathered member absent, given]
    cases found : contextValue? context p with
    | none => rfl
    | some v => simp [accepted absent v found]

/-- What is handed over for another name is what the session has. -/
theorem get?_gather_of_undeclared
    (gathered : gather filter explicit context params explicit = .ok handed) {name : String}
    (undeclared : ∀ p ∈ params, p.name ≠ name) : handed.get? name = explicit.get? name :=
  get?_gather_of_untouched gathered fun p member same => absurd same (undeclared p member)

theorem exists_gather_of_supplied
    (supplied : ∀ p ∈ params, (supplied? explicit context p).isSome = true) :
    ∃ handed, gather filter explicit context params explicit = .ok handed := by
  refine exists_gather_iff.2 fun p member absent v found => ?_
  have given := supplied p member
  rw [Dict.contains, Option.isSome_eq_false_iff, Option.isNone_iff_eq_none] at absent
  rw [supplied?, absent, found] at given
  by_contra refused
  simp [refused] at given

end Gather

/-! ## One filter -/

/-- The predicate of a filter with the values of the session and the context, made
afresh. -/
def predicateFor (explicit : Dict Value) (context : Context) (d : Definition) :
    Except FilterError Predicate := do
  d.compileAfresh (← gather d.name explicit context d.parameters explicit)

/-- The parameters of a definition read as what they are supplied with. -/
def environment (explicit : Dict Value) (context : Context) (d : Definition) (name : String) :
    Value :=
  ((d.parameter? name).bind (supplied? explicit context)).getD .null

section PredicateFor

variable {catalog : Catalog} {d : Definition} {explicit : Dict Value} {context : Context}
  {p : Predicate}

/-- There is a predicate exactly if every declared parameter is supplied. -/
theorem exists_predicateFor_iff (resolved : d.Resolved catalog) :
    (∃ p, predicateFor explicit context d = .ok p) ↔
      ∀ p ∈ d.parameters, (supplied? explicit context p).isSome = true := by
  constructor
  · rintro ⟨p, made⟩ q declared
    obtain ⟨handed, gathered, compiled⟩ := bind_eq_ok_iff.1 made
    have given := (Definition.exists_compileAfresh_iff resolved).1 ⟨p, compiled⟩ q declared
    rwa [Dict.contains, supplied?_of_gather resolved.distinct gathered declared] at given
  · intro supplied
    obtain ⟨handed, gathered⟩ := exists_gather_of_supplied supplied
    have given : ∀ q ∈ d.parameters, handed.contains q.name = true := by
      intro q declared
      rw [Dict.contains, supplied?_of_gather resolved.distinct gathered declared]
      exact supplied q declared
    obtain ⟨p, compiled⟩ := (Definition.exists_compileAfresh_iff resolved).2 given
    exact ⟨p, bind_eq_ok_iff.2 ⟨handed, gathered, compiled⟩⟩

/-- A row matches the predicate exactly if the template holds with the supplied
values. -/
theorem holds_predicateFor_iff (resolved : d.Resolved catalog)
    (made : predicateFor explicit context d = .ok p) (row : Row) :
    p.holds row = true ↔ d.template.expr.Holds (environment explicit context d) row := by
  obtain ⟨handed, gathered, compiled⟩ := bind_eq_ok_iff.1 made
  have read : d.template.expr.value (Expr.environment handed) row =
      d.template.expr.value (environment explicit context d) row := by
    refine Expr.value_congr row _ fun name member => ?_
    obtain ⟨q, declared, rfl⟩ := resolved.declared name member
    have found := resolved.parameter?_eq_some_iff.2 ⟨declared, rfl⟩
    rw [Expr.environment, environment, found,
      supplied?_of_gather resolved.distinct gathered declared]
    rfl
  rw [Definition.holds_compileAfresh_iff compiled, Expr.Holds, Expr.Holds, read]

end PredicateFor

/-! ## All filters that are on -/

/-- The names and predicates of those of some definitions that are on in a
session, made afresh. -/
def predicatesFor (s : Session) (context : Context) :
    List Definition → Except FilterError (List (String × Predicate))
  | [] => .ok []
  | d :: ds =>
    match s.enabledValues? d.name with
    | none => predicatesFor s context ds
    | some explicit => do
      let p ← predicateFor explicit context d
      let ps ← predicatesFor s context ds
      pure ((d.name, p) :: ps)

section PredicatesFor

variable {r : Registry} {ds fs : List Definition} {s : Session} {context : Context}
  {cache : Cache}

/-- There are predicates exactly if every filter that is on has one. -/
theorem exists_predicatesFor_iff :
    (∃ ps, predicatesFor s context fs = .ok ps) ↔
      ∀ d ∈ fs, ∀ explicit, s.enabledValues? d.name = some explicit →
        ∃ p, predicateFor explicit context d = .ok p := by
  induction fs with
  | nil => simp [predicatesFor]
  | cons d fs ih =>
    rw [List.forall_mem_cons, ← ih, predicatesFor]
    cases on : s.enabledValues? d.name with
    | none => simp
    | some explicit =>
      dsimp only
      constructor
      · rintro ⟨ps, made⟩
        obtain ⟨p, first, made⟩ := bind_eq_ok_iff.1 made
        obtain ⟨qs, rest, -⟩ := bind_eq_ok_iff.1 made
        refine ⟨?_, qs, rest⟩
        rintro _ ⟨⟩
        exact ⟨p, first⟩
      · rintro ⟨first, qs, rest⟩
        obtain ⟨p, made⟩ := first explicit rfl
        exact ⟨(d.name, p) :: qs, by rw [made, rest]; rfl⟩

/-- What holds of all the predicates holds of the one of every filter that is on. -/
theorem forall_mem_predicatesFor_iff {ps : List (String × Predicate)}
    (made : predicatesFor s context fs = .ok ps) (P : Predicate → Prop) :
    (∀ entry ∈ ps, P entry.2) ↔
      ∀ d ∈ fs, ∀ explicit, s.enabledValues? d.name = some explicit →
        ∀ p, predicateFor explicit context d = .ok p → P p := by
  induction fs generalizing ps with
  | nil =>
    cases made
    simp
  | cons d fs ih =>
    rw [predicatesFor] at made
    rw [List.forall_mem_cons (l := fs)]
    cases on : s.enabledValues? d.name with
    | none =>
      rw [on] at made
      rw [ih made]
      simp
    | some explicit =>
      rw [on] at made
      obtain ⟨p, first, made⟩ := bind_eq_ok_iff.1 made
      obtain ⟨qs, rest, made⟩ := bind_eq_ok_iff.1 made
      cases made
      rw [List.forall_mem_cons, ih rest]
      simp [first]

/-- One filter through a faithful cache. -/
theorem result_compileOne (faithful : cache.Faithful ds) (records : r.Records ds)
    {d : Definition} (member : d ∈ ds) (explicit : Dict Value) (context : Context) :
    (compileOne d explicit context cache).result.1 = predicateFor explicit context d ∧
      (compileOne d explicit context cache).result.2.Faithful ds := by
  rw [compileOne, predicateFor]
  cases gather d.name explicit context d.parameters explicit with
  | error e => exact ⟨rfl, faithful⟩
  | ok handed =>
    exact ⟨Definition.result_compile faithful records member handed,
      faithful.compile member handed⟩

/-- One filter after the other through a faithful cache. -/
theorem result_compileEach (faithful : cache.Faithful ds) (records : r.Records ds)
    (members : ∀ d ∈ fs, d ∈ ds) (s : Session) (entity : String) (context : Context) :
    (compileEach s entity context fs cache).result.1 = predicatesFor s context fs ∧
      (compileEach s entity context fs cache).result.2.Faithful ds := by
  induction fs generalizing cache with
  | nil => exact ⟨rfl, faithful⟩
  | cons d fs ih =>
    obtain ⟨member, members⟩ := List.forall_mem_cons.1 members
    rw [compileEach, predicatesFor]
    cases s.enabledValues? d.name with
    | none => exact ih faithful members
    | some explicit =>
      obtain ⟨answered, kept⟩ := result_compileOne faithful records member explicit context
      dsimp only
      rw [Logged.result_bind, ← answered]
      generalize (compileOne d explicit context cache).result = outcome at kept ⊢
      rcases outcome with ⟨_ | p, cache'⟩
      · exact ⟨rfl, kept⟩
      · obtain ⟨answered, kept⟩ := ih kept members
        dsimp only
        rw [Logged.result_bind, ← answered]
        generalize (compileEach s entity context fs cache').result = outcome at kept ⊢
        rcases outcome with ⟨_ | ps, cache''⟩
        · exact ⟨rfl, kept⟩
        · exact ⟨rfl, kept⟩

/-- **Interception does not depend on the cache.** Through a faithful cache it
comes to the predicates of all filters on the entity type that are on, or to the
error of the first that has none; the cache stays faithful. -/
theorem result_compiledFilters (faithful : cache.Faithful ds) (records : r.Records ds)
    (s : Session) (entity : String) (context : Context) :
    (compiledFilters r s entity context cache).result.1 =
        (predicatesFor s context (r.filtersFor entity)).map (fun ps => ps.map Prod.snd) ∧
      (compiledFilters r s entity context cache).result.2.Faithful ds := by
  have members : ∀ d ∈ r.filtersFor entity, d ∈ ds :=
    fun d member => (records.mem_filtersFor.1 member).1
  obtain ⟨answered, kept⟩ := result_compileEach faithful records members s entity context
  rw [compiledFilters, Logged.result_bind, ← answered]
  generalize (compileEach s entity context (r.filtersFor entity) cache).result = outcome
    at kept ⊢
  rcases outcome with ⟨_ | ps, cache'⟩
  · exact ⟨rfl, kept⟩
  · exact ⟨rfl, kept⟩

end PredicatesFor

/-! ## By the definitions of the registry -/

section Records

variable {r : Registry} {ds : List Definition} {s : Session} {context : Context}
  {entity : String}

/-- All filters that are on have predicates exactly if all their parameters are
supplied. -/
theorem exists_predicates_iff (records : r.Records ds) :
    (∃ ps, predicatesFor s context (r.filtersFor entity) = .ok ps) ↔
      ∀ d ∈ r.definitions, d.entity = entity → s.isEnabled d.name = true →
        ∀ p ∈ d.parameters,
          (supplied? (s.state d.name).values context p).isSome = true := by
  rw [exists_predicatesFor_iff]
  constructor
  · intro made d member onEntity on
    have listed := records.mem_definitions.1 member
    have filed := records.mem_filtersFor.2 ⟨listed, onEntity⟩
    exact (exists_predicateFor_iff (records.resolved d listed)).1
      (made d filed _ (Session.enabledValues?_eq_some_iff.2 ⟨on, rfl⟩))
  · intro supplied d filed explicit given
    obtain ⟨listed, onEntity⟩ := records.mem_filtersFor.1 filed
    obtain ⟨on, rfl⟩ := Session.enabledValues?_eq_some_iff.1 given
    exact (exists_predicateFor_iff (records.resolved d listed)).2
      (supplied d (records.mem_definitions.2 listed) onEntity on)

/-- A row matches all of them exactly if the template of every filter that is on
holds. -/
theorem forall_holds_iff (records : r.Records ds) {ps : List (String × Predicate)}
    (made : predicatesFor s context (r.filtersFor entity) = .ok ps) (row : Row) :
    (∀ entry ∈ ps, entry.2.holds row = true) ↔
      ∀ d ∈ r.definitions, d.entity = entity → s.isEnabled d.name = true →
        d.template.expr.Holds (environment (s.state d.name).values context d) row := by
  rw [forall_mem_predicatesFor_iff made fun p => p.holds row = true]
  have answerable := exists_predicatesFor_iff.1 ⟨ps, made⟩
  constructor
  · intro matched d member onEntity on
    have listed := records.mem_definitions.1 member
    have filed := records.mem_filtersFor.2 ⟨listed, onEntity⟩
    have given := Session.enabledValues?_eq_some_iff.2 ⟨on, rfl⟩
    obtain ⟨p, compiled⟩ := answerable d filed _ given
    exact (holds_predicateFor_iff (records.resolved d listed) compiled row).1
      (matched d filed _ given p compiled)
  · intro holds d filed explicit given p compiled
    obtain ⟨listed, onEntity⟩ := records.mem_filtersFor.1 filed
    obtain ⟨on, rfl⟩ := Session.enabledValues?_eq_some_iff.1 given
    exact (holds_predicateFor_iff (records.resolved d listed) compiled row).2
      (holds d (records.mem_definitions.2 listed) onEntity on)

/-- What is handed over to compilation fits: it comes from a typed session, or from
the context by way of the declared type. -/
theorem fits_of_gather (records : r.Records ds) (typed : s.Typed r) {d : Definition}
    (member : d ∈ ds) {explicit handed : Dict Value}
    (given : s.enabledValues? d.name = some explicit)
    (gathered : gather d.name explicit context d.parameters explicit = .ok handed)
    {name : String} {v : Value} (found : handed.get? name = some v) : r.Fits d.name name v := by
  obtain ⟨-, rfl⟩ := Session.enabledValues?_eq_some_iff.1 given
  by_cases declared : ∃ p ∈ d.parameters, p.name = name
  · obtain ⟨p, declared, rfl⟩ := declared
    have distinct := (records.resolved d member).distinct
    rw [supplied?_of_gather distinct gathered declared, supplied?] at found
    split at found
    · next v' bound =>
      cases found
      exact typed.fits d.name p.name v bound
    · split at found
      · split at found
        · next accepted =>
          cases found
          exact records.fits_of_declared member declared (ScalarType.scalarType_coerce accepted)
        · cases found
      · cases found
  · have undeclared : ∀ p ∈ d.parameters, p.name ≠ name :=
      fun p member same => declared ⟨p, member, same⟩
    rw [get?_gather_of_undeclared gathered undeclared] at found
    exact typed.fits d.name name v found

end Records

end RowScope.Interception
