import RowScope.Proofs.Refusal
import RowScope.Proofs.SessionHistory
import RowScope.Proofs.Widening

/-!
# Explicit values against those of a session

A filter is compiled with explicit values as they are, whereas a session keeps values as
the declared types have them.  So the two ways lead to the same rows up to widening.

* `Definition.Binds`: the calls that switch a filter on and give its parameters values, in
  whatever order.  `Session.Advances` is what such calls come to: one call
  (`advances_call`), and then any number of them (`advances_serve`).
* `Definition.MatchesKept`: a predicate of the values as the declared types keep them.
  Explicit compilation gives one for the kept values (`Accepts.exists_matchesKept`), and a
  session has one after the calls (`Interception.keeps_of_advances`).  It differs from one
  of the values as they are only where these are confused (`MatchesKept.holds_eq`).
* `Interception.exists_stops_iff`: of the filters on an entity type the calls change only
  the one that they are about, which does not stop a query any more.
* `Host.Reachable.explicit_up_to_widening` puts these together.
-/

namespace RowScope

/-! ## Calls that bind values -/

namespace Definition

variable {d : Definition} {values : Dict Value}

/-- Every declared parameter has a value that its type accepts. -/
def Accepts (d : Definition) (values : Dict Value) : Prop :=
  ∀ p ∈ d.parameters, ∃ v ∈ values.get? p.name, p.type.accepts v = true

instance (d : Definition) (values : Dict Value) : Decidable (d.Accepts values) :=
  inferInstanceAs (Decidable (∀ p ∈ d.parameters, ∃ v ∈ values.get? p.name, _))

/-- A call that serves to bind the values of a definition. -/
inductive BindingCall (d : Definition) (values : Dict Value) : Session.Call → Prop
  | enable : BindingCall d values (.enable d.name)
  | select : BindingCall d values (.select d.name)
  | give {p : Parameter} {v : Value} (declared : p ∈ d.parameters)
      (given : v ∈ values.get? p.name) : BindingCall d values (.give d.name p.name v)

/-- Calls that switch a filter on and give each of its parameters its value, in any order
and as often as may be, and that do nothing else. -/
structure Binds (d : Definition) (values : Dict Value) (calls : List Session.Call) : Prop where
  only : ∀ c ∈ calls, d.BindingCall values c
  enables : .enable d.name ∈ calls
  gives : ∀ p ∈ d.parameters, ∀ v ∈ values.get? p.name, .give d.name p.name v ∈ calls

end Definition

/-- The declaration that a session asks for is of the type of a definition. -/
theorem Registry.Records.exists_parameter? {r : Registry} {ds : List Definition}
    (records : r.Records ds) {d : Definition} (member : d ∈ ds) {p : Parameter}
    (declared : p ∈ d.parameters) :
    ∃ q, r.parameter? d.name p.name = some q ∧ q.type = p.type :=
  records.declares_iff.1
    ⟨d, records.mem_definitions.2 member, rfl, p, declared, rfl, rfl⟩

namespace Session

variable {r : Registry} {ds : List Definition} {d : Definition} {values : Dict Value}
  {s s₁ s₂ : Session} {calls more : List Call}

/-- What binding calls come to.  The session stays on its engine, other filters keep their
state, and what was switched on or given is there in the end, whether before the calls or
by them. -/
structure Advances (d : Definition) (values : Dict Value) (s : Session) (calls : List Call)
    (s' : Session) : Prop where
  home : s'.home = s.home
  others : ∀ other, other ≠ d.name → s'.state other = s.state other
  enabled : s.isEnabled d.name = true ∨ .enable d.name ∈ calls → s'.isEnabled d.name = true
  given : ∀ p ∈ d.parameters, ∀ v ∈ values.get? p.name,
    s.parameter? d.name p.name = some (p.type.coerce v) ∨ .give d.name p.name v ∈ calls →
      s'.parameter? d.name p.name = some (p.type.coerce v)

theorem Advances.nothing (d : Definition) (values : Dict Value) (s : Session) :
    s.Advances d values [] s where
  home := rfl
  others _ _ := rfl
  enabled on := on.resolve_right List.not_mem_nil
  given _ _ _ _ kept := kept.resolve_right List.not_mem_nil

theorem Advances.trans (first : s.Advances d values calls s₁)
    (second : s₁.Advances d values more s₂) : s.Advances d values (calls ++ more) s₂ where
  home := second.home.trans first.home
  others other apart := (second.others other apart).trans (first.others other apart)
  enabled on := by
    rw [List.mem_append, ← or_assoc] at on
    exact second.enabled (on.imp_left first.enabled)
  given p declared v value kept := by
    rw [List.mem_append, ← or_assoc] at kept
    exact second.given p declared v value (kept.imp_left (first.given p declared v value))

theorem home_call (r : Registry) (s : Session) (c : Call) : (s.call r c).2.home = s.home := by
  cases c with
  | enable filter => exact (turned_enable r s filter).home
  | select filter =>
    rw [call, Host.select]
    split
    · next s' turned => exact home_select turned
    · rfl
  | disable filter => exact (turned_disable r s filter).home
  | give filter parameter v => exact (turned_setParameter r s filter parameter v).home

/-- **One binding call** is answered, and does its part. -/
theorem advances_call (records : r.Records ds) (member : d ∈ ds) (accepts : d.Accepts values)
    (s : Session) {c : Call} (binding : d.BindingCall values c) :
    (s.call r c).1 = .ok () ∧ s.Advances d values [c] (s.call r c).2 := by
  have known : r.contains d.name = true := records.contains_iff.2 ⟨d, member, rfl⟩
  have home := home_call r s c
  have outcome := outcome_call r s c
  generalize s.call r c = after at home outcome ⊢
  have others : ∀ {change}, s.Alters after.2 d.name change →
      ∀ other, other ≠ d.name → after.2.state other = s.state other := by
    intro change altered other apart
    rw [altered other, if_neg apart.symm]
  cases binding with
  | enable =>
    cases outcome with
    | enableUnknown unknown => exact absurd known unknown
    | enabled _ altered =>
      refine ⟨rfl, home, others altered, fun _ => ?_, fun p declared v value kept => ?_⟩
      · rw [altered.isEnabled_eq, if_pos rfl]
      · rw [altered.parameter?_eq, if_pos rfl]
        exact kept.resolve_right (by simp)
  | select =>
    cases outcome with
    | selectUnknown unknown => exact absurd known unknown
    | selected _ altered =>
      refine ⟨rfl, home, others altered, fun on => ?_, fun p declared v value kept => ?_⟩
      · rw [altered.isEnabled_eq, if_pos rfl]
        exact on.resolve_right (by simp)
      · rw [altered.parameter?_eq, if_pos rfl]
        exact kept.resolve_right (by simp)
  | @give p v declared value =>
    obtain ⟨q, stands, type⟩ := records.exists_parameter? member declared
    cases outcome with
    | undeclared missing =>
      rw [stands] at missing
      cases missing
    | refused found refused =>
      rw [stands] at found
      cases found
      obtain ⟨w, value', accepted⟩ := accepts p declared
      cases Option.mem_unique value value'
      rw [type] at refused
      exact absurd accepted refused
    | given found _ altered =>
      rw [stands] at found
      cases found
      refine ⟨rfl, home, others altered, fun on => ?_, fun p' declared' v' value' kept => ?_⟩
      · rw [altered.isEnabled_eq, if_pos rfl]
        exact on.resolve_right (by simp)
      · rw [altered.parameter?_eq, if_pos rfl, Dict.get?_put]
        split
        · next same =>
          -- the parameter that was given is declared once, so it has this very value
          rw [same] at stands value
          obtain ⟨q', stands', type'⟩ := records.exists_parameter? member declared'
          cases stands.symm.trans stands'
          cases Option.mem_unique value value'
          rw [type']
        · next apart =>
          refine kept.resolve_right fun listed => apart ?_
          exact (Call.give.inj (List.mem_singleton.1 listed)).2.1.symm

/-- **Any number of binding calls** are answered, and come to what they should. -/
theorem advances_serve (records : r.Records ds) (member : d ∈ ds) (accepts : d.Accepts values)
    (only : ∀ c ∈ calls, d.BindingCall values c) (s : Session) (log : Log) :
    s.Advances d values calls (serve r (s, log) calls).1 ∧
      ∀ answered ∈ (serve r (s, log) calls).2, answered ∈ log ∨ answered.2 = .ok () := by
  induction calls generalizing s log with
  | nil => exact ⟨.nothing d values s, fun answered listed => .inl listed⟩
  | cons c cs ih =>
    obtain ⟨binding, rest⟩ := List.forall_mem_cons.1 only
    obtain ⟨answer, first⟩ := advances_call records member accepts s binding
    obtain ⟨second, answers⟩ := ih rest (s.call r c).2 (log ++ [(c, (s.call r c).1)])
    refine ⟨first.trans second, fun answered listed => ?_⟩
    rcases answers answered listed with before | done
    · rcases List.mem_append.1 before with older | last
      · exact .inl older
      · rw [List.mem_singleton.1 last]
        exact .inr answer
    · exact .inr done

end Session

/-! ## The predicates -/

namespace Definition

variable {catalog : Catalog} {d : Definition} {values values' : Dict Value} {p : Predicate}

/-- Values that are accepted are enough to compile. -/
theorem Accepts.exists_compileAfresh (accepts : d.Accepts values)
    (resolved : d.Resolved catalog) : ∃ p, d.compileAfresh values = .ok p := by
  refine (exists_compileAfresh_iff resolved).2 fun q declared => ?_
  obtain ⟨v, value, -⟩ := accepts q declared
  rw [Dict.contains, Option.mem_def.1 value]
  rfl

/-- What an environment has for the declared parameters is what the declared types make of
some values. -/
def Keeps (d : Definition) (values : Dict Value) (env : String → Value) : Prop :=
  ∀ p ∈ d.parameters, ∀ v ∈ values.get? p.name, env p.name = p.type.coerce v

/-- Then the template has the values that it has in the environment of the declared
types. -/
theorem Keeps.holds_iff {env : String → Value} (keeps : d.Keeps values env)
    (accepts : d.Accepts values) (resolved : d.Resolved catalog) (row : Row) :
    d.template.expr.Holds env row ↔
      d.template.expr.Holds (d.coerced (Expr.environment values)) row := by
  rw [Expr.Holds, Expr.Holds, Expr.value_congr row _ fun name member => ?_]
  obtain ⟨q, declared, rfl⟩ := resolved.declared name member
  obtain ⟨v, value, -⟩ := accepts q declared
  rw [keeps q declared v value, coerced,
    resolved.parameter?_eq_some_iff.2 ⟨declared, rfl⟩, Expr.environment,
    Option.mem_def.1 value]
  rfl

/-- A predicate matches the rows on which the template of a definition holds with some
values as the declared types keep them. -/
def MatchesKept (d : Definition) (values : Dict Value) (p : Predicate) : Prop :=
  ∀ row, p.holds row = true ↔
    d.template.expr.Holds (d.coerced (Expr.environment values)) row

/-- What is compiled with the kept values does. -/
theorem Accepts.exists_matchesKept (accepts : d.Accepts values) (resolved : d.Resolved catalog)
    (kept : ∀ q ∈ d.parameters, ∀ v ∈ values.get? q.name,
      values'.get? q.name = some (q.type.coerce v)) :
    ∃ p, d.compileAfresh values' = .ok p ∧ d.MatchesKept values p := by
  have supplied : ∀ q ∈ d.parameters, values'.contains q.name = true := by
    intro q declared
    obtain ⟨v, value, -⟩ := accepts q declared
    rw [Dict.contains, kept q declared v value]
    rfl
  have keeps : d.Keeps values (Expr.environment values') := by
    intro q declared v value
    rw [Expr.environment, kept q declared v value]
    rfl
  obtain ⟨p, compiled⟩ := (exists_compileAfresh_iff resolved).2 supplied
  refine ⟨p, compiled, fun row => ?_⟩
  rw [holds_compileAfresh_iff compiled, keeps.holds_iff accepts resolved]

/-- It matches the rows that are matched with the values as they are, except where they are
confused. -/
theorem MatchesKept.holds_eq (kept : d.MatchesKept values p) {given : Predicate}
    (compiled : d.compileAfresh values = .ok given) {row : Row}
    (clear : ¬ d.Confuses values row) : p.holds row = given.holds row := by
  rw [Bool.eq_iff_iff, kept row, holds_coerced_iff clear, holds_compileAfresh_iff compiled]

end Definition

namespace Interception

variable {catalog : Catalog} {d d' : Definition} {values : Dict Value} {s s' : Session}
  {calls : List Session.Call} {context : Context}

/-- After the calls the session supplies every parameter, whatever the context. -/
theorem supplied?_of_advances (advances : s.Advances d values calls s')
    (binds : d.Binds values calls) (context : Context) {p : Parameter}
    (declared : p ∈ d.parameters) {v : Value} (value : v ∈ values.get? p.name) :
    supplied? (s'.state d.name).values context p = some (p.type.coerce v) := by
  have kept : s'.parameter? d.name p.name = some (p.type.coerce v) :=
    advances.given p declared v value (.inr (binds.gives p declared v value))
  rw [Session.parameter?] at kept
  rw [supplied?, kept]

/-- The filter that the calls are about does not stop a query. -/
theorem not_stops_of_advances (advances : s.Advances d values calls s')
    (accepts : d.Accepts values) (binds : d.Binds values calls) (context : Context) :
    ¬ stops s' context d = true := by
  rw [stops_iff]
  rintro ⟨-, p, declared, missing⟩
  obtain ⟨v, value, -⟩ := accepts p declared
  rw [supplied?_of_advances advances binds context declared value] at missing
  cases missing

/-- A filter of another name stops what it has stopped before. -/
theorem stops_of_advances (advances : s.Advances d values calls s') (apart : d'.name ≠ d.name)
    (context : Context) : stops s' context d' = stops s context d' := by
  rw [stops, stops, Session.isEnabled, Session.isEnabled, advances.others d'.name apart]

/-- So what stops a query on the entity type is another filter that has stopped it before. -/
theorem exists_stops_iff {r : Registry} {ds : List Definition} (records : r.Records ds)
    (member : d ∈ ds) (advances : s.Advances d values calls s') (accepts : d.Accepts values)
    (binds : d.Binds values calls) (context : Context) :
    (∃ d' ∈ r.filtersFor d.entity, stops s' context d' = true) ↔
      ∃ d' ∈ r.filtersFor d.entity, d' ≠ d ∧ stops s context d' = true := by
  have apart : ∀ d' ∈ r.filtersFor d.entity, d' ≠ d → d'.name ≠ d.name := by
    intro d' filed other same
    obtain ⟨member', onEntity⟩ := records.mem_filtersFor.1 filed
    exact other (records.eq_of_key member' member onEntity same)
  constructor
  · rintro ⟨d', filed, stopped⟩
    have other : d' ≠ d := by
      rintro rfl
      exact not_stops_of_advances advances accepts binds context stopped
    rw [stops_of_advances advances (apart d' filed other)] at stopped
    exact ⟨d', filed, other, stopped⟩
  · rintro ⟨d', filed, other, stopped⟩
    rw [← stops_of_advances advances (apart d' filed other)] at stopped
    exact ⟨d', filed, stopped⟩

theorem keeps_of_advances (advances : s.Advances d values calls s')
    (binds : d.Binds values calls) (resolved : d.Resolved catalog) (context : Context) :
    d.Keeps values (environment (s'.state d.name).values context d) := by
  intro p declared v value
  rw [environment, resolved.parameter?_eq_some_iff.2 ⟨declared, rfl⟩]
  simp [supplied?_of_advances advances binds context declared value]

end Interception

/-! ## Engines and hosts -/

namespace Engine

variable {e e' : Engine} {d : Definition} {values : Dict Value}

/-- A definition of an engine is compiled with explicit values as it would be afresh. -/
theorem Sound.compile_of_mem (sound : e.Sound) (registered : d ∈ e.registry.definitions)
    (values : Dict Value) :
    (e.compile d.entity d.name values).result.1 = d.compileAfresh values := by
  rw [sound.result_compile]
  obtain ⟨ds, records, -⟩ := sound
  rw [records.lookup_eq_ok_iff.2 ⟨records.mem_definitions.1 registered, rfl, rfl⟩]
  rfl

/-- Each filter on an entity type that is on has its predicate in its place. -/
theorem Sound.exists_predicate_of_on (sound : e.Sound) {s : Session} {entity : String}
    {context : Context} {ps : List Predicate}
    (made : (e.compiledFilters s entity context).result.1 = .ok ps) {i : Nat}
    (standing :
      ((e.registry.filtersFor entity).filter fun d => s.isEnabled d.name)[i]? = some d) :
    ∃ bound, ps[i]? = some bound ∧ ∀ row, bound.holds row = true ↔
      d.template.expr.Holds (Interception.environment (s.state d.name).values context d) row := by
  obtain ⟨length, each⟩ := List.forall₂_iff_get.1 (sound.forall₂_compiledFilters made)
  obtain ⟨inside, here⟩ := List.getElem?_eq_some_iff.1 standing
  have inside' : i < ps.length := length ▸ inside
  refine ⟨ps[i], List.getElem?_eq_getElem inside', fun row => ?_⟩
  have own := each i inside inside' row
  rwa [List.get_eq_getElem, List.get_eq_getElem, here] at own

theorem Recached.registry (recached : e.Recached e') : e'.registry = e.registry := by
  obtain ⟨cache, rfl, -⟩ := recached
  rfl

end Engine

namespace Host

variable {h : Host} {e : Engine} {d : Definition} {values : Dict Value} {s : Session}
  {calls : List Session.Call}

/-- **Explicit values and those of a session agree up to widening.**  Take a definition of
an engine, values that its parameters accept, and a session of the engine in which they are
bound by any binding calls.  These are all answered.  With whatever the cache holds by
then, explicit compilation gives a predicate, and the session has one for the filter unless
another filter stops it.

The one of the session matches the rows that explicit compilation matches with the values
as the declared types keep them.  With the values as they are, it matches the same rows,
too, except where the template compares an integer that is given to a float parameter with
another integer that is equal to it as a float.  There is no such row if these integers are
below `2 ^ 53`. -/
theorem Reachable.explicit_up_to_widening (reachable : h.Reachable) {handle : Nat}
    (found : h.engine? handle = some e) (registered : d ∈ e.registry.definitions)
    (accepts : d.Accepts values) (own : s.home = e.id) (binds : d.Binds values calls)
    (context : Context) :
    let after := Session.serve e.registry (s, []) calls
    let on := (e.registry.filtersFor d.entity).filter fun d' => after.1.isEnabled d'.name
    (∀ answered ∈ after.2, answered.2 = .ok ()) ∧ d ∈ on ∧
    ∃ given, ∀ e', e.Recached e' →
      (e'.compile d.entity d.name values).result.1 = .ok given ∧
      ((∃ error, (e'.compiledFilters after.1 d.entity context).result.1 = .error error) ↔
        ∃ d' ∈ e.registry.filtersFor d.entity,
          d' ≠ d ∧ Interception.stops s context d' = true) ∧
      ∀ ps, (e'.compiledFilters after.1 d.entity context).result.1 = .ok ps →
        ps.length = on.length ∧ ∀ i : Nat, on[i]? = some d → ∃ bound : Predicate,
          ps[i]? = some bound ∧
          (∀ values' : Dict Value, (∀ p ∈ d.parameters, ∀ v ∈ values.get? p.name,
              values'.get? p.name = some (p.type.coerce v)) →
            ∃ kept, (e'.compile d.entity d.name values').result.1 = .ok kept ∧
              ∀ row, bound.holds row = kept.holds row) ∧
          (∀ row, ¬ d.Confuses values row → bound.holds row = given.holds row) ∧
          (d.Small values → ∀ row, bound.holds row = given.holds row) := by
  intro after on
  have wellFormed := reachable.wellFormed
  have sound := wellFormed.sound e.id e (wellFormed.engines_of_engine? found)
  obtain ⟨ds, records, -⟩ := id sound
  have member := records.mem_definitions.1 registered
  have resolved := records.resolved d member
  obtain ⟨advances, answers⟩ :=
    Session.advances_serve records member accepts binds.only s []
  have switched : after.1.isEnabled d.name = true := advances.enabled (.inr binds.enables)
  have filed : d ∈ e.registry.filtersFor d.entity := records.mem_filtersFor.2 ⟨member, rfl⟩
  obtain ⟨given, compiled⟩ := accepts.exists_compileAfresh resolved
  refine ⟨fun answered listed => (answers answered listed).resolve_left List.not_mem_nil,
    List.mem_filter.2 ⟨filed, switched⟩, given, fun e' recached => ?_⟩
  have sound' := sound.recached recached
  have registered' : d ∈ e'.registry.definitions := recached.registry ▸ registered
  have home : after.1.home = e'.id :=
    advances.home.trans (own.trans recached.evolves.id.symm)
  refine ⟨(sound'.compile_of_mem registered' values).trans compiled, ?_, fun ps made => ?_⟩
  · rw [sound'.exists_error_compiledFilters_iff, recached.registry, or_iff_right (not_not.2 home)]
    exact Interception.exists_stops_iff records member advances accepts binds context
  have sameOn : (e'.registry.filtersFor d.entity).filter (fun d' => after.1.isEnabled d'.name) =
      on := by rw [recached.registry]
  have length := (sound'.forall₂_compiledFilters made).length_eq
  refine ⟨(sameOn ▸ length).symm, fun i standing => ?_⟩
  obtain ⟨bound, listed, matched⟩ := sound'.exists_predicate_of_on made (sameOn ▸ standing)
  have keeps := Interception.keeps_of_advances advances binds resolved context
  have kept : d.MatchesKept values bound := fun row =>
    (matched row).trans (keeps.holds_iff accepts resolved row)
  refine ⟨bound, listed, fun values' alike => ?_, fun row => kept.holds_eq compiled,
    fun small row => kept.holds_eq compiled (small.not_confuses row)⟩
  obtain ⟨p, compiled', kept'⟩ := accepts.exists_matchesKept resolved alike
  refine ⟨p, (sound'.compile_of_mem registered' values').trans compiled', fun row => ?_⟩
  rw [Bool.eq_iff_iff, kept row, kept' row]

/-! A filter by a number that is declared as a float, on a field of integers. -/

/-- A host with the filter and a session. -/
def numeric : Host :=
  ((newBlog []).result.run
    [.register 0 "Post" "number" [⟨"n", .float, none⟩] (.compare .eq (.field "id") (.param "n")),
      .beginSession 0]).2

def numericEngine : Engine := (numeric.engine? 0).get (by decide)

def numericSession : Session := (numeric.session? 0).get (by decide)

/-- The filter by a number. -/
def numberFilter : Definition :=
  ⟨"number", "Post", [⟨"n", .float, none⟩],
    ⟨.compare .eq (.field "id") (.param "n"), ⟨[⟨"id", .int⟩], ["n"]⟩⟩, 0⟩

/-- The session after an integer was given to the filter, which then was switched on. -/
def numberGiven (n : Int64) : Session × Session.Log :=
  Session.serve numericEngine.registry (numericSession, [])
    [.select "number", .give "number" "n" (.int n), .enable "number"]

theorem Reachable.explicit_up_to_widening_seven :
    ∃ given bound, (numericEngine.compile "Post" "number" (.ofList [("n", .int 7)])).result.1 =
        .ok given ∧
      (numericEngine.compiledFilters (numberGiven 7).1 "Post" .empty).result.1 = .ok [bound] ∧
      ∀ row, bound.holds row = given.holds row := by
  have reachable : numeric.Reachable := (Reachable.create (create_newBlog [])).run _
  have found : numeric.engine? 0 = some numericEngine := (Option.some_get _).symm
  have registered : numberFilter ∈ numericEngine.registry.definitions := List.mem_singleton.2 rfl
  have accepts : numberFilter.Accepts (.ofList [("n", .int 7)]) := by decide
  have binds : numberFilter.Binds (.ofList [("n", .int 7)])
      [.select "number", .give "number" "n" (.int 7), .enable "number"] := by
    refine ⟨?_, by simp [numberFilter], ?_⟩
    · simp only [List.forall_mem_cons]
      exact ⟨.select, .give (p := ⟨"n", .float, none⟩) (List.mem_singleton.2 rfl) rfl, .enable,
        by simp⟩
    · intro p declared v value
      obtain rfl := List.mem_singleton.1 declared
      obtain rfl := Option.some.inj value
      simp [numberFilter]
  have small : numberFilter.Small (.ofList [("n", .int 7)]) := by
    intro p declared _ n value
    obtain rfl := List.mem_singleton.1 declared
    obtain rfl : 7 = n := Value.int.inj (Option.some.inj value)
    decide
  obtain ⟨-, -, given, each⟩ :=
    reachable.explicit_up_to_widening found registered accepts (s := numericSession) rfl binds
      .empty
  obtain ⟨compiled, -, made⟩ := each numericEngine (.refl numericEngine)
  obtain ⟨-, there⟩ := made [.compare .eq (.field "id") (.literal (.float (Value.widen 7)))] rfl
  obtain ⟨bound, listed, -, -, agrees⟩ := there 0 rfl
  obtain rfl := Option.some.inj listed
  exact ⟨given, _, compiled, rfl, agrees small⟩

/-- The row of the number `2 ^ 53`. -/
def largeRow : Row := ⟨"Post", .ofList [("id", .int 9007199254740992)]⟩

/-- **Explicit values and those of a session may differ.**  One above `2 ^ 53` there is an
integer that a session keeps as the float `2 ^ 53`. -/
theorem explicit_not_as_session :
    numeric.Reachable ∧ numeric.engine? 0 = some numericEngine ∧
      numberFilter ∈ numericEngine.registry.definitions ∧
      numberFilter.Accepts (.ofList [("n", .int 9007199254740993)]) ∧
      (numberGiven 9007199254740993).2.map Prod.snd = [.ok (), .ok (), .ok ()] ∧
      ∃ given bound,
        (numericEngine.compile "Post" "number" (.ofList [("n", .int 9007199254740993)])).result.1 =
          .ok given ∧
        (numericEngine.compiledFilters (numberGiven 9007199254740993).1 "Post" .empty).result.1 =
          .ok [bound] ∧
        given.holds largeRow = false ∧ bound.holds largeRow = true := by
  refine ⟨(Reachable.create (create_newBlog [])).run _, (Option.some_get _).symm,
    List.mem_singleton.2 rfl, by decide, rfl,
    .compare .eq (.field "id") (.literal (.int 9007199254740993)),
    .compare .eq (.field "id") (.literal (.float (Value.widen 9007199254740993))), rfl, rfl,
    by decide, ?_⟩
  decide +kernel

end Host

end RowScope
