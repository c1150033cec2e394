import RowScope.Proofs.Registry
import RowScope.Session

/-!
# The types of bound values

A session keeps values by filter name, while parameters are declared by entity type
and name.  `Registry.Fits` says that a value suits a parameter of a filter wherever
the filter declares it, and `Session.Typed` that a session names registered filters
only and that all its values fit.

* Every operation of a session keeps it typed: only `Session.setParameter` brings a
  value in, and definitions of one name agree on the types of what they share.
* Definitions that are registered later agree with the older ones, so a session
  stays typed while its registry grows (`Session.Typed.extends`).
-/

namespace RowScope

/-- A value that a declared type accepts is kept as a value of exactly that type. -/
theorem ScalarType.scalarType_coerce {t : ScalarType} {v : Value} (accepted : t.accepts v = true) :
    (t.coerce v).scalarType = some t := by
  cases t <;> cases v <;> simp_all [ScalarType.accepts, ScalarType.coerce, Value.scalarType]

/-! ## Values that fit -/

/-- Some filter of a name declares a parameter, and all that do declare it with
the type of a value. -/
structure Registry.Fits (r : Registry) (filter parameter : String) (v : Value) : Prop where
  declared : ∃ d ∈ r.named filter, ∃ p ∈ d.parameters, p.name = parameter
  typed : ∀ d ∈ r.named filter, ∀ p ∈ d.parameters, p.name = parameter →
    v.scalarType = some p.type

namespace Registry

variable {r r' : Registry} {ds : List Definition} {d : Definition} {p : Parameter} {v : Value}
  {filter parameter : String}

/-- One declaration decides about all of them. -/
theorem Records.fits_of_declared (records : r.Records ds) (member : d ∈ ds)
    (declared : p ∈ d.parameters) (type : v.scalarType = some p.type) :
    r.Fits d.name p.name v := by
  have named : d ∈ r.named d.name := records.mem_named.2 ⟨member, rfl⟩
  refine ⟨⟨d, named, p, declared, rfl⟩, ?_⟩
  intro d' named' p' declared' same
  obtain ⟨member', name⟩ := records.mem_named.1 named'
  have agreed := records.agree d' member' d member name p' declared' p declared same
  rw [type, agreed]

theorem Records.declared_of_parameter? (records : r.Records ds)
    (found : r.parameter? filter parameter = some p) :
    ∃ d ∈ ds, d.name = filter ∧ p ∈ d.parameters ∧ p.name = parameter := by
  obtain ⟨d, named, declared⟩ := List.exists_of_findSome?_eq_some found
  obtain ⟨member, name⟩ := records.mem_named.1 named
  exact ⟨d, member, name, (records.resolved d member).parameter?_eq_some_iff.1 declared⟩

/-- All declarations of a parameter have one type, which is that of a value that
fits. -/
theorem Records.fits_iff (records : r.Records ds) :
    r.Fits filter parameter v ↔
      (∃ d ∈ r.definitions, d.name = filter ∧ ∃ p ∈ d.parameters, p.name = parameter) ∧
        ∃ type, v.scalarType = some type ∧ ∀ d ∈ r.definitions, d.name = filter →
          ∀ p ∈ d.parameters, p.name = parameter → p.type = type := by
  have named_iff : ∀ d, d ∈ r.named filter ↔ d ∈ r.definitions ∧ d.name = filter := by
    intro d
    rw [records.mem_named, records.mem_definitions]
  constructor
  · rintro ⟨⟨d, named, p, declared, rfl⟩, typed⟩
    obtain ⟨member, name⟩ := (named_iff d).1 named
    have type := typed d named p declared rfl
    refine ⟨⟨d, member, name, p, declared, rfl⟩, p.type, type, ?_⟩
    intro d' member' name' p' declared' same
    have type' := typed d' ((named_iff d').2 ⟨member', name'⟩) p' declared' same
    exact Option.some.inj (type'.symm.trans type)
  · rintro ⟨⟨d, member, name, p, declared, rfl⟩, type, typed, agreed⟩
    refine ⟨⟨d, (named_iff d).2 ⟨member, name⟩, p, declared, rfl⟩, ?_⟩
    intro d' named' p' declared' same
    obtain ⟨member', name'⟩ := (named_iff d').1 named'
    rw [typed, agreed d' member' name' p' declared' same]

theorem Fits.extends (fits : r.Fits filter parameter v) (records : r.Records ds)
    (grown : r.Extends r') : r'.Fits filter parameter v := by
  obtain ⟨d, named, p, declared, rfl⟩ := fits.declared
  obtain ⟨member, rfl⟩ := records.mem_named.1 named
  obtain ⟨more, records'⟩ := grown.records records
  have type := fits.typed d named p declared rfl
  exact records'.fits_of_declared (List.mem_append_left more member) declared type

theorem Extends.contains (grown : r.Extends r') (records : r.Records ds)
    (known : r.contains filter = true) : r'.contains filter = true := by
  obtain ⟨more, records'⟩ := grown.records records
  obtain ⟨d, member, name⟩ := records.contains_iff.1 known
  exact records'.contains_iff.2 ⟨d, List.mem_append_left more member, name⟩

end Registry

/-! ## Typed sessions -/

namespace Session

/-- Every filter that a session has a state of is registered, and every value that
it keeps fits. -/
structure Typed (r : Registry) (s : Session) : Prop where
  known : ∀ filter, s.filters.contains filter = true → r.contains filter = true
  fits : ∀ filter parameter v, s.parameter? filter parameter = some v →
    r.Fits filter parameter v

variable {r r' : Registry} {ds : List Definition} {s : Session} {filter : String}

theorem state_eq_initial (absent : ¬ s.filters.contains filter = true) :
    s.state filter = .initial := by
  rw [Dict.contains, Bool.not_eq_true, Option.isSome_eq_false_iff,
    Option.isNone_iff_eq_none] at absent
  rw [state, absent]
  rfl

theorem contains_of_isEnabled (enabled : s.isEnabled filter = true) :
    s.filters.contains filter = true := by
  by_contra absent
  rw [isEnabled, state_eq_initial absent] at enabled
  cases enabled

theorem contains_of_parameter? {parameter : String} {v : Value}
    (bound : s.parameter? filter parameter = some v) : s.filters.contains filter = true := by
  by_contra absent
  rw [parameter?, state_eq_initial absent] at bound
  cases bound

/-- The values that count for a filter that is on are those of its state. -/
theorem enabledValues?_eq_some_iff {explicit : Dict Value} :
    s.enabledValues? filter = some explicit ↔
      s.isEnabled filter = true ∧ (s.state filter).values = explicit := by
  rw [enabledValues?, isEnabled]
  cases (s.state filter).enabled with
  | true => simp
  | false => simp

theorem enabledValues?_eq_none_iff :
    s.enabledValues? filter = none ↔ s.isEnabled filter = false := by
  rw [enabledValues?, isEnabled]
  cases (s.state filter).enabled with
  | true => simp
  | false => simp

theorem parameter?_withState (s : Session) (filter other parameter : String)
    (state : FilterState) :
    (s.withState filter state).parameter? other parameter =
      if filter = other then state.values.get? parameter else s.parameter? other parameter := by
  unfold parameter? Session.state withState
  rw [Dict.get?_put]
  split
  · rfl
  · rfl

theorem typed_start (r : Registry) (id home : Nat) : (start id home).result.Typed r where
  known _ held := by cases held
  fits _ _ _ bound := by cases bound

theorem Typed.extends (typed : s.Typed r) (records : r.Records ds) (grown : r.Extends r') :
    s.Typed r' where
  known filter held := grown.contains records (typed.known filter held)
  fits filter parameter v bound := (typed.fits filter parameter v bound).extends records grown

/-- A session stays typed when a registered filter gets values that fit. -/
theorem Typed.withState (typed : s.Typed r) (known : r.contains filter = true)
    {state : FilterState}
    (fits : ∀ parameter v, state.values.get? parameter = some v → r.Fits filter parameter v) :
    (s.withState filter state).Typed r where
  known other held := by
    rw [Session.withState, Dict.contains, Dict.get?_put] at held
    split at held
    · next same => exact same ▸ known
    · exact typed.known other held
  fits other parameter v bound := by
    rw [parameter?_withState] at bound
    split at bound
    · next same => exact same ▸ fits parameter v bound
    · exact typed.fits other parameter v bound

/-- Switching a registered filter on or off keeps its values. -/
theorem Typed.withEnabled (typed : s.Typed r) (known : r.contains filter = true)
    (enabled : Bool) :
    (s.withState filter { s.state filter with enabled := enabled }).Typed r :=
  typed.withState known (typed.fits filter)

/-! ## Operations -/

theorem Typed.select (typed : s.Typed r) {s' : Session}
    (turned : Session.select r s filter = .ok s') : s'.Typed r := by
  rw [Session.select] at turned
  split at turned
  · next known =>
    cases turned
    exact typed.withState known (typed.fits filter)
  · cases turned

theorem Typed.enable (typed : s.Typed r) (filter : String) :
    (Session.enable r s filter).result.2.Typed r := by
  rw [Session.enable]
  split
  · exact typed
  · next s' turned =>
    have kept := typed.select turned
    split
    · exact kept
    · refine kept.withEnabled ?_ true
      rw [Session.select] at turned
      split at turned
      · assumption
      · cases turned

theorem Typed.disable (typed : s.Typed r) (filter : String) :
    (s.disable filter).result.Typed r := by
  rw [Session.disable]
  split
  · next enabled =>
    exact typed.withEnabled (typed.known filter (contains_of_isEnabled enabled)) false
  · exact typed

theorem Typed.setParameter (typed : s.Typed r) (records : r.Records ds)
    (filter parameter : String) (value : Value) :
    (Session.setParameter r s filter parameter value).result.2.Typed r := by
  rw [Session.setParameter]
  split
  · exact typed
  · next p found =>
    obtain ⟨d, member, rfl, declared, rfl⟩ := records.declared_of_parameter? found
    split
    · next accepted =>
      refine typed.withState (records.contains_iff.2 ⟨d, member, rfl⟩) ?_
      intro parameter v bound
      rw [Dict.get?_put] at bound
      split at bound
      · next same =>
        cases bound
        rw [← same]
        exact records.fits_of_declared member declared (ScalarType.scalarType_coerce accepted)
      · exact typed.fits d.name parameter v bound
    · exact typed

/-! ## What an operation leaves -/

/-- An operation leaves a session on its engine, and keeps it typed. -/
structure Turned (r : Registry) (s s' : Session) : Prop where
  home : s'.home = s.home
  typed : ∀ {ds}, r.Records ds → s.Typed r → s'.Typed r

theorem Turned.refl (r : Registry) (s : Session) : Turned r s s := ⟨rfl, fun _ typed => typed⟩

theorem Turned.trans {s₁ s₂ s₃ : Session} (first : Turned r s₁ s₂) (second : Turned r s₂ s₃) :
    Turned r s₁ s₃ :=
  ⟨second.home.trans first.home, fun records typed =>
    second.typed records (first.typed records typed)⟩

theorem home_select {s' : Session} (turned : Session.select r s filter = .ok s') :
    s'.home = s.home := by
  rw [Session.select] at turned
  split at turned
  · cases turned
    rfl
  · cases turned

theorem turned_select {s' : Session} (turned : Session.select r s filter = .ok s') :
    Turned r s s' :=
  ⟨home_select turned, fun _ typed => typed.select turned⟩

theorem turned_enable (r : Registry) (s : Session) (filter : String) :
    Turned r s (Session.enable r s filter).result.2 := by
  refine ⟨?_, fun _ typed => typed.enable filter⟩
  rw [Session.enable]
  split
  · rfl
  · next s' turned =>
    have kept := home_select turned
    split
    · exact kept
    · exact kept

theorem turned_disable (r : Registry) (s : Session) (filter : String) :
    Turned r s (s.disable filter).result := by
  refine ⟨?_, fun _ typed => typed.disable filter⟩
  rw [Session.disable]
  split
  · rfl
  · rfl

theorem turned_setParameter (r : Registry) (s : Session) (filter parameter : String)
    (value : Value) : Turned r s (Session.setParameter r s filter parameter value).result.2 := by
  refine ⟨?_, fun records typed => typed.setParameter records filter parameter value⟩
  rw [Session.setParameter]
  split
  · rfl
  · split
    · rfl
    · rfl

theorem turned_setParameters (r : Registry) (filter : String) (values : List (String × Value))
    (s : Session) : Turned r s (Session.setParameters r filter values s).result.2 := by
  induction values generalizing s with
  | nil => exact .refl r s
  | cons entry rest ih =>
    obtain ⟨parameter, value⟩ := entry
    have first := turned_setParameter r s filter parameter value
    rw [Session.setParameters, Logged.result_bind]
    generalize (Session.setParameter r s filter parameter value).result = outcome at first ⊢
    rcases outcome with ⟨_ | _, s'⟩
    · exact first
    · exact first.trans (ih s')

end Session

end RowScope
