import RowScope.Host
import RowScope.Proofs.RegistryIndex
import RowScope.Proofs.Session

/-!
# The state of a session is its history

`Session.History r s log` says how a session came about: which calls it got since it
began and how it answered them (`log`, oldest first), while definitions were registered
and the registry was frozen in between.  What the session shows depends on the log
alone, and how it answers depends on the definitions alone.

* `Outcome` lists all that can come of a call (`outcome_call`): a refusal, which does
  nothing (`call_eq_of_error`), or a change to the state of one filter (`Alters`).
* `isEnabled_call` and `parameter?_call`: what one call does to what can be seen.
* `Remembers`: a filter is on if it was last switched on, and a parameter has the value
  that it was given last, as a value of its declared type.  A call keeps it, and so does
  registration, since later declarations agree with the older ones.
* `History.chain`: a chain of values is the calls up to the first refusal.
* `History.recounts`: all that a session shows and answers, after any history.
-/

namespace RowScope

/-! ## Declared types -/

namespace Registry

/-- Some definition of a filter declares a parameter with a type. -/
def Declares (r : Registry) (filter parameter : String) (type : ScalarType) : Prop :=
  ∃ d ∈ r.definitions, d.name = filter ∧ ∃ p ∈ d.parameters, p.name = parameter ∧ p.type = type

variable {r r' : Registry} {ds : List Definition} {filter parameter : String}
  {type : ScalarType}

/-- The declaration that sessions ask for has the type of every declaration. -/
theorem Records.declares_iff (records : r.Records ds) :
    r.Declares filter parameter type ↔
      ∃ p, r.parameter? filter parameter = some p ∧ p.type = type := by
  constructor
  · rintro ⟨d, member, name, p, declared, rfl, rfl⟩
    have recorded := records.mem_definitions.1 member
    cases found : r.parameter? filter p.name with
    | none =>
      have passed := List.findSome?_eq_none_iff.1 found d (records.mem_named.2 ⟨recorded, name⟩)
      rw [(records.resolved d recorded).parameter?_eq_some_iff.2 ⟨declared, rfl⟩] at passed
      cases passed
    | some q =>
      obtain ⟨d', recorded', name', declared', same⟩ := records.declared_of_parameter? found
      exact ⟨q, rfl, records.agree d' recorded' d recorded (name'.trans name.symm) q declared'
        p declared same⟩
  · rintro ⟨p, found, rfl⟩
    obtain ⟨d, recorded, name, declared, same⟩ := records.declared_of_parameter? found
    exact ⟨d, records.mem_definitions.2 recorded, name, p, declared, same, rfl⟩

theorem Declares.extends (declares : r.Declares filter parameter type) (records : r.Records ds)
    (grown : r.Extends r') : r'.Declares filter parameter type := by
  obtain ⟨d, member, name, declaration⟩ := declares
  obtain ⟨more, records'⟩ := grown.records records
  have kept := List.mem_append_left more (records.mem_definitions.1 member)
  exact ⟨d, records'.mem_definitions.2 kept, name, declaration⟩

end Registry

namespace Session

/-! ## Calls -/

/-- A call on a session.  Values are given through the handle to a filter that was
switched on or turned to. -/
inductive Call
  | enable (filter : String)
  | select (filter : String)
  | disable (filter : String)
  | give (filter parameter : String) (value : Value)

/-- The answer to a call, and the session after it. -/
def call (r : Registry) (s : Session) : Call → Except FilterError Unit × Session
  | .enable filter => (s.enable r filter).result
  | .select filter => Host.select r s filter
  | .disable filter => (.ok (), (s.disable filter).result)
  | .give filter parameter value => (s.setParameter r filter parameter value).result

/-- Calls with their answers. -/
abbrev Log := List (Call × Except FilterError Unit)

/-- Whether an answered call has switched a filter on or off. -/
def switched? (filter : String) : Call × Except FilterError Unit → Option Bool
  | (.enable f, .ok ()) => if f = filter then some true else none
  | (.disable f, _) => if f = filter then some false else none
  | _ => none

/-- The value that an answered call has given to a parameter. -/
def given? (filter parameter : String) : Call × Except FilterError Unit → Option Value
  | (.give f p v, .ok ()) => if f = filter ∧ p = parameter then some v else none
  | _ => none

/-- What the last call tells of those that tell something. -/
def latest? {α : Type} (tell : Call × Except FilterError Unit → Option α) (log : Log) :
    Option α :=
  log.reverse.findSome? tell

theorem latest?_append {α : Type} (tell : Call × Except FilterError Unit → Option α)
    (log : Log) (entry : Call × Except FilterError Unit) :
    latest? tell (log ++ [entry]) = (tell entry).or (latest? tell log) := by
  rw [latest?, List.reverse_append, List.findSome?_append]
  simp [latest?]

variable {r r' : Registry} {ds : List Definition} {s : Session} {log : Log} {filter : String}

/-! ## What one call does -/

/-- `s'` is `s` with a change to the state of one filter. -/
def Alters (s s' : Session) (filter : String) (change : FilterState → FilterState) : Prop :=
  ∀ other, s'.state other = if filter = other then change (s.state other) else s.state other

theorem alters_withState (s : Session) (filter : String) (change : FilterState → FilterState) :
    s.Alters (s.withState filter (change (s.state filter))) filter change := by
  intro other
  rw [state, withState, Dict.get?_put]
  split
  · next same => rw [← same]; rfl
  · rfl

/-- A change may be none. -/
theorem alters_self {change : FilterState → FilterState}
    (unchanged : change (s.state filter) = s.state filter) : s.Alters s filter change := by
  intro other
  split
  · next same => rw [← same, unchanged]
  · rfl

theorem Alters.trans {s₁ s₂ : Session} {change change' : FilterState → FilterState}
    (first : s.Alters s₁ filter change) (second : s₁.Alters s₂ filter change') :
    s.Alters s₂ filter fun state => change' (change state) := by
  intro other
  rw [second other, first other]
  split
  · rfl
  · rfl

theorem Alters.isEnabled_eq {s' : Session} {change : FilterState → FilterState}
    (altered : s.Alters s' filter change) (other : String) :
    s'.isEnabled other =
      if filter = other then (change (s.state other)).enabled else s.isEnabled other := by
  rw [isEnabled, altered other]
  split
  · rfl
  · rfl

theorem Alters.parameter?_eq {s' : Session} {change : FilterState → FilterState}
    (altered : s.Alters s' filter change) (other parameter : String) :
    s'.parameter? other parameter =
      if filter = other then (change (s.state other)).values.get? parameter
      else s.parameter? other parameter := by
  rw [parameter?, altered other]
  split
  · rfl
  · rfl

/-- What can come of a call. -/
inductive Outcome (r : Registry) (s : Session) : Call → Except FilterError Unit × Session → Prop
  | enableUnknown {filter : String} (unknown : ¬ r.contains filter = true) :
    Outcome r s (.enable filter) (.error (.unknownFilter filter), s)
  | enabled {filter : String} {s' : Session} (known : r.contains filter = true)
      (altered : s.Alters s' filter fun state => { state with enabled := true }) :
    Outcome r s (.enable filter) (.ok (), s')
  | selectUnknown {filter : String} (unknown : ¬ r.contains filter = true) :
    Outcome r s (.select filter) (.error (.unknownFilter filter), s)
  | selected {filter : String} {s' : Session} (known : r.contains filter = true)
      (altered : s.Alters s' filter fun state => state) :
    Outcome r s (.select filter) (.ok (), s')
  | disabled {filter : String} {s' : Session}
      (altered : s.Alters s' filter fun state => { state with enabled := false }) :
    Outcome r s (.disable filter) (.ok (), s')
  | undeclared {filter parameter : String} {v : Value}
      (missing : r.parameter? filter parameter = none) :
    Outcome r s (.give filter parameter v) (.error (.unknownParameter filter parameter), s)
  | refused {filter parameter : String} {v : Value} {p : Parameter}
      (found : r.parameter? filter parameter = some p) (refused : ¬ p.type.accepts v = true) :
    Outcome r s (.give filter parameter v)
      (.error (.typeMismatch filter parameter p.type.name v.typeName), s)
  | given {filter parameter : String} {v : Value} {p : Parameter} {s' : Session}
      (found : r.parameter? filter parameter = some p) (accepted : p.type.accepts v = true)
      (altered : s.Alters s' filter fun state =>
        { state with values := state.values.put parameter (p.type.coerce v) }) :
    Outcome r s (.give filter parameter v) (.ok (), s')

/-- **Every call has one of the outcomes.** -/
theorem outcome_call (r : Registry) (s : Session) (c : Call) : Outcome r s c (s.call r c) := by
  cases c with
  | enable filter =>
    rw [call, Session.enable, Session.select]
    by_cases known : r.contains filter = true
    · have turned := s.alters_withState filter fun state => state
      rw [if_pos known]
      generalize s.withState filter (s.state filter) = s₁ at turned ⊢
      dsimp only
      by_cases on : s₁.isEnabled filter = true
      · rw [if_pos on]
        exact .enabled known (turned.trans (alters_self (by rw [← on]; rfl)))
      · rw [if_neg on]
        exact .enabled known (turned.trans
          (s₁.alters_withState filter fun state => { state with enabled := true }))
    · rw [if_neg known]
      exact .enableUnknown known
  | select filter =>
    rw [call, Host.select, Session.select]
    by_cases known : r.contains filter = true
    · rw [if_pos known]
      exact .selected known (s.alters_withState filter fun state => state)
    · rw [if_neg known]
      exact .selectUnknown known
  | disable filter =>
    refine .disabled ?_
    rw [Session.disable]
    by_cases on : s.isEnabled filter = true
    · rw [if_pos on]
      exact s.alters_withState filter fun state => { state with enabled := false }
    · rw [if_neg on]
      rw [isEnabled, Bool.not_eq_true] at on
      exact alters_self (by rw [← on])
  | give filter parameter v =>
    rw [call, Session.setParameter]
    cases found : r.parameter? filter parameter with
    | none => exact .undeclared found
    | some p =>
      dsimp only
      split
      · next accepted =>
        exact .given found accepted (s.alters_withState filter fun state =>
          { state with values := state.values.put parameter (p.type.coerce v) })
      · next refused => exact .refused found refused

/-- A call that fails leaves the session as it was. -/
theorem call_eq_of_error {c : Call} {e : FilterError} (failed : (s.call r c).1 = .error e) :
    (s.call r c).2 = s := by
  have outcome := outcome_call r s c
  generalize s.call r c = after at outcome failed ⊢
  cases outcome with
  | enableUnknown _ | selectUnknown _ | undeclared _ | refused _ _ => rfl
  | enabled _ _ | selected _ _ | disabled _ | given _ _ _ => cases failed

/-- A filter is on after a call if the call has switched it on, or else if it was on. -/
theorem isEnabled_call (r : Registry) (s : Session) (c : Call) (filter : String) :
    (s.call r c).2.isEnabled filter =
      (switched? filter (c, (s.call r c).1)).getD (s.isEnabled filter) := by
  have outcome := outcome_call r s c
  generalize s.call r c = after at outcome ⊢
  cases outcome with
  | enableUnknown _ | selectUnknown _ | undeclared _ | refused _ _ => rfl
  | enabled _ altered | disabled altered =>
    rw [altered.isEnabled_eq, switched?]
    split
    · rfl
    · rfl
  | selected _ altered | given _ _ altered =>
    rw [altered.isEnabled_eq]
    exact ite_self _

/-- A parameter has after a call the value that the call has given to it, or else the one
that it had. -/
theorem parameter?_call (r : Registry) (s : Session) (c : Call) (filter parameter : String) :
    (s.call r c).2.parameter? filter parameter =
      match given? filter parameter (c, (s.call r c).1) with
      | none => s.parameter? filter parameter
      | some v => (r.parameter? filter parameter).map fun p => p.type.coerce v := by
  have outcome := outcome_call r s c
  generalize s.call r c = after at outcome ⊢
  cases outcome with
  | enableUnknown _ | selectUnknown _ | undeclared _ | refused _ _ => rfl
  | enabled _ altered | selected _ altered | disabled altered =>
    rw [altered.parameter?_eq]
    exact ite_self _
  | @given f p v q _ found _ altered =>
    rw [altered.parameter?_eq, Dict.get?_put, given?]
    by_cases sameFilter : f = filter
    · subst sameFilter
      by_cases same : p = parameter
      · subst same
        simp [found]
      · simp [same, parameter?]
    · simp [sameFilter]

/-! ## What a session remembers -/

/-- A filter is on if it was last switched on, and a parameter has the value that it was
given last, as a value of its declared type. -/
structure Remembers (r : Registry) (s : Session) (log : Log) : Prop where
  switched : ∀ filter, s.isEnabled filter = true ↔ latest? (switched? filter) log = some true
  absent : ∀ filter parameter, latest? (given? filter parameter) log = none →
    s.parameter? filter parameter = none
  given : ∀ filter parameter v, latest? (given? filter parameter) log = some v →
    ∃ type, r.Declares filter parameter type ∧
      s.parameter? filter parameter = some (type.coerce v)

theorem remembers_start (r : Registry) (id home : Nat) :
    (start id home).result.Remembers r [] where
  switched filter := by
    constructor
    · intro enabled
      cases enabled
    · intro told
      cases told
  absent _ _ _ := rfl
  given _ _ _ told := by cases told

/-- Later declarations of a parameter have the type of the older ones. -/
theorem Remembers.extends (remembers : s.Remembers r log) (records : r.Records ds)
    (grown : r.Extends r') : s.Remembers r' log where
  switched := remembers.switched
  absent := remembers.absent
  given filter parameter v told := by
    obtain ⟨type, declares, value⟩ := remembers.given filter parameter v told
    exact ⟨type, declares.extends records grown, value⟩

/-- A value is given to a declared parameter. -/
theorem exists_of_given? {c : Call} {parameter : String} {v : Value}
    (given : given? filter parameter (c, (s.call r c).1) = some v) :
    ∃ p, r.parameter? filter parameter = some p := by
  have outcome := outcome_call r s c
  generalize s.call r c = after at outcome given
  cases outcome with
  | given found _ _ =>
    rw [given?] at given
    split at given
    · next same =>
      obtain ⟨rfl, rfl⟩ := same
      exact ⟨_, found⟩
    · cases given
  | _ => cases given

theorem Remembers.call (remembers : s.Remembers r log) (records : r.Records ds) (c : Call) :
    (s.call r c).2.Remembers r (log ++ [(c, (s.call r c).1)]) where
  switched filter := by
    rw [isEnabled_call, latest?_append]
    cases switched? filter (c, (s.call r c).1) with
    | none => exact remembers.switched filter
    | some enabled => simp
  absent filter parameter told := by
    rw [latest?_append] at told
    obtain ⟨now, before⟩ := Option.or_eq_none_iff.1 told
    rw [parameter?_call, now]
    exact remembers.absent filter parameter before
  given filter parameter v told := by
    rw [latest?_append] at told
    rw [parameter?_call]
    cases now : given? filter parameter (c, (s.call r c).1) with
    | none =>
      rw [now] at told
      exact remembers.given filter parameter v told
    | some w =>
      rw [now] at told
      obtain rfl : w = v := Option.some.inj told
      obtain ⟨p, found⟩ := exists_of_given? now
      exact ⟨p.type, records.declares_iff.2 ⟨p, found, rfl⟩, by rw [found]; rfl⟩

/-! ## Histories -/

/-- A session after some calls and their answers, with the registry that it asks by then.
The registry has taken definitions and been frozen at any time, or refused to. -/
inductive History : Registry → Session → Log → Prop
  | start {r : Registry} (id home : Nat) :
    r.Reachable → History r (start id home).result []
  | register {r : Registry} {s : Session} {log : Log} (entity name : String)
      (params : List Parameter) (template : Expr) :
    History r s log → History (r.register entity name params template).result.2 s log
  | convention {r : Registry} {s : Session} {log : Log} (name : String)
      (params : List Parameter) (template : Expr) :
    History r s log → History (r.registerConvention name params template).result.2 s log
  | activate {r : Registry} {s : Session} {log : Log} :
    History r s log → History r.activate.result.2 s log
  | call {r : Registry} {s : Session} {log : Log} (c : Call) :
    History r s log → History r (s.call r c).2 (log ++ [(c, (s.call r c).1)])

theorem History.reachable (history : History r s log) : r.Reachable := by
  induction history with
  | start _ _ reachable => exact reachable
  | register entity name params template _ ih => exact .register entity name params template ih
  | convention name params template _ ih => exact .convention name params template ih
  | activate _ ih => exact .activate ih
  | call _ _ ih => exact ih

theorem History.remembers (history : History r s log) : s.Remembers r log := by
  induction history with
  | start id home _ => exact remembers_start _ id home
  | register entity name params template before ih =>
    obtain ⟨ds, records⟩ := before.reachable.exists_records
    exact ih.extends records (Registry.extends_register _ entity name params template)
  | convention name params template before ih =>
    obtain ⟨ds, records⟩ := before.reachable.exists_records
    exact ih.extends records (Registry.extends_registerConvention _ name params template)
  | activate before ih =>
    obtain ⟨ds, records⟩ := before.reachable.exists_records
    exact ih.extends records (Registry.extends_activate _)
  | call c before ih =>
    obtain ⟨ds, records⟩ := before.reachable.exists_records
    exact ih.call records c

/-- A session and its log after further calls. -/
def serve (r : Registry) (before : Session × Log) (cs : List Call) : Session × Log :=
  cs.foldl (fun (s, log) c => ((s.call r c).2, log ++ [(c, (s.call r c).1)])) before

theorem History.serve {before : Session × Log} (history : History r before.1 before.2)
    (cs : List Call) :
    History r (Session.serve r before cs).1 (Session.serve r before cs).2 := by
  induction cs generalizing before with
  | nil => exact history
  | cons c cs ih => exact ih (history.call c)

/-! ## Chains of values -/

/-- The calls that give the parameters of a filter values one after the other, all of
them accepted. -/
def accepted (filter : String) (values : List (String × Value)) : Log :=
  values.map fun (parameter, v) => (.give filter parameter v, .ok ())

theorem result_setParameters_cons (r : Registry) (s : Session) (filter parameter : String)
    (v : Value) (rest : List (String × Value)) :
    (s.setParameters r filter ((parameter, v) :: rest)).result =
      match s.call r (.give filter parameter v) with
      | (.error e, s') => (.error e, s')
      | (.ok (), s') => (s'.setParameters r filter rest).result := by
  rw [setParameters, Logged.result_bind, call]
  generalize (s.setParameter r filter parameter v).result = outcome
  rcases outcome with ⟨_ | _, s'⟩
  · rfl
  · rfl

/-- A chain of values is the calls before the first refusal, whose error it answers. -/
theorem History.chain (history : History r s log) (filter : String)
    (values : List (String × Value)) :
    ∃ taken refused, values = taken ++ refused ∧
      History r (s.setParameters r filter values).result.2 (log ++ accepted filter taken) ∧
      match refused with
      | [] => (s.setParameters r filter values).result.1 = .ok ()
      | (parameter, v) :: _ => ∃ e, (s.setParameters r filter values).result.1 = .error e ∧
        ((s.setParameters r filter values).result.2.call r (.give filter parameter v)).1 =
          .error e := by
  induction values generalizing s log with
  | nil => exact ⟨[], [], rfl, (List.append_nil log).symm ▸ history, rfl⟩
  | cons entry rest ih =>
    obtain ⟨parameter, v⟩ := entry
    have after := history.call (.give filter parameter v)
    rw [result_setParameters_cons]
    cases answer : (s.call r (.give filter parameter v)).1 with
    | error e =>
      have same := call_eq_of_error answer
      have outcome : s.call r (.give filter parameter v) = (.error e, s) := Prod.ext answer same
      rw [outcome]
      exact ⟨[], (parameter, v) :: rest, rfl, (List.append_nil log).symm ▸ history, e, rfl, answer⟩
    | ok _ =>
      have outcome : s.call r (.give filter parameter v) =
        (.ok (), (s.call r (.give filter parameter v)).2) := Prod.ext answer rfl
      rw [answer] at after
      rw [outcome]
      obtain ⟨taken, refused, rfl, history', answered⟩ := ih after
      refine ⟨(parameter, v) :: taken, refused, rfl, ?_, answered⟩
      rwa [List.append_assoc] at history'

/-! ## What a session shows and answers -/

theorem enabledFilters_sorted (s : Session) : s.enabledFilters.Pairwise (· < ·) :=
  pairwise_lt_mergeSort (s.filters.nodup.sublist (List.filter_sublist.map Prod.fst))

theorem mem_enabledFilters_iff (s : Session) (filter : String) :
    filter ∈ s.enabledFilters ↔ s.isEnabled filter = true := by
  rw [enabledFilters, mem_mergeSort_iff, List.mem_map]
  constructor
  · rintro ⟨⟨_, state⟩, listed, rfl⟩
    obtain ⟨entry, enabled⟩ := List.mem_filter.1 listed
    rw [isEnabled, Session.state, Dict.mem_entries_iff.1 entry]
    exact enabled
  · intro enabled
    have held := contains_of_isEnabled enabled
    rw [Dict.contains, Option.isSome_iff_exists] at held
    obtain ⟨state, found⟩ := held
    rw [isEnabled, Session.state, found] at enabled
    exact ⟨(filter, state), List.mem_filter.2 ⟨Dict.mem_entries_iff.2 found, enabled⟩, rfl⟩

/-- Switching on and turning to a filter fail if there is no definition of it. -/
theorem call_eq_error_iff_unknown (records : r.Records ds) {c : Call}
    (turns : c = .enable filter ∨ c = .select filter) {e : FilterError} :
    (s.call r c).1 = .error e ↔
      e = .unknownFilter filter ∧ ∀ d ∈ r.definitions, d.name ≠ filter := by
  have answer : (s.call r c).1 =
      if r.contains filter then .ok () else .error (.unknownFilter filter) := by
    have outcome := outcome_call r s c
    generalize s.call r c = after at outcome ⊢
    rcases turns with rfl | rfl
    · cases outcome with
      | enableUnknown unknown => rw [if_neg unknown]
      | enabled known _ => rw [if_pos known]
    · cases outcome with
      | selectUnknown unknown => rw [if_neg unknown]
      | selected known _ => rw [if_pos known]
  have known_iff : r.contains filter = true ↔ ∃ d ∈ r.definitions, d.name = filter := by
    simp only [records.contains_iff, records.mem_definitions]
  rw [answer]
  by_cases known : r.contains filter = true
  · obtain ⟨d, member, name⟩ := known_iff.1 known
    rw [if_pos known]
    constructor
    · intro failed
      cases failed
    · rintro ⟨-, missing⟩
      exact absurd name (missing d member)
  · rw [if_neg known]
    have missing : ∀ d ∈ r.definitions, d.name ≠ filter :=
      fun d member name => known (known_iff.2 ⟨d, member, name⟩)
    constructor
    · intro failed
      cases failed
      exact ⟨rfl, missing⟩
    · rintro ⟨rfl, -⟩
      rfl

/-- A value is refused for a parameter that is not declared, and by its declared type. -/
theorem call_give_eq_error_iff (records : r.Records ds) {parameter : String} {v : Value}
    {e : FilterError} :
    (s.call r (.give filter parameter v)).1 = .error e ↔
      (e = .unknownParameter filter parameter ∧ ∀ type, ¬ r.Declares filter parameter type) ∨
        ∃ type, r.Declares filter parameter type ∧ type.accepts v = false ∧
          e = .typeMismatch filter parameter type.name v.typeName := by
  simp only [records.declares_iff]
  have outcome := outcome_call r s (.give filter parameter v)
  generalize s.call r (.give filter parameter v) = after at outcome ⊢
  cases outcome with
  | undeclared missing => simpa [missing] using eq_comm
  | refused found refused => simpa [found, refused] using eq_comm
  | given found accepted _ => simp [found, accepted]

/-- What a session shows of its history, and how it answers the calls that come next. -/
structure Recounts (r : Registry) (s : Session) (log : Log) : Prop
    extends s.Remembers r log where
  /-- All declarations of a parameter have one type. -/
  declared : ∀ filter parameter type type', r.Declares filter parameter type →
    r.Declares filter parameter type' → type = type'
  sorted : s.enabledFilters.Pairwise (· < ·)
  listed : ∀ filter, filter ∈ s.enabledFilters ↔ s.isEnabled filter = true
  enable : ∀ filter e, (s.call r (.enable filter)).1 = .error e ↔
    e = .unknownFilter filter ∧ ∀ d ∈ r.definitions, d.name ≠ filter
  select : ∀ filter e, (s.call r (.select filter)).1 = .error e ↔
    e = .unknownFilter filter ∧ ∀ d ∈ r.definitions, d.name ≠ filter
  give : ∀ filter parameter v e, (s.call r (.give filter parameter v)).1 = .error e ↔
    (e = .unknownParameter filter parameter ∧ ∀ type, ¬ r.Declares filter parameter type) ∨
      ∃ type, r.Declares filter parameter type ∧ type.accepts v = false ∧
        e = .typeMismatch filter parameter type.name v.typeName
  /-- A call that fails does nothing. -/
  failed : ∀ c e, (s.call r c).1 = .error e → (s.call r c).2 = s
  /-- A chain of values is the calls before the first refusal, whose error it answers. -/
  chain : ∀ filter values, ∃ taken refused, values = taken ++ refused ∧
    History r (s.setParameters r filter values).result.2 (log ++ accepted filter taken) ∧
    match refused with
    | [] => (s.setParameters r filter values).result.1 = .ok ()
    | (parameter, v) :: _ => ∃ e, (s.setParameters r filter values).result.1 = .error e ∧
      ((s.setParameters r filter values).result.2.call r (.give filter parameter v)).1 =
        .error e

/-- **The state of a session is its history.**  After any calls, with definitions coming
in between them, the filters that were switched on last are on, the parameters have the
values that they were given last, whether or not their filters were on, and the next call
is refused exactly if the definitions that there are refuse it. -/
theorem History.recounts (history : History r s log) : s.Recounts r log := by
  obtain ⟨ds, records⟩ := history.reachable.exists_records
  refine
    { toRemembers := history.remembers
      declared := ?_
      sorted := s.enabledFilters_sorted
      listed := s.mem_enabledFilters_iff
      enable := fun filter e => call_eq_error_iff_unknown records (.inl rfl)
      select := fun filter e => call_eq_error_iff_unknown records (.inr rfl)
      give := fun filter parameter v e => call_give_eq_error_iff records
      failed := fun c e => call_eq_of_error
      chain := history.chain }
  intro filter parameter type type' declares declares'
  obtain ⟨p, found, rfl⟩ := records.declares_iff.1 declares
  obtain ⟨p', found', rfl⟩ := records.declares_iff.1 declares'
  rw [found] at found'
  rw [Option.some.inj found']

/-! A session that asks for the filter by tenant before there is one, gives the tenant
while the filter is off, and again after another filter has come in. -/

/-- The filter by tenant and one by a least number. -/
def numbered : Registry :=
  (Registry.blog.register "Post" "from" [⟨"least", .float, none⟩]
    (.compare .ge (.field "id") (.param "least"))).result.2

/-- The session and its log. -/
def counted : Session × Log :=
  let unknown := serve (.empty .blog) ((start 1 0).result, []) [.enable "tenant"]
  let known := serve .blog unknown [.select "tenant", .give "tenant" "id" (.int 1),
    .enable "tenant", .disable "tenant", .give "tenant" "id" (.text "one")]
  serve numbered.activate.result.2 known [.give "tenant" "owner" (.int 1),
    .give "tenant" "id" (.int 2), .enable "from", .give "from" "least" (.int 3)]

theorem History.recounts_counted :
    History numbered.activate.result.2 counted.1 counted.2 ∧
      counted.1.Recounts numbered.activate.result.2 counted.2 ∧
      counted.1.isEnabled "from" = true ∧ counted.1.isEnabled "tenant" = false ∧
      counted.1.parameter? "tenant" "id" = some (.int 2) ∧
      counted.1.parameter? "from" "least" = some (.float (Value.widen 3)) := by
  have history : History numbered.activate.result.2 counted.1 counted.2 :=
    (History.activate (.register _ _ _ _
      ((History.convention _ _ _ ((History.start 1 0 (.empty .blog)).serve _)).serve _))).serve _
  exact ⟨history, history.recounts, by decide, by decide, by decide, rfl⟩

end Session

end RowScope
