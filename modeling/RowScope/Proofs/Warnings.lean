import RowScope.Proofs.Convention
import RowScope.Proofs.Refusal
import RowScope.Proofs.RegistrationOrder

/-!
# What is warned of

A command warns of nothing unless it is a registration or a query that fails.

* `Logged.warnings` are the warnings of a result; those of two stages stand one after the
  other (`Logged.warnings_bind`).  Caches, compilation and sessions give none.
* `Registry.answerWarnings` are those of a registration by its answer: a refusal by a frozen
  registry is warned of once, and no other one (`Registry.warnings_register`,
  `Registry.warnings_registerConvention`).
* `Interception.Reports` says what a query of an own session comes to and warns of: the
  filter that stops it is the one warning, and there is none if no filter does.
  `Engine.Reported` adds the queries of other sessions.
* `Host.Reachable.warnings_exact` puts these together.  A refusal for another reason than
  that the registry is frozen is not warned of (`Host.duplicate_unreported`).
-/

namespace RowScope

/-! ## Warnings -/

namespace Logged

variable {α β : Type}

/-- The warnings among the events of a result. -/
def warnings (x : Logged α) : List Event := x.events.filter fun e => e.level = .warn

@[simp] theorem warnings_pure (a : α) : (pure a : Logged α).warnings = [] := rfl

theorem warnings_bind (x : Logged α) (f : α → Logged β) :
    (x >>= f).warnings = x.warnings ++ (f x.result).warnings := List.filter_append _ _

/-- What is made of a result is not warned of. -/
theorem warnings_bind_pure (x : Logged α) (f : α → β) :
    (x >>= fun a => pure (f a)).warnings = x.warnings := by
  rw [warnings_bind, warnings_pure, List.append_nil]

/-- Nothing is warned of if neither of two stages does. -/
theorem warnings_bind_eq_nil {x : Logged α} {f : α → Logged β} (first : x.warnings = [])
    (second : (f x.result).warnings = []) : (x >>= f).warnings = [] := by
  rw [warnings_bind, first, second, List.append_nil]

end Logged

open Logged

/-! ## Caches and compilation -/

namespace Cache

theorem warnings_get (c : Cache) (key : Key) : (c.get key).warnings = [] := by
  unfold get
  split
  · rfl
  · rfl

theorem warnings_push (c : Cache) (entry : Entry) : (c.push entry).warnings = [] := by
  unfold push
  dsimp only
  split
  · rfl
  · rfl

theorem warnings_insert (c : Cache) (key : Key) (predicate : Predicate) :
    (c.insert key predicate).warnings = [] := by
  unfold insert
  split
  · rfl
  · exact warnings_bind_eq_nil rfl (warnings_bind_eq_nil (warnings_push _ _) rfl)

theorem warnings_getOrInsert (c : Cache) (key : Key)
    {compile : Logged (Except FilterError Predicate)} (calm : compile.warnings = []) :
    (c.getOrInsert key compile).warnings = [] := by
  unfold getOrInsert
  refine warnings_bind_eq_nil (c.warnings_get key) ?_
  split
  · rfl
  · refine warnings_bind_eq_nil calm ?_
    split
    · rfl
    · exact warnings_bind_eq_nil (warnings_insert _ _ _) rfl

end Cache

theorem Definition.warnings_bindAndCompile (d : Definition) (values : Dict Value) :
    (d.bindAndCompile values).warnings = [] := by
  unfold bindAndCompile
  split
  · rfl
  · rfl

theorem Definition.warnings_compile (d : Definition) (values : Dict Value) (cache : Cache) :
    (d.compile values cache).warnings = [] := by
  unfold compile
  split
  · rfl
  · exact cache.warnings_getOrInsert _ (d.warnings_bindAndCompile values)

/-! ## Sessions -/

namespace Session

theorem warnings_enable (r : Registry) (s : Session) (filter : String) :
    (s.enable r filter).warnings = [] := by
  unfold enable
  split
  · rfl
  · split
    · rfl
    · rfl

theorem warnings_disable (s : Session) (filter : String) : (s.disable filter).warnings = [] := by
  unfold disable
  split
  · rfl
  · rfl

theorem warnings_setParameter (r : Registry) (s : Session) (filter parameter : String)
    (value : Value) : (s.setParameter r filter parameter value).warnings = [] := by
  unfold setParameter
  split
  · rfl
  · split
    · rfl
    · rfl

theorem warnings_setParameters (r : Registry) (filter : String)
    (values : List (String × Value)) (s : Session) :
    (s.setParameters r filter values).warnings = [] := by
  induction values generalizing s with
  | nil => rfl
  | cons entry rest ih =>
    obtain ⟨parameter, value⟩ := entry
    refine warnings_bind_eq_nil (s.warnings_setParameter r filter parameter value) ?_
    split
    · rfl
    · exact ih _

end Session

/-! ## Registrations -/

namespace Registry

variable {α β : Type}

/-- The warning that a frozen registry has refused a filter on an entity type. -/
def frozenWarning (entity name : String) : Event :=
  let subject := s!"filter '{name}' for entity '{entity}'"
  ⟨.warn, s!"Rejected registration of {subject}: store is active"⟩

/-- What is warned of by the refusal of a registration: only that of a frozen registry is. -/
def refusalWarnings : FilterError → List Event
  | .storeFrozen entity name => [frozenWarning entity name]
  | _ => []

/-- What is warned of by the answer to a registration. -/
def answerWarnings : Except FilterError α → List Event
  | .ok _ => []
  | .error e => refusalWarnings e

theorem answerWarnings_map (f : α → β) (answer : Except FilterError α) :
    answerWarnings (answer.map f) = answerWarnings answer := by
  cases answer with
  | ok a => rfl
  | error e => rfl

/-- One filter on one entity type. -/
theorem warnings_register (r : Registry) (entity name : String) (params : List Parameter)
    (template : Expr) :
    (r.register entity name params template).warnings =
      answerWarnings (r.register entity name params template).result.1 := by
  cases active : r.active with
  | true =>
    have refused : r.examine entity name params template = .error (.storeFrozen entity name) := by
      rw [examine, active, if_pos rfl]
    rw [register, refused, refusalEvents, active]
    rfl
  | false =>
    have silent : r.refusalEvents entity name = [] := by
      rw [refusalEvents, active]
      rfl
    cases examined : r.examine entity name params template with
    | ok d =>
      rw [register, examined]
      rfl
    | error e =>
      rw [register, examined, silent]
      rw [examine, active, if_neg Bool.false_ne_true] at examined
      split at examined
      · cases examined
        rfl
      · split at examined
        · cases examined
        · cases examined
          rfl

/-- One entity type after the other. -/
theorem warnings_registerEach (name : String) (params : List Parameter) (template : Expr)
    (entities : List String) (r : Registry) :
    (registerEach name params template entities r).warnings =
      answerWarnings (registerEach name params template entities r).result.1 := by
  induction entities generalizing r with
  | nil => rfl
  | cons entity entities ih =>
    have first := r.warnings_register entity name params template
    rw [registerEach, warnings_bind, Logged.result_bind, first]
    generalize (r.register entity name params template).result = outcome
    rcases outcome with ⟨e | d, r'⟩
    · dsimp only
      rw [warnings_pure, List.append_nil, Logged.result_pure]
      rfl
    · exact ih r'

/-- Every entity type that carries the fields. -/
theorem warnings_registerConvention (r : Registry) (name : String) (params : List Parameter)
    (template : Expr) :
    (r.registerConvention name params template).warnings =
      answerWarnings (r.registerConvention name params template).result.1 := by
  have each := warnings_registerEach name params template (r.carriers template) r
  rw [registerConvention]
  split
  · rfl
  · rw [warnings_bind, Logged.result_bind, each]
    generalize (registerEach name params template (r.carriers template) r).result = outcome
    rcases outcome with ⟨e | _, r'⟩
    · dsimp only
      rw [warnings_pure, List.append_nil, Logged.result_pure]
      rfl
    · rfl

theorem warnings_activate (r : Registry) : r.activate.warnings = [] := by
  unfold activate
  split
  · rfl
  · rfl

end Registry

/-! ## Interception -/

namespace Interception

variable {α β : Type} {s : Session} {entity : String} {context : Context}
  {fs ds : List Definition} {d : Definition} {r : Registry} {cache : Cache}
  {answer : Except FilterError α} {warnings : List Event}

/-- What a query with some definitions on its entity type comes to, and what is warned of.
The first filter that stops it is the error and the one warning; if none does, nothing is
warned of, whatever becomes of the query. -/
inductive Reports (s : Session) (entity : String) (context : Context) (fs : List Definition) :
    Except FilterError α → List Event → Prop
  | stopped {d : Definition} {error : FilterError} (first : fs.find? (stops s context) = some d)
      (refuses : Refuses (s.state d.name).values context d error) :
    Reports s entity context fs (.error error) [abortEvent s entity d.name error]
  | passed {answer : Except FilterError α} (none : fs.find? (stops s context) = none) :
    Reports s entity context fs answer []

/-- What continues with the answer to a query reports the same. -/
theorem Reports.bind (reports : Reports s entity context fs answer warnings)
    (f : α → Except FilterError β) : Reports s entity context fs (answer.bind f) warnings := by
  cases reports with
  | stopped first refuses => exact .stopped first refuses
  | passed none => exact .passed none

theorem Reports.map (reports : Reports s entity context fs answer warnings) (f : α → β) :
    Reports s entity context fs (answer.map f) warnings := by
  cases reports with
  | stopped first refuses => exact .stopped first refuses
  | passed none => exact .passed none

/-- A definition that does not stop a query may stand before the others. -/
theorem Reports.cons (reports : Reports s entity context fs answer warnings)
    (passes : stops s context d = false) :
    Reports s entity context (d :: fs) answer warnings := by
  have later : (d :: fs).find? (stops s context) = fs.find? (stops s context) :=
    List.find?_cons_of_neg (by rw [passes]; exact Bool.false_ne_true)
  cases reports with
  | stopped first refuses => exact .stopped (later.trans first) refuses
  | passed none => exact .passed (later.trans none)

theorem warnings_compileOne (d : Definition) (explicit : Dict Value) (context : Context)
    (cache : Cache) : (compileOne d explicit context cache).warnings = [] := by
  unfold compileOne
  split
  · rfl
  · exact d.warnings_compile _ cache

/-- **One filter after the other** through a faithful cache. -/
theorem reports_compileEach (faithful : cache.Faithful ds) (records : r.Records ds)
    (members : ∀ d ∈ fs, d ∈ ds) (s : Session) (entity : String) (context : Context) :
    Reports s entity context fs (compileEach s entity context fs cache).result.1
      (compileEach s entity context fs cache).warnings := by
  induction fs generalizing cache with
  | nil => exact .passed rfl
  | cons d fs ih =>
    obtain ⟨member, members⟩ := List.forall_mem_cons.1 members
    have resolved := records.resolved d member
    rw [compileEach]
    cases given : s.enabledValues? d.name with
    | none =>
      have off := Session.enabledValues?_eq_none_iff.1 given
      exact (ih faithful members).cons (by rw [stops, off]; rfl)
    | some explicit =>
      obtain ⟨on, rfl⟩ := Session.enabledValues?_eq_some_iff.1 given
      obtain ⟨answered, kept⟩ :=
        result_compileOne faithful records member (s.state d.name).values context
      -- one filter is compiled without a warning, so all that is left to say is whether the
      -- query goes on to the others
      dsimp only
      rw [Logged.result_bind, warnings_bind, warnings_compileOne, List.nil_append]
      generalize (compileOne d (s.state d.name).values context cache).result = outcome
        at answered kept ⊢
      rcases outcome with ⟨error | p, cache'⟩
      · have stopped : stops s context d = true := by
          rw [← Bool.not_eq_false, stops_eq_false_iff resolved on, ← answered]
          rintro ⟨p, ⟨⟩⟩
        exact .stopped (List.find?_cons_of_pos stopped)
          ((predicateFor_eq_error_iff resolved).1 answered.symm)
      · have passes := (stops_eq_false_iff resolved on).2 ⟨p, answered.symm⟩
        have rest := (ih kept members).cons passes
        dsimp only
        rw [Logged.result_bind, warnings_bind]
        generalize (compileEach s entity context fs cache').warnings = warnings at rest ⊢
        generalize (compileEach s entity context fs cache').result = outcome at rest ⊢
        rcases outcome with ⟨error | ps, cache''⟩
        · rw [warnings_pure, List.append_nil]
          exact rest
        · rw [warnings_pure, List.append_nil]
          exact rest.map fun ps => (d.name, p) :: ps

/-- That filters are injected is not warned of. -/
theorem filter_injectionEvents (s : Session) (entity : String) (names : List String) :
    (injectionEvents s entity names).filter (fun e => e.level = .warn) = [] := by
  unfold injectionEvents
  split
  · rfl
  · rfl

/-- **All filters on an entity type.** -/
theorem reports_compiledFilters (faithful : cache.Faithful ds) (records : r.Records ds)
    (s : Session) (entity : String) (context : Context) :
    Reports s entity context (r.filtersFor entity)
      (compiledFilters r s entity context cache).result.1
      (compiledFilters r s entity context cache).warnings := by
  have members : ∀ d ∈ r.filtersFor entity, d ∈ ds :=
    fun d filed => (records.mem_filtersFor.1 filed).1
  have each := reports_compileEach faithful records members s entity context
  rw [compiledFilters, Logged.result_bind, warnings_bind]
  generalize (compileEach s entity context (r.filtersFor entity) cache).warnings = warnings
    at each ⊢
  generalize (compileEach s entity context (r.filtersFor entity) cache).result = outcome
    at each ⊢
  rcases outcome with ⟨error | ps, cache'⟩
  · dsimp only
    rw [warnings_pure, List.append_nil, Logged.result_pure]
    exact each.map fun ps => ps.map Prod.snd
  · rw [Logged.warnings, filter_injectionEvents, List.append_nil]
    exact each.map fun ps => ps.map Prod.snd

end Interception

/-! ## Engines -/

namespace Engine

variable {α β : Type} {e : Engine} {s : Session} {entity : String} {context : Context}

/-- What comes of a query on an engine, and what is warned of: what its registry has to say
for one of its own sessions, and an error without a warning for another one. -/
structure Reported (e : Engine) (s : Session) (entity : String) (context : Context)
    (answer : Except FilterError α) (warnings : List Event) : Prop where
  own : s.home = e.id →
    Interception.Reports s entity context (e.registry.filtersFor entity) answer warnings
  foreign : s.home ≠ e.id → warnings = [] ∧ ∃ error, answer = .error error

theorem Reported.bind {answer : Except FilterError α} {warnings : List Event}
    (reported : e.Reported s entity context answer warnings) (f : α → Except FilterError β) :
    e.Reported s entity context (answer.bind f) warnings where
  own home := (reported.own home).bind f
  foreign apart := by
    obtain ⟨silent, error, rfl⟩ := reported.foreign apart
    exact ⟨silent, error, rfl⟩

theorem Reported.map {answer : Except FilterError α} {warnings : List Event}
    (reported : e.Reported s entity context answer warnings) (f : α → β) :
    e.Reported s entity context (answer.map f) warnings where
  own home := (reported.own home).map f
  foreign apart := by
    obtain ⟨silent, error, rfl⟩ := reported.foreign apart
    exact ⟨silent, error, rfl⟩

/-- A query that is answered is not warned of. -/
theorem Reported.warnings_of_ok {a : α} {warnings : List Event}
    (reported : e.Reported s entity context (.ok a) warnings) : warnings = [] := by
  by_cases home : s.home = e.id
  · cases reported.own home with
    | passed none => rfl
  · exact (reported.foreign home).1

theorem Sound.reported_compiledFilters (sound : e.Sound) (s : Session) (entity : String)
    (context : Context) :
    e.Reported s entity context (e.compiledFilters s entity context).result.1
      (e.compiledFilters s entity context).warnings := by
  obtain ⟨ds, records, faithful⟩ := sound
  rw [compiledFilters]
  split
  · next apart => exact ⟨fun own => absurd own apart, fun _ => ⟨rfl, _, rfl⟩⟩
  · next own =>
    rw [warnings_bind_pure, Logged.result_bind]
    exact ⟨fun _ => Interception.reports_compiledFilters faithful records s entity context,
      fun apart => absurd apart own⟩

theorem Sound.reported_intercept (sound : e.Sound) (s : Session) (entity : String)
    (predicate : Option Expr) (context : Context) :
    e.Reported s entity context (e.intercept s entity predicate context).result.1
      (e.intercept s entity predicate context).warnings := by
  rw [intercept, warnings_bind_pure, Logged.result_bind]
  exact (sound.reported_compiledFilters s entity context).map (Query.inject predicate)

theorem Sound.reported_executeWith (sound : e.Sound) (execute : Query → Except FilterError α)
    (s : Session) (q : Query) (context : Context) :
    e.Reported s q.entity context (executeWith execute e s q context).result.1
      (executeWith execute e s q context).warnings := by
  have compiled := sound.reported_compiledFilters s q.entity context
  rw [executeWith, plan, warnings_bind_pure, warnings_bind_pure]
  exact (compiled.map fun filters => { q with filters }).bind execute

theorem Sound.reported_find (sound : e.Sound) (rows : List Row) (s : Session) (entity : String)
    (key : Value) :
    e.Reported s entity .empty (find rows e s entity key).result.1
      (find rows e s entity key).warnings := by
  rw [find]
  cases mapped : e.registry.catalog.schema? entity with
  | none =>
    refine ⟨fun _ => .passed ?_, fun _ => ⟨rfl, _, rfl⟩⟩
    rw [sound.filtersFor_of_unmapped mapped, List.find?_nil]
  | some schema =>
    have executed := sound.reported_executeWith (fun q => q.execute rows) s
      (Query.byKey entity schema.key key) .empty
    dsimp only
    rw [warnings_bind_pure]
    exact executed.map List.head?

theorem warnings_register (e : Engine) (entity name : String) (params : List Parameter)
    (template : Expr) :
    (e.register entity name params template).warnings =
      Registry.answerWarnings (e.register entity name params template).result.1 := by
  rw [register, warnings_bind_pure]
  exact e.registry.warnings_register entity name params template

theorem warnings_registerConvention (e : Engine) (name : String) (params : List Parameter)
    (template : Expr) :
    (e.registerConvention name params template).warnings =
      Registry.answerWarnings (e.registerConvention name params template).result.1 := by
  rw [registerConvention, warnings_bind_pure]
  exact e.registry.warnings_registerConvention name params template

theorem warnings_create {id : Nat} {site : Cache.Site} {catalog : Catalog} {settings : Settings}
    {made : Logged Engine} (created : create id site catalog settings = .ok made) :
    made.warnings = [] := by
  obtain ⟨cache, -, rest⟩ := bind_eq_ok_iff.1 created
  cases rest
  rfl

theorem warnings_activate (e : Engine) : e.activate.warnings = [] :=
  warnings_bind_eq_nil e.registry.warnings_activate rfl

theorem warnings_beginSession (e : Engine) (id : Nat) : (e.beginSession id).warnings = [] := by
  unfold beginSession
  split
  · exact warnings_bind_eq_nil e.warnings_activate rfl
  · rfl

theorem warnings_compile (e : Engine) (entity name : String) (values : Dict Value) :
    (e.compile entity name values).warnings = [] := by
  unfold compile
  split
  · rfl
  · exact warnings_bind_eq_nil (Definition.warnings_compile _ values e.cache) rfl

end Engine

/-! ## Hosts -/

namespace Host

variable {h : Host}

/-! A command that asks for an engine or a session that is not there is not warned of. -/

theorem warnings_onEngine (handle : Nat) {f : Engine → Outcome}
    (calm : ∀ e, (f e).warnings = []) : (h.onEngine handle f).warnings = [] :=
  of_onEngine (P := fun x => x.warnings = []) rfl handle fun e _ => calm e

theorem warnings_onSession (session : Nat) {f : Session → Outcome}
    (calm : ∀ s, (f s).warnings = []) : (h.onSession session f).warnings = [] :=
  of_onSession (P := fun x => x.warnings = []) rfl session fun s _ => calm s

theorem warnings_onHome (session : Nat) {f : Registry → Session → Outcome}
    (calm : ∀ r s, (f r s).warnings = []) : (h.onHome session f).warnings = [] :=
  of_onHome (P := fun x => x.warnings = []) rfl session fun s e _ _ => calm e.registry s

theorem warnings_reply {α : Type} (h : Host) (toReply : α → Reply)
    (x : Logged (Except FilterError α × Engine)) : (h.reply toReply x).warnings = x.warnings := by
  rw [reply, warnings_bind_pure]

theorem warnings_bindAndRead (h : Host) (session : Nat) (r : Registry) (filter : String)
    (values : List (String × Value)) (read : List String)
    (turned : Except FilterError Unit × Session) :
    (h.bindAndRead session r filter values read turned).warnings = [] := by
  unfold bindAndRead
  split
  · rfl
  · refine warnings_bind_eq_nil (Session.warnings_setParameters r filter values _) ?_
    split
    · rfl
    · rfl

/-- What an engine answers is turned into a reply, which the warnings do not depend on. -/
theorem warnings_onEngine_reply {α : Type} (handle : Nat) (toReply : α → Reply)
    {f : Engine → Logged (Except FilterError α × Engine)}
    (warned : ∀ e, (f e).warnings = Registry.answerWarnings (f e).result.1) :
    (h.onEngine handle fun e => h.reply toReply (f e)).warnings =
      Registry.answerWarnings (h.onEngine handle fun e => h.reply toReply (f e)).result.1 := by
  refine of_onEngine (P := fun x => x.warnings = Registry.answerWarnings x.result.1) rfl handle
    fun e _ => ?_
  rw [warnings_reply, warned]
  exact (Registry.answerWarnings_map toReply (f e).result.1).symm

/-- **Registrations.** -/
theorem warnings_step_of_registers {c : Command} (registers : c.registers = true) :
    (h.step c).warnings = Registry.answerWarnings (h.step c).result.1 := by
  cases c with
  | register engine entity name params template =>
    exact warnings_onEngine_reply engine _ fun e => e.warnings_register entity name params template
  | convention engine name params template =>
    exact warnings_onEngine_reply engine _ fun e =>
      e.warnings_registerConvention name params template
  | _ => cases registers

/-- **Queries.** -/
theorem reported_step (wellFormed : h.WellFormed) {c : Command} {q : Inquiry}
    (asked : c.inquiry? = some q) {e : Engine} {s : Session}
    (found : h.engine? q.engine = some e) (live : h.session? q.session = some s) :
    e.Reported s q.entity q.context (h.step c).result.1 (h.step c).warnings := by
  have sound := wellFormed.sound _ e (wellFormed.engines_of_engine? found)
  have replied : ∀ {α : Type} (toReply : α → Reply)
      (f : Engine → Session → Logged (Except FilterError α × Engine)),
      e.Reported s q.entity q.context (f e s).result.1 (f e s).warnings →
        h.step c = (h.onEngine q.engine fun e => h.onSession q.session fun s =>
          h.reply toReply (f e s)) →
        e.Reported s q.entity q.context (h.step c).result.1 (h.step c).warnings := by
    intro α toReply f reported stepped
    rw [stepped, query_of_found found live, warnings_reply]
    exact reported.map toReply
  cases c with
  | intercept engine session entity predicate context =>
    cases asked
    exact replied _ _ (sound.reported_intercept s entity predicate context) rfl
  | compiledFilters engine session entity context rows =>
    cases asked
    exact replied _ _ (sound.reported_compiledFilters s entity context) rfl
  | execute engine session query context =>
    cases asked
    exact replied _ _ (sound.reported_executeWith _ s query context) rfl
  | find engine session entity key =>
    cases asked
    exact replied _ _ (sound.reported_find h.rows s entity key) rfl
  | plan engine session query context failure =>
    cases asked
    exact replied _ _ (sound.reported_executeWith _ s query context) rfl
  | _ => cases asked

/-- A query of an engine or a session that is not there. -/
theorem warnings_step_of_absent {c : Command} {q : Inquiry} (asked : c.inquiry? = some q)
    (absent : h.engine? q.engine = none ∨ h.session? q.session = none) :
    (h.step c).warnings = [] := by
  obtain ⟨α, toReply, f, stepped, -⟩ := exists_intercepted (h := h) asked
  rw [stepped, query_of_absent absent]
  rfl

/-- **All other commands.** -/
theorem warnings_step_of_other {c : Command} (other : c.registers = false)
    (unasked : c.inquiry? = none) : (h.step c).warnings = [] := by
  cases c with
  | register | convention => cases other
  | intercept | compiledFilters | execute | find | plan => cases unasked
  | newEngine settings =>
    rw [step]
    split
    · next made created => exact warnings_bind_eq_nil (Engine.warnings_create created) rfl
    · rfl
  | cloneEngine engine =>
    rw [step, cloneEngine]
    split
    · rfl
    · rfl
  | activate engine =>
    exact warnings_onEngine engine fun e => warnings_bind_eq_nil e.warnings_activate rfl
  | beginSession engine =>
    exact warnings_onEngine engine fun e =>
      warnings_bind_eq_nil (e.warnings_beginSession _) rfl
  | endSession session => exact warnings_onSession session fun _ => rfl
  | enable session filter values read =>
    exact warnings_onHome session fun r s =>
      warnings_bind_eq_nil (s.warnings_enable r filter) (h.warnings_bindAndRead _ r _ _ _ _)
  | select session filter values read =>
    exact warnings_onHome session fun r s => h.warnings_bindAndRead _ r _ _ _ _
  | disable session filter =>
    exact warnings_onSession session fun s => warnings_bind_eq_nil (s.warnings_disable filter) rfl
  | inspect session filters parameters => exact warnings_onSession session fun _ => rfl
  | compile engine entity name values rows =>
    exact warnings_onEngine engine fun e =>
      (h.warnings_reply _ _).trans (e.warnings_compile entity name values)
  | insert rows => rfl
  | settings engine | lookup engine _ _ | filtersFor engine _ | named engine _
  | parameter engine _ _ | registry engine | stats engine | entities engine =>
    exact warnings_onEngine engine fun _ => rfl

/-- **What is warned of**, by any command after any other ones.

A registration is warned of exactly if the frozen registry has refused it, and then once.
A query of an engine's own session is warned of exactly if a filter that is on cannot be
bound, and then once: the warning and the error are those of the first such filter.  One of
another session fails without a warning.  Nothing is warned of by a command that succeeds,
or by one that is neither a registration nor a query. -/
theorem Reachable.warnings_exact (reachable : h.Reachable) (c : Command) :
    (c.registers = true → (h.step c).warnings = Registry.answerWarnings (h.step c).result.1) ∧
      (∀ q, c.inquiry? = some q → ∀ e s, h.engine? q.engine = some e →
        h.session? q.session = some s →
          e.Reported s q.entity q.context (h.step c).result.1 (h.step c).warnings) ∧
      (∀ reply, (h.step c).result.1 = .ok reply → (h.step c).warnings = []) ∧
      (c.registers = false → c.inquiry? = none → (h.step c).warnings = []) := by
  have queries : ∀ q, c.inquiry? = some q → ∀ e s, h.engine? q.engine = some e →
      h.session? q.session = some s →
        e.Reported s q.entity q.context (h.step c).result.1 (h.step c).warnings :=
    fun q asked e s found live => reported_step reachable.wellFormed asked found live
  refine ⟨warnings_step_of_registers, queries, ?_, warnings_step_of_other⟩
  intro reply answered
  cases registers : c.registers with
  | true => rw [warnings_step_of_registers registers, answered, Registry.answerWarnings]
  | false =>
    cases asked : c.inquiry? with
    | none => exact warnings_step_of_other registers asked
    | some q =>
      cases found : h.engine? q.engine with
      | none => exact warnings_step_of_absent asked (.inl found)
      | some e =>
        cases live : h.session? q.session with
        | none => exact warnings_step_of_absent asked (.inr live)
        | some s =>
          have reported := queries q asked e s found live
          rw [answered] at reported
          exact reported.warnings_of_ok

/-! A filter that cannot be bound stops a query, and what is registered after the session has
begun comes too late. -/

theorem Reachable.warnings_exact_ranged :
    (ranged.step (.execute 0 0 (.all "Post") nobody)).warnings =
        [Interception.abortEvent rangedSession "Post" "range"
          (.typeMismatch "range" "id" "Int" "Null")] ∧
      (ranged.step (.register 0 "Post" "late" [] (.conj []))).warnings =
        [Registry.frozenWarning "Post" "late"] := by
  have reachable : ranged.Reachable := reachable_emptyBlog.run _
  have found : ranged.engine? 0 = some rangedEngine := (Option.some_get _).symm
  have live : ranged.session? 0 = some rangedSession := (Option.some_get _).symm
  have own : rangedSession.home = rangedEngine.id := by decide
  obtain ⟨-, queries, -, -⟩ := reachable.warnings_exact (.execute 0 0 (.all "Post") nobody)
  obtain ⟨registrations, -, -, -⟩ :=
    reachable.warnings_exact (.register 0 "Post" "late" [] (.conj []))
  refine ⟨?_, ?_⟩
  · have failed : (ranged.step (.execute 0 0 (.all "Post") nobody)).result.1 =
        .error (.typeMismatch "range" "id" "Int" "Null") := by rfl
    have reports := (queries _ rfl rangedEngine rangedSession found live).own own
    rw [failed] at reports
    generalize (ranged.step (.execute 0 0 (.all "Post") nobody)).warnings = warnings at reports ⊢
    cases reports with
    | stopped first refuses =>
      cases first
      rfl
    | passed none => cases none
  · have failed : (ranged.step (.register 0 "Post" "late" [] (.conj []))).result.1 =
        .error (.storeFrozen "Post" "late") := by rfl
    rw [registrations rfl, failed]
    rfl

/-- A filter without parameters. -/
def tenantFilter : Command :=
  .register 0 "Post" "tenant" [] (.compare .eq (.field "tenant") (.literal (.int 1)))

/-- A host with that filter, and its registry open. -/
def filtered : Host := (emptyBlog.step tenantFilter).result.2

/-- **A refusal may go unreported.**  A filter of a name that its entity type has is refused
without a word, although the registry is open. -/
theorem duplicate_unreported :
    filtered.Reachable ∧ tenantFilter.registers = true ∧
      (filtered.step tenantFilter).result.1 = .error (.duplicateFilter "Post" "tenant") ∧
      (filtered.step tenantFilter).warnings = [] := by
  have reachable : filtered.Reachable := reachable_emptyBlog.run [tenantFilter]
  exact ⟨reachable, rfl, rfl, rfl⟩

end Host

end RowScope
