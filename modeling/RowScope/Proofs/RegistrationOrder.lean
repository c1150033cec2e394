import RowScope.Proofs.Accounting
import RowScope.Proofs.Interchange

/-!
# The order of registration does not matter

Two hosts are `Alike` if they differ in the order of definitions and in caches only.

* `Command.Comparable` says how the results of a command on two such hosts compare: a
  query gives the same up to the order of what is injected, any other command the very
  same.  What shows the definitions themselves or the counters of a cache is not
  compared.
* `parallel_step`: a command leaves alike hosts alike, with comparable results.
* `run_registrations` leads from lists of registrations to registries that are alike.
-/

namespace RowScope

/-! ## Comparing results -/

/-- Two replies to a query are the same, up to the order of the filters that go into
it.  Rows are the same rows in the same order. -/
inductive Reply.Alike : Reply → Reply → Prop
  | same (reply : Reply) : Reply.Alike reply reply
  | predicate {e e' : Option Expr} (reordered : Expr.Reordered e e') :
    Reply.Alike (.predicate e) (.predicate e')
  | filters {ms ms' : List Matched} (perm : ms.Perm ms') :
    Reply.Alike (.filters ms) (.filters ms')
  | plan (q : Query) {filters filters' : List Predicate} (perm : filters.Perm filters') :
    Reply.Alike (.plan { q with filters }) (.plan { q with filters := filters' })

namespace Command

/-- Whether a command registers a definition. -/
def registers : Command → Bool
  | .register _ _ _ _ _ | .convention _ _ _ _ => true
  | _ => false

/-- How the results of a command compare on two hosts that differ in the order of
definitions: queries both fail or give the same up to order, and whatever is not about
definitions or counters themselves has the same result. -/
def Comparable : Command → Except FilterError Reply → Except FilterError Reply → Prop
  | .intercept _ _ _ _ _ | .compiledFilters _ _ _ _ _ | .execute _ _ _ _ | .find _ _ _ _
  | .plan _ _ _ _ _ => Agreeing Reply.Alike
  | .lookup _ _ _ | .filtersFor _ _ | .named _ _ | .parameter _ _ _ | .registry _ | .stats _
  | .register _ _ _ _ _ | .convention _ _ _ _ => fun _ _ => True
  | _ => Eq

end Command

/-- A registration by a handle. -/
def Registration.command (handle : Nat) (x : Registration) : Command :=
  .register handle x.entity x.name x.params x.template

theorem none_or_some_of_rel {α β : Type} {R : α → β → Prop} {x : Option α} {y : Option β}
    (related : Option.Rel R x y) :
    (x = none ∧ y = none) ∨ ∃ a b, x = some a ∧ y = some b ∧ R a b := by
  cases related with
  | none => exact .inl ⟨rfl, rfl⟩
  | some holds => exact .inr ⟨_, _, rfl, rfl, holds⟩

namespace Host

/-! ## Hosts that are alike -/

/-- Two hosts differ in the order of definitions and in caches only. -/
structure Alike (h k : Host) : Prop where
  sites : k.sites = h.sites
  catalog : k.catalog = h.catalog
  rows : k.rows = h.rows
  handles : k.handles = h.handles
  sessions : k.sessions = h.sessions
  count : k.engines.length = h.engines.length
  engines : ∀ i : Nat, Option.Rel Engine.Alike h.engines[i]? k.engines[i]?

/-- Two outcomes whose results are related and that leave hosts that are alike. -/
structure Parallel (R : Except FilterError Reply → Except FilterError Reply → Prop)
    (x y : Outcome) : Prop where
  results : R x.result.1 y.result.1
  hosts : x.result.2.Alike y.result.2

section Congruence

variable {h k : Host} (alike : h.Alike k)
  {R : Except FilterError Reply → Except FilterError Reply → Prop}

include alike

theorem Alike.engine? (handle : Nat) :
    Option.Rel Engine.Alike (h.engine? handle) (k.engine? handle) := by
  rw [Host.engine?, Host.engine?, alike.handles]
  cases h.handles[handle]? with
  | none => exact .none
  | some i => exact alike.engines i

theorem Alike.withEngine {e e' : Engine} (engines : e.Alike e') :
    (h.withEngine e).Alike (k.withEngine e') := by
  refine ⟨alike.sites, alike.catalog, alike.rows, alike.handles, alike.sessions, ?_, fun i => ?_⟩
  · rw [Host.withEngine, Host.withEngine, List.length_set, List.length_set, alike.count]
  · rw [Host.withEngine, Host.withEngine, List.getElem?_set, List.getElem?_set, engines.id,
      alike.count]
    split
    · split
      · exact .some engines
      · exact .none
    · exact alike.engines i

/-- The sessions may change together. -/
theorem Alike.withSessions (change : List (Option Session) → List (Option Session)) :
    Alike { h with sessions := change h.sessions } { k with sessions := change k.sessions } :=
  ⟨alike.sites, alike.catalog, alike.rows, alike.handles, congrArg change alike.sessions,
    alike.count, alike.engines⟩

theorem parallel_onEngine (absent : R (.ok .absent) (.ok .absent)) (handle : Nat)
    {f g : Engine → Outcome}
    (each : ∀ e e', h.engine? handle = some e → k.engine? handle = some e' → e.Alike e' →
      Parallel R (f e) (g e')) : Parallel R (h.onEngine handle f) (k.onEngine handle g) := by
  rw [onEngine, onEngine]
  rcases none_or_some_of_rel (alike.engine? handle) with
    ⟨none, none'⟩ | ⟨e, e', found, found', engines⟩
  · rw [none, none']
    exact ⟨absent, alike⟩
  · rw [found, found']
    exact each e e' found found' engines

theorem parallel_onSession (absent : R (.ok .absent) (.ok .absent)) (session : Nat)
    {f g : Session → Outcome} (each : ∀ s, Parallel R (f s) (g s)) :
    Parallel R (h.onSession session f) (k.onSession session g) := by
  rw [onSession, onSession, session?, session?, alike.sessions]
  cases (h.sessions[session]?).join with
  | none => exact ⟨absent, alike⟩
  | some s => exact each s

theorem parallel_onHome (absent : R (.ok .absent) (.ok .absent)) (session : Nat)
    {f g : Registry → Session → Outcome}
    (each : ∀ r r' s, r.Alike r' → Parallel R (f r s) (g r' s)) :
    Parallel R (h.onHome session f) (k.onHome session g) := by
  refine parallel_onSession alike absent session fun s => ?_
  rcases none_or_some_of_rel (alike.engines s.home) with
    ⟨none, none'⟩ | ⟨e, e', found, found', engines⟩
  · rw [none, none']
    exact ⟨absent, alike⟩
  · rw [found, found']
    exact each _ _ s engines.registry

theorem parallel_reply {α : Type} (toReply : α → Reply)
    {x y : Logged (Except FilterError α × Engine)}
    (results : R (x.result.1.map toReply) (y.result.1.map toReply))
    (engines : x.result.2.Alike y.result.2) :
    Parallel R (h.reply toReply x) (k.reply toReply y) :=
  ⟨results, alike.withEngine engines⟩

/-- Replies about engines that are alike and that are left as they are. -/
theorem parallel_answer (handle : Nat) {f g : Engine → Except FilterError Reply}
    (absent : R (.ok .absent) (.ok .absent)) (each : ∀ e e', e.Alike e' → R (f e) (g e')) :
    Parallel R (h.onEngine handle fun e => .quiet (f e, h))
      (k.onEngine handle fun e => .quiet (g e, k)) :=
  parallel_onEngine alike absent handle fun e e' _ _ engines => ⟨each e e' engines, alike⟩

theorem parallel_bindAndRead (session : Nat) {r r' : Registry} (registries : r.Alike r')
    (filter : String) (values : List (String × Value)) (read : List String)
    (turned : Except FilterError Unit × Session) :
    Parallel Eq (h.bindAndRead session r filter values read turned)
      (k.bindAndRead session r' filter values read turned) := by
  have set (s : Session) := alike.withSessions fun sessions => sessions.set session (some s)
  obtain ⟨_ | _, s⟩ := turned
  · exact ⟨rfl, set s⟩
  · rw [bindAndRead, bindAndRead, Session.setParameters_alike registries]
    constructor
    · rw [Logged.result_bind, Logged.result_bind]
      split
      · rfl
      · rfl
    · rw [Logged.result_bind, Logged.result_bind]
      split
      · exact set _
      · exact set _

/-- Queries of engines that are alike. -/
theorem parallel_query (wellFormed : h.WellFormed) (wellFormed' : k.WellFormed) {α : Type}
    {T : α → α → Prop} (handle session : Nat) {toReply : α → Reply}
    {f g : Engine → Session → Logged (Except FilterError α × Engine)}
    (recached : ∀ (e : Engine) (s : Session), e.Recached (f e s).result.2)
    (recached' : ∀ (e : Engine) (s : Session), e.Recached (g e s).result.2)
    (results : ∀ (e e' : Engine) (s : Session), e.Alike e' → e.Sound → e'.Sound →
      Agreeing T (f e s).result.1 (g e' s).result.1)
    (replies : ∀ a b, T a b → Reply.Alike (toReply a) (toReply b)) :
    Parallel (Agreeing Reply.Alike)
      (h.onEngine handle fun e => h.onSession session fun s => h.reply toReply (f e s))
      (k.onEngine handle fun e => k.onSession session fun s => k.reply toReply (g e s)) := by
  have absent : Agreeing Reply.Alike (.ok .absent) (.ok .absent) := .answered (.same _)
  refine parallel_onEngine alike absent handle fun e e' found found' engines => ?_
  refine parallel_onSession alike absent session fun s => ?_
  have sound := wellFormed.sound _ e (wellFormed.engines_of_engine? found)
  have sound' := wellFormed'.sound _ e' (wellFormed'.engines_of_engine? found')
  exact parallel_reply alike toReply ((results e e' s engines sound sound').map replies)
    (engines.recached (recached e s) (recached' e' s))

end Congruence

theorem Alike.newEngine_eq {h k : Host} (alike : h.Alike k) (settings : Settings) :
    k.newEngine settings = h.newEngine settings := by
  rw [newEngine, newEngine, alike.sites, alike.catalog, alike.count]

/-- A new engine is like itself. -/
theorem alike_of_newEngine {h : Host} {settings : Settings} {made : Logged Engine}
    (created : h.newEngine settings = .ok made) : made.result.Alike made.result := by
  obtain ⟨cache, -, new⟩ := Engine.exists_cache_of_create created
  rw [new]
  exact ⟨rfl, rfl, Registry.alike_empty h.catalog⟩

/-- **A command** that registers nothing leaves alike hosts alike, with comparable
results. -/
theorem parallel_step {h k : Host} (wellFormed : h.WellFormed) (wellFormed' : k.WellFormed)
    (alike : h.Alike k) {c : Command} (free : c.registers = false) :
    Parallel c.Comparable (h.step c) (k.step c) := by
  cases c with
  | register => cases free
  | convention => cases free
  | newEngine settings =>
    rw [step, step, alike.newEngine_eq]
    split
    · next made created =>
      refine ⟨rfl, alike.sites, alike.catalog, alike.rows, ?_, alike.sessions, ?_, fun i => ?_⟩
      · change k.handles ++ [k.engines.length] = h.handles ++ [h.engines.length]
        rw [alike.handles, alike.count]
      · change (k.engines ++ [_]).length = (h.engines ++ [_]).length
        rw [List.length_append, List.length_append, alike.count]
      · change Option.Rel _ (h.engines ++ [_])[i]? (k.engines ++ [_])[i]?
        rw [List.getElem?_append, List.getElem?_append, alike.count]
        split
        · exact alike.engines i
        · cases i - h.engines.length with
          | zero => exact .some (alike_of_newEngine created)
          | succ => exact .none
    · exact ⟨rfl, alike⟩
  | cloneEngine engine =>
    rw [step, step, cloneEngine, cloneEngine, alike.handles]
    split
    · refine ⟨?_, alike.sites, alike.catalog, alike.rows, rfl, alike.sessions, alike.count,
        alike.engines⟩
      rfl
    · exact ⟨rfl, alike⟩
  | settings engine =>
    exact parallel_answer alike engine rfl fun e e' engines => by rw [engines.settings]; rfl
  | activate engine =>
    refine parallel_onEngine alike rfl engine fun e e' _ _ engines => ?_
    obtain ⟨answers, after⟩ := engines.activate
    exact ⟨congrArg (fun changed => Except.ok (Reply.activated changed)) answers,
      alike.withEngine after⟩
  | beginSession engine =>
    refine parallel_onEngine alike rfl engine fun e e' _ _ engines => ?_
    obtain ⟨begun, after⟩ := engines.beginSession (h.sessions.length + 1)
    have index : k.sessions.length = h.sessions.length := congrArg List.length alike.sessions
    rw [beginSession, beginSession, index]
    generalize e.beginSession (h.sessions.length + 1) = x at begun after ⊢
    generalize e'.beginSession (h.sessions.length + 1) = y at begun after ⊢
    obtain ⟨⟨s, e₁⟩, _⟩ := x
    obtain ⟨⟨s', e₁'⟩, _⟩ := y
    obtain rfl : s = s' := begun
    constructor
    · change Except.ok (Reply.begun _ _ e₁.registry.active) =
        Except.ok (Reply.begun _ _ e₁'.registry.active)
      rw [after.registry.active]
    · exact (alike.withEngine after).withSessions fun sessions => sessions ++ [some s]
  | endSession session =>
    exact parallel_onSession alike rfl session fun s =>
      ⟨rfl, alike.withSessions fun sessions => sessions.set session none⟩
  | enable session filter values read =>
    rw [step, step]
    refine parallel_onHome (R := Eq) alike rfl session fun r r' s registries => ?_
    rw [Session.enable_alike registries]
    have bound := parallel_bindAndRead alike session registries filter values read
      (s.enable r filter).result
    exact ⟨bound.results, bound.hosts⟩
  | select session filter values read =>
    rw [step, step]
    refine parallel_onHome (R := Eq) alike rfl session fun r r' s registries => ?_
    have selected : select r' s filter = select r s filter := by
      rw [select, select, Session.select_alike registries]
    rw [selected]
    exact parallel_bindAndRead alike session registries filter values read _
  | disable session filter =>
    exact parallel_onSession alike rfl session fun s =>
      ⟨rfl, alike.withSessions fun sessions => sessions.set session _⟩
  | inspect session filters parameters =>
    exact parallel_onSession alike rfl session fun s => ⟨rfl, alike⟩
  | intercept engine session entity predicate context =>
    exact parallel_query alike wellFormed wellFormed' engine session
      (fun e s => e.recached_intercept s entity predicate context)
      (fun e s => e.recached_intercept s entity predicate context)
      (fun e e' s engines sound sound' =>
        engines.agreeing_intercept sound sound' s entity predicate context)
      fun _ _ reordered => .predicate reordered
  | compiledFilters engine session entity context rows =>
    exact parallel_query alike wellFormed wellFormed' engine session
      (fun e s => e.recached_compiledFilters s entity context)
      (fun e s => e.recached_compiledFilters s entity context)
      (fun e e' s engines sound sound' =>
        engines.agreeing_compiledFilters sound sound' s entity context)
      fun _ _ perm => .filters (perm.map _)
  | execute engine session query context =>
    rw [step, step, alike.rows]
    exact parallel_query alike wellFormed wellFormed' engine session
      (fun e s => Engine.recached_execute h.rows e s query context)
      (fun e s => Engine.recached_execute h.rows e s query context)
      (fun e e' s engines sound sound' =>
        engines.agreeing_execute sound sound' h.rows s query context)
      fun rs _ same => same ▸ .same (.rows rs)
  | find engine session entity key =>
    rw [step, step, alike.rows]
    exact parallel_query alike wellFormed wellFormed' engine session
      (fun e s => Engine.recached_find h.rows e s entity key)
      (fun e s => Engine.recached_find h.rows e s entity key)
      (fun e e' s engines sound sound' =>
        engines.agreeing_find sound sound' h.rows s entity key)
      fun r _ same => same ▸ .same (.row r)
  | plan engine session query context failure =>
    refine parallel_query (T := fun q q' => Reply.Alike (.plan q) (.plan q')) alike wellFormed
      wellFormed' engine session
      (fun e s => Engine.recached_executeWith _ e s query context)
      (fun e s => Engine.recached_executeWith _ e s query context)
      (fun e e' s engines sound sound' =>
        engines.agreeing_executeWith sound sound' s query context fun filters filters' perm => ?_)
      fun _ _ planned => planned
    cases failure with
    | none => exact .answered (.plan query perm)
    | some reason => exact .failed _ _
  | compile engine entity name values rows =>
    refine parallel_onEngine alike rfl engine fun e e' found found' engines => ?_
    have sound := wellFormed.sound _ e (wellFormed.engines_of_engine? found)
    have sound' := wellFormed'.sound _ e' (wellFormed'.engines_of_engine? found')
    refine parallel_reply alike _ ?_ (engines.recached (e.recached_compile entity name values)
      (e'.recached_compile entity name values))
    rw [engines.result_compile_eq sound sound']
  | insert rows =>
    have more := congrArg (· ++ rows) alike.rows
    refine ⟨?_, alike.sites, alike.catalog, more, alike.handles, alike.sessions, alike.count,
      alike.engines⟩
    exact congrArg (fun rows => Except.ok (Reply.size rows.length)) more.symm
  | entities engine =>
    exact parallel_answer alike engine rfl fun e e' engines => by
      rw [engines.registry.catalog]
      rfl
  | lookup engine | filtersFor engine | named engine | parameter engine | registry engine
  | stats engine => exact parallel_answer alike engine trivial fun _ _ _ => trivial

/-- A host is alike to itself. -/
theorem alike_refl {h : Host} (wellFormed : h.WellFormed) : h.Alike h := by
  refine ⟨rfl, rfl, rfl, rfl, rfl, rfl, fun i => ?_⟩
  cases stands : h.engines[i]? with
  | none => exact .none
  | some e =>
    obtain ⟨ds, records, -⟩ := wellFormed.sound i e stands
    exact .some ⟨rfl, rfl, rfl, rfl, ds, ds, records, records, .refl _⟩

theorem alike_run {h k : Host} (wellFormed : h.WellFormed) (wellFormed' : k.WellFormed)
    (alike : h.Alike k) {cs : List Command} (free : ∀ c ∈ cs, c.registers = false) :
    (h.run cs).2.Alike (k.run cs).2 := by
  induction cs generalizing h k with
  | nil => exact alike
  | cons c cs ih =>
    obtain ⟨first, rest⟩ := List.forall_mem_cons.1 free
    exact ih (wellFormed.step c) (wellFormed'.step c)
      (parallel_step wellFormed wellFormed' alike first).hosts rest

/-! ## Hosts with registrations -/

/-- Every command of a list succeeds. -/
def Succeeds (h : Host) (cs : List Command) : Prop :=
  ∀ outcome ∈ (h.run cs).1, outcome.result.isOk = true

instance (h : Host) (cs : List Command) : Decidable (h.Succeeds cs) :=
  inferInstanceAs (Decidable (∀ outcome ∈ _, _))

section Registrations

variable {h : Host} {handle : Nat} {e : Engine} {xs ys : List Registration}

/-- To register by a handle is to register with the engine of it. -/
theorem run_registrations (wellFormed : h.WellFormed) (found : h.engine? handle = some e)
    (xs : List Registration) :
    (h.run (xs.map (Registration.command handle))).2 =
        h.withEngine { e with registry := (e.registry.registerAll xs).2 } ∧
      (h.run (xs.map (Registration.command handle))).1.map Logged.result =
        (e.registry.registerAll xs).1.map (Except.map Reply.definition) := by
  induction xs generalizing h e with
  | nil => exact ⟨(withEngine_self wellFormed found).symm, rfl⟩
  | cons x xs ih =>
    let outcome := (e.registry.register x.entity x.name x.params x.template).result
    have stepped : (h.step (x.command handle)).result =
        (outcome.1.map Reply.definition, h.withEngine { e with registry := outcome.2 }) := by
      rw [Registration.command, step, onEngine_of_found found]
      rfl
    have wellFormed' := wellFormed.step (x.command handle)
    rw [stepped] at wellFormed'
    have found' : (h.withEngine { e with registry := outcome.2 }).engine? handle =
        some { e with registry := outcome.2 } := engine?_withEngine wellFormed found rfl
    obtain ⟨last, answers⟩ := ih wellFormed' found'
    constructor
    · change ((h.step (x.command handle)).result.2.run _).2 = _
      rw [stepped]
      refine last.trans ?_
      rw [withEngine, withEngine, withEngine, List.set_set]
      rfl
    · change (h.step (x.command handle)).result.1 ::
        ((h.step (x.command handle)).result.2.run _).1.map Logged.result = _
      rw [stepped]
      exact congrArg (List.cons _) answers

theorem succeeds_iff (wellFormed : h.WellFormed) (found : h.engine? handle = some e) :
    h.Succeeds (xs.map (Registration.command handle)) ↔ e.registry.Accepts xs := by
  have answers := (run_registrations wellFormed found xs).2
  have succeeds : h.Succeeds (xs.map (Registration.command handle)) ↔
      ∀ result ∈ (h.run (xs.map (Registration.command handle))).1.map Logged.result,
        result.isOk = true := by
    rw [List.forall_mem_map]
    exact Iff.rfl
  rw [succeeds, answers, List.forall_mem_map, Registry.Accepts]
  refine forall₂_congr fun answer _ => ?_
  cases answer with
  | error e => simp [Except.map, Except.isOk, Except.toBool]
  | ok d => simp [Except.map, Except.isOk, Except.toBool]

/-- Registrations in another order lead to registries that are alike. -/
theorem alike_registrations (wellFormed : h.WellFormed) (found : h.engine? handle = some e)
    (inactive : e.registry.active = false) (perm : ys.Perm xs)
    (accepts : e.registry.Accepts xs) :
    e.registry.Accepts ys ∧
      (h.run (xs.map (Registration.command handle))).2.Alike
        (h.run (ys.map (Registration.command handle))).2 := by
  obtain ⟨ds, records, -⟩ := wellFormed.sound _ e (wellFormed.engines_of_engine? found)
  have accepts' := records.accepts_of_perm inactive perm accepts
  obtain ⟨more, recorded, made, catalog, idle⟩ := records.registerAll accepts inactive
  obtain ⟨more', recorded', made', catalog', idle'⟩ := records.registerAll accepts' inactive
  have registries : (e.registry.registerAll xs).2.Alike (e.registry.registerAll ys).2 := by
    refine ⟨catalog'.trans catalog.symm, idle'.trans idle.symm, _, _, recorded, recorded', ?_⟩
    rw [List.map_append, List.map_append, made, made']
    exact (perm.symm.filterMap _).append_left _
  have engines : Engine.Alike { e with registry := (e.registry.registerAll xs).2 }
      { e with registry := (e.registry.registerAll ys).2 } := ⟨rfl, rfl, registries⟩
  rw [(run_registrations wellFormed found xs).1, (run_registrations wellFormed found ys).1]
  exact ⟨accepts', (alike_refl wellFormed).withEngine engines⟩

end Registrations

/-- **The order of registration does not matter.**  If all registrations of a list
succeed with an engine, a fresh one for instance, they do in any other order.  After that
let any commands follow that register nothing more: sessions begin and end, filters are
switched on and off, parameters get values, queries are put.  Whatever the next command
is, its results on the two hosts are comparable: a call on a session has the very same
result, and a query fails on both, or it succeeds on both and gives the same rows in the
same order or the same injected filters up to their order. -/
theorem Reachable.registration_order {h : Host} (reachable : h.Reachable) {handle : Nat}
    {e : Engine} (found : h.engine? handle = some e) {xs ys : List Registration}
    (perm : ys.Perm xs) (succeeds : h.Succeeds (xs.map (Registration.command handle))) :
    h.Succeeds (ys.map (Registration.command handle)) ∧
      ∀ (cs : List Command) (c : Command), (∀ d ∈ c :: cs, d.registers = false) →
        c.Comparable
          (((h.run (xs.map (Registration.command handle))).2.run cs).2.step c).result.1
          (((h.run (ys.map (Registration.command handle))).2.run cs).2.step c).result.1 := by
  have wellFormed := reachable.wellFormed
  have accepts := (succeeds_iff wellFormed found).1 succeeds
  obtain ⟨accepts', alike⟩ : e.registry.Accepts ys ∧
      (h.run (xs.map (Registration.command handle))).2.Alike
        (h.run (ys.map (Registration.command handle))).2 := by
    cases active : e.registry.active with
    | false => exact alike_registrations wellFormed found active perm accepts
    | true =>
      -- an active registry admits no registration at all
      cases xs with
      | nil =>
        obtain rfl := List.perm_nil.1 perm
        exact ⟨accepts, alike_refl wellFormed⟩
      | cons x xs =>
        obtain ⟨d, examined, -⟩ := Registry.accepts_cons_iff.1 accepts
        rw [(Registry.of_examine examined).1] at active
        cases active
  refine ⟨(succeeds_iff wellFormed found).2 accepts', fun cs c free => ?_⟩
  obtain ⟨next, before⟩ := List.forall_mem_cons.1 free
  have first := reachable.run (xs.map (Registration.command handle))
  have second := reachable.run (ys.map (Registration.command handle))
  have after := alike_run first.wellFormed second.wellFormed alike before
  exact (parallel_step (first.run cs).wellFormed (second.run cs).wellFormed after next).results

/-! A session has on two filters that were registered in either order. -/

/-- The posts of a tenant and the ones from some number on. -/
def blogFilters : List Registration :=
  [⟨"Post", "tenant", [⟨"id", .int, some "tenant"⟩],
      .compare .eq (.field "tenant") (.param "id")⟩,
    ⟨"Post", "recent", [⟨"id", .int, none⟩], .compare .gt (.field "id") (.param "id")⟩]

/-- A session that has both on. -/
def bothOn : List Command :=
  [.beginSession 0, .enable 0 "tenant" [("id", .int 1)] [], .enable 0 "recent" [("id", .int 2)] []]

theorem Reachable.registration_order_blog :
    emptyBlog.Succeeds (blogFilters.reverse.map (Registration.command 0)) ∧
      Agreeing Reply.Alike
        (((emptyBlog.run (blogFilters.map (Registration.command 0))).2.run bothOn).2.step
          (.intercept 0 0 "Post" none .empty)).result.1
        (((emptyBlog.run (blogFilters.reverse.map (Registration.command 0))).2.run bothOn).2.step
          (.intercept 0 0 "Post" none .empty)).result.1 ∧
      (((emptyBlog.run (blogFilters.map (Registration.command 0))).2.run bothOn).2.step
        (.intercept 0 0 "Post" none .empty)).result.1 =
          .ok (.predicate (some (.conj [.compare .eq (.field "tenant") (.literal (.int 1)),
            .compare .gt (.field "id") (.literal (.int 2))]))) := by
  obtain ⟨e, found⟩ : ∃ e, emptyBlog.engine? 0 = some e := ⟨_, rfl⟩
  obtain ⟨succeeds, comparable⟩ := reachable_emptyBlog.registration_order found
    (List.reverse_perm blogFilters) (by decide)
  exact ⟨succeeds, comparable bothOn (.intercept 0 0 "Post" none .empty) (by decide), rfl⟩

end Host

end RowScope
