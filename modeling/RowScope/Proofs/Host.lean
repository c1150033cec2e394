import RowScope.Host
import RowScope.Proofs.Engine

/-!
# What holds of every reachable host

* `Host.Effect` lists everything that a command can do to a host (`effect_step`), so
  that an invariant is a case analysis over it and not over the commands.
* `Host.WellFormed`: handles and numbers point at engines, engines are sound, and
  every live session has a home whose registry it is typed by.
* `Host.Reachable`: the hosts that commands lead to.  They are well-formed, so what
  sound engines and typed sessions guarantee holds after any commands.
-/

namespace RowScope.Host

/-! ## Effects of commands -/

/-- What a command can do to a host. -/
inductive Effect (h : Host) : Host → Prop
  | nothing : Effect h h
  | engine {settings : Settings} {made : Logged Engine}
    (created : h.newEngine settings = .ok made) : Effect h (h.addEngine made.result)
  | handle {i : Nat} (known : i ∈ h.handles) : Effect h { h with handles := h.handles ++ [i] }
  | evolved {handle : Nat} {e e' : Engine} (found : h.engine? handle = some e)
      (evolved : e.Evolves e') : Effect h (h.withEngine e')
  | begun {handle : Nat} {e e' : Engine} (found : h.engine? handle = some e)
      (evolved : e.Evolves e') (id : Nat) :
    Effect h { h.withEngine e' with
      sessions := h.sessions ++ [some (Session.start id e.id).result] }
  | turned {session : Nat} {s s' : Session} (live : h.session? session = some s)
      (turned : ∀ e, h.engines[s.home]? = some e → Session.Turned e.registry s s') :
    Effect h (h.withSession session s')
  | ended (session : Nat) : Effect h { h with sessions := h.sessions.set session none }
  | rows (more : List Row) : Effect h { h with rows := h.rows ++ more }

variable {h : Host}

/-! A command that asks for an engine or a session is told if there is none. -/

section Asking

variable {P : Outcome → Prop}

theorem of_onEngine (absent : P (h.answer .absent)) (handle : Nat) {f : Engine → Outcome}
    (each : ∀ e, h.engine? handle = some e → P (f e)) : P (h.onEngine handle f) := by
  rw [onEngine]
  split
  · next e found => exact each e found
  · exact absent

theorem of_onSession (absent : P (h.answer .absent)) (session : Nat) {f : Session → Outcome}
    (each : ∀ s, h.session? session = some s → P (f s)) : P (h.onSession session f) := by
  rw [onSession]
  split
  · next s live => exact each s live
  · exact absent

theorem of_onHome (absent : P (h.answer .absent)) (session : Nat)
    {f : Registry → Session → Outcome}
    (each : ∀ s e, h.session? session = some s → h.engines[s.home]? = some e →
      P (f e.registry s)) :
    P (h.onHome session f) := by
  refine of_onSession absent session fun s live => ?_
  split
  · next e home => exact each s e live home
  · exact absent

variable {handle session : Nat} {e : Engine} {s : Session}

theorem onEngine_of_found (found : h.engine? handle = some e) (f : Engine → Outcome) :
    h.onEngine handle f = f e := by
  rw [onEngine, found]

/-- A query of an engine and a session that are there. -/
theorem query_of_found (found : h.engine? handle = some e) (live : h.session? session = some s)
    (f : Engine → Session → Outcome) :
    (h.onEngine handle fun e => h.onSession session fun s => f e s) = f e s := by
  rw [onEngine_of_found found, onSession, live]

/-- A query of an engine or a session that is not there. -/
theorem query_of_absent (absent : h.engine? handle = none ∨ h.session? session = none)
    (f : Engine → Session → Outcome) :
    (h.onEngine handle fun e => h.onSession session fun s => f e s) = h.answer .absent := by
  rcases absent with missing | missing
  · rw [onEngine, missing]
  · refine of_onEngine (P := fun x => x = h.answer .absent) rfl handle fun e _ => ?_
    rw [onSession, missing]

end Asking

/-! It leaves the host as it was then. -/

section After

variable {P : Host → Prop}

theorem after_onEngine (unchanged : P h) (handle : Nat) {f : Engine → Outcome}
    (each : ∀ e, h.engine? handle = some e → P (f e).result.2) :
    P (h.onEngine handle f).result.2 :=
  of_onEngine (P := fun x => P x.result.2) unchanged handle each

theorem after_onSession (unchanged : P h) (session : Nat) {f : Session → Outcome}
    (each : ∀ s, h.session? session = some s → P (f s).result.2) :
    P (h.onSession session f).result.2 :=
  of_onSession (P := fun x => P x.result.2) unchanged session each

theorem after_onHome (unchanged : P h) (session : Nat) {f : Registry → Session → Outcome}
    (each : ∀ s e, h.session? session = some s → h.engines[s.home]? = some e →
      P (f e.registry s).result.2) :
    P (h.onHome session f).result.2 :=
  of_onHome (P := fun x => P x.result.2) unchanged session each

/-- A query leaves the host with the engine that it was put to, but for the cache. -/
theorem after_query (unchanged : P h) {α : Type} (handle session : Nat) (toReply : α → Reply)
    {f : Engine → Session → Logged (Except FilterError α × Engine)}
    (recached : ∀ (e : Engine) (s : Session), e.Recached (f e s).result.2)
    (each : ∀ e e' : Engine, h.engine? handle = some e → e.Recached e' → P (h.withEngine e')) :
    P (h.onEngine handle fun e => h.onSession session fun s =>
      h.reply toReply (f e s)).result.2 :=
  after_onEngine unchanged handle fun e found => after_onSession unchanged session fun s _ =>
    each e _ found (recached e s)

end After

theorem turned_select (r : Registry) (s : Session) (filter : String) :
    Session.Turned r s (select r s filter).2 := by
  rw [select]
  split
  · next s' turned => exact Session.turned_select turned
  · exact .refl r s

/-- After a filter was turned to, giving it values turns the session further. -/
theorem exists_turned_bindAndRead (session : Nat) {r : Registry} {s : Session}
    (filter : String) (values : List (String × Value)) (read : List String)
    {turned : Except FilterError Unit × Session} (first : Session.Turned r s turned.2) :
    ∃ s', (h.bindAndRead session r filter values read turned).result.2 =
      h.withSession session s' ∧ Session.Turned r s s' := by
  obtain ⟨_ | _, s₁⟩ := turned
  · exact ⟨s₁, rfl, first⟩
  · have further := Session.turned_setParameters r filter values s₁
    rw [bindAndRead, Logged.result_bind]
    generalize (s₁.setParameters r filter values).result = outcome at further ⊢
    rcases outcome with ⟨_ | _, s₂⟩
    · exact ⟨s₂, rfl, first.trans further⟩
    · exact ⟨s₂, rfl, first.trans further⟩

theorem effect_bindAndRead {session : Nat} {s : Session} {e : Engine}
    (live : h.session? session = some s) (home : h.engines[s.home]? = some e)
    (filter : String) (values : List (String × Value)) (read : List String)
    {turned : Except FilterError Unit × Session}
    (first : Session.Turned e.registry s turned.2) :
    h.Effect (h.bindAndRead session e.registry filter values read turned).result.2 := by
  obtain ⟨s', after, further⟩ := exists_turned_bindAndRead (h := h) session filter values read first
  rw [after]
  refine .turned live fun e' home' => ?_
  rw [home] at home'
  cases home'
  exact further

/-- **Every command has one of the effects.** -/
theorem effect_step (h : Host) (c : Command) : h.Effect (h.step c).result.2 := by
  have queried : ∀ {handle : Nat} (e e' : Engine), h.engine? handle = some e →
      e.Recached e' → h.Effect (h.withEngine e') :=
    fun _ _ found recached => .evolved found recached.evolves
  cases c with
  | newEngine settings =>
    rw [step]
    split
    · next made created => exact .engine created
    · exact .nothing
  | cloneEngine engine =>
    rw [step, cloneEngine]
    split
    · next i known => exact .handle (List.mem_of_getElem? known)
    · exact .nothing
  | register engine entity name params template =>
    exact after_onEngine .nothing engine fun e found =>
      .evolved found (e.grown_register entity name params template).evolves
  | convention engine name params template =>
    exact after_onEngine .nothing engine fun e found =>
      .evolved found (e.grown_registerConvention name params template).evolves
  | activate engine =>
    exact after_onEngine .nothing engine fun e found => .evolved found e.grown_activate.evolves
  | beginSession engine =>
    refine after_onEngine .nothing engine fun e found => ?_
    obtain ⟨begun, grown⟩ := e.result_beginSession (h.sessions.length + 1)
    have effect := Effect.begun found grown.evolves (h.sessions.length + 1)
    rw [← begun] at effect
    exact effect
  | endSession session => exact after_onSession .nothing session fun s _ => .ended session
  | enable session filter values read =>
    exact after_onHome .nothing session fun s e live home =>
      effect_bindAndRead live home filter values read (Session.turned_enable e.registry s filter)
  | select session filter values read =>
    exact after_onHome .nothing session fun s e live home =>
      effect_bindAndRead live home filter values read (turned_select e.registry s filter)
  | disable session filter =>
    exact after_onSession .nothing session fun s live =>
      .turned live fun e _ => Session.turned_disable e.registry s filter
  | intercept engine session entity predicate context =>
    exact after_query .nothing engine session _
      (fun e s => e.recached_intercept s entity predicate context) queried
  | compiledFilters engine session entity context rows =>
    exact after_query .nothing engine session _
      (fun e s => e.recached_compiledFilters s entity context) queried
  | compile engine entity name values rows =>
    exact after_onEngine .nothing engine fun e found =>
      .evolved found (e.recached_compile entity name values).evolves
  | execute engine session query context =>
    exact after_query .nothing engine session _
      (fun e s => Engine.recached_execute h.rows e s query context) queried
  | find engine session entity key =>
    exact after_query .nothing engine session _
      (fun e s => Engine.recached_find h.rows e s entity key) queried
  | plan engine session query context failure =>
    exact after_query .nothing engine session _
      (fun e s => Engine.recached_executeWith _ e s query context) queried
  | insert rows => exact .rows rows
  | inspect session filters parameters => exact after_onSession .nothing session fun _ _ => .nothing
  | settings engine | lookup engine _ _ | filtersFor engine _ | named engine _
  | parameter engine _ _ | registry engine | stats engine | entities engine =>
    exact after_onEngine .nothing engine fun _ _ => .nothing

/-! ## Well-formed hosts -/

/-- Handles point at engines, engines know their numbers and are sound, and every
live session is typed by the registry of its home. -/
structure WellFormed (h : Host) : Prop where
  handled : ∀ i ∈ h.handles, i < h.engines.length
  numbered : ∀ (i : Nat) (e : Engine), h.engines[i]? = some e → e.id = i
  sound : ∀ (i : Nat) (e : Engine), h.engines[i]? = some e → e.Sound
  homed : ∀ session s, h.session? session = some s →
    ∃ e, h.engines[s.home]? = some e ∧ s.Typed e.registry

/-- The engine of a handle stands at its number. -/
theorem WellFormed.engines_of_engine? (wellFormed : h.WellFormed) {handle : Nat} {e : Engine}
    (found : h.engine? handle = some e) : h.engines[e.id]? = some e := by
  obtain ⟨i, -, stands⟩ := Option.bind_eq_some_iff.1 found
  rw [wellFormed.numbered i e stands]
  exact stands

theorem getElem?_withEngine {e : Engine} (e' : Engine)
    (stands : h.engines[e'.id]? = some e) (i : Nat) :
    (h.withEngine e').engines[i]? = if e'.id = i then some e' else h.engines[i]? := by
  obtain ⟨bound, -⟩ := List.getElem?_eq_some_iff.1 stands
  rw [withEngine, List.getElem?_set, if_pos bound]

theorem engine?_withEngine (wellFormed : h.WellFormed) {handle : Nat} {e e' : Engine}
    (found : h.engine? handle = some e) (same : e'.id = e.id) :
    (h.withEngine e').engine? handle = some e' := by
  have stands := wellFormed.engines_of_engine? found
  obtain ⟨i, pointed, stands'⟩ := Option.bind_eq_some_iff.1 found
  have number : e.id = i := wellFormed.numbered i e stands'
  change (h.handles[handle]?).bind _ = _
  rw [pointed, Option.bind_some, getElem?_withEngine e' (same ▸ stands),
    if_pos (same.trans number)]

theorem withEngine_self (wellFormed : h.WellFormed) {handle : Nat} {e : Engine}
    (found : h.engine? handle = some e) : h.withEngine e = h := by
  have stands := wellFormed.engines_of_engine? found
  obtain ⟨bound, same⟩ := List.getElem?_eq_some_iff.1 stands
  have kept := List.set_getElem_self bound
  rw [same] at kept
  rw [withEngine, kept]

theorem getElem?_addEngine {new : Engine} {i : Nat} {e : Engine}
    (found : (h.addEngine new).engines[i]? = some e) :
    h.engines[i]? = some e ∨ i = h.engines.length ∧ e = new := by
  rw [addEngine, List.getElem?_append] at found
  split at found
  · exact .inl found
  · next beyond =>
    obtain ⟨bound, same⟩ := List.getElem?_eq_some_iff.1 found
    simp only [List.length_singleton, List.getElem_singleton] at bound same
    exact .inr ⟨by omega, same.symm⟩

theorem session?_append {session : Nat} {s s' : Session} {sessions : List (Option Session)}
    (live : ((sessions ++ [some s'])[session]?).join = some s) :
    (sessions[session]?).join = some s ∨ s = s' := by
  rw [List.getElem?_append] at live
  split at live
  · exact .inl live
  · obtain ⟨found, same⟩ := List.getElem?_eq_some_iff.1 (Option.join_eq_some_iff.1 live)
    simp at same
    exact .inr same.symm

theorem session?_set {session other : Nat} {s : Session} {new : Option Session}
    {sessions : List (Option Session)}
    (live : ((sessions.set session new)[other]?).join = some s) :
    new = some s ∨ (sessions[other]?).join = some s := by
  rw [List.getElem?_set] at live
  split at live
  · split at live
    · exact .inl live
    · cases live
  · exact .inr live

/-- An engine may evolve. -/
theorem WellFormed.withEngine (wellFormed : h.WellFormed) {e e' : Engine}
    (stands : h.engines[e.id]? = some e) (evolved : e.Evolves e') :
    (h.withEngine e').WellFormed := by
  have replaced := getElem?_withEngine e' (evolved.id ▸ stands)
  refine ⟨?_, ?_, ?_, ?_⟩
  · intro i known
    have bound := wellFormed.handled i known
    simpa [Host.withEngine] using bound
  · intro i e₁ found
    rw [replaced] at found
    split at found
    · next same =>
      cases found
      exact same
    · exact wellFormed.numbered i e₁ found
  · intro i e₁ found
    rw [replaced] at found
    split at found
    · cases found
      exact evolved.sound (wellFormed.sound e.id e stands)
    · exact wellFormed.sound i e₁ found
  · intro session s live
    obtain ⟨home, found, typed⟩ := wellFormed.homed session s live
    rw [replaced]
    split
    · next same =>
      rw [← same, evolved.id, stands] at found
      cases found
      obtain ⟨ds, records, -⟩ := wellFormed.sound e.id e stands
      exact ⟨e', rfl, typed.extends records evolved.registry⟩
    · exact ⟨home, found, typed⟩

/-- An engine may come in. -/
theorem WellFormed.newEngine (wellFormed : h.WellFormed) {settings : Settings}
    {made : Logged Engine} (created : h.newEngine settings = .ok made) :
    (h.addEngine made.result).WellFormed := by
  obtain ⟨cache, -, new⟩ := Engine.exists_cache_of_create created
  have number : made.result.id = h.engines.length := congrArg Engine.id new
  refine ⟨?_, ?_, ?_, ?_⟩
  · intro i member
    have bound : i < h.engines.length + 1 := by
      rcases List.mem_append.1 member with old | new
      · exact Nat.lt_succ_of_lt (wellFormed.handled i old)
      · rw [List.mem_singleton.1 new]
        exact Nat.lt_succ_self _
    simpa [Host.addEngine] using bound
  · intro i e found
    rcases getElem?_addEngine found with old | ⟨rfl, rfl⟩
    · exact wellFormed.numbered i e old
    · exact number
  · intro i e found
    rcases getElem?_addEngine found with old | ⟨rfl, rfl⟩
    · exact wellFormed.sound i e old
    · exact Engine.sound_of_create created
  · intro session s live
    obtain ⟨e, found, typed⟩ := wellFormed.homed session s live
    obtain ⟨bound, -⟩ := List.getElem?_eq_some_iff.1 found
    exact ⟨e, (List.getElem?_append_left bound).trans found, typed⟩

/-- A session may begin on an engine. -/
theorem WellFormed.begin (wellFormed : h.WellFormed) {e : Engine}
    (stands : h.engines[e.id]? = some e) (number : Nat) :
    { h with sessions := h.sessions ++ [some (Session.start number e.id).result] }.WellFormed := by
  refine ⟨wellFormed.handled, wellFormed.numbered, wellFormed.sound, ?_⟩
  intro session s live
  rcases session?_append live with old | rfl
  · exact wellFormed.homed session s old
  · exact ⟨e, stands, Session.typed_start e.registry number e.id⟩

/-- A session may turn. -/
theorem WellFormed.withSession (wellFormed : h.WellFormed) {session : Nat} {s s' : Session}
    (live : h.session? session = some s)
    (turned : ∀ e, h.engines[s.home]? = some e → Session.Turned e.registry s s') :
    (h.withSession session s').WellFormed := by
  refine ⟨wellFormed.handled, wellFormed.numbered, wellFormed.sound, ?_⟩
  intro other s₁ live₁
  rcases session?_set live₁ with new | old
  · cases new
    obtain ⟨e, found, typed⟩ := wellFormed.homed session s live
    obtain ⟨ds, records, -⟩ := wellFormed.sound s.home e found
    have kept := turned e found
    exact ⟨e, kept.home ▸ found, kept.typed records typed⟩
  · exact wellFormed.homed other s₁ old

/-- **Every effect keeps a host well-formed.** -/
theorem WellFormed.effect {h' : Host} (wellFormed : h.WellFormed) (effect : h.Effect h') :
    h'.WellFormed := by
  cases effect with
  | nothing => exact wellFormed
  | engine created => exact wellFormed.newEngine created
  | handle known =>
    refine ⟨?_, wellFormed.numbered, wellFormed.sound, wellFormed.homed⟩
    intro i member
    rcases List.mem_append.1 member with old | new
    · exact wellFormed.handled i old
    · rw [List.mem_singleton.1 new]
      exact wellFormed.handled _ known
  | evolved found evolved =>
    exact wellFormed.withEngine (wellFormed.engines_of_engine? found) evolved
  | @begun _ e e' found evolved number =>
    have stands := wellFormed.engines_of_engine? found
    have replaced := getElem?_withEngine e' (evolved.id ▸ stands) e'.id
    rw [if_pos rfl] at replaced
    rw [← evolved.id]
    exact (wellFormed.withEngine stands evolved).begin replaced number
  | turned live turned => exact wellFormed.withSession live turned
  | ended session =>
    refine ⟨wellFormed.handled, wellFormed.numbered, wellFormed.sound, ?_⟩
    intro other s live
    rcases session?_set live with new | old
    · cases new
    · exact wellFormed.homed other s old
  | rows more =>
    exact ⟨wellFormed.handled, wellFormed.numbered, wellFormed.sound, wellFormed.homed⟩

/-! ## Reachable hosts -/

/-- The hosts that any sequence of commands leads to. -/
inductive Reachable : Host → Prop
  | create {sites : Nat → Cache.Site} {catalog : Catalog} {settings : Settings}
      {rows : List Row} {start : Logged Host}
      (created : create sites catalog settings rows = .ok start) : Reachable start.result
  | step {h : Host} (c : Command) : Reachable h → Reachable (h.step c).result.2

theorem Reachable.run (reachable : h.Reachable) (cs : List Command) :
    (h.run cs).2.Reachable := by
  induction cs generalizing h with
  | nil => exact reachable
  | cons c cs ih => exact ih (reachable.step c)

section Create

variable {sites : Nat → Cache.Site} {catalog : Catalog} {settings : Settings} {rows : List Row}
  {start : Logged Host}

/-- A new host is one without engines to which one has come. -/
theorem exists_engine_of_create (created : create sites catalog settings rows = .ok start) :
    ∃ made, newEngine ⟨sites, catalog, rows, [], [], []⟩ settings = .ok made ∧
      start.result = addEngine ⟨sites, catalog, rows, [], [], []⟩ made.result := by
  obtain ⟨made, first, rfl⟩ := map_eq_ok_iff.1 created
  exact ⟨made, first, rfl⟩

theorem wellFormed_vacant : WellFormed ⟨sites, catalog, rows, [], [], []⟩ := by
  refine ⟨?_, ?_, ?_, ?_⟩
  · intro i known
    cases known
  · intro i e found
    cases found
  · intro i e found
    cases found
  · intro session s live
    cases live

theorem wellFormed_create (created : create sites catalog settings rows = .ok start) :
    start.result.WellFormed := by
  obtain ⟨made, first, same⟩ := exists_engine_of_create created
  rw [same]
  exact wellFormed_vacant.newEngine first

end Create

theorem WellFormed.step (wellFormed : h.WellFormed) (c : Command) :
    (h.step c).result.2.WellFormed := wellFormed.effect (h.effect_step c)

theorem Reachable.wellFormed (reachable : h.Reachable) : h.WellFormed := by
  induction reachable with
  | create created => exact wellFormed_create created
  | step c _ ih => exact ih.step c

/-! ## Filtered execution -/

/-- Two posts of the first tenant, one of the second, and a comment. -/
def blogRows : List Row :=
  [⟨"Post", .ofList [("id", .int 1), ("tenant", .int 1)]⟩,
    ⟨"Post", .ofList [("id", .int 2), ("tenant", .int 2)]⟩,
    ⟨"Comment", .ofList [("id", .int 3), ("tenant", .int 1)]⟩,
    ⟨"Post", .ofList [("id", .int 4), ("tenant", .int 1)]⟩]

/-- A new host over posts and comments, with a cache for one predicate. -/
def newBlog (rows : List Row) : Logged Host :=
  (create (fun _ => .small) .blog ⟨1, 1, true⟩ rows).toOption.get rfl

theorem create_newBlog (rows : List Row) :
    create (fun _ => .small) .blog ⟨1, 1, true⟩ rows = .ok (newBlog rows) := rfl

/-- The host without definitions. -/
def emptyBlog : Host := (newBlog blogRows).result

theorem reachable_emptyBlog : emptyBlog.Reachable := .create (create_newBlog blogRows)

/-- A host with the filter by tenant and two sessions that have it on. -/
def blog : Host :=
  (emptyBlog.run
    [.convention 0 "tenant" [⟨"id", .int, some "tenant"⟩]
        (.compare .eq (.field "tenant") (.param "id")),
      .beginSession 0, .beginSession 0,
      .enable 0 "tenant" [("id", .int 1)] [], .enable 1 "tenant" [] [],
      .execute 0 1 (.all "Post") (.ofList [("tenant", .int 2)])]).2

theorem reachable_blog : blog.Reachable := reachable_emptyBlog.run _

/-- The engine of that host. -/
def blogEngine : Engine := (blog.engine? 0).get (by decide)

/-- Its first session. -/
def blogSession : Session := (blog.session? 0).get (by decide)

/-- **Bound values have the declared types.**  After any commands, also when filters
were registered after sessions had begun and bound values, a live session names
registered filters only.  Each of its values is for a parameter that some filter of
the name declares, all that declare it agree on one type, and that is exactly the
type of the value.  So every value that interception hands over to compilation is of
the type that the definition declares. -/
theorem Reachable.bindings_typed (reachable : h.Reachable) {session : Nat} {s : Session}
    (live : h.session? session = some s) :
    ∃ e, h.engines[s.home]? = some e ∧
      (∀ filter, (s.isEnabled filter = true ∨ ∃ parameter v,
        s.parameter? filter parameter = some v) → e.registry.contains filter = true) ∧
      (∀ filter parameter v, s.parameter? filter parameter = some v →
        (∃ d ∈ e.registry.definitions, d.name = filter ∧
          ∃ p ∈ d.parameters, p.name = parameter) ∧
        ∃ type, v.scalarType = some type ∧ ∀ d ∈ e.registry.definitions, d.name = filter →
          ∀ p ∈ d.parameters, p.name = parameter → p.type = type) ∧
      ∀ entity, ∀ d ∈ e.registry.filtersFor entity, ∀ explicit,
        s.enabledValues? d.name = some explicit → ∀ context handed,
          Interception.gather d.name explicit context d.parameters explicit = .ok handed →
            (∀ name v, handed.get? name = some v → e.registry.Fits d.name name v) ∧
            ∀ p ∈ d.parameters, ∀ v, handed.get? p.name = some v → v.scalarType = some p.type := by
  have wellFormed := reachable.wellFormed
  obtain ⟨e, stands, typed⟩ := wellFormed.homed session s live
  obtain ⟨ds, records, -⟩ := wellFormed.sound s.home e stands
  refine ⟨e, stands, ?_, ?_, ?_⟩
  · rintro filter (on | ⟨parameter, v, bound⟩)
    · exact typed.known filter (Session.contains_of_isEnabled on)
    · exact typed.known filter (Session.contains_of_parameter? bound)
  · intro filter parameter v bound
    exact records.fits_iff.1 (typed.fits filter parameter v bound)
  · intro entity d filed explicit given context handed gathered
    obtain ⟨member, -⟩ := records.mem_filtersFor.1 filed
    have fits : ∀ name v, handed.get? name = some v → e.registry.Fits d.name name v :=
      fun name v found => Interception.fits_of_gather records typed member given gathered found
    refine ⟨fits, fun p declared v found => ?_⟩
    exact (fits p.name v found).typed d (records.mem_named.2 ⟨member, rfl⟩) p declared rfl

theorem Reachable.bindings_typed_blog : blog.session? 0 = some blogSession ∧
    blogSession.parameter? "tenant" "id" = some (.int 1) ∧
    ∃ e : Engine, blog.engines[blogSession.home]? = some e ∧
      ∀ d ∈ e.registry.definitions, d.name = "tenant" →
        ∀ p ∈ d.parameters, p.name = "id" → p.type = .int := by
  have live : blog.session? 0 = some blogSession := (Option.some_get _).symm
  have bound : blogSession.parameter? "tenant" "id" = some (.int 1) := by decide
  obtain ⟨e, stands, -, fits, -⟩ := reachable_blog.bindings_typed live
  obtain ⟨-, type, typed, agreed⟩ := fits "tenant" "id" (.int 1) bound
  cases typed
  exact ⟨live, bound, e, stands, agreed⟩

end RowScope.Host
