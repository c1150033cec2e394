import RowScope.Proofs.Host

/-!
# The freeze is final

A registry is active once someone has asked to freeze it: by an activation, or by
beginning a session on an engine whose settings say so.

* `Registry.Freezes` says what an operation can do to a registry, if it asks to freeze
  it or not.  Every operation of an engine has an instance of it, and two in a row make
  one (`Freezes.trans`).
* `Host.activates` says which commands ask to freeze an engine; `freezes_step` is what
  one command does to an engine and `freezes_run` what a list of them does.
* `Host.Frozen` says that no session is live on an engine that its settings leave
  inactive; every reachable host has it.
-/

namespace RowScope

namespace Registry

/-! ## Registries -/

/-- What can come of a registry that is asked or not to freeze: it is active if it was
or if it is asked to, and one that was active is left as it is. -/
structure Freezes (r : Registry) (asked : Bool) (r' : Registry) : Prop where
  active : r'.active = (r.active || asked)
  unchanged : r.active = true → r' = r

variable {r r' r'' : Registry} {asked asked' : Bool}

theorem Freezes.refl (r : Registry) : r.Freezes false r :=
  ⟨(Bool.or_false _).symm, fun _ => rfl⟩

theorem Freezes.trans (first : r.Freezes asked r') (second : r'.Freezes asked' r'') :
    r.Freezes (asked || asked') r'' := by
  constructor
  · rw [second.active, first.active, Bool.or_assoc]
  · intro active
    have same := first.unchanged active
    rw [second.unchanged (same ▸ active), same]

/-- An active registry refuses every definition. -/
theorem register_of_active (active : r.active = true) (entity name : String)
    (params : List Parameter) (template : Expr) :
    (r.register entity name params template).result = (.error (.storeFrozen entity name), r) := by
  have refused : r.examine entity name params template = .error (.storeFrozen entity name) :=
    if_pos active
  rw [register, refused]

/-- It refuses a convention at its first carrier, or because there is none. -/
theorem registerConvention_of_active (active : r.active = true) (name : String)
    (params : List Parameter) (template : Expr) :
    (r.registerConvention name params template).result =
      (.error (match r.carriers template with
        | [] => .invalidTemplate "*" name TemplateFault.noCarrier.reason
        | entity :: _ => .storeFrozen entity name), r) := by
  rw [registerConvention]
  cases r.carriers template with
  | nil => rfl
  | cons entity entities =>
    have refused := register_of_active active entity name params template
    change (registerEach name params template (entity :: entities) r >>= _).result = _
    rw [Logged.result_bind, registerEach, Logged.result_bind, refused]
    rfl

theorem freezes_register (r : Registry) (entity name : String) (params : List Parameter)
    (template : Expr) : r.Freezes false (r.register entity name params template).result.2 := by
  constructor
  · rw [register, Bool.or_false]
    split
    · rfl
    · rfl
  · intro active
    rw [register_of_active active]

theorem freezes_registerEach (name : String) (params : List Parameter) (template : Expr)
    (entities : List String) (r : Registry) :
    r.Freezes false (registerEach name params template entities r).result.2 := by
  induction entities generalizing r with
  | nil => exact .refl r
  | cons entity entities ih =>
    have step := freezes_register r entity name params template
    rw [registerEach, Logged.result_bind]
    generalize (r.register entity name params template).result = outcome at step ⊢
    rcases outcome with ⟨_ | _, r'⟩
    · exact step
    · exact step.trans (ih r')

theorem freezes_registerConvention (r : Registry) (name : String) (params : List Parameter)
    (template : Expr) :
    r.Freezes false (r.registerConvention name params template).result.2 := by
  have each := freezes_registerEach name params template (r.carriers template) r
  rw [registerConvention]
  split
  · exact .refl r
  · rw [Logged.result_bind]
    generalize (registerEach name params template (r.carriers template) r).result = outcome
      at each ⊢
    rcases outcome with ⟨_ | _, r'⟩
    · exact each
    · exact each

theorem freezes_activate (r : Registry) : r.Freezes true r.activate.result.2 := by
  constructor
  · rw [activate, Bool.or_true]
    split
    · next active => exact active
    · rfl
  · intro active
    rw [activate, if_pos active]
    rfl

/-- To activate a registry answers whether it was not active. -/
theorem answer_activate (r : Registry) : r.activate.result.1 = !r.active := by
  rw [activate]
  split
  · next active =>
    rw [active]
    rfl
  · next inactive =>
    rw [Bool.not_eq_true] at inactive
    rw [inactive]
    rfl

end Registry

/-! ## Engines -/

namespace Engine

/-- What can come of an engine that is asked or not to freeze. -/
structure Freezes (e : Engine) (asked : Bool) (e' : Engine) : Prop where
  id : e'.id = e.id
  settings : e'.settings = e.settings
  registry : e.registry.Freezes asked e'.registry

variable {e e' e'' : Engine} {asked asked' : Bool}

theorem Freezes.refl (e : Engine) : e.Freezes false e := ⟨rfl, rfl, .refl _⟩

theorem Freezes.trans (first : e.Freezes asked e') (second : e'.Freezes asked' e'') :
    e.Freezes (asked || asked') e'' where
  id := second.id.trans first.id
  settings := second.settings.trans first.settings
  registry := first.registry.trans second.registry

theorem Recached.freezes (recached : e.Recached e') : e.Freezes false e' := by
  obtain ⟨cache, rfl, -⟩ := recached
  exact ⟨rfl, rfl, .refl _⟩

/-- To begin a session asks to freeze the engine if its settings say so. -/
theorem freezes_beginSession (e : Engine) (id : Nat) :
    e.Freezes e.settings.activateOnFirstSession (e.beginSession id).result.2 := by
  rw [beginSession]
  split
  · next frozen =>
    rw [frozen]
    exact ⟨rfl, rfl, e.registry.freezes_activate⟩
  · next free =>
    rw [Bool.not_eq_true] at free
    rw [free]
    exact .refl e

end Engine

/-! ## Hosts -/

/-- Whether a command looks definitions up by a handle. -/
def Command.looksUp (handle : Nat) : Command → Bool
  | .lookup engine _ _ | .filtersFor engine _ | .named engine _ | .parameter engine _ _
  | .registry engine => engine == handle
  | _ => false

namespace Host

variable {h : Host}

/-- Whether a command asks to freeze an engine. -/
def activates (h : Host) (i : Nat) : Command → Bool
  | .activate handle => (h.engine? handle).any fun e => e.id = i
  | .beginSession handle =>
    (h.engine? handle).any fun e => e.id = i && e.settings.activateOnFirstSession
  | _ => false

/-- Whether some command of a list asks to freeze an engine. -/
def activatedIn (h : Host) (i : Nat) : List Command → Bool
  | [] => false
  | c :: cs => h.activates i c || (h.step c).result.2.activatedIn i cs

/-- No handle is given up. -/
theorem Effect.handles {h' : Host} (effect : h.Effect h') : h.handles <+: h'.handles := by
  cases effect with
  | engine settings => exact List.prefix_append _ _
  | handle known => exact List.prefix_append _ _
  | nothing | evolved | begun | turned | ended | rows => exact List.prefix_refl _

/-- What becomes of a host if some of its engines are asked to freeze: no engine goes,
and a live session was live before or has begun on an engine that is asked to freeze
exactly if its settings say so. -/
structure Passes (h : Host) (asked : Nat → Bool) (h' : Host) : Prop where
  engines : ∀ (i : Nat) (e : Engine), h.engines[i]? = some e →
    ∃ e', h'.engines[i]? = some e' ∧ e.Freezes (asked i) e'
  sessions : ∀ session s', h'.session? session = some s' →
    (∃ s, h.session? session = some s ∧ s'.home = s.home) ∨
      ∃ e, h.engines[s'.home]? = some e ∧ asked s'.home = e.settings.activateOnFirstSession

section Step

variable {handle : Nat} {e e' : Engine} {asked : Bool}

theorem passes_nothing (h : Host) : h.Passes (fun _ => false) h :=
  ⟨fun _ e stands => ⟨e, stands, .refl e⟩, fun _ s live => .inl ⟨s, live, rfl⟩⟩

/-- One engine may change, the others stay as they are. -/
theorem freezes_withEngine (wellFormed : h.WellFormed) (found : h.engine? handle = some e)
    (freezes : e.Freezes asked e') {i : Nat} {e₀ : Engine} (stands₀ : h.engines[i]? = some e₀) :
    ∃ e₁, (h.withEngine e').engines[i]? = some e₁ ∧
      e₀.Freezes (decide (e.id = i) && asked) e₁ := by
  have stands := wellFormed.engines_of_engine? found
  rw [getElem?_withEngine e' (freezes.id ▸ stands), freezes.id]
  split
  · next number =>
    rw [number, stands₀] at stands
    cases stands
    exact ⟨e', rfl, by rwa [decide_eq_true number, Bool.true_and]⟩
  · next other =>
    exact ⟨e₀, stands₀, by rw [decide_eq_false other, Bool.false_and]; exact .refl e₀⟩

theorem passes_withEngine (wellFormed : h.WellFormed) (found : h.engine? handle = some e)
    (freezes : e.Freezes asked e') :
    h.Passes (fun i => decide (e.id = i) && asked) (h.withEngine e') :=
  ⟨fun _ _ stands => freezes_withEngine wellFormed found freezes stands,
    fun _ s live => .inl ⟨s, live, rfl⟩⟩

/-- An engine that is not asked to freeze. -/
theorem passes_changed (wellFormed : h.WellFormed) (found : h.engine? handle = some e)
    (freezes : e.Freezes false e') : h.Passes (fun _ => false) (h.withEngine e') := by
  have passes := passes_withEngine wellFormed found freezes
  simp only [Bool.and_false] at passes
  exact passes

theorem passes_withSession {session : Nat} {s s' : Session}
    (live : h.session? session = some s) (home : s'.home = s.home) :
    h.Passes (fun _ => false) (h.withSession session s') := by
  refine ⟨(passes_nothing h).engines, fun other s₁ live₁ => .inl ?_⟩
  have inner := live₁
  rw [session?, withSession, List.getElem?_set] at inner
  by_cases same : session = other
  · subst same
    rcases session?_set live₁ with new | old
    · cases new
      exact ⟨s, live, home⟩
    · exact ⟨s₁, old, rfl⟩
  · rw [if_neg same] at inner
    exact ⟨s₁, inner, rfl⟩

theorem passes_bindAndRead {session : Nat} {r : Registry} {s : Session}
    (live : h.session? session = some s) (filter : String) (values : List (String × Value))
    (read : List String) {turned : Except FilterError Unit × Session}
    (first : Session.Turned r s turned.2) :
    h.Passes (fun _ => false) (h.bindAndRead session r filter values read turned).result.2 := by
  obtain ⟨s', after, further⟩ :=
    exists_turned_bindAndRead (h := h) session filter values read first
  rw [after]
  exact passes_withSession live further.home

theorem passes_beginSession (wellFormed : h.WellFormed) (found : h.engine? handle = some e) :
    h.Passes (fun i => decide (e.id = i) && e.settings.activateOnFirstSession)
      (h.beginSession e).result.2 := by
  have freezes := e.freezes_beginSession (h.sessions.length + 1)
  obtain ⟨begun, -⟩ := e.result_beginSession (h.sessions.length + 1)
  refine ⟨fun i e₀ stands => freezes_withEngine wellFormed found freezes stands, ?_⟩
  intro session s' live
  rcases session?_append live with old | new
  · exact .inl ⟨s', old, rfl⟩
  · have home : s'.home = e.id := by
      rw [new]
      exact congrArg Session.home begun
    refine .inr ⟨e, ?_, ?_⟩
    · rw [home]
      exact wellFormed.engines_of_engine? found
    · rw [home, decide_eq_true rfl, Bool.true_and]

/-- **What a command does** to engines and sessions. -/
theorem passes_step (wellFormed : h.WellFormed) (c : Command) :
    h.Passes (fun i => h.activates i c) (h.step c).result.2 := by
  have nothing := passes_nothing h
  have queried : ∀ {handle : Nat} (e e' : Engine), h.engine? handle = some e →
      e.Recached e' → h.Passes (fun _ => false) (h.withEngine e') :=
    fun _ _ found recached => passes_changed wellFormed found recached.freezes
  cases c with
  | newEngine settings =>
    rw [step]
    split
    · refine ⟨fun i e stands => ?_, nothing.sessions⟩
      obtain ⟨bound, -⟩ := List.getElem?_eq_some_iff.1 stands
      exact ⟨e, (List.getElem?_append_left bound).trans stands, .refl e⟩
    · exact nothing
  | cloneEngine engine =>
    rw [step, cloneEngine]
    split
    · exact ⟨nothing.engines, nothing.sessions⟩
    · exact nothing
  | register engine entity name params template =>
    exact after_onEngine nothing engine fun e found => passes_changed wellFormed found
      ⟨rfl, rfl, e.registry.freezes_register entity name params template⟩
  | convention engine name params template =>
    exact after_onEngine nothing engine fun e found => passes_changed wellFormed found
      ⟨rfl, rfl, e.registry.freezes_registerConvention name params template⟩
  | activate engine =>
    simp only [activates]
    rw [step, onEngine]
    cases found : h.engine? engine with
    | none => exact nothing
    | some e =>
      have passes := passes_withEngine wellFormed found
        (⟨rfl, rfl, e.registry.freezes_activate⟩ : e.Freezes true e.activate.result.2)
      simp only [Bool.and_true] at passes
      exact passes
  | beginSession engine =>
    simp only [activates]
    rw [step, onEngine]
    cases found : h.engine? engine with
    | none => exact nothing
    | some e => exact passes_beginSession wellFormed found
  | endSession session =>
    refine after_onSession nothing session fun s live => ⟨nothing.engines, ?_⟩
    intro other s' live'
    rcases session?_set live' with new | old
    · cases new
    · exact .inl ⟨s', old, rfl⟩
  | enable session filter values read =>
    exact after_onHome nothing session fun s e live _ =>
      passes_bindAndRead live filter values read (Session.turned_enable e.registry s filter)
  | select session filter values read =>
    exact after_onHome nothing session fun s e live _ =>
      passes_bindAndRead live filter values read (turned_select e.registry s filter)
  | disable session filter =>
    exact after_onSession nothing session fun s live =>
      passes_withSession live (Session.turned_disable default s filter).home
  | intercept engine session entity predicate context =>
    exact after_query nothing engine session _
      (fun e s => e.recached_intercept s entity predicate context) queried
  | compiledFilters engine session entity context rows =>
    exact after_query nothing engine session _
      (fun e s => e.recached_compiledFilters s entity context) queried
  | compile engine entity name values rows =>
    exact after_onEngine nothing engine fun e found =>
      queried _ _ found (e.recached_compile entity name values)
  | execute engine session query context =>
    exact after_query nothing engine session _
      (fun e s => Engine.recached_execute h.rows e s query context) queried
  | find engine session entity key =>
    exact after_query nothing engine session _
      (fun e s => Engine.recached_find h.rows e s entity key) queried
  | plan engine session query context failure =>
    exact after_query nothing engine session _
      (fun e s => Engine.recached_executeWith _ e s query context) queried
  | insert rows => exact ⟨nothing.engines, nothing.sessions⟩
  | inspect session filters parameters => exact after_onSession nothing session fun _ _ => nothing
  | settings engine | lookup engine | filtersFor engine | named engine | parameter engine
  | registry engine | stats engine | entities engine =>
    exact after_onEngine nothing engine fun _ _ => nothing

end Step

/-- **What commands do** to the engine of a handle, one after the other. -/
theorem freezes_run (wellFormed : h.WellFormed) {handle : Nat} {e : Engine}
    (found : h.engine? handle = some e) (cs : List Command) :
    ∃ e', (h.run cs).2.engine? handle = some e' ∧ e.Freezes (h.activatedIn e.id cs) e' := by
  induction cs generalizing h e with
  | nil => exact ⟨e, found, .refl e⟩
  | cons c cs ih =>
    obtain ⟨i, pointed, stands⟩ := Option.bind_eq_some_iff.1 found
    obtain ⟨e₁, stands₁, first⟩ := (passes_step wellFormed c).engines i e stands
    have number : e.id = i := wellFormed.numbered i e stands
    obtain ⟨more, handles⟩ := (h.effect_step c).handles
    have pointed₁ : (h.step c).result.2.handles[handle]? = some i := by
      obtain ⟨bound, -⟩ := List.getElem?_eq_some_iff.1 pointed
      rw [← handles, List.getElem?_append_left bound, pointed]
    have found₁ : (h.step c).result.2.engine? handle = some e₁ := by
      rw [engine?, pointed₁]
      exact stands₁
    obtain ⟨e₂, found₂, rest⟩ := ih (wellFormed.step c) found₁
    rw [first.id] at rest
    rw [← number] at first
    exact ⟨e₂, found₂, first.trans rest⟩

/-! ## Requests to an engine -/

section Request

variable {handle : Nat} {e : Engine}

/-- What is looked up depends on the registry alone. -/
theorem answer_of_looksUp {k : Host} {e' : Engine} (found : h.engine? handle = some e)
    (found' : k.engine? handle = some e') (same : e'.registry = e.registry) {c : Command}
    (reads : c.looksUp handle = true) : (k.step c).result.1 = (h.step c).result.1 := by
  cases c with
  | lookup engine | filtersFor engine | named engine | parameter engine | registry engine =>
    obtain rfl := eq_of_beq reads
    rw [step, step, onEngine_of_found found, onEngine_of_found found', same]
    rfl
  | _ => cases reads

theorem register_refused (wellFormed : h.WellFormed) (found : h.engine? handle = some e)
    (active : e.registry.active = true) (entity name : String) (params : List Parameter)
    (template : Expr) :
    (h.step (.register handle entity name params template)).result =
      (.error (.storeFrozen entity name), h) := by
  have refused := Registry.register_of_active active entity name params template
  rw [step, onEngine_of_found found, reply, Engine.register, Logged.result_bind,
    Logged.result_bind, refused]
  exact congrArg (Prod.mk _) (withEngine_self wellFormed found)

theorem convention_refused (wellFormed : h.WellFormed) (found : h.engine? handle = some e)
    (active : e.registry.active = true) (name : String) (params : List Parameter)
    (template : Expr) :
    ∃ error, (h.step (.convention handle name params template)).result = (.error error, h) := by
  obtain ⟨error, refused⟩ : ∃ error,
      (e.registry.registerConvention name params template).result = (.error error, e.registry) :=
    ⟨_, Registry.registerConvention_of_active active name params template⟩
  refine ⟨error, ?_⟩
  rw [step, onEngine_of_found found, reply, Engine.registerConvention, Logged.result_bind,
    Logged.result_bind, refused]
  exact congrArg (Prod.mk _) (withEngine_self wellFormed found)

theorem answer_activate (found : h.engine? handle = some e) :
    (h.step (.activate handle)).result.1 = .ok (.activated !e.registry.active) := by
  rw [← e.registry.answer_activate, step, onEngine_of_found found]
  rfl

/-- A session begins on an active engine if the settings say so. -/
theorem answer_beginSession (found : h.engine? handle = some e)
    (freezes : e.settings.activateOnFirstSession = true) :
    ∃ session id, (h.step (.beginSession handle)).result.1 = .ok (.begun session id true) := by
  have active := (e.freezes_beginSession (h.sessions.length + 1)).registry.active
  rw [freezes, Bool.or_true] at active
  refine ⟨h.sessions.length, (e.beginSession (h.sessions.length + 1)).result.1.id, ?_⟩
  rw [← active, step, onEngine_of_found found]
  rfl

end Request

/-! ## Live sessions -/

/-- An engine with a live session is active if its settings say so. -/
def Guarded (h : Host) : Prop :=
  ∀ session s e, h.session? session = some s → h.engines[s.home]? = some e →
    e.settings.activateOnFirstSession = true → e.registry.active = true

theorem Guarded.passes {h' : Host} {asked : Nat → Bool} (guarded : h.Guarded)
    (wellFormed : h.WellFormed) (passes : h.Passes asked h') : h'.Guarded := by
  intro session s' e' live' stands' freezes
  rcases passes.sessions session s' live' with ⟨s, live, home⟩ | ⟨e, stands, request⟩
  · obtain ⟨e, stands, -⟩ := wellFormed.homed session s live
    obtain ⟨e₁, stands₁, kept⟩ := passes.engines s.home e stands
    rw [← home, stands'] at stands₁
    cases stands₁
    rw [kept.settings] at freezes
    rw [kept.registry.active, guarded session s e live stands freezes, Bool.true_or]
  · obtain ⟨e₁, stands₁, kept⟩ := passes.engines s'.home e stands
    rw [stands'] at stands₁
    cases stands₁
    rw [kept.settings] at freezes
    rw [kept.registry.active, request, freezes, Bool.or_true]

theorem Reachable.guarded (reachable : h.Reachable) : h.Guarded := by
  induction reachable with
  | create created =>
    obtain ⟨made, -, same⟩ := exists_engine_of_create created
    intro session s e live
    rw [same] at live
    cases live
  | step c before ih => exact ih.passes before.wellFormed (passes_step before.wellFormed c)

/-! ## The life of an engine -/

/-- **The freeze is final.**  Take an engine by one of its handles, after any commands,
and let any more of them follow.

It is active afterwards exactly if it was or if one of them asked to freeze it.  If it
was, its registry is the same one, and whatever is looked up in it is answered as before.
As long as it is active every registration fails because it is, every convention fails,
and neither changes anything.  One more command makes it active exactly if it asks to
and nothing did before, and an activation answers true exactly if it does.  If the
settings let sessions freeze the engine, every session begins on an active one, and the
engine of every live session is active. -/
theorem Reachable.freeze_final (reachable : h.Reachable) {handle : Nat} {e : Engine}
    (found : h.engine? handle = some e) (cs : List Command) {last : Host}
    (ran : (h.run cs).2 = last) :
    ∃ e', last.engine? handle = some e' ∧
      e'.registry.active = (e.registry.active || h.activatedIn e.id cs) ∧
      (e.registry.active = true → e'.registry = e.registry ∧
        ∀ c, c.looksUp handle = true → (last.step c).result.1 = (h.step c).result.1) ∧
      (∀ other, last.engine? other = some e' →
        (e'.registry.active = true →
          (∀ entity name params template,
            (last.step (.register other entity name params template)).result =
              (.error (.storeFrozen entity name), last)) ∧
          ∀ name params template, ∃ error,
            (last.step (.convention other name params template)).result =
              (.error error, last)) ∧
        (last.step (.activate other)).result.1 =
          .ok (.activated !(e.registry.active || h.activatedIn e.id cs)) ∧
        (e.settings.activateOnFirstSession = true → ∃ session id,
          (last.step (.beginSession other)).result.1 = .ok (.begun session id true))) ∧
      (∀ c, ∃ e'', (last.step c).result.2.engine? handle = some e'' ∧
        (e'.registry.active = false ∧ e''.registry.active = true ↔
          e.registry.active = false ∧ h.activatedIn e.id cs = false ∧
            last.activates e.id c = true)) ∧
      (e.settings.activateOnFirstSession = true → ∀ session s,
        last.session? session = some s → s.home = e.id → e'.registry.active = true) := by
  subst ran
  have reachable' := reachable.run cs
  have wellFormed := reachable.wellFormed
  have wellFormed' := reachable'.wellFormed
  obtain ⟨e', found', freezes⟩ := freezes_run wellFormed found cs
  refine ⟨e', found', freezes.registry.active, ?_, ?_, ?_, ?_⟩
  · intro active
    have same := freezes.registry.unchanged active
    exact ⟨same, fun c reads => answer_of_looksUp found found' same reads⟩
  · intro other stands
    refine ⟨fun active => ⟨?_, ?_⟩, ?_, fun begins => ?_⟩
    · exact register_refused wellFormed' stands active
    · exact convention_refused wellFormed' stands active
    · rw [← freezes.registry.active]
      exact answer_activate stands
    · exact answer_beginSession stands (freezes.settings ▸ begins)
  · intro c
    obtain ⟨e'', found'', next⟩ := freezes_run wellFormed' found' [c]
    refine ⟨e'', found'', ?_⟩
    have active := next.registry.active
    rw [activatedIn, activatedIn, Bool.or_false, freezes.id] at active
    rw [active, freezes.registry.active]
    cases e.registry.active <;> cases h.activatedIn e.id cs <;> simp
  · intro begins session s live home
    refine reachable'.guarded session s e' live ?_ (freezes.settings ▸ begins)
    rw [home, ← freezes.id]
    exact wellFormed'.engines_of_engine? found'

/-! A filter is registered by one handle, a session begins by another one, and from then on
the filter is the only one. -/

/-- A host with an engine that the first session freezes. -/
def freshBlog : Host := (newBlog []).result

def freshEngine : Engine := (freshBlog.engine? 0).get (by decide)

def firstSession : List Command :=
  [.convention 0 "tenant" [⟨"id", .int, some "tenant"⟩]
      (.compare .eq (.field "tenant") (.param "id")),
    .cloneEngine 0, .beginSession 1]

theorem Reachable.freeze_final_blog : ∃ e' : Engine,
    (freshBlog.run firstSession).2.engine? 0 = some e' ∧ e'.registry.active = true ∧
      ((freshBlog.run firstSession).2.step (.activate 0)).result.1 = .ok (.activated false) ∧
      ((freshBlog.run firstSession).2.step
        (.register 0 "Post" "public" [] (.literal (.bool true)))).result.1 =
          .error (.storeFrozen "Post" "public") := by
  have reachable : freshBlog.Reachable := .create (create_newBlog [])
  have found : freshBlog.engine? 0 = some freshEngine := (Option.some_get _).symm
  have asked : (freshEngine.registry.active ||
      freshBlog.activatedIn freshEngine.id firstSession) = true := by decide
  obtain ⟨e', found', active, -, requests, -⟩ := reachable.freeze_final found firstSession rfl
  rw [asked] at active
  obtain ⟨refused, activated, -⟩ := requests 0 found'
  rw [asked] at activated
  refine ⟨e', found', active, activated, ?_⟩
  rw [(refused active).1]

end Host

end RowScope
