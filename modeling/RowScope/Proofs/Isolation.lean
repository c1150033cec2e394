import RowScope.Proofs.Host

/-!
# Sessions are isolated from each other

What a session is answered does not depend on the commands of the others, although
all sessions of an engine share its definitions and its cache.

* `Command.foreign`: the commands that a session must not notice, those of other
  sessions and direct compilation.
* `Host.view`: what the answers of a session depend on.  It leaves out the caches
  and the other sessions.
* A foreign command leaves the view as it is (`view_step_of_foreign`).  A command
  about no session does the same to hosts of one view (`view_step_congr`), and so
  does one of the session itself, with the same result (`same_step`), since the
  answers of sound engines are read off their registries.
* `Host.Deletes`: one run comes from another by deletion of foreign commands.  By
  induction, the answers to the session are the same in both
  (`resultsOf_eq_of_deletes`).
-/

namespace RowScope

/-! ## Whose command it is -/

namespace Command

/-- The session whose state or whose query a command is about. -/
def session? : Command → Option Nat
  | .endSession session => some session
  | .enable session _ _ _ => some session
  | .select session _ _ _ => some session
  | .disable session _ => some session
  | .inspect session _ _ => some session
  | .intercept _ session _ _ _ => some session
  | .compiledFilters _ session _ _ _ => some session
  | .execute _ session _ _ => some session
  | .find _ session _ _ => some session
  | .plan _ session _ _ _ => some session
  | _ => none

/-- Whether a command compiles a definition for no session. -/
def isCompile : Command → Bool
  | .compile _ _ _ _ _ => true
  | _ => false

/-- Whether a command is one of another session or compiles a definition
directly. -/
def foreign (session : Nat) (c : Command) : Bool :=
  c.isCompile || c.session?.any fun other => decide (other ≠ session)

end Command

namespace Host

/-- The results of the commands of a session in a run, in order. -/
def resultsOf (session : Nat) (h : Host) (cs : List Command) :
    List (Except FilterError Reply) :=
  ((cs.zip (h.run cs).1).filter fun step => step.1.session? = some session).map
    fun step => step.2.result

/-- The second list of commands is the first without some commands that are foreign
to a session. -/
inductive Deletes (session : Nat) : List Command → List Command → Prop
  | done : Deletes session [] []
  | kept {cs cs' : List Command} (c : Command) :
    Deletes session cs cs' → Deletes session (c :: cs) (c :: cs')
  | deleted {cs cs' : List Command} (c : Command) (foreign : c.foreign session = true) :
    Deletes session cs cs' → Deletes session (c :: cs) cs'

/-- All foreign commands may be deleted. -/
theorem deletes_filter (session : Nat) (cs : List Command) :
    Deletes session cs (cs.filter fun c => !c.foreign session) := by
  induction cs with
  | nil => exact .done
  | cons c cs ih =>
    cases foreign : c.foreign session with
    | true =>
      rw [List.filter_cons_of_neg (by simp [foreign])]
      exact .deleted c foreign ih
    | false =>
      rw [List.filter_cons_of_pos (by simp [foreign])]
      exact .kept c ih

theorem resultsOf_cons (session : Nat) (h : Host) (c : Command) (cs : List Command) :
    h.resultsOf session (c :: cs) =
      (if c.session? = some session then [(h.step c).result.1] else []) ++
        (h.step c).result.2.resultsOf session cs := by
  rw [resultsOf, run, List.zip_cons_cons]
  by_cases own : c.session? = some session
  · rw [List.filter_cons_of_pos (by simpa using own), if_pos own]
    rfl
  · rw [List.filter_cons_of_neg (by simpa using own), if_neg own]
    rfl

end Host

/-! ## What a session can see -/

/-- An engine without its cache. -/
def Engine.bare (e : Engine) : Nat × Settings × Registry := (e.id, e.settings, e.registry)

theorem Engine.eq_of_bare {e e' : Engine} (alike : e.bare = e'.bare) :
    e' = { e with cache := e'.cache } := by
  cases e
  cases e'
  cases alike
  rfl

theorem Engine.recached_of_map_bare {x y : Option Engine}
    (alike : x.map Engine.bare = y.map Engine.bare) :
    (x = none ∧ y = none) ∨ ∃ e cache, x = some e ∧ y = some { e with cache } := by
  cases x with
  | none =>
    cases y with
    | none => exact .inl ⟨rfl, rfl⟩
    | some e' => cases alike
  | some e =>
    cases y with
    | none => cases alike
    | some e' =>
      refine .inr ⟨e, e'.cache, rfl, ?_⟩
      exact congrArg some (Engine.eq_of_bare (Option.some.inj alike))

theorem Engine.Recached.bare {e e' : Engine} (recached : e.Recached e') : e'.bare = e.bare := by
  obtain ⟨cache, rfl, -⟩ := recached
  rfl

/-- To begin a session does not depend on the cache. -/
theorem Engine.beginSession_recached (e : Engine) (cache : Cache) (id : Nat) :
    (Engine.beginSession { e with cache } id).result.1 = (e.beginSession id).result.1 ∧
      (Engine.beginSession { e with cache } id).result.2.bare =
        (e.beginSession id).result.2.bare := by
  unfold beginSession
  split
  · exact ⟨rfl, rfl⟩
  · exact ⟨rfl, rfl⟩

namespace Host

/-- What the answers to a session depend on. -/
structure View where
  sites : Nat → Cache.Site
  catalog : Catalog
  rows : List Row
  engines : List (Nat × Settings × Registry)
  handles : List Nat
  begun : Nat
  session : Option Session

/-- What a session can see of a host. -/
def view (session : Nat) (h : Host) : View :=
  ⟨h.sites, h.catalog, h.rows, h.engines.map Engine.bare, h.handles, h.sessions.length,
    h.session? session⟩

variable {S : Nat} {h k : Host}

/-- Another cache cannot be seen. -/
theorem view_withEngine {e e' : Engine} (stands : h.engines[e.id]? = some e)
    (recached : e.Recached e') : (h.withEngine e').view S = h.view S := by
  have alike := recached.bare
  obtain ⟨cache, rfl, -⟩ := recached
  obtain ⟨bound, same⟩ := List.getElem?_eq_some_iff.1 stands
  have inside : e.id < (h.engines.map Engine.bare).length := by simpa using bound
  have here : (h.engines.map Engine.bare)[e.id] = e.bare := by rw [List.getElem_map, same]
  have engines : (h.engines.set e.id { e with cache }).map Engine.bare =
      h.engines.map Engine.bare := by
    rw [List.map_set, alike, ← here, List.set_getElem_self]
  unfold view withEngine
  rw [engines]
  rfl

/-- Another session cannot be seen. -/
theorem view_set_of_ne {other : Nat} (apart : other ≠ S) (new : Option Session) :
    { h with sessions := h.sessions.set other new }.view S = h.view S := by
  unfold view session?
  rw [List.length_set, List.getElem?_set_ne apart]

/-! What a change does to the view. -/

theorem view_withEngine_eq (h : Host) (e : Engine) : (h.withEngine e).view S =
    { h.view S with engines := (h.view S).engines.set e.id e.bare } := by
  unfold view withEngine
  rw [List.map_set]
  rfl

theorem view_set_eq (h : Host) (new : Option Session) :
    { h with sessions := h.sessions.set S new }.view S =
      { h.view S with session := if S < (h.view S).begun then new else none } := by
  unfold view session?
  rw [List.length_set, List.getElem?_set, if_pos rfl]
  split
  · rfl
  · rfl

theorem view_append_eq (h : Host) (new : Option Session) :
    { h with sessions := h.sessions ++ [new] }.view S =
      { h.view S with
        begun := (h.view S).begun + 1
        session :=
          if S < (h.view S).begun then (h.view S).session
          else ([new][S - (h.view S).begun]?).join } := by
  unfold view session?
  rw [List.length_append, List.getElem?_append]
  split
  · rfl
  · rfl

theorem view_addEngine_eq (h : Host) (e : Engine) : (h.addEngine e).view S =
    { h.view S with
      engines := (h.view S).engines ++ [e.bare]
      handles := (h.view S).handles ++ [(h.view S).engines.length] } := by
  unfold view addEngine
  rw [List.length_map, List.map_append]
  rfl

/-- Whether there is memory for a new engine, and which one it is, can be seen. -/
theorem newEngine_congr (same : h.view S = k.view S) (settings : Settings) :
    k.newEngine settings = h.newEngine settings := by
  have sites : h.sites = k.sites := congrArg View.sites same
  have catalog : h.catalog = k.catalog := congrArg View.catalog same
  have engines := congrArg (fun v : View => v.engines.length) same
  dsimp only [view] at engines
  rw [List.length_map, List.length_map] at engines
  rw [newEngine, newEngine, sites, catalog, engines]

/-! ## Foreign commands -/

theorem ne_of_foreign {c : Command} {other : Nat} (owner : c.session? = some other)
    (indirect : c.isCompile = false) (foreign : c.foreign S = true) : other ≠ S := by
  rw [Command.foreign, indirect, owner] at foreign
  simpa using foreign

/-- A command of the session itself is not foreign to it. -/
theorem session?_ne_of_foreign {c : Command} (foreign : c.foreign S = true) :
    c.session? ≠ some S := by
  intro own
  cases direct : c.isCompile with
  | true =>
    cases c with
    | compile engine entity name values rows => cases own
    | _ => cases direct
  | false => exact ne_of_foreign own direct foreign rfl

/-- A command that is not foreign is about the session or about none. -/
theorem shared_or_own {c : Command} (near : c.foreign S = false) :
    c.isCompile = false ∧ (c.session? = none ∨ c.session? = some S) := by
  rw [Command.foreign, Bool.or_eq_false_iff] at near
  obtain ⟨indirect, near⟩ := near
  refine ⟨indirect, ?_⟩
  cases owner : c.session? with
  | none => exact .inl rfl
  | some other =>
    rw [owner] at near
    exact .inr (by simpa using near)

/-- A session cannot see the difference between two hosts. -/
def Unseen (S : Nat) (h h' : Host) : Prop := h'.view S = h.view S

theorem Unseen.refl (S : Nat) (h : Host) : Unseen S h h := rfl

theorem view_step_of_foreign (wellFormed : h.WellFormed) {c : Command}
    (foreign : c.foreign S = true) : Unseen S h (h.step c).result.2 := by
  have queried : ∀ {handle : Nat} (e e' : Engine), h.engine? handle = some e →
      e.Recached e' → Unseen S h (h.withEngine e') :=
    fun e e' found recached => view_withEngine (wellFormed.engines_of_engine? found) recached
  have turned : ∀ {other : Nat}, other ≠ S → ∀ s, Unseen S h (h.withSession other s) :=
    fun apart s => view_set_of_ne apart (some s)
  cases c with
  | compile engine entity name values rows =>
    exact after_onEngine (.refl S h) engine fun e found =>
      queried e _ found (e.recached_compile entity name values)
  | endSession other =>
    have apart := ne_of_foreign rfl rfl foreign
    exact after_onSession (.refl S h) other fun s _ =>
      view_set_of_ne apart none
  | enable other filter values read =>
    have apart := ne_of_foreign rfl rfl foreign
    refine after_onHome (.refl S h) other fun s e _ _ => ?_
    obtain ⟨s', after, -⟩ := exists_turned_bindAndRead (h := h) other filter values read
      (Session.turned_enable e.registry s filter)
    exact (congrArg (view S) after).trans (turned apart s')
  | select other filter values read =>
    have apart := ne_of_foreign rfl rfl foreign
    refine after_onHome (.refl S h) other fun s e _ _ => ?_
    obtain ⟨s', after, -⟩ := exists_turned_bindAndRead (h := h) other filter values read
      (turned_select e.registry s filter)
    exact (congrArg (view S) after).trans (turned apart s')
  | disable other filter =>
    have apart := ne_of_foreign rfl rfl foreign
    exact after_onSession (.refl S h) other fun s _ =>
      turned apart _
  | inspect other filters parameters =>
    exact after_onSession (.refl S h) other fun _ _ => .refl S h
  | intercept engine other entity predicate context =>
    exact after_query (.refl S h) engine other _
      (fun e s => e.recached_intercept s entity predicate context) queried
  | compiledFilters engine other entity context rows =>
    exact after_query (.refl S h) engine other _
      (fun e s => e.recached_compiledFilters s entity context) queried
  | execute engine other query context =>
    exact after_query (.refl S h) engine other _
      (fun e s => Engine.recached_execute h.rows e s query context) queried
  | find engine other entity key =>
    exact after_query (.refl S h) engine other _
      (fun e s => Engine.recached_find h.rows e s entity key) queried
  | plan engine other query context failure =>
    exact after_query (.refl S h) engine other _
      (fun e s => Engine.recached_executeWith _ e s query context) queried
  | _ => cases foreign

/-! ## Hosts of one view -/

/-- Two outcomes are the same to a session. -/
structure Same (S : Nat) (x y : Outcome) : Prop where
  result : x.result.1 = y.result.1
  view : x.result.2.view S = y.result.2.view S

theorem Same.bind {α : Type} {x : Logged α} {f g : α → Outcome}
    (whole : Same S (f x.result) (g x.result)) : Same S (x >>= f) (x >>= g) :=
  ⟨whole.result, whole.view⟩

section Congruence

variable (same : h.view S = k.view S)

include same

theorem getElem?_of_view (i : Nat) :
    (h.engines[i]?).map Engine.bare = (k.engines[i]?).map Engine.bare := by
  have engines : h.engines.map Engine.bare = k.engines.map Engine.bare :=
    congrArg View.engines same
  rw [← List.getElem?_map, engines, List.getElem?_map]

theorem engine?_of_view (handle : Nat) :
    (h.engine? handle).map Engine.bare = (k.engine? handle).map Engine.bare := by
  have handles : h.handles = k.handles := congrArg View.handles same
  unfold engine?
  rw [handles]
  cases k.handles[handle]? with
  | none => rfl
  | some i => exact getElem?_of_view same i

theorem view_withEngine_congr {e e' : Engine} (alike : e.bare = e'.bare) :
    (h.withEngine e).view S = (k.withEngine e').view S := by
  have number : e.id = e'.id := congrArg Prod.fst alike
  rw [view_withEngine_eq, view_withEngine_eq, same, number, alike]

theorem view_withSession_congr (new : Option Session) :
    { h with sessions := h.sessions.set S new }.view S =
      { k with sessions := k.sessions.set S new }.view S := by
  rw [view_set_eq, view_set_eq, same]

theorem view_append_congr (new : Option Session) :
    { h with sessions := h.sessions ++ [new] }.view S =
      { k with sessions := k.sessions ++ [new] }.view S := by
  rw [view_append_eq, view_append_eq, same]

theorem same_onEngine (handle : Nat) {f g : Engine → Outcome}
    (each : ∀ e cache, h.engine? handle = some e → k.engine? handle = some { e with cache } →
      Same S (f e) (g { e with cache })) :
    Same S (h.onEngine handle f) (k.onEngine handle g) := by
  rw [onEngine, onEngine]
  rcases Engine.recached_of_map_bare (engine?_of_view same handle) with
    ⟨absent, absent'⟩ | ⟨e, cache, found, found'⟩
  · rw [absent, absent']
    exact ⟨rfl, same⟩
  · rw [found, found']
    exact each e cache found found'

theorem same_onSession {f g : Session → Outcome} (each : ∀ s, Same S (f s) (g s)) :
    Same S (h.onSession S f) (k.onSession S g) := by
  have session : h.session? S = k.session? S := congrArg View.session same
  rw [onSession, onSession, session]
  split
  · exact each _
  · exact ⟨rfl, same⟩

theorem same_onHome {f g : Registry → Session → Outcome} (each : ∀ r s, Same S (f r s) (g r s)) :
    Same S (h.onHome S f) (k.onHome S g) := by
  refine same_onSession same fun s => ?_
  rcases Engine.recached_of_map_bare (getElem?_of_view same s.home) with
    ⟨absent, absent'⟩ | ⟨e, cache, found, found'⟩
  · rw [absent, absent']
    exact ⟨rfl, same⟩
  · rw [found, found']
    exact each e.registry s

theorem same_reply {α : Type} (toReply : α → Reply)
    {x y : Logged (Except FilterError α × Engine)} (answers : x.result.1 = y.result.1)
    (alike : x.result.2.bare = y.result.2.bare) :
    Same S (h.reply toReply x) (k.reply toReply y) :=
  ⟨congrArg (Except.map toReply) answers, view_withEngine_congr same alike⟩

theorem same_beginSession (e : Engine) (cache : Cache) :
    Same S (h.beginSession e) (k.beginSession { e with cache }) := by
  have begun : h.sessions.length = k.sessions.length := congrArg View.begun same
  obtain ⟨session, alike⟩ := e.beginSession_recached cache (h.sessions.length + 1)
  rw [beginSession, beginSession, ← begun]
  generalize e.beginSession (h.sessions.length + 1) = x at session alike ⊢
  generalize Engine.beginSession { e with cache } (h.sessions.length + 1) = y
    at session alike ⊢
  obtain ⟨⟨s, e₁⟩, _⟩ := x
  obtain ⟨⟨s', e₂⟩, _⟩ := y
  obtain rfl : s' = s := session
  have registry : e₂.registry = e₁.registry := congrArg (fun bare => bare.2.2) alike
  constructor
  · change Except.ok (Reply.begun _ _ e₁.registry.active) =
      Except.ok (Reply.begun _ _ e₂.registry.active)
    rw [registry]
  · exact view_append_congr (view_withEngine_congr same alike.symm) (some s')

theorem same_bindAndRead (r : Registry) (filter : String) (values : List (String × Value))
    (read : List String) (turned : Except FilterError Unit × Session) :
    Same S (h.bindAndRead S r filter values read turned)
      (k.bindAndRead S r filter values read turned) := by
  obtain ⟨_ | _, s⟩ := turned
  · exact ⟨rfl, view_withSession_congr same (some s)⟩
  · rw [bindAndRead, bindAndRead]
    constructor
    · rw [Logged.result_bind, Logged.result_bind]
      split
      · rfl
      · rfl
    · rw [Logged.result_bind, Logged.result_bind]
      split
      · exact view_withSession_congr same _
      · exact view_withSession_congr same _

/-- Sound engines answer queries by their registries. -/
theorem same_query (wellFormed : h.WellFormed) (wellFormed' : k.WellFormed) {α : Type}
    (handle : Nat) (toReply : α → Reply)
    {f : Engine → Session → Logged (Except FilterError α × Engine)}
    (recached : ∀ (e : Engine) (s : Session), e.Recached (f e s).result.2)
    (answers : ∀ (e : Engine) (cache : Cache) (s : Session), e.Sound →
      Engine.Sound { e with cache } → (f e s).result.1 = (f { e with cache } s).result.1) :
    Same S (h.onEngine handle fun e => h.onSession S fun s => h.reply toReply (f e s))
      (k.onEngine handle fun e => k.onSession S fun s => k.reply toReply (f e s)) := by
  refine same_onEngine same handle fun e cache found found' => ?_
  refine same_onSession same fun s => ?_
  have sound := wellFormed.sound _ e (wellFormed.engines_of_engine? found)
  have sound' := wellFormed'.sound _ _ (wellFormed'.engines_of_engine? found')
  refine same_reply same toReply (answers e cache s sound sound') ?_
  rw [(recached e s).bare, (recached { e with cache } s).bare]
  rfl

end Congruence

/-! ## The other commands -/

/-- **A command about no session** leads from hosts of one view to hosts of one
view. -/
theorem view_step_congr (same : h.view S = k.view S) {c : Command}
    (shared : c.session? = none) (indirect : c.isCompile = false) :
    (h.step c).result.2.view S = (k.step c).result.2.view S := by
  cases c with
  | newEngine settings =>
    rw [step, step, newEngine_congr same]
    split
    · next made _ =>
      change (h.addEngine made.result).view S = (k.addEngine made.result).view S
      rw [view_addEngine_eq, view_addEngine_eq, same]
    · exact same
  | cloneEngine engine =>
    have handles : h.handles = k.handles := congrArg View.handles same
    rw [step, step, cloneEngine, cloneEngine, ← handles]
    split
    · next i _ => exact congrArg (fun v : View => { v with handles := h.handles ++ [i] }) same
    · exact same
  | register engine entity name params template =>
    refine (?_ : Same S _ _).view
    exact same_onEngine same engine fun _ _ _ _ => same_reply same _ rfl rfl
  | convention engine name params template =>
    refine (?_ : Same S _ _).view
    exact same_onEngine same engine fun _ _ _ _ => same_reply same _ rfl rfl
  | activate engine =>
    refine (?_ : Same S _ _).view
    exact same_onEngine same engine fun _ _ _ _ => ⟨rfl, view_withEngine_congr same rfl⟩
  | beginSession engine =>
    refine (?_ : Same S _ _).view
    exact same_onEngine same engine fun e cache _ _ => same_beginSession same e cache
  | insert more => exact congrArg (fun v : View => { v with rows := v.rows ++ more }) same
  | settings engine | lookup engine _ _ | filtersFor engine _ | named engine _
  | parameter engine _ _ | registry engine | stats engine | entities engine =>
    -- either host stays as it is, whatever it answers
    refine Eq.trans ?_ (same.trans (Eq.symm ?_))
    · exact after_onEngine (P := Unseen S h) (.refl S h) engine fun _ _ => .refl S h
    · exact after_onEngine (P := Unseen S k) (.refl S k) engine fun _ _ => .refl S k
  | compile engine entity name values rows => cases indirect
  | _ => cases shared

/-- **A command of the session** has one result on well-formed hosts of one view, and
leads to hosts of one view. -/
theorem same_step (wellFormed : h.WellFormed) (wellFormed' : k.WellFormed)
    (same : h.view S = k.view S) {c : Command} (own : c.session? = some S) :
    Same S (h.step c) (k.step c) := by
  have rows : h.rows = k.rows := congrArg View.rows same
  cases c with
  | endSession session =>
    cases own
    exact same_onSession same fun _ => ⟨rfl, view_withSession_congr same none⟩
  | enable session filter values read =>
    cases own
    exact same_onHome same fun r s =>
      .bind (same_bindAndRead same r filter values read (s.enable r filter).result)
  | select session filter values read =>
    cases own
    exact same_onHome same fun r s =>
      same_bindAndRead same r filter values read (select r s filter)
  | disable session filter =>
    cases own
    exact same_onSession same fun _ => ⟨rfl, view_withSession_congr same _⟩
  | inspect session filters parameters =>
    cases own
    exact same_onSession same fun _ => ⟨rfl, same⟩
  | intercept engine session entity predicate context =>
    cases own
    refine same_query same wellFormed wellFormed' engine _
      (fun e s => e.recached_intercept s entity predicate context) ?_
    intro e cache s sound sound'
    rw [sound.result_intercept, sound'.result_intercept]
    rfl
  | compiledFilters engine session entity context rows =>
    cases own
    refine same_query same wellFormed wellFormed' engine _
      (fun e s => e.recached_compiledFilters s entity context) ?_
    intro e cache s sound sound'
    rw [sound.result_compiledFilters, sound'.result_compiledFilters]
    rfl
  | execute engine session query context =>
    cases own
    rw [step, step, ← rows]
    refine same_query same wellFormed wellFormed' engine _
      (fun e s => Engine.recached_execute h.rows e s query context) ?_
    intro e cache s sound sound'
    rw [Engine.execute, Engine.execute, sound.result_executeWith, sound'.result_executeWith]
    rfl
  | find engine session entity key =>
    cases own
    rw [step, step, ← rows]
    refine same_query same wellFormed wellFormed' engine _
      (fun e s => Engine.recached_find h.rows e s entity key) ?_
    intro e cache s sound sound'
    rw [sound.result_find, sound'.result_find]
    rfl
  | plan engine session query context failure =>
    cases own
    refine same_query same wellFormed wellFormed' engine _
      (fun e s => Engine.recached_executeWith _ e s query context) ?_
    intro e cache s sound sound'
    rw [sound.result_executeWith, sound'.result_executeWith]
    rfl
  | _ => cases own

/-! ## Two runs -/

/-- From hosts of one view, a run and one with foreign commands deleted give a session
the same results. -/
theorem resultsOf_eq_of_deletes (wellFormed : h.WellFormed) (wellFormed' : k.WellFormed)
    (same : h.view S = k.view S) {cs cs' : List Command} (deletes : Deletes S cs cs') :
    h.resultsOf S cs = k.resultsOf S cs' := by
  induction deletes generalizing h k with
  | done => rfl
  | @kept cs cs' c _ ih =>
    rw [resultsOf_cons, resultsOf_cons]
    cases foreign : c.foreign S with
    | true =>
      have unseen := view_step_of_foreign wellFormed foreign
      have unseen' := view_step_of_foreign wellFormed' foreign
      rw [ih (wellFormed.step c) (wellFormed'.step c) (unseen.trans (same.trans unseen'.symm)),
        if_neg (session?_ne_of_foreign foreign), if_neg (session?_ne_of_foreign foreign)]
    | false =>
      obtain ⟨indirect, shared | own⟩ := shared_or_own foreign
      · have seen := view_step_congr same shared indirect
        rw [ih (wellFormed.step c) (wellFormed'.step c) seen, shared]
        rfl
      · obtain ⟨answered, seen⟩ := same_step wellFormed wellFormed' same own
        rw [ih (wellFormed.step c) (wellFormed'.step c) seen, answered]
  | @deleted cs cs' c foreign _ ih =>
    have unseen := view_step_of_foreign wellFormed foreign
    rw [resultsOf_cons, if_neg (session?_ne_of_foreign foreign), List.nil_append]
    exact ih (wellFormed.step c) wellFormed' (unseen.trans same)

/-- **Sessions are isolated.**  On any reachable host, take any commands about any
sessions in any order, pick one session, and delete any of the commands of the other
sessions and any direct compilations.  Every command of the session, be it about its
state or a query, has exactly the result that it had before. -/
theorem Reachable.sessions_isolated (reachable : h.Reachable) {session : Nat}
    {cs cs' : List Command} (deletes : Deletes session cs cs') :
    h.resultsOf session cs' = h.resultsOf session cs :=
  (resultsOf_eq_of_deletes reachable.wellFormed reachable.wellFormed rfl deletes).symm

theorem Reachable.sessions_isolated_blog :
    blog.resultsOf 0 [.execute 0 0 (.all "Post") .empty, .disable 0 "tenant"] =
      blog.resultsOf 0
        [.select 1 "tenant" [("id", .int 2)] [], .execute 0 0 (.all "Post") .empty,
          .compile 0 "Comment" "tenant" (.ofList [("id", .int 1)]) [],
          .execute 0 1 (.all "Post") .empty, .endSession 1, .disable 0 "tenant"] := by
  exact reachable_blog.sessions_isolated (deletes_filter 0 _)

end Host

end RowScope
