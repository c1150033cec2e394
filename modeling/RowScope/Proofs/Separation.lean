import Mathlib.Data.List.Induction
import Mathlib.Logic.Relation
import RowScope.Proofs.Isolation
import RowScope.Proofs.Refusal

/-!
# Engines do not mix

Several engines live in one host, each with any number of handles and sessions.  Which of
them belong together is told from outside, by what commands have been answered.

* `Host.log` is a run with its answers.  `Related` reads off it which handles come from
  one another by cloning, `Begun` which session was begun by which handle, and `Uses`
  which handles a command goes through.
* `Host.Passage` sums up what any command does (`passage_step`): three kinds of command
  bring in an engine, a handle or a session, and every other one shifts the engine that it
  goes through and its sessions.
* `Host.Tells` ties a log to the host that it led to, and a passage keeps it
  (`Tells.passage`).  By induction, handles are related exactly if they point at one engine
  (`Tells.related_iff`), and the home of a session is the engine that it was begun on
  (`Tells.home_iff`).
* `Passage.spares` is the frame: what a command does not go through stays as it was.
* `engines_separate` puts these together.
-/

namespace RowScope

/-! ## What a command goes through -/

namespace Command

/-- The handle that a command names. -/
def engine? : Command → Option Nat
  | .cloneEngine engine | .settings engine | .register engine _ _ _ _
  | .convention engine _ _ _ | .activate engine | .beginSession engine
  | .intercept engine _ _ _ _ | .compiledFilters engine _ _ _ _ | .compile engine _ _ _ _
  | .lookup engine _ _ | .filtersFor engine _ | .named engine _ | .parameter engine _ _
  | .registry engine | .stats engine | .entities engine | .execute engine _ _ _
  | .find engine _ _ _ | .plan engine _ _ _ _ => some engine
  | .newEngine _ | .endSession _ | .enable _ _ _ _ | .select _ _ _ _ | .disable _ _
  | .inspect _ _ _ | .insert _ => none

/-- The same command by another handle. -/
def via (handle : Nat) : Command → Command
  | .cloneEngine _ => .cloneEngine handle
  | .settings _ => .settings handle
  | .register _ entity name params template => .register handle entity name params template
  | .convention _ name params template => .convention handle name params template
  | .activate _ => .activate handle
  | .beginSession _ => .beginSession handle
  | .intercept _ session entity predicate context =>
    .intercept handle session entity predicate context
  | .compiledFilters _ session entity context rows =>
    .compiledFilters handle session entity context rows
  | .compile _ entity name values rows => .compile handle entity name values rows
  | .lookup _ entity name => .lookup handle entity name
  | .filtersFor _ entity => .filtersFor handle entity
  | .named _ name => .named handle name
  | .parameter _ filter name => .parameter handle filter name
  | .registry _ => .registry handle
  | .stats _ => .stats handle
  | .entities _ => .entities handle
  | .execute _ session query context => .execute handle session query context
  | .find _ session entity key => .find handle session entity key
  | .plan _ session query context failure => .plan handle session query context failure
  | c => c

/-- Whether a command with its answer gives out a new handle or a new session. -/
def opens : Command → Except FilterError Reply → Bool
  | .cloneEngine _, .ok (.engine _) => true
  | .beginSession _, .ok (.begun _ _ _) => true
  | _, _ => false

end Command

namespace Host

/-- The engine that a command goes through: that of the handle that it names, or the home
of the session whose state it is about. -/
def through (h : Host) (c : Command) : Option Nat :=
  match c.engine? with
  | some handle => h.handles[handle]?
  | none => (c.session?.bind h.session?).map Session.home

/-- What becomes of a host through one of its engines: nothing comes in, every session that
is live was live before and has kept its home, and the other engines and their sessions
are as they were. -/
structure Shifts (h : Host) (i : Option Nat) (h' : Host) : Prop where
  handles : h'.handles = h.handles
  begun : h'.sessions.length = h.sessions.length
  homes : ∀ S s', h'.session? S = some s' → ∃ s, h.session? S = some s ∧ s'.home = s.home
  engines : ∀ j, i ≠ some j → h'.engines[j]? = h.engines[j]?
  sessions : ∀ S s, h.session? S = some s → i ≠ some s.home → h'.session? S = some s

/-- What a command does to a host, by its answer. -/
inductive Passage (h : Host) : Command → Except FilterError Reply → Host → Prop
  | through {c : Command} {r : Except FilterError Reply} {h' : Host} (closed : c.opens r = false)
      (shifts : h.Shifts (h.through c) h') : Passage h c r h'
  | engine {settings : Settings} {made : Logged Engine}
      (created : h.newEngine settings = .ok made) (r : Except FilterError Reply) :
    Passage h (.newEngine settings) r (h.addEngine made.result)
  | handle {handle i : Nat} (pointed : h.handles[handle]? = some i) :
    Passage h (.cloneEngine handle) (.ok (.engine h.handles.length))
      { h with handles := h.handles ++ [i] }
  | session {handle : Nat} {e e' : Engine} {s : Session} (found : h.engine? handle = some e)
      (same : e'.id = e.id) (home : s.home = e.id) (id : Nat) (active : Bool) :
    Passage h (.beginSession handle) (.ok (.begun h.sessions.length id active))
      { h.withEngine e' with sessions := h.sessions ++ [some s] }

variable {h : Host} {handle : Nat} {e e' : Engine}

theorem Shifts.refl (h : Host) (i : Option Nat) : h.Shifts i h :=
  ⟨rfl, rfl, fun _ s live => ⟨s, live, rfl⟩, fun _ _ => rfl, fun _ _ live _ => live⟩

theorem WellFormed.pointed (wellFormed : h.WellFormed) (found : h.engine? handle = some e) :
    h.handles[handle]? = some e.id := by
  obtain ⟨i, pointed, stands⟩ := Option.bind_eq_some_iff.1 found
  rw [pointed, wellFormed.numbered i e stands]

theorem shifts_withEngine (wellFormed : h.WellFormed) (found : h.engine? handle = some e)
    (same : e'.id = e.id) : h.Shifts h.handles[handle]? (h.withEngine e') := by
  have stands := wellFormed.engines_of_engine? found
  refine ⟨rfl, rfl, fun _ s live => ⟨s, live, rfl⟩, ?_, fun _ _ live _ => live⟩
  intro j apart
  rw [wellFormed.pointed found, Ne, Option.some.injEq] at apart
  rw [getElem?_withEngine e' (same ▸ stands), if_neg (same ▸ apart)]

theorem shifts_set {session : Nat} {s : Session} (live : h.session? session = some s)
    {new : Option Session} (home : ∀ s', new = some s' → s'.home = s.home) :
    h.Shifts ((h.session? session).map Session.home)
      { h with sessions := h.sessions.set session new } := by
  have elsewhere : ∀ S, session ≠ S →
      Host.session? { h with sessions := h.sessions.set session new } S = h.session? S := by
    intro S apart
    unfold session?
    rw [List.getElem?_set_ne apart]
  refine ⟨rfl, List.length_set, ?_, fun _ _ => rfl, ?_⟩
  · intro S s' live'
    by_cases same : session = S
    · subst same
      rcases session?_set live' with new | old
      · exact ⟨s, live, home s' new⟩
      · exact ⟨s', old, rfl⟩
    · exact ⟨s', (elsewhere S same).symm.trans live', rfl⟩
  · intro S s₁ live₁ apart
    rw [live] at apart
    have other : session ≠ S := by
      rintro rfl
      rw [live] at live₁
      cases live₁
      exact apart rfl
    rw [elsewhere S other, live₁]

theorem shifts_bindAndRead {session : Nat} {r : Registry} {s : Session}
    (live : h.session? session = some s) (filter : String) (values : List (String × Value))
    (read : List String) {turned : Except FilterError Unit × Session}
    (first : Session.Turned r s turned.2) :
    h.Shifts ((h.session? session).map Session.home)
      (h.bindAndRead session r filter values read turned).result.2 := by
  obtain ⟨s', after, further⟩ :=
    exists_turned_bindAndRead (h := h) session filter values read first
  rw [after]
  refine shifts_set live ?_
  rintro _ ⟨⟩
  exact further.home

/-- **What a command does.** -/
theorem passage_step (wellFormed : h.WellFormed) (c : Command) :
    h.Passage c (h.step c).result.1 (h.step c).result.2 := by
  have queried : ∀ {handle : Nat} (e e' : Engine), h.engine? handle = some e →
      e.Recached e' → h.Shifts h.handles[handle]? (h.withEngine e') :=
    fun _ _ found recached => shifts_withEngine wellFormed found recached.evolves.id
  cases c with
  | newEngine settings =>
    rw [step]
    split
    · next made created => exact .engine created _
    · exact .through rfl (.refl h _)
  | cloneEngine engine =>
    rw [step, cloneEngine]
    split
    · next i pointed => exact .handle pointed
    · exact .through rfl (.refl h _)
  | beginSession engine =>
    rw [step, onEngine]
    cases found : h.engine? engine with
    | none => exact .through rfl (.refl h _)
    | some e =>
      obtain ⟨begun, grown⟩ := e.result_beginSession (h.sessions.length + 1)
      exact .session found grown.evolves.id (congrArg Session.home begun) _ _
  | register engine entity name params template =>
    exact .through rfl (after_onEngine (.refl h _) engine fun e found =>
      shifts_withEngine wellFormed found rfl)
  | convention engine name params template =>
    exact .through rfl (after_onEngine (.refl h _) engine fun e found =>
      shifts_withEngine wellFormed found rfl)
  | activate engine =>
    exact .through rfl (after_onEngine (.refl h _) engine fun e found =>
      shifts_withEngine wellFormed found rfl)
  | endSession session =>
    refine .through rfl (after_onSession (.refl h _) session fun s live => shifts_set live ?_)
    rintro _ ⟨⟩
  | enable session filter values read =>
    exact .through rfl (after_onHome (.refl h _) session fun s e live _ =>
      shifts_bindAndRead live filter values read (Session.turned_enable e.registry s filter))
  | select session filter values read =>
    exact .through rfl (after_onHome (.refl h _) session fun s e live _ =>
      shifts_bindAndRead live filter values read (turned_select e.registry s filter))
  | disable session filter =>
    refine .through rfl (after_onSession (.refl h _) session fun s live => shifts_set live ?_)
    rintro _ ⟨⟩
    exact (Session.turned_disable default s filter).home
  | intercept engine session entity predicate context =>
    exact .through rfl (after_query (.refl h _) engine session _
      (fun e s => e.recached_intercept s entity predicate context) queried)
  | compiledFilters engine session entity context rows =>
    exact .through rfl (after_query (.refl h _) engine session _
      (fun e s => e.recached_compiledFilters s entity context) queried)
  | compile engine entity name values rows =>
    exact .through rfl (after_onEngine (.refl h _) engine fun e found =>
      queried e _ found (e.recached_compile entity name values))
  | execute engine session query context =>
    exact .through rfl (after_query (.refl h _) engine session _
      (fun e s => Engine.recached_execute h.rows e s query context) queried)
  | find engine session entity key =>
    exact .through rfl (after_query (.refl h _) engine session _
      (fun e s => Engine.recached_find h.rows e s entity key) queried)
  | plan engine session query context failure =>
    exact .through rfl (after_query (.refl h _) engine session _
      (fun e s => Engine.recached_executeWith _ e s query context) queried)
  | insert rows =>
    exact .through rfl ⟨rfl, rfl, fun _ s live => ⟨s, live, rfl⟩, fun _ _ => rfl,
      fun _ _ live _ => live⟩
  | inspect session filters parameters =>
    exact .through rfl (after_onSession (.refl h _) session fun _ _ => .refl h _)
  | settings engine | lookup engine _ _ | filtersFor engine _ | named engine _
  | parameter engine _ _ | registry engine | stats engine | entities engine =>
    exact .through rfl (after_onEngine (.refl h _) engine fun _ _ => .refl h _)

/-! ## What a run tells -/

/-- Commands with their answers. -/
abbrev Log := List (Command × Except FilterError Reply)

/-- The commands of a run with their answers. -/
def log (h : Host) (cs : List Command) : Log := cs.zip ((h.run cs).1.map Logged.result)

/-- The second handle was obtained from the first one by cloning. -/
def Cloned (log : Log) (a b : Nat) : Prop := (.cloneEngine a, .ok (.engine b)) ∈ log

/-- One handle was obtained from the other by any chain of cloning, in either direction. -/
def Related (log : Log) : Nat → Nat → Prop := Relation.EqvGen (Cloned log)

/-- A session was begun by a handle. -/
def Begun (log : Log) (handle S : Nat) : Prop :=
  ∃ id active, (.beginSession handle, .ok (.begun S id active)) ∈ log

/-- A command goes through an engine: it names a handle of it, or it is about the state of
a session that was begun by one. -/
def Uses (log : Log) (c : Command) (handle : Nat) : Prop :=
  c.engine? = some handle ∨ c.engine? = none ∧ ∃ S, c.session? = some S ∧ Begun log handle S

theorem run_concat (h : Host) (cs : List Command) (c : Command) :
    h.run (cs ++ [c]) =
      ((h.run cs).1 ++ [⟨((h.run cs).2.step c).result.1, ((h.run cs).2.step c).events⟩],
        ((h.run cs).2.step c).result.2) := by
  induction cs generalizing h with
  | nil => rfl
  | cons c' cs ih =>
    rw [List.cons_append, run, run, ih]
    rfl

theorem length_run (h : Host) (cs : List Command) : (h.run cs).1.length = cs.length := by
  induction cs generalizing h with
  | nil => rfl
  | cons c cs ih => exact congrArg Nat.succ (ih _)

theorem log_concat (h : Host) (cs : List Command) (c : Command) :
    h.log (cs ++ [c]) = h.log cs ++ [(c, ((h.run cs).2.step c).result.1)] := by
  rw [log, log, run_concat, List.map_append, List.zip_append]
  · rfl
  · rw [List.length_map, length_run]

section Concat

variable {log : Log} {c : Command} {r : Except FilterError Reply} {a b S : Nat}

theorem Related.mono (related : Related log a b) (more : Log) : Related (log ++ more) a b :=
  Relation.EqvGen.mono (fun _ _ cloned => List.mem_append_left more cloned) a b related

theorem Begun.mono (begun : Begun log a S) (more : Log) : Begun (log ++ more) a S := by
  obtain ⟨id, active, told⟩ := begun
  exact ⟨id, active, List.mem_append_left more told⟩

theorem cloned_concat_iff :
    Cloned (log ++ [(c, r)]) a b ↔ Cloned log a b ∨ c = .cloneEngine a ∧ r = .ok (.engine b) := by
  simp [Cloned, eq_comm]

theorem begun_concat_iff : Begun (log ++ [(c, r)]) a S ↔
    Begun log a S ∨ c = .beginSession a ∧ ∃ id active, r = .ok (.begun S id active) := by
  simp [Begun, eq_comm, exists_or]

/-- An answer that opens nothing tells of no clone and of no session. -/
theorem cloned_concat_of_closed (closed : c.opens r = false)
    (cloned : Cloned (log ++ [(c, r)]) a b) : Cloned log a b := by
  obtain old | ⟨rfl, rfl⟩ := cloned_concat_iff.1 cloned
  · exact old
  · cases closed

theorem begun_concat_of_closed (closed : c.opens r = false)
    (begun : Begun (log ++ [(c, r)]) a S) : Begun log a S := by
  obtain old | ⟨rfl, id, active, rfl⟩ := begun_concat_iff.1 begun
  · exact old
  · cases closed

end Concat

theorem lt_of_session? {S : Nat} {s : Session} (live : h.session? S = some s) :
    S < h.sessions.length := by
  obtain ⟨bound, -⟩ := List.getElem?_eq_some_iff.1 (Option.join_eq_some_iff.1 live)
  exact bound

/-- A session that was begun last. -/
theorem session?_concat_iff {sessions : List (Option Session)} {S : Nat} {s s' : Session} :
    ((sessions ++ [some s])[S]?).join = some s' ↔
      (sessions[S]?).join = some s' ∨ S = sessions.length ∧ s' = s := by
  rw [List.getElem?_append]
  split
  · next inside => simp [Nat.ne_of_lt inside]
  · next beyond =>
    rw [List.getElem?_eq_none (Nat.not_lt.1 beyond)]
    rcases Nat.eq_or_lt_of_le (Nat.not_lt.1 beyond) with rfl | further
    · simp [eq_comm]
    · have outside : [some s].length ≤ S - sessions.length := by
        rw [List.length_singleton]
        omega
      rw [List.getElem?_eq_none outside]
      simp [Nat.ne_of_gt further]

/-- A handle points where it did, whatever handle comes in. -/
theorem getElem?_concat {handles : List Nat} {a i : Nat} (pointed : handles[a]? = some i)
    (k : Nat) : (handles ++ [k])[a]? = some i := by
  obtain ⟨bound, -⟩ := List.getElem?_eq_some_iff.1 pointed
  rw [List.getElem?_append_left bound, pointed]

/-- What a log says of the host that it led to. -/
structure Tells (log : Log) (h : Host) : Prop where
  /-- A clone points where its original does. -/
  cloned : ∀ a b, Cloned log a b → ∃ i, h.handles[a]? = some i ∧ h.handles[b]? = some i
  /-- Every handle comes from the first one that points where it does. -/
  founded : ∀ a i, h.handles[a]? = some i → Related log (h.handles.idxOf i) a
  /-- A session that was begun by a handle is at home where that points. -/
  begun : ∀ a S, Begun log a S → S < h.sessions.length ∧
    ∃ i, h.handles[a]? = some i ∧ ∀ s, h.session? S = some s → s.home = i
  /-- Every session was begun. -/
  live : ∀ S s, h.session? S = some s → ∃ a, Begun log a S

namespace Tells

variable {log : Log}

theorem getElem?_eq_of_related (tells : Tells log h) {a b : Nat} (related : Related log a b) :
    h.handles[a]? = h.handles[b]? := by
  induction related with
  | rel a b cloned =>
    obtain ⟨i, original, clone⟩ := tells.cloned a b cloned
    rw [original, clone]
  | refl => rfl
  | symm _ _ _ ih => exact ih.symm
  | trans _ _ _ _ _ first second => exact first.trans second

/-- **Handles are related exactly if they point at one engine.** -/
theorem related_iff (tells : Tells log h) {a b i : Nat} (pointed : h.handles[a]? = some i) :
    Related log a b ↔ h.handles[b]? = some i := by
  constructor
  · intro related
    rw [← tells.getElem?_eq_of_related related, pointed]
  · intro pointed'
    exact .trans _ _ _ (.symm _ _ (tells.founded a i pointed)) (tells.founded b i pointed')

/-- A session was begun by a related handle exactly if its home is the engine of the
handle. -/
theorem home_iff (tells : Tells log h) {a b S : Nat} {s : Session} {i : Nat}
    (pointed : h.handles[a]? = some i) (begun : Begun log b S)
    (live : h.session? S = some s) : Related log a b ↔ s.home = i := by
  obtain ⟨-, j, pointed', home⟩ := tells.begun b S begun
  rw [tells.related_iff pointed, pointed', home s live, Option.some.injEq]

/-- A command that uses no related handle does not go through the engine. -/
theorem through_ne (tells : Tells log h) {a i : Nat} (pointed : h.handles[a]? = some i)
    {c : Command} (apart : ∀ b, Uses log c b → ¬ Related log a b) : h.through c ≠ some i := by
  intro used
  rw [through] at used
  cases named : c.engine? with
  | some b =>
    rw [named] at used
    exact apart b (.inl named) ((tells.related_iff pointed).2 used)
  | none =>
    rw [named] at used
    obtain ⟨s, found, home⟩ := Option.map_eq_some_iff.1 used
    obtain ⟨S, about, live⟩ := Option.bind_eq_some_iff.1 found
    obtain ⟨b, begun⟩ := tells.live S s live
    exact apart b (.inr ⟨named, S, about, begun⟩) ((tells.home_iff pointed begun live).2 home)

section Passage

variable {c : Command} {r : Except FilterError Reply} {handles : List Nat} {a b i k : Nat}

/-- One more handle keeps every handle founded if it is itself. -/
theorem founded_concat
    (founded : ∀ a i, handles[a]? = some i → Related log (handles.idxOf i) a)
    (last : Related log ((handles ++ [k]).idxOf k) handles.length) :
    ∀ a i, (handles ++ [k])[a]? = some i → Related log ((handles ++ [k]).idxOf i) a := by
  intro a i pointed
  rw [List.getElem?_append] at pointed
  split at pointed
  · rw [List.idxOf_append_of_mem (List.mem_of_getElem? pointed)]
    exact founded a i pointed
  · obtain ⟨bound, same⟩ := List.getElem?_eq_some_iff.1 pointed
    simp only [List.length_singleton, List.getElem_singleton] at bound same
    obtain rfl := same
    have last' : a = handles.length := by omega
    rwa [last']

/-! What was told before stays told. -/

theorem founded_mono (tells : Tells log h) (more : Log) : ∀ a i, h.handles[a]? = some i →
    Related (log ++ more) (h.handles.idxOf i) a :=
  fun a i pointed => (tells.founded a i pointed).mono more

theorem live_mono (tells : Tells log h) (more : Log) : ∀ S s, h.session? S = some s →
    ∃ a, Begun (log ++ more) a S := by
  intro S s live
  obtain ⟨a, begun⟩ := tells.live S s live
  exact ⟨a, begun.mono more⟩

/-- A command that opens nothing. -/
theorem shifted (tells : Tells log h) {h' : Host} {i : Option Nat} (closed : c.opens r = false)
    (shifts : h.Shifts i h') : Tells (log ++ [(c, r)]) h' := by
  refine ⟨?_, ?_, ?_, ?_⟩
  · intro a b cloned
    rw [shifts.handles]
    exact tells.cloned a b (cloned_concat_of_closed closed cloned)
  · rw [shifts.handles]
    exact tells.founded_mono _
  · intro a S begun
    obtain ⟨bound, i, pointed, home⟩ := tells.begun a S (begun_concat_of_closed closed begun)
    rw [shifts.begun, shifts.handles]
    refine ⟨bound, i, pointed, fun s' live' => ?_⟩
    obtain ⟨s, live, same⟩ := shifts.homes S s' live'
    rw [same, home s live]
  · intro S s' live'
    obtain ⟨s, live, -⟩ := shifts.homes S s' live'
    exact tells.live_mono _ S s live

/-- A command that gives out a handle, be it to a new engine or a clone. -/
theorem handed (tells : Tells log h) {h' : Host} (handles : h'.handles = h.handles ++ [k])
    (sessions : h'.sessions = h.sessions)
    (cloned : ∀ a b, Cloned (log ++ [(c, r)]) a b →
      Cloned log a b ∨ h.handles[a]? = some k ∧ b = h.handles.length)
    (begun : ∀ a S, Begun (log ++ [(c, r)]) a S → Begun log a S)
    (last : Related (log ++ [(c, r)]) ((h.handles ++ [k]).idxOf k) h.handles.length) :
    Tells (log ++ [(c, r)]) h' := by
  have same : ∀ S, h'.session? S = h.session? S := fun S => by rw [session?, sessions, session?]
  refine ⟨?_, ?_, ?_, ?_⟩
  · intro a b told
    rw [handles]
    obtain old | ⟨pointed, rfl⟩ := cloned a b told
    · obtain ⟨i, pointed, pointed'⟩ := tells.cloned a b old
      exact ⟨i, getElem?_concat pointed k, getElem?_concat pointed' k⟩
    · exact ⟨k, getElem?_concat pointed k, List.getElem?_concat_length⟩
  · rw [handles]
    exact founded_concat (tells.founded_mono _) last
  · intro a S told
    obtain ⟨bound, i, pointed, home⟩ := tells.begun a S (begun a S told)
    rw [handles, sessions, same]
    exact ⟨bound, i, getElem?_concat pointed k, home⟩
  · intro S s live
    rw [same] at live
    exact tells.live_mono _ S s live

/-- A session that begins by a handle. -/
theorem opened (tells : Tells log h) {h' : Host} {s : Session} (handles : h'.handles = h.handles)
    (sessions : h'.sessions = h.sessions ++ [some s]) (pointed : h.handles[a]? = some s.home)
    (id : Nat) (active : Bool) :
    Tells (log ++ [(.beginSession a, .ok (.begun h.sessions.length id active))]) h' := by
  have lives : ∀ S s', h'.session? S = some s' ↔
      h.session? S = some s' ∨ S = h.sessions.length ∧ s' = s := by
    intro S s'
    rw [session?, sessions]
    exact session?_concat_iff
  refine ⟨?_, ?_, ?_, ?_⟩
  · intro a b cloned
    obtain old | ⟨⟨⟩, -⟩ := cloned_concat_iff.1 cloned
    rw [handles]
    exact tells.cloned a b old
  · rw [handles]
    exact tells.founded_mono _
  · intro a S begun
    rw [handles, sessions, List.length_append]
    obtain old | ⟨same, _, _, answer⟩ := begun_concat_iff.1 begun
    · obtain ⟨bound, i, pointed, home⟩ := tells.begun a S old
      refine ⟨Nat.lt_add_right _ bound, i, pointed, fun s' live' => ?_⟩
      obtain live | ⟨last, -⟩ := (lives S s').1 live'
      · exact home s' live
      · exact absurd last (Nat.ne_of_lt bound)
    · cases same
      cases answer
      refine ⟨Nat.lt_succ_self _, s.home, pointed, fun s' live' => ?_⟩
      obtain live | ⟨-, rfl⟩ := (lives _ s').1 live'
      · exact absurd (lt_of_session? live) (Nat.lt_irrefl _)
      · rfl
  · intro S s' live'
    obtain live | ⟨rfl, rfl⟩ := (lives S s').1 live'
    · exact tells.live_mono _ S s' live
    · exact ⟨a, begun_concat_iff.2 (.inr ⟨rfl, id, active, rfl⟩)⟩

/-- **One more command** leads from a host that a log tells of to one that the longer log
tells of. -/
theorem passage (tells : Tells log h) (wellFormed : h.WellFormed) {h' : Host}
    (passage : h.Passage c r h') : Tells (log ++ [(c, r)]) h' := by
  cases passage with
  | through closed shifts => exact tells.shifted closed shifts
  | engine created =>
    have fresh : h.engines.length ∉ h.handles := fun known =>
      absurd (wellFormed.handled _ known) (Nat.lt_irrefl _)
    refine tells.handed rfl rfl ?_ (fun a S => begun_concat_of_closed rfl) ?_
    · exact fun a b told => .inl (cloned_concat_of_closed rfl told)
    · rw [List.idxOf_append_of_notMem fresh, List.idxOf_cons_self, Nat.add_zero]
      exact .refl _
  | @handle original i pointed =>
    refine tells.handed rfl rfl ?_ ?_ ?_
    · intro a b told
      obtain old | ⟨⟨⟩, ⟨⟩⟩ := cloned_concat_iff.1 told
      · exact .inl old
      · exact .inr ⟨pointed, rfl⟩
    · intro a S told
      obtain old | ⟨⟨⟩, -⟩ := begun_concat_iff.1 told
      exact old
    · rw [List.idxOf_append_of_mem (List.mem_of_getElem? pointed)]
      refine .trans _ _ _ (tells.founded_mono _ original i pointed) (.rel _ _ ?_)
      exact cloned_concat_iff.2 (.inr ⟨rfl, rfl⟩)
  | session found same home id active =>
    have pointed := wellFormed.pointed found
    rw [← home] at pointed
    refine tells.opened ?_ ?_ pointed id active
    · rfl
    · rfl

end Passage

end Tells

section Create

variable {sites : Nat → Cache.Site} {catalog : Catalog} {settings : Settings} {rows : List Row}
  {start : Logged Host}

theorem tells_create (created : create sites catalog settings rows = .ok start) :
    Tells [] start.result := by
  obtain ⟨made, -, same⟩ := exists_engine_of_create created
  rw [same]
  refine ⟨?_, ?_, ?_, ?_⟩
  · intro a b cloned
    cases cloned
  · intro a i pointed
    cases a with
    | zero =>
      cases pointed
      exact .refl _
    | succ a => cases pointed
  · rintro a S ⟨id, active, told⟩
    cases told
  · intro S s live
    cases live

/-- **A run is told by its log.** -/
theorem tells_run (created : create sites catalog settings rows = .ok start)
    (cs : List Command) : Tells (start.result.log cs) (start.result.run cs).2 := by
  induction cs using List.reverseRecOn with
  | nil => exact tells_create created
  | append_singleton cs c ih =>
    have wellFormed := ((Reachable.create created).run cs).wellFormed
    rw [log_concat, run_concat]
    exact ih.passage wellFormed (passage_step wellFormed c)

end Create

/-! ## What an engine does not notice -/

/-- An engine, the handles that point at it and its sessions are as they were. -/
structure Spares (h : Host) (i : Nat) (h' : Host) : Prop where
  handles : ∀ a : Nat, h.handles[a]? = some i → h'.handles[a]? = some i
  engine : ∀ e, h.engines[i]? = some e → h'.engines[i]? = some e
  sessions : ∀ S < h.sessions.length, (∀ s, h.session? S = some s → s.home = i) →
    h'.session? S = h.session? S

/-- **A command leaves every engine alone** that it does not go through. -/
theorem Passage.spares (wellFormed : h.WellFormed) {c : Command} {r : Except FilterError Reply}
    {h' : Host} (passage : h.Passage c r h') {i : Nat} (apart : h.through c ≠ some i) :
    h.Spares i h' := by
  cases passage with
  | through closed shifts =>
    refine ⟨fun a pointed => ?_, fun e stands => ?_, fun S _ home => ?_⟩
    · rw [shifts.handles, pointed]
    · rw [shifts.engines i apart, stands]
    · cases live : h.session? S with
      | some s => exact shifts.sessions S s live (home s live ▸ apart)
      | none =>
        cases live' : h'.session? S with
        | none => rfl
        | some s' =>
          obtain ⟨s, was, -⟩ := shifts.homes S s' live'
          rw [live] at was
          cases was
  | engine created =>
    refine ⟨fun a pointed => getElem?_concat pointed _, fun e stands => ?_, fun _ _ _ => rfl⟩
    obtain ⟨bound, -⟩ := List.getElem?_eq_some_iff.1 stands
    exact (List.getElem?_append_left bound).trans stands
  | handle pointed =>
    exact ⟨fun a pointed => getElem?_concat pointed _, fun e stands => stands, fun _ _ _ => rfl⟩
  | @session handle e e' s found same home id active =>
    have used : h.handles[handle]? ≠ some i := apart
    refine ⟨fun a pointed => pointed, fun e₁ stands => ?_, fun S bound _ => ?_⟩
    · rw [← (shifts_withEngine wellFormed found same).engines i used] at stands
      exact stands
    · unfold session?
      rw [List.getElem?_append_left bound]

/-! ## Handles that point at one engine -/

section Via

variable {a b : Nat}

theorem engine?_congr (same : h.handles[a]? = h.handles[b]?) : h.engine? a = h.engine? b := by
  rw [engine?, engine?, same]

theorem onEngine_congr (same : h.handles[a]? = h.handles[b]?) (f : Engine → Outcome) :
    h.onEngine a f = h.onEngine b f := by
  rw [onEngine, onEngine, engine?_congr same]

/-- They are interchangeable in every command. -/
theorem step_via (same : h.handles[a]? = h.handles[b]?) (c : Command) :
    h.step (c.via a) = h.step (c.via b) := by
  cases c with
  | cloneEngine =>
    rw [Command.via, Command.via, step, step, cloneEngine, cloneEngine, same]
  | newEngine | endSession | enable | select | disable | inspect | insert => rfl
  | settings | register | convention | activate | beginSession | intercept | compiledFilters
  | compile | lookup | filtersFor | named | parameter | registry | stats | entities
  | execute | find | plan => exact onEngine_congr same _

end Via

/-! ## Whose sessions an engine takes -/

section Sessions

variable {S : Nat} {s : Session} {entity : String} {context : Context} {c : Command}

/-- A parameter of the caller is not reported as a foreign session. -/
theorem unboundParameter_ne_foreignSession (name : String) (s : Session) :
    Predicate.unboundParameter name ≠ Interception.foreignSession s := by
  intro same
  have heads := congrArg (fun text : String => text.toList.head?) (FilterError.intercept.inj same)
  simp [toString] at heads

/-- Filters never report that the interception itself failed. -/
theorem foreign_of_refuses {reason : String}
    (refuses : e.Refuses s entity context (.intercept reason)) : s.home ≠ e.id := by
  generalize failed : FilterError.intercept reason = error at refuses
  cases refuses with
  | foreign apart => exact apart
  | filter _ _ refuses =>
    subst failed
    cases refuses

/-- The interception of an engine's own session fails for no reason of its own. -/
theorem compiledFilters_ne_intercept (sound : e.Sound) (own : s.home = e.id) (entity : String)
    (context : Context) (reason : String) :
    (e.compiledFilters s entity context).result.1 ≠ .error (.intercept reason) :=
  fun failed => foreign_of_refuses (sound.compiledFilters_eq_error_iff.1 failed) own

/-- A query of a session of another engine fails and changes nothing. -/
theorem result_step_of_foreign (wellFormed : h.WellFormed) (found : h.engine? handle = some e)
    (live : h.session? S = some s) (apart : s.home ≠ e.id)
    (intercepts : Intercepts e.registry.catalog handle S entity context c) :
    (h.step c).result = (.error (Interception.foreignSession s), h) := by
  have refused := e.compiledFilters_of_foreign apart entity context
  rw [result_step_of_refused found live refused intercepts, withEngine_self wellFormed found]

/-- **A session is refused** exactly if its home is another engine. -/
theorem answer_eq_foreign_iff (wellFormed : h.WellFormed) (found : h.engine? handle = some e)
    (live : h.session? S = some s)
    (intercepts : Intercepts e.registry.catalog handle S entity context c) :
    (h.step c).result.1 = .error (Interception.foreignSession s) ↔ s.home ≠ e.id := by
  constructor
  · intro failed
    have sound := wellFormed.sound e.id e (wellFormed.engines_of_engine? found)
    obtain refused | ⟨name, same⟩ := refuses_or_unbound sound found live intercepts failed
    · exact foreign_of_refuses refused
    · exact absurd same.symm (unboundParameter_ne_foreignSession name s)
  · intro apart
    rw [result_step_of_foreign wellFormed found live apart intercepts]

end Sessions

/-! ## Families of engines -/

/-- **Engines do not mix.**  Take any commands after the creation of a host, what they were
answered, and an engine by one of its handles.  Handles are related if one was obtained
from the other by any chain of cloning, in either direction.

Every live session was begun by a handle.  A query by the handle for a session fails as
one for a foreign session exactly if the session was begun by no related handle, whatever
the entity type and the context are.  It then changes nothing at all.  If the session was
begun by a related handle, the interception never fails for a reason of its own.

One more command that neither names a related handle nor is about the state of a session
that was begun by one leaves the engine as it is, with its definitions, its activation,
its cache and the counters of that, and all sessions that were begun by related handles.

A related handle gives the same engine, and every command by it has the outcome that it
has by the first one. -/
theorem engines_separate {sites : Nat → Cache.Site} {catalog : Catalog} {settings : Settings}
    {rows : List Row} {start : Logged Host}
    (created : create sites catalog settings rows = .ok start) (cs : List Command) {told : Log}
    {h : Host} (logged : start.result.log cs = told) (ran : (start.result.run cs).2 = h)
    {a : Nat} {e : Engine} (found : h.engine? a = some e) :
    (∀ S s, h.session? S = some s →
      (∃ b, Begun told b S) ∧ ∀ b, Begun told b S → ∀ entity context,
        (∀ c, Intercepts e.registry.catalog a S entity context c →
          ((h.step c).result.1 = .error (Interception.foreignSession s) ↔
            ¬ Related told a b) ∧
          (¬ Related told a b → (h.step c).result.2 = h)) ∧
        (Related told a b → ∀ reason,
          (e.compiledFilters s entity context).result.1 ≠ .error (.intercept reason) ∧
          ∀ predicate,
            (e.intercept s entity predicate context).result.1 ≠ .error (.intercept reason))) ∧
      (∀ c, (∀ b, Uses told c b → ¬ Related told a b) →
        (h.step c).result.2.engine? a = some e ∧
        ∀ b S, Related told a b → Begun told b S →
          (h.step c).result.2.session? S = h.session? S) ∧
      ∀ b, Related told a b →
        h.engine? b = some e ∧ ∀ c : Command, h.step (c.via a) = h.step (c.via b) := by
  have reachable := (Reachable.create created).run cs
  have tells := tells_run created cs
  rw [logged, ran] at tells
  rw [ran] at reachable
  have wellFormed := reachable.wellFormed
  have pointed := wellFormed.pointed found
  have stands := wellFormed.engines_of_engine? found
  refine ⟨fun S s live => ⟨tells.live S s live, ?_⟩, ?_, ?_⟩
  · intro b begun entity context
    have own := tells.home_iff pointed begun live
    refine ⟨fun c intercepts => ⟨?_, fun apart => ?_⟩, fun related reason => ?_⟩
    · rw [answer_eq_foreign_iff wellFormed found live intercepts, own]
    · rw [own] at apart
      rw [result_step_of_foreign wellFormed found live apart intercepts]
    · have accepted := compiledFilters_ne_intercept (wellFormed.sound e.id e stands)
        (own.1 related) entity context reason
      refine ⟨accepted, fun predicate failed => accepted ?_⟩
      exact map_eq_error_iff.1 failed
  · intro c apart
    have spares := (passage_step wellFormed c).spares wellFormed (tells.through_ne pointed apart)
    constructor
    · rw [engine?, spares.handles a pointed]
      exact spares.engine e stands
    · intro b S related begun
      obtain ⟨bound, -⟩ := tells.begun b S begun
      exact spares.sessions S bound fun s live => (tells.home_iff pointed begun live).1 related
  · intro b related
    have same := tells.getElem?_eq_of_related related
    exact ⟨(engine?_congr same).symm.trans found, step_via same⟩

/-! Two engines over one catalog, of which the first one is cloned; a session begins by the
clone and one by the second engine.  The first handle takes the session of the clone and
refuses the other one. -/

def familyRun : List Command :=
  [.convention 0 "tenant" [⟨"id", .int, some "tenant"⟩]
      (.compare .eq (.field "tenant") (.param "id")),
    .newEngine ⟨1, 1, true⟩, .cloneEngine 0, .beginSession 2, .beginSession 1]

/-- What the commands are answered. -/
def familyLog : Log := emptyBlog.log familyRun

/-- The host that they lead to. -/
def family : Host := (emptyBlog.run familyRun).2

def familyEngine : Engine := (family.engine? 0).get (by decide)

/-- The session of the second engine. -/
def strangerSession : Session := (family.session? 1).get (by decide)

theorem engines_separate_family :
    family.engine? 0 = some familyEngine ∧ Related familyLog 0 2 ∧ ¬ Related familyLog 0 1 ∧
      family.engine? 2 = some familyEngine ∧
      (family.step (.execute 0 1 (.all "Post") .empty)).result =
        (.error (Interception.foreignSession strangerSession), family) ∧
      (family.step (.activate 1)).result.2.engine? 0 = some familyEngine := by
  have found : family.engine? 0 = some familyEngine := (Option.some_get _).symm
  have live : family.session? 1 = some strangerSession := (Option.some_get _).symm
  obtain ⟨sessions, frame, shared⟩ :=
    engines_separate (create_newBlog blogRows) familyRun rfl rfl found
  have related : Related familyLog 0 2 :=
    .rel _ _ (List.mem_of_getElem? (i := 2) rfl)
  have apart : ¬ Related familyLog 0 1 := by
    intro related
    have ids := congrArg (Option.map Engine.id) (shared 1 related).1
    exact absurd ids (by decide)
  have begun : Begun familyLog 1 1 := ⟨2, true, List.mem_of_getElem? (i := 4) rfl⟩
  obtain ⟨refused, -⟩ := (sessions 1 strangerSession live).2 1 begun "Post" .empty
  obtain ⟨answer, unchanged⟩ := refused _ (.execute (.all "Post") .empty)
  refine ⟨found, related, apart, (shared 2 related).1, ?_, ?_⟩
  · exact Prod.ext (answer.2 apart) (unchanged apart)
  · refine (frame (.activate 1) ?_).1
    rintro b (⟨⟨⟩⟩ | ⟨⟨⟩, -⟩)
    exact apart

end Host

end RowScope
