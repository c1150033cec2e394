import RowScope.Proofs.Demand
import RowScope.Proofs.Host

/-!
# The counters of a cache add up

Every miss is followed by one insertion, every insertion adds one entry or puts it in the
place of another, and every demand is a hit or a miss.

* `Cache.Accounts` is the invariant of one cache: what it has missed it holds or has
  evicted, and it has counted every demand.  A demand that is met keeps it
  (`Accounts.met`).
* `Cache.stats_meetAll_again`: demands of different keys, no more than a shard has room
  for, are all found when they are made again at once.
* `Host.compilations` says how many filters a command compiles, without the cache, and
  `Host.Charge` what a command does to the caches of a host (`charge_step`).
* `Host.Accounted` is the invariant of all caches of a host; a command keeps it
  (`Accounted.charge`), and so does a run (`Accounted.run`).
-/

namespace RowScope

namespace Cache

variable {c c' : Cache} {m : Demand} {ms : List Demand}

/-! ## Counting demands -/

/-- A tidy cache whose misses are the entries that it holds or has evicted, after
`count` demands. -/
structure Accounts (count : Nat) (c : Cache) : Prop extends Tidy c where
  missed : c.misses = c.size + c.evictions
  demanded : c.hits + c.misses = count

theorem Created.accounts {site : Site} {capacity shards : UInt64}
    (created : c.Created site capacity shards) : Accounts 0 c := by
  refine { created.tidy with missed := ?_, demanded := ?_ }
  · rw [created.misses, created.evictions, size, created.entries]
    rfl
  · rw [created.hits, created.misses]

theorem Met.tidy (met : c.Met m c') (tidy : c.Tidy) : c'.Tidy := by
  cases met with
  | found found =>
    exact (tidy.of_perm (promote_perm tidy.distinct found)).recount _ c.misses c.evictions
  | made missing pushed =>
    exact (tidy.recount c.hits (c.misses + 1) c.evictions).pushed pushed missing

/-- A demand that is met counts once, as a hit or as a miss. -/
theorem Accounts.met {count : Nat} (accounts : Accounts count c) (met : c.Met m c') :
    Accounts (count + 1) c' := by
  have missed := accounts.missed
  have demanded := accounts.demanded
  have distinct := accounts.distinct
  refine { met.tidy accounts.toTidy with missed := ?_, demanded := ?_ }
  · cases met with
    | found found =>
      have kept := (promote_perm distinct found).length_eq
      exact missed.trans (congrArg (· + c.evictions) kept.symm)
    | made missing pushed =>
      obtain ⟨sizes, -, misses⟩ := pushed.counted
      change c'.size + c'.evictions = c.size + c.evictions + 1 at sizes
      change c'.misses = c.misses + 1 at misses
      omega
  · cases met with
    | found found =>
      change c.hits + 1 + c.misses = count + 1
      omega
    | made missing pushed =>
      obtain ⟨-, hits, misses⟩ := pushed.counted
      change c'.hits = c.hits at hits
      change c'.misses = c.misses + 1 at misses
      omega

theorem Accounts.meetAll {count : Nat} (accounts : Accounts count c)
    (compiles : ∀ m ∈ ms, m.Compiles) : Accounts (count + ms.length) (c.meetAll ms) := by
  induction ms generalizing c count with
  | nil => exact accounts
  | cons m ms ih =>
    obtain ⟨first, rest⟩ := List.forall_mem_cons.1 compiles
    have further := ih (accounts.met (met_meet accounts.capacity first)) rest
    rw [List.length_cons, Nat.add_comm ms.length, ← Nat.add_assoc]
    exact further

/-! ## Meeting demands again -/

theorem Met.shape (met : c.Met m c') :
    c'.shardCount = c.shardCount ∧ c'.shardCapacity = c.shardCapacity := by
  cases met with
  | found found => exact ⟨rfl, rfl⟩
  | made missing pushed => exact pushed.shape

/-- What is dropped does not come from the front: as long as fewer keys stand there
than a shard has room for, they stay behind the new one. -/
theorem Pushed.keys_eq {entry : Entry} (pushed : c.Pushed entry c') {front rest : List Key}
    (keys : c.keys = front ++ rest) (few : front.length < c.shardCapacity.toNat) :
    ∃ rest', c'.keys = entry.key :: front ++ rest' := by
  cases pushed with
  | room room => exact ⟨rest, congrArg (entry.key :: ·) keys⟩
  | @evicted newer older last full split same others =>
    -- the entries of the full shard end with the last one, so that is behind the front
    have within : (c.shardEntries entry.key).length ≤ newer.length + 1 := by
      have none : older.filter (fun e => c.shard e.key = c.shard entry.key) = [] :=
        List.filter_eq_nil_iff.2 fun e member => by simpa using others e member
      have le := (List.filter_sublist (l := newer)
        (p := fun e => c.shard e.key = c.shard entry.key)).length_le
      rw [shardEntries, split, List.filter_append, List.filter_cons, none, List.length_append]
      split
      · exact Nat.add_le_add_right le 1
      · exact Nat.le_succ_of_le le
    have behind : front.length ≤ (newer.map Entry.key).length := by
      rw [List.length_map]
      omega
    have inFront : front <+: newer.map Entry.key := by
      have standing : front <+: c.keys := keys ▸ List.prefix_append front rest
      refine List.prefix_of_prefix_length_le standing ?_ behind
      rw [Cache.keys, split, List.map_append]
      exact List.prefix_append _ _
    obtain ⟨middle, eq⟩ := inFront
    refine ⟨middle ++ older.map Entry.key, ?_⟩
    rw [Cache.keys, List.map_cons, List.map_append, ← eq, List.append_assoc, List.cons_append]

/-- A demand for another key puts that in front of the keys that stand there. -/
theorem Met.keys_eq (met : c.Met m c') {front rest : List Key}
    (keys : c.keys = front ++ rest) (few : front.length < c.shardCapacity.toNat)
    (new : m.key ∉ front) : ∃ rest', c'.keys = m.key :: front ++ rest' := by
  cases met with
  | @found e found =>
    have kept : front.filter (fun key => key ≠ m.key) = front :=
      List.filter_eq_self.2 fun key member => by
        simpa using fun same : key = m.key => new (same ▸ member)
    refine ⟨rest.filter fun key => key ≠ m.key, ?_⟩
    change (promote e c.entries).map Entry.key = _
    rw [keys_promote, key_of_find? found]
    change m.key :: c.keys.filter _ = _
    rw [keys, List.filter_append, kept]
    rfl
  | made missing pushed => exact pushed.keys_eq keys few

/-- Demands of different keys, no more than a shard has room for, all stand in front
after they were met. -/
theorem keys_meetAll (tidy : c.Tidy) (compiles : ∀ m ∈ ms, m.Compiles) {front rest : List Key}
    (distinct : ((ms.map Demand.key) ++ front).Nodup) (keys : c.keys = front ++ rest)
    (few : ms.length + front.length ≤ c.shardCapacity.toNat) :
    ∃ rest', (c.meetAll ms).keys = (ms.map Demand.key).reverse ++ front ++ rest' := by
  induction ms generalizing c front rest with
  | nil => exact ⟨rest, keys⟩
  | cons m ms ih =>
    obtain ⟨first, others⟩ := List.forall_mem_cons.1 compiles
    rw [List.length_cons] at few
    rw [List.map_cons, List.cons_append] at distinct
    have met := met_meet tidy.capacity first
    have new : m.key ∉ front := fun member =>
      (List.nodup_cons.1 distinct).1 (List.mem_append_right _ member)
    obtain ⟨rest', keys'⟩ := met.keys_eq keys (by omega) new
    have moved : (ms.map Demand.key ++ m.key :: front).Nodup :=
      List.perm_middle.nodup_iff.2 distinct
    obtain ⟨rest'', keys''⟩ := ih (met.tidy tidy) others moved keys'
      (by rw [met.shape.2, List.length_cons]; omega)
    refine ⟨rest'', ?_⟩
    rw [List.map_cons, List.reverse_cons, List.append_assoc _ [m.key], List.singleton_append]
    exact keys''

theorem Tidy.meetAll (tidy : c.Tidy) (compiles : ∀ m ∈ ms, m.Compiles) :
    (c.meetAll ms).Tidy := by
  induction ms generalizing c with
  | nil => exact tidy
  | cons m ms ih =>
    obtain ⟨first, rest⟩ := List.forall_mem_cons.1 compiles
    exact ih ((met_meet tidy.capacity first).tidy tidy) rest

/-- Demands of keys that are there only count as hits. -/
theorem stats_meetAll_of_mem (distinct : c.keys.Nodup) (held : ∀ m ∈ ms, m.key ∈ c.keys) :
    (c.meetAll ms).stats = { c.stats with hits := c.hits + ms.length } := by
  induction ms generalizing c with
  | nil => rfl
  | cons m ms ih =>
    obtain ⟨first, rest⟩ := List.forall_mem_cons.1 held
    obtain ⟨e, found⟩ := exists_find? first
    have perm := promote_perm distinct found
    have keys := perm.map Entry.key
    have met : c.meet m = { c with entries := promote e c.entries, hits := c.hits + 1 } := by
      rw [meet, getOrInsert_eq, found]
    have further := ih (c := c.meet m) (by rw [met]; exact keys.nodup_iff.2 distinct)
      fun m' member => by rw [met]; exact keys.mem_iff.2 (rest m' member)
    have same : (c.meet m).stats = { c.stats with hits := c.hits + 1 } := by
      rw [met, stats, size, perm.length_eq]
      rfl
    have hits : (c.meet m).hits = c.hits + 1 := congrArg Stats.hits same
    change ((c.meet m).meetAll ms).stats = _
    rw [further, same, hits, List.length_cons, Nat.add_assoc, Nat.add_comm 1]

/-- **Meeting demands again** at once finds them all, if they are of different keys and
no more than a shard has room for. -/
theorem stats_meetAll_again (tidy : c.Tidy) (compiles : ∀ m ∈ ms, m.Compiles)
    (distinct : (ms.map Demand.key).Nodup) (few : ms.length ≤ c.shardCapacity.toNat) :
    ((c.meetAll ms).meetAll ms).stats =
      { (c.meetAll ms).stats with hits := (c.meetAll ms).hits + ms.length } := by
  have alone : (ms.map Demand.key ++ []).Nodup := by rwa [List.append_nil]
  obtain ⟨rest, keys⟩ := keys_meetAll tidy compiles alone (List.nil_append c.keys).symm few
  refine stats_meetAll_of_mem (tidy.meetAll compiles).distinct fun m member => ?_
  rw [keys, List.append_nil]
  refine List.mem_append_left rest (List.mem_reverse.2 ?_)
  exact List.mem_map_of_mem member

end Cache

/-! ## Queries -/

/-- What a query asks: an engine and a session by their numbers, an entity type and the
context. -/
structure Inquiry where
  engine : Nat
  session : Nat
  entity : String
  context : Context

/-- What a command asks, if it is a query. -/
def Command.inquiry? : Command → Option Inquiry
  | .intercept engine session entity _ context => some ⟨engine, session, entity, context⟩
  | .compiledFilters engine session entity context _ => some ⟨engine, session, entity, context⟩
  | .execute engine session query context => some ⟨engine, session, query.entity, context⟩
  | .find engine session entity _ => some ⟨engine, session, entity, .empty⟩
  | .plan engine session query context _ => some ⟨engine, session, query.entity, context⟩
  | _ => none

namespace Engine

variable {e : Engine} {s : Session} {entity : String} {context : Context}

/-- What comes of a query: the engine is left as interception leaves it, and there is an
answer only if all filters were compiled. -/
structure Intercepted {α : Type} (e : Engine) (s : Session) (entity : String)
    (context : Context) (outcome : Except FilterError α × Engine) : Prop where
  after : outcome.2 = (e.compiledFilters s entity context).result.2
  compiled : ∀ a, outcome.1 = .ok a →
    ∃ filters, (e.compiledFilters s entity context).result.1 = .ok filters

theorem intercepted_compiledFilters (e : Engine) (s : Session) (entity : String)
    (context : Context) :
    e.Intercepted s entity context (e.compiledFilters s entity context).result :=
  ⟨rfl, fun filters answered => ⟨filters, answered⟩⟩

theorem intercepted_intercept (e : Engine) (s : Session) (entity : String)
    (predicate : Option Expr) (context : Context) :
    e.Intercepted s entity context (e.intercept s entity predicate context).result :=
  ⟨rfl, fun _ answered => (map_eq_ok_iff.1 answered).imp fun _ given => given.1⟩

theorem intercepted_executeWith {α : Type} (execute : Query → Except FilterError α)
    (e : Engine) (s : Session) (q : Query) (context : Context) :
    e.Intercepted s q.entity context (executeWith execute e s q context).result := by
  refine ⟨rfl, fun a answered => ?_⟩
  obtain ⟨injected, planned, -⟩ := bind_eq_ok_iff.1 answered
  obtain ⟨filters, compiled, -⟩ := map_eq_ok_iff.1 planned
  exact ⟨filters, compiled⟩

/-- There are no filters on an entity type that is not mapped. -/
theorem Sound.filtersFor_of_unmapped (sound : e.Sound)
    (unmapped : e.registry.catalog.schema? entity = none) :
    e.registry.filtersFor entity = [] := by
  obtain ⟨ds, records, -⟩ := sound
  refine List.eq_nil_iff_forall_not_mem.2 fun d filed => ?_
  obtain ⟨member, rfl⟩ := records.mem_filtersFor.1 filed
  obtain ⟨schema, known, -⟩ := records.resolved d member
  rw [unmapped] at known
  cases known

theorem Sound.intercepted_find (sound : e.Sound) (rows : List Row) (s : Session)
    (entity : String) (key : Value) :
    e.Intercepted s entity .empty (find rows e s entity key).result := by
  cases mapped : e.registry.catalog.schema? entity with
  | some schema =>
    have executed := intercepted_executeWith (fun q => q.execute rows) e s
      (Query.byKey entity schema.key key) .empty
    rw [find, mapped]
    refine ⟨executed.after, fun a answered => ?_⟩
    obtain ⟨answer, given, -⟩ := map_eq_ok_iff.1 answered
    exact executed.compiled answer given
  | none =>
    have undemanded : e.demands s entity .empty = [] := by
      rw [demands, sound.filtersFor_of_unmapped mapped]
      exact ite_self _
    rw [find, mapped]
    refine ⟨?_, fun a answered => by cases answered⟩
    rw [sound.after_compiledFilters, queried, undemanded]
    rfl

end Engine

namespace Host

variable {h h' : Host}

/-! ## Commands -/

/-- The number of filters that a command compiles on an engine with all their
parameters given: one for each filter that a query reaches, and one if a definition is
compiled directly and that succeeds. -/
def compilations (h : Host) (i : Nat) (c : Command) : Nat :=
  match c.inquiry? with
  | some q =>
    match h.engine? q.engine, h.session? q.session with
    | some e, some s => if e.id = i then e.reached s q.entity q.context else 0
    | _, _ => 0
  | none =>
    match c with
    | .compile handle entity name values _ =>
      match h.engine? handle with
      | some e =>
        if e.id = i then (e.compile entity name values).result.1.isOk.toNat else 0
      | none => 0
    | _ => 0

/-- The number of filters that a list of commands compiles on an engine. -/
def compilationsIn (h : Host) (i : Nat) : List Command → Nat
  | [] => 0
  | c :: cs => h.compilations i c + (h.step c).result.2.compilationsIn i cs

/-- Every query is intercepted, and its answer turned into a reply. -/
theorem exists_intercepted {c : Command} {q : Inquiry} (asked : c.inquiry? = some q) :
    ∃ (α : Type) (toReply : α → Reply)
      (f : Engine → Session → Logged (Except FilterError α × Engine)),
      h.step c = (h.onEngine q.engine fun e => h.onSession q.session fun s =>
        h.reply toReply (f e s)) ∧
      ∀ (e : Engine) (s : Session), e.Sound →
        e.Intercepted s q.entity q.context (f e s).result := by
  cases c with
  | intercept engine session entity predicate context =>
    cases asked
    exact ⟨_, _, _, rfl, fun e s _ => e.intercepted_intercept s entity predicate context⟩
  | compiledFilters engine session entity context rows =>
    cases asked
    exact ⟨_, _, _, rfl, fun e s _ => e.intercepted_compiledFilters s entity context⟩
  | execute engine session query context =>
    cases asked
    exact ⟨_, _, _, rfl, fun e s _ => Engine.intercepted_executeWith _ e s query context⟩
  | find engine session entity key =>
    cases asked
    exact ⟨_, _, _, rfl, fun e s sound => sound.intercepted_find h.rows s entity key⟩
  | plan engine session query context failure =>
    cases asked
    exact ⟨_, _, _, rfl, fun e s _ => Engine.intercepted_executeWith _ e s query context⟩
  | _ => cases asked

/-- A query has its demands met, and there is an answer only if all filters were
compiled. -/
theorem step_of_inquiry (wellFormed : h.WellFormed) {c : Command} {q : Inquiry}
    (asked : c.inquiry? = some q) {e : Engine} {s : Session}
    (found : h.engine? q.engine = some e) (live : h.session? q.session = some s) :
    (h.step c).result.2 = h.withEngine (e.queried s q.entity q.context) ∧
      ∀ reply, (h.step c).result.1 = .ok reply →
        ∃ filters, (e.compiledFilters s q.entity q.context).result.1 = .ok filters := by
  obtain ⟨α, toReply, f, stepped, intercepted⟩ := exists_intercepted (h := h) asked
  have sound := wellFormed.sound _ e (wellFormed.engines_of_engine? found)
  have outcome := intercepted e s sound
  rw [stepped, query_of_found found live, reply, Logged.result_bind,
    ← sound.after_compiledFilters, ← outcome.after]
  refine ⟨rfl, fun reply answered => ?_⟩
  obtain ⟨a, given, -⟩ := map_eq_ok_iff.1 answered
  exact outcome.compiled a given

/-! ## What commands do to the caches -/

/-- What a command that compiles so many filters on every engine does to the caches. -/
inductive Charge (h : Host) (count : Nat → Nat) : Host → Prop
  | created {settings : Settings} {made : Logged Engine}
      (created : h.newEngine settings = .ok made) (free : ∀ i, count i = 0) :
    Charge h count (h.addEngine made.result)
  | kept {h' : Host} (caches : ∀ i : Nat, (h'.engines[i]?).map Engine.cache =
      (h.engines[i]?).map Engine.cache) (free : ∀ i, count i = 0) : Charge h count h'
  | charged {e : Engine} {ms : List Cache.Demand} (stands : h.engines[e.id]? = some e)
      (compiles : ∀ m ∈ ms, m.Compiles)
      (counted : ∀ i, count i = if e.id = i then ms.length else 0) :
    Charge h count (h.withEngine { e with cache := e.cache.meetAll ms })

section Charge

variable {count : Nat → Nat}

theorem charge_nothing (free : ∀ i, count i = 0) : h.Charge count h := .kept (fun _ => rfl) free

/-- An engine may change, but for its cache, and sessions may come and go. -/
theorem charge_withEngine {e e' : Engine} (stands : h.engines[e.id]? = some e)
    (same : e'.id = e.id) (cache : e'.cache = e.cache) (sessions : List (Option Session))
    (free : ∀ i, count i = 0) : h.Charge count { h.withEngine e' with sessions } := by
  refine .kept (fun i => ?_) free
  change ((h.withEngine e').engines[i]?).map _ = _
  rw [getElem?_withEngine e' (same ▸ stands)]
  split
  · next number => rw [← number, same, stands, Option.map_some, Option.map_some, cache]
  · rfl

theorem charge_inquiry (wellFormed : h.WellFormed) {c : Command} {q : Inquiry}
    (asked : c.inquiry? = some q) :
    h.Charge (fun i => h.compilations i c) (h.step c).result.2 := by
  have counted : ∀ i, h.compilations i c =
      match h.engine? q.engine, h.session? q.session with
      | some e, some s => if e.id = i then e.reached s q.entity q.context else 0
      | _, _ => 0 := by
    intro i
    unfold compilations
    rw [asked]
  obtain ⟨α, toReply, f, stepped, -⟩ := exists_intercepted (h := h) asked
  cases found : h.engine? q.engine with
  | none =>
    rw [stepped, query_of_absent (.inl found)]
    exact charge_nothing fun i => by rw [counted, found]
  | some e =>
    cases live : h.session? q.session with
    | none =>
      rw [stepped, query_of_absent (.inr live)]
      exact charge_nothing fun i => by rw [counted, found, live]
    | some s =>
      have stands := wellFormed.engines_of_engine? found
      have sound := wellFormed.sound _ e stands
      rw [(step_of_inquiry wellFormed asked found live).1]
      refine .charged stands sound.compiles_of_mem_demands fun i => ?_
      rw [counted, found, live, sound.length_demands]

theorem charge_compile (wellFormed : h.WellFormed) (handle : Nat) (entity name : String)
    (values : Dict Value) (rows : List Row) :
    h.Charge (fun i => h.compilations i (.compile handle entity name values rows))
      (h.step (.compile handle entity name values rows)).result.2 := by
  rw [step, onEngine]
  cases found : h.engine? handle with
  | none =>
    refine charge_nothing fun i => ?_
    simp only [compilations, Command.inquiry?, found]
  | some e =>
    have stands := wellFormed.engines_of_engine? found
    obtain ⟨ms, compiles, after, length⟩ :=
      (wellFormed.sound _ e stands).after_compile entity name values
    dsimp only
    rw [reply, Logged.result_bind, Logged.result_pure, after]
    refine .charged stands compiles fun i => ?_
    simp only [compilations, Command.inquiry?, found, length]

/-- **Every command** charges the caches with the filters that it compiles. -/
theorem charge_step (wellFormed : h.WellFormed) (c : Command) :
    h.Charge (fun i => h.compilations i c) (h.step c).result.2 := by
  have changed : ∀ {handle : Nat} {e e' : Engine}, h.engine? handle = some e → e'.id = e.id →
      e'.cache = e.cache → h.Charge (fun _ => 0) (h.withEngine e') :=
    fun found same cache =>
      charge_withEngine (wellFormed.engines_of_engine? found) same cache h.sessions fun _ => rfl
  have turned : ∀ (session : Nat) (s : Session),
      h.Charge (fun _ => 0) (h.withSession session s) :=
    fun session s => .kept (fun _ => rfl) fun _ => rfl
  have nothing : h.Charge (fun _ => 0) h := charge_nothing fun _ => rfl
  cases c with
  | newEngine settings =>
    rw [step]
    split
    · next made created => exact .created created fun _ => rfl
    · exact nothing
  | cloneEngine engine =>
    rw [step, cloneEngine]
    split
    · exact .kept (fun _ => rfl) fun _ => rfl
    · exact nothing
  | register engine entity name params template =>
    exact after_onEngine nothing engine fun e found => changed found rfl rfl
  | convention engine name params template =>
    exact after_onEngine nothing engine fun e found => changed found rfl rfl
  | activate engine => exact after_onEngine nothing engine fun e found => changed found rfl rfl
  | beginSession engine =>
    refine after_onEngine nothing engine fun e found => ?_
    obtain ⟨-, registry, after, -⟩ := e.result_beginSession (h.sessions.length + 1)
    refine charge_withEngine (wellFormed.engines_of_engine? found) ?_ ?_ _ fun _ => rfl
    · rw [after]
    · rw [after]
  | endSession session =>
    exact after_onSession nothing session fun s _ => .kept (fun _ => rfl) fun _ => rfl
  | enable session filter values read =>
    refine after_onHome nothing session fun s e live home => ?_
    obtain ⟨s', after, -⟩ := exists_turned_bindAndRead (h := h) session filter values read
      (Session.turned_enable e.registry s filter)
    rw [Logged.result_bind, after]
    exact turned session s'
  | select session filter values read =>
    refine after_onHome nothing session fun s e live home => ?_
    obtain ⟨s', after, -⟩ := exists_turned_bindAndRead (h := h) session filter values read
      (turned_select e.registry s filter)
    rw [after]
    exact turned session s'
  | disable session filter => exact after_onSession nothing session fun s _ => turned session _
  | intercept | compiledFilters | execute | find | plan => exact charge_inquiry wellFormed rfl
  | compile engine entity name values rows =>
    exact charge_compile wellFormed engine entity name values rows
  | insert rows => exact .kept (fun _ => rfl) fun _ => rfl
  | inspect session => exact after_onSession nothing session fun _ _ => nothing
  | settings engine | lookup engine | filtersFor engine | named engine | parameter engine
  | registry engine | stats engine | entities engine =>
    exact after_onEngine nothing engine fun _ _ => nothing

end Charge

/-! ## Accounts of a host -/

/-- Every cache has counted so many demands, and there are none for engines to come. -/
structure Accounted (h : Host) (count : Nat → Nat) : Prop where
  accounts : ∀ (i : Nat) (e : Engine), h.engines[i]? = some e → e.cache.Accounts (count i)
  fresh : ∀ i : Nat, h.engines[i]? = none → count i = 0

theorem Accounted.charge {count more : Nat → Nat} (accounted : h.Accounted count)
    (charge : h.Charge more h') : h'.Accounted fun i => count i + more i := by
  cases charge with
  | @created _ made created free =>
    obtain ⟨cache, allocated, new⟩ := Engine.exists_cache_of_create created
    refine ⟨fun i e stands => ?_, fun i absent => ?_⟩
    · rw [free, Nat.add_zero]
      rcases getElem?_addEngine stands with old | ⟨rfl, rfl⟩
      · exact accounted.accounts i e old
      · rw [accounted.fresh _ (List.getElem?_eq_none_iff.2 (Nat.le_refl _)), new]
        exact (Cache.created_of_create allocated).accounts
    · rw [free, Nat.add_zero]
      refine accounted.fresh i (List.getElem?_eq_none_iff.2 ?_)
      have beyond := List.getElem?_eq_none_iff.1 absent
      exact Nat.le_trans (by simp [addEngine]) beyond
  | kept caches free =>
    refine ⟨fun i e stands => ?_, fun i absent => ?_⟩
    · have cache := caches i
      rw [stands, Option.map_some] at cache
      obtain ⟨e', stands', same⟩ := Option.map_eq_some_iff.1 cache.symm
      rw [free, Nat.add_zero, ← same]
      exact accounted.accounts i e' stands'
    · have cache := caches i
      rw [absent, Option.map_none] at cache
      rw [free, Nat.add_zero]
      exact accounted.fresh i (Option.map_eq_none_iff.1 cache.symm)
  | @charged e ms stands compiles counted =>
    have replaced := getElem?_withEngine { e with cache := e.cache.meetAll ms } stands
    refine ⟨fun i e' stands' => ?_, fun i absent => ?_⟩
    · rw [replaced] at stands'
      rw [counted]
      split at stands'
      · next number =>
        cases stands'
        rw [if_pos number]
        subst number
        exact (accounted.accounts e.id e stands).meetAll compiles
      · next other =>
        rw [if_neg other]
        exact accounted.accounts i e' stands'
    · rw [replaced] at absent
      rw [counted]
      split at absent
      · cases absent
      · next other =>
        rw [if_neg other]
        exact accounted.fresh i absent

theorem Accounted.run {count : Nat → Nat} (wellFormed : h.WellFormed)
    (accounted : h.Accounted count) (cs : List Command) :
    (h.run cs).2.Accounted fun i => count i + h.compilationsIn i cs := by
  induction cs generalizing h count with
  | nil => exact accounted
  | cons c cs ih =>
    have further := ih (wellFormed.step c) (accounted.charge (charge_step wellFormed c))
    simp only [Nat.add_assoc] at further
    exact further

theorem accounted_create {sites : Nat → Cache.Site} {catalog : Catalog} {settings : Settings}
    {rows : List Row} {start : Logged Host}
    (created : create sites catalog settings rows = .ok start) :
    start.result.Accounted fun _ => 0 := by
  obtain ⟨made, first, same⟩ := exists_engine_of_create created
  have vacant : Accounted ⟨sites, catalog, rows, [], [], []⟩ fun _ => 0 :=
    ⟨fun i e stands => (by cases stands), fun _ _ => rfl⟩
  rw [same]
  exact vacant.charge (.created first fun _ => rfl)

/-! ## Repeating a query -/

/-- **A query that is repeated** at once finds all its predicates, if they are no more
than a shard has room for. -/
theorem stats_of_repeated (wellFormed : h.WellFormed) {c : Command} {q : Inquiry}
    (asked : c.inquiry? = some q) {e : Engine} {s : Session}
    (found : h.engine? q.engine = some e) (live : h.session? q.session = some s)
    (tidy : e.cache.Tidy) (few : e.reached s q.entity q.context ≤ e.cache.shardCapacity.toNat) :
    ∃ once twice : Engine, (h.step c).result.2.engine? q.engine = some once ∧
      ((h.step c).result.2.step c).result.2.engine? q.engine = some twice ∧
      twice.cache.stats =
        { once.cache.stats with hits := once.cache.hits + e.reached s q.entity q.context } := by
  have sound := wellFormed.sound _ e (wellFormed.engines_of_engine? found)
  have wellFormed' := wellFormed.step c
  have after := (step_of_inquiry wellFormed asked found live).1
  have found' : (h.step c).result.2.engine? q.engine = some (e.queried s q.entity q.context) := by
    rw [after]
    exact engine?_withEngine wellFormed found rfl
  have live' : (h.step c).result.2.session? q.session = some s := by
    rw [after]
    exact live
  refine ⟨_, (e.queried s q.entity q.context).queried s q.entity q.context, found', ?_, ?_⟩
  · rw [(step_of_inquiry wellFormed' asked found' live').1]
    exact engine?_withEngine wellFormed' found' rfl
  · -- what a query demands does not depend on the cache
    rw [← sound.length_demands] at few ⊢
    exact Cache.stats_meetAll_again tidy sound.compiles_of_mem_demands sound.nodup_demands few

/-! ## The accounts of an engine -/

/-- **The counters of a cache add up.**  After any commands, whatever the settings of the
engines are and however keys are routed to shards, the misses of the cache of an engine
are the entries that it holds or has evicted, and its hits and misses together are the
filters that the commands compiled on that engine, through whichever handle.  It holds no
more than the capacity that it reports, which is what its shards have room for together.

A query that is answered has compiled its filters.  If they are no more than one shard
has room for, the same query put again at once adds as many hits and changes no other
number that the cache reports. -/
theorem cache_accounts {sites : Nat → Cache.Site} {catalog : Catalog} {settings : Settings}
    {rows : List Row} {start : Logged Host}
    (created : create sites catalog settings rows = .ok start) (cs : List Command)
    (ran : (start.result.run cs).2 = h) {handle : Nat} {e : Engine}
    (found : h.engine? handle = some e) :
    e.cache.misses = e.cache.size + e.cache.evictions ∧
    e.cache.hits + e.cache.misses = start.result.compilationsIn e.id cs ∧
    e.cache.size ≤ e.cache.capacity.toNat ∧
    e.cache.capacity.toNat = e.cache.shardCapacity.toNat * e.cache.shardCount.toNat ∧
    ∀ (c : Command) (q : Inquiry) (s : Session) (reply : Reply), c.inquiry? = some q →
      h.engine? q.engine = some e → h.session? q.session = some s →
      (h.step c).result.1 = .ok reply →
        ∃ filters, (e.compiledFilters s q.entity q.context).result.1 = .ok filters ∧
          (filters.length ≤ e.cache.shardCapacity.toNat →
            ∃ once twice : Engine, (h.step c).result.2.engine? q.engine = some once ∧
              ((h.step c).result.2.step c).result.2.engine? q.engine = some twice ∧
              twice.cache.stats =
                { once.cache.stats with hits := once.cache.hits + filters.length }) := by
  have wellFormed := wellFormed_create created
  have accounted := (accounted_create created).run wellFormed cs
  have wellFormed' := (Reachable.create created).run cs |>.wellFormed
  rw [ran] at accounted wellFormed'
  have stands := wellFormed'.engines_of_engine? found
  have accounts := accounted.accounts e.id e stands
  refine ⟨accounts.missed, ?_, accounts.size_le_capacity, e.cache.toNat_capacity, ?_⟩
  · rw [accounts.demanded, Nat.zero_add]
  · intro c q s reply asked found' live answered
    obtain ⟨filters, compiled⟩ :=
      (step_of_inquiry wellFormed' asked found' live).2 reply answered
    have length := (wellFormed'.sound _ e stands).length_filters compiled
    refine ⟨filters, compiled, fun few => ?_⟩
    rw [length] at few ⊢
    exact stats_of_repeated wellFormed' asked found' live accounts.toTidy few

/-! With a cache for one predicate the second query drops the predicate of the first one,
the third finds its own, and of two definitions compiled directly the first lacks a value. -/

def blogTraffic : List Command :=
  [.convention 0 "tenant" [⟨"id", .int, some "tenant"⟩]
      (.compare .eq (.field "tenant") (.param "id")),
    .beginSession 0, .enable 0 "tenant" [("id", .int 1)] [],
    .execute 0 0 (.all "Post") .empty,
    .execute 0 0 (.all "Comment") .empty, .execute 0 0 (.all "Comment") .empty,
    .compile 0 "Post" "tenant" .empty [],
    .compile 0 "Post" "tenant" (.ofList [("id", .int 3)]) []]

/-- That host after these commands. -/
def busyBlog : Host := (emptyBlog.run blogTraffic).2

def busyEngine : Engine := (busyBlog.engine? 0).get (by decide)

def busySession : Session := (busyBlog.session? 0).get (by decide)

theorem cache_accounts_blog :
    busyBlog.engine? 0 = some busyEngine ∧ busyEngine.cache.stats = ⟨1, 3, 2, 1, 1⟩ ∧
      1 + 3 = emptyBlog.compilationsIn 0 blogTraffic ∧
      ∃ once twice : Engine,
        (busyBlog.step (.execute 0 0 (.all "Post") .empty)).result.2.engine? 0 = some once ∧
        ((busyBlog.step (.execute 0 0 (.all "Post") .empty)).result.2.step
          (.execute 0 0 (.all "Post") .empty)).result.2.engine? 0 = some twice ∧
        twice.cache.stats = { once.cache.stats with hits := once.cache.hits + 1 } := by
  have found : busyBlog.engine? 0 = some busyEngine := (Option.some_get _).symm
  have live : busyBlog.session? 0 = some busySession := (Option.some_get _).symm
  have stats : busyEngine.cache.stats = ⟨1, 3, 2, 1, 1⟩ := by decide
  obtain ⟨-, demanded, -, -, repeated⟩ :=
    cache_accounts (h := busyBlog) (create_newBlog blogRows) blogTraffic rfl found
  obtain ⟨filters, compiled, again⟩ :=
    repeated (.execute 0 0 (.all "Post") .empty) _ busySession _ rfl found live rfl
  have one : filters.length = 1 := by
    have length : (busyEngine.compiledFilters busySession "Post" .empty).result.1.map
        List.length = .ok 1 := rfl
    exact Except.ok.inj ((congrArg (Except.map List.length) compiled).symm.trans length)
  obtain ⟨once, twice, first, second, counted⟩ := again (Nat.le_of_eq one)
  rw [one] at counted
  exact ⟨found, stats, demanded, once, twice, first, second, counted⟩

end Host

end RowScope
