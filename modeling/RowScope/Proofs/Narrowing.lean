import RowScope.Proofs.Conjunction

/-!
# Narrowing by conjunction

Conjunction is associative as an operation on trees, and commutative as far as rows can
tell.  Narrowing a query and injecting filters are folds of it.

* `Expr.conjoin_assoc`, `Expr.exists_conjoin_eq`: what the tree of a conjunction is.
* `Expr.matches_conjoin_iff`: a row matches a conjunction if it matches both parts.
* `Grouping`: operands joined two by two.  Grouped operands lead to the very query that
  the operands lead to one after the other (`Query.foldl_filter_joined`), and filters are
  injected as the expressions that they were made of (`Query.inject_eq_foldl_filter`).
* `Query.execute_narrowed_iff`: a narrowed query selects the rows that match everything,
  so that the order does not matter either.
* `Query.narrowing_laws` puts these together.
-/

namespace RowScope

/-! ## The tree of a conjunction -/

namespace Expr

/-- The operands that an expression brings into a conjunction: its own ones if it is a
conjunction, and else itself. -/
inductive Operands : Expr → List Expr → Prop
  | conj (es : List Expr) : Operands (.conj es) es
  | other {e : Expr} (single : ∀ es, e ≠ .conj es) : Operands e [e]

theorem operands_conjuncts (e : Expr) : e.Operands e.conjuncts := by
  cases e with
  | conj es => exact .conj es
  | _ => exact .other fun es => Expr.noConfusion

theorem exists_conjoin_eq (a b : Expr) :
    ∃ as bs, a.Operands as ∧ b.Operands bs ∧ a.conjoin b = .conj (as ++ bs) :=
  ⟨_, _, operands_conjuncts a, operands_conjuncts b, rfl⟩

theorem conjoin_assoc (a b c : Expr) : (a.conjoin b).conjoin c = a.conjoin (b.conjoin c) := by
  change conj ((a.conjuncts ++ b.conjuncts) ++ c.conjuncts) =
    conj (a.conjuncts ++ (b.conjuncts ++ c.conjuncts))
  rw [List.append_assoc]

theorem conjoin?_conjoin? (p : Option Expr) (a b : Expr) :
    conjoin? (some (conjoin? p a)) b = conjoin? p (a.conjoin b) := by
  cases p with
  | none => rfl
  | some e => exact conjoin_assoc e a b

/-! ## Compilation and matching -/

/-- An expression can be executed. -/
def Compiles (e : Expr) : Prop := ∃ p, Predicate.compile e = .ok p

/-- A row matches an expression if it matches the predicate that the expression compiles
to. -/
def Matches (e : Expr) (row : Row) : Prop :=
  ∃ p ∈ (Predicate.compile e).toOption, p.holds row = true

instance (e : Expr) (row : Row) : Decidable (e.Matches row) :=
  inferInstanceAs (Decidable (∃ p ∈ Except.toOption _, _))

variable {a b e : Expr} {p : Option Expr} {row : Row}

theorem matches_iff : e.Matches row ↔ ∃ p, Predicate.compile e = .ok p ∧ p.holds row = true := by
  unfold Matches
  cases Predicate.compile e with
  | error error => simp [Except.toOption]
  | ok p => simp [Except.toOption]

/-- A row matches what it has the value true for. -/
theorem matches_iff_holds (compiles : e.Compiles) :
    e.Matches row ↔ e.Holds (fun _ => .null) row := by
  obtain ⟨p, compiled⟩ := compiles
  have tree := Predicate.toExpr_of_compile e compiled
  have same := Predicate.holds_iff (fun _ => .null) p row
  rw [tree] at same
  rw [matches_iff, compiled, ← same]
  simp

theorem compiles_toExpr (p : Predicate) : p.toExpr.Compiles := ⟨p, Predicate.compile_toExpr p⟩

theorem matches_toExpr_iff (p : Predicate) : p.toExpr.Matches row ↔ p.holds row = true := by
  rw [matches_iff, Predicate.compile_toExpr]
  simp

/-- A conjunction compiles to the conjunction of what both parts compile to. -/
theorem compile_conjoin_eq_ok_iff {r : Predicate} :
    Predicate.compile (a.conjoin b) = .ok r ↔
      ∃ p q, Predicate.compile a = .ok p ∧ Predicate.compile b = .ok q ∧ p.conjoin q = r := by
  rw [Predicate.compile_conjoin, bind_eq_ok_iff]
  constructor
  · rintro ⟨p, left, compiled⟩
    obtain ⟨q, right, same⟩ := bind_eq_ok_iff.1 compiled
    exact ⟨p, q, left, right, Except.ok.inj same⟩
  · rintro ⟨p, q, left, right, rfl⟩
    exact ⟨p, left, bind_eq_ok_iff.2 ⟨q, right, rfl⟩⟩

theorem compiles_conjoin_iff : (a.conjoin b).Compiles ↔ a.Compiles ∧ b.Compiles := by
  unfold Compiles
  simp only [compile_conjoin_eq_ok_iff]
  constructor
  · rintro ⟨r, p, q, left, right, -⟩
    exact ⟨⟨p, left⟩, q, right⟩
  · rintro ⟨⟨p, left⟩, q, right⟩
    exact ⟨p.conjoin q, p, q, left, right, rfl⟩

/-- The error of the first part counts. -/
theorem compile_conjoin_eq_error_iff {error : FilterError} :
    Predicate.compile (a.conjoin b) = .error error ↔
      Predicate.compile a = .error error ∨ a.Compiles ∧ Predicate.compile b = .error error := by
  unfold Compiles
  rw [Predicate.compile_conjoin]
  cases Predicate.compile a with
  | error first =>
    change Except.error first = .error error ↔ _
    simp
  | ok p =>
    change (Predicate.compile b).map p.conjoin = .error error ↔ _
    rw [map_eq_error_iff]
    simp

/-- **A row matches a conjunction if it matches both parts**, whatever the parts are. -/
theorem matches_conjoin_iff : (a.conjoin b).Matches row ↔ a.Matches row ∧ b.Matches row := by
  simp only [matches_iff, compile_conjoin_eq_ok_iff]
  constructor
  · rintro ⟨r, ⟨p, q, left, right, rfl⟩, matched⟩
    rw [Predicate.holds_conjoin, Bool.and_eq_true] at matched
    exact ⟨⟨p, left, matched.1⟩, q, right, matched.2⟩
  · rintro ⟨⟨p, left, first⟩, q, right, second⟩
    refine ⟨p.conjoin q, ⟨p, q, left, right, rfl⟩, ?_⟩
    rw [Predicate.holds_conjoin, first, second]
    rfl

/-! A null is not true, be it the root or an operand. -/

example : ¬ ((Expr.literal .null).conjoin (.conj [])).Matches ⟨"Post", .empty⟩ := by decide

/-! The same of an expression that may be missing. -/

theorem forall_compiles_conjoin?_iff :
    (∀ x ∈ some (conjoin? p e), x.Compiles) ↔ (∀ x ∈ p, x.Compiles) ∧ e.Compiles := by
  cases p with
  | none => simp [conjoin?]
  | some a => simp [conjoin?, compiles_conjoin_iff]

theorem forall_matches_conjoin?_iff :
    (∀ x ∈ some (conjoin? p e), x.Matches row) ↔ (∀ x ∈ p, x.Matches row) ∧ e.Matches row := by
  cases p with
  | none => simp [conjoin?]
  | some a => simp [conjoin?, matches_conjoin_iff]

end Expr

/-! ## Groups -/

/-- Operands that are joined two by two. -/
inductive Grouping (α : Type)
  | one (a : α)
  | both (left right : Grouping α)

namespace Grouping

variable {α : Type}

/-- The operands in their order. -/
def operands : Grouping α → List α
  | .one a => [a]
  | .both l r => l.operands ++ r.operands

/-- What the operands are joined to. -/
def joined (join : α → α → α) : Grouping α → α
  | .one a => a
  | .both l r => join (l.joined join) (r.joined join)

end Grouping

namespace Predicate

/-- The expression of a conjunction is the conjunction of the expressions. -/
theorem toExpr_conjoin (p q : Predicate) : (p.conjoin q).toExpr = p.toExpr.conjoin q.toExpr := by
  have compiled : compile (p.toExpr.conjoin q.toExpr) = .ok (p.conjoin q) :=
    Expr.compile_conjoin_eq_ok_iff.2 ⟨p, q, compile_toExpr p, compile_toExpr q, rfl⟩
  exact toExpr_of_compile _ compiled

end Predicate

/-! ## Queries -/

namespace Query

variable {q : Query} {rows answer : List Row}

theorem filter_filter (q : Query) (a b : Expr) : (q.filter a).filter b = q.filter (a.conjoin b) := by
  unfold filter
  rw [Expr.conjoin?_conjoin?]

/-- Grouped operands narrow a query as they do one after the other. -/
theorem filter_joined (q : Query) (g : Grouping Expr) :
    q.filter (g.joined Expr.conjoin) = g.operands.foldl filter q := by
  induction g generalizing q with
  | one a => rfl
  | both l r left right =>
    rw [Grouping.joined, Grouping.operands, ← filter_filter, List.foldl_append, left, right]

theorem foldl_filter_joined (q : Query) (gs : List (Grouping Expr)) :
    (gs.map (Grouping.joined Expr.conjoin)).foldl filter q =
      (gs.flatMap Grouping.operands).foldl filter q := by
  rw [List.foldl_map, List.foldl_flatMap]
  simp only [filter_joined]

/-! Filters that are injected are narrowed by, so the same holds of them. -/

theorem inject_append (p : Option Expr) (fs gs : List Predicate) :
    inject p (fs ++ gs) = inject (inject p fs) gs := List.foldl_append

theorem inject_joined (p : Option Expr) (g : Grouping Predicate) :
    inject p [g.joined Predicate.conjoin] = inject p g.operands := by
  induction g generalizing p with
  | one f => rfl
  | both l r left right =>
    rw [Grouping.operands, inject_append, ← left, ← right]
    unfold inject
    simp only [List.foldl_cons, List.foldl_nil, Grouping.joined, Predicate.toExpr_conjoin,
      Expr.conjoin?_conjoin?]

theorem inject_map_joined (p : Option Expr) (gs : List (Grouping Predicate)) :
    inject p (gs.map (Grouping.joined Predicate.conjoin)) =
      inject p (gs.flatMap Grouping.operands) := by
  induction gs generalizing p with
  | nil => rfl
  | cons g gs ih =>
    rw [List.map_cons, List.flatMap_cons, inject_append, ← inject_joined p g, ← ih]
    rfl

/-- To inject filters is to narrow by the expressions that they were made of. -/
theorem inject_eq_foldl_filter (q : Query) (filters : List Predicate) :
    { q with predicate := inject q.predicate filters } =
      (filters.map Predicate.toExpr).foldl filter q := by
  induction filters generalizing q with
  | nil => rfl
  | cons f filters ih => exact ih (q.filter f.toExpr)

/-! ## Rows -/

/-- A query selects the rows that match its predicate and its filters. -/
theorem execute_iff :
    q.execute rows = .ok answer ↔ (∀ e ∈ q.predicate, e.Compiles) ∧
      answer = rows.filter fun row => row.entity = q.entity ∧
        (∀ e ∈ q.predicate, e.Matches row) ∧ ∀ f ∈ q.filters, f.holds row = true := by
  have free : (∀ e ∈ q.predicate, e.paramOccurrences = []) ↔ ∀ e ∈ q.predicate, e.Compiles :=
    forall₂_congr fun e _ => Expr.exists_compile_iff.symm
  rw [execute_eq_ok_iff, free]
  refine and_congr_right fun compiles => ?_
  have selects : ∀ row, q.Selects row ↔ row.entity = q.entity ∧
      (∀ e ∈ q.predicate, e.Matches row) ∧ ∀ f ∈ q.filters, f.holds row = true := by
    intro row
    have matched : (∀ e ∈ q.predicate, e.Holds (fun _ => .null) row) ↔
        ∀ e ∈ q.predicate, e.Matches row :=
      forall₂_congr fun e given => (Expr.matches_iff_holds (compiles e given)).symm
    rw [Selects, matched]
  simp only [selects]

/-- **A narrowed query** selects the rows that match everything it was narrowed by. -/
theorem execute_narrowed_iff (es : List Expr) :
    (es.foldl filter q).execute rows = .ok answer ↔
      ((∀ e ∈ q.predicate, e.Compiles) ∧ ∀ e ∈ es, e.Compiles) ∧
        answer = rows.filter fun row => row.entity = q.entity ∧
          ((∀ e ∈ q.predicate, e.Matches row) ∧ ∀ e ∈ es, e.Matches row) ∧
          ∀ f ∈ q.filters, f.holds row = true := by
  induction es generalizing q with
  | nil => simpa using execute_iff
  | cons e es ih =>
    rw [List.foldl_cons, ih]
    unfold filter
    simp only [Expr.forall_compiles_conjoin?_iff, Expr.forall_matches_conjoin?_iff,
      List.forall_mem_cons, and_assoc]

theorem execute_injected_iff (filters : List Predicate) :
    ({ q with predicate := inject q.predicate filters } : Query).execute rows = .ok answer ↔
      (∀ e ∈ q.predicate, e.Compiles) ∧
        answer = rows.filter fun row => row.entity = q.entity ∧
          ((∀ e ∈ q.predicate, e.Matches row) ∧ ∀ f ∈ filters, f.holds row = true) ∧
          ∀ f ∈ q.filters, f.holds row = true := by
  have compile : ∀ f ∈ filters, f.toExpr.Compiles := fun f _ => Expr.compiles_toExpr f
  rw [inject_eq_foldl_filter, execute_narrowed_iff]
  simp only [List.forall_mem_map, Expr.matches_toExpr_iff]
  rw [and_iff_left compile]

/-- The order in which a query is narrowed does not matter. -/
theorem execute_narrowed_perm {es es' : List Expr} (reordered : es.Perm es') :
    (es.foldl filter q).execute rows = .ok answer ↔
      (es'.foldl filter q).execute rows = .ok answer := by
  have members : ∀ P : Expr → Prop, (∀ e ∈ es, P e) ↔ ∀ e ∈ es', P e := fun P =>
    forall_congr' fun e => imp_congr_left reordered.mem_iff
  simp only [execute_narrowed_iff, members]

/-- **The laws of conjunction.**

* As trees, conjunctions are associative, and a conjunction has the operands of its first
  part, which is its own operand if it is no conjunction, before those of the second.
* A conjunction compiles exactly if both parts do, and fails with the error of the first
  part or else of the second.  A row matches it exactly if it matches both parts.
* A query may be narrowed by expressions one after the other or by groups of them, and
  that is the same query.  It can be executed exactly if its predicate and all
  expressions compile, and selects the rows of its type that match all of them and its
  filters.  So their order does not matter.
* The same holds of filters that are injected into the predicate; these always compile. -/
theorem narrowing_laws (a b c : Expr) (q : Query) (rows answer : List Row) :
    (a.conjoin b).conjoin c = a.conjoin (b.conjoin c) ∧
    (∃ as bs, a.Operands as ∧ b.Operands bs ∧ a.conjoin b = .conj (as ++ bs)) ∧
    ((a.conjoin b).Compiles ↔ a.Compiles ∧ b.Compiles) ∧
    (∀ error, Predicate.compile (a.conjoin b) = .error error ↔
      Predicate.compile a = .error error ∨ a.Compiles ∧ Predicate.compile b = .error error) ∧
    (∀ row, (a.conjoin b).Matches row ↔ a.Matches row ∧ b.Matches row) ∧
    (∀ gs : List (Grouping Expr), (gs.map (Grouping.joined Expr.conjoin)).foldl filter q =
      (gs.flatMap Grouping.operands).foldl filter q) ∧
    (∀ es : List Expr, (es.foldl filter q).execute rows = .ok answer ↔
      ((∀ e ∈ q.predicate, e.Compiles) ∧ ∀ e ∈ es, e.Compiles) ∧
        answer = rows.filter fun row => row.entity = q.entity ∧
          ((∀ e ∈ q.predicate, e.Matches row) ∧ ∀ e ∈ es, e.Matches row) ∧
          ∀ f ∈ q.filters, f.holds row = true) ∧
    (∀ es es' : List Expr, es.Perm es' → ((es.foldl filter q).execute rows = .ok answer ↔
      (es'.foldl filter q).execute rows = .ok answer)) ∧
    (∀ gs : List (Grouping Predicate),
      inject q.predicate (gs.map (Grouping.joined Predicate.conjoin)) =
        inject q.predicate (gs.flatMap Grouping.operands)) ∧
    (∀ filters : List Predicate,
      ({ q with predicate := inject q.predicate filters } : Query).execute rows = .ok answer ↔
        (∀ e ∈ q.predicate, e.Compiles) ∧
          answer = rows.filter fun row => row.entity = q.entity ∧
            ((∀ e ∈ q.predicate, e.Matches row) ∧ ∀ f ∈ filters, f.holds row = true) ∧
            ∀ f ∈ q.filters, f.holds row = true) ∧
    ∀ fs fs' : List Predicate, fs.Perm fs' →
      (({ q with predicate := inject q.predicate fs } : Query).execute rows = .ok answer ↔
        ({ q with predicate := inject q.predicate fs' } : Query).execute rows = .ok answer) := by
  refine ⟨Expr.conjoin_assoc a b c, Expr.exists_conjoin_eq a b, Expr.compiles_conjoin_iff,
    fun error => Expr.compile_conjoin_eq_error_iff, fun row => Expr.matches_conjoin_iff,
    foldl_filter_joined q, execute_narrowed_iff, fun es es' => execute_narrowed_perm,
    inject_map_joined q.predicate, execute_injected_iff, fun fs fs' reordered => ?_⟩
  rw [inject_eq_foldl_filter, inject_eq_foldl_filter]
  exact execute_narrowed_perm (reordered.map Predicate.toExpr)

end Query

end RowScope
