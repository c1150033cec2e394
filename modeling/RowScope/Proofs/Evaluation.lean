import RowScope.Expr.Binding
import RowScope.Expr.Predicate

/-!
# What expressions stand for

`Expr.value` reads an expression directly on a row, its parameters in an
environment.  Everything that happens to an expression on its way to a row is
stated against it.

* `Predicate.compile_eq_ok_iff`: compilation keeps the tree, and
  `Expr.exists_compile_iff`: it succeeds exactly without parameters.  Otherwise the
  first parameter is the error (`Expr.compile_eq_error_iff`).
* `Predicate.eval_eq_value`: a predicate evaluates to the value of its tree.
* `Expr.value_of_bind`: binding substitutes, so the bound expression has the value
  of the template in the environment of the bound values.
* `Expr.bind_congr`: only the values of the parameters referred to matter.

Every fact about a tree comes with its twin about a list of operands.
-/

namespace RowScope

namespace Expr

/-! ## Direct evaluation -/

mutual

/-- The value of an expression on a row, its parameters read in `env`. -/
def value (env : String → Value) (row : Row) : Expr → Value
  | .field name => row.read name
  | .param name => env name
  | .literal v => v
  | .compare op l r => .bool (op.apply (value env row l) (value env row r))
  | .conj es => .bool (allTrue env row es)
  | .disj es => .bool (anyTrue env row es)
  | .neg e =>
    match value env row e with
    | .bool b => .bool (!b)
    | _ => .bool false

/-- Whether every operand has the value true. -/
def allTrue (env : String → Value) (row : Row) : List Expr → Bool
  | [] => true
  | e :: es => (value env row e).isTrue && allTrue env row es

/-- Whether some operand has the value true. -/
def anyTrue (env : String → Value) (row : Row) : List Expr → Bool
  | [] => false
  | e :: es => (value env row e).isTrue || anyTrue env row es

end

/-- Whether an expression has the value true on a row. -/
def Holds (env : String → Value) (e : Expr) (row : Row) : Prop := e.value env row = .bool true

instance (env : String → Value) (e : Expr) (row : Row) : Decidable (e.Holds env row) :=
  inferInstanceAs (Decidable (_ = _))

variable {env env' : String → Value} (row : Row)

mutual

/-- Only the parameters that an expression refers to are read in the environment. -/
theorem value_congr : ∀ e : Expr, (∀ name ∈ e.paramOccurrences, env name = env' name) →
    e.value env row = e.value env' row
  | .field _, _ => rfl
  | .param name, agree => agree name (by simp [paramOccurrences])
  | .literal _, _ => rfl
  | .compare op l r, agree => by
    rw [value, value,
      value_congr l fun name member => agree name (List.mem_append_left _ member),
      value_congr r fun name member => agree name (List.mem_append_right _ member)]
  | .conj es, agree => by rw [value, value, (truth_congr es agree).1]
  | .disj es, agree => by rw [value, value, (truth_congr es agree).2]
  | .neg e, agree => by rw [value, value, value_congr e agree]

theorem truth_congr : ∀ es : List Expr,
    (∀ name ∈ paramOccurrencesAll es, env name = env' name) →
      allTrue env row es = allTrue env' row es ∧ anyTrue env row es = anyTrue env' row es
  | [], _ => ⟨rfl, rfl⟩
  | e :: es, agree => by
    have head := value_congr e fun name member => agree name (List.mem_append_left _ member)
    obtain ⟨all, any⟩ := truth_congr es fun name member =>
      agree name (List.mem_append_right _ member)
    rw [allTrue, allTrue, anyTrue, anyTrue, head, all, any]
    exact ⟨rfl, rfl⟩

end

end Expr

theorem Value.isTrue_iff {v : Value} : v.isTrue = true ↔ v = .bool true := by
  unfold Value.isTrue
  split
  · simp
  · next h => simpa using h

/-! ## Predicates and their trees -/

namespace Predicate

mutual

theorem toExpr_of_compile : ∀ (e : Expr) {p : Predicate}, compile e = .ok p → p.toExpr = e
  | .field _, _, compiled => by cases compiled; rfl
  | .param _, _, compiled => by cases compiled
  | .literal _, _, compiled => by cases compiled; rfl
  | .compare op l r, p, compiled => by
    obtain ⟨pl, left, compiled⟩ := bind_eq_ok_iff.1 compiled
    obtain ⟨pr, right, compiled⟩ := bind_eq_ok_iff.1 compiled
    cases compiled
    rw [toExpr, toExpr_of_compile l left, toExpr_of_compile r right]
  | .conj es, p, compiled => by
    obtain ⟨ps, operands, compiled⟩ := bind_eq_ok_iff.1 compiled
    cases compiled
    rw [toExpr, toExprs_of_compileAll es operands]
  | .disj es, p, compiled => by
    obtain ⟨ps, operands, compiled⟩ := bind_eq_ok_iff.1 compiled
    cases compiled
    rw [toExpr, toExprs_of_compileAll es operands]
  | .neg e, p, compiled => by
    obtain ⟨q, operand, compiled⟩ := bind_eq_ok_iff.1 compiled
    cases compiled
    rw [toExpr, toExpr_of_compile e operand]

theorem toExprs_of_compileAll : ∀ (es : List Expr) {ps : List Predicate},
    compileAll es = .ok ps → toExprs ps = es
  | [], _, compiled => by cases compiled; rfl
  | e :: es, ps, compiled => by
    obtain ⟨p, head, compiled⟩ := bind_eq_ok_iff.1 compiled
    obtain ⟨qs, tail, compiled⟩ := bind_eq_ok_iff.1 compiled
    cases compiled
    rw [toExprs, toExpr_of_compile e head, toExprs_of_compileAll es tail]

end

mutual

theorem compile_toExpr : ∀ p : Predicate, compile p.toExpr = .ok p
  | .field _ => rfl
  | .literal _ => rfl
  | .compare op l r => by
    rw [toExpr, compile, compile_toExpr l, compile_toExpr r]
    rfl
  | .conj ps => by rw [toExpr, compile, compileAll_toExprs ps]; rfl
  | .disj ps => by rw [toExpr, compile, compileAll_toExprs ps]; rfl
  | .neg p => by rw [toExpr, compile, compile_toExpr p]; rfl

theorem compileAll_toExprs : ∀ ps : List Predicate, compileAll (toExprs ps) = .ok ps
  | [] => rfl
  | p :: ps => by
    rw [toExprs, compileAll, compile_toExpr p, compileAll_toExprs ps]
    rfl

end

/-- Compilation gives the predicate whose tree the expression is. -/
theorem compile_eq_ok_iff {e : Expr} {p : Predicate} : compile e = .ok p ↔ p.toExpr = e :=
  ⟨toExpr_of_compile e, fun tree => tree ▸ compile_toExpr p⟩

mutual

/-- A predicate evaluates to the value of its tree, in whatever environment. -/
theorem eval_eq_value (env : String → Value) (row : Row) :
    ∀ p : Predicate, eval row p = p.toExpr.value env row
  | .field _ => rfl
  | .literal _ => rfl
  | .compare op l r => by
    rw [eval, toExpr, Expr.value, eval_eq_value env row l, eval_eq_value env row r]
  | .conj ps => by rw [eval, toExpr, Expr.value, allTrue_eq_value env row ps]
  | .disj ps => by rw [eval, toExpr, Expr.value, anyTrue_eq_value env row ps]
  | .neg p => by
    rw [eval, toExpr, Expr.value, eval_eq_value env row p]
    cases p.toExpr.value env row <;> rfl

theorem allTrue_eq_value (env : String → Value) (row : Row) :
    ∀ ps : List Predicate, allTrue row ps = Expr.allTrue env row (toExprs ps)
  | [] => rfl
  | p :: ps => by
    rw [allTrue, toExprs, Expr.allTrue, eval_eq_value env row p, allTrue_eq_value env row ps]

theorem anyTrue_eq_value (env : String → Value) (row : Row) :
    ∀ ps : List Predicate, anyTrue row ps = Expr.anyTrue env row (toExprs ps)
  | [] => rfl
  | p :: ps => by
    rw [anyTrue, toExprs, Expr.anyTrue, eval_eq_value env row p, anyTrue_eq_value env row ps]

end

/-- A row matches a predicate exactly if its tree has the value true. -/
theorem holds_iff (env : String → Value) (p : Predicate) (row : Row) :
    p.holds row = true ↔ p.toExpr.Holds env row := by
  rw [holds, eval_eq_value env, Value.isTrue_iff]
  rfl

end Predicate

/-! ## Parameters -/

namespace Expr

mutual

/-- An expression without parameters compiles. -/
theorem exists_compile : ∀ e : Expr, e.paramOccurrences = [] →
    ∃ p, Predicate.compile e = .ok p
  | .field _, _ => ⟨_, rfl⟩
  | .param _, free => by cases free
  | .literal _, _ => ⟨_, rfl⟩
  | .compare op l r, free => by
    obtain ⟨freeLeft, freeRight⟩ := List.append_eq_nil_iff.1 free
    obtain ⟨pl, left⟩ := exists_compile l freeLeft
    obtain ⟨pr, right⟩ := exists_compile r freeRight
    exact ⟨.compare op pl pr, by rw [Predicate.compile, left, right]; rfl⟩
  | .conj es, free => by
    obtain ⟨ps, operands⟩ := exists_compileAll es free
    exact ⟨.conj ps, by rw [Predicate.compile, operands]; rfl⟩
  | .disj es, free => by
    obtain ⟨ps, operands⟩ := exists_compileAll es free
    exact ⟨.disj ps, by rw [Predicate.compile, operands]; rfl⟩
  | .neg e, free => by
    obtain ⟨p, operand⟩ := exists_compile e free
    exact ⟨.neg p, by rw [Predicate.compile, operand]; rfl⟩

theorem exists_compileAll : ∀ es : List Expr, paramOccurrencesAll es = [] →
    ∃ ps, Predicate.compileAll es = .ok ps
  | [], _ => ⟨_, rfl⟩
  | e :: es, free => by
    obtain ⟨freeHead, freeTail⟩ := List.append_eq_nil_iff.1 free
    obtain ⟨p, head⟩ := exists_compile e freeHead
    obtain ⟨ps, tail⟩ := exists_compileAll es freeTail
    exact ⟨p :: ps, by rw [Predicate.compileAll, head, tail]; rfl⟩

end

mutual

theorem paramOccurrences_toExpr : ∀ p : Predicate, p.toExpr.paramOccurrences = []
  | .field _ => rfl
  | .literal _ => rfl
  | .compare _ l r => by
    rw [Predicate.toExpr, paramOccurrences, paramOccurrences_toExpr l,
      paramOccurrences_toExpr r]
    rfl
  | .conj ps => by rw [Predicate.toExpr, paramOccurrences, paramOccurrencesAll_toExprs ps]
  | .disj ps => by rw [Predicate.toExpr, paramOccurrences, paramOccurrencesAll_toExprs ps]
  | .neg p => by rw [Predicate.toExpr, paramOccurrences, paramOccurrences_toExpr p]

theorem paramOccurrencesAll_toExprs : ∀ ps : List Predicate,
    paramOccurrencesAll (Predicate.toExprs ps) = []
  | [] => rfl
  | p :: ps => by
    rw [Predicate.toExprs, paramOccurrencesAll, paramOccurrences_toExpr p,
      paramOccurrencesAll_toExprs ps]
    rfl

end

/-- An expression compiles exactly if it has no parameters. -/
theorem exists_compile_iff {e : Expr} :
    (∃ p, Predicate.compile e = .ok p) ↔ e.paramOccurrences = [] := by
  constructor
  · rintro ⟨p, compiled⟩
    rw [← Predicate.toExpr_of_compile e compiled]
    exact paramOccurrences_toExpr p
  · exact exists_compile e

mutual

/-- Otherwise the first parameter from left to right is the error. -/
theorem compile_of_head? : ∀ (e : Expr) {name : String},
    e.paramOccurrences.head? = some name →
      Predicate.compile e = .error (Predicate.unboundParameter name)
  | .param _, _, first => by cases first; rfl
  | .compare op l r, name, first => by
    rw [paramOccurrences, List.head?_append] at first
    cases left : l.paramOccurrences.head? with
    | some other =>
      rw [left] at first
      cases first
      rw [Predicate.compile, compile_of_head? l left]
      rfl
    | none =>
      rw [left] at first
      obtain ⟨p, compiled⟩ := exists_compile l (List.head?_eq_none_iff.1 left)
      rw [Predicate.compile, compiled, compile_of_head? r first]
      rfl
  | .conj es, _, first => by
    rw [Predicate.compile, compileAll_of_head? es first]
    rfl
  | .disj es, _, first => by
    rw [Predicate.compile, compileAll_of_head? es first]
    rfl
  | .neg e, _, first => by
    rw [Predicate.compile, compile_of_head? e first]
    rfl

theorem compileAll_of_head? : ∀ (es : List Expr) {name : String},
    (paramOccurrencesAll es).head? = some name →
      Predicate.compileAll es = .error (Predicate.unboundParameter name)
  | e :: es, name, first => by
    rw [paramOccurrencesAll, List.head?_append] at first
    cases head : e.paramOccurrences.head? with
    | some other =>
      rw [head] at first
      cases first
      rw [Predicate.compileAll, compile_of_head? e head]
      rfl
    | none =>
      rw [head] at first
      obtain ⟨p, compiled⟩ := exists_compile e (List.head?_eq_none_iff.1 head)
      rw [Predicate.compileAll, compiled, compileAll_of_head? es first]
      rfl

end

/-- Compilation fails for the first parameter, and for nothing else. -/
theorem compile_eq_error_iff {e : Expr} {error : FilterError} :
    Predicate.compile e = .error error ↔
      ∃ name, e.paramOccurrences.head? = some name ∧ error = Predicate.unboundParameter name := by
  constructor
  · intro failed
    cases first : e.paramOccurrences.head? with
    | some name =>
      rw [compile_of_head? e first] at failed
      cases failed
      exact ⟨name, rfl, rfl⟩
    | none =>
      obtain ⟨p, compiled⟩ := exists_compile e (List.head?_eq_none_iff.1 first)
      rw [compiled] at failed
      cases failed
  · rintro ⟨name, first, rfl⟩
    exact compile_of_head? e first

/-! ## Binding -/

/-- The environment of some bound values; what has none reads as null. -/
def environment (values : Dict Value) (name : String) : Value := (values.get? name).getD .null

section Binding

variable {filter : String} {values values' : Dict Value}

mutual

/-- Where every parameter referred to has a value, binding gives an expression
without parameters. -/
theorem exists_bind (filter : String) : ∀ e : Expr,
    (∀ name ∈ e.paramOccurrences, values.contains name = true) →
    ∃ p : Predicate, bind filter values e = .ok p.toExpr
  | .field name, _ => ⟨.field name, rfl⟩
  | .param name, supplied => by
    obtain ⟨v, found⟩ := Option.isSome_iff_exists.1 (supplied name (by simp [paramOccurrences]))
    exact ⟨.literal v, by rw [bind, found]; rfl⟩
  | .literal v, _ => ⟨.literal v, rfl⟩
  | .compare op l r, supplied => by
    obtain ⟨pl, left⟩ := exists_bind filter l fun name member =>
      supplied name (List.mem_append_left _ member)
    obtain ⟨pr, right⟩ := exists_bind filter r fun name member =>
      supplied name (List.mem_append_right _ member)
    exact ⟨.compare op pl pr, by rw [bind, left, right]; rfl⟩
  | .conj es, supplied => by
    obtain ⟨ps, operands⟩ := exists_bindAll filter es supplied
    exact ⟨.conj ps, by rw [bind, operands]; rfl⟩
  | .disj es, supplied => by
    obtain ⟨ps, operands⟩ := exists_bindAll filter es supplied
    exact ⟨.disj ps, by rw [bind, operands]; rfl⟩
  | .neg e, supplied => by
    obtain ⟨p, operand⟩ := exists_bind filter e supplied
    exact ⟨.neg p, by rw [bind, operand]; rfl⟩

theorem exists_bindAll (filter : String) : ∀ es : List Expr,
    (∀ name ∈ paramOccurrencesAll es, values.contains name = true) →
    ∃ ps : List Predicate, bindAll filter values es = .ok (Predicate.toExprs ps)
  | [], _ => ⟨[], rfl⟩
  | e :: es, supplied => by
    obtain ⟨p, head⟩ := exists_bind filter e fun name member =>
      supplied name (List.mem_append_left _ member)
    obtain ⟨ps, tail⟩ := exists_bindAll filter es fun name member =>
      supplied name (List.mem_append_right _ member)
    exact ⟨p :: ps, by rw [bindAll, head, tail]; rfl⟩

end

mutual

/-- **Binding substitutes.** The bound expression has, on every row, the value of
the template in the environment of the bound values. -/
theorem value_of_bind (env : String → Value) (row : Row) : ∀ (e : Expr) {bound : Expr},
    bind filter values e = .ok bound →
      bound.value env row = e.value (environment values) row
  | .field _, _, done => by cases done; rfl
  | .param name, bound, done => by
    rw [bind] at done
    cases found : values.get? name with
    | none =>
      rw [found] at done
      cases done
    | some v =>
      rw [found] at done
      cases done
      simp [value, environment, found]
  | .literal _, _, done => by cases done; rfl
  | .compare op l r, bound, done => by
    obtain ⟨bl, left, done⟩ := bind_eq_ok_iff.1 done
    obtain ⟨br, right, done⟩ := bind_eq_ok_iff.1 done
    cases done
    rw [value, value, value_of_bind env row l left, value_of_bind env row r right]
  | .conj es, bound, done => by
    obtain ⟨bs, operands, done⟩ := bind_eq_ok_iff.1 done
    cases done
    rw [value, value, allTrue_of_bindAll env row es operands]
  | .disj es, bound, done => by
    obtain ⟨bs, operands, done⟩ := bind_eq_ok_iff.1 done
    cases done
    rw [value, value, anyTrue_of_bindAll env row es operands]
  | .neg e, bound, done => by
    obtain ⟨b, operand, done⟩ := bind_eq_ok_iff.1 done
    cases done
    rw [value, value, value_of_bind env row e operand]

theorem allTrue_of_bindAll (env : String → Value) (row : Row) :
    ∀ (es : List Expr) {bounds : List Expr}, bindAll filter values es = .ok bounds →
      allTrue env row bounds = allTrue (environment values) row es
  | [], _, done => by cases done; rfl
  | e :: es, bounds, done => by
    obtain ⟨b, head, done⟩ := bind_eq_ok_iff.1 done
    obtain ⟨bs, tail, done⟩ := bind_eq_ok_iff.1 done
    cases done
    rw [allTrue, allTrue, value_of_bind env row e head, allTrue_of_bindAll env row es tail]

theorem anyTrue_of_bindAll (env : String → Value) (row : Row) :
    ∀ (es : List Expr) {bounds : List Expr}, bindAll filter values es = .ok bounds →
      anyTrue env row bounds = anyTrue (environment values) row es
  | [], _, done => by cases done; rfl
  | e :: es, bounds, done => by
    obtain ⟨b, head, done⟩ := bind_eq_ok_iff.1 done
    obtain ⟨bs, tail, done⟩ := bind_eq_ok_iff.1 done
    cases done
    rw [anyTrue, anyTrue, value_of_bind env row e head, anyTrue_of_bindAll env row es tail]

end

mutual

/-- Binding asks only for the parameters that the expression refers to. -/
theorem bind_congr : ∀ e : Expr,
    (∀ name ∈ e.paramOccurrences, values.get? name = values'.get? name) →
      bind filter values e = bind filter values' e
  | .field _, _ => rfl
  | .param name, agree => by rw [bind, bind, agree name (by simp [paramOccurrences])]
  | .literal _, _ => rfl
  | .compare op l r, agree => by
    rw [bind, bind,
      bind_congr l fun name member => agree name (List.mem_append_left _ member),
      bind_congr r fun name member => agree name (List.mem_append_right _ member)]
  | .conj es, agree => by rw [bind, bind, bindAll_congr es agree]
  | .disj es, agree => by rw [bind, bind, bindAll_congr es agree]
  | .neg e, agree => by rw [bind, bind, bind_congr e agree]

theorem bindAll_congr : ∀ es : List Expr,
    (∀ name ∈ paramOccurrencesAll es, values.get? name = values'.get? name) →
      bindAll filter values es = bindAll filter values' es
  | [], _ => rfl
  | e :: es, agree => by
    rw [bindAll, bindAll,
      bind_congr e fun name member => agree name (List.mem_append_left _ member),
      bindAll_congr es fun name member => agree name (List.mem_append_right _ member)]

end

end Binding

end Expr

end RowScope
