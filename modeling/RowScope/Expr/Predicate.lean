import RowScope.Error
import RowScope.Expr.Basic
import RowScope.Schema

/-!
# Executable predicates

A `Predicate` is a tree without parameters, so it can be evaluated on every row.
`Predicate.compile` makes one of an expression and refuses the first parameter
that it meets from left to right; `Predicate.toExpr` gives the expression back.

A row matches a predicate whose value on it is true.  An operand of a conjunction
or a disjunction that is not a truth value counts as not true, and the negation
of anything but a truth value is false.
-/

namespace RowScope

/-- An expression without parameters, ready to be evaluated on rows. -/
inductive Predicate
  | field (name : String)
  | literal (value : Value)
  | compare (op : Comparison) (left right : Predicate)
  | conj (operands : List Predicate)
  | disj (operands : List Predicate)
  | neg (operand : Predicate)

namespace Predicate

instance : Inhabited Predicate := ⟨.conj []⟩

/-! ## Compilation -/

/-- The error about a parameter that has no value at execution. -/
def unboundParameter (name : String) : FilterError :=
  .intercept s!"parameter ':{name}' is not bound in executable predicate"

mutual

/-- The predicate of an expression without parameters. -/
def compile : Expr → Except FilterError Predicate
  | .field name => .ok (.field name)
  | .param name => .error (unboundParameter name)
  | .literal v => .ok (.literal v)
  | .compare op l r => do
    let l ← compile l
    let r ← compile r
    pure (.compare op l r)
  | .conj es => return .conj (← compileAll es)
  | .disj es => return .disj (← compileAll es)
  | .neg e => return .neg (← compile e)

/-- The predicates of a list of operands. -/
def compileAll : List Expr → Except FilterError (List Predicate)
  | [] => .ok []
  | e :: es => do
    let p ← compile e
    let ps ← compileAll es
    pure (p :: ps)

end

mutual

/-- The expression that a predicate was made of. -/
def toExpr : Predicate → Expr
  | .field name => .field name
  | .literal v => .literal v
  | .compare op l r => .compare op (toExpr l) (toExpr r)
  | .conj ps => .conj (toExprs ps)
  | .disj ps => .disj (toExprs ps)
  | .neg p => .neg (toExpr p)

/-- The expressions of a list of operands. -/
def toExprs : List Predicate → List Expr
  | [] => []
  | p :: ps => toExpr p :: toExprs ps

end

/-- The text of a predicate. -/
def display (p : Predicate) : String := p.toExpr.display

/-- A predicate as a record of its expression. -/
def debug (p : Predicate) : String :=
  "CompiledPredicate \x7b expr: " ++ p.display ++ " \x7d"

/-! ## Evaluation -/

/-- The negation of a value. -/
def negate : Value → Value
  | .bool b => .bool (!b)
  | _ => .bool false

mutual

/-- The value of a predicate on a row. -/
def eval (row : Row) : Predicate → Value
  | .field name => row.read name
  | .literal v => v
  | .compare op l r => .bool (op.apply (eval row l) (eval row r))
  | .conj ps => .bool (allTrue row ps)
  | .disj ps => .bool (anyTrue row ps)
  | .neg p => negate (eval row p)

/-- Whether every operand is true on a row. -/
def allTrue (row : Row) : List Predicate → Bool
  | [] => true
  | p :: ps => (eval row p).isTrue && allTrue row ps

/-- Whether some operand is true on a row. -/
def anyTrue (row : Row) : List Predicate → Bool
  | [] => false
  | p :: ps => (eval row p).isTrue || anyTrue row ps

end

/-- Whether a row matches a predicate. -/
def holds (p : Predicate) (row : Row) : Bool := (p.eval row).isTrue

end Predicate

end RowScope
