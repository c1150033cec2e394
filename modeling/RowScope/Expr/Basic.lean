import RowScope.Comparison

/-!
# Predicate expressions

An `Expr` is a tree over fields of a row, named parameters and literals.  One
without parameters can be evaluated on rows; one with them is a template.

* `fields` and `params` list the names that a tree refers to, each once, in the
  order in which they are first met from left to right.
* `conjoin` joins two trees by one conjunction, into which it takes the operands
  of either tree that is a conjunction itself.
-/

namespace RowScope

/-- A predicate expression. -/
inductive Expr
  | field (name : String)
  | param (name : String)
  | literal (value : Value)
  | compare (op : Comparison) (left right : Expr)
  | conj (operands : List Expr)
  | disj (operands : List Expr)
  | neg (operand : Expr)

namespace Expr

instance : Inhabited Expr := ⟨.conj []⟩

/-! ## Names referred to -/

mutual

/-- The field of every field reference, from left to right. -/
def fieldOccurrences : Expr → List String
  | .field name => [name]
  | .param _ => []
  | .literal _ => []
  | .compare _ l r => fieldOccurrences l ++ fieldOccurrences r
  | .conj es => fieldOccurrencesAll es
  | .disj es => fieldOccurrencesAll es
  | .neg e => fieldOccurrences e

/-- The field references of a list of operands. -/
def fieldOccurrencesAll : List Expr → List String
  | [] => []
  | e :: es => fieldOccurrences e ++ fieldOccurrencesAll es

end

mutual

/-- The parameter of every parameter reference, from left to right. -/
def paramOccurrences : Expr → List String
  | .field _ => []
  | .param name => [name]
  | .literal _ => []
  | .compare _ l r => paramOccurrences l ++ paramOccurrences r
  | .conj es => paramOccurrencesAll es
  | .disj es => paramOccurrencesAll es
  | .neg e => paramOccurrences e

/-- The parameter references of a list of operands. -/
def paramOccurrencesAll : List Expr → List String
  | [] => []
  | e :: es => paramOccurrences e ++ paramOccurrencesAll es

end

/-- The fields that an expression refers to. -/
def fields (e : Expr) : List String := e.fieldOccurrences.eraseDups

/-- The parameters that an expression refers to. -/
def params (e : Expr) : List String := e.paramOccurrences.eraseDups

/-- Whether an expression refers to no parameter. -/
def isParameterFree (e : Expr) : Bool := e.params.isEmpty

/-! ## Conjunction -/

/-- The operands of a conjunction; any other expression is its own operand. -/
def conjuncts : Expr → List Expr
  | .conj es => es
  | e => [e]

/-- The conjunction of two expressions. -/
def conjoin (a b : Expr) : Expr := .conj (a.conjuncts ++ b.conjuncts)

/-- The conjunction of an expression that may be missing and another one. -/
def conjoin? (a : Option Expr) (b : Expr) : Expr :=
  match a with
  | some a => a.conjoin b
  | none => b

/-! ## Equality as the language of predicates sees it -/

mutual

/-- Whether two expressions are the same tree over literals that are the same
value. -/
def same : Expr → Expr → Bool
  | .field a, .field b => a == b
  | .param a, .param b => a == b
  | .literal a, .literal b => a.same b
  | .compare o l r, .compare p m s => o == p && same l m && same r s
  | .conj as, .conj bs => sameAll as bs
  | .disj as, .disj bs => sameAll as bs
  | .neg a, .neg b => same a b
  | _, _ => false

/-- Whether two lists of operands are the same. -/
def sameAll : List Expr → List Expr → Bool
  | [], [] => true
  | a :: as, b :: bs => same a b && sameAll as bs
  | _, _ => false

end

/-- Whether two expressions are both missing or both there and the same. -/
def same? : Option Expr → Option Expr → Bool
  | none, none => true
  | some a, some b => same a b
  | _, _ => false

/-! ## Text -/

mutual

/-- The text of an expression.  A list of operands stands between parentheses,
even if it has one operand, and without any it stands for its value. -/
def display : Expr → String
  | .field name => name
  | .param name => s!":{name}"
  | .literal v => v.display
  | .compare op l r => s!"{display l} {op.symbol} {display r}"
  | .conj es => if es.isEmpty then "TRUE" else "(" ++ displayAll " AND " es ++ ")"
  | .disj es => if es.isEmpty then "FALSE" else "(" ++ displayAll " OR " es ++ ")"
  | .neg e => s!"NOT ({display e})"

/-- The texts of a list of operands with a separator between them. -/
def displayAll (separator : String) : List Expr → String
  | [] => ""
  | [e] => display e
  | e :: es => display e ++ separator ++ displayAll separator es

end

end Expr

end RowScope
