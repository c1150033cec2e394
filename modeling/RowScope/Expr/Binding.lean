import RowScope.Dict
import RowScope.Error
import RowScope.Expr.Basic

/-!
# Binding parameters

`Expr.bind` puts the value of every parameter in its place.  The first parameter
from left to right that has no value is the error.
-/

namespace RowScope.Expr

mutual

/-- The expression with its parameters replaced by their values; `filter` is the
name that an error reports. -/
def bind (filter : String) (values : Dict Value) : Expr → Except FilterError Expr
  | .field name => .ok (.field name)
  | .param name =>
    match values.get? name with
    | some v => .ok (.literal v)
    | none => .error (.missingBinding filter name)
  | .literal v => .ok (.literal v)
  | .compare op l r => do
    let l ← bind filter values l
    let r ← bind filter values r
    pure (.compare op l r)
  | .conj es => return .conj (← bindAll filter values es)
  | .disj es => return .disj (← bindAll filter values es)
  | .neg e => return .neg (← bind filter values e)

/-- The operands with their parameters replaced. -/
def bindAll (filter : String) (values : Dict Value) :
    List Expr → Except FilterError (List Expr)
  | [] => .ok []
  | e :: es => do
    let e ← bind filter values e
    let es ← bindAll filter values es
    pure (e :: es)

end

end RowScope.Expr
