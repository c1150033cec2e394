import RowScope.Cache
import RowScope.Expr.Binding
import RowScope.Registry
import RowScope.Value.Codec

/-!
# Compiling definitions

`Definition.compile` turns a definition and values for its parameters into an
executable predicate.  Every declared parameter needs a value, whether or not the
template refers to it.  The predicate is looked up in the cache under the
signature of the declared values first.
-/

namespace RowScope.Definition

/-- The values of the declared parameters in order, or the error of the first one
that has none. -/
def declaredValues (filter : String) (values : Dict Value) :
    List Parameter → Except FilterError (List Value)
  | [] => .ok []
  | p :: ps =>
    match values.get? p.name with
    | none => .error (.missingBinding filter p.name)
    | some v => do
      let vs ← declaredValues filter values ps
      pure (v :: vs)

/-- The key that the predicate of some values is kept under. -/
def cacheKey (d : Definition) (values : List Value) : Cache.Key :=
  ⟨d.entity, d.name, Value.signature values⟩

/-- Binds the template and compiles the result. -/
def bindAndCompile (d : Definition) (values : Dict Value) :
    Logged (Except FilterError Predicate) :=
  match d.template.expr.bind d.name values with
  | .error e => .quiet (.error e)
  | .ok bound =>
    ⟨Predicate.compile bound,
      [⟨.debug, s!"Compiled filter '{d.name}' for entity '{d.entity}': {bound.display}"⟩]⟩

/-- The predicate of a definition and values for its parameters, by way of the
cache. -/
def compile (d : Definition) (values : Dict Value) (cache : Cache) :
    Logged (Except FilterError Predicate × Cache) :=
  match declaredValues d.name values d.parameters with
  | .error e => .quiet (.error e, cache)
  | .ok vs => cache.getOrInsert (d.cacheKey vs) (d.bindAndCompile values)

end RowScope.Definition
