import RowScope.Error
import RowScope.Expr.Basic
import RowScope.Schema

/-!
# Templates

A template is an expression over the fields of one entity type and the
parameters of a filter.  `Template.resolve` checks that the parameters are
distinct and that the template is a truth value by the types that fields,
parameters and literals have; the null literal has no type and compares with
everything.

The check goes through the template from left to right, stops at the first fault
and records the fields and parameters it has met on the way.
-/

namespace RowScope

/-- A parameter that a filter declares.  A parameter with a context key takes
its value from the context of a query if the session gives none. -/
structure Parameter where
  name : String
  type : ScalarType
  contextKey : Option String
deriving DecidableEq, Repr

/-- Why a template is refused. -/
inductive TemplateFault
  | unmapped
  | repeatedParameter (name : String)
  | unknownField (field entity : String)
  | undeclaredParameter (name : String)
  | incomparable (op : Comparison) (left right : ScalarType)
  /-- The word names the connective. -/
  | operandNotBool (word : String) (operand : Expr)
  | notBool (type : Option ScalarType)
  /-- A filter of the same name declares the parameter with another type. -/
  | sharedParameter (name : String) (type : ScalarType) (entity : String)
  | noCarrier

/-- The reason that a refusal reports. -/
def TemplateFault.reason : TemplateFault → String
  | .unmapped => "entity type is not mapped"
  | .repeatedParameter name => s!"parameter '{name}' is declared more than once"
  | .unknownField field entity => s!"unknown field '{field}' on entity '{entity}'"
  | .undeclaredParameter name => s!"parameter '{name}' is not declared"
  | .incomparable op left right =>
    s!"cannot apply '{op.symbol}' to {left.name} and {right.name}"
  | .operandNotBool word operand => s!"operand of {word} must be Bool: {operand.display}"
  | .notBool type =>
    let found := match type with
      | some t => t.name
      | none => "Null"
    s!"template must evaluate to Bool, found {found}"
  | .sharedParameter name type entity =>
    s!"parameter '{name}' is declared as {type.name} by the same filter on entity '{entity}'"
  | .noCarrier => "no mapped entity type carries the fields the template reads"

/-- The fields and parameters that a check has met, each once. -/
structure Usage where
  fields : List Field
  params : List String
deriving DecidableEq, Repr

namespace Usage

def empty : Usage := ⟨[], []⟩

/-- Records a field, unless one of its name is there. -/
def addField (u : Usage) (f : Field) : Usage :=
  if u.fields.any fun g => g.name = f.name then u else { u with fields := u.fields ++ [f] }

/-- Records a parameter, unless it is there. -/
def addParam (u : Usage) (name : String) : Usage :=
  if u.params.contains name then u else { u with params := u.params ++ [name] }

end Usage

/-- An expression that has been checked, with what it refers to. -/
structure Template where
  expr : Expr
  usage : Usage

namespace Template

/-- The declaration of a parameter. -/
def declaration? (params : List Parameter) (name : String) : Option Parameter :=
  params.find? fun p => p.name = name

mutual

/-- The type of an expression and what has been met after it. -/
def infer (schema : Schema) (params : List Parameter) (u : Usage) :
    Expr → Except TemplateFault (Option ScalarType × Usage)
  | .field name =>
    match schema.field? name with
    | some f => .ok (some f.type, u.addField ⟨name, f.type⟩)
    | none => .error (.unknownField name schema.entity)
  | .param name =>
    match declaration? params name with
    | some p => .ok (some p.type, u.addParam name)
    | none => .error (.undeclaredParameter name)
  | .literal v => .ok (v.scalarType, u)
  | .compare op l r => do
    let (left, u) ← infer schema params u l
    let (right, u) ← infer schema params u r
    match left, right with
    | some s, some t =>
      if s.comparableWith t then .ok (some .bool, u) else .error (.incomparable op s t)
    | _, _ => .ok (some .bool, u)
  | .conj es => return (some .bool, ← requireBools schema params "AND" u es)
  | .disj es => return (some .bool, ← requireBools schema params "OR" u es)
  | .neg e => do
    let (type, u) ← infer schema params u e
    if type = some .bool then .ok (some .bool, u) else .error (.operandNotBool "NOT" e)

/-- What has been met after a list of operands, all of which are truth values. -/
def requireBools (schema : Schema) (params : List Parameter) (word : String) (u : Usage) :
    List Expr → Except TemplateFault Usage
  | [] => .ok u
  | e :: es => do
    let (type, u) ← infer schema params u e
    if type = some .bool then requireBools schema params word u es
    else .error (.operandNotBool word e)

end

/-- The name of the first parameter that stands after one of the same name. -/
def repeated? (seen : List String) : List Parameter → Option String
  | [] => none
  | p :: ps => if seen.contains p.name then some p.name else repeated? (p.name :: seen) ps

/-- Checks an expression against a schema and the parameters of a filter. -/
def resolve (schema : Schema) (params : List Parameter) (e : Expr) :
    Except TemplateFault Template :=
  match repeated? [] params with
  | some name => .error (.repeatedParameter name)
  | none => do
    let (type, usage) ← infer schema params .empty e
    if type = some .bool then .ok ⟨e, usage⟩ else .error (.notBool type)

end Template

end RowScope
