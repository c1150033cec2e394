import RowScope.Text.Quoted

/-!
# Errors

One type of errors for the whole library.  `FilterError.message` is the sentence
that a reader sees, and `FilterError.debug` the constructor with its parts.

The lemmas at the end say when a computation in stages succeeds and when it fails,
whatever its errors are.
-/

namespace RowScope

open Text

/-- What can go wrong with a filter. -/
inductive FilterError
  /-- An entity type has a filter of this name already. -/
  | duplicateFilter (entity name : String)
  /-- A template does not fit its entity type. -/
  | invalidTemplate (entity name reason : String)
  /-- No definition has this name. -/
  | unknownFilter (name : String)
  /-- No definition of the filter declares this parameter. -/
  | unknownParameter (filter parameter : String)
  /-- A value does not fit the declared type of a parameter. -/
  | typeMismatch (filter parameter expected actual : String)
  /-- A parameter of an enabled filter has no value. -/
  | missingBinding (filter parameter : String)
  /-- Definitions are not taken any more. -/
  | storeFrozen (entity name : String)
  /-- A query cannot be intercepted or executed. -/
  | intercept (reason : String)
  /-- A setting cannot be read. -/
  | config (reason : String)
deriving DecidableEq, Repr

namespace FilterError

/-- The name of the kind of an error. -/
def kind : FilterError → String
  | .duplicateFilter .. => "DuplicateFilter"
  | .invalidTemplate .. => "InvalidTemplate"
  | .unknownFilter .. => "UnknownFilter"
  | .unknownParameter .. => "UnknownParameter"
  | .typeMismatch .. => "TypeMismatch"
  | .missingBinding .. => "MissingBinding"
  | .storeFrozen .. => "StoreFrozen"
  | .intercept .. => "Intercept"
  | .config .. => "Config"

/-- The sentence that reports an error. -/
def message : FilterError → String
  | .duplicateFilter entity name =>
    s!"Filter '{name}' is already registered for entity '{entity}'"
  | .invalidTemplate entity name reason =>
    s!"Invalid template for filter '{name}' on entity '{entity}': {reason}"
  | .unknownFilter name => s!"Unknown filter: {name}"
  | .unknownParameter filter parameter =>
    s!"Filter '{filter}' declares no parameter named '{parameter}'"
  | .typeMismatch filter parameter expected actual =>
    s!"Parameter '{parameter}' of filter '{filter}' expects {expected}, got {actual}"
  | .missingBinding filter parameter =>
    s!"Filter '{filter}' is enabled but parameter '{parameter}' is not bound"
  | .storeFrozen entity name =>
    s!"Filter store is frozen, cannot register '{name}' for entity '{entity}'"
  | .intercept reason => s!"Intercept error: {reason}"
  | .config reason => s!"Configuration error: {reason}"

/-- Whether an error refuses a definition. -/
def isRegistration : FilterError → Bool
  | .duplicateFilter .. | .invalidTemplate .. | .storeFrozen .. => true
  | _ => false

/-- Whether an error is about the value of a parameter. -/
def isBinding : FilterError → Bool
  | .unknownParameter .. | .typeMismatch .. | .missingBinding .. => true
  | _ => false

/-- The parts of an error with their names; an error of one unnamed part has
none. -/
def parts : FilterError → List (String × String)
  | .duplicateFilter entity name => [("entity_type", entity), ("name", name)]
  | .invalidTemplate entity name reason =>
    [("entity_type", entity), ("name", name), ("reason", reason)]
  | .unknownFilter name => [("name", name)]
  | .unknownParameter filter parameter => [("filter", filter), ("parameter", parameter)]
  | .typeMismatch filter parameter expected actual =>
    [("filter", filter), ("parameter", parameter), ("expected", expected), ("actual", actual)]
  | .missingBinding filter parameter => [("filter", filter), ("parameter", parameter)]
  | .storeFrozen entity name => [("entity_type", entity), ("name", name)]
  | .intercept _ | .config _ => []

/-- The kind of an error and its parts, as literals. -/
def debug (e : FilterError) : String :=
  match e with
  | .intercept reason | .config reason => s!"{e.kind}({literal reason})"
  | _ =>
    let parts := e.parts.map fun (name, part) => s!"{name}: {literal part}"
    e.kind ++ " \x7b " ++ String.intercalate ", " parts ++ " \x7d"

/-- The error of a kind with its parts in order. -/
def ofParts? : String → List String → Option FilterError
  | "DuplicateFilter", [entity, name] => some (.duplicateFilter entity name)
  | "InvalidTemplate", [entity, name, reason] => some (.invalidTemplate entity name reason)
  | "UnknownFilter", [name] => some (.unknownFilter name)
  | "UnknownParameter", [filter, parameter] => some (.unknownParameter filter parameter)
  | "TypeMismatch", [filter, parameter, expected, actual] =>
    some (.typeMismatch filter parameter expected actual)
  | "MissingBinding", [filter, parameter] => some (.missingBinding filter parameter)
  | "StoreFrozen", [entity, name] => some (.storeFrozen entity name)
  | "Intercept", [reason] => some (.intercept reason)
  | "Config", [reason] => some (.config reason)
  | _, _ => none

end FilterError

/-! ## Computations that can fail -/

/-- A computation in two stages succeeds when both do. -/
theorem bind_eq_ok_iff {ε α β : Type} {x : Except ε α} {f : α → Except ε β} {b : β} :
    x >>= f = .ok b ↔ ∃ a, x = .ok a ∧ f a = .ok b := by
  cases x with
  | ok a => simp [bind, Except.bind]
  | error e => simp [bind, Except.bind]

/-- One whose result is only turned into another succeeds when it does. -/
theorem map_eq_ok_iff {ε α β : Type} {x : Except ε α} {f : α → β} {b : β} :
    x.map f = .ok b ↔ ∃ a, x = .ok a ∧ f a = b := by
  cases x with
  | ok a => simp [Except.map]
  | error e => simp [Except.map]

/-- What continues with a result fails with the first error. -/
theorem bind_eq_error_iff {ε α β : Type} {x : Except ε α} {f : α → Except ε β} {error : ε} :
    x >>= f = .error error ↔ x = .error error ∨ ∃ a, x = .ok a ∧ f a = .error error := by
  cases x with
  | error e =>
    change Except.error e = _ ↔ _
    simp
  | ok a =>
    change f a = _ ↔ _
    simp

/-- A result that is turned into another one keeps its error. -/
theorem map_eq_error_iff {ε α β : Type} {f : α → β} {x : Except ε α} {error : ε} :
    x.map f = .error error ↔ x = .error error := by
  cases x with
  | ok a => simp [Except.map]
  | error e => simp [Except.map]

end RowScope
