import RowScope.Expr.Predicate

/-!
# Queries and their execution in memory

A `Query` asks for the rows of one entity type.  The predicate of the caller and
the filters that were injected stay apart: `effectivePredicate` is their
conjunction, and `Query.execute` tests rows against the predicate and then
against the filters as they are.
-/

namespace RowScope

/-- A query for rows of one entity type. -/
structure Query where
  entity : String
  predicate : Option Expr
  /-- The injected filters in the order of their registration. -/
  filters : List Predicate

namespace Query

/-- All rows of an entity type. -/
def all (entity : String) : Query := ⟨entity, none, []⟩

/-- Narrows a query by one more predicate. -/
def filter (q : Query) (e : Expr) : Query :=
  { q with predicate := some (Expr.conjoin? q.predicate e) }

/-- The rows whose field `key` equals a value. -/
def byKey (entity key : String) (value : Value) : Query :=
  (all entity).filter (.compare .eq (.field key) (.literal value))

/-- A predicate that may be missing, and-ed with one filter after the other. -/
def inject (predicate : Option Expr) (filters : List Predicate) : Option Expr :=
  filters.foldl (fun acc p => some (Expr.conjoin? acc p.toExpr)) predicate

/-- The predicate of the caller with the injected filters. -/
def effectivePredicate (q : Query) : Option Expr := inject q.predicate q.filters

/-- Whether two queries ask for the same. -/
def same (q r : Query) : Bool :=
  q.entity == r.entity && Expr.same? q.predicate r.predicate
    && Expr.sameAll (Predicate.toExprs q.filters) (Predicate.toExprs r.filters)

/-- Whether a row matches a predicate, if there is one. -/
def matchesPredicate (p : Option Predicate) (row : Row) : Bool :=
  match p with
  | some p => p.holds row
  | none => true

/-- The predicate of an expression that may be missing. -/
def compile? : Option Expr → Except FilterError (Option Predicate)
  | none => .ok none
  | some e =>
    match Predicate.compile e with
    | .ok p => .ok (some p)
    | .error e => .error e

/-- The rows that a query asks for, in their order. -/
def execute (q : Query) (rows : List Row) : Except FilterError (List Row) :=
  match compile? q.predicate with
  | .error e => .error e
  | .ok p => .ok (rows.filter fun row =>
      row.entity == q.entity && matchesPredicate p row && q.filters.all fun f => f.holds row)

end Query

end RowScope
