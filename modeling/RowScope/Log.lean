import RowScope.Error

/-!
# Log events

What the library reports of its work is part of its results: a `Logged` result
is a value together with the events that led to it, oldest first.  `Logged` is a
monad, and `result_bind` and `events_bind` say how the two parts combine, so that
values can be reasoned about without the events.
-/

namespace RowScope

/-- How much an event matters, from the most to the least. -/
inductive Level
  | error
  | warn
  | info
  | debug
  | trace
deriving DecidableEq, Repr

namespace Level

/-- All levels, from the one that matters most. -/
def all : List Level := [.error, .warn, .info, .debug, .trace]

/-- The name of a level. -/
def name : Level → String
  | .error => "ERROR"
  | .warn => "WARN"
  | .info => "INFO"
  | .debug => "DEBUG"
  | .trace => "TRACE"

/-- A text with its unaccented Latin letters in upper case and all else as it
is. -/
def upper (s : String) : String := String.ofList (s.toList.map Char.toUpper)

/-- The level that a text names, in letters of either case. -/
def parse (s : String) : Except FilterError Level :=
  match all.find? fun l => l.name = upper s with
  | some l => .ok l
  | none => .error (.config s!"Invalid log level: {s}")

end Level

/-- One event of the log. -/
structure Event where
  level : Level
  message : String
deriving DecidableEq, Repr

/-- A result and the events that led to it. -/
structure Logged (α : Type) where
  result : α
  events : List Event

namespace Logged

variable {α β : Type}

/-- A result that nothing is reported of. -/
def quiet (a : α) : Logged α := ⟨a, []⟩

/-- Continues with a result, after its events. -/
def andThen (x : Logged α) (f : α → Logged β) : Logged β :=
  let y := f x.result
  ⟨y.result, x.events ++ y.events⟩

instance : Monad Logged where
  pure := quiet
  bind := andThen

/-- Reports one event. -/
def report (level : Level) (message : String) : Logged Unit := ⟨(), [⟨level, message⟩]⟩

@[simp] theorem result_pure (a : α) : (pure a : Logged α).result = a := rfl

@[simp] theorem events_pure (a : α) : (pure a : Logged α).events = [] := rfl

@[simp] theorem result_bind (x : Logged α) (f : α → Logged β) :
    (x >>= f).result = (f x.result).result := rfl

@[simp] theorem events_bind (x : Logged α) (f : α → Logged β) :
    (x >>= f).events = x.events ++ (f x.result).events := rfl

@[simp] theorem result_map (f : α → β) (x : Logged α) : (f <$> x).result = f x.result := rfl

@[simp] theorem events_map (f : α → β) (x : Logged α) : (f <$> x).events = x.events := by
  change x.events ++ [] = x.events
  exact List.append_nil _

end Logged

end RowScope
