/-!
# Log events

What the relay reports about itself is part of what it computes. A logged computation is a value
together with the events of computing it, in order; the value never depends on the events, so a
statement about values can drop them (`Logged.value_bind`).
-/

namespace BurstRelay

/-- How important an event is. -/
inductive Level where
  | trace
  | debug
  | info
  | warn
  | error
  deriving DecidableEq, Repr

def Level.name : Level → String
  | trace => "TRACE"
  | debug => "DEBUG"
  | info => "INFO"
  | warn => "WARN"
  | error => "ERROR"

/-- One reported event: a message and named fields, each as text. -/
structure Event where
  level : Level
  message : String
  fields : List (String × String)
  deriving DecidableEq, Repr

/-- A value and the events of computing it, in order. -/
structure Logged (α : Type) where
  value : α
  events : List Event := []

namespace Logged

/-- A value that nothing is reported about. -/
protected def pure {α : Type} (value : α) : Logged α := ⟨value, []⟩

/-- Computes on, after what was computed first. -/
protected def bind {α β : Type} (first : Logged α) (next : α → Logged β) : Logged β :=
  ⟨(next first.value).value, first.events ++ (next first.value).events⟩

instance : Monad Logged where
  pure := Logged.pure
  bind := Logged.bind

def report (level : Level) (message : String) (fields : List (String × String) := []) :
    Logged Unit :=
  ⟨(), [⟨level, message, fields⟩]⟩

@[simp] theorem value_pure {α : Type} (value : α) : (pure value : Logged α).value = value := rfl

@[simp] theorem events_pure {α : Type} (value : α) : (pure value : Logged α).events = [] := rfl

@[simp] theorem value_bind {α β : Type} (first : Logged α) (next : α → Logged β) :
    (first >>= next).value = (next first.value).value := rfl

@[simp] theorem events_bind {α β : Type} (first : Logged α) (next : α → Logged β) :
    (first >>= next).events = first.events ++ (next first.value).events := rfl

@[simp] theorem value_map {α β : Type} (change : α → β) (first : Logged α) :
    (change <$> first).value = change first.value := rfl

@[simp] theorem value_report (level : Level) (message : String) (fields : List (String × String)) :
    (report level message fields).value = () := rfl

end Logged

end BurstRelay
