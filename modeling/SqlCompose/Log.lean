/-
# Events

What happens on the way to a result is told in events, in order.  A step that may
fail yields its events along with its outcome, so those before a failure are kept.
-/

import SqlCompose.Error

namespace SqlCompose

/-- How important an event is. -/
inductive Level where
  | debug | info | warn
  deriving DecidableEq

/-- The name of a level. -/
def Level.name : Level → String
  | .debug => "DEBUG"
  | .info => "INFO"
  | .warn => "WARN"

/-- An event. -/
structure Event where
  level : Level
  message : String
  deriving DecidableEq

/-- The outcome of a step, and the events on the way to it. -/
structure Logged (α : Type) where
  events : List Event
  outcome : Except Error α

namespace Logged

/-- An outcome without events. -/
def ofExcept {α : Type} (outcome : Except Error α) : Logged α :=
  ⟨[], outcome⟩

/-- A single event. -/
def event (level : Level) (message : String) : Logged Unit :=
  ⟨[⟨level, message⟩], .ok ()⟩

/-- Events that happened already. -/
def past (events : List Event) : Logged Unit :=
  ⟨events, .ok ()⟩

instance : Monad Logged where
  pure a := ⟨[], .ok a⟩
  bind step next :=
    match step.outcome with
    | .ok a =>
      let later := next a
      ⟨step.events ++ later.events, later.outcome⟩
    | .error e => ⟨step.events, .error e⟩

end Logged

end SqlCompose
