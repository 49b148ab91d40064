import PersonaChat.Json.Basic

/-!
# Log records

What the service notes about its own work: a level, a fixed sentence and named values.

Spec guidance: `SPEC_FULL.md`, lines 179–182.
-/

namespace PersonaChat

/-- The name of the log. -/
def Log.name : String := "oai_core"

/-- How grave a record is. -/
inductive LogLevel where
  /-- Something happened as expected. -/
  | info
  /-- Something was refused or lost. -/
  | warning
  /-- Something failed. -/
  | error
  deriving DecidableEq, Repr

/-- The word of a level. -/
def LogLevel.word : LogLevel → String
  | .info => "INFO"
  | .warning => "WARNING"
  | .error => "ERROR"

/-- One record. -/
structure LogRecord where
  /-- How grave it is. -/
  level : LogLevel
  /-- What happened. -/
  message : String
  /-- The values that belong to it. -/
  fields : List (String × Json)

end PersonaChat
