import PersonaChat.Json.Basic
import PersonaChat.Refusal

/-!
# Outcomes

How a command ended, as its caller sees it.

Spec guidance: `SPEC_FULL.md`, lines 133–138.
-/

namespace PersonaChat

/-- The ways in which a command ends. -/
inductive OutcomeKind where
  /-- It was carried out. -/
  | ok
  /-- It named something that does not exist. -/
  | notFound
  /-- An argument was not acceptable. -/
  | validation
  /-- The conversation was being answered already. -/
  | busy
  /-- The provider failed. -/
  | providerError
  /-- The provider took too long. -/
  | timeout
  /-- It failed for another reason. -/
  | failed
  /-- Its answer came too late and was dropped. -/
  | cancelled
  deriving DecidableEq, Repr

/-- The word of an outcome. -/
def OutcomeKind.word : OutcomeKind → String
  | .ok => "ok"
  | .notFound => "not_found"
  | .validation => "validation"
  | .busy => "busy"
  | .providerError => "provider_error"
  | .timeout => "timeout"
  | .failed => "failed"
  | .cancelled => "cancelled"

/-- How a command ended. -/
structure Outcome where
  /-- The way in which it ended. -/
  kind : OutcomeKind
  /-- What the user was told, or the text of the answer. -/
  message : Json
  deriving DecidableEq, Repr

/-- A command that was carried out and told the user a text. -/
def Outcome.done (text : String) : Outcome := ⟨.ok, .str text⟩

/-- A command that ended in another way, with a text. -/
def Outcome.ofText (kind : OutcomeKind) (text : String) : Outcome := ⟨kind, .str text⟩

/-- The outcome of a refused command. -/
def RefusalKind.outcome : RefusalKind → OutcomeKind
  | .validation => .validation
  | .notFound => .notFound
  | .busy => .busy
  | .timeout => .timeout
  | .network | .api | .rateLimit => .providerError
  | .persistence | .general => .failed

/-- What a command comes to. -/
inductive Ending where
  /-- It ended with an outcome. -/
  | outcome (outcome : Outcome)
  /-- It gave the models that were kept. -/
  | models (names : List String)
  /-- It failed without telling the user. -/
  | raised (failure : Failure)
  deriving DecidableEq, Repr

end PersonaChat
