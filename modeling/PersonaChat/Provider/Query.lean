import PersonaChat.Command.Basic
import PersonaChat.Refusal

/-!
# Questions to the provider

The provider continues a conversation or lists its models. What it says is taken as it is; whether
it can be used is decided by whoever asked.

Spec guidance: `SPEC_FULL.md`, lines 198–202.
-/

namespace PersonaChat

/-- A conversation to be continued. -/
structure ChatRequest where
  /-- The model that shall answer. -/
  model : Json
  /-- The messages so far. -/
  messages : History Json
  /-- The system prompt, empty for none. -/
  systemPrompt : Json
  deriving DecidableEq, Repr

/-- A question to the provider, with the address and key under which it is asked. -/
inductive Query where
  /-- Continue a conversation. -/
  | chat (api : Api Json) (request : ChatRequest)
  /-- List the models. -/
  | models (api : Api Json)
  deriving DecidableEq, Repr

/-- What the provider says. -/
inductive Answer where
  /-- The text that continues a conversation, `none` when it offers no continuation; or how it
  failed. -/
  | chat (result : Except Failure (Option String))
  /-- The identifiers of its models, or how it failed. -/
  | models (result : Except Failure (List Json))

end PersonaChat
