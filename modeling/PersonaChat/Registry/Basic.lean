import PersonaChat.Command.Basic
import PersonaChat.Persona.Name

/-!
# The registry

The registry holds the provider's address and key, the models it offers, and all personas in the
order of their creation. A name designates the first persona whose name is the same up to case. In
a running registry any JSON value may stand in place of a text, as snapshots may hold one; a
persona whose name is no text stops the search for those after it.

Spec guidance: `SPEC_FULL.md`, lines 41–44, 48–49 and 215–216.
-/

namespace PersonaChat

universe u v

/-- The provider, the models and the personas. -/
structure Registry (τ : Type u) where
  /-- The provider's address. -/
  apiBase : τ
  /-- The provider's key. -/
  apiKey : τ
  /-- The models that are offered. -/
  models : List τ
  /-- The personas, in order. -/
  agents : List (Persona τ)
  /-- The model of a new persona. -/
  defaultModel : τ
  /-- The system prompt of a new persona. -/
  defaultPrompt : τ
  deriving DecidableEq, Repr

namespace Registry

/-- Apply a function to every text. -/
def map {τ : Type u} {υ : Type v} (f : τ → υ) (r : Registry τ) : Registry υ where
  apiBase := f r.apiBase
  apiKey := f r.apiKey
  models := r.models.map f
  agents := r.agents.map (·.map f)
  defaultModel := f r.defaultModel
  defaultPrompt := f r.defaultPrompt

/-- The names of all personas. -/
def names {τ : Type u} (r : Registry τ) : List τ := r.agents.map (·.name)

/-- The provider's address and key. -/
def api {τ : Type u} (r : Registry τ) : Api τ := ⟨r.apiBase, r.apiKey⟩

/-- The registry with the provider replaced. -/
def setApi {τ : Type u} (r : Registry τ) (api : Api τ) : Registry τ :=
  { r with apiBase := api.base, apiKey := api.key }

/-- The registry with one more persona. -/
def add {τ : Type u} (r : Registry τ) (p : Persona τ) : Registry τ :=
  { r with agents := r.agents ++ [p] }

/-- A registry without personas. -/
def initial {τ : Type u} (api : Api τ) (defaultModel defaultPrompt : τ) : Registry τ :=
  ⟨api.base, api.key, [], [], defaultModel, defaultPrompt⟩

/-- The position of the persona of a name, from 0. -/
def index? (r : Registry Json) (name : String) : Except Crash (Option Nat) :=
  Name.position? name r.names

/-- The persona of a name. -/
def find? (r : Registry Json) (name : String) : Except Crash (Option (Persona Json)) :=
  (r.index? name).map fun position ↦ position.bind (r.agents[·]?)

/-- The registry with the persona of a name changed, if there is one. -/
def update (r : Registry Json) (name : String) (f : Persona Json → Persona Json) :
    Registry Json :=
  match r.index? name with
  | .ok (some i) => { r with agents := r.agents.modify i f }
  | _ => r

/-- The registry without the persona of a name. -/
def remove (r : Registry Json) (name : String) : Registry Json :=
  match r.index? name with
  | .ok (some i) => { r with agents := r.agents.eraseIdx i }
  | _ => r

end Registry
end PersonaChat
