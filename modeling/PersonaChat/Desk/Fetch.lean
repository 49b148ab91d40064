import PersonaChat.Desk.World
import PersonaChat.Models

/-!
# Fetching the models

The provider's address is looked up, the provider is asked for its models, and those that are kept
are stored, in ascending order.

Spec guidance: `SPEC_FULL.md`, lines 210–214.
-/

namespace PersonaChat

/-- How far fetching has come. -/
inductive Fetch where
  /-- Nothing is done yet. -/
  | asked
  /-- The question is put. -/
  | waiting (api : Api Json)
  /-- The provider has answered. -/
  | answered (result : Except Failure (List Json))
  /-- All is done; these models are kept. -/
  | finished (result : Except Failure (List String))

namespace Fetch

/-- Look up the provider and put the question. -/
def ask (env : Surroundings) (w : World) : World × Fetch :=
  let api := w.registry.api
  if !api.base.isFilled then (w, .finished (.error (.refused .apiMissing)))
  else
    match w.ask env (.models api) with
    | (w, .ok ()) => (w, .waiting api)
    | (w, .error failure) => (w, .answered (.error failure))

/-- The model names of a list of identifiers, in ascending order. Identifiers that cannot be
ordered are found before those that are no texts. -/
def modelNames (ids : List Json) : Except Crash (List String) := do
  Models.names (← Json.sortedBy id ids)

/-- Store the models that are kept. -/
def store (env : Surroundings) (w : World) (names : List String) : World × List String :=
  let kept := Models.filter env.keywords names
  let w := w.commit env { w.registry with models := kept.map .str }
  (w.note .info "Fetched models" [("total", .int names.length), ("kept", .int kept.length)], kept)

/-- The next step. Fetching that waits for the provider, or has finished, stays. -/
def step (env : Surroundings) (w : World) : Fetch → World × Fetch
  | .asked => ask env w
  | .waiting api => (w, .waiting api)
  | .answered (.error failure) => (w, .finished (.error failure))
  | .answered (.ok ids) =>
    match modelNames ids with
    | .error crash => (w, .finished (.error (.crashed crash)))
    | .ok names =>
      let (w, kept) := store env w names
      (w, .finished (.ok kept))
  | .finished result => (w, .finished result)

/-- The question that is waited for. -/
def query? : Fetch → Option Query
  | .waiting api => some (.models api)
  | _ => none

/-- Give the answer that is waited for. -/
def answer (result : Except Failure (List Json)) : Fetch → Fetch
  | .waiting _ => .answered result
  | f => f

end Fetch
end PersonaChat
