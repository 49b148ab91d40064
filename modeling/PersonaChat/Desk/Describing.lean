import PersonaChat.Desk.Edit
import PersonaChat.Desk.World
import PersonaChat.Guide

/-!
# Describing personas

Personas without a description are described by a model, one after the other. Which personas these
are is looked up once; each description is stored as soon as it is given. A provider that refuses
is passed over, one that fails otherwise ends the whole.

Spec guidance: `SPEC_FULL.md`, lines 226–227.
-/

namespace PersonaChat

open Text

/-- What describing keeps while it goes from one persona to the next. -/
structure DescribingRun where
  /-- The address and key under which questions are put. -/
  api : Api Json
  /-- The model that is asked. -/
  model : Json
  /-- The personas still to be described: their names and system prompts. -/
  remaining : List (Json × Json)
  /-- How many have been described. -/
  described : Nat

/-- How far describing has come. -/
inductive Describing where
  /-- Nothing is done yet; a model may have been asked for. -/
  | asked (model : String)
  /-- It is known which model is asked about which personas. -/
  | surveyed (model : Json) (targets : List (Json × Json))
  /-- The next persona is to be described. -/
  | going (run : DescribingRun)
  /-- The question about a persona is put. -/
  | waiting (run : DescribingRun) (persona : Json) (request : ChatRequest)
  /-- The provider has answered. -/
  | answered (run : DescribingRun) (persona : Json) (result : Except Failure (Option String))
  /-- All is done; this is what the user is told. -/
  | finished (result : Except Failure String)

namespace Describing

/-- Whether a persona has no description of its own. -/
def isUndescribed (p : Persona Json) : Bool :=
  !p.description.isFilled || p.description == .str defaultDescription

/-- The personas that have no description of their own, with their system prompts. -/
def targets (r : Registry Json) : List (Json × Json) :=
  (r.agents.filter isUndescribed).map fun p ↦ (p.name, p.systemPrompt)

/-- The model that is asked. -/
def chosenModel (r : Registry Json) (ref : String) : Except Crash Json :=
  if ref = "" then .ok r.defaultModel
  else (Models.resolve ref r.models).map fun model ↦ (model.filter Json.isFilled).getD (.str ref)

/-- Look up which model is asked about which personas. -/
def survey (w : World) (ref : String) : World × Describing :=
  match chosenModel w.registry ref with
  | .error crash => (w, .finished (.error (.crashed crash)))
  | .ok model =>
    let targets := targets w.registry
    if targets.isEmpty then (w, .finished (.ok "✅ 所有智能体均已有描述，无需处理。"))
    else if !w.registry.api.isReady then (w, .finished (.error (.refused .apiMissing)))
    else
      (w.say ("🤖 开始使用 [" ++ model.display ++ "] 为 " ++ natText targets.length ++
        " 个智能体生成描述，请稍候..."), .surveyed model targets)

/-- Look up the provider. -/
def connect (env : Surroundings) (w : World) (model : Json) (targets : List (Json × Json)) :
    Describing :=
  let api := w.registry.api
  if !api.base.isFilled then .finished (.error (.refused .apiMissing))
  else
    match World.connect env api with
    | .error crash => .finished (.error (.crashed crash))
    | .ok () => .going ⟨api, model, targets, 0⟩

/-- The question about a persona with a given system prompt, which must be a text. -/
def request (model prompt : Json) (now : Int) : Except Crash ChatRequest :=
  match prompt with
  | .str prompt => .ok ⟨model, [.ofUser (Guide.describePrompt prompt) [] now], .str ""⟩
  | prompt => .error (.wrongKind ("replace() argument 2 must be str, not " ++ prompt.kindWord))

/-- Put the question about the next persona. -/
def ask (env : Surroundings) (w : World) (run : DescribingRun) : World × Describing :=
  match run.remaining with
  | [] => (w, .finished (.ok
      ("✅ 批量处理完成，已更新 " ++ natText run.described ++ " 个智能体的描述。")))
  | (persona, prompt) :: rest =>
    let run := { run with remaining := rest }
    match request run.model prompt w.now with
    | .error crash => (w, .finished (.error (.crashed crash)))
    | .ok question =>
      match w.ask env (.chat run.api question) with
      | (w, .ok ()) => (w, .waiting run persona question)
      | (w, .error failure) => (w, .answered run persona (.error failure))

/-- A description as it is stored: trimmed, without quotation marks and full stops. -/
def polish (content : String) : String :=
  String.ofList ((trim content.toList).filter fun c ↦ !(['"', '“', '”', '。', '.'].contains c))

/-- Store a description, if the persona still exists. -/
def store (env : Surroundings) (w : World) (run : DescribingRun) (persona : Json)
    (content : String) : World × Describing :=
  let found : Except Crash (String × Option (Persona Json)) := do
    let name ← persona.forOperation "lower"
    return (name, ← w.registry.find? name)
  match found with
  | .error crash => (w, .finished (.error (.crashed crash)))
  | .ok (_, none) => (w, .going run)
  | .ok (name, some _) =>
    let describe (p : Persona Json) : Persona Json :=
      { p with description := .str (polish content) }
    (w.commit env (w.registry.update name describe),
      .going { run with described := run.described + 1 })

/-- Record a persona that was passed over. -/
def noteFailure (w : World) (run : DescribingRun) (persona : Json) (refusal : Refusal) : World :=
  w.note .warning "Describe failed" [("action", .str "auto_fill"), ("model", run.model),
    ("agent", persona), ("error", .str refusal.message)]

/-- The next step. Describing that waits for the provider, or has finished, stays. -/
def step (env : Surroundings) (w : World) : Describing → World × Describing
  | .asked ref => survey w ref
  | .surveyed model targets => (w, connect env w model targets)
  | .going run => ask env w run
  | .waiting run persona request => (w, .waiting run persona request)
  | .answered run persona (.error (.refused refusal)) =>
    (noteFailure w run persona refusal, .going run)
  | .answered _ _ (.error (.crashed crash)) => (w, .finished (.error (.crashed crash)))
  | .answered run persona (.ok content) =>
    match content with
    | none | some "" => (w, .going run)
    | some content => store env w run persona content
  | .finished result => (w, .finished result)

/-- The question that is waited for. -/
def query? : Describing → Option Query
  | .waiting run _ request => some (.chat run.api request)
  | _ => none

/-- Give the answer that is waited for. -/
def answer (result : Except Failure (Option String)) : Describing → Describing
  | .waiting run persona _ => .answered run persona result
  | d => d

/-- How many personas are still to be described. -/
def remaining : Describing → Nat
  | .surveyed _ targets => targets.length
  | .going run | .waiting run _ _ | .answered run _ _ => run.remaining.length
  | _ => 0

end Describing
end PersonaChat
