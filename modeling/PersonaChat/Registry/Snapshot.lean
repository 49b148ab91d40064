import PersonaChat.Json.Basic
import PersonaChat.Number.Integer
import PersonaChat.Registry.Basic

/-!
# Snapshots

A snapshot is a registry as a JSON document holds it. Fields may be missing or empty and then have
a default; texts may hold values of any type, which pass through; numbers may be written as texts
or truth values, and lists as texts or objects. Reading fails at the first field, in the order of
the fields, whose value cannot be understood.

Spec guidance: `SPEC_FULL.md`, lines 34–44 and 190–196.
-/

namespace PersonaChat

open Number Text

/-- A registry whose texts may be any JSON value. -/
abbrev Snapshot := Registry Json

/-- Why a snapshot cannot be read. -/
inductive SnapshotFault where
  /-- A value that should have fields has none. -/
  | noFields
  /-- A value that should be a persona has no named parts. -/
  | noParts
  /-- A persona has no name. -/
  | noName
  /-- A value is no list. -/
  | notAList
  /-- A value is no number. -/
  | notANumber
  /-- A text or a floating-point number denotes no integer. -/
  | badNumber
  /-- A number is infinite. -/
  | infinite
  deriving DecidableEq, Repr

namespace Json

/-- The value of a field, or a default when it is missing or empty. -/
def fieldOr (j : Json) (key : String) (default : Json) : Json := (j.filled? key).getD default

/-- The elements of a value: of an array its items, of a text its characters, of an object its
keys. -/
def elements : Json → Except SnapshotFault (List Json)
  | .arr items => .ok items
  | .str s => .ok (s.toList.map fun c ↦ .str (String.singleton c))
  | .obj fields => .ok (fields.map fun entry ↦ .str entry.1)
  | _ => .error .notAList

/-- The elements of a field; none when it is missing or empty. -/
def fieldElements (key : String) (j : Json) : Except SnapshotFault (List Json) :=
  match j.filled? key with
  | some value => value.elements
  | none => .ok []

/-- The integer that a value denotes, cut off towards zero. -/
def toInt : Json → Except SnapshotFault Int
  | .int n => .ok n
  | .bool b => .ok (if b then 1 else 0)
  | .real .notANumber => .error .badNumber
  | .real (.infinite _) => .error .infinite
  | .real (.finite s m e) => .ok ((Binary64.truncate? (.finite s m e)).getD 0)
  | .str s => match readInt? s.toList with
    | some n => .ok n
    | none => .error .badNumber
  | _ => .error .notANumber

/-- The integer of a field; zero when it is missing or empty. -/
def fieldInt (key : String) (j : Json) : Except SnapshotFault Int :=
  match j.filled? key with
  | some value => value.toInt
  | none => .ok 0

end Json

namespace Message

/-- Read a message. -/
def ofJson (j : Json) : Except SnapshotFault (Message Json) :=
  if !j.isObject then .error .noFields
  else do
    let images ← j.fieldElements "images"
    let timestamp ← j.fieldInt "timestamp"
    return ⟨j.fieldOr "role" (.str userRole), j.fieldOr "content" (.str ""), images, timestamp⟩

/-- Write a message. -/
def toJson (m : Message Json) : Json :=
  .obj [("role", m.role), ("content", m.content), ("images", .arr m.images),
    ("timestamp", .int m.timestamp)]

end Message

namespace History

/-- Read a history. -/
def ofJson (j : Json) : Except SnapshotFault (History Json) := do
  (← j.elements).mapM Message.ofJson

/-- Write a history. -/
def toJson (h : History Json) : Json := .arr (h.map Message.toJson)

end History

namespace Persona

/-- Read the private histories of a persona. -/
def privateOfJson (j : Json) : Except SnapshotFault (Keyed String (History Json)) :=
  match j.filled? "private_histories" with
  | none => .ok []
  | some (.obj fields) => fields.mapM fun entry ↦ do return (entry.1, ← History.ofJson entry.2)
  | some _ => .error .noFields

/-- Read a persona. -/
def ofJson (j : Json) : Except SnapshotFault (Persona Json) :=
  if !j.isObject then .error .noParts
  else
    match j.field? "name" with
    | none => .error .noName
    | some name => do
      let shared ← (← j.fieldElements "public_history").mapM Message.ofJson
      let personal ← privateOfJson j
      let version ← j.fieldInt "generation_id"
      let createdAt ← j.fieldInt "created_at"
      return {
        name := name
        description := j.fieldOr "description" (.str "")
        model := j.fieldOr "model" (.str "")
        systemPrompt := j.fieldOr "system_prompt" (.str "")
        publicHistory := shared
        privateHistories := personal
        version := version
        createdAt := createdAt }

/-- Write a persona. -/
def toJson (p : Persona Json) : Json :=
  .obj [("name", p.name), ("description", p.description), ("model", p.model),
    ("system_prompt", p.systemPrompt), ("public_history", History.toJson p.publicHistory),
    ("private_histories",
      .obj (p.privateHistories.map fun entry ↦ (entry.1, History.toJson entry.2))),
    ("generation_id", .int p.version), ("created_at", .int p.createdAt)]

end Persona

namespace Registry

/-- Read a snapshot. -/
def ofJson (j : Json) : Except SnapshotFault Snapshot :=
  if !j.isObject then .error .noFields
  else do
    let models ← j.fieldElements "models"
    let agents ← (← j.fieldElements "agents").mapM Persona.ofJson
    return {
      apiBase := j.fieldOr "api_base" (.str "")
      apiKey := j.fieldOr "api_key" (.str "")
      models := models
      agents := agents
      defaultModel := j.fieldOr "default_model" (.str "")
      defaultPrompt := j.fieldOr "default_prompt" (.str "") }

/-- Write a snapshot. -/
def toJson (r : Snapshot) : Json :=
  .obj [("api_base", r.apiBase), ("api_key", r.apiKey), ("models", .arr r.models),
    ("agents", .arr (r.agents.map Persona.toJson)), ("default_model", r.defaultModel),
    ("default_prompt", r.defaultPrompt)]

/-- The snapshot of a registry. -/
def snapshot (r : Registry String) : Snapshot := r.map .str

/-- A snapshot with its empty defaults taken from another one. -/
def withDefaults (s default : Snapshot) : Snapshot :=
  { s with
    defaultModel := if s.defaultModel.isFilled then s.defaultModel else default.defaultModel
    defaultPrompt := if s.defaultPrompt.isFilled then s.defaultPrompt else default.defaultPrompt }

end Registry
end PersonaChat
