import PersonaChat.Models
import PersonaChat.Persona.Basic
import PersonaChat.View.History

/-!
# Lists of personas and models

Personas are shown in groups by model, each with its number in the registry; models in groups by
keyword, each with its number and how many personas use it.

Spec guidance: `SPEC_FULL.md`, lines 212–214.
-/

namespace PersonaChat.View

open Text

/-- What a persona is shown by: its description, else the start of its system prompt. -/
def summary (p : Persona Json) : Except Crash Json :=
  if p.description.isFilled then truncateValue p.description 20
  else if p.systemPrompt.isFilled then truncateValue p.systemPrompt 20
  else .ok (.str "无描述")

/-- The personas that use one model, with their numbers. -/
structure ModelUse where
  /-- The model. -/
  model : Json
  /-- The personas. -/
  members : List (Persona Json × Nat)

/-- Add a persona to the first group of its model, or to a new one. -/
def addMember (p : Persona Json) (index : Nat) : List ModelUse → List ModelUse
  | [] => [⟨p.model, [(p, index)]⟩]
  | group :: groups =>
    if group.model.equal p.model then
      { group with members := group.members ++ [(p, index)] } :: groups
    else group :: addMember p index groups

/-- The personas of a registry in groups by model, in the order of their first appearance. -/
def byModel (agents : List (Persona Json)) : Except Crash (List ModelUse) := do
  let _ ← agents.mapM fun p ↦ p.model.forLookup
  return (agents.zipIdx 1).foldl (fun groups (p, index) ↦ addMember p index groups) []

/-- A persona of a group with its number, and the text by which the group is ordered. -/
structure Member where
  /-- The persona. -/
  persona : Persona Json
  /-- Its number. -/
  index : Nat
  /-- Its name without regard to case. -/
  key : String

/-- The personas of a group in ascending order of their names, ignoring case. -/
def byName (members : List (Persona Json × Nat)) : Except Crash (List Member) := do
  let keyed ← members.mapM fun (p, index) ↦
    (p.name.forOperation "lower").map fun name ↦ (⟨p, index, lowerString name⟩ : Member)
  return keyed.mergeSort fun a b ↦ !(b.key < a.key)

/-- A persona in a list. -/
def personaLine (m : Member) : Except Crash String := do
  let summary ← summary m.persona
  return "- `" ++ natText m.index ++ "` **" ++ m.persona.name.display ++ "** " ++ summary.display

/-- The personas of one model. -/
def personaGroup (group : ModelUse) : Except Crash String := do
  let lines ← (← byName group.members).mapM personaLine
  let model := if group.model.isFilled then group.model.display else "(未设置)"
  return "\n".intercalate
    (("### 📦 " ++ model ++ " (" ++ natText group.members.length ++ ")") :: lines)

/-- The personas of a registry in groups by model, in ascending order. -/
def personas (agents : List (Persona Json)) : Except Crash String := do
  let groups ← Json.sortedBy ModelUse.model (← byModel agents)
  return "\n\n".intercalate (← groups.mapM personaGroup)

/-- How many personas use a model, unless none does. -/
def usage (model : String) (agents : List (Persona Json)) : String :=
  match agents.countP (·.model == .str model) with
  | 0 => ""
  | count => " (" ++ natText count ++ "用)"

/-- The models of one group. -/
def modelGroup (group : Models.Group) (agents : List (Persona Json)) : String :=
  "\n".intercalate (("### " ++ group.title) ::
    group.items.map fun (index, model) ↦
      "- `" ++ natText index ++ "` " ++ model ++ usage model agents)

/-- A model list in groups by keyword. -/
def models (keywords : List String) (models : List Json) (agents : List (Persona Json)) :
    Except Crash String := do
  let _ ← agents.mapM fun p ↦ p.model.forLookup
  let names ← Models.names models
  return "\n\n".intercalate ((Models.groups keywords names).map (modelGroup · agents))

end PersonaChat.View
