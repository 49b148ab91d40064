import PersonaChat.Json.Kind
import PersonaChat.Number.Integer
import PersonaChat.Text.Case
import PersonaChat.Text.Scan

/-!
# Model lists

A provider offers many models. Those whose names contain a keyword are kept and shown in one group
per keyword; the numbers shown are positions of the list, counted from 1, and select a model.

Spec guidance: `SPEC_FULL.md`, lines 212–216.
-/

namespace PersonaChat.Models

open Text

/-- The keywords that are looked for when no others are configured. -/
def defaultKeywords : List String :=
  ["gpt-5", "claude", "gemini-3", "deepseek", "kimi", "grok-4", "banana", "sora-2"]

/-- Whether a text occurs in a model name, up to case. -/
def contains (part model : String) : Bool :=
  occursIn (lower part.toList) (lower model.toList)

/-- The models that contain some keyword; all models when none does. -/
def filter (keywords models : List String) : List String :=
  let kept := models.filter fun model ↦ keywords.any (contains · model)
  if kept.isEmpty then models else kept

/-- The first keyword that a model contains. -/
def keyword? (keywords : List String) (model : String) : Option String :=
  keywords.find? (contains · model)

/-- A group of a model list: its title and its models with their numbers. -/
structure Group where
  /-- The title. -/
  title : String
  /-- The models with their numbers. -/
  items : List (Nat × String)
  deriving DecidableEq, Repr

/-- The title of the group of a keyword. -/
def title (keyword : String) : String :=
  String.ofList (capitalizeFirst keyword.toList) ++ " Series"

/-- The title of the models that contain no keyword. -/
def otherTitle : String := "Other Models"

/-- The models with their numbers. -/
def numbered (models : List String) : List (Nat × String) :=
  (models.zipIdx 1).map fun entry ↦ (entry.2, entry.1)

/-- The models whose first keyword is the given one, with their numbers. -/
def itemsOf (keywords models : List String) (keyword : Option String) : List (Nat × String) :=
  (numbered models).filter fun item ↦ keyword? keywords item.2 == keyword

/-- The groups of a model list in the order of the keywords, those without a keyword last. -/
def groups (keywords models : List String) : List Group :=
  let named := keywords.map fun keyword ↦ ⟨title keyword, itemsOf keywords models (some keyword)⟩
  let others : Group := ⟨otherTitle, itemsOf keywords models none⟩
  (named ++ [others]).filter fun group ↦ !group.items.isEmpty

/-- The model at a position counted from 1. -/
def at? (models : List Json) (position : Nat) : Option Json :=
  if position = 0 then none else models[position - 1]?

/-- The first model that contains a text. A model that is no text and stands before it cannot be
compared. -/
def containing? (part : String) : List Json → Except Crash (Option Json)
  | [] => .ok none
  | model :: rest => do
    if contains part (← model.forOperation "lower") then return some model
    else containing? part rest

/-- The model that a user's text refers to: by its number, else the first that contains the text,
else the text itself. A text of characters that look like digits must be a number. -/
def resolve (ref : String) (models : List Json) : Except Crash (Option Json) :=
  if ref = "" then .ok none
  else do
    let numbered ←
      if ref.toList.all isDigitLike then
        match Number.readInt? ref.toList with
        | some i => pure (at? models i.toNat)
        | none => .error .badNumber
      else pure none
    match numbered with
    | some model => return some model
    | none => return some ((← containing? ref models).getD (.str ref))

/-- The texts that a list of names consists of. -/
def names (models : List Json) : Except Crash (List String) :=
  models.mapM (·.forOperation "lower")

/-- The models of a list that contain some keyword. Without keywords no model is looked at, and all
are kept. -/
def filterValues (keywords models : List Json) : Except Crash (List Json) := do
  match ← names keywords with
  | [] => return models
  | keywords => return (filter keywords (← names models)).map .str

/-- The groups of a list of models. Without models no keyword is looked at. -/
def groupValues (keywords models : List Json) : Except Crash (List Group) := do
  match ← names models with
  | [] => return []
  | models => return groups (← names keywords) models

end PersonaChat.Models
