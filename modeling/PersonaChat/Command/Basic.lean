import PersonaChat.Persona.Basic

/-!
# Commands

The closed set of actions that a message can ask for. Actions on histories carry the scope they
address, and filling in descriptions may carry a model; no other action carries anything, so an
action with a missing or superfluous part cannot be formed.

Spec guidance: `SPEC_FULL.md`, lines 90–93 and 141–144.
-/

namespace PersonaChat

universe u v

/-- What kind of action is asked for. -/
inductive ActionKind where
  /-- Talk to a persona. -/
  | chat
  /-- Ask for the last answer anew. -/
  | regenerate
  /-- Drop the answer under way. -/
  | stop
  /-- Copy a persona under a new name. -/
  | copy
  /-- Rename a persona. -/
  | rename
  /-- Describe a persona. -/
  | setDescription
  /-- Delete a persona. -/
  | delete
  /-- List the personas. -/
  | list
  /-- Choose the model of a persona. -/
  | setModel
  /-- Set the system prompt of a persona. -/
  | setPrompt
  /-- Show the system prompt of a persona. -/
  | viewPrompt
  /-- List the models. -/
  | listModels
  /-- Show a whole history. -/
  | viewAll
  /-- Show positions of a history. -/
  | viewAt
  /-- Write a history to a file. -/
  | exportHistory
  /-- Edit a position of a history. -/
  | editAt
  /-- Delete positions of a history. -/
  | deleteAt
  /-- Empty a history. -/
  | clearHistory
  /-- Empty the shared histories of all personas. -/
  | clearAllPublic
  /-- Empty all histories of all personas. -/
  | clearEverything
  /-- Show the help text. -/
  | help
  /-- Describe all personas that have no description. -/
  | fillDescriptions
  deriving DecidableEq, Repr

namespace ActionKind

/-- Every kind with its word. -/
def words : List (ActionKind × String) :=
  [(.chat, "chat"), (.regenerate, "regenerate"), (.stop, "stop"), (.copy, "copy"),
    (.rename, "rename"), (.setDescription, "set_desc"), (.delete, "delete"), (.list, "list"),
    (.setModel, "set_model"), (.setPrompt, "set_prompt"), (.viewPrompt, "view_prompt"),
    (.listModels, "list_models"), (.viewAll, "view_all"), (.viewAt, "view_at"),
    (.exportHistory, "export"), (.editAt, "edit_at"), (.deleteAt, "delete_at"),
    (.clearHistory, "clear_history"), (.clearAllPublic, "clear_all_public"),
    (.clearEverything, "clear_everything"), (.help, "help"),
    (.fillDescriptions, "auto_fill_descriptions")]

/-- The word of a kind. -/
def word (kind : ActionKind) : String := (words.lookup kind).getD ""

/-- The kind of a word. -/
def ofWord? (word : String) : Option ActionKind :=
  (words.find? fun entry ↦ entry.2 == word).map Prod.fst

/-- Whether actions of a kind address a history. -/
def isScoped : ActionKind → Bool
  | .viewAll | .viewAt | .exportHistory | .editAt | .deleteAt | .clearHistory => true
  | _ => false

end ActionKind

/-- The scope of a word. -/
def Scope.ofWord? (word : String) : Option Scope :=
  [Scope.shared, .personal].find? fun scope ↦ scope.word == word

/-- An action, with what it addresses. -/
inductive Action where
  /-- Talk to a persona. -/
  | chat
  /-- Ask for the last answer anew. -/
  | regenerate
  /-- Drop the answer under way. -/
  | stop
  /-- Copy a persona under a new name. -/
  | copy
  /-- Rename a persona. -/
  | rename
  /-- Describe a persona. -/
  | setDescription
  /-- Delete a persona. -/
  | delete
  /-- List the personas. -/
  | list
  /-- Choose the model of a persona. -/
  | setModel
  /-- Set the system prompt of a persona. -/
  | setPrompt
  /-- Show the system prompt of a persona. -/
  | viewPrompt
  /-- List the models. -/
  | listModels
  /-- Show a whole history. -/
  | viewAll (scope : Scope)
  /-- Show positions of a history. -/
  | viewAt (scope : Scope)
  /-- Write a history to a file. -/
  | exportHistory (scope : Scope)
  /-- Edit a position of a history. -/
  | editAt (scope : Scope)
  /-- Delete positions of a history. -/
  | deleteAt (scope : Scope)
  /-- Empty a history. -/
  | clearHistory (scope : Scope)
  /-- Empty the shared histories of all personas. -/
  | clearAllPublic
  /-- Empty all histories of all personas. -/
  | clearEverything
  /-- Show the help text. -/
  | help
  /-- Describe all personas that have no description, with the given model if there is one. -/
  | fillDescriptions (model : Option String)
  deriving DecidableEq, Repr

/-- Why an action cannot be formed. -/
inductive ActionFault where
  /-- The scope is missing or superfluous. -/
  | scopeMismatch (kind : ActionKind)
  /-- The kind takes no model. -/
  | superfluousModel (kind : ActionKind)
  deriving DecidableEq, Repr

/-- The wording of a fault. -/
def ActionFault.message : ActionFault → String
  | .scopeMismatch kind => "scope mismatch for " ++ kind.word
  | .superfluousModel kind => kind.word ++ " does not take a model"

namespace Action

/-- The kind of an action. -/
def kind : Action → ActionKind
  | .chat => .chat
  | .regenerate => .regenerate
  | .stop => .stop
  | .copy => .copy
  | .rename => .rename
  | .setDescription => .setDescription
  | .delete => .delete
  | .list => .list
  | .setModel => .setModel
  | .setPrompt => .setPrompt
  | .viewPrompt => .viewPrompt
  | .listModels => .listModels
  | .viewAll _ => .viewAll
  | .viewAt _ => .viewAt
  | .exportHistory _ => .exportHistory
  | .editAt _ => .editAt
  | .deleteAt _ => .deleteAt
  | .clearHistory _ => .clearHistory
  | .clearAllPublic => .clearAllPublic
  | .clearEverything => .clearEverything
  | .help => .help
  | .fillDescriptions _ => .fillDescriptions

/-- The scope that an action addresses. -/
def scope? : Action → Option Scope
  | .viewAll scope | .viewAt scope | .exportHistory scope | .editAt scope | .deleteAt scope
  | .clearHistory scope => some scope
  | _ => none

/-- The model that an action carries. -/
def model? : Action → Option String
  | .fillDescriptions model => model
  | _ => none

/-- Form an action from its parts. A wrong scope is found before a superfluous model. -/
def make (kind : ActionKind) (scope : Option Scope) (model : Option String) :
    Except ActionFault Action :=
  if kind.isScoped != scope.isSome then .error (.scopeMismatch kind)
  else if model.isSome && kind != .fillDescriptions then .error (.superfluousModel kind)
  else
    match kind, scope with
    | .viewAll, some s => .ok (.viewAll s)
    | .viewAt, some s => .ok (.viewAt s)
    | .exportHistory, some s => .ok (.exportHistory s)
    | .editAt, some s => .ok (.editAt s)
    | .deleteAt, some s => .ok (.deleteAt s)
    | .clearHistory, some s => .ok (.clearHistory s)
    | .chat, _ => .ok .chat
    | .regenerate, _ => .ok .regenerate
    | .stop, _ => .ok .stop
    | .copy, _ => .ok .copy
    | .rename, _ => .ok .rename
    | .setDescription, _ => .ok .setDescription
    | .delete, _ => .ok .delete
    | .list, _ => .ok .list
    | .setModel, _ => .ok .setModel
    | .setPrompt, _ => .ok .setPrompt
    | .viewPrompt, _ => .ok .viewPrompt
    | .listModels, _ => .ok .listModels
    | .clearAllPublic, _ => .ok .clearAllPublic
    | .clearEverything, _ => .ok .clearEverything
    | .help, _ => .ok .help
    | .fillDescriptions, _ => .ok (.fillDescriptions model)
    | kind, none => .error (.scopeMismatch kind)

end Action

/-- A command: an action, the persona it names, and its arguments. -/
structure Command where
  /-- The name of the persona, empty for actions on the whole registry. -/
  agent : String
  /-- The action. -/
  action : Action
  /-- The text argument. -/
  args : String
  /-- Positions of a history. -/
  indices : List Int
  /-- Whether the private mark was set, so that talk goes to the private history. -/
  privateReply : Bool
  /-- Whether the text mark was set, so that replies are not rendered. -/
  textMode : Bool
  deriving DecidableEq, Repr

/-- A request to create a persona, or to update the one of that name. -/
structure CreateRequest where
  /-- The name. -/
  name : String
  /-- The description, empty when none is given. -/
  description : String
  /-- The model, empty when none is given. -/
  model : String
  /-- The system prompt, empty when none is given. -/
  prompt : String
  deriving DecidableEq, Repr

/-- Where the provider is reached and how it knows us. -/
structure Api (τ : Type u) where
  /-- The address. -/
  base : τ
  /-- The key. -/
  key : τ
  deriving DecidableEq, Repr

/-- Apply a function to address and key. -/
def Api.map {τ : Type u} {υ : Type v} (f : τ → υ) (api : Api τ) : Api υ := ⟨f api.base, f api.key⟩

/-- Whether both address and key are given. -/
def Api.isReady (api : Api Json) : Bool := api.base.isFilled && api.key.isFilled

/-- What a message asks for. -/
inductive Request where
  /-- Use this provider. -/
  | configure (api : Api String)
  /-- Create or update a persona. -/
  | create (request : CreateRequest)
  /-- Anything else. -/
  | command (command : Command)
  deriving DecidableEq, Repr

end PersonaChat
