import PersonaChat.Keyed
import PersonaChat.Message

/-!
# Personas

A persona is a named configuration of a model with one public history and one private history per
user. Its version counts the changes that make answers still under way out of date. A private
history that was never written counts as empty, but writing to it leaves an entry behind.

Spec guidance: `SPEC_FULL.md`, lines 37–40 and 105–111.
-/

namespace PersonaChat

universe u v

/-- The part of a persona's conversation that a command addresses. -/
inductive Scope where
  /-- The history that all users share. -/
  | shared
  /-- The history of one user. -/
  | personal
  deriving DecidableEq, Repr

namespace Scope

/-- The word for a scope. -/
def word : Scope → String
  | .shared => "public"
  | .personal => "private"

/-- The label shown to users. -/
def label : Scope → String
  | .shared => "公有"
  | .personal => "私有"

/-- The scope for a private mark. -/
def ofPrivate (marked : Bool) : Scope := if marked then .personal else .shared

/-- Whether a scope is private. -/
def isPersonal : Scope → Bool
  | .shared => false
  | .personal => true

end Scope

/-- A named configuration of a model with its histories. -/
structure Persona (τ : Type u) where
  /-- The name by which users address it. -/
  name : τ
  /-- A short description. -/
  description : τ
  /-- The model that answers. -/
  model : τ
  /-- The system prompt. -/
  systemPrompt : τ
  /-- The history that all users share. -/
  publicHistory : History τ
  /-- The histories of single users. -/
  privateHistories : Keyed String (History τ)
  /-- The number of changes that made answers under way out of date. -/
  version : Int
  /-- The time of creation. -/
  createdAt : Int
  deriving DecidableEq, Repr

namespace Persona

variable {τ : Type u}

/-- Apply a function to every text. -/
def map {υ : Type v} (f : τ → υ) (p : Persona τ) : Persona υ where
  name := f p.name
  description := f p.description
  model := f p.model
  systemPrompt := f p.systemPrompt
  publicHistory := p.publicHistory.map (·.map f)
  privateHistories := p.privateHistories.map fun entry ↦ (entry.1, entry.2.map (·.map f))
  version := p.version
  createdAt := p.createdAt

/-- The history of a scope and user. -/
def history (p : Persona τ) (scope : Scope) (user : String) : History τ :=
  match scope with
  | .shared => p.publicHistory
  | .personal => (Keyed.get? user p.privateHistories).getD []

/-- The persona with the history of a scope and user replaced. -/
def setHistory (p : Persona τ) (scope : Scope) (user : String) (h : History τ) : Persona τ :=
  match scope with
  | .shared => { p with publicHistory := h }
  | .personal => { p with privateHistories := Keyed.put user h p.privateHistories }

/-- Append a message to a history. -/
def append (p : Persona τ) (scope : Scope) (user : String) (m : Message τ) : Persona τ :=
  p.setHistory scope user (p.history scope user ++ [m])

/-- Empty a history. A private history without an entry gets none. -/
def clear (p : Persona τ) (scope : Scope) (user : String) : Persona τ :=
  match scope with
  | .shared => p.setHistory .shared user []
  | .personal =>
    if Keyed.has user p.privateHistories then p.setHistory .personal user [] else p

/-- Delete positions of a history: the persona afterwards and the positions deleted, ascending. -/
def deleteAt (p : Persona τ) (scope : Scope) (user : String) (wanted : List Int) :
    Persona τ × List Nat :=
  let (left, deleted) := (p.history scope user).remove wanted
  (p.setHistory scope user left, deleted)

/-- Replace the text at a position of a history; `none` when there is no such position. -/
def editAt? (p : Persona τ) (scope : Scope) (user : String) (position : Int) (content : τ) :
    Option (Persona τ) :=
  let h := p.history scope user
  (h.at? position).map fun _ ↦ p.setHistory scope user (h.setText position content)

/-- Count one more change. -/
def bump (p : Persona τ) : Persona τ := { p with version := p.version + 1 }

/-- Empty the shared history and count the change. -/
def clearShared (p : Persona τ) : Persona τ := { p with publicHistory := [] }.bump

/-- Empty all histories, forget their users, and count the change. -/
def clearAll (p : Persona τ) : Persona τ :=
  { p with publicHistory := [], privateHistories := [] }.bump

/-- A fresh persona. -/
def fresh (name model systemPrompt description : τ) (now : Int) : Persona τ where
  name := name
  description := description
  model := model
  systemPrompt := systemPrompt
  publicHistory := []
  privateHistories := []
  version := 0
  createdAt := now

/-- The history of the scope that was just set. -/
@[simp] theorem history_setHistory (p : Persona τ) (scope : Scope) (user : String)
    (h : History τ) : (p.setHistory scope user h).history scope user = h := by
  cases scope <;> simp [history, setHistory]

end Persona
end PersonaChat
