import PersonaChat.Json.Basic

/-!
# Messages and histories

A message of a conversation has a role, a text, media references and a time stamp. The type of its
texts is a parameter: where they come from a snapshot, any JSON value may stand in place of a text.
A history is a list of messages, and positions shown to users count from 1.

Spec guidance: `SPEC_FULL.md`, lines 34–36.
-/

namespace PersonaChat

universe u v

/-- One message of a conversation. -/
structure Message (τ : Type u) where
  /-- Who speaks: `user`, `assistant` or `system`. -/
  role : τ
  /-- The text, which may embed pictures. -/
  content : τ
  /-- References to pictures and videos, in the order in which they were sent. -/
  images : List τ
  /-- The time of creation. -/
  timestamp : Int
  deriving DecidableEq, Repr

/-- The messages of one conversation, oldest first. -/
abbrev History (τ : Type u) := List (Message τ)

/-- The role of a user. -/
def userRole : String := "user"

/-- The role of a model. -/
def assistantRole : String := "assistant"

namespace Message

/-- Apply a function to every text. -/
def map {τ : Type u} {υ : Type v} (f : τ → υ) (m : Message τ) : Message υ :=
  ⟨f m.role, f m.content, m.images.map f, m.timestamp⟩

/-- A message of a user. -/
def ofUser (content : String) (images : List Json) (now : Int) : Message Json :=
  ⟨.str userRole, .str content, images, now⟩

/-- A message of a model. -/
def ofAssistant (content : String) (now : Int) : Message Json :=
  ⟨.str assistantRole, .str content, [], now⟩

/-- Whether a message has a given role. -/
def hasRole (role : String) (m : Message Json) : Bool := m.role == .str role

end Message

namespace History

variable {τ : Type u}

/-- The message at a position counted from 1. -/
def at? (h : History τ) (position : Int) : Option (Message τ) :=
  if 0 < position then h[position.toNat - 1]? else none

/-- The positions of a history that a collection of numbers names, ascending. -/
def present (h : History τ) (wanted : List Int) : List Nat :=
  ((List.range h.length).map (· + 1)).filter fun position ↦ wanted.contains (position : Int)

/-- The history without the named positions. -/
def without (h : History τ) (wanted : List Int) : History τ :=
  ((h.zipIdx 1).filter fun entry ↦ !wanted.contains (entry.2 : Int)).map Prod.fst

/-- Remove positions one after the other, each counted in what the earlier removals have left, and
say which there were. A position that is not there is passed over. -/
def removeEach (h : History τ) : List Int → History τ × List Nat
  | [] => (h, [])
  | position :: rest =>
    if 0 < position ∧ position ≤ h.length then
      let (left, removed) := removeEach (h.eraseIdx (position.toNat - 1)) rest
      (left, position.toNat :: removed)
    else removeEach h rest

/-- Enter a position in a descending list, unless it is in it. -/
def enter (position : Int) : List Int → List Int
  | [] => [position]
  | first :: rest =>
    if first < position then position :: first :: rest
    else if first = position then first :: rest
    else first :: enter position rest

/-- The named positions, descending and each once. -/
def lastFirst (wanted : List Int) : List Int := wanted.foldr enter []

/-- Remove named positions, the last one first, so that no removal moves a position that is still
to come: what is left, and the positions removed, ascending. -/
def remove (h : History τ) (wanted : List Int) : History τ × List Nat :=
  let (left, removed) := h.removeEach (lastFirst wanted)
  (left, removed.reverse)

/-- The history with the text at a position replaced. -/
def setText (h : History τ) (position : Int) (content : τ) : History τ :=
  h.modify (position.toNat - 1) fun m ↦ { m with content := content }

/-- The history without its last message, if that has the given role. -/
def dropLast? (role : String) (h : History Json) : History Json :=
  match h.getLast? with
  | some m => if m.hasRole role then h.dropLast else h
  | none => h

end History
end PersonaChat
