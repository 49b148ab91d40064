import PersonaChat.Keyed
import PersonaChat.Persona.Basic

/-!
# Busy conversations

A conversation is busy while an answer to it is under way: per persona for the shared history, per
persona and user for the private ones. Whoever makes it busy gets a token, and frees it with that
token only as long as the token still holds it; stopping and clearing free it without a token.

Spec guidance: `SPEC_FULL.md`, lines 45–46 and 121–128.
-/

namespace PersonaChat

/-- What an answer is under way for. -/
structure Conversation where
  /-- The name of the persona as it was addressed. -/
  agent : String
  /-- The history. -/
  scope : Scope
  /-- The user, which matters for the private histories only. -/
  user : String
  deriving DecidableEq, Repr

/-- The busy conversations with their tokens, and the next token. -/
structure Occupancy where
  /-- Tokens of the shared histories, by persona. -/
  shared : Keyed String Nat
  /-- Tokens of the private histories, by persona and user. -/
  personal : Keyed String (Keyed String Nat)
  /-- The token given out next. -/
  next : Nat
  deriving DecidableEq, Repr

namespace Occupancy

/-- Nothing is busy, and the first token is 1. -/
def empty : Occupancy := ⟨[], [], 1⟩

/-- The users of a persona whose private histories are busy. -/
def users (o : Occupancy) (agent : String) : Keyed String Nat :=
  (Keyed.get? agent o.personal).getD []

/-- The token that holds a conversation. -/
def holder? (o : Occupancy) (c : Conversation) : Option Nat :=
  match c.scope with
  | .shared => Keyed.get? c.agent o.shared
  | .personal => Keyed.get? c.user (o.users c.agent)

/-- Whether a conversation is busy. -/
def isBusy (o : Occupancy) (c : Conversation) : Bool := (o.holder? c).isSome

/-- Let a token hold a conversation. -/
def hold (o : Occupancy) (c : Conversation) (token : Nat) : Occupancy :=
  match c.scope with
  | .shared => { o with shared := Keyed.put c.agent token o.shared }
  | .personal =>
    { o with personal := Keyed.put c.agent (Keyed.put c.user token (o.users c.agent)) o.personal }

/-- Make a conversation busy: the token for it, or `none` when it is busy already. -/
def start (o : Occupancy) (c : Conversation) : Occupancy × Option Nat :=
  if o.isBusy c then (o, none)
  else ({ o.hold c o.next with next := o.next + 1 }, some o.next)

/-- Free a conversation, whoever holds it. A persona without busy users is forgotten. -/
def free (o : Occupancy) (c : Conversation) : Occupancy :=
  match c.scope with
  | .shared => { o with shared := Keyed.erase c.agent o.shared }
  | .personal =>
    let users := Keyed.erase c.user (o.users c.agent)
    if users.isEmpty then { o with personal := Keyed.erase c.agent o.personal }
    else { o with personal := Keyed.put c.agent users o.personal }

/-- Free a conversation: with a token only if that token holds it, without one in any case. -/
def finish (o : Occupancy) (c : Conversation) (token : Option Nat) : Occupancy :=
  match o.holder? c, token with
  | none, _ => o
  | some _, none => o.free c
  | some holder, some token => if holder = token then o.free c else o

/-- Free all shared histories. -/
def clearShared (o : Occupancy) : Occupancy := { o with shared := [] }

/-- Free all histories. -/
def clearAll (o : Occupancy) : Occupancy := { o with shared := [], personal := [] }

end Occupancy
end PersonaChat
