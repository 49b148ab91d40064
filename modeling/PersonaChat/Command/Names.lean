import PersonaChat.Command.Reader
import PersonaChat.Json.Kind

/-!
# Recognising commands among names of any kind

A registry may hold values that are no texts in place of names. A message is recognised as if they
were not there, up to the point where one of them would have to be compared; there recognition
fails. For names that are texts it never does.

Spec guidance: `SPEC_FULL.md`, lines 77–88.
-/

namespace PersonaChat.Command

open Text

/-- Recognise the deletion of a persona. Names are compared in order, up to the one that is
meant. -/
def readDeleteAmong (cs : List Char) : List Json → Except Crash (Option String)
  | [] => .ok none
  | name :: names =>
    if !(['-', '#'].isPrefixOf (normalize (trim cs))) then .ok none
    else do
      match readDelete? cs [← name.forOperation "lower"] with
      | some name => return some name
      | none => readDeleteAmong cs names

/-- The length of a name: numbers and the like have none. -/
def nameLength : Json → Except Crash Nat
  | .str s => .ok s.length
  | .arr items => .ok items.length
  | .obj fields => .ok fields.length
  | j => .error (.wrongKind ("object of type '" ++ j.kindWord ++ "' has no len()"))

/-- The first of the given names that a narrowed text starts with; empty values are passed over. -/
def firstMatch (narrowed : List Char) : List Json → Except Crash (Option String)
  | [] => .ok none
  | name :: names =>
    if !name.isFilled then firstMatch narrowed names
    else do
      let name ← name.forOperation "translate"
      if startsWithName narrowed name then return some name else firstMatch narrowed names

/-- The longest name that a narrowed text starts with; of equally long ones the first. -/
def matchAmong (narrowed : List Char) (names : List Json) : Except Crash (Option String) := do
  let measured ← names.mapM fun name ↦ (nameLength name).map (name, ·)
  firstMatch narrowed ((measured.mergeSort fun a b ↦ b.2 ≤ a.2).map Prod.fst)

/-- What was recognised, unless a number is too long. -/
def orBadNumber {α : Type} (result : Except IndexFault α) : Except Crash α :=
  result.mapError fun
    | .numberTooLong => .badNumber

/-- Recognise a command to a persona. -/
def readPersonaAmong (cs : List Char) (names : List Json) : Except Crash (Option Command) :=
  if (trim cs).isEmpty then .ok none
  else do
    match ← matchAmong (normalize (contentOf cs)) names with
    | some name => orBadNumber (readPersona? cs [name])
    | none => return none

/-- Recognise a message, given the names in the registry; `none` when it asks for nothing. -/
def readAmong (text : String) (names : List Json) : Except Crash (Option Request) :=
  match names.mapM Json.text? with
  | some names => orBadNumber (read? text names)
  | none =>
    let cs := text.toList
    match readUnnamed? cs with
    | some request => .ok (some request)
    | none => do
      match ← readDeleteAmong cs names with
      | some name => return some (.command (deletion name))
      | none => return (← readPersonaAmong cs names).map .command

end PersonaChat.Command
