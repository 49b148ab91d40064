import PersonaChat.Command.Basic
import PersonaChat.Command.Index
import PersonaChat.Command.Sign
import PersonaChat.Persona.Name
import PersonaChat.Text.Blank
import PersonaChat.Text.Case
import PersonaChat.Text.Scan

/-!
# Recognising commands

A message is tried, in this order, as an API configuration, a command to the whole registry, a
create request, a deletion and a command to a persona. The structure is recognised in the narrowed
image of the text and arguments are cut out of the text as it was typed. Whatever follows a
persona's name and is no known operator is talk.

Spec guidance: `SPEC_FULL.md`, lines 65–96 and 210.
-/

namespace PersonaChat.Command

open Text

/-- Whether a token is an address of the provider: a scheme and at least one more character. -/
def isAddress (token : List Char) : Bool :=
  [['h', 't', 't', 'p', ':', '/', '/'], ['h', 't', 't', 'p', 's', ':', '/', '/']].any fun scheme ↦
    scheme.isPrefixOf token && scheme.length < token.length

/-- Whether a token is a key of the provider. -/
def isKey (token : List Char) : Bool := ['s', 'k', '-'].isPrefixOf token && 3 < token.length

/-- Recognise an address and a key, in either order. -/
def readApi? (cs : List Char) : Option (Api String) :=
  match tokens cs with
  | [a, b] =>
    if isAddress a && isKey b then some ⟨String.ofList a, String.ofList b⟩
    else if isKey a && isAddress b then some ⟨String.ofList b, String.ofList a⟩
    else none
  | _ => none

/-- A command to the whole registry. -/
def global (action : Action) : Command := ⟨"", action, "", [], false, false⟩

/-- Commands to the whole registry that are written in one way only. -/
def globalWords : List (List Char × Action) :=
  [(['o', 'a', 'i'], .help), (['/', '#'], .list), (['/', '%'], .listModels),
    (['-', '*'], .clearAllPublic), (['-', '*', '!'], .clearEverything)]

/-- Recognise a command to the whole registry. -/
def readGlobal? (cs : List Char) : Option Command :=
  let typed := trim cs
  let narrowed := normalize typed
  match globalWords.lookup narrowed with
  | some action => some (global action)
  | none =>
    if ['#', '#', ':'].isPrefixOf narrowed then
      some (global (.fillDescriptions (some (String.ofList (trim (typed.drop 3))))))
    else none

/-- The largest number of characters of a model name in a create request. -/
def maxModelLength : Nat := 50

/-- The description in parentheses at the start of a text, and the text after it. Without a closing
parenthesis there is no description. -/
def readDescription (cs : List Char) : List Char × List Char :=
  match normalize cs with
  | '(' :: _ =>
    match (normalize cs).findIdx? (· == ')') with
    | some close => (trim ((cs.take close).drop 1), cs.drop (close + 1))
    | none => ([], cs)
  | _ => ([], cs)

/-- Recognise a create request: two number signs, a name, a description in parentheses, a model and
a system prompt. -/
def readCreate? (cs : List Char) : Option CreateRequest :=
  let typed := trim cs
  if !(['#', '#'].isPrefixOf (normalize typed)) then none
  else
    let after := typed.drop 2
    let endsName (c : Char) : Bool := isBlank c || narrow c == '('
    let name := String.ofList (trim (after.takeWhile (!endsName ·)))
    if !Name.isValid name then none
    else
      let (description, rest) := readDescription (after.dropWhile (!endsName ·))
      let (model, prompt) := (firstToken? rest).getD ([], [])
      if maxModelLength < model.length then none
      else some ⟨name, String.ofList description, String.ofList model, String.ofList (trim prompt)⟩

/-- Recognise the deletion of a persona and give its registered name. -/
def readDelete? (cs : List Char) (names : List String) : Option String :=
  let typed := trim cs
  if !(['-', '#'].isPrefixOf (normalize typed)) then none
  else
    let target := lower (trim (typed.drop 2))
    names.find? fun name ↦ lower name.toList == target

/-- Whether a narrowed text starts with a name, up to case. -/
def startsWithName (narrowed : List Char) (name : String) : Bool :=
  name != "" &&
    lower (narrowed.take name.length) == lower (normalize name.toList)

/-- The longest registered name that a narrowed text starts with; of equally long ones the
first. -/
def matchName? (narrowed : List Char) (names : List String) : Option String :=
  (names.mergeSort fun a b ↦ b.length ≤ a.length).find? (startsWithName narrowed)

/-- What follows a name: an action with its arguments. -/
structure Suffix where
  /-- The action. -/
  action : Action
  /-- The text argument. -/
  args : List Char
  /-- Positions of a history. -/
  indices : List Nat
  deriving DecidableEq

/-- A suffix with a text argument only. -/
def Suffix.ofText (action : Action) (args : List Char) : Suffix := ⟨action, args, []⟩

/-- Recognise the operators on histories, with their scope, given the narrowed and the typed text
without the local private mark; everything else is talk, for which `talk` is the whole suffix. -/
def readHistorySuffix (scope : Scope) (narrowed typed talk : List Char) :
    Except IndexFault Suffix :=
  let talking : Suffix := .ofText .chat talk
  match narrowed with
  | ['/', '*'] => .ok (.ofText (.viewAll scope) [])
  | '/' :: c :: r => do
    let indices ← readIndices (c :: r)
    return if indices.isEmpty then talking else ⟨.viewAt scope, [], indices⟩
  | ['_', '*'] => .ok (.ofText (.exportHistory scope) [])
  | '\'' :: _ => do
    let (head, tail) := cutAtBlank (typed.drop 1)
    let indices ← readIndices (normalize head)
    return ⟨.editAt scope, trim (tail.getD []), indices⟩
  | ['-', '*'] => .ok (.ofText (.clearHistory scope) [])
  | '-' :: c :: r => do
    let indices ← readIndices (c :: r)
    return if indices.isEmpty then talking else ⟨.deleteAt scope, [], indices⟩
  | _ => .ok talking

/-- Recognise what follows a name, given its narrowed image and the text as it was typed. The first
operator that fits is taken. -/
def readSuffix (narrowed typed : List Char) (marked : Bool) : Except IndexFault Suffix :=
  match narrowed with
  | [] => .ok (.ofText .chat typed)
  | '~' :: '#' :: _ => .ok (.ofText .copy (trim (typed.drop 2)))
  | '~' :: '=' :: _ => .ok (.ofText .rename (trim (typed.drop 2)))
  | '~' :: _ => .ok (.ofText .regenerate (trim (typed.drop 1)))
  | ['!'] => .ok (.ofText .stop [])
  | ':' :: '/' :: _ => readHistorySuffix (.ofPrivate marked) narrowed typed typed
  | ':' :: _ => .ok (.ofText .setDescription (trim (typed.drop 1)))
  | '%' :: _ => .ok (.ofText .setModel (trim (typed.drop 1)))
  | '$' :: _ => .ok (.ofText .setPrompt (trim (typed.drop 1)))
  | ['/', '$'] => .ok (.ofText .viewPrompt [])
  | '&' :: r => readHistorySuffix .personal r (typed.drop 1) typed
  | _ => readHistorySuffix (.ofPrivate marked) narrowed typed typed

/-- Whether a narrowed character is a mode mark before a name. -/
def isMark (c : Char) : Bool := c == '&' || c == '"'

/-- The mode marks at the start of a text. -/
def marksOf (cs : List Char) : List Char := (normalize (trim cs)).takeWhile isMark

/-- A text after its mode marks. -/
def contentOf (cs : List Char) : List Char := (trim cs).drop (marksOf cs).length

/-- Recognise a command to a persona: mode marks, a registered name and a suffix. -/
def readPersona? (cs : List Char) (names : List String) : Except IndexFault (Option Command) :=
  let marks := marksOf cs
  let content := contentOf cs
  match matchName? (normalize content) names with
  | none => .ok none
  | some name => do
    let rest := trim (content.drop name.length)
    let marked := marks.contains '&'
    let suffix ← readSuffix (normalize rest) rest marked
    return some
      { agent := name
        action := suffix.action
        args := String.ofList suffix.args
        indices := suffix.indices.map Int.ofNat
        privateReply := marked
        textMode := marks.contains '"' }

/-- Recognise a message that names no persona. -/
def readUnnamed? (cs : List Char) : Option Request :=
  match readApi? cs, readGlobal? cs, readCreate? cs with
  | some api, _, _ => some (.configure api)
  | none, some command, _ => some (.command command)
  | none, none, some request => some (.create request)
  | none, none, none => none

/-- The deletion of a persona. -/
def deletion (name : String) : Command := ⟨name, .delete, "", [], false, false⟩

/-- Recognise a message, given the registered names; `none` when it asks for nothing. -/
def read? (text : String) (names : List String) : Except IndexFault (Option Request) :=
  let cs := text.toList
  match readUnnamed? cs with
  | some request => .ok (some request)
  | none =>
    match readDelete? cs names with
    | some name => .ok (some (.command (deletion name)))
    | none => do return (← readPersona? cs names).map .command

end PersonaChat.Command
