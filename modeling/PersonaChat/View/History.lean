import PersonaChat.Json.Display
import PersonaChat.Json.Kind
import PersonaChat.Json.Writer
import PersonaChat.Media
import PersonaChat.Message
import PersonaChat.Text.Lines

/-!
# Histories as text

How messages are shown in a chat: each under its number, the sign of its role and its time. In text
mode pictures are named instead of embedded. Where a message holds a value in place of a text, what
needs a text fails; a list may have grown by then.

Spec guidance: `SPEC_FULL.md`, lines 221–224.
-/

namespace PersonaChat.View

open Text

/-- What stands between two messages. -/
def rule : String := "\n\n---\n\n"

/-- The sign of a role. -/
def roleSign (role : Json) : Except Crash String := do
  match ← role.forLookup with
  | .str "user" => return "👤"
  | .str "assistant" => return "🤖"
  | .str "system" => return "⚙️"
  | _ => return "❓"

/-- A media reference that is named. -/
def mediaName (image : Json) : Except Crash String := do
  let address ← image.forOperation "startswith"
  return if Media.isDataAddress address then "- [Base64 Image]" else "- [图片] " ++ address

/-- A media reference that is embedded. -/
def mediaEmbedding (image : Json) : String := "![image](" ++ image.display ++ ")"

/-- The time of a message as it is shown; empty when it is out of range. -/
def shortTime (timestamp : Int) : String :=
  ((Calendar.onLocalClock timestamp).toOption.map (·.short)).getD ""

/-- A text with the lines of its media references, if there are any. -/
def withMedia (content : String) (lines : List String) : String :=
  if lines.isEmpty then content
  else (if content = "" then "" else content ++ "\n\n") ++ "\n".intercalate lines

/-- The text and media references of a message, before it is seen whether they are blank. A value
in place of the text cannot have references added to it, unless it is a list. -/
def fullText (m : Message Json) (textMode : Bool) : Except Crash String := do
  if textMode then
    let content := Media.replaceData "[图片]" (← m.content.forSearch)
    return withMedia content (← m.images.mapM mediaName)
  else
    match m.content with
    | .str content => return withMedia content (m.images.map mediaEmbedding)
    | .arr items => (Json.arr items).forOperation "strip"
    | value =>
      if m.images.isEmpty then value.forOperation "strip"
      else
        throw (.wrongKind
          ("unsupported operand type(s) for +=: '" ++ value.kindWord ++ "' and 'str'"))

/-- The text and media references of a message. -/
def body (m : Message Json) (textMode : Bool) : Except Crash String := do
  let shown ← fullText m textMode
  return if shown.toList.all isBlank then "(无内容)" else shown

/-- A message under its number. -/
def message (index : Int) (m : Message Json) (textMode withTime : Bool) : Except Crash String := do
  let body ← body m textMode
  let sign ← roleSign m.role
  let time := if withTime then " " ++ shortTime m.timestamp else ""
  return "**#" ++ intText index ++ " " ++ sign ++ time ++ "**\n" ++ body

/-- A history whose first message has the number after `offset`. -/
def history (h : History Json) (offset : Int) (textMode : Bool) : Except Crash String := do
  let shown ← (h.zipIdx 1).mapM fun entry ↦ message (offset + entry.2) entry.1 textMode true
  return rule.intercalate shown

/-- A message as a choice shows it: in text mode with the addresses of its pictures. -/
def selectedMessage (index : Int) (m : Message Json) (textMode : Bool) : Except Crash String := do
  let content ← if textMode then
      (m.content.forSearch).map fun content ↦ Json.str (Media.showAddresses content)
    else pure m.content
  message index { m with content := content } textMode false

/-- The chosen messages of a history, in the order in which they are named. -/
def selected (h : History Json) (indices : List Int) (textMode : Bool) :
    Except Crash (List String) :=
  (indices.filterMap fun index ↦ (h.at? index).map (index, ·)).mapM fun (index, m) ↦
    selectedMessage index m textMode

/-- What showing a message leaves of it. A list in place of its text takes in the lines of its
media references, one item for each character, before it is found to be no text. -/
def afterShowing (m : Message Json) (textMode : Bool) : Message Json :=
  match textMode, m.content, m.images with
  | false, .arr items, image :: images =>
    let gap := if items.isEmpty then "" else "\n\n"
    let added := gap ++ "\n".intercalate ((image :: images).map mediaEmbedding)
    { m with content := .arr (items ++ added.toList.map fun c ↦ .str (String.singleton c)) }
  | _, _, _ => m

/-- What showing positions of a history in order leaves of it. The first message that cannot be
shown is the last that is tried. -/
def historyAfterShowing (h : History Json) (indices : List Int) (textMode : Bool) : History Json :=
  let failing (index : Int) : Bool :=
    (h.at? index).any fun m ↦ (message index m textMode false).toOption.isNone
  match indices.find? failing with
  | some index => h.modify (index.toNat - 1) (afterShowing · textMode)
  | none => h

/-- A quoted text: each line behind a mark, and an empty line after the last. -/
def quote (text : String) : String :=
  match trim text.toList with
  | [] => ""
  | cs =>
    String.ofList ((splitLines cs).flatMap (fun line ↦ '>' :: ' ' :: (line ++ ['\n'])) ++ ['\n'])

/-- The first characters of a text, with dots when some are left out. -/
def truncate (s : String) (limit : Int) : String :=
  let cs := s.toList
  if (cs.length : Int) ≤ limit then s
  else
    let kept := if 0 ≤ limit then limit.toNat else cs.length - (-limit).toNat
    String.ofList (cs.take kept) ++ "..."

/-- The first items of a value, as of a text; of arrays and objects only short ones have them. -/
def truncateValue (value : Json) (limit : Nat) : Except Crash Json :=
  match value with
  | .str s => .ok (.str (truncate s limit))
  | .arr items =>
    if items.length ≤ limit then .ok value
    else .error (.wrongKind "can only concatenate list (not \"str\") to list")
  | .obj fields =>
    if fields.length ≤ limit then .ok value else .error (.wrongKind "unhashable type: 'slice'")
  | value => .error (.wrongKind ("object of type '" ++ value.kindWord ++ "' has no len()"))

/-- A text as it is written in JSON, without what encloses it, and with line feeds and tabs as they
are. Other values are written likewise. -/
def escapeSpecial (value : Json) : String :=
  String.ofList (replaceAll ['\\', 't'] ['\t']
    (replaceAll ['\\', 'n'] ['\n'] ((Json.render .line 0 value).drop 1).dropLast))

end PersonaChat.View
