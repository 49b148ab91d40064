import PersonaChat.Json.Display
import PersonaChat.Json.Kind
import PersonaChat.Media
import PersonaChat.Message

/-!
# Histories as files

The sheet that an export writes: a frame with the persona, its model, the scope, the time and the
number of messages, and then every message with its role, its time and its media references.

Spec guidance: `SPEC_FULL.md`, lines 221–224.
-/

namespace PersonaChat.View.Export

open Text

/-- A text filled with blanks on the right up to a width. -/
def padRight (width : Nat) (s : String) : String :=
  s ++ String.ofList (List.replicate (width - s.length) ' ')

/-- A character written a number of times. -/
def line (length : Nat) (c : Char) : String := String.ofList (List.replicate length c)

/-- A row of the frame. -/
def row (label value : String) : String := "┃  " ++ label ++ ": " ++ padRight 32 value ++ "┃\n"

/-- What stands in a row of the frame for a value: a truth value as a number, while values without
a width of their own have no place in a row. -/
def cell : Json → Except Crash String
  | .bool b => .ok (if b then "1" else "0")
  | .int n => .ok (intText n)
  | .real x => .ok (Json.real x).display
  | .str s => .ok s
  | value => .error (.wrongKind
      ("unsupported format string passed to " ++ value.kindWord ++ ".__format__"))

/-- The present time in calendar form. -/
def clock (now : Int) : Except Crash Calendar := (Calendar.onLocalClock now).mapError .badTime

/-- The frame above the messages. -/
def frame (name model scope : Json) (now : Int) (count : Nat) : Except Crash String := do
  let name ← cell name
  let model ← cell model
  let scope ← cell scope
  let time ← clock now
  return "┏" ++ line 40 '━' ++ "┓\n" ++ row "智能体" name ++ row "模  型" model ++
    row "类  型" scope ++ row "导  出" time.long ++ row "记录数" (natText count) ++
    "┗" ++ line 40 '━' ++ "┛\n\n"

/-- The label of a role; a role without one stands for itself. -/
def roleLabel (role : Json) : Except Crash String := do
  match ← role.forLookup with
  | .str "user" => return "👤 用户"
  | .str "assistant" => return "🤖 助手"
  | .str "system" => return "⚙️ 系统"
  | role => return role.display

/-- The time of a message; a word when it is out of range. -/
def longTime (timestamp : Int) : String :=
  ((Calendar.onLocalClock timestamp).toOption.map (·.long)).getD "未知时间"

/-- A media reference under its number. -/
def mediaLine (index : Nat) (image : Json) : Except Crash String := do
  let address ← image.forOperation "startswith"
  return "   " ++ natText index ++ ". " ++
    (if Media.isDataAddress address then "[Base64 Image Data]" else address) ++ "\n"

/-- The media references of a message. -/
def media (images : List Json) : Except Crash String :=
  if images.isEmpty then .ok ""
  else do
    let lines ← (images.zipIdx 1).mapM fun (image, index) ↦ mediaLine index image
    return "\n📷 附图 (" ++ natText images.length ++ " 张):\n" ++ String.join lines

/-- A message under its number. -/
def entry (index : Nat) (m : Message Json) : Except Crash String := do
  let label ← roleLabel m.role
  let content ← m.content.forSearch
  let media ← media m.images
  return "【#" ++ natText index ++ " " ++ label ++ " | " ++ longTime m.timestamp ++ "】\n" ++
    line 40 '┄' ++ "\n" ++ Media.replaceData "[图片数据]" content ++ "\n" ++ media ++
    "\n" ++ line 40 '─' ++ "\n\n"

/-- The whole sheet. -/
def sheet (name model scope : Json) (h : History Json) (now : Int) : Except Crash String := do
  let frame ← frame name model scope now h.length
  let entries ← (h.zipIdx 1).mapM fun (m, index) ↦ entry index m
  return frame ++ String.join entries

/-- The name of the file. -/
def fileName (name scope user : String) (now : Int) : Except Crash String := do
  return name ++ "_" ++ scope ++ "_" ++ user ++ "_" ++ (← clock now).stamp ++ ".txt"

end PersonaChat.View.Export
