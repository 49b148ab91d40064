import PersonaChat.Json.Basic
import PersonaChat.Number.Notation
import PersonaChat.Text.Quoted

/-!
# Values as they are shown

A text stands for itself. Inside lists and objects texts stand in quotes, and the three words are
written with capitals.
-/

namespace PersonaChat.Json

open Text Number

mutual

/-- A value as it stands inside another one. -/
def shown : Json → String
  | .null => "None"
  | .bool true => "True"
  | .bool false => "False"
  | .int n => intText n
  | .real x => String.ofList (x.write ['i', 'n', 'f'] ['n', 'a', 'n'])
  | .str s => quoted s
  | .arr items => "[" ++ ", ".intercalate (shownItems items) ++ "]"
  | .obj fields => "\x7b" ++ ", ".intercalate (shownFields fields) ++ "\x7d"

/-- The items of a list as they are shown. -/
def shownItems : List Json → List String
  | [] => []
  | item :: items => shown item :: shownItems items

/-- The fields of an object as they are shown. -/
def shownFields : List (String × Json) → List String
  | [] => []
  | (key, value) :: fields => (quoted key ++ ": " ++ shown value) :: shownFields fields

end

/-- A value as it is shown. -/
def display : Json → String
  | .str s => s
  | j => j.shown

end PersonaChat.Json
