import PersonaChat.Json.Basic
import PersonaChat.Number.Notation

/-!
# Writing JSON

Two layouts: one line with blanks after commas and colons, and lines indented by two blanks per
level where an empty array or object stays on its line. Characters outside ASCII are kept.
-/

namespace PersonaChat.Json

open Text Number

/-- A hexadecimal digit. -/
def hexChar (n : Nat) : Char := if n < 10 then Char.ofNat (48 + n) else Char.ofNat (87 + n)

/-- A character inside a string. -/
def escape (c : Char) : List Char :=
  match c with
  | '"' => ['\\', '"']
  | '\\' => ['\\', '\\']
  | '\n' => ['\\', 'n']
  | '\r' => ['\\', 'r']
  | '\t' => ['\\', 't']
  | '\x08' => ['\\', 'b']
  | '\x0c' => ['\\', 'f']
  | c =>
    if c.toNat < 32 then ['\\', 'u', '0', '0', hexChar (c.toNat / 16), hexChar (c.toNat % 16)]
    else [c]

/-- The inside of a string. -/
def escapeAll (cs : List Char) : List Char := cs.flatMap escape

/-- A string with its quotes. -/
def quote (s : String) : List Char := '"' :: (escapeAll s.toList ++ ['"'])

/-- A floating-point number. -/
def realChars (x : Binary64) : List Char :=
  x.write ['I', 'n', 'f', 'i', 'n', 'i', 't', 'y'] ['N', 'a', 'N']

/-- How the items of an array or object are laid out. -/
inductive Layout where
  /-- All on one line. -/
  | line
  /-- Each on a line of its own, indented by two blanks per level. -/
  | indented
  deriving DecidableEq

/-- What stands before an item at a level: nothing, or a new line and its indentation. -/
def Layout.lead : Layout → Nat → List Char
  | .line, _ => []
  | .indented, level => '\n' :: List.replicate (2 * level) ' '

/-- What stands between two items at a level. -/
def Layout.between : Layout → Nat → List Char
  | .line, _ => [',', ' ']
  | .indented, level => ',' :: Layout.lead .indented level

mutual

/-- A value in a layout, at a level of nesting. -/
def render (layout : Layout) (level : Nat) : Json → List Char
  | .null => ['n', 'u', 'l', 'l']
  | .bool true => ['t', 'r', 'u', 'e']
  | .bool false => ['f', 'a', 'l', 's', 'e']
  | .int n => intChars n
  | .real x => realChars x
  | .str s => quote s
  | .arr [] => ['[', ']']
  | .arr (item :: items) =>
    '[' :: (layout.lead (level + 1) ++ render layout (level + 1) item ++
      renderItems layout (level + 1) items ++ layout.lead level ++ [']'])
  | .obj [] => ['\x7b', '\x7d']
  | .obj ((key, value) :: fields) =>
    '\x7b' :: (layout.lead (level + 1) ++ quote key ++ [':', ' '] ++
      render layout (level + 1) value ++ renderFields layout (level + 1) fields ++
      layout.lead level ++ ['\x7d'])

/-- The further items of an array, each after its separator. -/
def renderItems (layout : Layout) (level : Nat) : List Json → List Char
  | [] => []
  | item :: items =>
    layout.between level ++ render layout level item ++ renderItems layout level items

/-- The further fields of an object, each after its separator. -/
def renderFields (layout : Layout) (level : Nat) : List (String × Json) → List Char
  | [] => []
  | (key, value) :: fields =>
    layout.between level ++ quote key ++ [':', ' '] ++ render layout level value ++
      renderFields layout level fields

end

/-- A value on one line. -/
def oneLine (j : Json) : String := String.ofList (render .line 0 j)

/-- A value on indented lines. -/
def indentedText (j : Json) : String := String.ofList (render .indented 0 j)

end PersonaChat.Json
