import PersonaChat.Json.Kind
import PersonaChat.Text.Blank
import PersonaChat.Text.Case

/-!
# Names of personas

A name has one to seven characters, none of which is blank or a sign of the command language. A new
name must also differ from the present ones by more than case.

Spec guidance: `SPEC_FULL.md`, lines 37–38, 75–76 and 113–114.
-/

namespace PersonaChat.Name

open Text

/-- The largest number of characters of a name. -/
def maxLength : Nat := 7

/-- Signs of the command language. -/
def reserved : List Char := ['&', '"', '#', '~', '/', '-', '_', '\'', '!', '@', '$', '%', ':', '*']

/-- Whether a character may stand in a name. -/
def allows (c : Char) : Bool := !reserved.contains c && !isBlank c

/-- Whether a text is acceptable as a name. -/
def isValid (name : String) : Bool :=
  name != "" && name.length ≤ maxLength && name.toList.all allows

/-- The position of the first of the present names that differs from a name by case at most. A
present name that is no text and stands before it cannot be compared. -/
def position? (name : String) : List Json → Except Crash (Option Nat)
  | [] => .ok none
  | present :: rest => do
    if sameIgnoringCase (← present.forOperation "lower") name then return some 0
    else return (← position? name rest).map (· + 1)

/-- Check a new name against the present ones. -/
def validate (name : String) (present : List Json) : Except Failure String :=
  if name = "" then .error (.refused (.invalid "NAME_EMPTY" "请指定名称"))
  else if !isValid name then
    .error (.refused
      (.invalid "NAME_INVALID" ("名称限制：最多" ++ toString maxLength ++ "字且不能包含指令符号")))
  else
    match position? name present with
    | .error crash => .error (.crashed crash)
    | .ok (some _) => .error (.refused (.invalid "NAME_TAKEN" (name ++ " 已存在")))
    | .ok none => .ok name

end PersonaChat.Name
