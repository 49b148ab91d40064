import PersonaChat.Json.Reader
import PersonaChat.Settings.Basic
import PersonaChat.Settings.Dotenv
import PersonaChat.Text.Case
import PersonaChat.Text.Lines

/-!
# Settings in variables

A variable sets the field whose name it has, with the start that all such names share and without
regard to case unless that is asked for. Its text is the value, but a list is written as JSON. The
caller may choose these rules, and the files that bind variables.

Spec guidance: `SPEC_FULL.md`, lines 170–173.
-/

namespace PersonaChat.Settings

open Text

/-- Why no settings can be made. -/
inductive Fault where
  /-- A variable cannot be read: a list that is not JSON, or names that cannot be made. -/
  | unreadable
  /-- A list nests its values too deep. -/
  | tooDeep
  /-- A key that is not a text, or an argument of a kind that does not fit. -/
  | wrongKind
  /-- A path starts in the folder of an unknown user. -/
  | unknownUser
  /-- Values do not fit their fields. -/
  | invalid (faults : List FieldFault)
  deriving DecidableEq

/-- How variables are read. -/
structure Rules where
  /-- Whether names are told apart by case. -/
  caseSensitive : Bool
  /-- How the names of variables start; `none` when names cannot be made. -/
  start : Option String
  /-- The files that bind variables, the most preferred one last. -/
  files : List String
  /-- Whether an empty variable counts as absent. -/
  ignoresEmpty : Bool
  /-- The text that stands for null. -/
  nullWord : Option String
  /-- What stands between the name of a list and the name of a part of it. -/
  separator : Option String
  /-- The folders that hold one file for each field, the most preferred one last. -/
  folders : List String

/-- The one field whose value in a variable is JSON. -/
def listField : String := "listed_model_keywords"

namespace Rules

/-- The paths that an argument lists; a single text is one path, and null none. -/
def paths : Json → Except Fault (List String)
  | .null => .ok []
  | .str path => .ok [path]
  | .arr items => items.mapM fun
    | .str path => .ok path
    | _ => .error .wrongKind
  | .obj fields => .ok (fields.map Prod.fst)
  | _ => .error .wrongKind

/-- An argument that is not null. -/
def given? (key : String) (arguments : Keyed String Json) : Option Json :=
  (Keyed.get? key arguments).filter (· != .null)

/-- The rules that the arguments of a caller choose. -/
def ofArguments (arguments : Keyed String Json) : Except Fault Rules := do
  let flag (key : String) : Bool := ((given? key arguments).map Json.isFilled).getD false
  let text? (key : String) : Option String := (given? key arguments).bind Json.text?
  return {
    caseSensitive := flag "_case_sensitive"
    start := match given? "_env_prefix" arguments with
      | some (.str s) => some s
      | some _ => none
      | none => some ""
    files := ← paths ((Keyed.get? "_env_file" arguments).getD (.str ".env"))
    ignoresEmpty := flag "_env_ignore_empty"
    nullWord := text? "_env_parse_none_str"
    separator := (text? "_env_nested_delimiter").filter (· ≠ "")
    folders := ← paths ((Keyed.get? "_secrets_dir" arguments).getD .null) }

/-- A name as it is told apart from others. -/
def foldName (rules : Rules) (name : String) : String :=
  if rules.caseSensitive then name else lowerString name

/-- The name of the variable for a field. -/
def variableName (rules : Rules) (field : String) : Except Fault String :=
  match rules.start with
  | some start => .ok (rules.foldName (start ++ field))
  | none => .error .unreadable

/-- Variables by their names as they are told apart; of two that are the same the later one
counts. -/
def index (rules : Rules) (assigned : List (String × Option String)) :
    Keyed String (Option String) :=
  let kept := assigned.filter fun (_, value) ↦ !(rules.ignoresEmpty && value == some "")
  kept.foldl (fun m (name, value) ↦ Keyed.put (rules.foldName name) value m) []

/-- The value of the list that a text spells; a null list is none. -/
def listValue (text : String) : Except Fault (Option Yaml) :=
  match Json.read text with
  | .ok .null => .ok none
  | .ok list => .ok (some (.ofJson list))
  | .error .malformed => .error .unreadable
  | .error (.tooDeep _) => .error .tooDeep

/-- The value of a field that variables set. The list may also be set part by part, which makes a
mapping of it. -/
def fieldValue (rules : Rules) (assigned : Keyed String (Option String)) (field : String) :
    Except Fault (Option Yaml) := do
  let name ← rules.variableName field
  match (Keyed.get? name assigned).join with
  | some text =>
    if rules.nullWord = some text then return some .null
    else if field = listField then listValue text
    else return some (.str text)
  | none =>
    match rules.separator with
    | some separator =>
      let isPart (other : String) : Bool := other.startsWith (name ++ separator)
      let parts := assigned.filter fun (other, _) ↦ isPart other
      if field = listField && !parts.isEmpty then
        return some (.map (parts.map fun (other, _) ↦ (.str other, .null)))
      else return none
    | none => return none

/-- The fields that variables set. -/
def fields (rules : Rules) (assigned : List (String × Option String)) :
    Except Fault (Keyed String Yaml) := do
  let index := rules.index assigned
  let values ← fieldNames.mapM fun field ↦ do return (field, ← rules.fieldValue index field)
  return values.filterMap fun (field, value) ↦ value.map (field, ·)

end Rules

/-- The variables that a file binds, where references may look into the environment. -/
def dotenvVariables (environment : Keyed String String) (text : String) :
    List (String × Option String) :=
  let known := environment.map fun (name, value) ↦ (name.toList, value.toList)
  (Dotenv.assigned known (unifyReturns text.toList)).map fun (name, value) ↦
    (String.ofList name, value.map String.ofList)

end PersonaChat.Settings
