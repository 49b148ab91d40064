import PersonaChat.Models
import PersonaChat.Number.Integer
import PersonaChat.Number.Notation
import PersonaChat.Text.Utf8
import PersonaChat.Yaml.Basic

/-!
# Settings

What an operator may set, and how a value of any kind is taken as a text, a flag, a number of
seconds or a list of texts. Every field is checked, so that all faults are reported together, in
the order of the fields.

Spec guidance: `SPEC_FULL.md`, lines 170–177.
-/

namespace PersonaChat

open Text Number

/-- The settings of the service. -/
structure Settings where
  /-- The folder of the registry and of exports. -/
  dataDir : String
  /-- The folder of log files. -/
  logDir : String
  /-- Whether log lines hide what was said. -/
  logRedactContent : Bool
  /-- The address of the provider before one is stored. -/
  apiBase : String
  /-- The key of the provider before one is stored. -/
  apiKey : String
  /-- The longest wait for a short request, in seconds. -/
  httpTimeout : Binary64
  /-- The longest wait for a reply, in seconds. -/
  chatTimeout : Binary64
  /-- The model of a persona that names none. -/
  defaultModel : String
  /-- The prompt of a persona that brings none. -/
  defaultPrompt : String
  /-- What the name of a listed model holds, in the order of the groups. -/
  listedModelKeywords : List String
  /-- The pause between two descriptions, in seconds. -/
  describeInterval : Binary64
  deriving DecidableEq

namespace Settings

/-- The settings that hold when nothing is set. -/
def initial : Settings where
  dataDir := ".storage"
  logDir := "logs"
  logRedactContent := false
  apiBase := ""
  apiKey := ""
  httpTimeout := .ofInt 30
  chatTimeout := .ofInt 300
  defaultModel := "gpt-4o"
  defaultPrompt := "You are a helpful assistant."
  listedModelKeywords := Models.defaultKeywords
  describeInterval := .ofDecimal false 1 (-1)

/-- Why a value does not fit its field. -/
inductive ValueFault where
  /-- Not a text. -/
  | notText
  /-- Bytes that encode no text. -/
  | illFormed
  /-- Not a flag. -/
  | notFlag
  /-- A text or a number that spells no flag. -/
  | unreadableFlag
  /-- Not a number. -/
  | notNumber
  /-- A text that spells no number. -/
  | unreadableNumber
  /-- A number below the least one. -/
  | tooSmall
  /-- Not a list. -/
  | notList
  /-- A key that is too short. -/
  | shortKey
  deriving DecidableEq

/-- A fault and the field that it is in; items of a list are counted from zero. -/
structure FieldFault where
  /-- The field. -/
  field : String
  /-- The item of a list. -/
  item : Option Nat
  /-- What is wrong. -/
  fault : ValueFault
  deriving DecidableEq

/-- The text that bytes encode; the fault is for bytes that encode none. -/
def encodedText (fault : ValueFault) (bytes : List UInt8) : Except ValueFault String :=
  match decodeStrict? bytes with
  | some s => .ok s
  | none => .error fault

/-- A value as a text. -/
def asText : Yaml → Except ValueFault String
  | .str s => .ok s
  | .bytes content => encodedText .illFormed content
  | _ => .error .notText

/-- A value as a key: an empty one stands for none, and another has at least ten characters. -/
def asKey (v : Yaml) : Except ValueFault String := do
  let s ← asText v
  if 1 ≤ s.length ∧ s.length < 10 then .error .shortKey else .ok s

/-- Words for true, in any case. -/
def trueWords : List String := ["1", "t", "y", "on", "yes", "true"]

/-- Words for false, in any case. -/
def falseWords : List String := ["0", "f", "n", "no", "off", "false"]

/-- An integer as a flag. -/
def flagOfInt (n : Int) : Except ValueFault Bool :=
  if n = 1 then .ok true else if n = 0 then .ok false else .error .unreadableFlag

/-- A word as a flag. -/
def flagOfWord (s : String) : Except ValueFault Bool :=
  let word := String.ofList (s.toList.map Char.toLower)
  if word ∈ trueWords then .ok true
  else if word ∈ falseWords then .ok false else .error .unreadableFlag

/-- A value as a flag: a truth value, one of the numbers 0 and 1, or a word. Integers that do not
fit 64 bits are no flags at all, and neither are floating-point numbers that are not whole or do
not lie strictly within that range. -/
def asFlag : Yaml → Except ValueFault Bool
  | .bool b => .ok b
  | .str s => flagOfWord s
  | .bytes content => (encodedText .unreadableFlag content).bind flagOfWord
  | .int n => if -(Int.pow 2 63) ≤ n ∧ n < Int.pow 2 63 then flagOfInt n else .error .notFlag
  | .real x =>
    match x.truncate? with
    | some n =>
      if x.isWhole && -(Int.pow 2 63) < n && n < Int.pow 2 63 then flagOfInt n else .error .notFlag
    | none => .error .notFlag
  | _ => .error .notFlag

/-- A text without single underscores inside it; `none` when one stands at an end or two stand
together. -/
def ungrouped? (cs : List Char) : Option (List Char) :=
  let rec isGrouped : List Char → Bool
    | '_' :: '_' :: _ => false
    | _ :: r => isGrouped r
    | [] => true
  if cs.head? = some '_' ∨ cs.getLast? = some '_' ∨ !isGrouped cs then none
  else some (cs.filter (· != '_'))

/-- The number that a text spells, with blanks around it or underscores between its digits. -/
def readNumber? (s : String) : Option Binary64 :=
  let cs := s.toList
  let trimmed := ((cs.dropWhile isNumberBlank).reverse.dropWhile isNumberBlank).reverse
  (Binary64.ofText? trimmed).or ((ungrouped? cs).bind Binary64.ofText?)

/-- A text as a number. -/
def numberOfText (s : String) : Except ValueFault Binary64 :=
  match readNumber? s with
  | some x => .ok x
  | none => .error .unreadableNumber

/-- A value as a number. -/
def asNumber : Yaml → Except ValueFault Binary64
  | .real x => .ok x
  | .str s => numberOfText s
  | .bytes content => (encodedText .unreadableNumber content).bind numberOfText
  | .int n =>
    match Binary64.ofInt n with
    | .infinite _ => .error .notNumber
    | x => .ok x
  | .bool b => .ok (.ofInt (if b then 1 else 0))
  | _ => .error .notNumber

/-- A value as a number of seconds, not below the least one. -/
def asSeconds (least : Int) (v : Yaml) : Except ValueFault Binary64 := do
  let x ← asNumber v
  if x.atLeast least then .ok x else .error .tooSmall

/-- What a check gives: a value, and the faults that were found. -/
structure Checked (α : Type) where
  /-- The value, of no account when there are faults. -/
  value : α
  /-- The faults in order. -/
  faults : List FieldFault

/-- A field that is checked as a whole; one that is not set keeps its first value. -/
def checkField {α : Type} (get? : String → Option Yaml) (field : String) (unset : α)
    (take : Yaml → Except ValueFault α) : Checked α :=
  match (get? field).map take with
  | none => ⟨unset, []⟩
  | some (.ok a) => ⟨a, []⟩
  | some (.error fault) => ⟨unset, [⟨field, none, fault⟩]⟩

/-- Texts of a list, checked one by one from a given number on. -/
def checkTexts (field : String) (i : Nat) : List Yaml → Checked (List String)
  | [] => ⟨[], []⟩
  | item :: r =>
    let more := checkTexts field (i + 1) r
    match asText item with
    | .ok s => ⟨s :: more.value, more.faults⟩
    | .error fault => ⟨more.value, ⟨field, some i, fault⟩ :: more.faults⟩

/-- A field that is a list of texts. -/
def checkList (get? : String → Option Yaml) (field : String) (unset : List String) :
    Checked (List String) :=
  match get? field with
  | none => ⟨unset, []⟩
  | some (.seq items) => checkTexts field 0 items
  | some (.set members) => checkTexts field 0 members
  | some _ => ⟨unset, [⟨field, none, .notList⟩]⟩

/-- The names of the fields in order. -/
def fieldNames : List String :=
  ["data_dir", "log_dir", "log_redact_content", "api_base", "api_key", "http_timeout",
    "chat_timeout", "default_model", "default_prompt", "listed_model_keywords",
    "describe_interval"]

/-- The settings that given values make, or every fault in them. -/
def ofValues (get? : String → Option Yaml) : Except (List FieldFault) Settings :=
  let dataDir := checkField get? "data_dir" initial.dataDir asText
  let logDir := checkField get? "log_dir" initial.logDir asText
  let logRedactContent := checkField get? "log_redact_content" initial.logRedactContent asFlag
  let apiBase := checkField get? "api_base" initial.apiBase asText
  let apiKey := checkField get? "api_key" initial.apiKey asKey
  let httpTimeout := checkField get? "http_timeout" initial.httpTimeout (asSeconds 1)
  let chatTimeout := checkField get? "chat_timeout" initial.chatTimeout (asSeconds 1)
  let defaultModel := checkField get? "default_model" initial.defaultModel asText
  let defaultPrompt := checkField get? "default_prompt" initial.defaultPrompt asText
  let keywords := checkList get? "listed_model_keywords" initial.listedModelKeywords
  let describeInterval :=
    checkField get? "describe_interval" initial.describeInterval (asSeconds 0)
  match dataDir.faults ++ logDir.faults ++ logRedactContent.faults ++ apiBase.faults ++
      apiKey.faults ++ httpTimeout.faults ++ chatTimeout.faults ++ defaultModel.faults ++
      defaultPrompt.faults ++ keywords.faults ++ describeInterval.faults with
  | [] => .ok
    { dataDir := dataDir.value, logDir := logDir.value
      logRedactContent := logRedactContent.value, apiBase := apiBase.value
      apiKey := apiKey.value, httpTimeout := httpTimeout.value, chatTimeout := chatTimeout.value
      defaultModel := defaultModel.value, defaultPrompt := defaultPrompt.value
      listedModelKeywords := keywords.value, describeInterval := describeInterval.value }
  | faults => .error faults

end Settings
end PersonaChat
