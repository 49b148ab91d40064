import PersonaChat.Settings.Variables
import PersonaChat.Store.Disk
import PersonaChat.Yaml.Reader

/-!
# Sources of settings

A field is taken from the first source that sets it: the arguments of the caller, the environment,
files of environment variables, a YAML document, and folders with one file for each field. All
files are found from the working folder.

Spec guidance: `SPEC_FULL.md`, lines 170–177.
-/

namespace PersonaChat.Settings

open Text

/-- Where settings come from. -/
structure Sources where
  /-- What the caller gives. -/
  arguments : Keyed String Json
  /-- The environment. -/
  environment : Keyed String String
  /-- The full path of the working folder. -/
  home : Path
  /-- The files below the working folder. -/
  disk : Disk

/-! ## Paths -/

/-- A path as it is written: its parts, from the outermost folder or from the working folder. -/
structure WrittenPath where
  /-- Whether it starts at the outermost folder. -/
  isFull : Bool
  /-- The parts. -/
  parts : Path
  deriving DecidableEq

namespace WrittenPath

/-- The path that a text spells. -/
def ofString (s : String) : WrittenPath := ⟨s.startsWith "/", Path.ofString s⟩

/-- The path in which the folder of the user stands for a tilde at the start. The folder of the
user who runs the service is told by the environment, and that of another one is not known. -/
def ofUser (environment : Keyed String String) (s : String) : Except Fault WrittenPath :=
  let path := ofString s
  match path.isFull, path.parts with
  | false, first :: rest =>
    if first = "~" then
      let folder := ofString ((Keyed.get? "HOME" environment).getD "/root")
      .ok { folder with parts := folder.parts ++ rest }
    else if first.startsWith "~" then .error .unknownUser
    else .ok path
  | _, _ => .ok path

end WrittenPath

namespace Sources

/-- What stands at a path. Outside the working folder there are only the folders around it. -/
def look (s : Sources) (path : WrittenPath) : Except DiskFault DiskEntry :=
  if !path.isFull then s.disk.look path.parts
  else if s.home.isPrefixOf path.parts then s.disk.look (path.parts.drop s.home.length)
  else if path.parts.isPrefixOf s.home then .ok .folder
  else .error .missing

/-- Whether something else than a folder stands at a path. -/
def isOccupied (s : Sources) (path : WrittenPath) : Bool :=
  match s.look path with
  | .ok (.file _) => true
  | _ => false

/-! ## Variables -/

/-- The variables that the files of the rules bind, those of later files last. -/
def dotenvVariables (s : Sources) (rules : Rules) :
    Except Fault (List (String × Option String)) := do
  let texts ← rules.files.mapM fun file ↦ do
    match s.look (← WrittenPath.ofUser s.environment file) with
    | .ok (.file bytes) => return [decodeLenient bytes]
    | _ => return []
  return texts.flatten.flatMap fun text ↦ Settings.dotenvVariables s.environment text

/-! ## Documents -/

/-- The documents that are tried, the one that the environment names first. -/
def documents (s : Sources) : Except Fault (List WrittenPath) := do
  let usual : WrittenPath := ⟨true, s.home ++ ["config.yaml"]⟩
  match (Keyed.get? "OAI_CONFIG_FILE" s.environment).filter (· ≠ "") with
  | some name =>
    let named ← WrittenPath.ofUser s.environment name
    return [named, usual].eraseDups
  | none => return [usual]

/-- What a document is good for. -/
inductive Document where
  /-- It is not there. -/
  | missing
  /-- It cannot be read, or is no mapping. -/
  | unusable
  /-- It has these entries. -/
  | entries (entries : List (Yaml × Yaml))

/-- The document at a path. One that counts as empty has no entries. -/
def document (s : Sources) (path : WrittenPath) : Document :=
  match s.look path with
  | .ok (.file bytes) =>
    match Yaml.parse? (decodeLenient bytes) with
    | some (.map entries) => .entries entries
    | some v => if v.isFilled then .unusable else .entries []
    | none => .unusable
  | .ok .folder => .unusable
  | .error .nameTooLong => .unusable
  | .error _ => .missing

/-- The entries of the first document that can be used, and how many were passed over with a
warning. -/
def ofDocuments (s : Sources) : List WrittenPath → Nat × List (Yaml × Yaml)
  | [] => (0, [])
  | path :: r =>
    match s.document path with
    | .entries entries => (0, entries)
    | .missing => s.ofDocuments r
    | .unusable => let (n, entries) := s.ofDocuments r; (n + 1, entries)

/-- Entries whose keys are all texts; of two with one key the later counts. -/
def textKeys (entries : List (Yaml × Yaml)) : Except Fault (Keyed String Yaml) :=
  entries.foldlM (fun m (key, value) ↦
    match key with
    | .str name => .ok (Keyed.put name value m)
    | _ => .error .wrongKind) []

/-! ## Folders of values -/

/-- The names and contents of what stands in a folder. -/
def contents (s : Sources) (path : WrittenPath) : List (String × DiskEntry) :=
  let place := if path.isFull then path.parts.drop s.home.length else path.parts
  match s.disk.locate place with
  | .ok folder => s.disk.filterMap fun (path, node) ↦
    match path.getLast? with
    | some name => if path.dropLast = folder then some (name, node) else none
    | none => none
  | .error _ => []

/-- The values that folders hold, and the number of warnings: one for each folder that is not there
and for each folder that stands in the place of a value. Something else than a folder is
refused. -/
def folderVariables (s : Sources) (rules : Rules) :
    Except Fault (List (String × Option String) × Nat) := do
  let paths ← rules.folders.mapM (WrittenPath.ofUser s.environment)
  let present := paths.filter fun path ↦ (s.look path).toOption.isSome
  if present.any s.isOccupied then throw .unreadable
  let names ← fieldNames.mapM rules.variableName
  let found := present.flatMap fun path ↦ names.filterMap fun name ↦
    (s.contents path).find? fun (other, _) ↦ rules.foldName other = name
  let assigned := found.filterMap fun
    | (name, .file bytes) =>
      let text := unifyReturns (decodeLenient bytes).toList
      some (name, some (String.ofList (trim text)))
    | (_, .folder) => none
  return (assigned, paths.length - present.length + (found.length - assigned.length))

/-! ## All sources -/

/-- The fields that the caller sets. The name of a field may be written in any case; the first
argument for a field counts. -/
def ofArguments (arguments : Keyed String Json) : Keyed String Yaml :=
  fieldNames.filterMap fun field ↦
    (arguments.find? fun (name, _) ↦ lowerString name = field).map fun (_, value) ↦
      (field, .ofJson value)

/-- The settings that the sources make, and the number of warnings. -/
def read (s : Sources) : Except Fault (Settings × Nat) := do
  let rules ← Rules.ofArguments s.arguments
  let dotenv ← s.dotenvVariables rules
  let environment ← rules.fields (s.environment.map fun (name, value) ↦ (name, some value))
  let dotenv ← rules.fields dotenv
  let (passed, entries) := s.ofDocuments (← s.documents)
  let (assigned, absent) ← s.folderVariables rules
  let folders ← { rules with ignoresEmpty := false, nullWord := none }.fields assigned
  let document ← textKeys entries
  let get? (field : String) : Option Yaml :=
    [ofArguments s.arguments, environment, dotenv, document, folders].findSome? (Keyed.get? field)
  match ofValues get? with
  | .ok settings => return (settings, passed + absent)
  | .error faults => throw (.invalid faults)

end Sources
end PersonaChat.Settings
