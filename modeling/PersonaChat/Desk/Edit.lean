import PersonaChat.Json.Display
import PersonaChat.Models
import PersonaChat.Occupancy
import PersonaChat.Persona.Name
import PersonaChat.Provider.Query
import PersonaChat.Registry.Basic
import PersonaChat.Text.Digit

/-!
# Edits of the registry

Commands that change the registry in one step. An edit is a function of the registry: what it
becomes, and either what the user is told or why the edit fails. Deleting positions of a private
history that was never written leaves an empty history behind even when it is refused.

Spec guidance: `SPEC_FULL.md`, lines 107–111, 139–144 and 217–220.
-/

namespace PersonaChat

open Text

/-- What is freed once an edit is done. -/
inductive Release where
  /-- One conversation. -/
  | conversation (conversation : Conversation)
  /-- All shared histories. -/
  | allShared
  /-- All histories. -/
  | all
  deriving DecidableEq, Repr

/-- Free what shall be freed. -/
def Occupancy.release (o : Occupancy) : Release → Occupancy
  | .conversation c => o.finish c none
  | .allShared => o.clearShared
  | .all => o.clearAll

/-- What shall be changed. -/
inductive Change where
  /-- Make answers under way out of date. -/
  | stop (scope : Scope)
  /-- Copy a persona. -/
  | copy (name : String)
  /-- Rename a persona. -/
  | rename (name : String)
  /-- Describe a persona. -/
  | describe (text : String)
  /-- Choose a model. -/
  | setModel (ref : String)
  /-- Set the system prompt. -/
  | setPrompt (text : String)
  /-- Delete a persona. -/
  | delete
  /-- Edit a position of a history. -/
  | editAt (scope : Scope) (indices : List Int) (text : String)
  /-- Delete positions of a history. -/
  | deleteAt (scope : Scope) (indices : List Int)
  /-- Empty a history. -/
  | clear (scope : Scope)
  /-- Empty all shared histories. -/
  | clearPublic
  /-- Empty all histories. -/
  | clearEverything
  /-- Create or update a persona. -/
  | create (request : CreateRequest)
  deriving DecidableEq, Repr

/-- A change, the persona it names and the user who wants it. -/
structure Edit where
  /-- The name of the persona. -/
  agent : String
  /-- The user. -/
  user : String
  /-- What shall be changed. -/
  change : Change
  deriving DecidableEq, Repr

/-- An edit that was carried out. -/
structure EditDone where
  /-- What the user is told. -/
  reply : String
  /-- What is freed. -/
  release : Option Release
  deriving DecidableEq, Repr

/-- The description of a persona that was given none. -/
def defaultDescription : String := "新建智能体"

namespace Edit

/-- What an edit makes of a registry. -/
abbrev Result := Registry Json × Except Failure EditDone

/-- Leave a registry as it is, for a reason. -/
def fail (r : Registry Json) (failure : Failure) : Result := (r, .error failure)

/-- Refuse an edit. -/
def refuse (r : Registry Json) (refusal : Refusal) : Result := fail r (.refused refusal)

/-- Carry out an edit. -/
def accept (r : Registry Json) (reply : String) : Result := (r, .ok ⟨reply, none⟩)

/-- Carry out an edit and free something. -/
def acceptFreeing (r : Registry Json) (reply : String) (release : Release) : Result :=
  (r, .ok ⟨reply, some release⟩)

/-- Change the persona of a name, if there is one. -/
def onPersona (r : Registry Json) (agent : String) (edit : Persona Json → Result) : Result :=
  match r.find? agent with
  | .error crash => fail r (.crashed crash)
  | .ok none => refuse r (.unknownPersona agent)
  | .ok (some p) => edit p

/-- Copy a persona under a new name. -/
def copy (r : Registry Json) (agent name : String) (now : Int) : Result :=
  if name = "" then refuse r (.invalid "NAME_EMPTY" "请指定新名称: 智能体~#新名称")
  else onPersona r agent fun p ↦
    match Name.validate name r.names with
    | .error failure => fail r failure
    | .ok name =>
      accept (r.add (.fresh (.str name) p.model p.systemPrompt p.description now))
        ("📑 已复制 " ++ agent ++ " → " ++ name)

/-- The names that differ from the given one by more than case. -/
def otherNames (name : Json) (names : List Json) : Except Crash (List Json) := do
  let lowered ← names.mapM fun other ↦ (other.forOperation "lower").map lowerString
  let own := lowerString (← name.forOperation "lower")
  return ((names.zip lowered).filter fun entry ↦ entry.2 != own).map Prod.fst

/-- Rename a persona. -/
def rename (r : Registry Json) (agent name : String) : Result :=
  if name = "" then refuse r (.invalid "NAME_EMPTY" "请指定新名称: 智能体~=新名称")
  else onPersona r agent fun p ↦
    match otherNames p.name r.names with
    | .error crash => fail r (.crashed crash)
    | .ok others =>
      match Name.validate name others with
      | .error failure => fail r failure
      | .ok name =>
        accept (r.update agent fun p ↦ { p with name := .str name })
          ("🏷️ 已重命名 " ++ agent ++ " → " ++ name)

/-- Describe a persona. -/
def describe (r : Registry Json) (agent text : String) : Result :=
  if text = "" then refuse r (.invalid "DESC_EMPTY" "请提供描述: 智能体:描述内容")
  else onPersona r agent fun _ ↦
    accept (r.update agent fun p ↦ { p with description := .str text })
      ("📝 " ++ agent ++ " 描述已更新")

/-- Choose the model of a persona. -/
def setModel (r : Registry Json) (agent ref : String) : Result :=
  if ref = "" then refuse r (.invalid "MODEL_EMPTY" "请指定模型: 智能体%模型名")
  else onPersona r agent fun p ↦
    match Models.resolve ref r.models with
    | .error crash => fail r (.crashed crash)
    | .ok resolved =>
      match resolved.filter Json.isFilled with
      | none => refuse r (.invalid "MODEL_INVALID" "无效模型")
      | some model =>
        accept (r.update agent fun p ↦ { p with model := model })
          ("🔄 " ++ agent ++ " 模型: " ++ p.model.display ++ " → " ++ model.display)

/-- Set the system prompt of a persona. -/
def setPrompt (r : Registry Json) (agent text : String) : Result :=
  onPersona r agent fun _ ↦
    accept (r.update agent fun p ↦ { p with systemPrompt := .str text })
      ("📝 " ++ agent ++ (if text = "" then " 提示词已清空" else " 提示词已更新"))

/-- Edit the first of the given positions of a history. -/
def editAt (r : Registry Json) (agent user : String) (scope : Scope) (indices : List Int)
    (text : String) : Result :=
  match indices with
  | [] => refuse r (.invalid "INDEX_EMPTY" "请指定索引: 智能体'索引 新内容")
  | index :: _ =>
    if text = "" then refuse r (.invalid "CONTENT_EMPTY" "请提供新内容")
    else onPersona r agent fun p ↦
      match p.editAt? scope user index (.str text) with
      | none => refuse r (.unknownIndex ("索引 " ++ intText index ++ " 无效"))
      | some edited =>
        accept (r.update agent fun _ ↦ edited.bump) ("✏️ 已编辑第 " ++ intText index ++ " 条")

/-- Delete positions of a history. -/
def deleteAt (r : Registry Json) (agent user : String) (scope : Scope) (indices : List Int) :
    Result :=
  if indices.isEmpty then
    refuse r (.invalid "INDEX_EMPTY" "请指定索引: 智能体-索引 (支持 1,3,5 或 1-5)")
  else onPersona r agent fun p ↦
    let (left, deleted) := p.deleteAt scope user indices
    if deleted.isEmpty then refuse (r.update agent fun _ ↦ left) (.unknownIndex "索引无效")
    else
      accept (r.update agent fun _ ↦ left.bump)
        ("🗑️ 已删除第 " ++ ", ".intercalate (deleted.map natText) ++ " 条 (共" ++
          natText deleted.length ++ "条)")

/-- Update a persona as a request to create it asks. -/
def updated (p : Persona Json) (request : CreateRequest) (model : Option Json) : Persona Json :=
  { p with
    model := model.getD p.model
    systemPrompt := .str request.prompt
    description := if request.description = "" then p.description else .str request.description }

/-- The persona that a request creates. -/
def created (r : Registry Json) (request : CreateRequest) (name : String) (model : Option Json)
    (now : Int) : Persona Json :=
  .fresh (.str name) (model.getD r.defaultModel)
    (if request.prompt = "" then r.defaultPrompt else .str request.prompt)
    (.str (if request.description = "" then defaultDescription else request.description)) now

/-- Create a persona, or update the one of that name. -/
def create (r : Registry Json) (request : CreateRequest) (now : Int) : Result :=
  match Models.resolve request.model r.models, r.find? request.name with
  | .error crash, _ | .ok _, .error crash => fail r (.crashed crash)
  | .ok resolved, .ok (some p) =>
    let p := updated p request (resolved.filter Json.isFilled)
    accept (r.update request.name fun _ ↦ p)
      ("📝 已更新 " ++ p.name.display ++ " (模型: " ++ p.model.display ++ ")")
  | .ok resolved, .ok none =>
    match Name.validate request.name r.names with
    | .error failure => fail r failure
    | .ok name =>
      let p := created r request name (resolved.filter Json.isFilled) now
      accept (r.add p) ("🤖 已创建 " ++ name ++ " (模型: " ++ p.model.display ++ ")")

/-- Carry out an edit. -/
def apply (e : Edit) (now : Int) (r : Registry Json) : Result :=
  match e.change with
  | .stop scope => onPersona r e.agent fun p ↦
    acceptFreeing (r.update e.agent fun _ ↦ p.bump) "🛑 已停止"
      (.conversation ⟨e.agent, scope, e.user⟩)
  | .copy name => copy r e.agent name now
  | .rename name => rename r e.agent name
  | .describe text => describe r e.agent text
  | .setModel ref => setModel r e.agent ref
  | .setPrompt text => setPrompt r e.agent text
  | .delete => onPersona r e.agent fun p ↦
    accept (r.remove e.agent) ("🗑️ 已删除 " ++ p.name.display)
  | .editAt scope indices text => editAt r e.agent e.user scope indices text
  | .deleteAt scope indices => deleteAt r e.agent e.user scope indices
  | .clear scope => onPersona r e.agent fun p ↦
    acceptFreeing (r.update e.agent fun _ ↦ (p.clear scope e.user).bump)
      ("🧹 " ++ e.agent ++ " " ++ scope.label ++ "历史已清空")
      (.conversation ⟨e.agent, scope, e.user⟩)
  | .clearPublic =>
    acceptFreeing { r with agents := r.agents.map Persona.clearShared }
      ("🧹 已清空 " ++ natText r.agents.length ++ " 个智能体的公有历史") .allShared
  | .clearEverything =>
    acceptFreeing { r with agents := r.agents.map Persona.clearAll }
      ("⚠️ 已清空 " ++ natText r.agents.length ++ " 个智能体的所有历史") .all
  | .create request => create r request now

end Edit
end PersonaChat
