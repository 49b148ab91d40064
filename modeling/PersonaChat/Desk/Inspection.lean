import PersonaChat.Desk.World
import PersonaChat.Guide
import PersonaChat.View.Export
import PersonaChat.View.Listing

/-!
# Looking at the registry

Commands that show something and leave a registry of texts as it is. Exporting a history also
writes a file, outside the snapshot. A message with a list in place of its text cannot be shown,
and the list may have grown when that is found out.

Spec guidance: `SPEC_FULL.md`, lines 139–144 and 221–224.
-/

namespace PersonaChat

open Text

/-- What shall be shown. -/
inductive Inspection where
  /-- The system prompt of a persona. -/
  | prompt (agent : String)
  /-- All personas. -/
  | personas
  /-- All models. -/
  | models
  /-- A whole history. -/
  | wholeHistory (agent : String) (scope : Scope)
  /-- Positions of a history. -/
  | positions (agent : String) (scope : Scope) (indices : List Int)
  /-- A history as a file. -/
  | exportFile (agent : String) (scope : Scope)
  /-- The help text. -/
  | help
  deriving DecidableEq, Repr

namespace Inspection

/-- The world after something was shown, and how the command ended, unless it failed. -/
abbrev Result := World × Except Failure Outcome

/-- Tell the user something and be done. -/
def acknowledge (w : World) (text : String) : Result := (w.say text, .ok (.done text))

/-- Tell the user a value as it is and be done. -/
def acknowledgeValue (w : World) (value : Json) : Result :=
  (w.emit (.text value), .ok ⟨.ok, value⟩)

/-- Refuse to show something. -/
def refuse (w : World) (refusal : Refusal) : Result := (w, .error (.refused refusal))

/-- Go on with a value, unless it could not be had. -/
def attempt {α : Type} (w : World) (value : Except Crash α) (go : α → Result) : Result :=
  match value with
  | .error crash => (w, .error (.crashed crash))
  | .ok a => go a

/-- Show a text under a title. -/
def showText (env : Surroundings) (w : World) (textMode : Bool)
    (title content : String) : Result :=
  (w.present env content textMode title, .ok (.done content))

/-- Go on with positions of a history that were shown, unless one cannot be: then the history is
what showing it left. -/
def attemptShowing {α : Type} (w : World) (agent user : String) (scope : Scope)
    (indices : List Int) (textMode : Bool) (shown : Except Crash α) (go : α → Result) : Result :=
  match shown with
  | .error crash =>
    let left (p : Persona Json) : Persona Json :=
      let h := p.history scope user
      if h.isEmpty then p
      else p.setHistory scope user (View.historyAfterShowing h indices textMode)
    ({ w with registry := w.registry.update agent left }, .error (.crashed crash))
  | .ok a => go a

/-- Look at the persona of a name, if there is one. -/
def onPersona (w : World) (agent : String) (look : Persona Json → Result) : Result :=
  attempt w (w.registry.find? agent) fun found ↦
    match found with
    | none => refuse w (.unknownPersona agent)
    | some p => look p

/-- Show the system prompt of a persona. -/
def showPrompt (env : Surroundings) (w : World) (textMode : Bool) (agent : String) : Result :=
  onPersona w agent fun p ↦
    if textMode then
      acknowledgeValue w (if p.systemPrompt.isFilled then p.systemPrompt else .str "(空)")
    else
      let shown := if p.systemPrompt.isFilled then View.escapeSpecial p.systemPrompt else "(空)"
      showText env w false (p.name.display ++ " 系统提示词")
        ("**模型**: `" ++ p.model.display ++ "`\n\n**提示词**:\n```\n" ++ shown ++ "\n```")

/-- Show all personas. -/
def showPersonas (env : Surroundings) (w : World) (textMode : Bool) : Result :=
  let agents := w.registry.agents
  attempt w (View.personas agents) fun content ↦
    if agents.isEmpty then acknowledge w "📋 暂无智能体，使用 ##名称 模型 提示词 创建"
    else showText env w textMode ("📋 智能体列表 (共" ++ natText agents.length ++ "个)") content

/-- Show all models. -/
def showModels (env : Surroundings) (w : World) (textMode : Bool) : Result :=
  let models := w.registry.models
  attempt w (View.models env.keywords models w.registry.agents) fun content ↦
    if models.isEmpty then acknowledge w "📭 未找到可用模型 (请检查过滤关键字)"
    else showText env w textMode ("🧩 模型列表 (共" ++ natText models.length ++ "个)") content

/-- Show a whole history. -/
def showHistory (env : Surroundings) (w : World) (textMode : Bool) (user agent : String)
    (scope : Scope) : Result :=
  onPersona w agent fun p ↦
    let h := p.history scope user
    if h.isEmpty then acknowledge w ("📭 " ++ agent ++ " " ++ scope.label ++ "历史为空")
    else
      let indices := (List.range h.length).map fun (i : Nat) ↦ (i : Int) + 1
      attemptShowing w agent user scope indices textMode (View.history h 0 textMode) fun content ↦
        showText env w textMode
          (agent ++ " " ++ scope.label ++ "历史 (" ++ natText h.length ++ " 条)") content

/-- The pictures of the named positions of a history. -/
def picturesAt (h : History Json) (indices : List Int) : Except Crash (List Json) := do
  let pictures ← (indices.filterMap h.at?).mapM fun m ↦ do
    return (Media.pictures (← m.content.forSearch)).map Json.str ++ m.images
  return pictures.flatten

/-- Show positions of a history, and then their pictures. -/
def showPositions (env : Surroundings) (w : World) (textMode : Bool) (user agent : String)
    (scope : Scope) (indices : List Int) : Result :=
  if indices.isEmpty then refuse w (.invalid "INDEX_EMPTY" "请指定索引: 智能体/索引")
  else onPersona w agent fun p ↦
    let h := p.history scope user
    attemptShowing w agent user scope indices textMode (View.selected h indices textMode)
      fun shown ↦
      if shown.isEmpty then refuse w (.unknownIndex "索引无效")
      else
        attempt w (picturesAt h indices) fun pictures ↦
          let content := View.rule.intercalate shown
          let w := w.present env content textMode (agent ++ " 历史记录")
          match w.sendImages pictures with
          | (w, .ok ()) => (w, .ok (.done content))
          | (w, .error crash) => (w, .error (.crashed crash))

/-- A file could not be written. -/
def exportFault (env : Surroundings) (fault : DiskFault) (path : Path) : Refusal :=
  .make .general "EXPORT_WRITE_ERROR" ("写入失败: " ++ fault.message env.rootName path)

/-- Write a file of the export folder and send it. -/
def sendFile (env : Surroundings) (w : World) (name content : String) : Result :=
  let path := env.exportFolder ++ Path.ofString name
  match w.disk.ensureFolder env.exportFolder with
  | .error (fault, path) => refuse w (exportFault env fault path)
  | .ok disk =>
    let w := { w with disk := disk }
    if name.toList.contains (Char.ofNat 0) then (w, .error (.crashed .badPath))
    else
      match w.disk.write path (encode content) with
      | .error fault => refuse w (exportFault env fault path)
      | .ok disk =>
        let w := { w with disk := disk }.emit (.upload name path content)
        match env.uploadError with
        | some reason => refuse w (.make .general "UPLOAD_ERROR" ("上传失败: " ++ reason))
        | none => acknowledge w ("📤 已导出: " ++ name)

/-- Write a history to a file and send it. -/
def exportHistory (env : Surroundings) (w : World) (user agent : String)
    (scope : Scope) : Result :=
  onPersona w agent fun p ↦
    let h := p.history scope user
    if h.isEmpty then acknowledge w "📭 历史为空"
    else
      attempt w (View.Export.sheet (.str agent) p.model (.str scope.label) h w.now) fun content ↦
        attempt w (View.Export.fileName agent scope.word user w.now) fun name ↦
          sendFile env w name content

/-- Show what shall be shown. -/
def run (env : Surroundings) (w : World) (user : String) (textMode : Bool) : Inspection → Result
  | .prompt agent => showPrompt env w textMode agent
  | .personas => showPersonas env w textMode
  | .models => showModels env w textMode
  | .wholeHistory agent scope => showHistory env w textMode user agent scope
  | .positions agent scope indices => showPositions env w textMode user agent scope indices
  | .exportFile agent scope => exportHistory env w user agent scope
  | .help => showText env w textMode "🤖 OAI 符号指令帮助" Guide.help

end Inspection
end PersonaChat
