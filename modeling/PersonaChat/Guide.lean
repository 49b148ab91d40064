import PersonaChat.Log.Record
import PersonaChat.Store.Disk

/-!
# Guides

Texts that belong to the service itself: the help shown to users, and the question by which a model
is asked to describe a persona. They are kept by language and name.

Spec guidance: `SPEC_FULL.md`, lines 139–144 and 226–227.
-/

namespace PersonaChat.Guide

/-- Lines of text, each with its end. -/
def ofLines (lines : List String) : String := String.join (lines.map (· ++ "\n"))

/-- The help shown to users. -/
def help : String := ofLines
  [
    "## 模式前缀（可组合）",
    "| 符号 | 含义 |",
    "|:---:|------|",
    "| `&` | 私有模式 |",
    "| `\"` | 文本模式 |",
    "",
    "## 智能体管理",
    "| 指令 | 功能 | 示例 |",
    "|------|------|------|",
    "| `##名称(描述) 模型 提示词` | 创建/更新 | `##助手 gpt-4o 你是助手` |",
    "| `##:模型` | 批量生成描述 | `##:gpt-4o` |",
    "| `智能体~=新名` | 重命名 | `助手~=管家` |",
    "| `智能体~#新名` | 复制 | `助手~#助手2` |",
    "| `智能体:描述` | 设置描述 | `助手:通用助手` |",
    "| `-#名称` | 删除 | `-#助手` |",
    "| `/#` | 列表 | `/#` |",
    "",
    "## 配置修改",
    "| 指令 | 功能 | 示例 |",
    "|------|------|------|",
    "| `智能体%模型` | 修改模型 | `助手%gpt-4` |",
    "| `智能体$提示词` | 修改提示词 | `助手$你是...` |",
    "| `智能体$` | 清空提示词 | `助手$` |",
    "| `智能体/$` | 查看提示词 | `助手/$` |",
    "| `/%` | 模型列表 | `/%` |",
    "",
    "## 对话控制",
    "| 指令 | 功能 |",
    "|------|------|",
    "| `智能体 内容` | 对话 |",
    "| `\"智能体 内容` | 文本模式对话 |",
    "| `&智能体 内容` | 私有对话 |",
    "| `智能体~` | 重新生成 |",
    "| `智能体!` | 停止生成 |",
    "",
    "## 历史管理",
    "| 指令 | 功能 |",
    "|------|------|",
    "| `智能体/*` | 查看所有 |",
    "| `智能体/1` | 查看第1条 |",
    "| `智能体/1-5` | 查看1-5条 |",
    "| `智能体_*` | 导出(.txt) |",
    "| `智能体'1 新内容` | 编辑第1条 |",
    "| `智能体-1` | 删除第1条 |",
    "| `智能体-1,3,5` | 删除多条 |",
    "| `智能体-1-5` | 删除范围 |",
    "| `智能体-*` | 清空历史 |",
    "",
    "> 加 `&` 前缀操作私有历史: `&智能体/*`",
    "",
    "## 危险操作",
    "| 指令 | 功能 |",
    "|------|------|",
    "| `-*` | 清空所有智能体公有历史 |",
    "| `-*!` | 清空所有历史 |",
    "",
    "## API 配置",
    "直接发送: `API地址 API密钥`"]

/-- The question by which a model is asked to describe a persona; the persona's system prompt takes
the place in braces. -/
def describe : String := ofLines
  [
    "请阅读以下角色的 System Prompt，为其生成一个极简短的中文功能描述（Role/Tag）。",
    "要求：",
    "1. 必须控制在 10 个字以内",
    "2. 不要包含任何标点符号",
    "3. 直接输出描述内容，不要解释",
    "",
    "System Prompt:",
    "\x7bprompt\x7d"]

/-- The question for the persona with a given system prompt. -/
def describePrompt (systemPrompt : String) : String :=
  String.ofList (Text.replaceAll "\x7bprompt\x7d".toList systemPrompt.toList describe.toList)

/-- The folder of the guides, as a path. -/
def folder : Path := [Log.name, "prompts"]

/-- The file of a guide, given its language and name, either of which may be a path. -/
def file (name language : String) : Path := Path.ofString language ++ Path.ofString (name ++ ".md")

/-- All guides by language and name. -/
def all : List ((String × String) × String) :=
  [(("zh", "help"), help), (("zh", "describe"), describe)]

/-- Folders and the folders above them. -/
def withAbove (paths : List Path) : List Path :=
  (paths.flatMap fun path ↦ (List.range path.length).map fun n ↦ path.take (n + 1)).eraseDups

/-- The folders and files of the guides. -/
def shelf : Disk :=
  (withAbove (all.map fun guide ↦ folder ++ [guide.1.1])).map (·, .folder) ++
    all.map fun guide ↦ (folder ++ file guide.1.2 guide.1.1, .file (Text.encode guide.2))

/-- Why a guide cannot be had. -/
inductive Fault where
  /-- Its name or language holds a character that names of files cannot hold. -/
  | unnameable
  /-- Its file cannot be read. -/
  | unreadable (fault : DiskFault)
  deriving DecidableEq, Repr

/-- The guide of a language and name, either of which may be a path that leads to another one. A
path from the outermost folder leads to none. -/
def load (name language : String) : Except Fault String :=
  if name.toList.contains (Char.ofNat 0) || language.toList.contains (Char.ofNat 0) then
    .error .unnameable
  else
    let start := if name.startsWith "/" || language.startsWith "/" then [Disk.upward] else folder
    match shelf.read (start ++ file name language) with
    | .ok bytes => .ok (Text.decodeLenient bytes)
    | .error fault => .error (.unreadable fault)

end PersonaChat.Guide
