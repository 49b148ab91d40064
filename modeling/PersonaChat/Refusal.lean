import PersonaChat.Calendar

/-!
# Refusals

A refusal is an expected failure of a command: it carries a machine-readable code, a message for
the user and a status for callers that speak HTTP. Its kind decides how the user is told.

Spec guidance: `SPEC_FULL.md`, lines 152–155 and 184–188.
-/

namespace PersonaChat

/-- Why a command is refused. -/
inductive RefusalKind where
  /-- An argument or a configuration is not acceptable. -/
  | validation
  /-- A persona or a position of a history does not exist. -/
  | notFound
  /-- The same conversation is already being answered. -/
  | busy
  /-- The provider could not be reached. -/
  | network
  /-- The provider answered with an error. -/
  | api
  /-- The provider limits the rate of requests. -/
  | rateLimit
  /-- The answer took too long. -/
  | timeout
  /-- The snapshot could not be written. -/
  | persistence
  /-- Any other refusal. -/
  | general
  deriving DecidableEq, Repr

/-- A refused command. -/
structure Refusal where
  /-- Why it is refused. -/
  kind : RefusalKind
  /-- A machine-readable code. -/
  code : String
  /-- The message for the user. -/
  message : String
  /-- The status for callers that speak HTTP. -/
  status : Int
  deriving DecidableEq, Repr

namespace Refusal

/-- A refusal with the usual status. -/
def make (kind : RefusalKind) (code message : String) : Refusal := ⟨kind, code, message, 400⟩

/-- An argument is not acceptable. -/
def invalid (code message : String) : Refusal := make .validation code message

/-- No persona has the given name. -/
def unknownPersona (name : String) : Refusal :=
  make .notFound "AGENT_NOT_FOUND" (name ++ " 不存在")

/-- No position of the history was named. -/
def unknownIndex (message : String) : Refusal := make .notFound "INDEX_NOT_FOUND" message

/-- The provider's address or key is missing. -/
def apiMissing : Refusal := invalid "MISSING_API_CONFIG" "API 未配置"

/-- The conversation is already being answered. -/
def alreadyBusy : Refusal := make .busy "BUSY" "正在生成中，请等待或使用 智能体! 停止"

end Refusal

/-- A failure that is not a refusal and ends a command without telling the user. -/
inductive Crash where
  /-- A text that was taken for a number is none, or has too many digits. -/
  | badNumber
  /-- A file name holds a character that file names cannot hold. -/
  | badPath
  /-- The clock shows a time that has no calendar form. -/
  | badTime (fault : Calendar.Fault)
  /-- A value of the given kind has not the operation that was asked of it. -/
  | noOperation (kind operation : String)
  /-- A value is of the wrong kind, as the message tells. -/
  | wrongKind (message : String)
  /-- A document nests its values too deep; the innermost one that was tried is of the given
  kind. -/
  | tooDeep (kind : String)
  /-- The wait for the provider ended. -/
  | timedOut
  /-- The provider failed for a reason of its own, with this message. -/
  | runtime (message : String)
  /-- The HTTP client failed in a way that is no failure of the request: its kind and message. -/
  | client (kind message : String)
  deriving DecidableEq, Repr

/-- The message of a crash. -/
def Crash.message : Crash → String
  | .badNumber | .badPath | .badTime _ | .timedOut => ""
  | .noOperation kind operation => "'" ++ kind ++ "' object has no attribute '" ++ operation ++ "'"
  | .wrongKind message => message
  | .tooDeep kind =>
    "maximum recursion depth exceeded while decoding a JSON " ++ kind ++ " from a unicode string"
  | .runtime message => message
  | .client _ message => message

/-- Any failure of a step of a command. -/
inductive Failure where
  /-- An expected failure. -/
  | refused (refusal : Refusal)
  /-- An unexpected failure. -/
  | crashed (crash : Crash)
  deriving DecidableEq, Repr

namespace Failure

/-- What failed unexpectedly fails. -/
def ofCrash {α : Type} (result : Except Crash α) : Except Failure α := result.mapError .crashed

/-- What was refused fails. -/
def ofRefusal {α : Type} (result : Except Refusal α) : Except Failure α := result.mapError .refused

end Failure
end PersonaChat
