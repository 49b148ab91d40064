import PersonaChat.Json.Display
import PersonaChat.Json.Kind
import PersonaChat.Json.Reader
import PersonaChat.Media
import PersonaChat.Number.Binary64
import PersonaChat.Provider.Query

/-!
# The provider over HTTP

Questions become HTTP calls to a provider that understands the common chat-completion interface,
and HTTP answers become results. Every answer is classified: no connection, too many requests, an
error status, a body that cannot be used, or a result.

Spec guidance: `SPEC_FULL.md`, lines 184–188 and 198–202.
-/

namespace PersonaChat

open Text

/-- A place where the provider can be called. -/
structure Endpoint where
  /-- The address, without slashes at its end. -/
  address : String
  /-- The key. -/
  key : Json
  deriving DecidableEq, Repr

/-- Whether a place can be called at all. -/
def Endpoint.isConfigured (e : Endpoint) : Bool := e.address != "" && e.key.isFilled

/-- A call to be sent. -/
structure HttpCall where
  /-- The address called. -/
  url : String
  /-- The key it is signed with. -/
  key : String
  /-- The document sent along; a call without one only asks. -/
  payload : Option Json
  /-- The number of seconds to wait. -/
  timeout : Int

/-- What comes back from a call. -/
inductive HttpAnswer where
  /-- An answer with its status and bytes. -/
  | answered (status : Int) (body : List UInt8)
  /-- The request failed. -/
  | requestFailed (message : String)
  /-- The client failed in another way. -/
  | clientFailed (crash : Crash)

/-- One continuation of a conversation. -/
structure Choice where
  /-- Its place among all continuations, from 0. -/
  index : Nat
  /-- Who speaks. -/
  role : Json
  /-- The text. -/
  content : String
  /-- Why the continuation ended. -/
  finishReason : Json

/-- What continuing a conversation gave. -/
structure ChatResult where
  /-- The model that was asked. -/
  model : Json
  /-- The continuations, in order. -/
  choices : List Choice
  /-- The tokens of the question, of the answer and of both, if they are told. -/
  usage : Option (Json × Json × Json)

/-- The text of the first continuation. -/
def ChatResult.content (r : ChatResult) : Option String := r.choices.head?.map Choice.content

namespace Client

/-- How long a call waits that lists models. -/
def listTimeout : Int := 30

/-- How long a call waits that continues a conversation, if nothing else is asked for. -/
def chatTimeout : Int := 300

/-- An address without slashes at its end. -/
def withoutSlashes (address : String) : String :=
  String.ofList ((address.toList.reverse.dropWhile (· == '/')).reverse)

/-- The place where a provider can be called. Its address must be a text. -/
def connect (api : Api Json) : Except Crash Endpoint :=
  if api.base.isFilled then do
    return ⟨withoutSlashes (← api.base.forOperation "rstrip"), api.key⟩
  else .ok ⟨"", api.key⟩

/-- A part of a message that is a text. -/
def textPart (text : Json) : Json := .obj [("type", .str "text"), ("text", text)]

/-- A part of a message that is a picture. -/
def imagePart (url : Json) : Json :=
  .obj [("type", .str "image_url"), ("image_url", .obj [("url", url)])]

/-- A message to be sent. -/
def wireMessage (role content : Json) : Json := .obj [("role", role), ("content", content)]

/-- The messages to be sent for one of a history. A user's message without text and pictures is
left out; pictures of an answer follow it as a user's message, so that the model sees what it
made. -/
def wireMessages (m : Message Json) : Except Crash (List Json) :=
  if m.hasRole userRole then
    let parts :=
      (if m.content.isFilled then [textPart m.content] else []) ++ m.images.map imagePart
    .ok (if parts.isEmpty then [] else [wireMessage (.str userRole) (.arr parts)])
  else if m.hasRole assistantRole then do
    let content ← m.content.forSearch
    let generated := (Media.pictures content).map fun url ↦ imagePart (.str url)
    return wireMessage (.str assistantRole) (.str (Media.replaceData "[Image Created]" content)) ::
      (if generated.isEmpty then [] else [wireMessage (.str userRole) (.arr generated)])
  else .ok [wireMessage m.role m.content]

/-- The document sent to continue a conversation. -/
def payload (request : ChatRequest) : Except Crash Json := do
  let system := if request.systemPrompt.isFilled
    then [wireMessage (.str "system") request.systemPrompt] else []
  let messages ← request.messages.mapM wireMessages
  return .obj [("model", request.model), ("messages", .arr (system ++ messages.flatten))]

/-- The call for a question; a question without an address or a key is refused. -/
def call (timeout : Int) (query : Query) : Except Failure HttpCall := do
  let api := match query with
    | .chat api _ | .models api => api
  let e ← Failure.ofCrash (connect api)
  if !e.isConfigured then throw (.refused .apiMissing)
  match query with
  | .chat _ request =>
    return ⟨e.address ++ "/chat/completions", e.key.display,
      some (← Failure.ofCrash (payload request)), timeout⟩
  | .models _ => return ⟨e.address ++ "/models", e.key.display, none, listTimeout⟩

/-- The answer cannot be used. -/
def invalidResponse (message : String) (status : Int) : Refusal :=
  ⟨.api, "INVALID_RESPONSE", message, status⟩

/-- The object that an answer with a good status holds. -/
def object (status : Int) (body : List UInt8) : Except Failure Json :=
  match Json.readBytes body with
  | .error .malformed =>
    let shown := String.ofList ((decodeLenient body).toList.take 80)
    .error (.refused (invalidResponse ("接口返回的不是 JSON: " ++ shown) status))
  | .error (.tooDeep kind) => .error (.crashed (.tooDeep kind))
  | .ok j =>
    if j.isObject then .ok j else .error (.refused (invalidResponse "接口返回格式错误" status))

/-- The status and object of an answer, or how it failed. -/
def accept : HttpAnswer → Except Failure (Int × Json)
  | .requestFailed message => .error (.refused (.make .network "NETWORK_ERROR" message))
  | .clientFailed crash => .error (.crashed crash)
  | .answered status body =>
    if status = 429 then .error (.refused (.make .rateLimit "RATE_LIMIT" "rate limit"))
    else if 400 ≤ status then .error (.refused ⟨.api, "API_ERROR", decodeLenient body, status⟩)
    else (object status body).map fun j ↦ (status, j)

/-- The continuation at a place. -/
def choice (index : Nat) (j : Json) : Choice :=
  let message : Json := match j.field? "message" with
    | some (.obj fields) => .obj fields
    | _ => .obj []
  let content := match message.field? "content" with
    | some (.str s) => s
    | _ => ""
  ⟨index, (message.filled? "role").getD (.str assistantRole), content,
    (j.field? "finish_reason").getD .null⟩

/-- The tokens that were used, if they are told. -/
def usage (j : Json) : Option (Json × Json × Json) :=
  match j.filled? "usage" with
  | some (.obj fields) =>
    let count (key : String) : Json := (Json.field? key (.obj fields)).getD (.int 0)
    some (count "prompt_tokens", count "completion_tokens", count "total_tokens")
  | _ => none

/-- What an object says that continues a conversation. -/
def chatResult (model : Json) (j : Json) : Except Refusal ChatResult :=
  match j.filled? "choices" with
  | none => .ok ⟨model, [], usage j⟩
  | some (.arr items) =>
    if items.all Json.isObject then .ok ⟨model, items.mapIdx choice, usage j⟩
    else .error (invalidResponse "接口返回格式错误" 400)
  | some _ => .error (invalidResponse "接口返回格式错误" 400)

/-- The identifiers of an object that lists models. -/
def modelIds (status : Int) (j : Json) : Except Refusal (List Json) :=
  match j.filled? "data" with
  | none => .ok []
  | some (.arr items) => .ok (items.filterMap (·.filled? "id"))
  | some _ => .error (invalidResponse "模型列表格式错误" status)

/-- What an HTTP answer says that continues a conversation. -/
def readChat (model : Json) (answer : HttpAnswer) : Except Failure ChatResult := do
  let (_, j) ← accept answer
  Failure.ofRefusal (chatResult model j)

/-- What an HTTP answer says that lists models. -/
def readModels (answer : HttpAnswer) : Except Failure (List Json) := do
  let (status, j) ← accept answer
  Failure.ofRefusal (modelIds status j)

/-- Continue a conversation with a call that is answered as given. -/
def chat (timeout : Int) (api : Api Json) (request : ChatRequest) (answer : HttpAnswer) :
    Except Failure ChatResult := do
  let _ ← call timeout (.chat api request)
  readChat request.model answer

/-- List the models with a call that is answered as given. -/
def listModels (timeout : Int) (api : Api Json) (answer : HttpAnswer) :
    Except Failure (List Json) := do
  let _ ← call timeout (.models api)
  readModels answer

/-- What an HTTP answer says to a question. -/
def read (query : Query) (answer : HttpAnswer) : Answer :=
  match query with
  | .chat _ request => .chat ((readChat request.model answer).map ChatResult.content)
  | .models _ => .models (readModels answer)

end Client
end PersonaChat
