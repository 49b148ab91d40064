import PersonaChat.Desk.World

/-!
# Generations

A generation asks the provider to continue a conversation. It proceeds in steps, each of which is
carried out as a whole while other commands may run in between: the provider's address is looked
up, the conversation is made busy, the user's message is stored and the version counted up, the
question is put, the conversation is freed, the answer is stored, and the answer is sent. An answer
is stored only if the version is still the one that was counted up; otherwise it is dropped and the
user is not told.

Spec guidance: `SPEC_FULL.md`, lines 126–129, 137–138 and 146–150.
-/

namespace PersonaChat

open Number Text

/-- What a generation was asked for. -/
structure Talk where
  /-- The name by which the persona was addressed. -/
  agent : String
  /-- The history. -/
  scope : Scope
  /-- The user. -/
  user : String
  /-- What the user says. -/
  prompt : String
  /-- The media references that come with it. -/
  images : List Json
  /-- Whether the last answer shall be given anew. -/
  again : Bool
  /-- Whether the reply shall not be drawn. -/
  textMode : Bool
  deriving DecidableEq, Repr

/-- What a generation keeps while the provider answers. -/
structure Ticket where
  /-- The address and key under which the question is put. -/
  api : Api Json
  /-- The token that holds the conversation. -/
  token : Nat
  /-- The name of the persona when the message was stored. -/
  persona : String
  /-- The version that was counted up. -/
  version : Int
  /-- The question. -/
  request : ChatRequest
  /-- The time when the question was put. -/
  since : Int
  deriving DecidableEq, Repr

/-- How far a generation has come. -/
inductive Phase where
  /-- Nothing is done yet. -/
  | asked
  /-- The persona exists and the provider is known. -/
  | admitted (api : Api Json)
  /-- The conversation is busy. -/
  | occupied (api : Api Json) (token : Nat)
  /-- The message could not be stored; the conversation is still busy. -/
  | rejected (token : Nat) (refusal : Refusal)
  /-- The message is stored. -/
  | started (ticket : Ticket)
  /-- The question is put. -/
  | waiting (ticket : Ticket)
  /-- The provider has answered; the conversation is still busy. -/
  | answered (ticket : Ticket) (result : Except Failure (Option String))
  /-- The conversation is freed. -/
  | freed (ticket : Ticket) (result : Except Failure (Option String))
  /-- The answer is stored under its number in the history; the user has not got it yet. -/
  | stored (ticket : Ticket) (index : Nat) (content : String)
  /-- All is done. -/
  | finished (result : Except Failure Outcome)

/-- A generation. -/
structure Generation where
  /-- What it was asked for. -/
  talk : Talk
  /-- How far it has come. -/
  phase : Phase

namespace Talk

/-- The conversation that a generation makes busy. -/
def conversation (t : Talk) : Conversation := ⟨t.agent, t.scope, t.user⟩

/-- The history with the user's message, or with the last exchange taken back. -/
def nextHistory (t : Talk) (h : History Json) (now : Int) : Except Refusal (History Json) :=
  if t.again then
    let h := h.dropLast? assistantRole
    if t.prompt = "" then .ok h
    else .ok (h.dropLast? userRole ++ [.ofUser t.prompt t.images now])
  else if t.prompt = "" && t.images.isEmpty then .error (.invalid "EMPTY_PROMPT" "请输入内容")
  else .ok (h ++ [.ofUser t.prompt t.images now])

end Talk

namespace Generation

/-- The values that belong to every record of a generation. -/
def logFields (t : Talk) : List (String × Json) :=
  [("agent", .str t.agent), ("private", .bool t.scope.isPersonal), ("uid", .str t.user)]

/-- Make a record of a generation. -/
def note (w : World) (t : Talk) (level : LogLevel) (message : String)
    (fields : List (String × Json)) : World :=
  w.note level message (logFields t ++ fields)

/-- Look up the persona and the provider. -/
def enter (w : World) (t : Talk) : Phase :=
  match w.registry.find? t.agent with
  | .error crash => .finished (.error (.crashed crash))
  | .ok none => .finished (.error (.refused (.unknownPersona t.agent)))
  | .ok (some _) =>
    if w.registry.api.isReady then .admitted w.registry.api
    else .finished (.error (.refused .apiMissing))

/-- Make the conversation busy. -/
def occupy (w : World) (t : Talk) (api : Api Json) : World × Phase :=
  match w.busy.start t.conversation with
  | (busy, some token) => ({ w with busy := busy }, .occupied api token)
  | (busy, none) => ({ w with busy := busy }, .finished (.error (.refused .alreadyBusy)))

/-- Store the user's message and count up the version. A crash leaves the conversation busy. -/
def begin (env : Surroundings) (w : World) (t : Talk) (api : Api Json) (token : Nat) :
    World × Phase :=
  match w.registry.find? t.agent with
  | .error crash => (w, .finished (.error (.crashed crash)))
  | .ok none => (w, .rejected token (.unknownPersona t.agent))
  | .ok (some p) =>
    match t.nextHistory (p.history t.scope t.user) w.now with
    | .error refusal => (w, .rejected token refusal)
    | .ok h =>
      let p := (p.setHistory t.scope t.user h).bump
      (w.commit env (w.registry.update t.agent fun _ ↦ p),
        .started ⟨api, token, p.name.display, p.version, ⟨p.model, h, p.systemPrompt⟩, w.now⟩)

/-- Put the question to the provider. -/
def ask (env : Surroundings) (w : World) (t : Talk) (ticket : Ticket) : World × Phase :=
  let w := note w t .info "Calling provider" [("model", ticket.request.model),
    ("message_count", .int ticket.request.messages.length)]
  match World.connect env ticket.api with
  | .error crash => (w, .answered ticket (.error (.crashed crash)))
  | .ok () =>
    if !w.accepting then
      (w, .answered ticket
        (.error (.crashed (.runtime "cannot schedule new futures after shutdown"))))
    else
      match w.ask env (.chat ticket.api ticket.request) with
      | (w, .ok ()) => (w, .waiting ticket)
      | (w, .error failure) => (w, .answered ticket (.error failure))

/-- Free the conversation, if this generation still holds it. -/
def release (w : World) (t : Talk) (token : Nat) : World :=
  { w with busy := w.busy.finish t.conversation (some token) }

/-- Record an answer that took too long. -/
def noteTimeout (env : Surroundings) (w : World) (t : Talk)
    (result : Except Failure (Option String)) : World :=
  match result with
  | .error (.crashed .timedOut) =>
    note w t .warning "Provider timed out" [("timeout", env.chatTimeout.toJson)]
  | _ => w

/-- The refusal for a provider that failed. -/
def refusalOf (env : Surroundings) : Failure → Refusal
  | .refused refusal => refusal
  | .crashed .timedOut => .make .timeout "TIMEOUT"
      ("请求超时：模型响应时间超过 " ++ intText env.chatTimeout.floor ++ " 秒，已强制停止。")
  | .crashed crash => .make .api "PROVIDER_ERROR" crash.message

/-- How an answer with pictures is shown: with their addresses in place of the pictures, or below
them. -/
def shownAnswer (t : Talk) (content : String) (pictures : List String) : String :=
  let links := "\n".intercalate (pictures.map fun url ↦
    if Media.isDataAddress url then "- [Base64 Image]" else "- " ++ url)
  if pictures.isEmpty then content
  else if t.textMode then Media.showAddresses content
  else content ++ "\n\n---\n**图片链接:**\n" ++ links

/-- Send an answer to the user: its text, its pictures and its videos. -/
def deliver (env : Surroundings) (w : World) (t : Talk) (title content : String) : World :=
  let pictures := Media.pictures content
  let w := w.present env (shownAnswer t content pictures) t.textMode title
  (pictures.foldl World.sendImage w).sendVideos (Media.videos content)

/-- The title of an answer. -/
def title (t : Talk) (persona : String) (index : Nat) : String :=
  persona ++ " #" ++ natText index ++ "回复" ++ (if t.scope.isPersonal then " (私有)" else "")

/-- The persona of a generation, if its version is still the one that was counted up. -/
def current? (w : World) (ticket : Ticket) : Except Crash (Option (Persona Json)) :=
  (w.registry.find? ticket.persona).map (·.filter fun p ↦ p.version == ticket.version)

/-- Store the answer, unless it is out of date. -/
def complete (env : Surroundings) (w : World) (t : Talk) (ticket : Ticket)
    (content : Option String) : World × Phase :=
  match current? w ticket, content with
  | .error crash, _ => (w, .finished (.error (.crashed crash)))
  | .ok none, _ =>
    (note w t .info "Discarded stale completion" [("version", .int ticket.version)],
      .finished (.ok (.ofText .cancelled "")))
  | .ok (some _), none =>
    (w, .finished (.error (.refused (.make .api "EMPTY_REPLY" "模型未返回内容"))))
  | .ok (some p), some content =>
    let p := p.append t.scope t.user (.ofAssistant content w.now)
    (w.commit env (w.registry.update ticket.persona fun _ ↦ p),
      .stored ticket (p.history t.scope t.user).length content)

/-- Send the answer that is stored. -/
def reply (env : Surroundings) (w : World) (t : Talk) (ticket : Ticket) (index : Nat)
    (content : String) : World :=
  let w := note w t .info "Stored assistant message"
    [("index", .int index), ("elapsed_seconds", .real (Binary64.ofInt (w.now - ticket.since)))]
  deliver env w t (title t ticket.persona index) content

/-- The next step of a generation. One that waits for the provider, or has finished, stays. -/
def step (env : Surroundings) (w : World) (g : Generation) : World × Generation :=
  let moved : World × Phase := match g.phase with
    | .asked => (w, enter w g.talk)
    | .admitted api => occupy w g.talk api
    | .occupied api token => begin env w g.talk api token
    | .rejected token refusal => (release w g.talk token, .finished (.error (.refused refusal)))
    | .started ticket => ask env w g.talk ticket
    | .waiting ticket => (w, .waiting ticket)
    | .answered ticket result =>
      (release (noteTimeout env w g.talk result) g.talk ticket.token, .freed ticket result)
    | .freed _ (.error failure) => (w, .finished (.error (.refused (refusalOf env failure))))
    | .freed ticket (.ok content) => complete env w g.talk ticket content
    | .stored ticket index content =>
      (reply env w g.talk ticket index content, .finished (.ok (.done content)))
    | .finished result => (w, .finished result)
  (moved.1, { g with phase := moved.2 })

/-- The question that a generation waits for. -/
def query? (g : Generation) : Option Query :=
  match g.phase with
  | .waiting ticket => some (.chat ticket.api ticket.request)
  | _ => none

/-- Give a generation the answer it waits for. -/
def answer (g : Generation) (result : Except Failure (Option String)) : Generation :=
  match g.phase with
  | .waiting ticket => { g with phase := .answered ticket result }
  | _ => g

end Generation
end PersonaChat
