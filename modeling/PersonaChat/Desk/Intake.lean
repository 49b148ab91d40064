import PersonaChat.Command.Names
import PersonaChat.Desk.Task

/-!
# Messages and their tasks

A message is recognised with the names that are registered when it comes, or with given ones. Talk
takes up the message it quotes: the quoted text stands before the user's own, and the quoted media
after it.

Spec guidance: `SPEC_FULL.md`, lines 157–162 and 221–222.
-/

namespace PersonaChat

open Text

/-- A message that came in. -/
structure Incoming where
  /-- The user who sent it. -/
  user : String
  /-- Its text. -/
  text : String
  /-- Its media references. -/
  images : List Json
  /-- The message that it quotes. -/
  replyTo : Option Int
  /-- The names by which it is recognised, instead of the registered ones. -/
  names : Option (List Json)

namespace Task

/-- The stage at which a command starts, given what the user says and the media that come with it.
-/
def firstStage (c : Command) (user prompt : String) (images : List Json) : Stage :=
  let edit (change : Change) : Stage := .edit ⟨c.agent, user, change⟩
  let talk (again : Bool) : Stage := .talk
    ⟨⟨c.agent, .ofPrivate c.privateReply, user, prompt, images, again, c.textMode⟩, .asked⟩
  match c.action with
  | .chat => talk false
  | .regenerate => talk true
  | .stop => edit (.stop (.ofPrivate c.privateReply))
  | .copy => edit (.copy c.args)
  | .rename => edit (.rename c.args)
  | .setDescription => edit (.describe c.args)
  | .delete => edit .delete
  | .list => .inspect .personas
  | .setModel => edit (.setModel c.args)
  | .setPrompt => edit (.setPrompt c.args)
  | .viewPrompt => .inspect (.prompt c.agent)
  | .listModels => .list
  | .viewAll scope => .inspect (.wholeHistory c.agent scope)
  | .viewAt scope => .inspect (.positions c.agent scope c.indices)
  | .exportHistory scope => .inspect (.exportFile c.agent scope)
  | .editAt scope => edit (.editAt scope c.indices c.args)
  | .deleteAt scope => edit (.deleteAt scope c.indices)
  | .clearHistory scope => edit (.clear scope)
  | .clearAllPublic => edit .clearPublic
  | .clearEverything => edit .clearEverything
  | .help => .inspect .help
  | .fillDescriptions model => .describe (.asked (model.getD ""))

/-- The task of a command. -/
def ofCommand (c : Command) (user prompt : String) (images : List Json) : Task :=
  ⟨c.agent, c.action.kind.word, user, c.textMode, firstStage c user prompt images⟩

/-- The task of a create request. -/
def ofCreate (request : CreateRequest) (user : String) : Task :=
  ⟨request.name, "create", user, false, .edit ⟨request.name, user, .create request⟩⟩

/-- The task of a new API configuration. -/
def ofApi (api : Api String) (user : String) : Task :=
  ⟨"", "configure", user, false, .configure api⟩

/-- The task that fetches the models for their own sake. -/
def ofFetch : Task := ⟨"", "fetch_models", "", false, .fetch .asked⟩

end Task

namespace Incoming

/-- Whether an action takes up what is quoted. -/
def takesQuote : Action → Bool
  | .chat | .regenerate => true
  | _ => false

/-- Look up the quoted message. One that cannot be found is recorded and otherwise ignored. -/
def quotation (env : Surroundings) (w : World) (id : Int) : World × Option Quoted :=
  let w := w.emit (.fetch id)
  match env.quoted id with
  | .ok quoted => (w, quoted)
  | .error reason =>
    (w.note .warning "Fetch quoted message failed" [("message_id", .int id),
      ("error", .str reason)], none)

/-- The task of a command in a message. -/
def commandTask (env : Surroundings) (w : World) (m : Incoming) (c : Command) : World × Task :=
  if !takesQuote c.action then (w, .ofCommand c m.user c.args m.images)
  else
    let (w, quoted) := match m.replyTo with
      | some id => quotation env w id
      | none => (w, none)
    let quotedText := (quoted.map fun q ↦ View.quote q.text).getD ""
    let quotedImages := (quoted.map Quoted.images).getD []
    (w, .ofCommand c m.user (trimString (quotedText ++ c.args)) (m.images ++ quotedImages))

/-- The task of a message, or `none` when it asks for nothing. -/
def task (env : Surroundings) (w : World) (m : Incoming) :
    World × Except Crash (Option Task) :=
  match Command.readAmong m.text (m.names.getD w.registry.names) with
  | .error crash => (w, .error crash)
  | .ok none => (w, .ok none)
  | .ok (some (.configure api)) => (w, .ok (some (.ofApi api m.user)))
  | .ok (some (.create request)) => (w, .ok (some (.ofCreate request m.user)))
  | .ok (some (.command c)) =>
    let (w, t) := commandTask env w m c
    (w, .ok (some t))

end Incoming
end PersonaChat
