import PersonaChat.Desk.Describing
import PersonaChat.Desk.Edit
import PersonaChat.Desk.Fetch
import PersonaChat.Desk.Generation
import PersonaChat.Desk.Inspection

/-!
# Commands in flight

A task is a command on its way. Each step of a task is carried out as a whole; between two steps,
and while a task waits for the provider, other tasks may proceed. A command that runs alone is the
task whose steps follow each other without a break.

Spec guidance: `SPEC_FULL.md`, lines 146–150.
-/

namespace PersonaChat

open Text

/-- What a task does next. -/
inductive Stage where
  /-- Change the registry. -/
  | edit (edit : Edit)
  /-- Free conversations, and then tell the user that the edit is done. -/
  | release (release : Release) (reply : String)
  /-- Show something. -/
  | inspect (inspection : Inspection)
  /-- Continue a conversation. -/
  | talk (generation : Generation)
  /-- Store the provider's address and key. -/
  | configure (api : Api String)
  /-- Fetch the models of a provider that was just configured. -/
  | configuring (fetch : Fetch)
  /-- See whether models are known. -/
  | list
  /-- Fetch the models in order to show them. -/
  | listing (fetch : Fetch)
  /-- Fetch the models for their own sake. -/
  | fetch (fetch : Fetch)
  /-- Describe personas. -/
  | describe (describing : Describing)
  /-- All is done. -/
  | ended (ending : Ending)

/-- A command in flight. -/
structure Task where
  /-- The persona that the command names, for the records. -/
  agent : String
  /-- The word of the action, for the records. -/
  action : String
  /-- The user. -/
  user : String
  /-- Whether replies shall not be drawn. -/
  textMode : Bool
  /-- What is done next. -/
  stage : Stage

namespace Task

/-- How a refusal is shown to the user. -/
def refusalText (refusal : Refusal) : String :=
  match refusal.kind.outcome with
  | .busy | .timeout => "⏳ " ++ refusal.message
  | .providerError => "❌ API错误: " ++ refusal.message
  | _ => "❌ " ++ refusal.message

/-- How grave the record of a refusal is. -/
def refusalLevel (refusal : Refusal) : LogLevel :=
  match refusal.kind.outcome with
  | .validation | .notFound | .busy => .info
  | _ => .warning

/-- Record a refusal and tell the user. -/
def refuse (w : World) (t : Task) (refusal : Refusal) : World × Stage :=
  let kind := refusal.kind.outcome
  let w := w.note (refusalLevel refusal) "Command rejected" [("agent", .str t.agent),
    ("action", .str t.action), ("code", .str refusal.code), ("kind", .str kind.word)]
  (w.say (refusalText refusal), .ended (.outcome (.ofText kind refusal.message)))

/-- End a task that failed: a refusal is told to the user, any other failure is passed on. -/
def fail (w : World) (t : Task) : Failure → World × Stage
  | .refused refusal => refuse w t refusal
  | .crashed crash => (w, .ended (.raised (.crashed crash)))

/-- Tell the user something and be done. -/
def acknowledge (w : World) (text : String) : World × Stage :=
  (w.say text, .ended (.outcome (.done text)))

/-- Carry out an edit. -/
def runEdit (env : Surroundings) (w : World) (t : Task) (e : Edit) : World × Stage :=
  match e.apply w.now w.registry with
  | (r, .error failure) => fail { w with registry := r } t failure
  | (r, .ok done) =>
    let w := w.commit env r
    match done.release with
    | some release => (w, .release release done.reply)
    | none => acknowledge w done.reply

/-- Show something. -/
def runInspection (env : Surroundings) (w : World) (t : Task) (i : Inspection) : World × Stage :=
  match i.run env w t.user t.textMode with
  | (w, .error failure) => fail w t failure
  | (w, .ok outcome) => (w, .ended (.outcome outcome))

/-- Continue a conversation by one step, or end the task once that is done. -/
def runTalk (env : Surroundings) (w : World) (t : Task) (g : Generation) : World × Stage :=
  match g.phase with
  | .finished (.ok outcome) => (w, .ended (.outcome outcome))
  | .finished (.error failure) => fail w t failure
  | _ =>
    let (w, g) := g.step env w
    (w, .talk g)

/-- Tell the user how the models of a configured provider were fetched. -/
def reportConfigured (w : World) : Except Failure (List String) → World × Stage
  | .ok names => acknowledge w ("📋 已获取 " ++ natText names.length ++ " 个模型")
  | .error (.refused refusal) =>
    (w.say ("⚠️ 获取模型失败: " ++ refusal.message),
      .ended (.outcome (.ofText .providerError refusal.message)))
  | .error (.crashed crash) => (w, .ended (.raised (.crashed crash)))

/-- Show the models that were fetched. -/
def reportListed (w : World) (t : Task) : Except Failure (List String) → World × Stage
  | .ok _ => (w, .inspect .models)
  | .error (.refused refusal) =>
    refuse w t { refusal with message := "获取失败: " ++ refusal.message }
  | .error (.crashed crash) => (w, .ended (.raised (.crashed crash)))

/-- Pass on the models that were fetched. -/
def reportFetched : Except Failure (List String) → Stage
  | .ok names => .ended (.models names)
  | .error failure => .ended (.raised failure)

/-- Tell the user how describing went. -/
def reportDescribed (w : World) (t : Task) : Except Failure String → World × Stage
  | .ok text => acknowledge w text
  | .error failure => fail w t failure

/-- What a task does next, after its next step. A task that waits or has ended stays as it is. -/
def stepStage (env : Surroundings) (w : World) (t : Task) : World × Stage :=
  match t.stage with
  | .edit e => runEdit env w t e
  | .release release reply => acknowledge { w with busy := w.busy.release release } reply
  | .inspect i => runInspection env w t i
  | .talk g => runTalk env w t g
  | .configure api =>
    ((w.commit env (w.registry.setApi (api.map .str))).say ("✅ API 已配置: " ++ api.base),
      .configuring .asked)
  | .configuring (.finished result) => reportConfigured w result
  | .configuring f => let (w, f) := f.step env w; (w, .configuring f)
  | .list =>
    if w.registry.models.isEmpty then (w.say "⏳ 正在获取模型列表...", .listing .asked)
    else (w, .inspect .models)
  | .listing (.finished result) => reportListed w t result
  | .listing f => let (w, f) := f.step env w; (w, .listing f)
  | .fetch (.finished result) => (w, reportFetched result)
  | .fetch f => let (w, f) := f.step env w; (w, .fetch f)
  | .describe (.finished result) => reportDescribed w t result
  | .describe d => let (w, d) := d.step env w; (w, .describe d)
  | .ended ending => (w, .ended ending)

/-- The next step of a task. -/
def step (env : Surroundings) (w : World) (t : Task) : World × Task :=
  let (w, stage) := stepStage env w t
  (w, { t with stage := stage })

/-- The question that a task waits for. -/
def query? (t : Task) : Option Query :=
  match t.stage with
  | .talk g => g.query?
  | .configuring f | .listing f | .fetch f => f.query?
  | .describe d => d.query?
  | _ => none

/-- How a task ended, if it has. -/
def ending? (t : Task) : Option Ending :=
  match t.stage with
  | .ended ending => some ending
  | _ => none

/-- Give a task the answer it waits for. An answer of the wrong kind is not heard. -/
def answer (t : Task) (a : Answer) : Task :=
  { t with stage := match t.stage, a with
    | .talk g, .chat result => .talk (g.answer result)
    | .configuring f, .models result => .configuring (f.answer result)
    | .listing f, .models result => .listing (f.answer result)
    | .fetch f, .models result => .fetch (f.answer result)
    | .describe d, .chat result => .describe (d.answer result)
    | stage, _ => stage }

/-- Let a task proceed without a break until it waits or ends, for at most the given number of
steps. -/
def proceed (env : Surroundings) : Nat → World → Task → World × Task
  | 0, w, t => (w, t)
  | steps + 1, w, t =>
    if t.query?.isSome || t.ending?.isSome then (w, t)
    else
      let (w, t) := t.step env w
      proceed env steps w t

/-- How many personas a task has yet to describe. -/
def remaining (t : Task) : Nat :=
  match t.stage with
  | .describe d => d.remaining
  | _ => 0

/-- A number of steps after which every task waits or has ended. -/
def enough (w : World) (t : Task) : Nat := 16 + 4 * (w.registry.agents.length + t.remaining)

/-- Let a task proceed without a break until it waits or ends. -/
def advance (env : Surroundings) (w : World) (t : Task) : World × Task :=
  proceed env (enough w t) w t

/-- Answers that are given one after the other, to whatever question is put, and then always the
same one. -/
structure Script where
  /-- The answers in order. -/
  replies : List (Query → Answer)
  /-- The answer to every further question. -/
  fallback : Query → Answer

/-- Let a task run to its end with the provider following a script, for at most the given number of
questions. -/
def converse (env : Surroundings) (fallback : Query → Answer) :
    Nat → List (Query → Answer) → World → Task → World × Task
  | 0, _, w, t => (w, t)
  | questions + 1, replies, w, t =>
    match t.query? with
    | none => (w, t)
    | some query =>
      let reply := replies.headD fallback
      let (w, t) := (t.answer (reply query)).advance env w
      converse env fallback questions replies.tail w t

/-- Let a task run to its end with the provider following a script. -/
def run (env : Surroundings) (script : Script) (w : World) (t : Task) : World × Task :=
  let (w, t) := t.advance env w
  converse env script.fallback (w.registry.agents.length + t.remaining + 2) script.replies w t

end Task
end PersonaChat
