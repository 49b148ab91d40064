import PersonaChat.Desk.Outcome
import PersonaChat.Media
import PersonaChat.Occupancy
import PersonaChat.Provider.Client
import PersonaChat.Store.Vault

/-!
# The service and what surrounds it

The world is everything a command can change: the registry, the busy conversations, the disk, the
records, and what has been sent to users and to the provider. The surroundings stay as they are:
how pictures are drawn, what a quoted message holds, whether an upload succeeds, and where things
are kept.

Spec guidance: `SPEC_FULL.md`, lines 24–26, 41–46 and 116–119.
-/

namespace PersonaChat

open Number

/-- What can be taken from a quoted message. -/
structure Quoted where
  /-- Its text. -/
  text : String
  /-- Its media references. -/
  images : List Json

/-- What leaves the service. -/
inductive Event where
  /-- A text for the user. -/
  | text (text : Json)
  /-- A picture for the user. -/
  | image (image : String)
  /-- A video for the user. -/
  | video (url : String)
  /-- A file for the user: its name, its path and its text. -/
  | upload (name : String) (path : Path) (text : String)
  /-- A text that shall become a picture. -/
  | render (title markdown : String)
  /-- A quoted message is asked for. -/
  | fetch (id : Int)
  /-- A question to the provider. -/
  | ask (query : Query)
  /-- A question to the provider, as an HTTP call. -/
  | call (call : HttpCall)

/-- How questions reach the provider. -/
inductive Line where
  /-- As they are. -/
  | direct
  /-- As HTTP calls that wait the given number of seconds for a continued conversation. -/
  | http (timeout : Int)

/-- A number of seconds, whole or not. -/
inductive Seconds where
  /-- A whole number. -/
  | whole (n : Int)
  /-- A floating-point number. -/
  | real (x : Binary64)

/-- The whole seconds. -/
def Seconds.floor : Seconds → Int
  | .whole n => n
  | .real x => (Binary64.truncate? x).getD 0

/-- A number of seconds as a JSON value. -/
def Seconds.toJson : Seconds → Json
  | .whole n => .int n
  | .real x => .real x

/-- What stays as it is while commands run. -/
structure Surroundings where
  /-- Where the registry is kept. -/
  vault : Vault
  /-- Where exported histories are written. -/
  exportFolder : Path
  /-- How the root of the disk is shown in messages. -/
  rootName : String
  /-- How questions reach the provider. -/
  line : Line
  /-- How long an answer may take. -/
  chatTimeout : Seconds
  /-- The keywords by which models are kept and grouped. -/
  keywords : List String
  /-- Draws a text with a title as a picture, if there is anything that draws. -/
  renderer : Option (String → String → Except String String)
  /-- Finds a quoted message, or tells why it cannot. -/
  quoted : Int → Except String (Option Quoted)
  /-- Why uploads fail, if they do. -/
  uploadError : Option String

/-- Everything that commands change. -/
structure World where
  /-- The registry. -/
  registry : Registry Json
  /-- The busy conversations. -/
  busy : Occupancy
  /-- Whether conversations may still be continued. -/
  accepting : Bool
  /-- Files and folders. -/
  disk : Disk
  /-- The number of the next save. -/
  serial : Nat
  /-- The troubles that befall the next saves, in order; a save beyond them has none. -/
  troubles : List (Option SaveTrouble)
  /-- The time. -/
  now : Int
  /-- What has left the service, in order. -/
  events : List Event
  /-- The records, in order. -/
  log : List LogRecord

namespace World

/-- Let something leave the service. -/
def emit (w : World) (e : Event) : World := { w with events := w.events ++ [e] }

/-- Send a text to the user. -/
def say (w : World) (text : String) : World := w.emit (.text (.str text))

/-- Make a record. -/
def note (w : World) (level : LogLevel) (message : String)
    (fields : List (String × Json)) : World :=
  { w with log := w.log ++ [⟨level, message, fields⟩] }

/-- Save the registry. A save that fails is recorded and otherwise ignored. -/
def save (env : Surroundings) (w : World) : World :=
  let (disk, result) :=
    env.vault.save w.disk (Vault.encode w.registry) w.serial (w.troubles.headD none)
  let saved := { w with disk := disk, serial := w.serial + 1, troubles := w.troubles.tail }
  match result with
  | .ok () => saved
  | .error _ => saved.note .warning "Registry save failed" []

/-- Replace the registry and save it. -/
def commit (env : Surroundings) (w : World) (r : Registry Json) : World :=
  save env { w with registry := r }

/-- Send a text to the user: as a picture, unless text is wanted or nothing draws. A picture that
cannot be drawn becomes a text again, without the data it may carry. -/
def present (env : Surroundings) (w : World) (text : String) (textMode : Bool) (title : String) :
    World :=
  match env.renderer, textMode with
  | none, _ | _, true => w.say text
  | some draw, false =>
    let w := w.emit (.render title text)
    match draw text title with
    | .ok picture => w.emit (.image ("base64://" ++ picture))
    | .error reason =>
      (w.note .warning "Render failed" [("error", .str reason), ("title", .str title)]).say
        (Media.replaceData "[图片渲染失败]" text)

/-- Send a picture to the user; of one that carries its data only the data is sent. -/
def sendImage (w : World) (url : String) : World :=
  if Media.isDataAddress url then
    match Media.payload? url with
    | some payload => w.emit (.image ("base64://" ++ payload))
    | none => w
  else w.emit (.image url)

/-- Send pictures to the user, up to the first that is no text. -/
def sendImages (w : World) : List Json → World × Except Crash Unit
  | [] => (w, .ok ())
  | url :: rest =>
    match url.forOperation "startswith" with
    | .ok url => sendImages (w.sendImage url) rest
    | .error crash => (w, .error crash)

/-- Send videos to the user. -/
def sendVideos (w : World) (urls : List String) : World :=
  urls.foldl (fun w url ↦ w.emit (.video url)) w

/-- Look up where the provider can be reached. -/
def connect (env : Surroundings) (api : Api Json) : Except Crash Unit :=
  match env.line with
  | .direct => .ok ()
  | .http _ => (Client.connect api).map fun _ ↦ ()

/-- Put a question to the provider; the question may fail before it is put. -/
def ask (env : Surroundings) (w : World) (query : Query) : World × Except Failure Unit :=
  match env.line with
  | .direct => (w.emit (.ask query), .ok ())
  | .http timeout =>
    match Client.call timeout query with
    | .ok call => (w.emit (.call call), .ok ())
    | .error failure => (w, .error failure)

end World
end PersonaChat
