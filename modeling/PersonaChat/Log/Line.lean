import PersonaChat.Calendar
import PersonaChat.Json.Writer
import PersonaChat.Log.Record
import PersonaChat.Log.Template

/-!
# Lines of the log

A line of the log is one JSON object: the time, the level, the name of the log and the message,
then the values that belong to the record, which may replace those before, and at last the failure
that was recorded.

Spec guidance: `SPEC_FULL.md`, lines 179–182.
-/

namespace PersonaChat.Log

open Number

/-- The largest number of characters of a message whose content shall not be told. -/
def redactedLength : Nat := 64

/-- The moment of an entry. -/
inductive Moment where
  /-- A whole number of seconds. -/
  | whole (seconds : Int)
  /-- A number of seconds. -/
  | real (seconds : Binary64)

/-- Something to be written to the log. -/
structure Entry where
  /-- The level. -/
  level : String
  /-- The template of the message. -/
  template : String
  /-- The values of the template. -/
  values : List Json
  /-- The values that belong to the record; only an object counts. -/
  extra : Json
  /-- The moment. -/
  created : Moment
  /-- The message of a failure that was recorded. -/
  failure : Option String

/-- Why a line cannot be written. -/
inductive LineFault where
  /-- The template of the message cannot be filled. -/
  | template (fault : TemplateFault)
  /-- The moment has no calendar form. -/
  | moment (fault : Calendar.Fault)
  deriving DecidableEq, Repr

/-- A moment in calendar form. -/
def Moment.text (moment : Moment) : Except Calendar.Fault String := do
  let (seconds, microseconds) ← match moment with
    | .whole seconds => .ok (seconds, 0)
    | .real x => Calendar.splitMoment x
  return (← Calendar.onUniversalClock seconds).zulu microseconds

/-- The word under which a level is written; two levels have a second name. -/
def levelWord (level : String) : String :=
  if level = "WARN" then "WARNING" else if level = "FATAL" then "CRITICAL" else level

/-- The message of a failure, behind its kind. -/
def failureText (message : String) : String :=
  if message = "" then "ValueError" else "ValueError: " ++ message

/-- The fields of a line. -/
def fields (redact : Bool) (e : Entry) : Except LineFault (List (String × Json)) := do
  let message ← (fillTemplate e.template e.values).mapError LineFault.template
  let message :=
    if redact then String.ofList (message.toList.take redactedLength) else message
  let time ← e.created.text.mapError LineFault.moment
  let start := [("ts", Json.str time), ("level", .str (levelWord e.level)), ("name", .str name),
    ("msg", .str message)]
  let extended := match e.extra with
    | .obj extra => extra.foldl (fun acc entry ↦ Keyed.put entry.1 entry.2 acc) start
    | _ => start
  return match e.failure with
    | some text => Keyed.put "exc" (.str (failureText text)) extended
    | none => extended

/-- A line of the log. -/
def line (redact : Bool) (e : Entry) : Except LineFault String :=
  (fields redact e).map fun fields ↦ (Json.obj fields).oneLine

end PersonaChat.Log
