import PersonaChat.Desk.Intake

/-!
# Sessions

A session is a service that runs for a while: messages come in, some of them wait for the provider
while others are handled, and the service may be started anew over the same disk. A command that
waits belongs to the service that was running when it came in.

Spec guidance: `SPEC_FULL.md`, lines 157–164.
-/

namespace PersonaChat

/-- What a service holds in memory. -/
structure Memory where
  /-- The registry. -/
  registry : Registry Json
  /-- The busy conversations. -/
  busy : Occupancy
  /-- Whether conversations may still be continued. -/
  accepting : Bool

/-- A command that waits for the provider. -/
structure Flight where
  /-- The command. -/
  task : Task
  /-- The number of the service it belongs to. -/
  service : Nat
  /-- The answers to its further questions. -/
  script : Task.Script

/-- A service that runs for a while. -/
structure Session where
  /-- What stays as it is. -/
  env : Surroundings
  /-- The registry of a service that finds no snapshot. -/
  default : Registry Json
  /-- Whether shutting down also ends the continuing of conversations. -/
  ownsWorkers : Bool
  /-- The world of the running service. -/
  world : World
  /-- The number of the running service. -/
  service : Nat
  /-- What earlier services hold. -/
  earlier : Keyed Nat Memory
  /-- The commands that wait, by their tags. -/
  flights : Keyed String Flight

namespace World

/-- What the running service holds in memory. -/
def memory (w : World) : Memory := ⟨w.registry, w.busy, w.accepting⟩

/-- The world as a service sees it that holds something else in memory. -/
def withMemory (w : World) (m : Memory) : World :=
  { w with registry := m.registry, busy := m.busy, accepting := m.accepting }

/-- Start a service over a disk. -/
def load (env : Surroundings) (default : Registry Json) (w : World) :
    Except Vault.LoadFault World := do
  let (disk, loaded, records) ← env.vault.load w.disk default w.now
  return { w with
    registry := loaded.getD default
    busy := .empty
    accepting := true
    disk := disk
    log := w.log ++ records }

end World

/-- What a session answers to a request. -/
inductive SessionReply where
  /-- A message asked for nothing. -/
  | nothing
  /-- A command has come to its end. -/
  | ended (ending : Ending)
  /-- A command waits for the provider. -/
  | pending
  /-- No command with the tag waits. -/
  | notPending

namespace Session

/-- Open a session over a disk. The records of loading are not kept. -/
def start (env : Surroundings) (default : Registry Json) (ownsWorkers : Bool) (disk : Disk)
    (seconds : Int) : Except Vault.LoadFault Session := do
  let empty : World := ⟨default, .empty, true, disk, 0, [], Calendar.clockSeconds seconds, [], []⟩
  let w ← empty.load env default
  return ⟨env, default, ownsWorkers, { w with log := [] }, 0, [], []⟩

/-- Forget what has been sent and recorded so far. -/
def clearTraces (s : Session) : Session :=
  { s with world := { s.world with events := [], log := [] } }

/-- Let the service of a given number do something. -/
def within (s : Session) (service : Nat) (act : World → World × Task) : Session × Task :=
  if service = s.service then
    let (w, t) := act s.world
    ({ s with world := w }, t)
  else
    match Keyed.get? service s.earlier with
    | none => let (w, t) := act s.world; ({ s with world := w }, t)
    | some memory =>
      let (w, t) := act (s.world.withMemory memory)
      ({ s with
        world := w.withMemory s.world.memory
        earlier := Keyed.put service w.memory s.earlier }, t)

/-- The reply for a task that has stopped. -/
def replyOf (t : Task) : SessionReply :=
  match t.ending? with
  | some ending => .ended ending
  | none => .pending

/-- Run a task to its end. -/
def run (s : Session) (script : Task.Script) (t : Task) : Session × SessionReply :=
  let (s, t) := s.within s.service fun w ↦ t.run s.env script w
  (s, replyOf t)

/-- Take in a message: its task, or a reply when there is none. -/
def take (s : Session) (m : Incoming) : Session × (Task ⊕ SessionReply) :=
  match m.task s.env s.world with
  | (w, .error crash) => ({ s with world := w }, .inr (.ended (.raised (.crashed crash))))
  | (w, .ok none) => ({ s with world := w }, .inr .nothing)
  | (w, .ok (some t)) => ({ s with world := w }, .inl t)

/-- Handle a message. -/
def send (s : Session) (script : Task.Script) (m : Incoming) : Session × SessionReply :=
  match s.take m with
  | (s, .inl t) => s.run script t
  | (s, .inr reply) => (s, reply)

/-- Handle a message until it waits for the provider for the first time. -/
def begin (s : Session) (tag : String) (script : Task.Script) (m : Incoming) :
    Session × SessionReply :=
  match s.take m with
  | (s, .inr reply) => (s, reply)
  | (s, .inl t) =>
    let (s, t) := s.within s.service fun w ↦ t.advance s.env w
    match t.ending? with
    | some ending => (s, .ended ending)
    | none =>
      ({ s with flights := Keyed.put tag ⟨t, s.service, script⟩ s.flights }, .pending)

/-- Answer the command with a tag, and run it to its end. Its further questions follow a script
that is given now, or the one with which it came in. -/
def complete (s : Session) (tag : String) (reply : Query → Answer)
    (further : Option Task.Script) : Session × SessionReply :=
  match Keyed.get? tag s.flights with
  | none => (s, .notPending)
  | some flight =>
    let s := { s with flights := Keyed.erase tag s.flights }
    let script := further.getD flight.script
    let script := { script with replies := reply :: script.replies }
    let (s, t) := s.within flight.service fun w ↦ flight.task.run s.env script w
    (s, replyOf t)

/-- Set the time. -/
def setClock (s : Session) (seconds : Int) : Session :=
  { s with world := { s.world with now := Calendar.clockSeconds seconds } }

/-- Make a conversation busy. -/
def occupy (s : Session) (c : Conversation) : Session × Option Nat :=
  let (busy, token) := s.world.busy.start c
  ({ s with world := { s.world with busy := busy } }, token)

/-- Let all later saves fail: a folder takes the place of the snapshot file. -/
def obstructStore (s : Session) : Session :=
  { s with world := { s.world with disk := s.world.disk.obstruct s.env.vault.path } }

/-- Save the registry and take no further conversations. -/
def shutdown (s : Session) : Session :=
  let w := s.world.save s.env
  { s with world := if s.ownsWorkers then { w with accepting := false } else w }

/-- Start the service anew over the same disk. -/
def restart (s : Session) : Except Vault.LoadFault Session := do
  let w ← s.world.load s.env s.default
  return { s with
    world := w
    service := s.service + 1
    earlier := Keyed.put s.service s.world.memory s.earlier }

end Session
end PersonaChat
