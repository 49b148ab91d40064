import PersonaChat.Keyed

/-!
# A gate for readers and writers

Any number of readers may be inside at once, or one writer alone. A reader waits while a writer is
inside or waits, so writers are not starved. Whoever cannot enter falls asleep; the last reader or
a writer that leaves wakes all sleepers, each of which then tries again.

Spec guidance: `SPEC_FULL.md`, lines 116–117 and 123.
-/

namespace PersonaChat

/-- What somebody wants to do inside. -/
inductive Access where
  /-- Look only, together with others. -/
  | read
  /-- Change something, alone. -/
  | write
  deriving DecidableEq, Repr

/-- Where somebody stands who has come to the gate. -/
inductive Stand where
  /-- Asleep until woken. -/
  | asleep (access : Access)
  /-- Woken and about to try again. -/
  | awake (access : Access)
  /-- Inside. -/
  | inside (access : Access)
  deriving DecidableEq, Repr

/-- The gate: its three counters and where everybody stands. -/
structure Gate (ι : Type) where
  /-- The number of readers inside. -/
  readers : Nat
  /-- Whether a writer is inside. -/
  writing : Bool
  /-- The number of writers that still try to enter. -/
  waitingWriters : Nat
  /-- Everybody who has come and not left. -/
  stands : Keyed ι Stand
  deriving DecidableEq, Repr

namespace Gate

variable {ι : Type} [DecidableEq ι]

/-- Nobody has come. -/
def empty : Gate ι := ⟨0, false, 0, []⟩

/-- Whether somebody may enter who already counts among those that try. -/
def admits (g : Gate ι) : Access → Bool
  | .read => !g.writing && g.waitingWriters == 0
  | .write => !g.writing && g.readers == 0

/-- Try to enter: go inside or fall asleep. -/
def attempt (g : Gate ι) (who : ι) (access : Access) : Gate ι :=
  if g.admits access then
    match access with
    | .read =>
        { g with readers := g.readers + 1, stands := Keyed.put who (.inside .read) g.stands }
    | .write =>
      { g with
        writing := true
        waitingWriters := g.waitingWriters - 1
        stands := Keyed.put who (.inside .write) g.stands }
  else { g with stands := Keyed.put who (.asleep access) g.stands }

/-- Come to the gate and try to enter. A writer counts as waiting from now on. -/
def enter (g : Gate ι) (who : ι) (access : Access) : Gate ι :=
  match access with
  | .read => g.attempt who .read
  | .write => { g with waitingWriters := g.waitingWriters + 1 }.attempt who .write

/-- Try again, if woken. -/
def retry (g : Gate ι) (who : ι) : Gate ι :=
  match Keyed.get? who g.stands with
  | some (.awake access) => g.attempt who access
  | _ => g

/-- Wake all sleepers. -/
def wakeAll (g : Gate ι) : Gate ι :=
  { g with
    stands := g.stands.map fun
      | (who, .asleep access) => (who, .awake access)
      | entry => entry }

/-- Leave, if inside. The last reader and a writer wake all sleepers. -/
def leave (g : Gate ι) (who : ι) : Gate ι :=
  match Keyed.get? who g.stands with
  | some (.inside .read) =>
    let g := { g with readers := g.readers - 1, stands := Keyed.erase who g.stands }
    if g.readers = 0 then g.wakeAll else g
  | some (.inside .write) =>
    { g with writing := false, stands := Keyed.erase who g.stands }.wakeAll
  | _ => g

/-- One step of one of those at the gate. -/
inductive Move (ι : Type) where
  /-- Come and try to enter. -/
  | enter (who : ι) (access : Access)
  /-- Try again after being woken. -/
  | retry (who : ι)
  /-- Leave. -/
  | leave (who : ι)
  deriving DecidableEq, Repr

/-- Carry out a step. -/
def step (g : Gate ι) : Move ι → Gate ι
  | .enter who access => g.enter who access
  | .retry who => g.retry who
  | .leave who => g.leave who

/-- Let everybody who is awake try again, in the order of coming. -/
def settle (g : Gate ι) : Gate ι := (Keyed.keys g.stands).foldl retry g

/-- Those inside. -/
def holding (g : Gate ι) : List ι :=
  g.stands.filterMap fun
    | (who, .inside _) => some who
    | _ => none

/-- Those who wait. -/
def waiting (g : Gate ι) : List ι :=
  g.stands.filterMap fun
    | (_, .inside _) => none
    | (who, _) => some who

end Gate
end PersonaChat
