import PersonaChat.Store.Vault

/-!
# The shared service

One registry keeper and one desk that all callers share. Each is made when it is first asked for
and kept until the service is shut down, which saves the registry if a keeper was made. A desk is
made over the shared keeper.

Spec guidance: `SPEC_FULL.md`, lines 158 and 162–164.
-/

namespace PersonaChat

/-- An object that callers share, told apart by its number. -/
abbrev Ticketed := Nat

/-- The shared keeper and desk. -/
structure SharedService where
  /-- Where the registry is kept. -/
  vault : Vault
  /-- The registry of a keeper that finds no snapshot. -/
  default : Registry Json
  /-- Files and folders. -/
  disk : Disk
  /-- The time. -/
  now : Int
  /-- The number of the next object. -/
  next : Ticketed
  /-- The keeper with its registry. -/
  keeper : Option (Ticketed × Registry Json)
  /-- The desk. -/
  desk : Option Ticketed

namespace SharedService

/-- The keeper, made if there is none. -/
def getKeeper (s : SharedService) : Except Vault.LoadFault (SharedService × Ticketed) :=
  match s.keeper with
  | some (number, _) => .ok (s, number)
  | none => do
    let (disk, loaded, _) ← s.vault.load s.disk s.default s.now
    let keeper := (s.next, loaded.getD s.default)
    return ({ s with disk := disk, next := s.next + 1, keeper := some keeper }, s.next)

/-- The desk, made over the keeper if there is none. -/
def getDesk (s : SharedService) : Except Vault.LoadFault (SharedService × Ticketed) :=
  match s.desk with
  | some number => .ok (s, number)
  | none => do
    let (s, _) ← s.getKeeper
    return ({ s with next := s.next + 1, desk := some s.next }, s.next)

/-- The keeper of the desk. -/
def getDeskKeeper (s : SharedService) : Except Vault.LoadFault (SharedService × Ticketed) := do
  (← s.getDesk).1.getKeeper

/-- Save the registry if there is a keeper, and forget keeper and desk. -/
def shutdown (s : SharedService) : SharedService :=
  let disk := match s.keeper with
    | some (_, registry) => (s.vault.save s.disk (Vault.encode registry) s.next none).1
    | none => s.disk
  { s with disk := disk, next := s.next + 1, keeper := none, desk := none }

end SharedService
end PersonaChat
