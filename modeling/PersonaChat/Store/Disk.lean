import PersonaChat.Keyed
import PersonaChat.Text.Quoted
import PersonaChat.Text.Scan
import PersonaChat.Text.Utf8

/-!
# Files and folders

A disk is a map from paths to files and folders, seen from a working folder. Two dots as a part of
a path lead to the folder above; the folders above the working folder are always there. Every
operation walks its path from the working folder and fails at the first part that cannot be passed.

Spec guidance: `SPEC_FULL.md`, lines 190–196.
-/

namespace PersonaChat

open Text

/-- The parts of a path from the working folder. -/
abbrev Path := List String

/-- What stands at a path. -/
inductive DiskEntry where
  /-- A plain file with its bytes. -/
  | file (bytes : List UInt8)
  /-- A folder. -/
  | folder
  deriving DecidableEq

/-- Files and folders by their paths. -/
abbrev Disk := Keyed Path DiskEntry

/-- Why an operation on the disk fails. -/
inductive DiskFault where
  /-- Nothing stands at the path. -/
  | missing
  /-- Something stands at the path already. -/
  | occupied
  /-- A part of the path that should be a folder is a file. -/
  | notAFolder
  /-- A folder stands where a file should be. -/
  | isAFolder
  /-- The path or a part of it is too long. -/
  | nameTooLong
  deriving DecidableEq, Repr

/-- The number of a fault. -/
def DiskFault.number : DiskFault → Nat
  | .missing => 2
  | .occupied => 17
  | .notAFolder => 20
  | .isAFolder => 21
  | .nameTooLong => 36

/-- The words for a fault. -/
def DiskFault.words : DiskFault → String
  | .missing => "No such file or directory"
  | .occupied => "File exists"
  | .notAFolder => "Not a directory"
  | .isAFolder => "Is a directory"
  | .nameTooLong => "File name too long"

namespace Disk

/-- The largest number of bytes of a part of a path. -/
def maxPartBytes : Nat := 255

/-- The part of a path that leads to the folder above. -/
def upward : String := ".."

/-- Whether a path leads to the working folder or to one above it. -/
def leadsUp (path : Path) : Bool := path.all (· == upward)

/-- What stands at a path without detours: one that leads upward only at its start. -/
def at? (d : Disk) (path : Path) : Option DiskEntry :=
  if leadsUp path then some .folder else Keyed.get? path d

/-- The path without detours to the folder above a folder. -/
def above (path : Path) : Path := if leadsUp path then path ++ [upward] else path.dropLast

/-- Go from a path without detours to a part of what stands there. -/
def enter (d : Disk) (passed : Path) (part : String) : Except DiskFault Path :=
  match d.at? passed with
  | some .folder =>
    if part = upward then .ok (above passed)
    else if maxPartBytes < part.utf8ByteSize then .error .nameTooLong
    else .ok (passed ++ [part])
  | some (.file _) => .error .notAFolder
  | none => .error .missing

/-- The largest number of bytes of a path in writing. -/
def maxPathBytes : Nat := 4095

/-- The number of bytes of a path in writing. -/
def pathBytes (path : Path) : Nat :=
  path.foldl (fun bytes part ↦ bytes + part.utf8ByteSize + 1) 0

/-- The path without detours to where a path leads, whether or not anything stands there. -/
def locate (d : Disk) (path : Path) : Except DiskFault Path :=
  if maxPathBytes < pathBytes path then .error .nameTooLong else path.foldlM (d.enter) []

/-- What stands at a path, or why it cannot be reached. -/
def look (d : Disk) (path : Path) : Except DiskFault DiskEntry := do
  match d.at? (← d.locate path) with
  | some node => return node
  | none => throw .missing

/-- Whether a folder stands at a path. -/
def isFolder (d : Disk) (path : Path) : Bool :=
  match d.look path with
  | .ok .folder => true
  | _ => false

/-- Create a folder in a present one. -/
def createFolder (d : Disk) (path : Path) : Except DiskFault Disk := do
  let place ← d.locate path
  if (d.at? place).isSome then throw .occupied
  return Keyed.put place .folder d

/-- Create a folder and those above it as needed; a folder that is present will do. A fault comes
with the path at which it arose. The depth bounds how many folders above are tried. -/
def ensureFolderWithin (depth : Nat) (d : Disk) (path : Path) : Except (DiskFault × Path) Disk :=
  match d.createFolder path with
  | .ok d => .ok d
  | .error .missing =>
    match depth with
    | 0 => .error (.missing, path)
    | depth + 1 =>
      match ensureFolderWithin depth d path.dropLast with
      | .ok d =>
        match d.createFolder path with
        | .ok d => .ok d
        | .error fault => if d.isFolder path then .ok d else .error (fault, path)
      | .error fault => .error fault
  | .error fault => if d.isFolder path then .ok d else .error (fault, path)

/-- Create a folder and those above it as needed. -/
def ensureFolder (d : Disk) (path : Path) : Except (DiskFault × Path) Disk :=
  ensureFolderWithin path.length d path

/-- Write a file, replacing one that is present. -/
def write (d : Disk) (path : Path) (bytes : List UInt8) : Except DiskFault Disk := do
  let place ← d.locate path
  match d.at? place with
  | some .folder => throw .isAFolder
  | _ => return Keyed.put place (.file bytes) d

/-- Read a file. -/
def read (d : Disk) (path : Path) : Except DiskFault (List UInt8) :=
  match d.look path with
  | .ok (.file bytes) => .ok bytes
  | .ok .folder => .error .isAFolder
  | .error fault => .error fault

/-- Remove a file, if there is one. A folder stays. -/
def remove (d : Disk) (path : Path) : Disk :=
  match d.locate path with
  | .ok place =>
    match d.at? place with
    | some (.file _) => Keyed.erase place d
    | _ => d
  | .error _ => d

/-- Move a file to a path, replacing a file that is present there. -/
def replace (d : Disk) (source target : Path) : Except DiskFault Disk := do
  let bytes ← d.read source
  return (← d.write target bytes).remove source

/-- Put a folder in the place of whatever stands at a path. -/
def obstruct (d : Disk) (path : Path) : Disk := Keyed.put path .folder d

/-- The paths of all plain files below the working folder. -/
def files (d : Disk) : List Path :=
  d.filterMap fun
    | (path, .file _) => if path.contains upward then none else some path
    | (_, .folder) => none

/-- The text of the plain file at a path. -/
def text? (d : Disk) (path : Path) : Option String :=
  match d.at? path with
  | some (.file bytes) => some (decodeLenient bytes)
  | _ => none

end Disk

namespace Path

/-- The parts of a written path; empty parts and single dots do not count. -/
def ofString (s : String) : Path :=
  ((Text.splitAt '/' s.toList).map String.ofList).filter fun part ↦ part ≠ "" && part ≠ "."

/-- A path in writing. -/
def toString (path : Path) : String := "/".intercalate path

end Path

/-- The message of a fault at a path, which is shown below a root. -/
def DiskFault.message (fault : DiskFault) (root : String) (path : Path) : String :=
  "[Errno " ++ toString fault.number ++ "] " ++ fault.words ++ ": " ++
    Text.quoted (root ++ "/" ++ path.toString)

end PersonaChat
