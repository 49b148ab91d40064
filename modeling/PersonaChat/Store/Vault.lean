import PersonaChat.Calendar
import PersonaChat.Json.Reader
import PersonaChat.Json.Writer
import PersonaChat.Log.Record
import PersonaChat.Refusal
import PersonaChat.Registry.Snapshot
import PersonaChat.Store.Disk

/-!
# The snapshot file

A vault is one file that holds the whole registry. Saving writes a temporary file next to it and
moves that into its place, so a save that fails leaves the file as it was. Loading never changes
the file; a file that cannot be understood is first copied aside.

Spec guidance: `SPEC_FULL.md`, lines 190–196.
-/

namespace PersonaChat

open Text Number

/-- Where the snapshot file stands. -/
structure Vault where
  /-- The folder, which also takes temporary files and copies. -/
  folder : Path
  /-- The path of the file from the folder. -/
  file : Path
  deriving DecidableEq

/-- Where a save fails for reasons outside this library. -/
inductive SaveStage where
  /-- Before anything is written. -/
  | encoding
  /-- While the temporary file is written, which may leave a part of it. -/
  | writing (part : Option (List UInt8))
  /-- When the temporary file is moved into place. -/
  | replacing
  deriving DecidableEq

/-- A trouble that befalls a save. -/
structure SaveTrouble where
  /-- Where the save fails. -/
  stage : SaveStage
  /-- Whether the temporary file cannot be removed either. -/
  cleanupFails : Bool
  deriving DecidableEq

/-- A trouble that befalls the copy of a file. -/
structure CopyTrouble where
  /-- What is left in the place of the copy, if anything is. -/
  part : Option (List UInt8)
  deriving DecidableEq

namespace Vault

/-- The file that holds the registry. -/
def path (v : Vault) : Path := v.folder ++ v.file

/-- The name of the file. -/
def name (v : Vault) : String := v.file.getLast?.getD ""

/-- The name of the file without its extension. -/
def stem (v : Vault) : String :=
  match cutAt? '.' v.name.toList.reverse with
  | some (extension, rest) =>
    if extension.isEmpty || rest.isEmpty then v.name else String.ofList rest.reverse
  | none => v.name

/-- The least number of digits in the name of a temporary file. -/
def serialWidth : Nat := 32

/-- The number of a save in writing. -/
def serialChars (serial : Nat) : List Char :=
  let ds := Nat.toDigits 16 serial
  List.replicate (serialWidth - ds.length) '0' ++ ds

/-- The temporary file of the save with a given number. -/
def temporary (v : Vault) (serial : Nat) : Path :=
  v.folder ++ [v.stem ++ "." ++ String.ofList (serialChars serial) ++ ".json.tmp"]

/-- The name of the copy that keeps a file which could not be understood at a time. -/
def backupName (v : Vault) (time : Calendar) : String :=
  v.stem ++ ".corrupt-" ++ time.stamp ++ ".json"

/-- Whether a name holds a character that names of files cannot hold. -/
def isUnnameable (name : String) : Bool := name.toList.contains (Char.ofNat 0)

/-- The text that stands for a registry. -/
def encode (r : Registry Json) : String := r.toJson.indentedText

/-- A save could not be carried out. -/
def unwritable (message : String) : Failure :=
  .refused (.make .persistence "STORE_WRITE_ERROR" message)

/-- Give up a save: remove its temporary file, if that is possible. -/
def giveUp (d : Disk) (temporary : Path) (cleanupFails : Bool) : Disk :=
  if cleanupFails then d else d.remove temporary

/-- Save a text under a number that no other save has, with or without trouble. A temporary file
that cannot be named can be neither written nor removed. -/
def save (v : Vault) (d : Disk) (text : String) (serial : Nat) (trouble : Option SaveTrouble) :
    Disk × Except Failure Unit :=
  if isUnnameable v.stem then (d, .error (.crashed .badPath))
  else
  let temporary := v.temporary serial
  let cleanupFails := (trouble.map SaveTrouble.cleanupFails).getD false
  match trouble.map SaveTrouble.stage with
  | some .encoding => (giveUp d temporary cleanupFails, .error (unwritable "encoding"))
  | some (.writing part) =>
    let d := match part with
      | some bytes => (d.write temporary bytes).toOption.getD d
      | none => d
    (giveUp d temporary cleanupFails, .error (unwritable "writing"))
  | stage =>
    match d.write temporary (Text.encode text) with
    | .error fault => (giveUp d temporary cleanupFails, .error (unwritable fault.words))
    | .ok written =>
      if stage = some .replacing ∨ v.file.any isUnnameable then
        (giveUp written temporary cleanupFails, .error (unwritable "replacing"))
      else
        match written.replace temporary v.path with
        | .ok d => (d, .ok ())
        | .error fault => (giveUp written temporary cleanupFails, .error (unwritable fault.words))

/-- The snapshot that bytes hold, if they can be understood. -/
def decode? (bytes : List UInt8) : Option Snapshot :=
  (decodeStrict? bytes).bind fun text ↦
    (Json.parse? text).bind fun j ↦ (Registry.ofJson j).toOption

/-- The record of a file that was copied aside, or could not be. -/
def keptRecord (backup : Option String) : LogRecord where
  level := .warning
  message := "Registry snapshot unreadable, starting from defaults"
  fields := [("backup", (backup.map Json.str).getD .null)]

/-- Where the copy of the file goes that has a name: if a folder has this name, into that
folder. -/
def copyPath (v : Vault) (d : Disk) (name : String) : Path :=
  if d.isFolder (v.folder ++ [name]) then v.folder ++ [name, v.name] else v.folder ++ [name]

/-- Copy the file, with or without trouble: the disk, and whether the copy was made. -/
def copy (v : Vault) (d : Disk) (name : String) (trouble : Option CopyTrouble) : Disk × Bool :=
  let target := v.copyPath d name
  match trouble with
  | some ⟨some bytes⟩ => ((d.write target bytes).toOption.getD d, false)
  | some ⟨none⟩ => (d, false)
  | none =>
    match (do d.write target (← d.read v.path) : Except DiskFault Disk) with
    | .ok d => (d, true)
    | .error _ => (d, false)

/-- Copy aside a file that could not be understood: the disk and the records of it. -/
def keepAside (v : Vault) (d : Disk) (time : Calendar) (trouble : Option CopyTrouble) :
    Disk × List LogRecord :=
  let name := v.backupName time
  let (d, copied) := v.copy d name trouble
  (d, if copied then [keptRecord (some name)]
    else [⟨.error, "Registry backup failed", []⟩, keptRecord none])

/-- Why the snapshot cannot be loaded at all. -/
inductive LoadFault where
  /-- It cannot be told whether the file is there. -/
  | unreachable (fault : DiskFault)
  /-- The file has to be copied aside at a time that has no calendar form. -/
  | badTime (fault : Calendar.Fault)
  deriving DecidableEq, Repr

/-- What stands in the place of the file, if anything does. -/
def find (v : Vault) (d : Disk) : Except LoadFault (Option DiskEntry) :=
  if v.file.any isUnnameable then .ok none
  else
    match d.look v.path with
    | .ok node => .ok (some node)
    | .error .missing | .error .notAFolder => .ok none
    | .error fault => .error (.unreachable fault)

/-- The snapshot that stands in the place of the file, if it can be understood. -/
def understood? : DiskEntry → Option Snapshot
  | .file bytes => decode? bytes
  | .folder => none

/-- Load the snapshot: the disk afterwards, the snapshot unless it is missing or cannot be
understood, and the records of it. Copying the file aside may meet trouble. -/
def loadDespite (v : Vault) (d : Disk) (default : Snapshot) (now : Int)
    (trouble : Option CopyTrouble) :
    Except LoadFault (Disk × Option Snapshot × List LogRecord) := do
  match ← v.find d with
  | none => return (d, none, [])
  | some node =>
    match understood? node with
    | some snapshot => return (d, some (snapshot.withDefaults default), [])
    | none =>
      let time ← (Calendar.onLocalClock now).mapError LoadFault.badTime
      let (d, records) := v.keepAside d time trouble
      return (d, none, records)

/-- Load the snapshot without trouble. -/
def load (v : Vault) (d : Disk) (default : Snapshot) (now : Int) :
    Except LoadFault (Disk × Option Snapshot × List LogRecord) :=
  v.loadDespite d default now none

end Vault
end PersonaChat
