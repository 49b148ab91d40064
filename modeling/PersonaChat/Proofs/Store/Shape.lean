import PersonaChat.Store.Vault

/-!
# The shape of a disk

What stands where, without the bytes of the files. The shape decides where an operation on the disk
arrives, whether and why it fails, and the shape afterwards; the bytes decide only what is read. So
whether the registry can be saved does not depend on what it holds.
-/

namespace PersonaChat

universe u v

namespace Keyed

variable {κ : Type u} {α β : Type v} [DecidableEq κ] (k : κ) (m : Keyed κ α)

/-- A map with a function applied to every value. -/
def mapValues (f : α → β) : Keyed κ β := m.map fun entry ↦ (entry.1, f entry.2)

private theorem get?_mapValues (f : α → β) : get? k (m.mapValues f) = (get? k m).map f := by
  induction m with
  | nil => rfl
  | cons entry rest ih =>
    by_cases h : entry.1 = k
    · simp [mapValues, get?, h]
    · simpa [mapValues, get?, h] using ih

private theorem mapValues_put (f : α → β) (a : α) :
    (put k a m).mapValues f = put k (f a) (m.mapValues f) := by
  induction m with
  | nil => rfl
  | cons entry rest ih =>
    by_cases h : entry.1 = k
    · simp [mapValues, put, h]
    · simpa [mapValues, put, h] using ih

private theorem mapValues_erase (f : α → β) :
    (erase k m).mapValues f = erase k (m.mapValues f) := by
  simp [mapValues, erase, List.filter_map, Function.comp_def]

end Keyed

/-- What stands at a path, with an empty file for every file. -/
def DiskEntry.shape : DiskEntry → DiskEntry
  | .file _ => .file []
  | .folder => .folder

namespace Disk

/-- A disk whose files are all empty. -/
def shape (d : Disk) : Disk := Keyed.mapValues d DiskEntry.shape

variable (d : Disk) (path : Path)

private theorem at?_shape : d.shape.at? path = (d.at? path).map DiskEntry.shape := by
  unfold at?
  split
  · rfl
  · exact Keyed.get?_mapValues path d DiskEntry.shape

/-- A part is entered by the shape of a disk. -/
@[simp] theorem enter_shape : d.shape.enter = d.enter := by
  funext passed part
  unfold enter
  rw [at?_shape]
  rcases d.at? passed with _ | _ | _
  · rfl
  · rfl
  · rfl

/-- A path is followed by the shape of a disk. -/
@[simp] theorem locate_shape : d.shape.locate path = d.locate path := by
  unfold locate
  rw [enter_shape]

private theorem look_shape : d.shape.look path = (d.look path).map DiskEntry.shape := by
  unfold look
  rw [locate_shape]
  cases d.locate path with
  | error fault => rfl
  | ok place =>
    simp only [bind, Except.bind]
    rw [at?_shape]
    cases d.at? place with
    | none => rfl
    | some node => rfl

/-- A folder is told by the shape of a disk. -/
@[simp] theorem isFolder_shape : d.shape.isFolder path = d.isFolder path := by
  unfold isFolder
  rw [look_shape]
  rcases d.look path with _ | _ | _
  · rfl
  · rfl
  · rfl

private theorem createFolder_shape :
    d.shape.createFolder path = (d.createFolder path).map shape := by
  unfold createFolder
  rw [locate_shape]
  cases d.locate path with
  | error fault => rfl
  | ok place =>
    simp only [bind, Except.bind]
    rw [at?_shape]
    cases d.at? place with
    | none => exact congrArg Except.ok (Keyed.mapValues_put place d DiskEntry.shape .folder).symm
    | some node => rfl

/-- A folder that stands there already will do in the shape as it does on the disk. -/
private theorem settle_shape (failure : DiskFault × Path) :
    (if d.isFolder path then Except.ok d.shape else .error failure) =
      (if d.isFolder path then Except.ok d else .error failure).map shape := by
  split
  · rfl
  · rfl

/-- A folder is created in the shape as it is on the disk, with the same faults. -/
theorem ensureFolderWithin_shape (depth : Nat) :
    d.shape.ensureFolderWithin depth path = (d.ensureFolderWithin depth path).map shape := by
  induction depth generalizing d path with
  | zero =>
    unfold ensureFolderWithin
    rw [createFolder_shape, isFolder_shape]
    cases d.createFolder path with
    | ok made => rfl
    | error fault =>
      cases fault
      case missing => rfl
      all_goals exact d.settle_shape path _
  | succ depth ih =>
    unfold ensureFolderWithin
    rw [createFolder_shape, isFolder_shape]
    cases d.createFolder path with
    | ok made => rfl
    | error fault =>
      cases fault
      case missing =>
        dsimp only [Except.map]
        rw [ih]
        cases d.ensureFolderWithin depth path.dropLast with
        | error failed => rfl
        | ok above =>
          dsimp only [Except.map]
          rw [createFolder_shape, isFolder_shape]
          cases above.createFolder path with
          | ok made => rfl
          | error failed => exact above.settle_shape path _
      all_goals exact d.settle_shape path _

private theorem ensureFolder_shape : d.shape.ensureFolder path = (d.ensureFolder path).map shape :=
  d.ensureFolderWithin_shape path path.length

/-- Whatever is written leads to the shape that an empty file leads to. -/
theorem write_shape (bytes : List UInt8) :
    d.shape.write path [] = (d.write path bytes).map shape := by
  unfold write
  rw [locate_shape]
  cases d.locate path with
  | error fault => rfl
  | ok place =>
    have hput : Keyed.put place (.file []) d.shape = shape (Keyed.put place (.file bytes) d) :=
      (Keyed.mapValues_put place d DiskEntry.shape (.file bytes)).symm
    simp only [bind, Except.bind]
    rw [at?_shape]
    rcases d.at? place with _ | _ | _
    · exact congrArg Except.ok hput
    · exact congrArg Except.ok hput
    · rfl

private theorem read_shape : d.shape.read path = (d.read path).map fun _ ↦ [] := by
  unfold read
  rw [look_shape]
  rcases d.look path with _ | _ | _
  · rfl
  · rfl
  · rfl

private theorem remove_shape : d.shape.remove path = (d.remove path).shape := by
  unfold remove
  rw [locate_shape]
  cases d.locate path with
  | error fault => rfl
  | ok place =>
    dsimp only
    rw [at?_shape]
    rcases d.at? place with _ | _ | _
    · rfl
    · exact (Keyed.mapValues_erase place d DiskEntry.shape).symm
    · rfl

private theorem replace_shape (target : Path) :
    d.shape.replace path target = (d.replace path target).map shape := by
  unfold replace
  rw [read_shape]
  cases d.read path with
  | error fault => rfl
  | ok bytes =>
    simp only [bind, Except.bind, Except.map]
    rw [write_shape d target bytes]
    cases d.write target bytes with
    | error fault => rfl
    | ok written => exact congrArg Except.ok (written.remove_shape path)

variable {d} {d' : Disk}

/-- Two operations failed for the same reason, or made disks that are related. -/
def ComeOutAlike {ε : Type u} (related : Disk → Disk → Prop) (x y : Except ε Disk) : Prop :=
  (∃ failure, x = .error failure ∧ y = .error failure) ∨
    ∃ d d', x = .ok d ∧ y = .ok d' ∧ related d d'

/-- Where disks come out of the same shape, the operation failed on both or succeeded on both. -/
theorem alike_cases {ε : Type u} {x y : Except ε Disk} (h : x.map shape = y.map shape) :
    ComeOutAlike (fun d d' ↦ d.shape = d'.shape) x y := by
  cases x with
  | error failure =>
    cases y with
    | error other =>
      cases h
      exact .inl ⟨failure, rfl, rfl⟩
    | ok d' => cases h
  | ok d =>
    cases y with
    | error other => cases h
    | ok d' => exact .inr ⟨d, d', rfl, rfl, Except.ok.inj h⟩

/-- On disks of the same shape a file is written on both or on none, whatever it shall hold. -/
theorem write_alike (h : d.shape = d'.shape) (bytes bytes' : List UInt8) :
    (d.write path bytes).map shape = (d'.write path bytes').map shape := by
  rw [← write_shape, ← write_shape, h]

private theorem replace_alike (h : d.shape = d'.shape) (target : Path) :
    (d.replace path target).map shape = (d'.replace path target).map shape := by
  rw [← replace_shape, ← replace_shape, h]

private theorem remove_alike (h : d.shape = d'.shape) :
    (d.remove path).shape = (d'.remove path).shape := by
  rw [← remove_shape, ← remove_shape, h]

/-- On disks of one shape a folder is found or made alike. -/
theorem ensureFolder_alike (h : d.shape = d'.shape) :
    (d.ensureFolder path).map shape = (d'.ensureFolder path).map shape := by
  rw [← ensureFolder_shape, ← ensureFolder_shape, h]

end Disk

namespace Vault

variable {d d' : Disk}

private theorem giveUp_alike (h : d.shape = d'.shape) (temporary : Path) (cleanupFails : Bool) :
    (giveUp d temporary cleanupFails).shape = (giveUp d' temporary cleanupFails).shape := by
  unfold giveUp
  split
  · exact h
  · exact Disk.remove_alike temporary h

/-- Saving on disks of the same shape leaves disks of the same shape and fails for the same reason,
whatever is saved. -/
theorem save_alike (v : Vault) (h : d.shape = d'.shape) (text text' : String) (serial : Nat)
    (trouble : Option SaveTrouble) :
    (v.save d text serial trouble).1.shape = (v.save d' text' serial trouble).1.shape ∧
      (v.save d text serial trouble).2 = (v.save d' text' serial trouble).2 := by
  unfold save
  split
  · exact ⟨h, rfl⟩
  · dsimp only
    split
    · exact ⟨giveUp_alike h _ _, rfl⟩
    · next part _ =>
      refine ⟨giveUp_alike ?_ _ _, rfl⟩
      cases part with
      | none => exact h
      | some bytes =>
        dsimp only
        obtain ⟨fault, hw, hw'⟩ | ⟨e, e', hw, hw', he⟩ :=
          Disk.alike_cases (Disk.write_alike (v.temporary serial) h bytes bytes)
        · rw [hw, hw']
          exact h
        · rw [hw, hw']
          exact he
    · obtain ⟨fault, hw, hw'⟩ | ⟨e, e', hw, hw', he⟩ :=
        Disk.alike_cases
          (Disk.write_alike (v.temporary serial) h (Text.encode text) (Text.encode text'))
      · rw [hw, hw']
        exact ⟨giveUp_alike h _ _, rfl⟩
      · rw [hw, hw']
        dsimp only
        split
        · exact ⟨giveUp_alike he _ _, rfl⟩
        · obtain ⟨fault, hr, hr'⟩ | ⟨f, f', hr, hr', hf⟩ :=
            Disk.alike_cases (Disk.replace_alike (v.temporary serial) he v.path)
          · rw [hr, hr']
            exact ⟨giveUp_alike he _ _, rfl⟩
          · rw [hr, hr']
            exact ⟨hf, rfl⟩

end Vault
end PersonaChat
