import PersonaChat.Proofs.Store.Apart

/-!
# Stored snapshots are kept

Whatever goes wrong while a registry is saved, the file holds either what it held before or the
whole new text, and nothing but the temporary file of the save may be left besides. Loading never
changes the file; what it cannot understand it copies aside, and no save comes near the copy.

Spec guidance: `SPEC_FULL.md`, lines 190–196.
-/

namespace PersonaChat

namespace Disk

/-! ### What changes on a disk -/

/-- A disk is another one but for what stands at some places, and has the same folders. -/
structure ChangedAt (places : Path → Prop) (d d' : Disk) : Prop where
  /-- No folder comes or goes. -/
  folders : SameFolders d d'
  /-- Elsewhere the same stands. -/
  same : ∀ q, ¬ places q → d'.at? q = d.at? q

variable {d d' d'' : Disk} {path : Path} {places : Path → Prop}

private theorem ChangedAt.refl (places : Path → Prop) (d : Disk) : ChangedAt places d d where
  folders := fun _ ↦ Iff.rfl
  same := fun _ _ ↦ rfl

private theorem ChangedAt.trans (h : ChangedAt places d d') (h' : ChangedAt places d' d'') :
    ChangedAt places d d'' where
  folders := h.folders.trans h'.folders
  same := fun q hq ↦ (h'.same q hq).trans (h.same q hq)

/-- Among the same folders a path leads to a place or does not. -/
theorem SameFolders.locate_iff (h : SameFolders d d') {q : Path} :
    d'.locate path = .ok q ↔ d.locate path = .ok q :=
  ⟨h.symm.locate, h.locate⟩

/-- A file that is written changes what stands where its path leads. -/
theorem changedAt_write {bytes : List UInt8} (h : d.write path bytes = .ok d')
    (hplaces : ∀ q, d.locate path = .ok q → places q) : ChangedAt places d d' := by
  obtain ⟨place, hplace, hfree, rfl⟩ := write_eq_ok_iff.mp h
  refine ⟨sameFolders_put hfree bytes, fun q hq ↦ at?_put_of_ne ?_ _⟩
  rintro rfl
  exact hq (hplaces q hplace)

/-- So does a file that is removed. -/
theorem changedAt_remove (d : Disk) (hplaces : ∀ q, d.locate path = .ok q → places q) :
    ChangedAt places d (d.remove path) := by
  refine ⟨sameFolders_remove d path, fun q hq ↦ ?_⟩
  cases hl : d.locate path with
  | error fault => rw [remove, hl]
  | ok place =>
    rw [at?_remove_of_locate hl, if_neg]
    rintro ⟨rfl, -⟩
    exact hq (hplaces q hl)

/-- No file is seen where one was removed. -/
theorem look_remove_ne_file (d : Disk) (path : Path) (bytes : List UInt8) :
    (d.remove path).look path ≠ .ok (.file bytes) := by
  intro h
  obtain ⟨q, hl, hat⟩ := look_eq_ok_iff.mp h
  rw [at?_remove_of_locate ((sameFolders_remove d path).locate_iff.mp hl)] at hat
  split at hat
  · cases hat
  · next hstays =>
    refine hstays ⟨rfl, fun hfolder ↦ ?_⟩
    rw [hfolder] at hat
    cases hat

/-- A name in a folder is reached alike on disks with the same folders, or not for the same
reason. -/
theorem SameFolders.locate_concat_eq (h : SameFolders d d') {folder passed : Path}
    (hl : d.locate folder = .ok passed) (hat : d.at? passed = some .folder) (name : String) :
    d'.locate (folder ++ [name]) = d.locate (folder ++ [name]) := by
  have henter : d'.enter passed name = d.enter passed name := by
    unfold enter
    rw [hat, (h passed).mp hat]
  have hl' := h.locate hl
  unfold Disk.locate at hl hl' ⊢
  split at hl
  · cases hl
  · next hshort =>
    rw [if_neg hshort] at hl'
    split
    · rfl
    · rw [List.foldlM_append, List.foldlM_append, hl, hl']
      show [name].foldlM d'.enter passed = [name].foldlM d.enter passed
      rw [List.foldlM_cons, List.foldlM_cons, henter]
      rfl

/-- Where what stands at the end of a path is the same, the same is seen there. -/
theorem look_eq_of_locate_eq (hl : d'.locate path = d.locate path)
    (hat : ∀ q, d.locate path = .ok q → d'.at? q = d.at? q) : d'.look path = d.look path := by
  unfold look
  rw [hl]
  cases hq : d.locate path with
  | error fault => rfl
  | ok q =>
    simp only [bind, Except.bind]
    rw [hat q hq]

/-- Where nothing changes every path leads to the same place. -/
theorem locate_eq_of_at?_eq (h : ∀ q, d'.at? q = d.at? q) (path : Path) :
    d'.locate path = d.locate path := by
  have henter : d'.enter = d.enter := by
    funext passed part
    unfold enter
    rw [h]
  unfold locate
  rw [henter]

/-- Nothing is seen where nothing stands. -/
theorem look_of_at?_none {q : Path} (hl : d.locate path = .ok q) (hat : d.at? q = none) :
    d.look path = .error .missing := by
  rw [look, hl]
  simp only [bind, Except.bind, hat]
  rfl

end Disk

/-! ### Places in the folder of a vault -/

namespace Vault

open Disk

/-- A vault whose file has a name, in whatever folder. -/
structure Plain (v : Vault) : Prop where
  /-- The file stands in the folder itself. -/
  single : v.file = [v.name]
  /-- The name does not lead upward. -/
  level : v.name ≠ upward
  /-- The name is one that files can have. -/
  nameable : isUnnameable v.name = false

variable {v : Vault} {d d' : Disk}

/-- The file `config.json` in any folder. -/
theorem plain_config (folder : Path) : Plain ⟨folder, ["config.json"]⟩ where
  single := rfl
  level := (by decide : "config.json" ≠ upward)
  nameable := (by decide : isUnnameable "config.json" = false)

/-- The stem is written in the characters of the name. -/
private theorem mem_name_of_mem_stem {c : Char} (h : c ∈ v.stem.toList) : c ∈ v.name.toList := by
  unfold stem at h
  split at h
  · next extension rest hcut =>
    split at h
    · exact h
    · rw [String.toList_ofList, List.mem_reverse] at h
      rw [← List.mem_reverse, (Text.eq_of_cutAt? hcut).1]
      exact List.mem_append_right _ (List.mem_cons_of_mem _ h)
  · exact h

namespace Plain

variable (hv : v.Plain)

include hv

private theorem path_eq : v.path = v.folder ++ [v.name] := by rw [path, ← hv.single]

private theorem nameable_stem : isUnnameable v.stem = false := by
  have hname := hv.nameable
  rw [isUnnameable, ← Bool.not_eq_true, List.contains_iff_mem] at hname ⊢
  exact fun h ↦ hname (mem_name_of_mem_stem h)

private theorem nameable_file : v.file.any isUnnameable = false := by
  rw [hv.single]
  simpa using hv.nameable

/-- The temporary file of a save and the file are in different places. -/
theorem locate_path_ne {q : Path} {serial : Nat} (hq : d.locate (v.temporary serial) = .ok q) :
    d.locate v.path ≠ .ok q := by
  intro hpath
  obtain ⟨passed, -, -, rfl⟩ := locate_concat_name (temporary_ne_upward v serial) hq
  rw [hv.path_eq] at hpath
  obtain ⟨other, -, -, heq⟩ := locate_concat_name hv.level hpath
  exact temporary_ne_name v serial (List.singleton_inj.mp (List.append_inj_right' heq rfl))

end Plain

/-! ### One save -/

/-- What a save that succeeded has done. -/
structure Saved (v : Vault) (d d' : Disk) (text : String) (serial : Nat) : Prop where
  /-- The file holds the whole text. -/
  stored : d'.look v.path = .ok (.file (Text.encode text))
  /-- The temporary file is gone. -/
  swept : d'.look (v.temporary serial) = .error .missing
  /-- Nothing else has changed. -/
  others : ∀ q, d.locate v.path ≠ .ok q → d.locate (v.temporary serial) ≠ .ok q →
    d'.at? q = d.at? q

/-- What a save that failed has done, if its temporary file may stay. -/
structure Spared (v : Vault) (d d' : Disk) (serial : Nat) (stays : Bool) : Prop where
  /-- The file is what it was. -/
  kept : d'.look v.path = d.look v.path
  /-- Nothing but the temporary file has changed. -/
  others : ∀ q, d.locate (v.temporary serial) ≠ .ok q → d'.at? q = d.at? q
  /-- The temporary file is gone, unless it could not be removed. -/
  swept : stays = false → ∀ bytes, d'.look (v.temporary serial) ≠ .ok (.file bytes)

variable {text : String} {serial : Nat} {trouble : Option SaveTrouble}

/-- A save that succeeds changes the file and its temporary file. -/
private theorem changedAt_save_of_ok (h : v.save d text serial trouble = (d', .ok ())) :
    ChangedAt (fun q ↦ d.locate v.path = .ok q ∨ d.locate (v.temporary serial) = .ok q) d d' := by
  obtain ⟨written, hwritten, hmoved, -⟩ := save_eq_ok h
  obtain ⟨moved, hmove, rfl⟩ := moved_of_write_replace hwritten hmoved
  have hfirst := changedAt_write hwritten fun q hq ↦
    show d.locate v.path = .ok q ∨ d.locate (v.temporary serial) = .ok q from .inr hq
  have hboth := hfirst.trans (changedAt_write hmove fun q hq ↦
    .inl (hfirst.folders.locate_iff.mp hq))
  exact hboth.trans (changedAt_remove moved fun q hq ↦ .inr (hboth.folders.locate_iff.mp hq))

/-- A save that gives up changes its temporary file. -/
private theorem changedAt_giveUp {e : Disk} (stays : Bool)
    (he : e = d ∨ ∃ bytes, d.write (v.temporary serial) bytes = .ok e) :
    ChangedAt (fun q ↦ d.locate (v.temporary serial) = .ok q) d
      (giveUp e (v.temporary serial) stays) := by
  have hwritten : ChangedAt (fun q ↦ d.locate (v.temporary serial) = .ok q) d e := by
    obtain rfl | ⟨bytes, hw⟩ := he
    · exact .refl _ _
    · exact changedAt_write hw fun q hq ↦ hq
  unfold giveUp
  split
  · exact hwritten
  · exact hwritten.trans (changedAt_remove e fun q hq ↦ hwritten.folders.locate_iff.mp hq)

/-- No save changes more than the file and its own temporary file. -/
theorem changedAt_save (v : Vault) (d : Disk) (text : String) (serial : Nat)
    (trouble : Option SaveTrouble) :
    ChangedAt (fun q ↦ d.locate v.path = .ok q ∨ d.locate (v.temporary serial) = .ok q) d
      (v.save d text serial trouble).1 := by
  by_cases hn : isUnnameable v.stem = true
  · rw [save, if_pos hn]
    exact .refl _ _
  · rw [Bool.not_eq_true] at hn
    obtain ⟨d', hs⟩ | ⟨e, message, hs, he⟩ := save_cases hn d text serial trouble
    · rw [hs]
      exact changedAt_save_of_ok hs
    · rw [hs]
      have hgiven := changedAt_giveUp ((trouble.map SaveTrouble.cleanupFails).getD false) he
      exact ⟨hgiven.folders, fun q hq ↦ hgiven.same q fun ht ↦ hq (.inr ht)⟩

/-- A save that succeeds stores the whole text, removes its temporary file and changes nothing
else. -/
theorem saved_of_ok (h : v.save d text serial trouble = (d', .ok ())) :
    v.Saved d d' text serial := by
  have hchanged := changedAt_save_of_ok h
  refine ⟨look_of_save h, ?_, fun q hp ht ↦ hchanged.same q fun hq ↦ hq.elim hp ht⟩
  obtain ⟨written, hwritten, hmoved, -⟩ := save_eq_ok h
  obtain ⟨moved, hmove, rfl⟩ := moved_of_write_replace hwritten hmoved
  obtain ⟨place, hplace, hfree, -⟩ := write_eq_ok_iff.mp hwritten
  have hl := hchanged.folders.locate hplace
  have hswept := (sameFolders_remove moved (v.temporary serial))
  refine look_of_at?_none hl ?_
  rw [at?_remove_of_locate (hswept.locate_iff.mp hl), if_pos]
  exact ⟨rfl, fun hfolder ↦ hfree ((hchanged.folders place).mpr ((hswept place).mp hfolder))⟩

namespace Plain

variable (hv : v.Plain)

include hv

/-- What changes the temporary file only leaves the file as it was. -/
private theorem look_path_eq
    (h : ChangedAt (fun q ↦ d.locate (v.temporary serial) = .ok q) d d') :
    d'.look v.path = d.look v.path := by
  cases hl : d.locate (v.temporary serial) with
  | error fault =>
    have hsame (q : Path) : d'.at? q = d.at? q := h.same q (by simp [hl])
    exact look_eq_of_locate_eq (locate_eq_of_at?_eq hsame _) fun q _ ↦ hsame q
  | ok place =>
    obtain ⟨passed, hfolder, hat, -⟩ := locate_concat_name (temporary_ne_upward v serial) hl
    refine look_eq_of_locate_eq ?_ fun q hq ↦ h.same q fun ht ↦ hv.locate_path_ne ht hq
    rw [hv.path_eq]
    exact h.folders.locate_concat_eq hfolder hat v.name

/-- A save stores the whole text, or refuses with an error of its own and spares the file. -/
theorem saved_or_spared (d : Disk) (text : String) (serial : Nat) (trouble : Option SaveTrouble) :
    ∃ d', (v.save d text serial trouble = (d', .ok ()) ∧ v.Saved d d' text serial) ∨
      ∃ message, v.save d text serial trouble = (d', .error (unwritable message)) ∧
        v.Spared d d' serial ((trouble.map SaveTrouble.cleanupFails).getD false) := by
  obtain ⟨d', hs⟩ | ⟨e, message, hs, he⟩ := save_cases hv.nameable_stem d text serial trouble
  · exact ⟨d', .inl ⟨hs, saved_of_ok hs⟩⟩
  · have hgiven := changedAt_giveUp ((trouble.map SaveTrouble.cleanupFails).getD false) he
    refine ⟨_, .inr ⟨message, hs, hv.look_path_eq hgiven, hgiven.same, fun hstays bytes ↦ ?_⟩⟩
    rw [giveUp, hstays, if_neg Bool.false_ne_true]
    exact look_remove_ne_file e _ bytes

end Plain

/-! ### Copies -/

/-- Saves one after the other, each with its text, its number and its trouble. -/
def saveAll (v : Vault) (d : Disk) (saves : List (String × Nat × Option SaveTrouble)) : Disk :=
  saves.foldl (fun d (text, serial, trouble) ↦ (v.save d text serial trouble).1) d

/-- What stands neither in the place of the file nor in that of a temporary file stays through all
saves. -/
theorem changedAt_saveAll (v : Vault) (d : Disk)
    (saves : List (String × Nat × Option SaveTrouble)) :
    ChangedAt (fun q ↦ d.locate v.path = .ok q ∨ ∃ serial, d.locate (v.temporary serial) = .ok q) d
      (v.saveAll d saves) := by
  refine List.foldlRecOn saves _ (.refl _ d) fun e he save _ ↦ ?_
  obtain ⟨text, serial, trouble⟩ := save
  have hsave := v.changedAt_save e text serial trouble
  refine he.trans ⟨hsave.folders, fun q hq ↦ hsave.same q ?_⟩
  rintro (hpath | htemporary)
  · exact hq (.inl (he.folders.locate_iff.mp hpath))
  · exact hq (.inr ⟨serial, he.folders.locate_iff.mp htemporary⟩)

/-- The copy has another name than the file. -/
theorem backupName_ne_name (v : Vault) (time : Calendar) : v.name ≠ v.backupName time := by
  intro h
  have hdot : '.' ∈ "corrupt-".toList ++ (time.stamp.toList ++ ".json".toList) :=
    List.mem_append_right _ (List.mem_append_right _ (by decide))
  refine v.name_ne_of_dotted hdot ?_
  rw [h]
  simp [backupName, String.toList_append]

/-- The copy has another name than a temporary file. -/
theorem backupName_ne_temporary (v : Vault) (time : Calendar) (serial : Nat) :
    v.stem ++ "." ++ String.ofList (serialChars serial) ++ ".json.tmp" ≠ v.backupName time := by
  intro h
  have hlast := congrArg (fun s ↦ s.toList.getLast?) h
  simp [backupName, String.toList_append, List.getLast?_cons, List.getLast?_append] at hlast

private theorem backupName_ne_upward (v : Vault) (time : Calendar) :
    v.backupName time ≠ upward := by
  intro h
  have hlength := congrArg (List.length ∘ String.toList) h
  simp [backupName, upward, String.toList_append] at hlength
  omega

/-- Without trouble what the file holds is written where the copy goes. -/
private theorem copy_of_read {name : String} {bytes : List UInt8}
    (hr : d.read v.path = .ok bytes) :
    v.copy d name none = match d.write (v.copyPath d name) bytes with
      | .ok d => (d, true)
      | .error _ => (d, false) := by
  unfold copy
  rw [hr]
  rfl

private theorem copy_of_read_error {name : String} {fault : DiskFault}
    (hr : d.read v.path = .error fault) : v.copy d name none = (d, false) := by
  unfold copy
  rw [hr]
  rfl

private theorem read_of_look {path : Path} {bytes : List UInt8}
    (hl : d.look path = .ok (.file bytes)) : d.read path = .ok bytes := by
  rw [Disk.read, hl]

/-- A copy changes what stands where it goes. -/
theorem changedAt_copy (v : Vault) (d : Disk) (name : String) (trouble : Option CopyTrouble) :
    ChangedAt (fun q ↦ d.locate (v.copyPath d name) = .ok q) d (v.copy d name trouble).1 := by
  have written {bytes : List UInt8} {d' : Disk} (hw : d.write (v.copyPath d name) bytes = .ok d') :
      ChangedAt (fun q ↦ d.locate (v.copyPath d name) = .ok q) d d' :=
    changedAt_write hw fun q hq ↦ hq
  rcases trouble with _ | ⟨_ | bytes⟩
  · cases hr : d.read v.path with
    | error fault =>
      rw [copy_of_read_error hr]
      exact .refl _ d
    | ok bytes =>
      rw [copy_of_read hr]
      cases hw : d.write (v.copyPath d name) bytes with
      | error fault => exact .refl _ d
      | ok d' => exact written hw
  · exact .refl _ d
  · show ChangedAt _ d ((d.write (v.copyPath d name) bytes).toOption.getD d)
    cases hw : d.write (v.copyPath d name) bytes with
    | error fault => exact .refl _ d
    | ok d' => exact written hw

/-- A copy that is made holds what the file holds. -/
theorem look_of_copy {bytes : List UInt8} {name : String} {trouble : Option CopyTrouble}
    (hl : d.look v.path = .ok (.file bytes)) (h : (v.copy d name trouble).2 = true) :
    (v.copy d name trouble).1.look (v.copyPath d name) = .ok (.file bytes) := by
  rcases trouble with _ | ⟨_ | part⟩
  · rw [copy_of_read (read_of_look hl)] at h ⊢
    cases hw : d.write (v.copyPath d name) bytes with
    | error fault =>
      rw [hw] at h
      cases h
    | ok d' =>
      obtain ⟨place, hplace, hfree, rfl⟩ := write_eq_ok_iff.mp hw
      exact look_of_locate ((sameFolders_put hfree bytes).locate hplace) (at?_put_self hfree _)
  · cases h
  · cases h

/-- Without trouble a copy is made, unless no file can be written where it goes. -/
theorem write_eq_error_of_copy {bytes : List UInt8} {name : String}
    (hl : d.look v.path = .ok (.file bytes)) (h : (v.copy d name none).2 = false) :
    ∃ fault, d.write (v.copyPath d name) bytes = .error fault := by
  rw [copy_of_read (read_of_look hl)] at h
  cases hw : d.write (v.copyPath d name) bytes with
  | error fault => exact ⟨fault, rfl⟩
  | ok d' =>
    rw [hw] at h
    cases h

namespace Plain

variable (hv : v.Plain)

include hv

/-- The copy goes to another place than any name in the folder but its own. -/
theorem locate_copyPath_ne {time : Calendar} {q : Path}
    (hq : d.locate (v.copyPath d (v.backupName time)) = .ok q) {other : String}
    (hup : other ≠ upward) (hne : other ≠ v.backupName time) :
    d.locate (v.folder ++ [other]) ≠ .ok q := by
  intro hother
  obtain ⟨passed, hfolder, -, rfl⟩ := locate_concat_name hup hother
  unfold copyPath at hq
  split at hq
  · -- The copy goes into a folder, so its place is one step further down.
    have hinside : d.locate ((v.folder ++ [v.backupName time]) ++ [v.name]) =
        .ok (passed ++ [other]) := by
      rwa [List.append_assoc]
    obtain ⟨within, hwithin, -, hplace⟩ := locate_concat_name hv.level hinside
    obtain ⟨again, hagain, -, rfl⟩ := locate_concat_name (v.backupName_ne_upward time) hwithin
    rw [hfolder] at hagain
    cases hagain
    have hlength := congrArg List.length hplace
    simp at hlength
  · obtain ⟨again, -, -, hplace⟩ := locate_concat_name (v.backupName_ne_upward time) hq
    exact hne (List.singleton_inj.mp (List.append_inj_right' hplace rfl))

/-- A copy leaves the file as it is. -/
theorem look_path_copy {bytes : List UInt8} (time : Calendar) (trouble : Option CopyTrouble)
    (hl : d.look v.path = .ok (.file bytes)) :
    (v.copy d (v.backupName time) trouble).1.look v.path = .ok (.file bytes) := by
  have hchanged := v.changedAt_copy d (v.backupName time) trouble
  obtain ⟨q, hq, hat⟩ := look_eq_ok_iff.mp hl
  refine look_eq_ok_iff.mpr
    ⟨q, hchanged.folders.locate hq, (hchanged.same q fun hcopy ↦ ?_).trans hat⟩
  rw [hv.path_eq] at hq
  exact hv.locate_copyPath_ne hcopy hv.level (v.backupName_ne_name time) hq

/-- A copy that was made stays as it is through all saves. -/
theorem look_copy_saveAll {bytes : List UInt8} {time : Calendar} {trouble : Option CopyTrouble}
    (hl : d.look v.path = .ok (.file bytes))
    (hmade : (v.copy d (v.backupName time) trouble).2 = true)
    (saves : List (String × Nat × Option SaveTrouble)) :
    (v.saveAll (v.copy d (v.backupName time) trouble).1 saves).look
      (v.copyPath d (v.backupName time)) = .ok (.file bytes) := by
  have hcopied := v.changedAt_copy d (v.backupName time) trouble
  have hsaved := v.changedAt_saveAll (v.copy d (v.backupName time) trouble).1 saves
  obtain ⟨q, hq, hat⟩ := look_eq_ok_iff.mp (look_of_copy hl hmade)
  have hplace := hcopied.folders.locate_iff.mp hq
  refine look_eq_ok_iff.mpr ⟨q, hsaved.folders.locate hq, (hsaved.same q ?_).trans hat⟩
  rintro (hpath | ⟨serial, htemporary⟩)
  · rw [hv.path_eq] at hpath
    exact hv.locate_copyPath_ne hplace hv.level (v.backupName_ne_name time)
      (hcopied.folders.locate_iff.mp hpath)
  · exact hv.locate_copyPath_ne hplace (temporary_ne_upward v serial)
      (v.backupName_ne_temporary time serial) (hcopied.folders.locate_iff.mp htemporary)

end Plain

/-! ### Loading -/

/-- Why bytes hold no snapshot. -/
inductive Unacceptable (bytes : List UInt8) : Prop where
  /-- They are not UTF-8. -/
  | notText (undecoded : Text.decodeStrict? bytes = none)
  /-- The text is no JSON. -/
  | notJson {text : String} (decoded : Text.decodeStrict? bytes = some text)
      (unparsed : Json.parse? text = none)
  /-- The value is no object. -/
  | notObject {text : String} {j : Json} (decoded : Text.decodeStrict? bytes = some text)
      (parsed : Json.parse? text = some j) (other : j.isObject = false)
  /-- The object is none of a registry, or that of a persona or a message in it is not. -/
  | rejected {text : String} {j : Json} {fault : SnapshotFault}
      (decoded : Text.decodeStrict? bytes = some text) (parsed : Json.parse? text = some j)
      (object : j.isObject = true) (refused : Registry.ofJson j = .error fault)

/-- Bytes are understood unless they are unacceptable. -/
theorem decode?_eq_none_iff {bytes : List UInt8} : decode? bytes = none ↔ Unacceptable bytes := by
  constructor
  · intro h
    cases hd : Text.decodeStrict? bytes with
    | none => exact .notText hd
    | some text =>
      cases hj : Json.parse? text with
      | none => exact .notJson hd hj
      | some j =>
        have hr : (Registry.ofJson j).toOption = none := by simpa [decode?, hd, hj] using h
        cases hobject : j.isObject with
        | false => exact .notObject hd hj hobject
        | true =>
          cases hread : Registry.ofJson j with
          | error fault => exact .rejected hd hj hobject hread
          | ok snapshot =>
            rw [hread] at hr
            cases hr
  · intro h
    cases h with
    | notText hd => simp [decode?, hd]
    | notJson hd hj => simp [decode?, hd, hj]
    | notObject hd hj hobject =>
      simp [decode?, hd, hj, Registry.ofJson, hobject, Except.toOption]
    | rejected hd hj _ hread => simp [decode?, hd, hj, hread, Except.toOption]

/-- The snapshot file is loaded as its bytes are understood. -/
theorem Plain.load_eq (hv : v.Plain) {bytes : List UInt8} (hl : d.look v.path = .ok (.file bytes))
    (default : Snapshot) (now : Int) (trouble : Option CopyTrouble) :
    v.loadDespite d default now trouble = match decode? bytes with
      | some snapshot => .ok (d, some (snapshot.withDefaults default), [])
      | none => do
        let time ← (Calendar.onLocalClock now).mapError LoadFault.badTime
        let (d, records) := v.keepAside d time trouble
        return (d, none, records) := by
  have hfind : v.find d = .ok (some (.file bytes)) := by
    rw [find, hv.nameable_file, hl]
    rfl
  rw [loadDespite, hfind]
  simp only [bind, Except.bind, understood?]
  cases decode? bytes <;> rfl

/-- On every disk and wherever it fails, a save stores the whole text and leaves no temporary file,
or refuses as a failure of persistence, with the file as it was and at most its own temporary file
left when that could not be removed; nothing else is touched. Loading leaves the file as it is,
whatever bytes it holds. If they are unacceptable it gives no snapshot, so that the default stands,
and copies them aside: if the copy can be made it holds these bytes through all saves to come, and
without trouble it can be made wherever a file can be written. -/
theorem no_snapshot_is_lost (hv : v.Plain) (d : Disk) :
    (∀ text serial trouble, ∃ d',
      (v.save d text serial trouble = (d', .ok ()) ∧ v.Saved d d' text serial) ∨
      ∃ message, v.save d text serial trouble =
          (d', .error (.refused (.make .persistence "STORE_WRITE_ERROR" message))) ∧
        v.Spared d d' serial ((trouble.map SaveTrouble.cleanupFails).getD false)) ∧
    ∀ bytes default now trouble, d.look v.path = .ok (.file bytes) →
      (¬ Unacceptable bytes → ∃ snapshot, decode? bytes = some snapshot ∧
        v.loadDespite d default now trouble = .ok (d, some (snapshot.withDefaults default), [])) ∧
      (Unacceptable bytes → ∀ time, Calendar.onLocalClock now = .ok time →
        ∃ d' records, v.loadDespite d default now trouble = .ok (d', none, records) ∧
          d'.look v.path = .ok (.file bytes) ∧
          ((v.copy d (v.backupName time) trouble).2 = true →
            records = [keptRecord (some (v.backupName time))] ∧ ∀ saves,
              (v.saveAll d' saves).look (v.copyPath d (v.backupName time)) = .ok (.file bytes)) ∧
          (trouble = none → (v.copy d (v.backupName time) trouble).2 = false →
            ∃ fault, d.write (v.copyPath d (v.backupName time)) bytes = .error fault)) := by
  refine ⟨fun text serial trouble ↦ hv.saved_or_spared d text serial trouble,
    fun bytes default now trouble hl ↦ ⟨fun haccept ↦ ?_, fun hrefuse time ht ↦ ?_⟩⟩
  · rw [← decode?_eq_none_iff] at haccept
    obtain ⟨snapshot, hs⟩ := Option.ne_none_iff_exists'.mp haccept
    exact ⟨snapshot, hs, by rw [hv.load_eq hl, hs]⟩
  · have hload : v.loadDespite d default now trouble =
        .ok ((v.keepAside d time trouble).1, none, (v.keepAside d time trouble).2) := by
      rw [hv.load_eq hl, decode?_eq_none_iff.mpr hrefuse, ht]
      rfl
    refine ⟨_, _, hload, hv.look_path_copy time trouble hl, fun hmade ↦ ⟨?_, ?_⟩, ?_⟩
    · exact if_pos hmade
    · exact hv.look_copy_saveAll hl hmade
    · rintro rfl hfailed
      exact write_eq_error_of_copy hl hfailed

/-- A file that is no JSON is copied aside; the copy outlives a save that succeeds and one that
leaves half a temporary file. -/
theorem no_snapshot_is_lost_of_half_a_file :
    let v : Vault := ⟨["data"], ["config.json"]⟩
    let bytes := Text.encode "\x7b\"agents\""
    let d : Disk := [(["data"], .folder), (["data", "config.json"], .file bytes)]
    let default : Snapshot := .initial ⟨.str "", .str ""⟩ (.str "") (.str "")
    let saves : List (String × Nat × Option SaveTrouble) :=
      [("new", 1, none), ("newer", 2, some ⟨.writing (some [110]), true⟩)]
    v.Plain ∧ d.look v.path = .ok (.file bytes) ∧ Unacceptable bytes ∧
      Calendar.onLocalClock 0 = .ok ⟨1970, 1, 1, 0, 0, 0⟩ ∧
      ∃ d' records, v.loadDespite d default 0 none = .ok (d', none, records) ∧
        (v.saveAll d' saves).look ["data", "config.corrupt-19700101000000.json"] =
          .ok (.file bytes) := by
  intro v bytes d default saves
  have hv : v.Plain := plain_config ["data"]
  have hl : d.look v.path = .ok (.file bytes) := rfl
  have hrefuse : Unacceptable bytes := .notJson (decodeStrict?_encode _) (by decide)
  have ht : Calendar.onLocalClock 0 = .ok ⟨1970, 1, 1, 0, 0, 0⟩ := rfl
  have hmade : (v.copy d (v.backupName ⟨1970, 1, 1, 0, 0, 0⟩) none).2 = true := by decide +kernel
  have hpath : v.copyPath d (v.backupName ⟨1970, 1, 1, 0, 0, 0⟩) =
      ["data", "config.corrupt-19700101000000.json"] := by decide +kernel
  obtain ⟨d', records, hload, -, hkept, -⟩ :=
    ((no_snapshot_is_lost hv d).2 bytes default 0 none hl).2 hrefuse _ ht
  rw [hpath] at hkept
  exact ⟨hv, hl, hrefuse, ht, d', records, hload, (hkept hmade).2 saves⟩

end Vault
end PersonaChat
