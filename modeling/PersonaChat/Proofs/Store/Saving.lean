import PersonaChat.Proofs.Registry.Snapshot
import PersonaChat.Store.Vault

/-!
# A save leaves its text in the file

Writing and removing files changes no folder, so a path leads to the same place before and after. A
save that succeeds has written its text to a temporary file, whose name is never that of the file,
and moved it into place; so the file then holds the text, and loading gives back the registry that
was saved.

Spec guidance: `SPEC_FULL.md`, lines 195–196.
-/

namespace PersonaChat

open Text

/-- What stands before a cut and after it. -/
theorem Text.eq_of_cutAt? {mark : Char} {cs before after : List Char}
    (h : cutAt? mark cs = some (before, after)) :
    cs = before ++ mark :: after ∧ mark ∉ before := by
  induction cs generalizing before with
  | nil => cases h
  | cons c cs ih =>
    unfold cutAt? at h
    split at h
    · next hc =>
      cases h
      exact ⟨by rw [hc]; rfl, List.not_mem_nil⟩
    · next hc =>
      obtain ⟨⟨head, tail⟩, hcut, heq⟩ := Option.map_eq_some_iff.mp h
      cases heq
      obtain ⟨rfl, hmem⟩ := ih hcut
      refine ⟨rfl, ?_⟩
      rw [List.mem_cons, not_or]
      exact ⟨Ne.symm hc, hmem⟩

namespace Disk

/-! ### Folders -/

/-- The same folders stand on two disks. -/
def SameFolders (d d' : Disk) : Prop :=
  ∀ path, d.at? path = some .folder ↔ d'.at? path = some .folder

variable {d d' : Disk} {place path : Path}

/-- Disks with the same folders as a third have the same folders. -/
theorem SameFolders.trans {d'' : Disk} (h : SameFolders d d') (h' : SameFolders d' d'') :
    SameFolders d d'' := fun path ↦ (h path).trans (h' path)

/-- Disks have the same folders either way. -/
theorem SameFolders.symm (h : SameFolders d d') : SameFolders d' d := fun path ↦ (h path).symm

/-- Where no folder stands the path leads down. -/
private theorem not_leadsUp (h : d.at? place ≠ some .folder) : ¬ leadsUp place = true := by
  intro hup
  rw [at?, if_pos hup] at h
  exact h rfl

/-- A file that is written stands in its place. -/
theorem at?_put_self (h : d.at? place ≠ some .folder) (entry : DiskEntry) :
    at? (Keyed.put place entry d) place = some entry := by
  rw [at?, if_neg (not_leadsUp h), Keyed.get?_put_self]

/-- Putting something in one place leaves the others alone. -/
theorem at?_put_of_ne (h : path ≠ place) (entry : DiskEntry) :
    at? (Keyed.put place entry d) path = d.at? path := by
  unfold at?
  rw [Keyed.get?_put_of_ne h]

private theorem at?_erase_of_ne (h : path ≠ place) :
    at? (Keyed.erase place d) path = d.at? path := by
  unfold at?
  rw [Keyed.get?_erase_of_ne h]

/-- What is removed is gone. -/
theorem at?_erase_self (h : d.at? place ≠ some .folder) :
    at? (Keyed.erase place d) place = none := by
  rw [at?, if_neg (not_leadsUp h), Keyed.get?_erase_self]

/-- Writing a file where no folder stands changes no folder. -/
theorem sameFolders_put (h : d.at? place ≠ some .folder) (bytes : List UInt8) :
    SameFolders d (Keyed.put place (.file bytes) d) := by
  intro path
  by_cases hp : path = place
  · rw [hp, at?_put_self h]
    exact ⟨fun hf ↦ absurd hf h, nofun⟩
  · rw [at?_put_of_ne hp]

/-- A file that is removed is gone; a folder and everything else stay. -/
theorem at?_remove_of_locate (hl : d.locate path = .ok place) (q : Path) :
    (d.remove path).at? q =
      if q = place ∧ d.at? place ≠ some .folder then none else d.at? q := by
  unfold remove
  rw [hl]
  dsimp only
  by_cases hq : q = place
  · subst hq
    rcases hat : d.at? q with _ | bytes | _
    · simp [hat]
    · rw [at?_erase_self (by simp [hat])]
      simp
    · simp [hat]
  · rw [if_neg fun h ↦ hq h.1]
    split
    · exact at?_erase_of_ne hq
    · rfl

/-- Removing a file changes no folder. -/
theorem sameFolders_remove (d : Disk) (path : Path) : SameFolders d (d.remove path) := by
  cases hl : d.locate path with
  | error fault =>
    rw [remove, hl]
    exact fun q ↦ Iff.rfl
  | ok place =>
    intro q
    rw [at?_remove_of_locate hl]
    split
    · next h =>
      rw [h.1]
      exact iff_of_false h.2 nofun
    · rfl

/-! ### Where paths lead -/

/-- A part of a path is entered from a folder. -/
theorem enter_eq_ok_iff {passed q : Path} {part : String} : d.enter passed part = .ok q ↔
    d.at? passed = some .folder ∧ (part = upward ∧ q = above passed ∨
      part ≠ upward ∧ part.utf8ByteSize ≤ maxPartBytes ∧ q = passed ++ [part]) := by
  unfold enter
  split
  · next hfolder =>
    by_cases hup : part = upward
    · simp [hup, hfolder, eq_comm]
    · by_cases hlong : maxPartBytes < part.utf8ByteSize
      · simp [hup, hlong, Nat.not_le.mpr hlong]
      · simp [hup, hlong, Nat.not_lt.mp hlong, hfolder, eq_comm]
  · next hfile => simp [hfile]
  · next hnone => simp [hnone]

/-- Entering a path is entering its first part and then the others. -/
theorem foldlM_enter_cons {passed q : Path} {part : String} :
    (part :: path).foldlM d.enter passed = .ok q ↔
      ∃ next, d.enter passed part = .ok next ∧ path.foldlM d.enter next = .ok q := by
  rw [List.foldlM_cons]
  cases d.enter passed part with
  | error fault => simp [bind, Except.bind]
  | ok next => simp [bind, Except.bind]

/-- Among the same folders a path leads to the same place. -/
theorem SameFolders.locate (h : SameFolders d d') {q : Path} (hl : d.locate path = .ok q) :
    d'.locate path = .ok q := by
  have hwalk (passed : Path) (hq : path.foldlM d.enter passed = .ok q) :
      path.foldlM d'.enter passed = .ok q := by
    clear hl
    induction path generalizing passed with
    | nil => exact hq
    | cons part path ih =>
      obtain ⟨next, hnext, hrest⟩ := foldlM_enter_cons.mp hq
      refine foldlM_enter_cons.mpr ⟨next, ?_, ih next hrest⟩
      rw [enter_eq_ok_iff] at hnext ⊢
      rwa [← h passed]
  unfold Disk.locate at hl ⊢
  split at hl
  · cases hl
  · next hshort =>
    rw [if_neg hshort]
    exact hwalk [] hl

/-- All folders above a path are there. -/
def Reached (d : Disk) (path : Path) : Prop :=
  ∀ q, q <+: path → q ≠ path → d.at? q = some .folder

private theorem reached_of_leadsUp (h : leadsUp path = true) : Reached d path := by
  intro q hq _
  have hup : leadsUp q = true := by
    rw [leadsUp, List.all_eq_true] at h ⊢
    exact fun part hpart ↦ h part (hq.subset hpart)
  rw [at?, if_pos hup]

/-- Whatever is entered, all folders above it are there. -/
theorem Reached.enter {passed q : Path} {part : String} (h : Reached d passed)
    (he : d.enter passed part = .ok q) : Reached d q := by
  obtain ⟨hfolder, ⟨-, rfl⟩ | ⟨-, -, rfl⟩⟩ := enter_eq_ok_iff.mp he
  · unfold above
    split
    · next hup =>
      apply reached_of_leadsUp
      rw [leadsUp, List.all_append, Bool.and_eq_true]
      exact ⟨hup, rfl⟩
    · intro q hq hne
      have hprefix := hq.trans (List.dropLast_prefix passed)
      refine h q hprefix ?_
      rintro rfl
      exact hne (hq.eq_of_length_le (by simp))
  · intro q hq hne
    rcases List.prefix_concat_iff.mp hq with rfl | hq
    · exact absurd rfl hne
    · by_cases hp : q = passed
      · rw [hp]
        exact hfolder
      · exact h q hq hp

/-- A path leads on from a folder, above which all folders are there. -/
theorem locate_concat {part : String} {q : Path} (h : d.locate (path ++ [part]) = .ok q) :
    ∃ passed, d.locate path = .ok passed ∧ Reached d passed ∧ d.enter passed part = .ok q := by
  have hreached (start passed : Path) (hs : Reached d start)
      (hl : path.foldlM d.enter start = .ok passed) : Reached d passed := by
    clear h
    induction path generalizing start with
    | nil =>
      cases hl
      exact hs
    | cons first path ih =>
      obtain ⟨next, hnext, hrest⟩ := foldlM_enter_cons.mp hl
      exact ih next (hs.enter hnext) hrest
  unfold locate at h
  split at h
  · cases h
  · next hshort =>
    rw [List.foldlM_append] at h
    obtain ⟨passed, hl, hlast⟩ := bind_eq_ok h
    have henter : d.enter passed part = .ok q := by
      obtain ⟨next, hnext, hrest⟩ := foldlM_enter_cons.mp hlast
      cases hrest
      exact hnext
    refine ⟨passed, ?_, hreached [] passed (reached_of_leadsUp rfl) hl, henter⟩
    rw [locate, if_neg, hl]
    rw [pathBytes, List.foldl_append] at hshort
    simp only [List.foldl_cons, List.foldl_nil] at hshort
    rw [pathBytes]
    omega

/-- A path that goes up at its end leads to a folder. -/
theorem at?_of_locate_upward {q : Path} (h : d.locate (path ++ [upward]) = .ok q) :
    d.at? q = some .folder := by
  obtain ⟨passed, -, hreached, henter⟩ := locate_concat h
  obtain ⟨-, ⟨-, rfl⟩ | ⟨hne, -, -⟩⟩ := enter_eq_ok_iff.mp henter
  · unfold above
    split
    · next hup =>
      have hup' : leadsUp (passed ++ [upward]) = true := by
        rw [leadsUp, List.all_append, Bool.and_eq_true]
        exact ⟨hup, rfl⟩
      rw [at?, if_pos hup']
    · next hdown =>
      refine hreached _ (List.dropLast_prefix passed) fun heq ↦ hdown ?_
      have hlength := congrArg List.length heq
      rw [List.length_dropLast] at hlength
      cases passed with
      | nil => rfl
      | cons part passed => simp at hlength
  · exact absurd rfl hne

/-- A path whose last part is a name leads to that name in a folder. -/
theorem locate_concat_name {name : String} {q : Path} (hname : name ≠ upward)
    (h : d.locate (path ++ [name]) = .ok q) :
    ∃ passed, d.locate path = .ok passed ∧ d.at? passed = some .folder ∧ q = passed ++ [name] := by
  obtain ⟨passed, hl, -, henter⟩ := locate_concat h
  obtain ⟨hfolder, ⟨hup, -⟩ | ⟨-, -, rfl⟩⟩ := enter_eq_ok_iff.mp henter
  · exact absurd hup hname
  · exact ⟨passed, hl, hfolder, rfl⟩

/-! ### Writing and moving -/

/-- A file is written where a path leads, unless a folder stands there. -/
theorem write_eq_ok_iff {bytes : List UInt8} : d.write path bytes = .ok d' ↔
    ∃ place, d.locate path = .ok place ∧ d.at? place ≠ some .folder ∧
      d' = Keyed.put place (.file bytes) d := by
  unfold write
  cases d.locate path with
  | error fault => simp [bind, Except.bind]
  | ok place =>
    simp only [bind, Except.bind, Except.ok.injEq, exists_eq_left']
    split
    · next hfolder => simp [hfolder, throw, throwThe, MonadExceptOf.throw]
    · next hfolder =>
      simp only [pure, Except.pure, Except.ok.injEq]
      constructor
      · rintro rfl
        exact ⟨hfolder, rfl⟩
      · rintro ⟨-, rfl⟩
        rfl

/-- What is seen where a path leads. -/
theorem look_of_locate {entry : DiskEntry} (hl : d.locate path = .ok place)
    (h : d.at? place = some entry) : d.look path = .ok entry := by
  rw [look, hl]
  simp only [bind, Except.bind, h]
  rfl

/-- What is seen at a path stands where it leads. -/
theorem look_eq_ok_iff {entry : DiskEntry} :
    d.look path = .ok entry ↔ ∃ q, d.locate path = .ok q ∧ d.at? q = some entry := by
  constructor
  · intro h
    obtain ⟨q, hl, h⟩ := bind_eq_ok h
    split at h
    · next found hfound =>
      cases h
      exact ⟨q, hl, hfound⟩
    · cases h
  · rintro ⟨q, hl, hat⟩
    exact look_of_locate hl hat

/-- A file that was just written is moved by writing its bytes to the new place and removing it. -/
theorem moved_of_write_replace {written : Disk} {source target : Path} {bytes : List UInt8}
    (hw : d.write source bytes = .ok written) (hr : written.replace source target = .ok d') :
    ∃ moved, written.write target bytes = .ok moved ∧ d' = moved.remove source := by
  obtain ⟨place, hplace, hfree, rfl⟩ := write_eq_ok_iff.mp hw
  have hread : read (Keyed.put place (.file bytes) d) source = .ok bytes := by
    rw [read, look_of_locate ((sameFolders_put hfree bytes).locate hplace) (at?_put_self hfree _)]
  rw [replace, hread] at hr
  obtain ⟨_, hbytes, hr⟩ := bind_eq_ok hr
  cases hbytes
  obtain ⟨moved, hm, hd'⟩ := bind_eq_ok hr
  cases hd'
  exact ⟨moved, hm, rfl⟩

/-- A file that is written and then moved to another place stands there with its bytes. -/
theorem look_of_write_replace {written : Disk} {source target : Path} {bytes : List UInt8}
    (hw : d.write source bytes = .ok written) (hr : written.replace source target = .ok d')
    (hne : ∀ q, d.locate source = .ok q → d.locate target ≠ .ok q) :
    d'.look target = .ok (.file bytes) := by
  obtain ⟨moved, hm, rfl⟩ := moved_of_write_replace hw hr
  obtain ⟨place, hplace, hfree, rfl⟩ := write_eq_ok_iff.mp hw
  obtain ⟨goal, hgoal, hopen, rfl⟩ := write_eq_ok_iff.mp hm
  have hsame := sameFolders_put hfree bytes
  have hapart : goal ≠ place := by
    rintro rfl
    exact hne goal hplace (hsame.symm.locate hgoal)
  have hmoved := hsame.trans (sameFolders_put hopen bytes)
  refine look_of_locate ((sameFolders_remove _ _).locate
    (hmoved.locate (hsame.symm.locate hgoal))) ?_
  rw [at?_remove_of_locate (hmoved.locate hplace), if_neg fun h ↦ hapart h.1, at?_put_self hopen]

end Disk

/-! ### The file of a vault -/

namespace Vault

/-- The file has no name that goes on behind its stem with a dot and another dot later. -/
theorem name_ne_of_dotted (v : Vault) {rest : List Char} (hdot : '.' ∈ rest) :
    v.stem.toList ++ '.' :: rest ≠ v.name.toList := by
  intro hlist
  have whole (hstem : v.stem = v.name) : False := by
    have hlength := congrArg List.length hlist
    rw [hstem] at hlength
    simp at hlength
  cases hcut : cutAt? '.' v.name.toList.reverse with
  | none => exact whole (by simp [stem, hcut])
  | some cut =>
    obtain ⟨extension, before⟩ := cut
    by_cases hbare : (extension.isEmpty || before.isEmpty) = true
    · exact whole (by simp only [stem, hcut, hbare, ↓reduceIte])
    · have hstem : v.stem.toList = before.reverse := by
        simp only [stem, hcut, hbare]
        exact String.toList_ofList
      obtain ⟨hreversed, hmem⟩ := eq_of_cutAt? hcut
      have hname : v.name.toList = before.reverse ++ '.' :: extension.reverse := by
        rw [← List.reverse_reverse v.name.toList, hreversed]
        simp
      -- The extension holds no dot.
      rw [hstem, hname] at hlist
      have htail := (List.cons.inj (List.append_cancel_left hlist)).2
      exact hmem (List.mem_reverse.mp (htail ▸ hdot))

/-- The temporary file has another name than the file. -/
theorem temporary_ne_name (v : Vault) (serial : Nat) :
    v.stem ++ "." ++ String.ofList (serialChars serial) ++ ".json.tmp" ≠ v.name := by
  intro h
  have hdot : '.' ∈ serialChars serial ++ ".json.tmp".toList :=
    List.mem_append_right _ (by decide)
  refine v.name_ne_of_dotted hdot ?_
  have hlist := congrArg String.toList h
  simpa [String.toList_append] using hlist

/-- The temporary file does not lead upward. -/
theorem temporary_ne_upward (v : Vault) (serial : Nat) :
    v.stem ++ "." ++ String.ofList (serialChars serial) ++ ".json.tmp" ≠ Disk.upward := by
  intro h
  have hlength := congrArg (List.length ∘ String.toList) h
  simp [Disk.upward, String.toList_append] at hlength
  omega

/-- A save that succeeds has written its text to the temporary file and moved it into place. -/
theorem save_eq_ok {v : Vault} {d d' : Disk} {text : String} {serial : Nat}
    {trouble : Option SaveTrouble} (h : v.save d text serial trouble = (d', .ok ())) :
    ∃ written, d.write (v.temporary serial) (Text.encode text) = .ok written ∧
      written.replace (v.temporary serial) v.path = .ok d' ∧ v.file.any isUnnameable = false := by
  unfold save at h
  split at h
  · cases h
  · dsimp only at h
    split at h
    · cases h
    · cases h
    · split at h
      · cases h
      · next written hwritten =>
        split at h
        · cases h
        · next hnone =>
          split at h
          · next hmoved =>
            cases h
            rw [not_or] at hnone
            exact ⟨written, hwritten, hmoved, by simpa using hnone.2⟩
          · cases h

/-- The temporary file and the file are in different places. -/
private theorem locate_path_ne {v : Vault} {d : Disk} {serial : Nat} {q : Path}
    (hq : d.locate (v.temporary serial) = .ok q) (hfree : d.at? q ≠ some .folder) :
    d.locate v.path ≠ .ok q := by
  intro hpath
  obtain ⟨passed, hfolder, -, rfl⟩ := Disk.locate_concat_name (temporary_ne_upward v serial) hq
  rcases List.eq_nil_or_concat v.file with hfile | ⟨front, last, hfile⟩
  · rw [path, hfile, List.append_nil, hfolder] at hpath
    have hlength := congrArg List.length (Except.ok.inj hpath)
    simp at hlength
  · rw [path, hfile, List.concat_eq_append, ← List.append_assoc] at hpath
    by_cases hup : last = Disk.upward
    · rw [hup] at hpath
      exact hfree (Disk.at?_of_locate_upward hpath)
    · obtain ⟨other, -, -, heq⟩ := Disk.locate_concat_name hup hpath
      have hlast : v.name = last := by simp [name, hfile]
      have hsame := List.append_inj_right' heq rfl
      exact temporary_ne_name v serial (hlast ▸ List.singleton_inj.mp hsame)

/-- After a save that succeeds the file holds the text. -/
theorem look_of_save {v : Vault} {d d' : Disk} {text : String} {serial : Nat}
    {trouble : Option SaveTrouble} (h : v.save d text serial trouble = (d', .ok ())) :
    d'.look v.path = .ok (.file (Text.encode text)) := by
  obtain ⟨written, hwritten, hmoved, -⟩ := save_eq_ok h
  refine Disk.look_of_write_replace hwritten hmoved fun q hq ↦ ?_
  obtain ⟨place, hplace, hfree, -⟩ := Disk.write_eq_ok_iff.mp hwritten
  rw [hplace] at hq
  cases hq
  exact locate_path_ne hplace hfree

/-! ### Loading what was saved -/

/-- A text is decoded from its bytes. -/
theorem decodeStrict?_encode (s : String) : decodeStrict? (Text.encode s) = some s := by
  have hbytes : (⟨(Text.encode s).toArray⟩ : ByteArray) = s.toByteArray := rfl
  rw [decodeStrict?, hbytes, String.fromUTF8?, dif_pos s.isValidUTF8]
  rfl

/-- The text that stands for a settled registry is understood as that registry, where it can be
written. -/
theorem decode?_encode {s : Snapshot} (hs : s.Settled)
    (hw : Json.Writable Json.maxDepth s.toJson) : decode? (Text.encode (encode s)) = some s := by
  have hread : Json.read (encode s) = .ok s.toJson := Json.read_render hw .indented
  rw [decode?, decodeStrict?_encode]
  simp only [Option.bind_some, Json.parse?, hread, Except.toOption, hs.ofJson_toJson]

variable {v : Vault} {d d' : Disk} {r : Registry String} {s : Snapshot} {serial : Nat}
  {trouble : Option SaveTrouble}

/-- A file that is understood is loaded, with empty defaults taken from the registry that is used
where nothing is found. -/
theorem load_of_decode? {bytes : List UInt8} (hfind : v.find d = .ok (some (.file bytes)))
    (h : decode? bytes = some s) (default : Snapshot) (now : Int) :
    v.load d default now = .ok (d, some (s.withDefaults default), []) := by
  have hunderstood : understood? (.file bytes) = some s := h
  rw [load, loadDespite, hfind]
  simp only [bind, Except.bind, hunderstood]
  rfl

/-- What was saved is loaded, if it is settled and can be written. -/
theorem load_saved_of_settled (hsettled : s.Settled) (hw : Json.Writable Json.maxDepth s.toJson)
    (hs : v.save d (encode s) serial trouble = (d', .ok ())) (default : Snapshot) (now : Int) :
    v.load d' default now = .ok (d', some (s.withDefaults default), []) := by
  obtain ⟨-, -, -, hnameable⟩ := save_eq_ok hs
  have hfind : v.find d' = .ok (some (.file (Text.encode (encode s)))) := by
    rw [find, hnameable, look_of_save hs]
    rfl
  exact load_of_decode? hfind (decode?_encode hsettled hw) default now

/-- What was saved is loaded, with empty defaults taken from the registry that is used where
nothing is found. -/
theorem load_saved (h : ∀ p ∈ r.agents, p.Storable)
    (hs : v.save d (encode r.snapshot) serial trouble = (d', .ok ())) (default : Snapshot)
    (now : Int) : v.load d' default now = .ok (d', some (r.snapshot.withDefaults default), []) :=
  load_saved_of_settled (Registry.settled_snapshot h) (Registry.writable h) hs default now

/-- What was saved is loaded, whatever the registry that is used where nothing is found. -/
theorem load_of_save (h : r.Storable)
    (hs : v.save d (encode r.snapshot) serial trouble = (d', .ok ())) (default : Snapshot)
    (now : Int) : v.load d' default now = .ok (d', some r.snapshot, []) := by
  rw [load_saved h.agents hs, h.withDefaults]

end Vault
end PersonaChat
