import PersonaChat.Proofs.Store.Saving
import PersonaChat.Proofs.Store.Shape

/-!
# What a save does besides its file

Two disks are told apart by one place only. A path that does not lead through this place leads to
the same place on both disks, and what is done there comes out alike. A save touches the file of
its vault and a temporary file that it removes again. So whatever is saved, and whether or not it
fails, the disks that saves leave are told apart by the place of the file only.
-/

namespace PersonaChat

/-- A text without the mark is one part. -/
theorem Text.splitAt_of_not_mem {mark : Char} {cs : List Char} (h : mark ∉ cs) :
    Text.splitAt mark cs = [cs] := by
  induction cs with
  | nil => rfl
  | cons c cs ih =>
    rw [List.mem_cons, not_or] at h
    rw [Text.splitAt, if_neg (Ne.symm h.1), ih h.2]

/-- A name without a slash is one part of a path. -/
theorem Path.ofString_of_not_mem {name : String} (h : '/' ∉ name.toList) (hempty : name ≠ "")
    (hdot : name ≠ ".") : Path.ofString name = [name] := by
  simp [Path.ofString, Text.splitAt_of_not_mem h, hempty, hdot]

namespace Disk

/-- A plain file stands at a path. -/
def HoldsFile (d : Disk) (path : Path) : Prop := ∃ bytes, d.at? path = some (.file bytes)

/-- Disks that are told apart by one place only. If `filed`, a file stands there on both. -/
structure Beside (place : Path) (filed : Prop) (d d' : Disk) : Prop where
  /-- Everywhere else the same stands. -/
  same : ∀ q, q ≠ place → d.at? q = d'.at? q
  /-- What tells the disks apart may be known to be files. -/
  files : filed → d.HoldsFile place ∧ d'.HoldsFile place

/-- A path that leads down only, and neither to a place nor through it. -/
structure Misses (place path : Path) : Prop where
  /-- No part of the path leads upward. -/
  straight : upward ∉ path
  /-- The path does not come to the place. -/
  apart : ¬ place <+: path

variable {place path q : Path} {filed : Prop} {d d' e e' : Disk}

private theorem HoldsFile.put (h : d.HoldsFile place) (hq : q ≠ place) (entry : DiskEntry) :
    HoldsFile (Keyed.put q entry d) place := by
  obtain ⟨bytes, hb⟩ := h
  exact ⟨bytes, by rw [at?_put_of_ne hq.symm, hb]⟩

/-- A path misses where it goes on from a place that is missed, to a name that is not the last
part. -/
theorem Misses.concat {name last : String} (h : Misses place path) (hup : name ≠ upward)
    (hplace : place.getLast? = some last) (hname : name ≠ last) :
    Misses place (path ++ [name]) where
  straight := by
    rw [List.mem_append, List.mem_singleton, not_or]
    exact ⟨h.straight, hup.symm⟩
  apart := by
    rw [List.prefix_concat_iff, not_or]
    refine ⟨?_, h.apart⟩
    rintro rfl
    rw [List.getLast?_concat] at hplace
    exact hname (Option.some.inj hplace)

private theorem Misses.ne (h : Misses place path) : path ≠ place := by
  rintro rfl
  exact h.apart (List.prefix_refl _)

/-- A path that goes less far misses what the path misses. -/
theorem Misses.of_prefix (h : Misses place path) (hq : q <+: path) : Misses place q where
  straight := fun hup ↦ h.straight (hq.subset hup)
  apart := fun hp ↦ h.apart (hp.trans hq)

/-- A path that leads down only leads where it says. -/
theorem eq_of_locate (hs : upward ∉ path) (h : d.locate path = .ok q) : q = path := by
  have hwalk (start : Path) (hq : path.foldlM d.enter start = .ok q) : q = start ++ path := by
    clear h
    induction path generalizing start with
    | nil =>
      cases hq
      rw [List.append_nil]
    | cons part path ih =>
      obtain ⟨next, hnext, hrest⟩ := foldlM_enter_cons.mp hq
      obtain ⟨-, ⟨rfl, -⟩ | ⟨-, -, rfl⟩⟩ := enter_eq_ok_iff.mp hnext
      · exact absurd List.mem_cons_self hs
      · rw [ih (fun hup ↦ hs (List.mem_cons_of_mem _ hup)) _ hrest, List.append_assoc]
        rfl
  unfold locate at h
  split at h
  · cases h
  · exact hwalk [] h

namespace Beside

/-! ### Where paths lead -/

private theorem enter_eq_of_at? {passed : Path} (h : d.at? passed = d'.at? passed)
    (part : String) :
    d.enter passed part = d'.enter passed part := by
  unfold enter
  rw [h]

/-- Where what tells the disks apart is files, every part of a path is entered alike. -/
private theorem enter_eq (h : Beside place filed d d') (hf : filed) : d.enter = d'.enter := by
  funext passed part
  by_cases hp : passed = place
  · obtain ⟨⟨bytes, hb⟩, bytes', hb'⟩ := h.files hf
    unfold enter
    rw [hp, hb, hb']
  · exact enter_eq_of_at? (h.same passed hp) part

/-- A path leads to the same place if it misses what tells the disks apart, or if this is files. -/
theorem locate_eq (h : Beside place filed d d') (hc : filed ∨ Misses place path) :
    d.locate path = d'.locate path := by
  unfold locate
  rcases hc with hf | hm
  · rw [h.enter_eq hf]
  · have hwalk (rest passed : Path) (hrest : passed ++ rest = path) :
        rest.foldlM d.enter passed = rest.foldlM d'.enter passed := by
      induction rest generalizing passed with
      | nil => rfl
      | cons part rest ih =>
        -- What was passed is where the path starts, so it is not the place.
        have hpassed : passed ≠ place := by
          rintro rfl
          exact hm.apart ⟨_, hrest⟩
        have hpart : part ≠ upward := by
          rintro rfl
          exact hm.straight (by rw [← hrest]; simp)
        rw [List.foldlM_cons, List.foldlM_cons, enter_eq_of_at? (h.same passed hpassed)]
        cases hnext : d'.enter passed part with
        | error fault => rfl
        | ok next =>
          obtain ⟨-, ⟨hup, -⟩ | ⟨-, -, rfl⟩⟩ := enter_eq_ok_iff.mp hnext
          · exact absurd hup hpart
          · exact ih (passed ++ [part]) (by rw [← hrest, List.append_assoc]; rfl)
    rw [hwalk path [] rfl]

/-- Where such a path leads the same stands on both disks, or there are two files. -/
theorem at?_cases (h : Beside place filed d d') (hc : filed ∨ Misses place path)
    (hl : d.locate path = .ok q) :
    q ≠ place ∧ d.at? q = d'.at? q ∨ q = place ∧ d.HoldsFile q ∧ d'.HoldsFile q := by
  by_cases hq : q = place
  · rcases hc with hf | hm
    · rw [hq]
      exact .inr ⟨rfl, h.files hf⟩
    · exact absurd (eq_of_locate hm.straight hl ▸ hq) hm.ne
  · exact .inl ⟨hq, h.same q hq⟩

/-! ### What comes out alike -/

/-- The same is put in the same place. -/
private theorem put (h : Beside place filed d d') (entry : DiskEntry)
    (hq : q ≠ place ∨ d.HoldsFile q ∧ d'.HoldsFile q ∧ ∃ bytes, entry = .file bytes) :
    Beside place filed (Keyed.put q entry d) (Keyed.put q entry d') where
  same := fun x hx ↦ by
    by_cases hxq : x = q
    · subst hxq
      unfold at?
      split
      · rfl
      · rw [Keyed.get?_put_self, Keyed.get?_put_self]
    · rw [at?_put_of_ne hxq, at?_put_of_ne hxq, h.same x hx]
  files := fun hf ↦ by
    obtain ⟨hfile, hfile'⟩ := h.files hf
    by_cases hplace : q = place
    · obtain hq | ⟨⟨kept, hb⟩, ⟨kept', hb'⟩, bytes, rfl⟩ := hq
      · exact absurd hplace hq
      · rw [← hplace]
        exact ⟨⟨bytes, at?_put_self (by simp [hb]) _⟩, bytes, at?_put_self (by simp [hb']) _⟩
    · exact ⟨hfile.put hplace entry, hfile'.put hplace entry⟩

private theorem createFolder (h : Beside place filed d d') (hc : filed ∨ Misses place path) :
    ComeOutAlike (Beside place filed) (d.createFolder path) (d'.createFolder path) := by
  unfold Disk.createFolder
  rw [← h.locate_eq hc]
  cases hl : d.locate path with
  | error fault => exact .inl ⟨fault, rfl, rfl⟩
  | ok q =>
    simp only [bind, Except.bind]
    obtain ⟨hq, hat⟩ | ⟨-, ⟨bytes, hb⟩, bytes', hb'⟩ := h.at?_cases hc hl
    · rw [← hat]
      split
      · exact .inl ⟨.occupied, rfl, rfl⟩
      · exact .inr ⟨_, _, rfl, rfl, h.put .folder (.inl hq)⟩
    · rw [hb, hb']
      exact .inl ⟨.occupied, rfl, rfl⟩

private theorem isFolder_eq (h : Beside place filed d d') (hc : filed ∨ Misses place path) :
    d.isFolder path = d'.isFolder path := by
  unfold Disk.isFolder Disk.look
  rw [← h.locate_eq hc]
  cases hl : d.locate path with
  | error fault => rfl
  | ok q =>
    simp only [bind, Except.bind]
    obtain ⟨-, hat⟩ | ⟨-, ⟨bytes, hb⟩, bytes', hb'⟩ := h.at?_cases hc hl
    · rw [hat]
    · rw [hb, hb']
      rfl

/-- A folder that stands there already will do on both disks or on neither. -/
private theorem settle (h : Beside place filed d d') (hc : filed ∨ Misses place path)
    (failure : DiskFault × Path) :
    ComeOutAlike (Beside place filed) (if d.isFolder path then .ok d else .error failure)
      (if d'.isFolder path then .ok d' else .error failure) := by
  rw [h.isFolder_eq hc]
  split
  · exact .inr ⟨d, d', rfl, rfl, h⟩
  · exact .inl ⟨failure, rfl, rfl⟩

private theorem ensureFolderWithin (depth : Nat) (h : Beside place filed d d')
    (hc : filed ∨ Misses place path) :
    ComeOutAlike (Beside place filed) (d.ensureFolderWithin depth path)
      (d'.ensureFolderWithin depth path) := by
  induction depth generalizing d d' path with
  | zero =>
    unfold Disk.ensureFolderWithin
    obtain ⟨fault, hm, hm'⟩ | ⟨e, e', hm, hm', he⟩ := h.createFolder hc
    · rw [hm, hm']
      cases fault
      case missing => exact .inl ⟨_, rfl, rfl⟩
      all_goals exact h.settle hc _
    · rw [hm, hm']
      exact .inr ⟨e, e', rfl, rfl, he⟩
  | succ depth ih =>
    unfold Disk.ensureFolderWithin
    obtain ⟨fault, hm, hm'⟩ | ⟨e, e', hm, hm', he⟩ := h.createFolder hc
    · rw [hm, hm']
      cases fault
      case missing =>
        have habove : filed ∨ Misses place path.dropLast :=
          hc.imp_right fun hm ↦ hm.of_prefix (List.dropLast_prefix path)
        dsimp only
        obtain ⟨failure, ha, ha'⟩ | ⟨a, a', ha, ha', hbeside⟩ := ih h habove
        · rw [ha, ha']
          exact .inl ⟨failure, rfl, rfl⟩
        · rw [ha, ha']
          dsimp only
          obtain ⟨failed, hm, hm'⟩ | ⟨e, e', hm, hm', he⟩ := hbeside.createFolder hc
          · rw [hm, hm']
            exact hbeside.settle hc _
          · rw [hm, hm']
            exact .inr ⟨e, e', rfl, rfl, he⟩
      all_goals exact h.settle hc _
    · rw [hm, hm']
      exact .inr ⟨e, e', rfl, rfl, he⟩

/-- A folder is found or made alike on disks that are beside each other, away from the place
between them. -/
theorem ensureFolder (h : Beside place filed d d') (hc : filed ∨ Misses place path) :
    ComeOutAlike (Beside place filed) (d.ensureFolder path) (d'.ensureFolder path) :=
  h.ensureFolderWithin path.length hc

/-- A file is written alike on disks that are beside each other, away from the place between
them. -/
theorem write (h : Beside place filed d d') (hc : filed ∨ Misses place path) (bytes : List UInt8) :
    ComeOutAlike (Beside place filed) (d.write path bytes) (d'.write path bytes) := by
  unfold Disk.write
  rw [← h.locate_eq hc]
  cases hl : d.locate path with
  | error fault => exact .inl ⟨fault, rfl, rfl⟩
  | ok q =>
    simp only [bind, Except.bind]
    obtain ⟨hq, hat⟩ | ⟨-, hfile, hfile'⟩ := h.at?_cases hc hl
    · rw [← hat]
      split
      · exact .inl ⟨.isAFolder, rfl, rfl⟩
      · exact .inr ⟨_, _, rfl, rfl, h.put (.file bytes) (.inl hq)⟩
    · have hput := h.put (.file bytes) (.inr ⟨hfile, hfile', bytes, rfl⟩)
      obtain ⟨kept, hb⟩ := hfile
      obtain ⟨kept', hb'⟩ := hfile'
      rw [hb, hb']
      exact .inr ⟨_, _, rfl, rfl, hput⟩

/-- The same is removed. -/
theorem remove (h : Beside place filed d d') (hm : Misses place path) :
    Beside place filed (d.remove path) (d'.remove path) := by
  have hlocate := h.locate_eq (.inr hm)
  cases hl : d.locate path with
  | error fault =>
    rw [Disk.remove, Disk.remove, ← hlocate, hl]
    exact h
  | ok q =>
    have hq : q ≠ place := by
      rw [eq_of_locate hm.straight hl]
      exact hm.ne
    have hl' : d'.locate path = .ok q := hlocate ▸ hl
    refine ⟨fun x hx ↦ ?_, fun hf ↦ ?_⟩
    · rw [at?_remove_of_locate hl, at?_remove_of_locate hl', h.same q hq, h.same x hx]
    · obtain ⟨⟨bytes, hb⟩, bytes', hb'⟩ := h.files hf
      refine ⟨⟨bytes, ?_⟩, bytes', ?_⟩
      · rw [at?_remove_of_locate hl, if_neg fun e ↦ hq e.1.symm, hb]
      · rw [at?_remove_of_locate hl', if_neg fun e ↦ hq e.1.symm, hb']

end Beside

/-- A file that was written and is removed again leaves everything as if it had only been
removed. -/
theorem at?_remove_of_write {written : Disk} {bytes : List UInt8}
    (h : d.write path bytes = .ok written)
    (x : Path) : (written.remove path).at? x = (d.remove path).at? x := by
  obtain ⟨q, hl, hfree, rfl⟩ := write_eq_ok_iff.mp h
  have hfree' : at? (Keyed.put q (.file bytes) d) q ≠ some .folder := by
    rw [at?_put_self hfree]
    simp
  rw [at?_remove_of_locate ((sameFolders_put hfree bytes).locate hl), at?_remove_of_locate hl]
  by_cases hx : x = q
  · rw [if_pos ⟨hx, hfree'⟩, if_pos ⟨hx, hfree⟩]
  · rw [if_neg fun e ↦ hx e.1, if_neg fun e ↦ hx e.1, at?_put_of_ne hx]

/-- A file that is seen at a path that leads down only stands at the path. -/
theorem holdsFile_of_look {bytes : List UInt8} (hs : upward ∉ path)
    (h : d.look path = .ok (.file bytes)) : d.HoldsFile path := by
  obtain ⟨q, hl, hat⟩ := look_eq_ok_iff.mp h
  rw [eq_of_locate hs hl] at hat
  exact ⟨bytes, hat⟩

end Disk

/-! ### Saving -/

namespace Vault

open Disk

/-- A vault whose file has a name, in a folder that is reached without detours. -/
structure Regular (v : Vault) : Prop where
  /-- The file stands in the folder. -/
  single : v.file = [v.name]
  /-- No part of the path leads upward. -/
  straight : upward ∉ v.path
  /-- The temporary files can be named. -/
  nameable : isUnnameable v.stem = false

/-- After these troubles the temporary file is removed. -/
def Tidy (troubles : List (Option SaveTrouble)) : Prop :=
  ∀ trouble ∈ troubles, ∀ t ∈ trouble, t.cleanupFails = false

instance (troubles : List (Option SaveTrouble)) : Decidable (Tidy troubles) :=
  inferInstanceAs (Decidable (∀ trouble ∈ troubles, ∀ t ∈ trouble, t.cleanupFails = false))

/-- The next of troubles that leave no file behind leaves none. -/
theorem Tidy.headD {troubles : List (Option SaveTrouble)} (h : Tidy troubles) :
    ∀ t ∈ troubles.headD none, t.cleanupFails = false := by
  cases troubles with
  | nil => exact nofun
  | cons trouble troubles => exact h trouble List.mem_cons_self

/-- So do those after it. -/
theorem Tidy.tail {troubles : List (Option SaveTrouble)} (h : Tidy troubles) :
    Tidy troubles.tail :=
  fun trouble ht ↦ h trouble (List.mem_of_mem_tail ht)

variable {v : Vault} {d d' : Disk} {filed : Prop}

/-- A save succeeds, or it refuses with an error of its own and gives up with at most its temporary
file written. -/
theorem save_cases (hn : isUnnameable v.stem = false) (d : Disk) (text : String) (serial : Nat)
    (trouble : Option SaveTrouble) :
    (∃ d', v.save d text serial trouble = (d', .ok ())) ∨
      ∃ e message, v.save d text serial trouble =
          (giveUp e (v.temporary serial) ((trouble.map SaveTrouble.cleanupFails).getD false),
            .error (unwritable message)) ∧
        (e = d ∨ ∃ bytes, d.write (v.temporary serial) bytes = .ok e) := by
  unfold save
  rw [hn]
  simp only [Bool.false_eq_true, if_false]
  split
  · exact .inr ⟨d, _, rfl, .inl rfl⟩
  · next part _ =>
    refine .inr ⟨_, _, rfl, ?_⟩
    cases part with
    | none => exact .inl rfl
    | some bytes =>
      dsimp only
      cases hw : d.write (v.temporary serial) bytes with
      | error fault => exact .inl rfl
      | ok written => exact .inr ⟨bytes, hw⟩
  · cases hw : d.write (v.temporary serial) (Text.encode text) with
    | error fault => exact .inr ⟨d, _, rfl, .inl rfl⟩
    | ok written =>
      dsimp only
      split
      · exact .inr ⟨written, _, rfl, .inr ⟨_, hw⟩⟩
      · cases written.replace (v.temporary serial) v.path with
        | error fault => exact .inr ⟨written, _, rfl, .inr ⟨_, hw⟩⟩
        | ok moved => exact .inl ⟨moved, rfl⟩

namespace Regular

variable (hv : v.Regular)

include hv

/-- The temporary files stand beside the file. -/
theorem misses_temporary (serial : Nat) : Misses v.path (v.temporary serial) where
  straight := by
    have hfolder : upward ∉ v.folder := fun h ↦ hv.straight (List.mem_append_left _ h)
    rw [temporary, List.mem_append, List.mem_singleton]
    rintro (h | h)
    · exact hfolder h
    · exact temporary_ne_upward v serial h.symm
  apart := by
    rw [path, temporary, List.prefix_append_right_inj, hv.single, List.cons_prefix_cons]
    exact fun h ↦ temporary_ne_name v serial h.1.symm

/-- A save replaces the file, or leaves what removing its temporary file would. -/
private theorem saved {trouble : Option SaveTrouble} (ht : ∀ t ∈ trouble, t.cleanupFails = false)
    (d : Disk)
    (text : String) (serial : Nat) :
    (v.save d text serial trouble).1.HoldsFile v.path ∧
        (∀ q, q ≠ v.path → (v.save d text serial trouble).1.at? q =
          (d.remove (v.temporary serial)).at? q) ∨
      ∀ q, (v.save d text serial trouble).1.at? q = (d.remove (v.temporary serial)).at? q := by
  have hmisses := hv.misses_temporary serial
  obtain ⟨d', hs⟩ | ⟨e, message, hs, he⟩ := save_cases hv.nameable d text serial trouble
  · left
    obtain ⟨written, hw, hr, -⟩ := save_eq_ok hs
    obtain ⟨moved, hm, rfl⟩ := moved_of_write_replace hw hr
    obtain ⟨goal, hgoal, -, rfl⟩ := write_eq_ok_iff.mp hm
    rw [eq_of_locate hv.straight hgoal] at hs
    -- Moving the file into place changes nothing but this place, and then the temporary file goes.
    have hbeside :
        Beside v.path False (Keyed.put v.path (.file (Text.encode text)) written) written :=
      ⟨fun q hq ↦ at?_put_of_ne hq _, False.elim⟩
    have hheld := holdsFile_of_look hv.straight (look_of_save hs)
    rw [hs]
    refine ⟨hheld, fun q hq ↦ ?_⟩
    rw [← at?_remove_of_write hw]
    exact (hbeside.remove hmisses).same q hq
  · right
    intro q
    have hclean : (trouble.map SaveTrouble.cleanupFails).getD false = false := by
      cases trouble with
      | none => rfl
      | some t => exact ht t rfl
    rw [hs, hclean]
    show (e.remove (v.temporary serial)).at? q = _
    obtain rfl | ⟨bytes, hw⟩ := he
    · rfl
    · exact at?_remove_of_write hw q

/-- Everywhere but in the place of the file a save leaves what removing its temporary file
would. -/
theorem at?_save {trouble : Option SaveTrouble} (ht : ∀ t ∈ trouble, t.cleanupFails = false)
    (d : Disk)
    (text : String) (serial : Nat) {q : Path} (hq : q ≠ v.path) :
    (v.save d text serial trouble).1.at? q = (d.remove (v.temporary serial)).at? q :=
  (hv.saved ht d text serial).elim (fun h ↦ h.2 q hq) fun h ↦ h q

/-- A file stays a file. -/
theorem holdsFile_save {trouble : Option SaveTrouble} (ht : ∀ t ∈ trouble, t.cleanupFails = false)
    (text : String) {serial : Nat} (h : (d.remove (v.temporary serial)).HoldsFile v.path) :
    (v.save d text serial trouble).1.HoldsFile v.path := by
  rcases hv.saved ht d text serial with hs | hs
  · exact hs.1
  · obtain ⟨bytes, hb⟩ := h
    exact ⟨bytes, by rw [hs, hb]⟩

/-- Whatever is saved, and whether or not the saves fail, disks that are told apart by the file
only are so after saving. -/
theorem save (h : Beside v.path filed d d') {trouble trouble' : Option SaveTrouble}
    (ht : ∀ t ∈ trouble, t.cleanupFails = false) (ht' : ∀ t ∈ trouble', t.cleanupFails = false)
    (text text' : String) (serial : Nat) :
    Beside v.path filed (v.save d text serial trouble).1 (v.save d' text' serial trouble').1 := by
  have hswept := h.remove (hv.misses_temporary serial)
  refine ⟨fun q hq ↦ ?_, fun hf ↦ ?_⟩
  · rw [hv.at?_save ht _ _ _ hq, hv.at?_save ht' _ _ _ hq, hswept.same q hq]
  · exact (hswept.files hf).imp (hv.holdsFile_save ht text) (hv.holdsFile_save ht' text')

end Regular

/-- What is found was seen at the path. -/
theorem look_of_find {entry : DiskEntry} (h : v.find d = .ok (some entry)) :
    d.look v.path = .ok entry := by
  unfold find at h
  split at h
  · cases h
  · cases hl : d.look v.path with
    | ok node =>
      rw [hl] at h
      cases h
      rfl
    | error fault =>
      rw [hl] at h
      cases fault <;> cases h

/-- A snapshot that is loaded was read from the file, which stays. -/
theorem holdsFile_of_load (hv : v.Regular) {default : Snapshot} {now : Int} {snapshot : Snapshot}
    {records : List LogRecord} (h : v.load d default now = .ok (d', some snapshot, records)) :
    d'.HoldsFile v.path := by
  unfold load loadDespite at h
  obtain ⟨found, hfind, h⟩ := bind_eq_ok h
  split at h
  · cases h
  · next entry =>
    cases hunderstood : understood? entry with
    | none =>
      rw [hunderstood] at h
      obtain ⟨time, -, hkept⟩ := bind_eq_ok h
      cases hkept
    | some read =>
      rw [hunderstood] at h
      cases h
      cases entry with
      | folder => cases hunderstood
      | file bytes => exact holdsFile_of_look hv.straight (look_of_find hfind)

end Vault
end PersonaChat
