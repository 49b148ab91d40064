import PersonaChat.Proofs.Command.Limits
import PersonaChat.Proofs.Command.Precedence

/-!
# Which names can be addressed

Names are accepted and compared as they are typed, while messages are recognised in their narrowed
image. So a name with full-width signs may be accepted although its image starts with a mark, is a
command to the whole registry, or is another name with an operator behind it. Here it is said what
tells such names from the others. Main statement: where no image is mistaken, every persona can be
addressed.

Spec guidance: `SPEC_FULL.md`, lines 75–84.
-/

namespace PersonaChat.Name.Apart

open Text Command

variable {names : List String} {name : String} (h : Apart names) (hname : name ∈ names)
include h hname

/-- A name that can be read is not empty. -/
theorem toList_ne_nil : name.toList ≠ [] := mt String.toList_eq_nil_iff.mp (h.ne_empty hname)

/-- Nor is it empty once it is narrowed. -/
theorem image_ne_nil : normalize name.toList ≠ [] :=
  mt List.map_eq_nil_iff.mp (h.toList_ne_nil hname)

/-- A name that can be read holds no blank. -/
theorem isBlank_of_mem : ∀ c ∈ name.toList, isBlank c = false :=
  fun c hc ↦ isBlank_of_allows (h.allows_of_mem hname c hc)

/-- A name is found in any spelling. -/
theorem find?_lower :
    (names.find? fun other ↦ lower other.toList == lower name.toList) = some name := by
  cases hfind : names.find? fun other ↦ lower other.toList == lower name.toList with
  | none =>
    have := List.find?_eq_none.mp hfind name hname
    simp at this
  | some other =>
    have hlower : lower other.toList = lower name.toList := by
      simpa using List.find?_some hfind
    rw [h.eq_of_lower (List.mem_of_find?_eq_some hfind) hname hlower]

end PersonaChat.Name.Apart

namespace PersonaChat.Command

open Text Number

variable {names : List String} {name other : String} {c : Char} {r : List Char}

/-! ### What it takes -/

/-- Operators that stand alone, and what they ask for. -/
def loneOperators : List (String × ActionKind) :=
  [("~", .regenerate), ("!", .stop), ("-*", .clearHistory)]

/-- Messages that are written with a name reach the persona of that name. -/
structure Addressed (names : List String) (name : String) : Prop where
  /-- Talk, unless it looks like an operator with too long a number. -/
  talk : ∀ text, text ≠ "" → trimString text = text →
    ¬ HoldsLongRun (searched (normalize text.toList)) →
      ∃ command, read? (name ++ " " ++ text) names = .ok (some (.command command)) ∧
        command.agent = name
  /-- An operator. -/
  operator : ∀ entry ∈ loneOperators,
    ∃ command, read? (name ++ entry.1) names = .ok (some (.command command)) ∧
      command.agent = name ∧ command.action.kind = entry.2
  /-- The deletion. -/
  delete : read? ("-#" ++ name) names = .ok (some (.command (deletion name)))

/-- No image of a name is taken for anything but that name. -/
structure Unmistakable (names : List String) : Prop where
  /-- No image starts with a mark. -/
  unmarked : ∀ name ∈ names, ∀ c ∈ (normalize name.toList).head?, isMark c = false
  /-- Where an image starts as a create request does, no name follows. -/
  uncreated : ∀ name ∈ names, ∀ c r, normalize name.toList = '#' :: '#' :: c :: r → c = '('
  /-- With an exclamation mark behind it, no image is the command that empties all histories. -/
  uncleared : ∀ name ∈ names, normalize name.toList ≠ ['-', '*']
  /-- Where an image is how a deletion starts, there is no other name to delete. -/
  undeleted : ∀ name ∈ names, normalize name.toList = ['-', '#'] → ∀ other ∈ names, other = name
  /-- No image is, with an operator behind it, that of another name that is at least as long. -/
  unshadowed : ∀ name ∈ names, ∀ other ∈ names, other ≠ name → name.length ≤ other.length →
    ∀ entry ∈ loneOperators,
      startsWithName (normalize name.toList ++ entry.1.toList) other = false

/-! ### Messages that start with a name -/

/-- What a suffix asks for behind a name without marks. -/
def Suffix.toCommand (suffix : Suffix) (name : String) : Command where
  agent := name
  action := suffix.action
  args := String.ofList suffix.args
  indices := suffix.indices.map Int.ofNat
  privateReply := false
  textMode := false

/-- What stands right behind the name: a blank or the first sign of an operator. -/
def separators : List Char := [' ', '~', '!', '-']

/-- What starts a message and does not go on with the separator starts the image of the name. -/
theorem prefix_of_prefix_append {start image rest : List Char} (hc : c ∉ start.tail)
    (hne : image ≠ []) (h : start <+: image ++ c :: rest) : start <+: image := by
  obtain ⟨x, xs, rfl⟩ := List.exists_cons_of_ne_nil hne
  have hout : ¬ x :: xs ++ [c] <+: start := by
    rintro ⟨back, rfl⟩
    exact hc (by simp)
  have himage : x :: xs ++ [c] <+: x :: xs ++ c :: rest := ⟨rest, by simp⟩
  rcases List.prefix_or_prefix_of_prefix h himage with hle | hle
  · rcases List.prefix_concat_iff.mp hle with heq | hle
    · exact absurd (heq ▸ List.prefix_rfl) hout
    · exact hle
  · exact absurd hle hout

/-- A message has no marks where its image starts with a text that has none. -/
theorem marksOf_eq_nil {cs image rest : List Char} (hne : image ≠ [])
    (hhead : ∀ d ∈ image.head?, isMark d = false) (hcs : normalize (trim cs) = image ++ rest) :
    marksOf cs = [] := by
  obtain ⟨x, xs, rfl⟩ := List.exists_cons_of_ne_nil hne
  rw [marksOf, hcs, List.cons_append, List.takeWhile_cons_of_neg (by simp [hhead x rfl])]

/-- What ends at once or starts with a barred sign is no name. -/
theorem not_isValid_of_head {d : Char} {s : List Char}
    (hd : isBlank d = true ∨ narrow d = '(' ∨ Name.allows d = false) :
    Name.isValid (String.ofList (trim ((d :: s).takeWhile
      fun x ↦ !(isBlank x || narrow x == '(')))) = false := by
  by_cases hends : (isBlank d || narrow d == '(') = true
  · rw [List.takeWhile_cons_of_neg (by simp [hends])]
    rfl
  · rw [Bool.not_eq_true, Bool.or_eq_false_iff, beq_eq_false_iff_ne] at hends
    obtain ⟨hsolid, hopen⟩ := hends
    have hbarred : Name.allows d = false := by
      rcases hd with hblank | hopen' | hbarred
      · rw [hsolid] at hblank
        cases hblank
      · exact absurd hopen' hopen
      · exact hbarred
    rw [List.takeWhile_cons_of_pos (by simp [hsolid, hopen]), trim_of_solid hsolid,
      trimRight_solid_cons hsolid, Name.isValid, String.toList_ofList, List.all_cons, hbarred]
    simp

section Behind

variable (h : Name.Apart names) (hname : name ∈ names) (hc : c ∈ separators) (hset : SetOff c r)
include h hname

include hset in
/-- A text that begins with a name is trimmed behind it only. -/
theorem trim_behind : trim (name.toList ++ c :: r) = name.toList ++ c :: trimRight r := by
  rw [trim_append_of_solid (h.toList_ne_nil hname) (h.isBlank_of_mem hname), hset.trimRight_eq]

include hset in
/-- A text that begins with a name, trimmed and narrowed, begins with the narrowed name. -/
theorem normalize_behind : normalize (trim (name.toList ++ c :: r)) =
    normalize name.toList ++ c :: normalize (trimRight r) := by
  rw [trim_behind h hname hset, normalize, List.map_append, List.map_cons, hset.narrow_eq]
  rfl

include hset in
private theorem readApi?_behind : readApi? (name.toList ++ c :: r) = none := by
  obtain ⟨x, rest, hx⟩ := List.exists_cons_of_ne_nil (h.toList_ne_nil hname)
  have hsolid := h.isBlank_of_mem hname x (by rw [hx]; exact List.mem_cons_self)
  exact readApi?_of_setOff (h.allows_of_mem hname) hset
    ⟨x, rest ++ c :: r, by rw [hx]; rfl, hsolid⟩

include hset in
/-- Where a message starts with signs that no separator ends, the image of the name does. -/
theorem exists_behind_signs {signs : List Char} (hc : c ∉ signs.tail)
    (hstart : signs <+: normalize (trim (name.toList ++ c :: r))) :
    normalize name.toList = signs ++ normalize (name.toList.drop signs.length) ∧
      (trim (name.toList ++ c :: r)).drop signs.length =
        name.toList.drop signs.length ++ c :: trimRight r := by
  rw [normalize_behind h hname hset] at hstart
  obtain ⟨rest, hrest⟩ := prefix_of_prefix_append hc (h.image_ne_nil hname) hstart
  have hlength : signs.length ≤ name.toList.length := by
    rw [← length_normalize name.toList, ← hrest, List.length_append]
    exact Nat.le_add_right _ _
  refine ⟨?_, ?_⟩
  · rw [← drop_normalize, ← hrest, List.drop_left]
  · rw [trim_behind h hname hset, List.drop_append_of_le_length hlength]

variable (hu : Unmistakable names)

include hc hset hu in
/-- No command to the whole registry is read. -/
theorem readGlobal?_behind (hstop : c = '!' → r = []) :
    readGlobal? (name.toList ++ c :: r) = none := by
  obtain ⟨x, xs, hx⟩ := List.exists_cons_of_ne_nil (h.image_ne_nil hname)
  have hnarrowed := normalize_behind h hname hset
  have hword : globalWords.lookup (normalize (trim (name.toList ++ c :: r))) = none := by
    have htails : ∀ entry ∈ globalWords, ∀ d ∈ separators, d ∈ entry.1.tail →
        entry.1 = ['-', '*', '!'] ∧ d = '!' := by simp [globalWords, separators]
    rw [List.lookup_eq_none_iff]
    intro entry hentry
    rw [bne_iff_ne]
    intro heq
    rw [hnarrowed] at heq
    have hmem : c ∈ entry.1.tail := by
      rw [← heq, hx]
      exact List.mem_append_right xs List.mem_cons_self
    obtain ⟨hclear, rfl⟩ := htails entry hentry c hc hmem
    rw [hstop rfl, hclear] at heq
    have himage : normalize name.toList ++ ['!'] = ['-', '*'] ++ ['!'] := heq
    exact hu.uncleared name hname (List.append_cancel_right himage)
  have hfill : ['#', '#', ':'].isPrefixOf (normalize (trim (name.toList ++ c :: r))) = false := by
    rw [← Bool.not_eq_true, List.isPrefixOf_iff_prefix]
    intro hstart
    have hsigns : ∀ d ∈ separators, d ∉ ['#', '#', ':'].tail := by simp [separators]
    obtain ⟨himage, -⟩ := exists_behind_signs h hname hset (hsigns c hc) hstart
    cases hu.uncreated name hname ':' _ himage
  simp [readGlobal?, hword, hfill]

include hc hset hu in
/-- No create request is read. -/
theorem readCreate?_behind : readCreate? (name.toList ++ c :: r) = none := by
  unfold readCreate?
  dsimp only
  split
  · rfl
  · next hstart =>
    rw [Bool.not_eq_true', Bool.not_eq_false, List.isPrefixOf_iff_prefix] at hstart
    have hsigns : ∀ d ∈ separators, d ∉ ['#', '#'].tail := by simp [separators]
    obtain ⟨himage, hafter⟩ := exists_behind_signs h hname hset (hsigns c hc) hstart
    have hhead : ∃ d s, (trim (name.toList ++ c :: r)).drop 2 = d :: s ∧
        (isBlank d = true ∨ narrow d = '(' ∨ Name.allows d = false) := by
      rw [show 2 = ['#', '#'].length from rfl, hafter]
      cases hrest : name.toList.drop ['#', '#'].length with
      | nil => exact ⟨c, trimRight r, rfl, .inr (.inr hset.barred)⟩
      | cons d rest =>
        rw [hrest] at himage
        have hopen := hu.uncreated name hname (narrow d) (normalize rest) himage
        exact ⟨d, rest ++ c :: trimRight r, rfl, .inr (.inl hopen)⟩
    obtain ⟨d, s, hds, hd⟩ := hhead
    rw [hds, if_pos]
    rw [not_isValid_of_head hd]
    rfl

include hc hset hu in
/-- No deletion is read but of the persona itself. -/
theorem readDelete?_behind :
    readDelete? (name.toList ++ c :: r) names = none ∨
      (readDelete? (name.toList ++ c :: r) names = some name ∧ c = ' ') := by
  unfold readDelete?
  dsimp only
  split
  · exact .inl rfl
  · next hstart =>
    cases hfind : names.find? fun other ↦
        lower other.toList == lower (trim ((trim (name.toList ++ c :: r)).drop 2)) with
    | none => exact .inl rfl
    | some other =>
      have hother := List.mem_of_find?_eq_some hfind
      have hlower : lower other.toList =
          lower (trim ((trim (name.toList ++ c :: r)).drop 2)) := by
        simpa using List.find?_some hfind
      -- The name that is found holds no separator, so that none is left.
      have hout : c ∉ trim ((trim (name.toList ++ c :: r)).drop 2) := fun hmem ↦
        Name.lower_ne_of_barred (h.allows_of_mem hother) hmem hset.barred hlower.symm
      rw [Bool.not_eq_true', Bool.not_eq_false, List.isPrefixOf_iff_prefix] at hstart
      have hsigns : ∀ d ∈ separators, d ∉ ['-', '#'].tail := by simp [separators]
      obtain ⟨himage, hafter⟩ := exists_behind_signs h hname hset (hsigns c hc) hstart
      rw [show 2 = ['-', '#'].length from rfl, hafter] at hout
      have hnil : name.toList.drop ['-', '#'].length = [] := by
        by_contra hne
        have hsolid : ∀ d ∈ name.toList.drop ['-', '#'].length, isBlank d = false := fun d hd ↦
          h.isBlank_of_mem hname d (List.mem_of_mem_drop hd)
        rw [trim_append_of_solid hne hsolid, ← hset.trimRight_eq, trimRight_trimRight,
          hset.trimRight_eq] at hout
        exact hout (List.mem_append_right _ List.mem_cons_self)
      rw [hnil] at hout himage
      have hblank : c = ' ' := by
        by_contra hne
        have hsigns : isBlank '~' = false ∧ isBlank '!' = false ∧ isBlank '-' = false := by decide
        have hsolids : ∀ d ∈ separators, d ≠ ' ' → isBlank d = false := by
          simpa [separators] using hsigns
        have hsolid := hsolids c hc hne
        rw [List.nil_append, trim_of_solid hsolid, trimRight_solid_cons hsolid] at hout
        exact hout List.mem_cons_self
      exact .inr ⟨by rw [hu.undeleted name hname himage other hother], hblank⟩

include hset hu in
/-- The message is read as what is written behind the name. -/
theorem readPersona?_behind (hother : ∀ other ∈ names, other ≠ name → name.length ≤ other.length →
      startsWithName (normalize name.toList ++ c :: normalize (trimRight r)) other = false) :
    readPersona? (name.toList ++ c :: r) names =
      (readSuffix (normalize (trim (c :: trimRight r))) (trim (c :: trimRight r)) false).map
        fun suffix ↦ some (suffix.toCommand name) := by
  have hmarks := marksOf_eq_nil (h.image_ne_nil hname) (hu.unmarked name hname)
    (normalize_behind h hname hset)
  have hcontent : contentOf (name.toList ++ c :: r) = name.toList ++ c :: trimRight r := by
    rw [contentOf, hmarks, trim_behind h hname hset]
    rfl
  have hmatch : matchName? (normalize (name.toList ++ c :: trimRight r)) names = some name := by
    rw [← trim_behind h hname hset, normalize_behind h hname hset]
    exact h.matchName?_eq hname hother
  have hdrop : (name.toList ++ c :: trimRight r).drop name.length = c :: trimRight r :=
    List.drop_left' String.length_toList
  simp only [readPersona?, hmarks, hcontent, hmatch, hdrop, List.contains_nil]
  cases readSuffix (normalize (trim (c :: trimRight r))) (trim (c :: trimRight r)) false with
  | error _ => rfl
  | ok _ => rfl

include hc hset hu in
private theorem readUnnamed?_behind (hstop : c = '!' → r = []) :
    readUnnamed? (name.toList ++ c :: r) = none := by
  rw [readUnnamed?, readApi?_behind h hname hset, readGlobal?_behind h hname hc hset hu hstop,
    readCreate?_behind h hname hc hset hu]

include hc hset hu in
/-- An operator behind the name is read as such. -/
theorem read?_operator (hsolid : c ≠ ' ') (hstop : c = '!' → r = [])
    (hother : ∀ other ∈ names, other ≠ name → name.length ≤ other.length →
      startsWithName (normalize name.toList ++ c :: normalize (trimRight r)) other = false)
    {suffix : Suffix} (hsuffix : readSuffix (normalize (trim (c :: trimRight r)))
      (trim (c :: trimRight r)) false = .ok suffix) :
    ∃ command, read? (name ++ String.ofList (c :: r)) names = .ok (some (.command command)) ∧
      command.agent = name ∧ command.action = suffix.action := by
  have hdelete : readDelete? (name.toList ++ c :: r) names = none := by
    rcases readDelete?_behind h hname hc hset hu with hnone | ⟨-, hblank⟩
    · exact hnone
    · exact absurd hblank hsolid
  have hpersona := readPersona?_behind h hname hset hu hother
  rw [hsuffix] at hpersona
  refine ⟨suffix.toCommand name, ?_, rfl, rfl⟩
  simp only [read?, String.toList_append, String.toList_ofList, hdelete, hpersona,
    readUnnamed?_behind h hname hc hset hu hstop]
  rfl

include hu in
/-- Behind a blank no longer name fits, and no equally long one. -/
theorem startsWithName_blank (hother : other ∈ names) (hne : other ≠ name)
    (hlength : name.length ≤ other.length) (rest : List Char) :
    startsWithName (normalize name.toList ++ ' ' :: rest) other = false := by
  have himage : (normalize name.toList).length = name.length := by
    rw [length_normalize, String.length_toList]
  rcases Nat.eq_or_lt_of_le hlength with heq | hlt
  · have hapart := hu.unshadowed name hname other hother hne hlength ("~", .regenerate) (by decide)
    rw [← Bool.not_eq_true, startsWithName_append_iff (himage.trans heq)] at hapart ⊢
    exact hapart
  · have hmem : ' ' ∈ (normalize name.toList ++ ' ' :: rest).take other.length :=
      mem_take_of_longer (by rwa [himage])
    have hout : ' ' ∉ normalize other.toList := by
      intro hblank
      obtain ⟨d, hd, hnarrow⟩ := List.mem_map.mp hblank
      have hsolid := h.isBlank_of_mem hother d hd
      rw [← isBlank_narrow, hnarrow] at hsolid
      cases hsolid
    have hdiffer : lower ((normalize name.toList ++ ' ' :: rest).take other.length) ≠
        lower (normalize other.toList) := by
      intro hlower
      have hblank : ' ' ∈ lower ((normalize name.toList ++ ' ' :: rest).take other.length) :=
        Name.mem_lowerFrom_of_barred hmem (by decide) []
      rw [hlower] at hblank
      exact hout (Name.mem_of_mem_lowerFrom hblank (by decide))
    simp [startsWithName, hdiffer]

end Behind

/-! ### Enough -/

/-- The deletion of a persona is read back, whatever the names are. -/
theorem read?_deletion (h : Name.Apart names) (hname : name ∈ names) :
    read? ("-#" ++ name) names = .ok (some (.command (deletion name))) := by
  have hsolid := h.isBlank_of_mem hname
  have hsolid' : ∀ d ∈ '#' :: name.toList, isBlank d = false := by
    intro d hd
    rcases List.mem_cons.mp hd with rfl | hd
    · decide
    · exact hsolid d hd
  have htext : ("-#" ++ name).toList = '-' :: '#' :: name.toList := by
    rw [String.toList_append]
    rfl
  have htrim : trim ('-' :: '#' :: name.toList) = '-' :: '#' :: name.toList := by
    rw [trim_of_solid (by decide), trimRight_solid_cons (by decide), trimRight_of_solid hsolid']
  have hnarrowed : normalize ('-' :: '#' :: name.toList) = '-' :: '#' :: normalize name.toList :=
    rfl
  have happly : readApi? ([] ++ '-' :: '#' :: name.toList) = none :=
    readApi?_of_setOff nofun (setOff_hyphen hsolid') ⟨_, _, rfl, by decide⟩
  have hword : globalWords.lookup ('-' :: '#' :: normalize name.toList) = none := by
    rw [List.lookup_eq_none_iff]
    simp [globalWords]
  have hglobal : readGlobal? ('-' :: '#' :: name.toList) = none := by
    simp [readGlobal?, htrim, hnarrowed, hword]
  have hcreate : readCreate? ('-' :: '#' :: name.toList) = none := by
    simp [readCreate?, htrim, hnarrowed]
  have hdelete : readDelete? ('-' :: '#' :: name.toList) names = some name := by
    simp [readDelete?, htrim, hnarrowed, trim_of_all_solid hsolid, h.find?_lower hname]
  rw [List.nil_append] at happly
  simp only [read?, htext, readUnnamed?, happly, hglobal, hcreate, hdelete]

/-- Where no image is mistaken, every persona can be addressed. -/
theorem Unmistakable.addressed (hu : Unmistakable names) (h : Name.Apart names)
    (hname : name ∈ names) : Addressed names name where
  talk text hne htrim hlong := by
    have hne' : text.toList ≠ [] := mt String.toList_eq_nil_iff.mp hne
    have htrim' : trim text.toList = text.toList := by
      rw [← String.toList_ofList (l := trim text.toList), ← trimString, htrim]
    have hset := setOff_blank htrim' hne'
    have hchars : (name ++ " " ++ text).toList = name.toList ++ ' ' :: text.toList := by
      simp
    have hrest : trim (' ' :: trimRight text.toList) = text.toList := by
      rw [← hset.trimRight_eq, trim_trimRight_blank_cons (by decide) htrim']
    have hpersona := readPersona?_behind h hname hset hu fun other hother hother' hlength ↦
      startsWithName_blank h hname hu hother hother' hlength _
    have hunnamed := readUnnamed?_behind h hname (by decide) hset hu fun h ↦ absurd h (by decide)
    rw [hrest] at hpersona
    cases hsuffix : readSuffix (normalize text.toList) text.toList false with
    | error fault => exact absurd ((readSuffix_eq_error_iff fault false).mp hsuffix) hlong
    | ok suffix =>
      rw [hsuffix] at hpersona
      rcases readDelete?_behind h hname (by decide) hset hu with hdelete | ⟨hdelete, -⟩
      · refine ⟨suffix.toCommand name, ?_, rfl⟩
        simp only [read?, hchars, hunnamed, hdelete, hpersona]
        rfl
      · refine ⟨deletion name, ?_, rfl⟩
        simp only [read?, hchars, hunnamed, hdelete]
  operator entry hentry := by
    have hother := fun other hother hne hlength ↦
      hu.unshadowed name hname other hother hne hlength entry hentry
    simp only [loneOperators, List.mem_cons, List.not_mem_nil, or_false] at hentry
    rcases hentry with rfl | rfl | rfl
    · obtain ⟨command, hread, hagent, haction⟩ := read?_operator h hname (c := '~') (r := [])
        (by decide) (setOff_of_sign (by decide) []) hu (by decide) (fun _ ↦ rfl) hother rfl
      exact ⟨command, hread, hagent, by rw [haction]; rfl⟩
    · obtain ⟨command, hread, hagent, haction⟩ := read?_operator h hname (c := '!') (r := [])
        (by decide) (setOff_of_sign (by decide) []) hu (by decide) (fun _ ↦ rfl) hother rfl
      exact ⟨command, hread, hagent, by rw [haction]; rfl⟩
    · obtain ⟨command, hread, hagent, haction⟩ := read?_operator h hname (c := '-') (r := ['*'])
        (by decide) (setOff_hyphen (List.forall_mem_singleton.mpr (by decide))) hu (by decide)
        (fun h ↦ absurd h (by decide)) hother rfl
      exact ⟨command, hread, hagent, by rw [haction]; rfl⟩
  delete := read?_deletion h hname

end PersonaChat.Command
