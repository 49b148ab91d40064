import PersonaChat.Proofs.Command.Matching
import PersonaChat.Proofs.Text.Blank

/-!
# A message that names a persona is read as a command to it

Behind its marks and its name a message may hold any text. What follows the name is set off when it
starts with a sign of the command language or a blank and makes neither an address nor a key of the
provider together with the name. Then no other reader takes the message, and it is read as whatever
is written after the name.
-/

namespace PersonaChat.Command

open Text

variable {names : List String} {name : String} {marks front : List Char} {c : Char} {r : List Char}

/-- What follows a name is set off from it. -/
structure SetOff (c : Char) (r : List Char) : Prop where
  /-- The first character belongs to no name. -/
  barred : Name.allows c = false
  /-- It counts as itself. -/
  narrow_eq : narrow c = c
  /-- Something is left when the end is trimmed. -/
  trimRight_eq : trimRight (c :: r) = c :: trimRight r
  /-- No scheme ends here. -/
  no_scheme : c = ':' → ¬ ['/', '/'] <+: r
  /-- Where a key may start, no blank follows. -/
  no_key : c = '-' → ∀ d ∈ r, isBlank d = false

/-! ### Graphic characters -/

/-- Visible ASCII characters: neither blank nor full-width. -/
def Graphic (c : Char) : Prop := 33 ≤ c.toNat ∧ c.toNat < 127

instance (c : Char) : Decidable (Graphic c) := inferInstanceAs (Decidable (_ ∧ _))

/-- A graphic character is no blank. -/
theorem Graphic.isBlank_eq (h : Graphic c) : isBlank c = false := by
  obtain ⟨hlow, hhigh⟩ := h
  rw [isBlank, Bool.eq_false_iff]
  simp only [ne_eq, Bool.or_eq_true, Bool.and_eq_true, decide_eq_true_eq, beq_iff_eq]
  omega

private theorem Graphic.narrow_eq (h : Graphic c) : narrow c = c := by
  -- A check of the list: a quantifier over characters would be decided over all of them.
  have hwide : (fullWidth.map Prod.fst).all (fun d ↦ decide (127 ≤ d.toNat)) = true := by decide
  apply narrow_of_notMem
  intro hc
  have := of_decide_eq_true (List.all_eq_true.mp hwide c hc)
  have := h.2
  omega

/-- Graphic characters are narrow already. -/
theorem normalize_of_graphic (h : ∀ d ∈ r, Graphic d) : normalize r = r := by
  rw [normalize, List.map_congr_left fun d hd ↦ (h d hd).narrow_eq]
  exact List.map_id r

/-- The marks of a command are two. -/
theorem isMark_iff : isMark c = true ↔ c = '&' ∨ c = '"' := by
  rw [isMark, Bool.or_eq_true, beq_iff_eq, beq_iff_eq]

private theorem graphic_of_isMark (h : isMark c = true) : Graphic c := by
  rcases isMark_iff.mp h with rfl | rfl
  · decide
  · decide

/-- A mark belongs to no name. -/
theorem allows_of_isMark (h : isMark c = true) : Name.allows c = false := by
  rcases isMark_iff.mp h with rfl | rfl
  · decide
  · decide

/-- Signs that occur in no scheme and in no key. -/
def freeSigns : List Char := ['~', '!', '%', '$', '/', '&', '"', '_', '\'']

/-- Such a sign is set off, whatever follows. -/
theorem setOff_of_sign (h : c ∈ freeSigns) (r : List Char) : SetOff c r := by
  have hsigns : freeSigns.all (fun d ↦ decide
      (Name.allows d = false ∧ narrow d = d ∧ isBlank d = false ∧ d ≠ ':' ∧ d ≠ '-')) = true := by
    decide
  obtain ⟨hbarred, hnarrow, hsolid, hcolon, hhyphen⟩ :=
    of_decide_eq_true (List.all_eq_true.mp hsigns c h)
  exact
    { barred := hbarred
      narrow_eq := hnarrow
      trimRight_eq := trimRight_solid_cons hsolid r
      no_scheme := fun hc ↦ absurd hc hcolon
      no_key := fun hc ↦ absurd hc hhyphen }

/-- Behind a hyphen a text without blanks is set off. -/
theorem setOff_hyphen (h : ∀ d ∈ r, isBlank d = false) : SetOff '-' r where
  barred := by decide
  narrow_eq := by decide
  trimRight_eq := trimRight_solid_cons (by decide) r
  no_scheme := nofun
  no_key := fun _ ↦ h

/-- Behind a blank a trimmed text is set off. -/
theorem setOff_blank (htrim : trim r = r) (hne : r ≠ []) : SetOff ' ' r where
  barred := by decide
  narrow_eq := by decide
  trimRight_eq := by
    rw [trimRight_blank_cons (by decide) htrim, if_neg hne, (trimmed_ends htrim).2]
  no_scheme := nofun
  no_key := nofun

/-- No character that is allowed in names is a blank. -/
theorem isBlank_of_allows (h : Name.allows c = true) : isBlank c = false := by
  simp only [Name.allows, Bool.and_eq_true, Bool.not_eq_true'] at h
  exact h.2

/-! ### Addresses and keys -/

/-- Two texts that start alike have the first barred character in common. -/
theorem front_eq_of_starts {front' : List Char} {d : Char} {s : List Char}
    (hfront : ∀ x ∈ front, Name.allows x = true) (hfront' : ∀ x ∈ front', Name.allows x = true)
    (hc : Name.allows c = false) (hd : Name.allows d = false)
    (h : front' ++ d :: s <+: front ++ c :: r) : front' = front ∧ d = c ∧ s <+: r := by
  induction front generalizing front' with
  | nil =>
    cases front' with
    | nil => exact ⟨rfl, List.cons_prefix_cons.mp h⟩
    | cons x front' =>
      have hx := (List.cons_prefix_cons.mp h).1
      rw [← hx, hfront' x List.mem_cons_self] at hc
      cases hc
  | cons y front ih =>
    cases front' with
    | nil =>
      have hy := (List.cons_prefix_cons.mp h).1
      rw [hy, hfront y List.mem_cons_self] at hd
      cases hd
    | cons x front' =>
      obtain ⟨hxy, hrest⟩ := List.cons_prefix_cons.mp h
      obtain ⟨heq, hsame⟩ := ih (fun z hz ↦ hfront z (List.mem_cons_of_mem y hz))
        (fun z hz ↦ hfront' z (List.mem_cons_of_mem x hz)) hrest
      exact ⟨by rw [hxy, heq], hsame⟩

/-- Characters of names before a text that is set off make no address. -/
theorem isAddress_of_setOff (hfront : ∀ x ∈ front, Name.allows x = true) (h : SetOff c r)
    {token : List Char} (ht : token <+: front ++ c :: r) : isAddress token = false := by
  have hscheme (scheme : List Char) (hallows : scheme.all Name.allows = true) :
      ¬ scheme ++ [':', '/', '/'] <+: token := by
    intro hstarts
    obtain ⟨-, hcolon, hslashes⟩ :=
      front_eq_of_starts hfront (List.all_eq_true.mp hallows) h.barred
      (by decide) (hstarts.trans ht)
    exact h.no_scheme hcolon.symm hslashes
  have hplain : ¬ ['h', 't', 't', 'p', ':', '/', '/'] <+: token :=
    hscheme ['h', 't', 't', 'p'] (by decide)
  have hsecure : ¬ ['h', 't', 't', 'p', 's', ':', '/', '/'] <+: token :=
    hscheme ['h', 't', 't', 'p', 's'] (by decide)
  rw [← List.isPrefixOf_iff_prefix, Bool.not_eq_true] at hplain hsecure
  simp [isAddress, hplain, hsecure]

/-- They make a key only before a hyphen. -/
theorem hyphen_of_isKey (hfront : ∀ x ∈ front, Name.allows x = true) (h : SetOff c r)
    {token : List Char} (ht : token <+: front ++ c :: r) (hkey : isKey token = true) :
    c = '-' := by
  rw [isKey, Bool.and_eq_true, List.isPrefixOf_iff_prefix] at hkey
  have hstarts : ['s', 'k'] ++ '-' :: [] <+: front ++ c :: r := hkey.1.trans ht
  have hallows : ['s', 'k'].all Name.allows = true := by decide
  obtain ⟨-, hc, -⟩ :=
    front_eq_of_starts hfront (List.all_eq_true.mp hallows) h.barred (by decide) hstarts
  exact hc.symm

/-- They are no configuration of the provider. -/
theorem readApi?_of_setOff (hfront : ∀ x ∈ front, Name.allows x = true) (h : SetOff c r)
    (hsolid : ∃ x rest, front ++ c :: r = x :: rest ∧ isBlank x = false) :
    readApi? (front ++ c :: r) = none := by
  obtain ⟨x, rest, heq, hx⟩ := hsolid
  obtain ⟨more, htokens, hone⟩ := tokens_eq_of_solid hx rest
  rw [← heq] at htokens hone
  have hstart := List.takeWhile_prefix (l := front ++ c :: r) (!isBlank ·)
  have haddress := isAddress_of_setOff hfront h hstart
  rw [readApi?, htokens]
  by_cases hkey : isKey ((front ++ c :: r).takeWhile (!isBlank ·)) = true
  · -- Before a hyphen the message is a single token.
    have hc := hyphen_of_isKey hfront h hstart hkey
    have hnil : more = [] := by
      apply hone
      intro d hd
      rcases List.mem_append.mp hd with hd | hd
      · exact isBlank_of_allows (hfront d hd)
      · rcases List.mem_cons.mp hd with rfl | hd
        · rw [hc]
          decide
        · exact h.no_key hc d hd
    rw [hnil]
  · split
    · next a b htwo =>
      obtain ⟨rfl, -⟩ := List.cons_eq_cons.mp htwo
      simp [haddress, hkey]
    · rfl

/-! ### Readers of messages without a name -/

/-- Signs that a message without a name starts with, when it is a command. -/
def globalSigns : List Char := ['#', '-', '/']

private theorem isPrefixOf_cons_of_ne {d : Char} {cs ds : List Char} (h : c ≠ d) :
    (d :: ds).isPrefixOf (c :: cs) = false := by
  rw [List.isPrefixOf_cons_cons, beq_eq_false_iff_ne.mpr h.symm, Bool.false_and]

/-- A message that starts with none of these signs and holds a barred character is no command to
the whole registry. -/
theorem readGlobal?_eq_none {cs : List Char} (htrim : trim cs = c :: r)
    (hc : narrow c ∉ globalSigns) (hbarred : ∃ d ∈ normalize (trim cs), Name.allows d = false) :
    readGlobal? cs = none := by
  obtain ⟨d, hd, hbarred⟩ := hbarred
  have hnarrowed : normalize (trim cs) = narrow c :: normalize r := by
    rw [htrim]
    rfl
  simp only [globalSigns, List.mem_cons, List.not_mem_nil, or_false, not_or] at hc
  obtain ⟨hnumber, hhyphen, hslash⟩ := hc
  have hword : globalWords.lookup (normalize (trim cs)) = none := by
    have hhelp : normalize (trim cs) ≠ ['o', 'a', 'i'] := by
      intro heq
      rw [heq] at hd
      have hall : ['o', 'a', 'i'].all Name.allows = true := by decide
      rw [List.all_eq_true.mp hall d hd] at hbarred
      cases hbarred
    rw [List.lookup_eq_none_iff]
    intro entry hentry
    simp only [globalWords, List.mem_cons, List.not_mem_nil, or_false] at hentry
    rw [bne_iff_ne]
    rcases hentry with rfl | rfl | rfl | rfl | rfl
    · exact hhelp
    all_goals
      rw [hnarrowed]
      simp [hhyphen, hslash]
  have hfill : ['#', '#', ':'].isPrefixOf (normalize (trim cs)) = false := by
    rw [hnarrowed]
    exact isPrefixOf_cons_of_ne hnumber
  simp [readGlobal?, hword, hfill]

private theorem readCreate?_eq_none {cs : List Char} (htrim : trim cs = c :: r)
    (hc : narrow c ∉ globalSigns) : readCreate? cs = none := by
  have hnumber : narrow c ≠ '#' := fun heq ↦ hc (heq ▸ by decide)
  have hstart : ['#', '#'].isPrefixOf (normalize (trim cs)) = false := by
    rw [htrim]
    exact isPrefixOf_cons_of_ne hnumber
  simp [readCreate?, hstart]

private theorem readDelete?_eq_none {cs : List Char} (htrim : trim cs = c :: r)
    (hc : narrow c ∉ globalSigns) : readDelete? cs names = none := by
  have hhyphen : narrow c ≠ '-' := fun heq ↦ hc (heq ▸ by decide)
  have hstart : ['-', '#'].isPrefixOf (normalize (trim cs)) = false := by
    rw [htrim]
    exact isPrefixOf_cons_of_ne hhyphen
  simp [readDelete?, hstart]

/-! ### Marks and names -/

/-- A message starts with a mark or with the first character of the name. -/
theorem Legible.head_message (h : Legible names) (hname : name ∈ names)
    (hmarks : ∀ m ∈ marks, isMark m = true) (cs : List Char) :
    ∃ x rest, marks ++ name.toList ++ cs = x :: rest ∧ isBlank x = false ∧
      narrow x ∉ globalSigns := by
  cases marks with
  | cons m marks =>
    have hm := hmarks m List.mem_cons_self
    refine ⟨m, marks ++ name.toList ++ cs, rfl, (graphic_of_isMark hm).isBlank_eq, ?_⟩
    rw [(graphic_of_isMark hm).narrow_eq]
    rcases isMark_iff.mp hm with rfl | rfl
    · decide
    · decide
  | nil =>
    obtain ⟨x, rest, hx⟩ := List.exists_cons_of_ne_nil
      (mt String.toList_eq_nil_iff.mp (h.apart.ne_empty hname))
    have hmem : x ∈ name.toList := by
      rw [hx]
      exact List.mem_cons_self
    have hallows := h.apart.allows_of_mem hname x hmem
    refine ⟨x, rest ++ cs, by rw [List.nil_append, hx]; rfl, isBlank_of_allows hallows, ?_⟩
    rw [narrow_of_notMem (h.plain name hname x hmem)]
    simp only [globalSigns, List.mem_cons, List.not_mem_nil, or_false]
    rintro (rfl | rfl | rfl)
    all_goals cases hallows

section Message

variable (h : Legible names) (hname : name ∈ names) (hmarks : ∀ m ∈ marks, isMark m = true)
  (hset : SetOff c r)
include h hname hmarks hset

/-- Only the end of a message is trimmed, and not past the name. -/
theorem trim_message : trim (marks ++ name.toList ++ c :: r) =
    marks ++ name.toList ++ c :: trimRight r := by
  have hne : marks ++ name.toList ≠ [] := fun hnil ↦
    h.apart.ne_empty hname (String.toList_eq_nil_iff.mp (List.append_eq_nil_iff.mp hnil).2)
  have hsolid : ∀ y ∈ marks ++ name.toList, isBlank y = false := by
    intro y hy
    rcases List.mem_append.mp hy with hy | hy
    · exact (graphic_of_isMark (hmarks y hy)).isBlank_eq
    · exact isBlank_of_allows (h.apart.allows_of_mem hname y hy)
  rw [trim_append_of_solid hne hsolid, hset.trimRight_eq]

/-- Trimmed, a message starts as it was typed. -/
theorem exists_trim_message : ∃ x rest, trim (marks ++ name.toList ++ c :: r) = x :: rest ∧
    narrow x ∉ globalSigns := by
  obtain ⟨x, rest, heq, -, hsign⟩ := h.head_message hname hmarks (c :: trimRight r)
  exact ⟨x, rest, (trim_message h hname hmarks hset).trans heq, hsign⟩

/-- The image of a message shows marks, name and sign as they were typed. -/
theorem normalize_message (body : List Char) : normalize (marks ++ name.toList ++ c :: body) =
    marks ++ (name.toList ++ c :: normalize body) := by
  have hsame := normalize_of_graphic fun m hm ↦ graphic_of_isMark (hmarks m hm)
  have hname := h.normalize_eq hname
  rw [normalize] at hsame hname
  rw [normalize, List.map_append, List.map_append, hsame, hname, List.map_cons, hset.narrow_eq,
    List.append_assoc]
  rfl

private theorem marksOf_message : marksOf (marks ++ name.toList ++ c :: r) = marks := by
  obtain ⟨x, rest, hx⟩ := List.exists_cons_of_ne_nil
    (mt String.toList_eq_nil_iff.mp (h.apart.ne_empty hname))
  have hx' : isMark x = false := by
    rw [Bool.eq_false_iff]
    intro hmark
    have hallows := h.apart.allows_of_mem hname x (by rw [hx]; exact List.mem_cons_self)
    rw [allows_of_isMark hmark] at hallows
    cases hallows
  rw [marksOf, trim_message h hname hmarks hset, normalize_message h hname hmarks hset,
    List.takeWhile_append_of_pos hmarks, hx, List.cons_append,
    List.takeWhile_cons_of_neg (by simp [hx']), List.append_nil]

private theorem contentOf_message : contentOf (marks ++ name.toList ++ c :: r) =
    name.toList ++ c :: trimRight r := by
  rw [contentOf, marksOf_message h hname hmarks hset, trim_message h hname hmarks hset,
    List.append_assoc]
  exact List.drop_left

private theorem readApi?_message : readApi? (marks ++ name.toList ++ c :: r) = none := by
  obtain ⟨x, rest, heq, hx, -⟩ := h.head_message hname hmarks (c :: r)
  cases marks with
  | nil => exact readApi?_of_setOff (h.apart.allows_of_mem hname) hset ⟨x, rest, heq, hx⟩
  | cons m marks =>
    have hm : m ∈ freeSigns := by
      rcases isMark_iff.mp (hmarks m List.mem_cons_self) with rfl | rfl
      · decide
      · decide
    have hnone : readApi? ([] ++ m :: (marks ++ name.toList ++ c :: r)) = none :=
      readApi?_of_setOff nofun (setOff_of_sign hm _) ⟨x, rest, heq, hx⟩
    exact hnone

/-- No reader of messages without a name takes the message. -/
theorem readUnnamed?_message : readUnnamed? (marks ++ name.toList ++ c :: r) = none := by
  obtain ⟨x, rest, htrim, hsign⟩ := exists_trim_message h hname hmarks hset
  have hbarred : ∃ d ∈ normalize (trim (marks ++ name.toList ++ c :: r)),
      Name.allows d = false := by
    refine ⟨c, ?_, hset.barred⟩
    rw [trim_message h hname hmarks hset, normalize_message h hname hmarks hset]
    simp
  rw [readUnnamed?, readApi?_message h hname hmarks hset, readGlobal?_eq_none htrim hsign hbarred,
    readCreate?_eq_none htrim hsign]

/-- The message is read as what is written after the name. -/
theorem read?_message : read? (String.ofList (marks ++ name.toList ++ c :: r)) names =
    (readSuffix (normalize (trim (c :: trimRight r))) (trim (c :: trimRight r))
      (marks.contains '&')).map fun suffix ↦
        some (.command
          { agent := name
            action := suffix.action
            args := String.ofList suffix.args
            indices := suffix.indices.map Int.ofNat
            privateReply := marks.contains '&'
            textMode := marks.contains '"' }) := by
  obtain ⟨x, rest, htrim, hsign⟩ := exists_trim_message h hname hmarks hset
  have hdelete : readDelete? (marks ++ name.toList ++ c :: r) names = none :=
    readDelete?_eq_none htrim hsign
  have hmatch : matchName? (normalize (name.toList ++ c :: trimRight r)) names = some name := by
    have himage : normalize (name.toList ++ c :: trimRight r) =
        name.toList ++ c :: normalize (trimRight r) :=
      normalize_message h hname (List.forall_mem_nil _) hset (trimRight r)
    rw [himage]
    exact h.matchName?_eq hname hset.barred _
  have hdrop : (name.toList ++ c :: trimRight r).drop name.length = c :: trimRight r :=
    List.drop_left' String.length_toList
  simp only [read?, String.toList_ofList, readUnnamed?_message h hname hmarks hset, hdelete,
    readPersona?, contentOf_message h hname hmarks hset, marksOf_message h hname hmarks hset,
    hmatch, hdrop]
  cases readSuffix (normalize (trim (c :: trimRight r))) (trim (c :: trimRight r))
    (marks.contains '&') with
  | error fault => rfl
  | ok suffix => rfl

end Message

end PersonaChat.Command
