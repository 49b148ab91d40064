import PersonaChat.Proofs.Command.Addressing

/-!
# Names that are mistaken

Where the image of a name is mistaken for something else, some message that is written with the
name does not reach its persona. With the converse, main statement: every persona can be addressed
exactly where no image is mistaken, and it would be enough to check images instead of names.

Spec guidance: `SPEC_FULL.md`, lines 75–84.
-/

namespace PersonaChat.Command

open Text Number

variable {names : List String} {name other : String} {c : Char} {r : List Char}

/-! ### What a command tells about its message -/

/-- Commands to the whole registry are made of their actions. -/
theorem eq_global_of_readGlobal? {cs : List Char} {command : Command}
    (h : readGlobal? cs = some command) : command = global command.action ∧
      ((∃ entry ∈ globalWords, command.action = entry.2) ∨
        ∃ model, command.action = .fillDescriptions model) := by
  unfold readGlobal? at h
  dsimp only at h
  split at h
  · next action haction =>
    cases h
    obtain ⟨front, back, hsplit, -⟩ := List.lookup_eq_some_iff.mp haction
    exact ⟨rfl, .inl ⟨(_, action), hsplit ▸ List.mem_append_right front List.mem_cons_self, rfl⟩⟩
  · split at h
    · cases h
      exact ⟨rfl, .inr ⟨_, rfl⟩⟩
    · cases h

/-- A message without a name is a command only where it is one to the whole registry. -/
theorem readGlobal?_of_readUnnamed? {cs : List Char} {command : Command}
    (h : readUnnamed? cs = some (.command command)) : readGlobal? cs = some command := by
  unfold readUnnamed? at h
  split at h
  · cases h
  · next hglobal =>
    cases h
    exact hglobal
  · cases h
  · cases h

/-- A command is one to the whole registry, a deletion, or one to the persona whose name is
found. -/
theorem read?_command_cases {text : String} {command : Command}
    (h : read? text names = .ok (some (.command command))) :
    readGlobal? text.toList = some command ∨
      readUnnamed? text.toList = none ∧
        ((∃ name, readDelete? text.toList names = some name ∧ command = deletion name) ∨
          readDelete? text.toList names = none ∧
            readPersona? text.toList names = .ok (some command)) := by
  unfold read? at h
  dsimp only at h
  split at h
  · next request hunnamed =>
    cases h
    exact .inl (readGlobal?_of_readUnnamed? hunnamed)
  · next hunnamed =>
    refine .inr ⟨hunnamed, ?_⟩
    split at h
    · next name hdelete =>
      cases h
      exact .inl ⟨name, hdelete, rfl⟩
    · next hdelete =>
      obtain ⟨found, hpersona, hfound⟩ := bind_eq_ok h
      cases found with
      | none => cases hfound
      | some found =>
        cases hfound
        exact .inr ⟨hdelete, hpersona⟩

/-- A command that names a persona is a deletion, or it is one to the persona whose name is
found. -/
theorem read?_command {text : String} {command : Command}
    (h : read? text names = .ok (some (.command command))) (hagent : command.agent ≠ "") :
    readUnnamed? text.toList = none ∧
      (readDelete? text.toList names = some command.agent ∧ command.action = .delete ∨
        readDelete? text.toList names = none ∧
          matchName? (normalize (contentOf text.toList)) names = some command.agent) := by
  rcases read?_command_cases h with hglobal | ⟨hunnamed, ⟨name, hdelete, rfl⟩ | ⟨hkept, hpersona⟩⟩
  · rw [(eq_global_of_readGlobal? hglobal).1] at hagent
    exact absurd rfl hagent
  · exact ⟨hunnamed, .inl ⟨hdelete, rfl⟩⟩
  · exact ⟨hunnamed, .inr ⟨hkept, (readPersona?_eq_some hpersona).1⟩⟩

/-- No other reader of messages without a name takes what is read otherwise. -/
theorem readUnnamed?_eq_none {cs : List Char} (h : readUnnamed? cs = none) :
    readGlobal? cs = none ∧ readCreate? cs = none := by
  unfold readUnnamed? at h
  split at h
  · cases h
  · cases h
  · cases h
  · next hglobal hcreate => exact ⟨hglobal, hcreate⟩

/-- No mark is left at the start of the content. -/
theorem isMark_head_contentOf {cs : List Char} :
    ∀ d ∈ (normalize (contentOf cs)).head?, isMark d = false := by
  have hdrop : normalize (contentOf cs) = (normalize (trim cs)).dropWhile isMark := by
    have hleft : (marksOf cs ++ (normalize (trim cs)).dropWhile isMark).drop (marksOf cs).length =
        (normalize (trim cs)).dropWhile isMark := List.drop_left
    rw [contentOf, ← drop_normalize]
    rwa [marksOf, List.takeWhile_append_dropWhile, ← marksOf] at hleft
  intro d hd
  have hnot := List.head?_dropWhile_not isMark (normalize (trim cs))
  rw [← hdrop, Option.mem_def.mp hd] at hnot
  exact hnot

/-- The description of a create request ends before what follows it. -/
theorem length_readDescription_le (cs : List Char) :
    (readDescription cs).2.length ≤ cs.length := by
  unfold readDescription
  split
  · split
    · rw [List.length_drop]
      exact Nat.sub_le _ _
    · exact Nat.le_refl _
  · exact Nat.le_refl _

/-- A token is no longer than the text that it is taken from. -/
theorem length_firstToken_le (cs : List Char) :
    ((firstToken? cs).getD ([], [])).1.length ≤ cs.length := by
  unfold firstToken?
  split
  · exact Nat.zero_le _
  · next d s hds =>
    have htoken := (List.takeWhile_prefix (l := d :: s) (!isBlank ·)).length_le
    have htrim := (List.dropWhile_suffix (l := cs) isBlank).length_le
    rw [trimLeft] at hds
    rw [hds] at htrim
    exact htoken.trans htrim

/-- What is typed before an operator is not trimmed. -/
theorem trim_operator (h : Name.Apart names) (hname : name ∈ names) (entry : String × ActionKind)
    (hentry : entry ∈ loneOperators) :
    trim (name ++ entry.1).toList = name.toList ++ entry.1.toList := by
  have hsolid : isBlank '~' = false ∧ isBlank '!' = false ∧ isBlank '-' = false ∧
      isBlank '*' = false := by decide
  have hsigns : ∀ entry ∈ loneOperators, ∀ d ∈ entry.1.toList, isBlank d = false := by
    simpa [loneOperators] using hsolid
  rw [String.toList_append]
  apply trim_of_all_solid
  intro d hd
  rcases List.mem_append.mp hd with hd | hd
  · exact h.isBlank_of_mem hname d hd
  · exact hsigns entry hentry d hd

/-- A message that starts as a create request does is one, if a name follows. -/
theorem readCreate?_ne_none (h : Name.Apart names) (hname : name ∈ names)
    (himage : normalize name.toList = '#' :: '#' :: c :: r) (hc : c ≠ '(') :
    readCreate? (name.toList ++ [' ', 'a']) ≠ none := by
  have hset : SetOff ' ' ['a'] := setOff_blank (by decide) (by decide)
  have hstart : ['#', '#'].isPrefixOf (normalize (trim (name.toList ++ [' ', 'a']))) = true := by
    rw [normalize_behind h hname hset, himage]
    rfl
  have htyped : trim (name.toList ++ [' ', 'a']) = name.toList ++ [' ', 'a'] :=
    trim_behind h hname hset
  obtain ⟨x, tail, hx, -, htail⟩ := List.map_eq_cons_iff.mp himage
  obtain ⟨y, tail, rfl, -, htail⟩ := List.map_eq_cons_iff.mp htail
  obtain ⟨d, front, rfl, hd, -⟩ := List.map_eq_cons_iff.mp htail
  have hlength : front.length + 3 ≤ Name.maxLength := by
    have hle := h.length_le hname
    rw [← String.length_toList, hx] at hle
    exact hle
  have hallows : ∀ z ∈ d :: front, Name.allows z = true := by
    intro z hz
    apply h.allows_of_mem hname
    rw [hx]
    exact List.mem_cons_of_mem _ (List.mem_cons_of_mem _ hz)
  generalize hp : (fun z ↦ !(isBlank z || narrow z == '(')) = p
  have hpd : p d = true := by
    rw [← hp]
    simp [hd, isBlank_of_allows (hallows d List.mem_cons_self), hc]
  have hpblank : p ' ' = false := by
    rw [← hp]
    rfl
  -- The name ends before the blank.
  have hword : (d :: front ++ [' ', 'a']).takeWhile p = (d :: front).takeWhile p := by
    have hnil : [' ', 'a'].takeWhile p = [] := List.takeWhile_cons_of_neg (by simp [hpblank])
    rw [List.takeWhile_append, hnil, List.append_nil]
    split
    · next heq => exact ((List.takeWhile_prefix p).eq_of_length heq).symm
    · rfl
  have hvalid : Name.isValid (String.ofList (trim ((d :: front).takeWhile p))) = true := by
    have hmem : ∀ z ∈ (d :: front).takeWhile p, Name.allows z = true := fun z hz ↦
      hallows z ((List.takeWhile_subset p) hz)
    have hle := (List.takeWhile_prefix (l := d :: front) p).length_le
    rw [trim_of_all_solid fun z hz ↦ isBlank_of_allows (hmem z hz)]
    simp only [Name.isValid, Bool.and_eq_true, bne_iff_ne, decide_eq_true_eq, List.all_eq_true,
      String.toList_ofList, String.length_ofList]
    refine ⟨⟨?_, ?_⟩, hmem⟩
    · rw [List.takeWhile_cons_of_pos hpd, ← String.ofList_nil, Ne, String.ofList_inj]
      exact List.cons_ne_nil _ _
    · rw [List.length_cons] at hle
      omega
  have hmodel : ((firstToken? (readDescription ((d :: front ++ [' ', 'a']).dropWhile p)).2).getD
      ([], [])).1.length ≤ maxModelLength := by
    refine (length_firstToken_le _).trans ((length_readDescription_le _).trans ?_)
    refine (List.dropWhile_suffix p).length_le.trans ?_
    have hmax : Name.maxLength + 1 ≤ maxModelLength := by decide
    simp only [List.length_append, List.length_cons, List.length_nil]
    omega
  have hafter : (x :: y :: d :: front ++ [' ', 'a']).drop 2 = d :: front ++ [' ', 'a'] := rfl
  have hpassed : ¬ (!true) = true := Bool.false_ne_true
  unfold readCreate?
  dsimp only
  rw [hstart, htyped, hp, hx, hafter, hword, hvalid, if_neg hpassed, if_neg hpassed,
    if_neg (Nat.not_lt.mpr hmodel)]
  exact Option.some_ne_none _

section Necessary

variable (h : Name.Apart names) (ha : ∀ name ∈ names, Addressed names name)
include h ha

/-- An operator behind a name is read as a command to the persona whose name is found. -/
theorem operator_found (hname : name ∈ names) (entry : String × ActionKind)
    (hentry : entry ∈ loneOperators) :
    readUnnamed? (name ++ entry.1).toList = none ∧
      matchName? (normalize (contentOf (name ++ entry.1).toList)) names = some name := by
  obtain ⟨command, hread, rfl, hkind⟩ := (ha name hname).operator entry hentry
  obtain ⟨hunnamed, ⟨-, hdelete⟩ | ⟨-, hfound⟩⟩ := read?_command hread (h.ne_empty hname)
  · have hkinds : ∀ entry ∈ loneOperators, entry.2 ≠ .delete := by decide
    rw [hdelete] at hkind
    exact absurd hkind.symm (hkinds entry hentry)
  · exact ⟨hunnamed, hfound⟩

private theorem unmarked_of_addressed (hname : name ∈ names) :
    ∀ c ∈ (normalize name.toList).head?, isMark c = false := by
  intro c hc
  rw [← Bool.not_eq_true]
  intro hmark
  obtain ⟨r, hr⟩ := List.head?_eq_some_iff.mp hc
  obtain ⟨-, hfound⟩ := operator_found h ha hname ("!", .stop) (by decide)
  have hfits := (matchName?_eq_some hfound).2.1
  rw [startsWithName, Bool.and_eq_true, beq_iff_eq, hr] at hfits
  obtain ⟨s, hs⟩ := Name.exists_cons_of_lower_eq (allows_of_isMark hmark) hfits.2
  have hhead : (normalize (contentOf (name ++ "!").toList)).head? = some c := by
    cases hcontent : normalize (contentOf (name ++ "!").toList) with
    | nil =>
      rw [hcontent, List.take_nil] at hs
      cases hs
    | cons d w =>
      rw [hcontent] at hs
      cases hn : name.length with
      | zero =>
        rw [hn] at hs
        cases hs
      | succ n =>
        rw [hn, List.take_succ_cons] at hs
        rw [(List.cons.inj hs).1]
        rfl
  rw [isMark_head_contentOf c hhead] at hmark
  cases hmark

private theorem uncreated_of_addressed (hname : name ∈ names)
    (himage : normalize name.toList = '#' :: '#' :: c :: r) : c = '(' := by
  by_contra hc
  obtain ⟨command, hread, hagent⟩ := (ha name hname).talk "a" (by decide) (by decide)
    not_holdsLongRun_nil
  have hunnamed := (read?_command hread (by rw [hagent]; exact h.ne_empty hname)).1
  have htext : (name ++ " " ++ "a").toList = name.toList ++ [' ', 'a'] := by simp
  rw [htext] at hunnamed
  exact readCreate?_ne_none h hname himage hc (readUnnamed?_eq_none hunnamed).2

private theorem uncleared_of_addressed (hname : name ∈ names) :
    normalize name.toList ≠ ['-', '*'] := by
  intro himage
  obtain ⟨hunnamed, -⟩ := operator_found h ha hname ("!", .stop) (by decide)
  have hnarrowed : normalize (trim (name ++ "!").toList) = ['-', '*', '!'] := by
    rw [trim_operator h hname ("!", .stop) (by decide), normalize, List.map_append,
      ← normalize, himage]
    rfl
  have hnone := (readUnnamed?_eq_none hunnamed).1
  unfold readGlobal? at hnone
  dsimp only at hnone
  rw [hnarrowed] at hnone
  cases hnone

private theorem undeleted_of_addressed (hname : name ∈ names)
    (himage : normalize name.toList = ['-', '#']) (hother : other ∈ names) : other = name := by
  have hsolid := h.isBlank_of_mem hother
  have htrim : trim other.toList = other.toList := trim_of_all_solid hsolid
  have hset := setOff_blank htrim (h.toList_ne_nil hother)
  have hlong : ¬ HoldsLongRun (searched (normalize other.toList)) := by
    have hshort := h.length_le hother
    have hle := length_searched_le (normalize other.toList)
    rw [length_normalize, String.length_toList] at hle
    exact not_holdsLongRun_of_short (hle.trans (hshort.trans (by decide)))
  obtain ⟨command, hread, hagent⟩ := (ha name hname).talk other (h.ne_empty hother)
    (by rw [trimString, htrim, String.ofList_toList]) hlong
  have htext : (name ++ " " ++ other).toList = name.toList ++ ' ' :: other.toList := by simp
  have hdelete : readDelete? (name ++ " " ++ other).toList names = some other := by
    have hstart : ['-', '#'] <+: normalize (trim (name.toList ++ ' ' :: other.toList)) := by
      rw [normalize_behind h hname hset, himage]
      exact List.prefix_append _ _
    obtain ⟨-, hafter⟩ := exists_behind_signs h hname hset (by decide) hstart
    have hnil : name.toList.drop ['-', '#'].length = [] := by
      rw [List.drop_eq_nil_iff, ← length_normalize, himage]
    have htarget : trim ((trim (name.toList ++ ' ' :: other.toList)).drop 2) = other.toList := by
      rw [show 2 = ['-', '#'].length from rfl, hafter, hnil, List.nil_append, ← hset.trimRight_eq,
        trim_trimRight_blank_cons (by decide) htrim]
    rw [← List.isPrefixOf_iff_prefix] at hstart
    simp only [readDelete?, htext, hstart, htarget, h.find?_lower hother]
    rfl
  rcases (read?_command hread (by rw [hagent]; exact h.ne_empty hname)).2 with
    ⟨hread', -⟩ | ⟨hnone, -⟩
  · rw [hdelete, hagent] at hread'
    exact Option.some.inj hread'
  · rw [hdelete] at hnone
    cases hnone

private theorem unshadowed_of_addressed (hname : name ∈ names) (hother : other ∈ names)
    (hne : other ≠ name)
    (hlength : name.length ≤ other.length) {entry : String × ActionKind}
    (hentry : entry ∈ loneOperators) :
    startsWithName (normalize name.toList ++ entry.1.toList) other = false := by
  have hsigns : ∀ entry ∈ loneOperators, normalize entry.1.toList = entry.1.toList := by decide
  have hcontent {name : String} (hname : name ∈ names) :
      normalize (contentOf (name ++ entry.1).toList) = normalize name.toList ++
      entry.1.toList := by
    have himage : normalize (trim (name ++ entry.1).toList) =
        normalize name.toList ++ entry.1.toList := by
      rw [trim_operator h hname entry hentry, normalize, List.map_append, ← normalize, ← normalize,
        hsigns entry hentry]
    have hmarks :=
      marksOf_eq_nil (h.image_ne_nil hname) (unmarked_of_addressed h ha hname) himage
    rw [contentOf, hmarks]
    exact himage
  have hfound {name : String} (hname : name ∈ names) :
      matchName? (normalize name.toList ++ entry.1.toList) names = some name := by
    rw [← hcontent hname]
    exact (operator_found h ha hname entry hentry).2
  rcases Nat.eq_or_lt_of_le hlength with heq | hlt
  · rw [← Bool.not_eq_true]
    intro hfits
    have hname' : (normalize name.toList).length = name.length := by
      rw [length_normalize, String.length_toList]
    have hother' : (normalize other.toList).length = other.length := by
      rw [length_normalize, String.length_toList]
    have hlower := ((startsWithName_append_iff (hname'.trans heq)).mp hfits).2
    have hfits' : startsWithName (normalize other.toList ++ entry.1.toList) name = true :=
      (startsWithName_append_iff (hother'.trans heq.symm)).mpr ⟨h.ne_empty hname, hlower.symm⟩
    exact hne (eq_of_matchName? (hfound hname) (hfound hother) hfits hfits').symm
  · exact (matchName?_eq_some (hfound hname)).2.2 other hother hlt

end Necessary

/-- Every persona can be addressed exactly where no image of a name is mistaken. -/
theorem names_are_addressed_iff (h : Name.Apart names) :
    (∀ name ∈ names, Addressed names name) ↔ Unmistakable names := by
  constructor
  · intro ha
    exact
      { unmarked := fun name hname ↦ unmarked_of_addressed h ha hname
        uncreated := fun name hname c r himage ↦ uncreated_of_addressed h ha hname himage
        uncleared := fun name hname ↦ uncleared_of_addressed h ha hname
        undeleted := fun name hname himage other hother ↦
          undeleted_of_addressed h ha hname himage hother
        unshadowed := fun name hname other hother hne hlength entry hentry ↦
          unshadowed_of_addressed h ha hname hother hne hlength hentry }
  · exact fun hu name hname ↦ hu.addressed h hname

/-- If the images were checked instead of the names, none would be mistaken. -/
theorem unmistakable_of_apart_images (h : Name.Apart (names.map normalizeString)) :
    Unmistakable names := by
  have hallows {name : String} (hname : name ∈ names) :
      ∀ c ∈ normalize name.toList, Name.allows c = true := by
    intro c hc
    apply h.allows_of_mem (List.mem_map_of_mem hname)
    rwa [normalizeString, String.toList_ofList]
  have hfree {name : String} (hname : name ∈ names) {c : Char} (hbarred : Name.allows c = false) :
      c ∉ normalize name.toList := by
    intro hc
    rw [hallows hname c hc] at hbarred
    cases hbarred
  have hlength (name : String) : (normalize name.toList).length = name.length := by
    rw [length_normalize, String.length_toList]
  refine ⟨?_, ?_, ?_, ?_, ?_⟩
  · intro name hname c hc
    rw [← Bool.not_eq_true]
    exact fun hmark ↦ hfree hname (allows_of_isMark hmark) (List.mem_of_mem_head? hc)
  · intro name hname c r himage
    exact absurd (himage ▸ List.mem_cons_self) (hfree hname (c := '#') (by decide))
  · intro name hname himage
    exact absurd (himage ▸ List.mem_cons_self) (hfree hname (c := '-') (by decide))
  · intro name hname himage
    exact absurd (himage ▸ List.mem_cons_self) (hfree hname (c := '-') (by decide))
  · intro name hname other hother hne hle entry hentry
    rw [← Bool.not_eq_true]
    intro hfits
    rcases Nat.eq_or_lt_of_le hle with heq | hlt
    · have hlower := ((startsWithName_append_iff ((hlength name).trans heq)).mp hfits).2
      have hnodup := h.nodup
      rw [List.map_map] at hnodup
      apply hne
      apply List.inj_on_of_nodup_map hnodup hother hname
      simp only [Function.comp_apply, lowerString, normalizeString, String.toList_ofList, hlower]
    · -- The operator stands where the image has a character of the name.
      have hsigns : ∀ entry ∈ loneOperators, ∃ c r, entry.1.toList = c :: r ∧
          Name.allows c = false := by
        simp only [loneOperators, List.mem_cons, List.not_mem_nil, or_false]
        rintro entry (rfl | rfl | rfl)
        all_goals exact ⟨_, _, rfl, by decide⟩
      obtain ⟨c, r, hsign, hbarred⟩ := hsigns entry hentry
      rw [startsWithName, Bool.and_eq_true, beq_iff_eq, hsign] at hfits
      have hmem : c ∈ (normalize name.toList ++ c :: r).take other.length :=
        mem_take_of_longer (by rwa [hlength])
      exact Name.lower_ne_of_barred (hallows hother) hmem hbarred hfits.2

/-- A question mark of any width stands in no one's way. -/
theorem names_are_addressed_of_question :
    Name.Apart ["问？", "Bot"] ∧ ∀ name ∈ ["问？", "Bot"], Addressed ["问？", "Bot"] name := by
  have hnames : Name.Apart ["问？", "Bot"] := ⟨by decide, by decide +kernel⟩
  have himages : Name.Apart (["问？", "Bot"].map normalizeString) := ⟨by decide, by decide +kernel⟩
  exact ⟨hnames, (names_are_addressed_iff hnames).mpr (unmistakable_of_apart_images himages)⟩

/-- A name that looks like a private mark is never found, and stopping one that looks like a
clearing empties all histories of all personas. -/
theorem not_addressed_of_full_width_signs :
    Name.Apart ["＆x"] ∧ read? "＆x hello" ["＆x"] = .ok none ∧ Name.Apart ["－＊"] ∧
      read? "－＊!" ["－＊"] = .ok (some (.command (global .clearEverything))) := by
  refine ⟨⟨by decide, by decide +kernel⟩, by decide +kernel, ⟨by decide, by decide +kernel⟩,
    by decide +kernel⟩

end PersonaChat.Command
