import PersonaChat.Command.Reader
import PersonaChat.Proofs.Results
import PersonaChat.Proofs.Text.Blank

/-!
# Narrowing changes what is recognised, not what is said

A full-width sign and the sign it counts as are alike to every reader, and neither is a blank. So a
message and its narrowed image are recognised as the same command, and what the one says is the
narrowed image of what the other says. Main statement: arguments are contiguous pieces of the
message as it was typed, with its full-width signs.

Spec guidance: `SPEC_FULL.md`, lines 55–63.
-/

namespace PersonaChat.Command

open Text

/-! ### Signs -/

/-- Characters that are no full-width signs count as themselves. -/
theorem narrow_of_notMem {c : Char} (h : c ∉ fullWidth.map Prod.fst) : narrow c = c := by
  have hnone : fullWidth.lookup c = none := by
    rw [List.lookup_eq_none_iff]
    intro entry hentry
    simp only [bne_iff_ne, ne_eq]
    rintro rfl
    exact h (List.mem_map_of_mem hentry)
  rw [narrow, hnone, Option.getD_none]

/-- A text without full-width signs is its own image. -/
theorem normalize_of_notMem {cs : List Char} (h : ∀ c ∈ cs, c ∉ fullWidth.map Prod.fst) :
    normalize cs = cs := by
  have hsame : cs.map narrow = cs.map id :=
    List.map_congr_left fun c hc ↦ narrow_of_notMem (h c hc)
  rw [normalize, hsame, List.map_id]

/-- What the two signs of each pair have in common a character and its image have in common. -/
theorem eq_of_pairs {α : Type} [DecidableEq α] {f : Char → α}
    (h : fullWidth.all (fun pair ↦ decide (f pair.2 = f pair.1)) = true) (c : Char) :
    f (narrow c) = f c := by
  cases hc : fullWidth.lookup c with
  | none => rw [narrow, hc, Option.getD_none]
  | some d =>
    obtain ⟨front, back, hpair, -⟩ := List.lookup_eq_some_iff.mp hc
    have hmem : (c, d) ∈ fullWidth := by
      rw [hpair]
      exact List.mem_append_right front List.mem_cons_self
    rw [narrow, hc, Option.getD_some]
    exact of_decide_eq_true (List.all_eq_true.mp h (c, d) hmem)

/-- Narrowing twice is narrowing once. -/
@[simp] theorem narrow_narrow (c : Char) : narrow (narrow c) = narrow c :=
  eq_of_pairs (by decide) c

/-- A character is a blank if it is one when narrowed. -/
@[simp] theorem isBlank_narrow (c : Char) : isBlank (narrow c) = isBlank c :=
  eq_of_pairs (by decide) c

/-! ### Texts -/

/-- Narrowing a text twice is narrowing it once. -/
@[simp] theorem normalize_normalize (cs : List Char) :
    normalize (normalize cs) = normalize cs := by
  rw [normalize, normalize, List.map_map]
  exact List.map_congr_left fun c _ ↦ narrow_narrow c

/-- Characters are dropped from a text before or after it is narrowed. -/
theorem drop_normalize (n : Nat) (cs : List Char) :
    (normalize cs).drop n = normalize (cs.drop n) :=
  List.map_drop.symm

/-- Where a text is cut by blanks does not depend on its signs. -/
theorem isBlank_comp_narrow : isBlank ∘ narrow = isBlank := funext isBlank_narrow

/-- A text is trimmed before or after it is narrowed. -/
theorem trim_normalize (cs : List Char) : trim (normalize cs) = normalize (trim cs) := by
  simp only [trim, trimLeft, trimRight, normalize, List.dropWhile_map, ← List.map_reverse,
    isBlank_comp_narrow]

/-- A text is cut at its first blank before or after it is narrowed. -/
theorem cutAtBlank_normalize (cs : List Char) :
    cutAtBlank (normalize cs) =
    (normalize (cutAtBlank cs).1, (cutAtBlank cs).2.map normalize) := by
  induction cs with
  | nil => rfl
  | cons c cs ih =>
    rw [normalize, List.map_cons, cutAtBlank, isBlank_narrow, cutAtBlank]
    split
    · rfl
    · rw [← normalize, ih]
      rfl

/-- What stands behind the first blank is the end of the text. -/
theorem suffix_of_cutAtBlank {cs tail : List Char} (h : (cutAtBlank cs).2 = some tail) :
    tail <:+ cs := by
  induction cs with
  | nil => cases h
  | cons c cs ih =>
    rw [cutAtBlank] at h
    split at h
    · cases h
      exact List.suffix_cons c _
    · exact (ih h).trans (List.suffix_cons c cs)

private theorem trim_isInfix (cs : List Char) : trim cs <:+: cs :=
  (trimRight_isPrefix (trimLeft cs)).isInfix.trans (List.dropWhile_suffix isBlank).isInfix

/-! ### What follows a name -/

/-- The suffix with the signs of its text narrowed. -/
def Suffix.narrowed (s : Suffix) : Suffix := { s with args := normalize s.args }

/-- The readers of positions look at narrowed texts only. -/
theorem readHistorySuffix_normalize (scope : Scope) (narrowed typed talk : List Char) :
    readHistorySuffix scope narrowed (normalize typed) (normalize talk) =
      (readHistorySuffix scope narrowed typed talk).map Suffix.narrowed := by
  unfold readHistorySuffix
  dsimp only
  split
  · rfl
  · next c r _ =>
    cases readIndices (c :: r) with
    | error fault => rfl
    | ok indices =>
      simp only [bind, Except.bind, pure, Except.pure, Except.map]
      split
      · rfl
      · rfl
  · rfl
  · rw [drop_normalize, cutAtBlank_normalize]
    dsimp only
    rw [normalize_normalize]
    cases readIndices (normalize (cutAtBlank (typed.drop 1)).1) with
    | error fault => rfl
    | ok indices =>
      simp only [bind, Except.bind, pure, Except.pure, Except.map, Suffix.narrowed]
      cases (cutAtBlank (typed.drop 1)).2 with
      | none => rfl
      | some tail => simp only [Option.map_some, Option.getD_some, trim_normalize]
  · rfl
  · next c r _ =>
    cases readIndices (c :: r) with
    | error fault => rfl
    | ok indices =>
      simp only [bind, Except.bind, pure, Except.pure, Except.map]
      split
      · rfl
      · rfl
  · rfl

/-- What follows a name is recognised by its image alone, and only its text is taken as it was
typed. -/
theorem readSuffix_normalize (narrowed typed : List Char) (marked : Bool) :
    readSuffix narrowed (normalize typed) marked =
      (readSuffix narrowed typed marked).map Suffix.narrowed := by
  have htext (action : Action) (n : Nat) :
      Except.ok (.ofText action (trim ((normalize typed).drop n))) =
        (Except.ok (.ofText action (trim (typed.drop n))) : Except IndexFault Suffix).map
          Suffix.narrowed := by
    rw [drop_normalize, trim_normalize]
    rfl
  unfold readSuffix
  split
  · rfl
  · exact htext .copy 2
  · exact htext .rename 2
  · exact htext .regenerate 1
  · rfl
  · exact readHistorySuffix_normalize _ _ typed typed
  · exact htext .setDescription 1
  · exact htext .setModel 1
  · exact htext .setPrompt 1
  · rfl
  · rw [drop_normalize]
    exact readHistorySuffix_normalize _ _ _ typed
  · exact readHistorySuffix_normalize _ _ typed typed

/-- The text of an operator on a history is all talk or a piece of what was typed. -/
theorem readHistorySuffix_args {scope : Scope} {narrowed typed talk : List Char} {s : Suffix}
    (h : readHistorySuffix scope narrowed typed talk = .ok s) :
    s.args = talk ∨ s.args <:+: typed := by
  have hnil : ([] : List Char) <:+: typed := List.nil_infix
  have hpositions {cs : List Char} {action : Action} (h : (do
      let indices ← readIndices cs
      return if indices.isEmpty then Suffix.ofText .chat talk else ⟨action, [], indices⟩ :
        Except IndexFault Suffix) = .ok s) : s.args = talk ∨ s.args <:+: typed := by
    obtain ⟨indices, -, hs⟩ := bind_eq_ok h
    cases hs
    split
    · exact .inl rfl
    · exact .inr hnil
  unfold readHistorySuffix at h
  dsimp only at h
  split at h
  · cases h
    exact .inr hnil
  · exact hpositions h
  · cases h
    exact .inr hnil
  · obtain ⟨indices, -, hs⟩ := bind_eq_ok h
    cases hs
    right
    cases htail : (cutAtBlank (typed.drop 1)).2 with
    | none => exact hnil
    | some tail =>
      have hsuffix := (suffix_of_cutAtBlank htail).trans (List.drop_suffix 1 typed)
      exact (trim_isInfix tail).trans hsuffix.isInfix
  · cases h
    exact .inr hnil
  · exact hpositions h
  · cases h
    exact .inl rfl

/-- The text of a suffix is a contiguous piece of what was typed. -/
theorem readSuffix_args {narrowed typed : List Char} {marked : Bool} {s : Suffix}
    (h : readSuffix narrowed typed marked = .ok s) : s.args <:+: typed := by
  have hwhole : typed <:+: typed := List.infix_rfl
  have hpiece (n : Nat) : trim (typed.drop n) <:+: typed :=
    (trim_isInfix _).trans (List.drop_suffix n typed).isInfix
  have hhistory {scope : Scope} {narrowed part : List Char} (hpart : part <:+: typed)
      (h : readHistorySuffix scope narrowed part typed = .ok s) : s.args <:+: typed := by
    rcases readHistorySuffix_args h with htalk | hinfix
    · exact htalk ▸ hwhole
    · exact hinfix.trans hpart
  unfold readSuffix at h
  split at h
  · cases h
    exact hwhole
  · cases h
    exact hpiece 2
  · cases h
    exact hpiece 2
  · cases h
    exact hpiece 1
  · cases h
    exact List.nil_infix
  · exact hhistory hwhole h
  · cases h
    exact hpiece 1
  · cases h
    exact hpiece 1
  · cases h
    exact hpiece 1
  · cases h
    exact List.nil_infix
  · exact hhistory (List.drop_suffix 1 typed).isInfix h
  · exact hhistory hwhole h

/-! ### Messages -/

/-- The command with the signs of its text narrowed. -/
def narrowArgs (c : Command) : Command := { c with args := normalizeString c.args }

/-- The command with the signs of its model narrowed, if it carries one. -/
def narrowModel (c : Command) : Command :=
  match c.action with
  | .fillDescriptions model => { c with action := .fillDescriptions (model.map normalizeString) }
  | _ => c

variable (cs : List Char) (names : List String)

private theorem marksOf_normalize : marksOf (normalize cs) = marksOf cs := by
  rw [marksOf, trim_normalize, normalize_normalize, marksOf]

private theorem contentOf_normalize : contentOf (normalize cs) = normalize (contentOf cs) := by
  rw [contentOf, marksOf_normalize, trim_normalize, drop_normalize, contentOf]

/-- The image of a message is recognised as the same command to a persona, with the image of its
text. -/
theorem readPersona?_normalize :
    readPersona? (normalize cs) names = (readPersona? cs names).map (Option.map narrowArgs) := by
  unfold readPersona?
  dsimp only
  rw [marksOf_normalize, contentOf_normalize, normalize_normalize]
  split
  · rfl
  · next name _ =>
    rw [drop_normalize, trim_normalize, normalize_normalize, readSuffix_normalize]
    cases readSuffix (normalize (trim ((contentOf cs).drop name.length)))
      (trim ((contentOf cs).drop name.length)) ((marksOf cs).contains '&') with
    | error fault => rfl
    | ok s => simp [bind, Except.bind, pure, Except.pure, Except.map, Suffix.narrowed, narrowArgs,
        normalizeString]

/-- What follows a name at the start of a message, behind its marks. -/
def suffixOf (cs : List Char) (name : String) : List Char := trim ((contentOf cs).drop name.length)

variable {cs names} in
/-- A command to a persona has the name that is found and says what stands behind it. -/
theorem readPersona?_eq_some {c : Command} (h : readPersona? cs names = .ok (some c)) :
    matchName? (normalize (contentOf cs)) names = some c.agent ∧
      ∃ s, readSuffix (normalize (suffixOf cs c.agent)) (suffixOf cs c.agent)
          ((marksOf cs).contains '&') = .ok s ∧ c.args = String.ofList s.args := by
  unfold readPersona? at h
  dsimp only at h
  split at h
  · cases h
  · next name hname =>
    rw [← suffixOf] at h
    obtain ⟨s, hs, hc⟩ := bind_eq_ok h
    cases hc
    exact ⟨hname, s, hs, rfl⟩

variable {cs names} in
/-- The text of a command to a persona is a contiguous piece of the message. -/
theorem readPersona?_args {c : Command} (h : readPersona? cs names = .ok (some c)) :
    c.args.toList <:+: cs := by
  obtain ⟨-, s, hs, hargs⟩ := readPersona?_eq_some h
  have hcontent : contentOf cs <:+: cs := (List.drop_suffix _ _).isInfix.trans (trim_isInfix cs)
  have hrest : suffixOf cs c.agent <:+: cs := (trim_isInfix _).trans
    ((List.drop_suffix c.agent.length _).isInfix.trans hcontent)
  rw [hargs, String.toList_ofList]
  exact (readSuffix_args hs).trans hrest

/-- The image of a message is recognised as the same command to the whole registry, with the image
of its model. -/
theorem readGlobal?_normalize : readGlobal? (normalize cs) = (readGlobal? cs).map narrowModel := by
  unfold readGlobal?
  dsimp only
  rw [trim_normalize, normalize_normalize, drop_normalize, trim_normalize]
  split
  · next action hword =>
    have hplain : ∀ entry ∈ globalWords, narrowModel (global entry.2) = global entry.2 := by
      simp [globalWords, narrowModel, global]
    obtain ⟨front, back, hsplit, -⟩ := List.lookup_eq_some_iff.mp hword
    have hmem : (normalize (trim cs), action) ∈ globalWords := by
      rw [hsplit]
      exact List.mem_append_right front List.mem_cons_self
    rw [Option.map_some, hplain _ hmem]
  · split
    · simp [narrowModel, global, normalizeString]
    · rfl

variable {cs} in
/-- The model of a command to the whole registry is a contiguous piece of the message. -/
theorem readGlobal?_model {c : Command} {model : String} (h : readGlobal? cs = some c)
    (hmodel : c.action = .fillDescriptions (some model)) : model.toList <:+: cs := by
  unfold readGlobal? at h
  dsimp only at h
  split at h
  · next action hword =>
    have hplain : ∀ entry ∈ globalWords, ∀ model, entry.2 ≠ .fillDescriptions model := by
      simp [globalWords]
    obtain ⟨front, back, hsplit, -⟩ := List.lookup_eq_some_iff.mp hword
    have hmem : (normalize (trim cs), action) ∈ globalWords := by
      rw [hsplit]
      exact List.mem_append_right front List.mem_cons_self
    cases h
    exact absurd hmodel (hplain _ hmem _)
  · split at h
    · cases h
      cases hmodel
      rw [String.toList_ofList]
      exact (trim_isInfix _).trans ((List.drop_suffix 3 _).isInfix.trans (trim_isInfix cs))
    · cases h

/-- A message and its narrowed image are recognised as the same command, to a persona or to the
whole registry, or neither is. What the one says is the image of what the other says, and it stands
in the message as it was typed. -/
theorem narrowing_keeps_recognition (text : String) (names : List String) :
    readPersona? (normalize text.toList) names =
        (readPersona? text.toList names).map (Option.map narrowArgs) ∧
      (∀ c, readPersona? text.toList names = .ok (some c) → c.args.toList <:+: text.toList) ∧
      readGlobal? (normalize text.toList) = (readGlobal? text.toList).map narrowModel ∧
      ∀ c model, readGlobal? text.toList = some c → c.action = .fillDescriptions (some model) →
        model.toList <:+: text.toList :=
  ⟨readPersona?_normalize text.toList names, fun _ h ↦ readPersona?_args h,
    readGlobal?_normalize text.toList, fun _ _ h hmodel ↦ readGlobal?_model h hmodel⟩

/-- A full-width mark and a full-width operator count as signs, and the full-width signs of the
text stay. -/
theorem narrowing_keeps_recognition_of_edit :
    let text := "＆Bot’2 好！～（a）"
    let c : Command := ⟨"Bot", .editAt .personal, "好！～（a）", [2], true, false⟩
    readPersona? text.toList ["Bot"] = .ok (some c) ∧
      readPersona? "&Bot'2 好!~(a)".toList ["Bot"] = .ok (some { c with args := "好!~(a)" }) ∧
      c.args.toList <:+: text.toList := by
  intro text c
  have hread : readPersona? text.toList ["Bot"] = .ok (some c) := by decide +kernel
  obtain ⟨himage, hpiece, -⟩ := narrowing_keeps_recognition text ["Bot"]
  have hnormalize : normalize text.toList = "&Bot'2 好!~(a)".toList := by decide
  have hargs : narrowArgs c = { c with args := "好!~(a)" } := by decide
  rw [hnormalize, hread] at himage
  refine ⟨hread, himage.trans ?_, hpiece c hread⟩
  rw [← hargs]
  rfl

end PersonaChat.Command
