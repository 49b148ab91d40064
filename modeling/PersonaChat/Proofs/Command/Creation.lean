import Mathlib.Data.Bool.AllAny
import PersonaChat.Proofs.Command.Precedence

/-!
# Create requests are read back

A create request is written as two number signs, a name, perhaps a description in parentheses, and
behind blanks a model and a system prompt. Signs and parentheses may have either width. Main
statement: what is written so is read as the request that it writes, with all texts as they were
typed, whatever personas there are; where the model is too long, no request is read.

Spec guidance: `SPEC_FULL.md`, lines 73–76.
-/

namespace PersonaChat.Command

open Text

/-! ### Requests in writing -/

/-- The description as it stands behind the name: in parentheses, or nowhere. -/
inductive Bracketed : List Char → List Char → Prop
  /-- There is none. -/
  | absent : Bracketed [] []
  /-- It is trimmed and holds no closing parenthesis of its own. -/
  | given {opening closing : Char} {description : List Char} (hopening : narrow opening = '(')
      (hclosing : narrow closing = ')') (htrim : trim description = description)
      (hfree : ∀ c ∈ description, narrow c ≠ ')') :
      Bracketed (opening :: (description ++ [closing])) description

/-- A create request in writing. -/
structure CreateWriting where
  /-- The signs that it starts with. -/
  signs : List Char
  /-- The name. -/
  name : List Char
  /-- The description in its parentheses. -/
  part : List Char
  /-- The description. -/
  description : List Char
  /-- Blanks before the model. -/
  gap : List Char
  /-- The model. -/
  model : List Char
  /-- Blanks before the prompt. -/
  gap' : List Char
  /-- The system prompt. -/
  prompt : List Char

namespace CreateWriting

/-- What stands behind the name and the description. -/
def rest (w : CreateWriting) : List Char := w.gap ++ (w.model ++ (w.gap' ++ w.prompt))

/-- The text of a request. -/
def chars (w : CreateWriting) : List Char := w.signs ++ (w.name ++ (w.part ++ w.rest))

/-- The request that is written. -/
def request (w : CreateWriting) : CreateRequest where
  name := String.ofList w.name
  description := String.ofList w.description
  model := String.ofList w.model
  prompt := String.ofList w.prompt

/-- What makes a request well written. -/
structure Proper (w : CreateWriting) : Prop where
  /-- Two number signs of either width. -/
  signs : normalize w.signs = ['#', '#']
  /-- An acceptable name. -/
  valid : Name.isValid (String.ofList w.name) = true
  /-- No character of the name counts as another one. -/
  plain : ∀ c ∈ w.name, c ∉ fullWidth.map Prod.fst
  /-- None opens a description. -/
  unopened : '(' ∉ w.name
  /-- A description in parentheses, or none. -/
  part : Bracketed w.part w.description
  /-- At least one blank before the model. -/
  gap : w.gap ≠ [] ∧ ∀ c ∈ w.gap, isBlank c = true
  /-- No blank in the model. -/
  model : ∀ c ∈ w.model, isBlank c = false
  /-- At least one blank before the prompt. -/
  gap' : w.gap' ≠ [] ∧ ∀ c ∈ w.gap', isBlank c = true
  /-- The prompt is trimmed. -/
  trimmed : trim w.prompt = w.prompt
  /-- No prompt without a model. -/
  prompt : w.model = [] → w.prompt = []

end CreateWriting

/-! ### The description -/

namespace Bracketed

variable {part description rest : List Char}

private theorem trimRight_append (h : Bracketed part description) (rest : List Char) :
    trimRight (part ++ rest) = part ++ trimRight rest := by
  cases h with
  | absent => rfl
  | @given opening closing description _ hclosing =>
    have hsolid : isBlank closing = false := by
      rw [← isBlank_narrow, hclosing]
      decide
    have hword : IsWord [closing] := ⟨List.cons_ne_nil _ _, List.forall_mem_singleton.mpr hsolid⟩
    have hend := hword.trimRight_append (opening :: description) rest
    simpa using hend

/-- A name ends where the description opens, and without one at the blanks that follow. -/
theorem ends_name (h : Bracketed part description) (hrest : ∀ c ∈ rest.head?, isBlank c = true) :
    ∀ c ∈ (part ++ rest).head?, (!(isBlank c || narrow c == '(')) = false := by
  cases h with
  | absent =>
    intro c hc
    simp [hrest c hc]
  | given hopening =>
    rintro c ⟨⟩
    simp [hopening]

/-- The description is read up to its parenthesis. -/
theorem readDescription_append (h : Bracketed part description)
    (hrest : ∀ c ∈ rest.head?, isBlank c = true) :
    readDescription (part ++ rest) = (description, rest) := by
  cases h with
  | absent =>
    unfold readDescription
    split
    · next r hopen =>
      obtain ⟨c, r, rfl, hc, -⟩ := List.map_eq_cons_iff.mp hopen
      have hblank := hrest c rfl
      rw [← isBlank_narrow, hc] at hblank
      cases hblank
    · rfl
  | @given opening closing description hopening hclosing htrim hfree =>
    have hnone : description.findIdx? ((· == ')') ∘ narrow) = none := by
      rw [List.findIdx?_eq_none_iff]
      exact fun c hc ↦ by simp [hfree c hc]
    have hclose : (normalize (opening :: (description ++ [closing]) ++ rest)).findIdx? (· == ')') =
        some (description.length + 1) := by
      rw [normalize, List.findIdx?_map]
      simp [List.findIdx?_cons, List.findIdx?_append, hopening, hclosing, hnone]
    have hopen : normalize (opening :: (description ++ [closing]) ++ rest) =
        '(' :: normalize (description ++ [closing] ++ rest) := by
      rw [List.cons_append, normalize, List.map_cons, hopening]
      rfl
    have htake : (opening :: (description ++ [closing]) ++ rest).take (description.length + 1) =
        opening :: description := by simp
    have hdrop :
        (opening :: (description ++ [closing]) ++ rest).drop (description.length + 1 + 1) =
        rest := by simp
    rw [hopen] at hclose
    simp only [readDescription, hopen, hclose, htake, hdrop, List.drop_succ_cons,
      List.drop_zero, htrim]

end Bracketed

/-! ### The request -/

namespace CreateWriting.Proper

variable {w : CreateWriting} (hw : w.Proper)
include hw

private theorem allows_name : ∀ c ∈ w.name, Name.allows c = true := by
  have hvalid := hw.valid
  simp only [Name.isValid, Bool.and_eq_true, List.all_eq_true, String.toList_ofList] at hvalid
  exact hvalid.2

private theorem narrow_sign {c : Char} (hc : c ∈ w.signs) : narrow c = '#' := by
  have hmem : narrow c ∈ normalize w.signs := List.mem_map_of_mem hc
  rw [hw.signs] at hmem
  simpa using hmem

/-- Neither the signs nor the name are blank. -/
theorem solid_start : ∀ c ∈ w.signs ++ w.name, isBlank c = false := by
  intro c hc
  rcases List.mem_append.mp hc with hc | hc
  · rw [← isBlank_narrow, hw.narrow_sign hc]
    decide
  · exact isBlank_of_allows (hw.allows_name c hc)

/-- Only the end is trimmed, and not past the description. -/
theorem trim_chars : trim w.chars = w.signs ++ (w.name ++ (w.part ++ trimRight w.rest)) := by
  have hne : w.signs ++ w.name ≠ [] := by
    intro hnil
    have hsigns := hw.signs
    rw [(List.append_eq_nil_iff.mp hnil).1] at hsigns
    cases hsigns
  rw [chars, ← List.append_assoc, trim_append_of_solid hne hw.solid_start,
    hw.part.trimRight_append,
    List.append_assoc]

/-- Its image starts with the signs that are looked for. -/
theorem normalize_trim_chars : normalize (trim w.chars) =
    '#' :: '#' :: normalize (w.name ++ (w.part ++ trimRight w.rest)) := by
  rw [hw.trim_chars, normalize, List.map_append, ← normalize, hw.signs]
  rfl

private theorem drop_trim_chars :
    (trim w.chars).drop 2 = w.name ++ (w.part ++ trimRight w.rest) := by
  have hlength : w.signs.length = 2 := by rw [← length_normalize, hw.signs]; rfl
  rw [hw.trim_chars, List.drop_left' hlength]

/-- Behind name and description comes a blank, if anything. -/
theorem head_rest : ∀ c ∈ (trimRight w.rest).head?, isBlank c = true := by
  intro c hc
  obtain ⟨r, hr⟩ := List.head?_eq_some_iff.mp hc
  obtain ⟨g, gs, hgap⟩ := List.exists_cons_of_ne_nil hw.gap.1
  have hprefix := trimRight_isPrefix w.rest
  rw [hr, rest, hgap] at hprefix
  rw [(List.cons_prefix_cons.mp hprefix).1]
  exact hw.gap.2 g (by rw [hgap]; exact List.mem_cons_self)

/-- Behind the blanks come the model and the prompt. -/
theorem firstToken?_rest :
    (firstToken? (trimRight w.rest)).getD ([], []) = (w.model, w.prompt) := by
  by_cases hmodel : w.model = []
  · have hnil : trimRight w.rest = [] := by
      apply trimRight_of_blank
      rw [rest, hmodel, hw.prompt hmodel, List.nil_append, List.append_nil]
      exact List.forall_mem_append.mpr ⟨hw.gap.2, hw.gap'.2⟩
    rw [hnil, hmodel, hw.prompt hmodel]
    rfl
  · have hword : IsWord w.model := ⟨hmodel, hw.model⟩
    have hend : trimRight w.rest = w.gap ++ (w.model ++ trimRight (w.gap' ++ w.prompt)) :=
      hword.trimRight_append w.gap (w.gap' ++ w.prompt)
    rw [hend, trimRight_blanks_append hw.gap'.2 hw.trimmed]
    split
    · next hprompt =>
      have hfirst : firstToken? (w.gap ++ (w.model ++ [])) = some (w.model, trimLeft []) :=
        hword.firstToken?_append hw.gap.2 nofun
      rw [hfirst, hprompt]
      rfl
    · have hback : ∀ c ∈ (w.gap' ++ w.prompt).head?, isBlank c = true := by
        rw [List.head?_append_of_ne_nil _ hw.gap'.1]
        exact fun c hc ↦ hw.gap'.2 c (List.mem_of_mem_head? hc)
      rw [hword.firstToken?_append hw.gap.2 hback, trimLeft_append_of_blank hw.gap'.2,
        (trimmed_ends hw.trimmed).1]
      rfl

/-- What is written is read back, unless the model is too long. -/
theorem readCreate?_chars :
    readCreate? w.chars = if maxModelLength < w.model.length then none else some w.request := by
  have hstart : ['#', '#'].isPrefixOf (normalize (trim w.chars)) = true := by
    rw [hw.normalize_trim_chars]
    rfl
  have hname : ∀ c ∈ w.name, (!(isBlank c || narrow c == '(')) = true := by
    intro c hc
    have hopen : c ≠ '(' := fun heq ↦ hw.unopened (heq ▸ hc)
    simp [isBlank_of_allows (hw.allows_name c hc), narrow_of_notMem (hw.plain c hc), hopen]
  obtain ⟨htake, hdrop⟩ := takeWhile_run hname (hw.part.ends_name hw.head_rest)
  have htrim : trim w.name = w.name :=
    trim_of_all_solid fun c hc ↦ isBlank_of_allows (hw.allows_name c hc)
  unfold readCreate?
  simp only [hstart, hw.drop_trim_chars, htake, hdrop, htrim, hw.valid,
    hw.part.readDescription_append hw.head_rest, hw.firstToken?_rest, hw.trimmed]
  rfl

/-- A request starts with two signs. -/
theorem exists_signs : ∃ a b, w.signs = [a, b] ∧ narrow a = '#' ∧ narrow b = '#' := by
  have hsigns := hw.signs
  rw [normalize] at hsigns
  obtain ⟨a, r, heq, ha, hr⟩ := List.map_eq_cons_iff.mp hsigns
  obtain ⟨b, s, rfl, hb, hs⟩ := List.map_eq_cons_iff.mp hr
  rw [List.map_eq_nil_iff.mp hs] at heq
  exact ⟨a, b, heq, ha, hb⟩

/-- A number sign starts neither an address nor a key. -/
theorem readApi?_chars : readApi? w.chars = none := by
  obtain ⟨a, b, hsigns, ha, -⟩ := hw.exists_signs
  have hsolid : isBlank a = false := hw.solid_start a (by simp [hsigns])
  have hother {d : Char} (hd : narrow d ≠ '#') : (d == a) = false := by
    rw [beq_eq_false_iff_ne]
    rintro rfl
    exact hd ha
  have haddress (r : List Char) : isAddress (a :: r) = false := by
    simp [isAddress, List.isPrefixOf_cons_cons, hother (show narrow 'h' ≠ '#' by decide)]
  have hkey (r : List Char) : isKey (a :: r) = false := by
    simp [isKey, List.isPrefixOf_cons_cons, hother (show narrow 's' ≠ '#' by decide)]
  have hchars : w.chars = a :: b :: (w.name ++ (w.part ++ w.rest)) := by
    rw [chars, hsigns]
    rfl
  obtain ⟨more, htokens, -⟩ := tokens_eq_of_solid hsolid (b :: (w.name ++ (w.part ++ w.rest)))
  rw [List.takeWhile_cons_of_pos (by simp [hsolid])] at htokens
  rw [readApi?, hchars, htokens]
  split
  · next first second htwo =>
    obtain ⟨rfl, -⟩ := List.cons_eq_cons.mp htwo
    simp [haddress, hkey]
  · rfl

/-- Behind the signs stands a name, so that no descriptions are asked for. -/
theorem readGlobal?_chars : readGlobal? w.chars = none := by
  have hne : w.name ≠ [] := by
    intro hnil
    have hvalid := hw.valid
    rw [hnil] at hvalid
    cases hvalid
  obtain ⟨x, r, hname⟩ := List.exists_cons_of_ne_nil hne
  have hmem : x ∈ w.name := by
    rw [hname]
    exact List.mem_cons_self
  have hcolon : x ≠ ':' := by
    rintro rfl
    cases hw.allows_name ':' hmem
  have himage : normalize (trim w.chars) =
      '#' :: '#' :: x :: normalize (r ++ (w.part ++ trimRight w.rest)) := by
    have hx : narrow x = x := narrow_of_notMem (hw.plain x hmem)
    rw [hw.normalize_trim_chars, hname, List.cons_append, normalize, List.map_cons, hx]
    rfl
  have hword : globalWords.lookup (normalize (trim w.chars)) = none := by
    rw [himage]
    rfl
  have hfill : ['#', '#', ':'].isPrefixOf (normalize (trim w.chars)) = false := by
    simp [himage, List.isPrefixOf_cons_cons, hcolon.symm]
  simp [readGlobal?, hword, hfill]

end CreateWriting.Proper

/-- A create request is read as it was written, all four texts included, with or without a
description, in signs of either width, behind any blanks and whatever personas there are. With a
model of more than 50 characters none is read. -/
theorem creations_are_read_back {w : CreateWriting} (hw : w.Proper) (names : List String) :
    (w.model.length ≤ 50 → read? (String.ofList w.chars) names = .ok (some (.create w.request))) ∧
      (50 < w.model.length → readCreate? w.chars = none) := by
  have hcreate := hw.readCreate?_chars
  rw [maxModelLength] at hcreate
  constructor
  · intro hle
    rw [if_neg (Nat.not_lt.mpr hle)] at hcreate
    simp [read?, readUnnamed?, hw.readApi?_chars, hw.readGlobal?_chars, hcreate]
  · intro hlt
    rw [hcreate, if_pos hlt]

/-- Signs and parentheses of either width, a line feed before the prompt and one in it; and the
same with a model that is too long. -/
theorem creations_are_read_back_of_widths :
    let short : CreateWriting :=
      { signs := ['＃', '#']
        name := "小明".toList
        part := '（' :: ("a tester".toList ++ [')'])
        description := "a tester".toList
        gap := [' ']
        model := "gpt-4".toList
        gap' := ['\n', ' ']
        prompt := "You are\n kind.".toList }
    let long : CreateWriting := { short with model := List.replicate 51 'm' }
    short.Proper ∧ long.Proper ∧
      read? "＃#小明（a tester) gpt-4\n You are\n kind." ["小明"] =
        .ok (some (.create ⟨"小明", "a tester", "gpt-4", "You are\n kind."⟩)) ∧
      readCreate? long.chars = none := by
  intro short long
  -- Checks of lists: a quantifier over characters would be decided over all of them.
  have hshort : short.Proper :=
    { signs := by decide
      valid := by decide
      plain := List.all_iff_forall_prop.mp (by decide)
      unopened := by decide
      part := .given (by decide) (by decide) (by decide) (List.all_iff_forall_prop.mp (by decide))
      gap := ⟨by decide, List.all_eq_true.mp (by decide)⟩
      model := List.all_iff_forall_prop.mp (by decide)
      gap' := ⟨by decide, List.all_eq_true.mp (by decide)⟩
      trimmed := by decide
      prompt := by decide }
  have hlong : long.Proper :=
    { hshort with model := List.all_iff_forall_prop.mp (by decide), prompt := by decide }
  have hread := (creations_are_read_back hshort ["小明"]).1 (by decide)
  exact ⟨hshort, hlong, hread, (creations_are_read_back hlong ["小明"]).2 (by decide)⟩

end PersonaChat.Command
