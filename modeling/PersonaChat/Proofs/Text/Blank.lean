import Mathlib.Data.List.TakeWhile
import PersonaChat.Proofs.Text.Scan
import PersonaChat.Text.Blank

/-!
# Laws of trimming and of tokens

What trimming leaves of a text that starts with solid characters, when a text is as trimmed as it
can be, and that the tokens of a text are its words, whatever blanks stand between them and around
them.
-/

namespace PersonaChat.Text

variable {c : Char} {cs front back : List Char}

/-! ### Trimming -/

private theorem trimLeft_of_solid (h : isBlank c = false) (cs : List Char) :
    trimLeft (c :: cs) = c :: cs := by
  rw [trimLeft, List.dropWhile_cons_of_neg (by simp [h])]

/-- A blank in front is trimmed. -/
theorem trimLeft_of_blank (h : isBlank c = true) (cs : List Char) :
    trimLeft (c :: cs) = trimLeft cs := by
  rw [trimLeft, List.dropWhile_cons_of_pos h]
  rfl

/-- A character stays at the end unless it is blank and only blank characters follow. -/
theorem trimRight_cons (c : Char) (cs : List Char) :
    trimRight (c :: cs) =
      if trimRight cs = [] ∧ isBlank c = true then [] else c :: trimRight cs := by
  simp only [trimRight, List.reverse_cons, List.dropWhile_append, List.reverse_eq_nil_iff]
  by_cases hcs : cs.reverse.dropWhile isBlank = []
  · by_cases hc : isBlank c = true
    · simp [hcs, hc]
    · simp [hcs, hc]
  · simp [hcs]

/-- A solid character stays. -/
theorem trimRight_solid_cons (h : isBlank c = false) (cs : List Char) :
    trimRight (c :: cs) = c :: trimRight cs := by
  rw [trimRight_cons, if_neg]
  rintro ⟨-, hblank⟩
  rw [h] at hblank
  cases hblank

/-- Solid characters at the start stay, whatever is trimmed after them. -/
theorem trimRight_append_of_solid (h : ∀ c ∈ front, isBlank c = false) (back : List Char) :
    trimRight (front ++ back) = front ++ trimRight back := by
  induction front with
  | nil => rfl
  | cons c front ih =>
    rw [List.cons_append, trimRight_solid_cons (h c List.mem_cons_self),
      ih fun d hd ↦ h d (List.mem_cons_of_mem c hd), List.cons_append]

/-- A text without blanks is trimmed already. -/
theorem trimRight_of_solid (h : ∀ c ∈ cs, isBlank c = false) : trimRight cs = cs := by
  rw [← List.append_nil cs, trimRight_append_of_solid h]
  rfl

/-- Where something is left, all that stands before it is. -/
theorem trimRight_append (h : trimRight back ≠ []) (front : List Char) :
    trimRight (front ++ back) = front ++ trimRight back := by
  induction front with
  | nil => rfl
  | cons c front ih =>
      rw [List.cons_append, trimRight_cons, ih, if_neg (by simp [h]), List.cons_append]

/-- Trimming the end twice is trimming it once. -/
theorem trimRight_trimRight (cs : List Char) : trimRight (trimRight cs) = trimRight cs := by
  induction cs with
  | nil => rfl
  | cons c cs ih =>
    rw [trimRight_cons]
    split
    · rfl
    · next hne => rw [trimRight_cons, ih, if_neg hne]

/-- What is trimmed at the end is a beginning of the text. -/
theorem trimRight_isPrefix (cs : List Char) : trimRight cs <+: cs := by
  rw [trimRight, ← List.reverse_suffix, List.reverse_reverse]
  exact List.dropWhile_suffix isBlank

/-- A trimmed text is trimmed at both ends. -/
theorem trimmed_ends (h : trim cs = cs) : trimLeft cs = cs ∧ trimRight cs = cs := by
  have hlength : cs.length ≤ (trimLeft cs).length := by
    have hle := (trimRight_isPrefix (trimLeft cs)).length_le
    rw [← trim, h] at hle
    exact hle
  have hleft : trimLeft cs = cs := (List.dropWhile_suffix isBlank).eq_of_length_le hlength
  refine ⟨hleft, ?_⟩
  rw [trim, hleft] at h
  exact h

/-- A text that starts with a solid character is trimmed at its end only. -/
theorem trim_of_solid (h : isBlank c = false) (cs : List Char) :
    trim (c :: cs) = trimRight (c :: cs) := by
  rw [trim, trimLeft_of_solid h]

/-- Solid characters at the start stay, and the end of what follows is trimmed. -/
theorem trim_append_of_solid (hne : front ≠ []) (h : ∀ c ∈ front, isBlank c = false)
    (back : List Char) : trim (front ++ back) = front ++ trimRight back := by
  obtain ⟨c, r, rfl⟩ := List.exists_cons_of_ne_nil hne
  rw [List.cons_append, trim_of_solid (h c List.mem_cons_self), ← List.cons_append,
    trimRight_append_of_solid h]

/-- A text without blanks is trimmed at neither end. -/
theorem trim_of_all_solid (h : ∀ c ∈ cs, isBlank c = false) : trim cs = cs := by
  cases cs with
  | nil => rfl
  | cons c cs => rw [trim_of_solid (h c List.mem_cons_self), trimRight_of_solid h]

/-- Of blanks nothing is left. -/
theorem trimRight_of_blank (h : ∀ c ∈ cs, isBlank c = true) : trimRight cs = [] := by
  induction cs with
  | nil => rfl
  | cons c cs ih =>
    rw [trimRight_cons, if_pos]
    exact ⟨ih fun d hd ↦ h d (List.mem_cons_of_mem c hd), h c List.mem_cons_self⟩

/-- Blanks before a trimmed text stay unless the text is empty. -/
theorem trimRight_blanks_append (hfront : ∀ c ∈ front, isBlank c = true) (h : trim cs = cs) :
    trimRight (front ++ cs) = if cs = [] then [] else front ++ cs := by
  split
  · next hnil => rw [hnil, List.append_nil, trimRight_of_blank hfront]
  · next hne =>
    have hright := (trimmed_ends h).2
    rw [trimRight_append (by rwa [hright]), hright]

/-- A blank before a trimmed text stays unless the text is empty. -/
theorem trimRight_blank_cons (hc : isBlank c = true) (h : trim cs = cs) :
    trimRight (c :: cs) = if cs = [] then [] else c :: cs :=
  trimRight_blanks_append (List.forall_mem_singleton.mpr hc) h

/-- A blank before a trimmed text is trimmed away. -/
theorem trim_trimRight_blank_cons (hc : isBlank c = true) (h : trim cs = cs) :
    trim (trimRight (c :: cs)) = cs := by
  rw [trimRight_blank_cons hc h]
  split
  · next hnil => rw [hnil]; rfl
  · rw [trim, trimLeft_of_blank hc, ← trim, h]

/-- Behind a solid character only the end is trimmed, and once is enough. -/
theorem trim_trimRight_of_solid (h : isBlank c = false) (cs : List Char) :
    trim (trimRight (c :: cs)) = c :: trimRight cs := by
  rw [trimRight_solid_cons h, trim_of_solid h, trimRight_solid_cons h, trimRight_trimRight]

/-- A trimmed text neither starts nor ends with a blank. -/
theorem solid_ends_trim (cs : List Char) : (∀ c ∈ (trim cs).head?, isBlank c = false) ∧
    ∀ c ∈ (trim cs).getLast?, isBlank c = false := by
  have hdropped (ds : List Char) : ∀ c ∈ (ds.dropWhile isBlank).head?, isBlank c = false := by
    intro c hc
    have hhead := List.head?_dropWhile_not isBlank ds
    rw [Option.mem_def.mp hc] at hhead
    simpa using hhead
  constructor
  · intro c hc
    have hleft := hdropped cs
    rw [← trimLeft] at hleft
    rw [trim] at hc
    cases htrim : trimLeft cs with
    | nil =>
      rw [htrim] at hc
      cases hc
    | cons d r =>
      rw [htrim] at hc hleft
      rw [trimRight_solid_cons (hleft d rfl)] at hc
      exact hleft c hc
  · intro c hc
    rw [trim, trimRight, List.getLast?_reverse] at hc
    exact hdropped _ c hc

/-- Blanks in front are trimmed. -/
theorem trimLeft_append_of_blank (h : ∀ c ∈ front, isBlank c = true) (back : List Char) :
    trimLeft (front ++ back) = trimLeft back :=
  List.dropWhile_append_of_pos h

private theorem trimRight_append_of_blank (h : ∀ c ∈ back, isBlank c = true) (front : List Char) :
    trimRight (front ++ back) = trimRight front := by
  have hreverse : ∀ c ∈ back.reverse, isBlank c = true := fun c hc ↦ h c (List.mem_reverse.mp hc)
  rw [trimRight, List.reverse_append, List.dropWhile_append_of_pos hreverse, trimRight]

/-- Blanks around a trimmed text are trimmed away. -/
theorem trim_blanks_append (hfront : ∀ c ∈ front, isBlank c = true)
    (hback : ∀ c ∈ back, isBlank c = true) (h : trim cs = cs) :
    trim (front ++ (cs ++ back)) = cs := by
  rw [trim, trimLeft_append_of_blank hfront]
  cases cs with
  | nil =>
    have hnil : trimLeft back = [] := List.dropWhile_eq_nil_iff.mpr hback
    rw [List.nil_append, hnil]
    rfl
  | cons c cs =>
    have hc : isBlank c = false := (solid_ends_trim (c :: cs)).1 c (by rw [h]; rfl)
    rw [List.cons_append, trimLeft_of_solid hc, ← List.cons_append,
      trimRight_append_of_blank hback,
      (trimmed_ends h).2]

/-- Trimming takes blanks away, at both ends. -/
theorem exists_trim (cs : List Char) : ∃ front back, (∀ c ∈ front, isBlank c = true) ∧
    (∀ c ∈ back, isBlank c = true) ∧ cs = front ++ (trim cs ++ back) := by
  have hsplit (ds : List Char) : ds.takeWhile isBlank ++ ds.dropWhile isBlank = ds :=
    List.takeWhile_append_dropWhile
  refine ⟨cs.takeWhile isBlank, ((trimLeft cs).reverse.takeWhile isBlank).reverse,
    fun c hc ↦ List.mem_takeWhile_imp hc, ?_, ?_⟩
  · intro c hc
    exact List.mem_takeWhile_imp (List.mem_reverse.mp hc)
  · rw [trim, trimRight, ← List.reverse_append, hsplit, List.reverse_reverse, trimLeft, hsplit]

/-! ### Cutting -/

/-- A text is cut at the first blank after solid characters. -/
theorem cutAtBlank_append (h : ∀ c ∈ front, isBlank c = false) (back : List Char) :
    cutAtBlank (front ++ back) = (front ++ (cutAtBlank back).1, (cutAtBlank back).2) := by
  induction front with
  | nil => rfl
  | cons c front ih =>
    rw [List.cons_append, cutAtBlank, if_neg (by simp [h c List.mem_cons_self]),
      ih fun d hd ↦ h d (List.mem_cons_of_mem c hd)]
    rfl

/-! ### Words -/

/-- A word: solid characters, at least one. -/
structure IsWord (word : List Char) : Prop where
  ne_nil : word ≠ []
  solid : ∀ c ∈ word, isBlank c = false

/-- The words of a text, with blanks between them and perhaps around them. -/
inductive Spaced : List Char → List (List Char) → Prop
  /-- Nothing but blanks. -/
  | blanks {cs : List Char} (h : ∀ c ∈ cs, isBlank c = true) : Spaced cs []
  /-- A word at the end. -/
  | last {front word : List Char} (hfront : ∀ c ∈ front, isBlank c = true) (hword : IsWord word) :
      Spaced (front ++ word) [word]
  /-- A word with a blank behind it. -/
  | more {front word rest : List Char} {gap : Char} {words : List (List Char)}
      (hfront : ∀ c ∈ front, isBlank c = true) (hword : IsWord word) (hgap : isBlank gap = true)
      (h : Spaced rest words) : Spaced (front ++ (word ++ gap :: rest)) (word :: words)

/-- Blanks at the start belong to no word. -/
theorem Spaced.blanks_append {words : List (List Char)} (hfront : ∀ c ∈ front, isBlank c = true)
    (h : Spaced cs words) : Spaced (front ++ cs) words := by
  have hboth {front' : List Char} (hfront' : ∀ c ∈ front', isBlank c = true) :
      ∀ c ∈ front ++ front', isBlank c = true :=
    fun c hc ↦ (List.mem_append.mp hc).elim (hfront c) (hfront' c)
  cases h with
  | blanks h => exact .blanks (hboth h)
  | last hfront' hword =>
    rw [← List.append_assoc]
    exact .last (hboth hfront') hword
  | more hfront' hword hgap h =>
    rw [← List.append_assoc]
    exact .more (hboth hfront') hword hgap h

private theorem tokens_blank_cons (h : isBlank c = true) (cs : List Char) :
    tokens (c :: cs) = tokens cs := by
  simp [tokens, tokensFrom, h]

private theorem tokens_blanks_append (h : ∀ c ∈ front, isBlank c = true) (back : List Char) :
    tokens (front ++ back) = tokens back := by
  induction front with
  | nil => rfl
  | cons c front ih =>
    rw [List.cons_append, tokens_blank_cons (h c List.mem_cons_self),
      ih fun d hd ↦ h d (List.mem_cons_of_mem c hd)]

/-- Solid characters go on with the open word. -/
private theorem tokensFrom_append (h : ∀ c ∈ front, isBlank c = false) (word back : List Char) :
    tokensFrom word (front ++ back) = tokensFrom (front.reverse ++ word) back := by
  induction front generalizing word with
  | nil => rfl
  | cons c front ih =>
    rw [List.cons_append, tokensFrom, if_neg (by simp [h c List.mem_cons_self]),
      ih fun d hd ↦ h d (List.mem_cons_of_mem c hd), List.reverse_cons, List.append_assoc]
    rfl

namespace IsWord

variable {word : List Char}

/-- A word alone is its only token. -/
theorem tokens_eq (h : IsWord word) : tokens word = [word] := by
  have hopen := tokensFrom_append h.solid [] []
  rw [List.append_nil, List.append_nil] at hopen
  rw [tokens, hopen, tokensFrom, if_neg (by simpa using h.ne_nil), List.reverse_reverse]

/-- A word before a blank is the first token. -/
theorem tokens_append (h : IsWord word) (hc : isBlank c = true) (back : List Char) :
    tokens (word ++ c :: back) = word :: tokens back := by
  rw [tokens, tokensFrom_append h.solid, List.append_nil, tokensFrom, if_pos hc,
    if_neg (by simpa using h.ne_nil), List.reverse_reverse]
  rfl

/-- A word stays, with all that stands before it. -/
theorem trimRight_append (h : IsWord word) (front back : List Char) :
    trimRight (front ++ (word ++ back)) = front ++ (word ++ trimRight back) := by
  have hword := trimRight_append_of_solid h.solid back
  have hne : trimRight (word ++ back) ≠ [] := by
    rw [hword]
    simp [h.ne_nil]
  rw [Text.trimRight_append hne, hword]

/-- A word is the first token where blanks stand before it and none of its kind behind it. -/
theorem firstToken?_append (h : IsWord word) (hfront : ∀ c ∈ front, isBlank c = true)
    (hback : ∀ c ∈ back.head?, isBlank c = true) :
    firstToken? (front ++ (word ++ back)) = some (word, trimLeft back) := by
  obtain ⟨c, r, rfl⟩ := List.exists_cons_of_ne_nil h.ne_nil
  have hc : isBlank c = false := h.solid c List.mem_cons_self
  have hrun : ∀ d ∈ c :: r, (!isBlank d) = true := fun d hd ↦ by simp [h.solid d hd]
  have hstop : ∀ d ∈ back.head?, (!isBlank d) = false := fun d hd ↦ by simp [hback d hd]
  obtain ⟨htake, hdrop⟩ := takeWhile_run hrun hstop
  rw [firstToken?, trimLeft_append_of_blank hfront, List.cons_append, trimLeft_of_solid hc]
  simp only [← List.cons_append, htake, hdrop]

/-- A word before a blank is the first one. -/
theorem spaced_cons (h : IsWord word) (hc : isBlank c = true) {words : List (List Char)}
    (hrest : Spaced back words) : Spaced (word ++ c :: back) (word :: words) := by
  have hmore := Spaced.more (List.forall_mem_nil _) h hc hrest
  exact hmore

/-- A word with blanks behind it is the only one. -/
theorem spaced_append (h : IsWord word) (hback : ∀ c ∈ back, isBlank c = true) :
    Spaced (word ++ back) [word] := by
  cases back with
  | nil =>
    have hlast := Spaced.last (List.forall_mem_nil _) h
    rwa [List.append_nil]
  | cons c back =>
    obtain ⟨hc, hback⟩ := List.forall_mem_cons.mp hback
    exact h.spaced_cons hc (.blanks hback)

end IsWord

/-- The open word goes on with what is still to be cut. -/
private theorem spaced_tokensFrom {word : List Char} (hword : ∀ c ∈ word, isBlank c = false)
    (cs : List Char) : Spaced (word.reverse ++ cs) (tokensFrom word cs) := by
  have hclosed {word : List Char} (hword : ∀ c ∈ word, isBlank c = false) (hne : word ≠ []) :
      IsWord word.reverse :=
    ⟨by simpa using hne, fun c hc ↦ hword c (List.mem_reverse.mp hc)⟩
  induction cs generalizing word with
  | nil =>
    rw [tokensFrom]
    split
    · next hnil =>
      rw [List.isEmpty_iff.mp hnil]
      exact .blanks nofun
    · next hne => exact (hclosed hword (by simpa using hne)).spaced_append nofun
  | cons c cs ih =>
    rw [tokensFrom]
    by_cases hc : isBlank c = true
    · have hrest : Spaced cs (tokensFrom [] cs) := ih (List.forall_mem_nil _)
      rw [if_pos hc]
      split
      · next hnil =>
        rw [List.isEmpty_iff.mp hnil]
        have hfront : ∀ d ∈ [c], isBlank d = true := List.forall_mem_singleton.mpr hc
        have hspaced := hrest.blanks_append hfront
        exact hspaced
      · next hne => exact (hclosed hword (by simpa using hne)).spaced_cons hc hrest
    · have hlonger : ∀ d ∈ c :: word, isBlank d = false :=
        List.forall_mem_cons.mpr ⟨Bool.not_eq_true _ ▸ hc, hword⟩
      have hrest := ih hlonger
      rw [List.reverse_cons, List.append_assoc] at hrest
      rw [if_neg hc]
      exact hrest

/-- The tokens of a text are its words. -/
theorem tokens_eq_iff {words : List (List Char)} : tokens cs = words ↔ Spaced cs words := by
  constructor
  · rintro rfl
    exact spaced_tokensFrom (List.forall_mem_nil _) cs
  · intro h
    induction h with
    | @blanks cs h =>
      rw [← List.append_nil cs, tokens_blanks_append h]
      rfl
    | last hfront hword => rw [tokens_blanks_append hfront, hword.tokens_eq]
    | more hfront hword hgap _ ih => rw [tokens_blanks_append hfront, hword.tokens_append hgap, ih]

/-- A text has one word exactly when there is nothing but blanks around it. -/
theorem exists_of_spaced_singleton {word : List Char} (h : Spaced cs [word]) :
    IsWord word ∧ ∃ front back, (∀ c ∈ front, isBlank c = true) ∧ (∀ c ∈ back, isBlank c = true) ∧
      cs = front ++ (word ++ back) := by
  cases h with
  | @last front _ hfront hword => exact ⟨hword, front, [], hfront, nofun, by rw [List.append_nil]⟩
  | @more front _ rest gap _ hfront hword hgap h =>
    cases h with
    | blanks hrest =>
      exact ⟨hword, front, gap :: rest, hfront, List.forall_mem_cons.mpr ⟨hgap, hrest⟩, rfl⟩

/-- A text has two words exactly when, trimmed, it is the two with blanks between them. -/
theorem spaced_pair_iff {word word' : List Char} : Spaced cs [word, word'] ↔
    IsWord word ∧ IsWord word' ∧ ∃ gap, gap ≠ [] ∧ (∀ c ∈ gap, isBlank c = true) ∧
      trim cs = word ++ (gap ++ word') := by
  constructor
  · intro h
    cases h with
    | @more front _ rest gap _ hfront hword hgap h =>
      obtain ⟨hword', front', back, hfront', hback, rfl⟩ := exists_of_spaced_singleton h
      refine ⟨hword, hword', gap :: front', List.cons_ne_nil _ _,
        List.forall_mem_cons.mpr ⟨hgap, hfront'⟩, ?_⟩
      have htrimmed :
          trim (word ++ (gap :: front' ++ word')) = word ++ (gap :: front' ++ word') := by
        have hend := hword'.trimRight_append (gap :: front') []
        rw [List.append_nil] at hend
        rw [trim_append_of_solid hword.ne_nil hword.solid, hend]
        exact congrArg _ (congrArg _ (List.append_nil word'))
      have htrim := trim_blanks_append hfront hback htrimmed
      simpa using htrim
  · rintro ⟨hword, hword', gap, hne, hgap, htrim⟩
    obtain ⟨front, back, hfront, hback, hcs⟩ := exists_trim cs
    obtain ⟨g, gap, rfl⟩ := List.exists_cons_of_ne_nil hne
    obtain ⟨hg, hgap⟩ := List.forall_mem_cons.mp hgap
    have hrest := (hword'.spaced_append hback).blanks_append hgap
    have hpair := Spaced.more hfront hword hg hrest
    rw [hcs, htrim]
    simpa using hpair

/-- A text that starts solid has a first token, which is a start of the text. -/
theorem tokens_eq_of_solid (h : isBlank c = false) (cs : List Char) :
    ∃ more, tokens (c :: cs) = (c :: cs).takeWhile (!isBlank ·) :: more ∧
      ((∀ d ∈ c :: cs, isBlank d = false) → more = []) := by
  have hsplit : (c :: cs).takeWhile (!isBlank ·) ++ (c :: cs).dropWhile (!isBlank ·) = c :: cs :=
    List.takeWhile_append_dropWhile
  have hword : IsWord ((c :: cs).takeWhile (!isBlank ·)) :=
    { ne_nil := by simp [h]
      solid := fun d hd ↦ by simpa using List.mem_takeWhile_imp hd }
  have hhead := List.head?_dropWhile_not (!isBlank ·) (c :: cs)
  cases hrest : (c :: cs).dropWhile (!isBlank ·) with
  | nil =>
    rw [hrest, List.append_nil] at hsplit
    rw [hsplit] at hword
    refine ⟨[], ?_, fun _ ↦ rfl⟩
    rw [hsplit, hword.tokens_eq]
  | cons d rest =>
    rw [hrest] at hsplit hhead
    have hd : isBlank d = true := by simpa using hhead
    refine ⟨tokens rest, ?_, fun hsolid ↦ ?_⟩
    · have htokens := hword.tokens_append hd rest
      rwa [hsplit] at htokens
    · have hmem : d ∈ c :: cs := by
        rw [← hsplit]
        exact List.mem_append_right _ List.mem_cons_self
      rw [hsolid d hmem] at hd
      cases hd

end PersonaChat.Text
