import Mathlib.Data.List.Induction
import PersonaChat.Json.Reader
import PersonaChat.Proofs.Text.Scan
import PersonaChat.View.History

/-!
# How prompts are shown

A prompt is shown as JSON writes a text, with line feeds and tabs put back in place of what JSON
writes for them. They are put back after the whole text is written, so an `n` or a `t` behind a
backslash is taken for a line feed or a tab as well. Main statement: line feeds and tabs are kept
and every other character is shown as JSON writes it, exactly when no such letter stands behind a
backslash; otherwise one more line feed or tab is shown for each.
-/

namespace PersonaChat.View

open Text

variable {kept cs front rest new : List Char} {b c d letter : Char}

/-! ### Escapes put back -/

/-- A character as JSON writes it, unless it is kept as it is. -/
def keptOrEscaped (kept : List Char) (c : Char) : List Char :=
  if c ∈ kept then [c] else Json.escape c

/-- The kept character that JSON writes as a backslash and a letter. -/
def writtenWith? (kept : List Char) (letter : Char) : Option Char :=
  kept.find? fun c ↦ Json.escape c == ['\\', letter]

/-- A text as JSON writes it, with the escapes of some characters put back wherever they are read:
also where a backslash and a letter stand side by side. -/
def restored (kept : List Char) : List Char → List Char
  | [] => []
  | [c] => keptOrEscaped kept c
  | c :: d :: r =>
    match if c = '\\' then writtenWith? kept d else none with
    | some b => '\\' :: b :: restored kept r
    | none => keptOrEscaped kept c ++ restored kept (d :: r)

/-- What is put back in a prompt. -/
def breaks : List Char := ['\n', '\t']

/-- What is put back in a prompt, with the letters that JSON writes for it. -/
def letters : List (Char × Char) := [('\n', 'n'), ('\t', 't')]

/-- How often a letter stands behind a backslash. -/
def pairs (letter : Char) (cs : List Char) : Nat := (cs.zip cs.tail).count ('\\', letter)

/-! ### How JSON writes a character -/

/-- JSON writes a character as a backslash and a letter, and the letter as it is. -/
structure WrittenWith (b letter : Char) : Prop where
  written : Json.escape b = ['\\', letter]
  read : Json.escapeChar? letter = some b
  letter_eq : Json.escape letter = [letter]

private theorem WrittenWith.ne (h : WrittenWith b letter) : letter ≠ '\\' := by
  rintro rfl
  cases h.letter_eq

/-- A character other than a backslash stands for itself, or there stands for it a backslash with a
text that tells it from the others. -/
theorem escape_cases (hc : c ≠ '\\') :
    Json.escape c = [c] ∨ ∃ letter r, Json.escape c = '\\' :: letter :: r ∧ '\\' ∉ letter :: r ∧
      (Json.escapeChar? letter = some c ∨ letter = 'u') := by
  have hex {n : Nat} (hn : n < 16) : '\\' ≠ Json.hexChar n := by
    have hall : ∀ n < 16, '\\' ≠ Json.hexChar n := by decide
    exact hall n hn
  unfold Json.escape
  split
  · exact .inr ⟨_, _, rfl, by decide, .inl rfl⟩
  · exact absurd rfl hc
  · exact .inr ⟨_, _, rfl, by decide, .inl rfl⟩
  · exact .inr ⟨_, _, rfl, by decide, .inl rfl⟩
  · exact .inr ⟨_, _, rfl, by decide, .inl rfl⟩
  · exact .inr ⟨_, _, rfl, by decide, .inl rfl⟩
  · exact .inr ⟨_, _, rfl, by decide, .inl rfl⟩
  · split
    · next hlow =>
      refine .inr ⟨_, _, rfl, ?_, .inr rfl⟩
      simp [hex (show c.toNat / 16 < 16 by omega), hex (show c.toNat % 16 < 16 by omega)]
    · exact .inl rfl

/-- JSON writes no control character. -/
theorem le_toNat_of_mem_escape (hd : d ∈ Json.escape c) : 32 ≤ d.toNat := by
  have hex {n : Nat} (hn : n < 16) : 32 ≤ (Json.hexChar n).toNat := by
    have hall : ∀ n < 16, 32 ≤ (Json.hexChar n).toNat := by decide
    exact hall n hn
  have among {cs : List Char} (hmem : d ∈ cs) (hall : (cs.all fun e ↦ 32 ≤ e.toNat) = true) :
      32 ≤ d.toNat := by
    simpa using List.all_eq_true.mp hall d hmem
  unfold Json.escape at hd
  split at hd
  iterate 7 exact among hd (by decide)
  split at hd
  · refine among hd ?_
    have hhigh := hex (show c.toNat / 16 < 16 by omega)
    have hlow := hex (show c.toNat % 16 < 16 by omega)
    simp only [List.all_cons, List.all_nil, hhigh, hlow, decide_true, Bool.and_true]
    decide
  · next hlow =>
    rw [List.mem_singleton.mp hd]
    omega

/-! ### One replacement -/

/-- Where no backslash stands, nothing is replaced. -/
theorem replaceAll_append (h : '\\' ∉ front) :
    replaceAll ['\\', letter] new (front ++ rest) = front ++
    replaceAll ['\\', letter] new rest := by
  induction front with
  | nil => rfl
  | cons c front ih =>
    rw [List.mem_cons, not_or] at h
    have hnone : recogniseText ['\\', letter] (c :: (front ++ rest)) = none := by
      simp [recogniseText, List.isPrefixOf, h.1]
    rw [List.cons_append, replaceAll, replaceHits_cons hnone]
    exact congrArg (c :: ·) (ih h.2)

/-- A backslash stays unless the letter is next. -/
theorem replaceAll_backslash (h : c ≠ letter) : replaceAll ['\\', letter] new ('\\' :: c :: rest) =
    '\\' :: replaceAll ['\\', letter] new (c :: rest) := by
  have hnone : recogniseText ['\\', letter] ('\\' :: c :: rest) = none := by
    simp [recogniseText, List.isPrefixOf, Ne.symm h]
  rw [replaceAll, replaceHits_cons hnone]
  rfl

/-- A backslash with the letter is replaced. -/
theorem replaceAll_pair : replaceAll ['\\', letter] new ('\\' :: letter :: rest) =
    new ++ replaceAll ['\\', letter] new rest := by
  have hfound : recogniseText ['\\', letter] (['\\', letter] ++ rest) = some ((), 2) := by
    simp [recogniseText, List.isPrefixOf]
  exact replaceHits_append (by simp) hfound

/-- Once one more character is put back, it is kept. -/
theorem replaceAll_keptOrEscaped (h : WrittenWith b letter) (hc : c ≠ '\\') :
    replaceAll ['\\', letter] [b] (keptOrEscaped kept c ++ rest) =
      keptOrEscaped (kept ++ [b]) c ++ replaceAll ['\\', letter] [b] rest := by
  by_cases hmem : c ∈ kept
  · have hmore : c ∈ kept ++ [b] := List.mem_append_left _ hmem
    rw [keptOrEscaped, keptOrEscaped, if_pos hmem, if_pos hmore]
    exact replaceAll_append (by simpa using Ne.symm hc)
  · by_cases hb : c = b
    · subst hb
      rw [keptOrEscaped, keptOrEscaped, if_neg hmem, if_pos (by simp), h.written]
      exact replaceAll_pair
    · rw [keptOrEscaped, keptOrEscaped, if_neg hmem, if_neg (by simp [hmem, hb])]
      rcases escape_cases hc with hself | ⟨other, r, hother, hr, hread⟩
      · rw [hself]
        exact replaceAll_append (by simpa using Ne.symm hc)
      · have hne : other ≠ letter := by
          rintro rfl
          rcases hread with hread | rfl
          · rw [h.read] at hread
            exact hb (Option.some.inj hread).symm
          · cases h.read
        rw [hother, List.cons_append, List.cons_append, replaceAll_backslash hne,
          ← List.cons_append,
          replaceAll_append hr]
        rfl

/-! ### The whole text -/

private theorem keptOrEscaped_backslash (hkept : '\\' ∉ kept) :
    keptOrEscaped kept '\\' = ['\\', '\\'] :=
  if_neg hkept

private theorem restored_cons (hc : c ≠ '\\') (cs : List Char) :
    restored kept (c :: cs) = keptOrEscaped kept c ++ restored kept cs := by
  cases cs with
  | nil => simp [restored]
  | cons d r => rw [restored, if_neg hc]

private theorem restored_pair (hd : writtenWith? kept d = some b) (r : List Char) :
    restored kept ('\\' :: d :: r) = '\\' :: b :: restored kept r := by
  rw [restored, if_pos rfl, hd]

private theorem restored_backslash (hkept : '\\' ∉ kept) (hd : writtenWith? kept d = none)
    (r : List Char) :
    restored kept ('\\' :: d :: r) = '\\' :: '\\' :: restored kept (d :: r) := by
  rw [restored, if_pos rfl, hd, keptOrEscaped_backslash hkept]
  rfl

/-- A text begins as it did, or with a backslash. -/
theorem exists_restored_cons (hkept : '\\' ∉ kept) (c : Char) (cs : List Char) :
    ∃ d more, restored kept (c :: cs) = d :: more ∧ (d = c ∨ d = '\\') := by
  by_cases hc : c = '\\'
  · subst hc
    cases cs with
    | nil => exact ⟨_, _, keptOrEscaped_backslash hkept, .inr rfl⟩
    | cons d r =>
      cases hd : writtenWith? kept d with
      | none => exact ⟨_, _, restored_backslash hkept hd r, .inr rfl⟩
      | some b => exact ⟨_, _, restored_pair hd r, .inr rfl⟩
  · rw [restored_cons hc]
    unfold keptOrEscaped
    split
    · exact ⟨_, _, rfl, .inl rfl⟩
    · rcases escape_cases hc with hself | ⟨letter, r, hother, -, -⟩
      · exact ⟨_, _, congrArg (· ++ _) hself, .inl rfl⟩
      · exact ⟨_, _, congrArg (· ++ _) hother, .inr rfl⟩

private theorem writtenWith?_append (h : WrittenWith b letter) (kept : List Char) (d : Char) :
    writtenWith? (kept ++ [b]) d =
      (writtenWith? kept d).or (if letter = d then some b else none) := by
  have hlast :
      [b].find? (fun c ↦ Json.escape c == ['\\', d]) = if letter = d then some b else none := by
    by_cases hd : letter = d
    · simp [h.written, hd]
    · simp [h.written, hd]
  rw [writtenWith?, List.find?_append, hlast]
  rfl

/-- One more character is put back. -/
theorem replaceAll_restored (h : WrittenWith b letter) (hkept : '\\' ∉ kept) (hnew : letter ∉ kept)
    (cs : List Char) :
    replaceAll ['\\', letter] [b] (restored kept cs) = restored (kept ++ [b]) cs := by
  have hb : b ≠ '\\' := by
    rintro rfl
    exact h.ne (List.cons.inj (List.cons.inj h.written).2).1.symm
  have hmore : '\\' ∉ kept ++ [b] := by simp [hkept, Ne.symm hb]
  -- A backslash takes what follows it along, so each text needs the two that are shorter.
  induction cs using List.twoStepInduction with
  | nil => rfl
  | singleton c =>
    by_cases hc : c = '\\'
    · subst hc
      rw [restored, restored, keptOrEscaped_backslash hkept, keptOrEscaped_backslash hmore,
        replaceAll_backslash (Ne.symm h.ne)]
      rfl
    · have hpiece : replaceAll ['\\', letter] [b] (keptOrEscaped kept c ++ []) = _ :=
        replaceAll_keptOrEscaped h hc
      rw [List.append_nil] at hpiece
      exact hpiece.trans (List.append_nil _)
  | cons_cons c d r ih ihd =>
    by_cases hc : c = '\\'
    · subst hc
      have hwritten := writtenWith?_append h kept d
      cases hk : writtenWith? kept d with
      | some k =>
        have hmem : k ∈ kept := List.mem_of_find?_eq_some hk
        rw [hk, Option.some_or] at hwritten
        have hslash : '\\' ∉ [k] := by simpa using (ne_of_mem_of_not_mem hmem hkept).symm
        rw [restored_pair hk, restored_pair hwritten, ← ih,
          replaceAll_backslash (ne_of_mem_of_not_mem hmem hnew)]
        exact congrArg ('\\' :: ·) (replaceAll_append hslash)
      | none =>
        rw [hk, Option.none_or] at hwritten
        rw [restored_backslash hkept hk, replaceAll_backslash (Ne.symm h.ne)]
        by_cases hd : letter = d
        · subst hd
          rw [if_pos rfl] at hwritten
          have hself : keptOrEscaped kept letter = [letter] := by
            rw [keptOrEscaped, if_neg hnew, h.letter_eq]
          rw [restored_pair hwritten, restored_cons h.ne, hself, List.singleton_append, ← ih,
            replaceAll_pair]
          rfl
        · rw [if_neg hd] at hwritten
          obtain ⟨e, more, heq, he⟩ := exists_restored_cons hkept d r
          have hne : e ≠ letter := by
            rcases he with rfl | rfl
            · exact Ne.symm hd
            · exact Ne.symm h.ne
          rw [restored_backslash hmore hwritten, ← ihd d, heq, replaceAll_backslash hne]
    · rw [restored_cons hc, restored_cons hc, replaceAll_keptOrEscaped h hc, ihd d]

/-- What JSON writes has nothing put back. -/
theorem restored_nil (cs : List Char) : restored [] cs = Json.escapeAll cs := by
  induction cs with
  | nil => rfl
  | cons c cs ih =>
    rw [Json.escapeAll, List.flatMap_cons, ← Json.escapeAll, ← ih]
    cases cs with
    | nil => exact (List.append_nil _).symm
    | cons d r =>
      have hnone : (if c = '\\' then writtenWith? [] d else none) = none := by
        split <;> rfl
      rw [restored, hnone]
      rfl

/-- Of a prompt line feeds and tabs are put back. -/
theorem escapeSpecial_eq (s : String) :
    escapeSpecial (.str s) = String.ofList (restored breaks s.toList) := by
  have hinside : ((Json.render .line 0 (.str s)).drop 1).dropLast = restored [] s.toList := by
    rw [restored_nil, Json.render, Json.quote, List.drop_one, List.tail_cons, List.dropLast_concat]
  have hfeed : WrittenWith '\n' 'n' := ⟨rfl, rfl, rfl⟩
  have htab : WrittenWith '\t' 't' := ⟨rfl, rfl, rfl⟩
  rw [escapeSpecial, hinside, replaceAll_restored hfeed (by decide) (by decide),
    replaceAll_restored htab (by decide) (by decide)]
  rfl

/-! ### What is put back too much -/

private theorem pairs_cons (hc : c ≠ '\\') (letter : Char) (cs : List Char) :
    pairs letter (c :: cs) = pairs letter cs := by
  cases cs with
  | nil => rfl
  | cons d r => simp [pairs, hc]

private theorem pairs_backslash (letter d : Char) (r : List Char) :
    pairs letter ('\\' :: d :: r) = pairs letter (d :: r) + if d = letter then 1 else 0 := by
  simp [pairs, List.count_cons]

/-- A backslash takes the letter behind it along if JSON writes a line feed or a tab with it. -/
theorem restored_breaks_cases (d : Char) (r : List Char) :
    (∃ k, (k, d) ∈ letters ∧ restored breaks ('\\' :: d :: r) = '\\' :: k :: restored breaks r) ∨
    ((∀ k, (k, d) ∉ letters) ∧
      restored breaks ('\\' :: d :: r) = '\\' :: '\\' :: restored breaks (d :: r)) := by
  have hmem (k : Char) : (k, d) ∈ letters ↔ k = '\n' ∧ d = 'n' ∨ k = '\t' ∧ d = 't' := by
    simp [letters]
  have hwritten : writtenWith? breaks d =
      if 'n' = d then some '\n' else if 't' = d then some '\t' else none := by
    have hfeed : WrittenWith '\n' 'n' := ⟨rfl, rfl, rfl⟩
    have htab : WrittenWith '\t' 't' := ⟨rfl, rfl, rfl⟩
    have hone := writtenWith?_append hfeed [] d
    have htwo := writtenWith?_append htab ([] ++ ['\n']) d
    rw [hone] at htwo
    rw [show breaks = [] ++ ['\n'] ++ ['\t'] from rfl, htwo]
    by_cases hn : 'n' = d
    · rw [if_pos hn, if_pos hn]
      rfl
    · rw [if_neg hn, if_neg hn]
      rfl
  cases hd : writtenWith? breaks d with
  | some k =>
    refine .inl ⟨k, (hmem k).mpr ?_, restored_pair hd r⟩
    rw [hwritten] at hd
    split at hd
    · next hn => exact .inl ⟨(Option.some.inj hd).symm, hn.symm⟩
    · split at hd
      · next ht => exact .inr ⟨(Option.some.inj hd).symm, ht.symm⟩
      · cases hd
  | none =>
    refine .inr ⟨fun k hk ↦ ?_, restored_backslash (by decide) hd r⟩
    rw [hwritten] at hd
    rcases (hmem k).mp hk with ⟨-, rfl⟩ | ⟨-, rfl⟩ <;> cases hd

/-- Where no letter is read as a line feed or a tab, the characters are shown one by one. -/
theorem restored_of_pairs_eq_zero (h : ∀ p ∈ letters, pairs p.2 cs = 0) :
    restored breaks cs = cs.flatMap (keptOrEscaped breaks) := by
  induction cs with
  | nil => rfl
  | cons c cs ih =>
    rw [List.flatMap_cons]
    by_cases hc : c = '\\'
    · subst hc
      cases cs with
      | nil => rfl
      | cons d r =>
        rcases restored_breaks_cases d r with ⟨k, hk, -⟩ | ⟨-, heq⟩
        · have hzero := h (k, d) hk
          rw [pairs_backslash, if_pos rfl] at hzero
          omega
        · have hrest : ∀ p ∈ letters, pairs p.2 (d :: r) = 0 := fun p hp ↦ by
            have hzero := h p hp
            rw [pairs_backslash] at hzero
            omega
          rw [heq, ih hrest]
          rfl
    · rw [restored_cons hc, ih fun p hp ↦ pairs_cons hc p.2 cs ▸ h p hp]

/-- Line feeds and tabs stand for themselves only. -/
theorem count_keptOrEscaped (hb : b ∈ breaks) (c : Char) :
    (keptOrEscaped breaks c).count b = [c].count b := by
  unfold keptOrEscaped
  split
  · rfl
  · next hc =>
    have hlow : b.toNat < 32 := by
      have hall : (breaks.all fun b ↦ b.toNat < 32) = true := by decide
      simpa using List.all_eq_true.mp hall b hb
    have hne : c ≠ b := fun h ↦ hc (h ▸ hb)
    have hmem : b ∉ Json.escape c := fun h ↦ absurd (le_toNat_of_mem_escape h) (by omega)
    rw [List.count_eq_zero.mpr hmem, List.count_singleton, if_neg (by simpa using hne)]

/-- Shown one by one, the characters have the line feeds and tabs of the prompt. -/
theorem count_flatMap_keptOrEscaped (hb : b ∈ breaks) (cs : List Char) :
    (cs.flatMap (keptOrEscaped breaks)).count b = cs.count b := by
  induction cs with
  | nil => rfl
  | cons c cs ih =>
    rw [List.flatMap_cons, List.count_append, count_keptOrEscaped hb, ih, ← List.count_append]
    rfl

/-- A prompt shows its own line feeds and tabs, and one for each letter that is read as one. -/
theorem count_restored (h : (b, letter) ∈ letters) (cs : List Char) :
    (restored breaks cs).count b = cs.count b + pairs letter cs := by
  have hall : ∀ p ∈ letters, p.1 ∈ breaks ∧ p.1 ≠ '\\' ∧ p.2 ≠ '\\' ∧
      ∀ q ∈ letters, p.1 ≠ q.2 ∧ (q.1 = p.1 ↔ q.2 = p.2) := by decide
  obtain ⟨hb, hslash, -, hapart⟩ := hall _ h
  induction cs using List.twoStepInduction with
  | nil => rfl
  | singleton c => exact count_keptOrEscaped hb c
  | cons_cons c d r ih ihd =>
    by_cases hc : c = '\\'
    · subst hc
      rcases restored_breaks_cases d r with ⟨k, hk, heq⟩ | ⟨hnone, heq⟩
      · obtain ⟨hne, hsame⟩ := hapart (k, d) hk
        rw [heq, pairs_backslash, pairs_cons (hall _ hk).2.2.1, List.count_cons_of_ne hslash.symm,
          List.count_cons_of_ne hslash.symm, List.count_cons_of_ne hne.symm, List.count_cons, ih]
        simp only [beq_iff_eq, hsame, Nat.add_assoc]
      · have hne : d ≠ letter := fun heq ↦ hnone b (heq ▸ h)
        rw [heq, pairs_backslash, if_neg hne, List.count_cons_of_ne hslash.symm,
          List.count_cons_of_ne hslash.symm, List.count_cons_of_ne hslash.symm, ihd d]
        rfl
    · rw [restored_cons hc, pairs_cons hc, List.count_append, count_keptOrEscaped hb, ihd d,
        ← Nat.add_assoc, ← List.count_append]
      rfl

/-- A prompt is shown with its own line feeds and tabs and all else as JSON writes it, exactly when
no letter is read as a line feed or a tab. Whatever the prompt is, one line feed is shown more for
each `n` behind a backslash, and one tab more for each such `t`. -/
theorem prompts_keep_lines_iff (s : String) :
    (escapeSpecial (.str s) = String.ofList (s.toList.flatMap (keptOrEscaped breaks)) ↔
      pairs 'n' s.toList = 0 ∧ pairs 't' s.toList = 0) ∧
    (escapeSpecial (.str s)).toList.count '\n' = s.toList.count '\n' + pairs 'n' s.toList ∧
    (escapeSpecial (.str s)).toList.count '\t' = s.toList.count '\t' + pairs 't' s.toList ∧
    escapeSpecial (.str s) = String.ofList (restored breaks s.toList) := by
  have hfeed := count_restored (show ('\n', 'n') ∈ letters by decide) s.toList
  have htab := count_restored (show ('\t', 't') ∈ letters by decide) s.toList
  rw [escapeSpecial_eq, String.toList_ofList]
  refine ⟨⟨fun h ↦ ?_, fun h ↦ ?_⟩, hfeed, htab, rfl⟩
  · rw [String.ofList_injective h, count_flatMap_keptOrEscaped (by decide)] at hfeed htab
    omega
  · rw [restored_of_pairs_eq_zero]
    simpa [letters] using h

/-- The path of a folder is shown on two lines. -/
theorem not_prompts_keep_lines_of_path :
    let path := "C:\\new"
    escapeSpecial (.str path) = "C:\\\new" ∧
      escapeSpecial (.str path) ≠ String.ofList (path.toList.flatMap (keptOrEscaped breaks)) ∧
      (escapeSpecial (.str path)).toList.count '\n' ≠ path.toList.count '\n' := by
  decide +kernel

end PersonaChat.View
