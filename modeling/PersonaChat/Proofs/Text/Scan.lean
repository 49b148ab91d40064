import PersonaChat.Text.Scan

/-!
# Laws of scanning

Where something is recognised at the start of a text, the scan finds it and goes on behind it;
where nothing is, the first character stands for itself. What is found and what is written anew
follow. Beside these stand laws on what a text starts with and what occurs in it.
-/

namespace PersonaChat.Text

universe u

variable {α : Type u} {recognise : List Char → Option (α × Nat)} {write : α → List Char}
  {front rest : List Char} {value : α} {c : Char}

/-! ### Occurrences -/

private theorem scanFrom_append (front rest : List Char) :
    scanFrom recognise front.length (front ++ rest) = scanFrom recognise 0 rest := by
  induction front with
  | nil => rfl
  | cons c front ih => exact ih

/-- An occurrence at the start comes first, and the scan goes on after it. -/
theorem scan_append (hne : front ≠ [])
    (h : recognise (front ++ rest) = some (value, front.length)) :
    scan recognise (front ++ rest) = .hit value :: scan recognise rest := by
  cases front with
  | nil => exact absurd rfl hne
  | cons c front =>
    rw [List.cons_append] at h
    rw [List.cons_append, scan, scanFrom, h]
    exact congrArg (Piece.hit value :: ·) (scanFrom_append front rest)

/-- Where nothing occurs the scan goes on with the next character. -/
theorem scan_cons (h : recognise (c :: rest) = none) :
    scan recognise (c :: rest) = .plain c :: scan recognise rest := by
  rw [scan, scanFrom, h]
  rfl

/-- What is recognised at the front is the first hit. -/
theorem hits_append (hne : front ≠ [])
    (h : recognise (front ++ rest) = some (value, front.length)) :
    hits recognise (front ++ rest) = value :: hits recognise rest := by
  rw [hits, scan_append hne h]
  rfl

/-- Where nothing is recognised the hits are those of the rest. -/
theorem hits_cons (h : recognise (c :: rest) = none) :
    hits recognise (c :: rest) = hits recognise rest := by
  rw [hits, scan_cons h]
  rfl

/-- What is recognised at the front is replaced. -/
theorem replaceHits_append (hne : front ≠ [])
    (h : recognise (front ++ rest) = some (value, front.length)) :
    replaceHits recognise write (front ++ rest) = write value ++
    replaceHits recognise write rest := by
  rw [replaceHits, scan_append hne h]
  rfl

/-- Where nothing is recognised a character stays. -/
theorem replaceHits_cons (h : recognise (c :: rest) = none) :
    replaceHits recognise write (c :: rest) = c :: replaceHits recognise write rest := by
  rw [replaceHits, scan_cons h]
  rfl

/-- What is recognised at the start of a text is written anew first. -/
theorem exists_replaceHits_eq {width : Nat} (h : recognise (c :: rest) = some (value, width)) :
    ∃ more, replaceHits recognise write (c :: rest) = write value ++ more := by
  rw [replaceHits, scan, scanFrom, h]
  exact ⟨_, rfl⟩

/-- Where all that is written anew starts with another character than it had, a text stays as it is
exactly when nothing is recognised in it. -/
theorem replaceHits_append_eq_iff {out : List Char}
    (hnew : ∀ c r value width, recognise (c :: r) = some (value, width) →
      ∃ d s, write value = d :: s ∧ d ≠ c) :
    replaceHits recognise write (front ++ rest) = front ++ out ↔
      (∀ tail, tail <:+ front → tail ≠ [] → recognise (tail ++ rest) = none) ∧
        replaceHits recognise write rest = out := by
  induction front with
  | nil =>
    have hnone (tail : List Char) (htail : tail <:+ []) (hne : tail ≠ []) :
        recognise (tail ++ rest) = none :=
      absurd (List.suffix_nil.mp htail) hne
    exact ⟨fun h ↦ ⟨hnone, h⟩, And.right⟩
  | cons c front ih =>
    cases hc : recognise (c :: (front ++ rest)) with
    | none =>
      rw [List.cons_append, replaceHits_cons hc, List.cons_append, List.cons_inj_right, ih]
      refine and_congr_left fun _ ↦ ⟨fun h tail htail hne ↦ ?_, fun h tail htail ↦
        h tail (htail.trans (List.suffix_cons c front))⟩
      rcases List.suffix_cons_iff.mp htail with rfl | htail
      · exact hc
      · exact h tail htail hne
    | some found =>
      obtain ⟨d, s, hwrite, hd⟩ := hnew c (front ++ rest) found.1 found.2 hc
      obtain ⟨more, hmore⟩ :
          ∃ more, replaceHits recognise write (c :: (front ++ rest)) = write found.1 ++ more :=
        exists_replaceHits_eq hc
      constructor
      · intro h
        rw [List.cons_append, hmore, hwrite, List.cons_append, List.cons_append] at h
        exact absurd (List.cons_eq_cons.mp h).1 hd
      · rintro ⟨h, -⟩
        have hnone := h (c :: front) List.suffix_rfl (List.cons_ne_nil c front)
        rw [List.cons_append, hc] at hnone
        cases hnone

/-! ### Starts of texts -/

/-- A run of one kind of characters is taken whole where none of that kind follows. -/
theorem takeWhile_run {p : Char → Bool} {run rest : List Char} (hrun : ∀ c ∈ run, p c = true)
    (hrest : ∀ c ∈ rest.head?, p c = false) :
    (run ++ rest).takeWhile p = run ∧ (run ++ rest).dropWhile p = rest := by
  rw [List.takeWhile_append_of_pos hrun, List.dropWhile_append_of_pos hrun]
  cases rest with
  | nil => exact ⟨List.append_nil _, rfl⟩
  | cons c rest =>
    have hc : ¬ p c = true := by simp [hrest c rfl]
    rw [List.takeWhile_cons_of_neg hc, List.dropWhile_cons_of_neg hc, List.append_nil]
    exact ⟨rfl, rfl⟩

/-- A text starts with another one and goes on. -/
theorem isPrefixOf_and_lt_iff (start cs : List Char) :
    (start.isPrefixOf cs && decide (start.length < cs.length)) = true ↔
    ∃ c r, cs = start ++ c :: r := by
  rw [Bool.and_eq_true, List.isPrefixOf_iff_prefix, decide_eq_true_eq]
  constructor
  · rintro ⟨⟨rest, rfl⟩, hlonger⟩
    cases rest with
    | nil => simp at hlonger
    | cons c r => exact ⟨c, r, rfl⟩
  · rintro ⟨c, r, rfl⟩
    exact ⟨List.prefix_append _ _, by simp⟩

/-- What stands before a character and does not hold it, starts what stands before it. -/
theorem prefix_of_notMem {back cs : List Char} (h : front ++ back = cs ++ c :: rest)
    (hc : c ∉ front) :
    front <+: cs := by
  rcases List.append_eq_append_iff.mp h with ⟨middle, hcs, -⟩ | ⟨middle, hfront, hrest⟩
  · exact ⟨middle, hcs.symm⟩
  · cases middle with
    | nil => simp [hfront]
    | cons d middle =>
      rw [hfront, (List.cons_eq_cons.mp hrest).1] at hc
      simp at hc

/-- A text occurs in another one if it stands somewhere in it without a gap. -/
theorem occursIn_iff {wanted cs : List Char} : occursIn wanted cs = true ↔ wanted <:+: cs := by
  induction cs with
  | nil => rw [occursIn, List.isEmpty_iff, List.infix_nil]
  | cons c cs ih =>
      rw [occursIn, Bool.or_eq_true, List.isPrefixOf_iff_prefix, ih, List.infix_cons_iff]

end PersonaChat.Text
