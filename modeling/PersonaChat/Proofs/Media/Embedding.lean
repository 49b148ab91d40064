import Mathlib.Data.List.Infix
import Mathlib.Data.List.TakeWhile
import PersonaChat.Media
import PersonaChat.Proofs.Text.Scan

/-!
# Where embedded pictures are recognised

A picture is recognised at the start of a text exactly where one stands there, with words that may
hold anything but a line feed. So what is recognised in a text depends on what follows it only
where an opening `![` is left on its last line: then the text up to the next picture counts as its
words.
-/

namespace PersonaChat.Media

open Text

variable {starts : List (List Char)} {cs words address text tail : List Char}

/-! ### Embeddings in writing -/

/-- An address with a given start and at least one more character, none of which ends it. -/
structure Fits (starts : List (List Char)) (address : List Char) : Prop where
  started : ∃ start ∈ starts, ∃ c r, address = start ++ c :: r
  within : ∀ c ∈ address, inAddress c = true

/-- What stands behind the words of an embedding. -/
def target (address : List Char) : List Char := ']' :: '(' :: (address ++ [')'])

/-- An embedding with its words and its address. -/
def embedding (words address : List Char) : List Char := '!' :: '[' :: (words ++ target address)

/-- An embedding stands at the start of a text, with its words on one line. -/
def Starts (starts : List (List Char)) (cs : List Char) : Prop :=
  ∃ words address back, '\n' ∉ words ∧ Fits starts address ∧ cs = embedding words address ++ back

/-- An embedding stands somewhere in a text. -/
def Shows (starts : List (List Char)) (text : List Char) : Prop :=
  ∃ tail, tail <:+ text ∧ Starts starts tail

/-- A text opens an embedding on its last line. -/
def LeavesOpen (text : List Char) : Prop :=
  ∃ tail, tail <:+ text ∧ ['!', '['] <+: tail ∧ '\n' ∉ tail

instance (text : List Char) : Decidable (LeavesOpen text) :=
  decidable_of_iff (∃ tail ∈ text.tails, ['!', '['] <+: tail ∧ '\n' ∉ tail) <| by
    simp only [LeavesOpen, List.mem_tails]

private theorem embedding_append {back : List Char} :
    embedding words address ++ back = '!' :: '[' :: (words ++ (target address ++ back)) := by
  simp [embedding]

/-! ### Targets -/

private theorem fits_iff : Fits starts address ↔
    (starts.any fun start ↦ start.isPrefixOf address && decide (start.length < address.length)) =
    true ∧
      address.all inAddress = true := by
  simp only [List.any_eq_true, List.all_eq_true, isPrefixOf_and_lt_iff]
  exact ⟨fun h ↦ ⟨h.started, h.within⟩, fun h ↦ ⟨h.1, h.2⟩⟩

instance (starts : List (List Char)) (address : List Char) : Decidable (Fits starts address) :=
  decidable_of_iff _ fits_iff.symm

/-- No address goes on behind a line feed. -/
theorem Fits.notMem_target (h : Fits starts address) : '\n' ∉ target address := by
  have hnot : '\n' ∉ address := fun hmem ↦ by
    have hwithin := h.within '\n' hmem
    cases hwithin
  simp [target, hnot]

private theorem target?_append (h : Fits starts address) (back : List Char) :
    target? starts (target address ++ back) = some (address, (target address).length) := by
  have hclose : ∀ c ∈ (')' :: back).head?, inAddress c = false := by
    rintro c ⟨⟩
    rfl
  obtain ⟨htake, hdrop⟩ := takeWhile_run h.within hclose
  have htarget : target address ++ back = ']' :: '(' :: (address ++ ')' :: back) := by
    simp [target]
  rw [htarget]
  simp only [target?, htake, hdrop, (fits_iff.mp h).1, if_true]
  simp [target]

private theorem exists_of_target? {found : List Char × Nat} (h : target? starts cs = some found) :
    ∃ address back, Fits starts address ∧ cs = target address ++ back := by
  unfold target? at h
  split at h
  · next r =>
    have hsplit : r.takeWhile inAddress ++ r.dropWhile inAddress = r :=
      List.takeWhile_append_dropWhile
    dsimp only at h
    split at h
    · next back hclose =>
      split at h
      · next hfits =>
        refine ⟨r.takeWhile inAddress, back, ?_, ?_⟩
        · exact fits_iff.mpr ⟨hfits, List.all_eq_true.mpr fun c hc ↦ List.mem_takeWhile_imp hc⟩
        · rw [hclose] at hsplit
          simp [target, hsplit]
      · cases h
    · cases h
  · cases h

/-! ### The nearest target -/

/-- Behind words without a closing bracket the target is the one that follows them. -/
theorem nearestTarget?_append (hbracket : ']' ∉ words) (hline : '\n' ∉ words)
    (h : Fits starts address)
    (back : List Char) : nearestTarget? starts (words ++ (target address ++ back)) =
      some (address, words.length + (target address).length) := by
  induction words with
  | nil =>
    have hfound := target?_append h back
    rw [target, List.cons_append] at hfound
    rw [List.nil_append, target, List.cons_append, nearestTarget?, hfound]
    simp
  | cons c words ih =>
    rw [List.mem_cons, not_or] at hbracket hline
    have hnone : target? starts (c :: (words ++ (target address ++ back))) = none := by
      simp [target?, Ne.symm hbracket.1]
    rw [List.cons_append, nearestTarget?, hnone]
    simp [Ne.symm hline.1, ih hbracket.2 hline.2, Nat.add_right_comm]

/-- Behind words on one line some target is found. -/
theorem isSome_nearestTarget? (hwords : '\n' ∉ words) (h : Fits starts address)
    (back : List Char) :
    (nearestTarget? starts (words ++ (target address ++ back))).isSome = true := by
  induction words with
  | nil =>
    rw [nearestTarget?_append List.not_mem_nil List.not_mem_nil h]
    rfl
  | cons c words ih =>
    rw [List.mem_cons, not_or] at hwords
    obtain ⟨hline, hwords⟩ := hwords
    rw [List.cons_append, nearestTarget?]
    split
    · rfl
    · rw [if_neg (Ne.symm hline), Option.isSome_map]
      exact ih hwords

/-- A target that is found stands behind words on one line. -/
theorem exists_of_nearestTarget? {found : List Char × Nat}
    (h : nearestTarget? starts cs = some found) :
    ∃ words address back, '\n' ∉ words ∧ Fits starts address ∧
      cs = words ++ (target address ++ back) := by
  induction cs generalizing found with
  | nil => cases h
  | cons c r ih =>
    rw [nearestTarget?] at h
    split at h
    · next htarget =>
      obtain ⟨address, back, hfits, heq⟩ := exists_of_target? htarget
      exact ⟨[], address, back, List.not_mem_nil, hfits, heq⟩
    · split at h
      · cases h
      · next hline =>
        obtain ⟨found, hfound, -⟩ := Option.map_eq_some_iff.mp h
        obtain ⟨words, address, back, hwords, hfits, rfl⟩ := ih hfound
        refine ⟨c :: words, address, back, ?_, hfits, rfl⟩
        exact List.not_mem_cons_of_ne_of_not_mem (Ne.symm hline) hwords

/-! ### The recogniser -/

/-- An embedding without a closing bracket in its words is recognised whole. -/
theorem embedded?_append (hbracket : ']' ∉ words) (hline : '\n' ∉ words) (h : Fits starts address)
    (back : List Char) : embedded? starts (embedding words address ++ back) =
      some (address, (embedding words address).length) := by
  rw [embedding_append]
  simp [embedded?, nearestTarget?_append hbracket hline h, embedding]

/-- Something is recognised at the start of a text exactly when an embedding stands there. -/
theorem isSome_embedded?_iff : (embedded? starts cs).isSome = true ↔ Starts starts cs := by
  constructor
  · intro h
    obtain ⟨found, hfound⟩ := Option.isSome_iff_exists.mp h
    unfold embedded? at hfound
    split at hfound
    · obtain ⟨nearest, hnearest, -⟩ := Option.map_eq_some_iff.mp hfound
      obtain ⟨words, address, back, hwords, hfits, rfl⟩ := exists_of_nearestTarget? hnearest
      exact ⟨words, address, back, hwords, hfits, embedding_append.symm⟩
    · cases hfound
  · rintro ⟨words, address, back, hwords, hfits, rfl⟩
    rw [embedding_append]
    simp only [embedded?, Option.isSome_map]
    exact isSome_nearestTarget? hwords hfits back

/-- No picture is found where the text does not start as one. -/
theorem embedded?_eq_none_iff : embedded? starts cs = none ↔ ¬ Starts starts cs := by
  rw [← isSome_embedded?_iff, Bool.not_eq_true, Option.isSome_eq_false_iff,
    Option.isNone_iff_eq_none]

instance (starts : List (List Char)) (text : List Char) : Decidable (Shows starts text) :=
  decidable_of_iff (∃ tail ∈ text.tails, (embedded? starts tail).isSome = true) <| by
    simp only [Shows, List.mem_tails, isSome_embedded?_iff]

/-! ### What follows a text -/

/-- A text that starts as a picture is not empty. -/
theorem Starts.ne_nil (h : Starts starts cs) : cs ≠ [] := by
  obtain ⟨words, address, back, -, -, rfl⟩ := h
  exact List.cons_ne_nil _ _

/-- Before an embedding a text starts with one if it does so alone, or where it opens one that is
still open at its end. -/
theorem starts_append_iff (hne : tail ≠ []) (hwords : '\n' ∉ words) (h : Fits starts address)
    (back : List Char) : Starts starts (tail ++ (embedding words address ++ back)) ↔
      Starts starts tail ∨ ['!', '['] <+: tail ∧ '\n' ∉ tail := by
  constructor
  · rintro ⟨words', address', back', hwords', hfits, heq⟩
    by_cases hline : '\n' ∈ tail
    · -- The embedding ends before the line does.
      obtain ⟨front, rest, rfl⟩ := List.append_of_mem hline
      have hfree : '\n' ∉ embedding words' address' := by
        simp [embedding, hwords', hfits.notMem_target]
      rw [List.append_assoc, List.cons_append] at heq
      obtain ⟨gap, rfl⟩ := prefix_of_notMem heq.symm hfree
      exact .inl ⟨words', address', gap ++ '\n' :: rest, hwords', hfits, by simp⟩
    · -- The next embedding does not start with a bracket.
      refine .inr ⟨?_, hline⟩
      match tail, hne, heq with
      | [c], _, heq => simp [embedding] at heq
      | c :: d :: r, _, heq =>
        simp only [embedding, List.cons_append, List.cons.injEq] at heq
        obtain ⟨rfl, rfl, -⟩ := heq
        exact List.prefix_append ['!', '['] r
  · rintro (⟨words', address', back', hwords', hfits, rfl⟩ | ⟨⟨r, rfl⟩, hline⟩)
    · exact ⟨words', address', back' ++ (embedding words address ++ back), hwords', hfits, by simp⟩
    · have hr : '\n' ∉ r := fun hmem ↦ hline (List.mem_append_right ['!', '['] hmem)
      exact ⟨r ++ '!' :: '[' :: words, address, back, by simp [hr, hwords], h, by simp [embedding]⟩

/-- Nothing is recognised in a text that ends there exactly when it shows nothing. -/
theorem spared_iff : (∀ tail, tail <:+ text → tail ≠ [] → embedded? starts (tail ++ []) = none) ↔
    ¬ Shows starts text := by
  simp only [List.append_nil, embedded?_eq_none_iff, Shows, not_exists, not_and]
  exact ⟨fun h tail htail hstarts ↦ h tail htail hstarts.ne_nil hstarts,
    fun h tail htail _ ↦ h tail htail⟩

/-- Before an embedding, nothing of a text may be left open, either. -/
theorem spared_before_iff (hwords : '\n' ∉ words) (h : Fits starts address) (back : List Char) :
    (∀ tail, tail <:+ text → tail ≠ [] →
      embedded? starts (tail ++ (embedding words address ++ back)) = none) ↔
        ¬ Shows starts text ∧ ¬ LeavesOpen text := by
  simp only [embedded?_eq_none_iff, Shows, LeavesOpen, not_exists, not_and]
  constructor
  · intro hspared
    refine ⟨fun tail htail hstarts ↦ ?_, fun tail htail hopen hline ↦ ?_⟩
    · exact hspared tail htail hstarts.ne_nil
        ((starts_append_iff hstarts.ne_nil hwords h back).mpr (.inl hstarts))
    · have hne : tail ≠ [] := by
        rintro rfl
        simp at hopen
      exact hspared tail htail hne
        ((starts_append_iff hne hwords h back).mpr (.inr ⟨hopen, hline⟩))
  · rintro ⟨hshows, hopen⟩ tail htail hne hstarts
    rcases (starts_append_iff hne hwords h back).mp hstarts with hstarts | ⟨hopening, hline⟩
    · exact hshows tail htail hstarts
    · exact hopen tail htail hopening hline

end PersonaChat.Media
