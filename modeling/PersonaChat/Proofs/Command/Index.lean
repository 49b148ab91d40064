import Mathlib.Data.List.Sort
import PersonaChat.Command.Index
import PersonaChat.Proofs.Text.Decimal
import PersonaChat.Proofs.Text.Scan

/-!
# Positions are read back

A list of numbers and ranges is read back as the ascending list, each once, of the positions that
they name, whichever characters stand between them that are neither digits nor hyphens. Main
statement: the positions that a list with commas names, whatever numbers and ranges it holds and
however they are spelled.

Spec guidance: `SPEC_FULL.md`, lines 98–103 and 225.
-/

namespace PersonaChat.Command

open Text Number

/-! ### Items -/

namespace IndexItem

/-- Both runs are made of digits. -/
structure OfDigits (item : IndexItem) : Prop where
  first_ne : item.first ≠ []
  first : ∀ c ∈ item.first, isDecimal c = true
  last_ne : ∀ ds ∈ item.last, ds ≠ []
  last : ∀ ds ∈ item.last, ∀ c ∈ ds, isDecimal c = true

/-- An item as it is written. -/
def chars (item : IndexItem) : List Char :=
  match item.last with
  | none => item.first
  | some ds => item.first ++ '-' :: ds

/-- What follows does not go on with an item. -/
def EndsAt (item : IndexItem) (rest : List Char) : Prop :=
  (∀ c ∈ rest.head?, isDecimal c = false) ∧
    (item.last = none → ∀ c r, rest = '-' :: c :: r → isDecimal c = false)

/-- One of the runs is too long to be converted. -/
def TooLong (item : IndexItem) : Prop :=
  digitLimit < item.first.length ∨ ∃ ds ∈ item.last, digitLimit < ds.length

variable {item : IndexItem}

/-- An item of digits is not empty. -/
theorem OfDigits.chars_ne_nil (h : item.OfDigits) : item.chars ≠ [] := by
  unfold chars
  split
  · exact h.first_ne
  · simp

/-- An item is recognised where it ends. -/
theorem OfDigits.indexItem?_append (h : item.OfDigits) {rest : List Char}
    (hends : item.EndsAt rest) :
    indexItem? (item.chars ++ rest) = some (item, item.chars.length) := by
  obtain ⟨first, last⟩ := item
  cases last with
  | none =>
    obtain ⟨htake, hdrop⟩ := takeWhile_run h.first hends.1
    unfold indexItem?
    simp only [chars, htake, hdrop]
    split
    · exact absurd rfl h.first_ne
    · split
      · next r =>
        split
        · rfl
        · next hne =>
          -- No digit follows the hyphen.
          cases r with
          | nil => exact absurd rfl hne
          | cons c r =>
              exact absurd (List.takeWhile_cons_of_neg (by simp [hends.2 rfl c r rfl])) hne
      · rfl
  | some ds =>
    have hhyphen : ∀ c ∈ ('-' :: (ds ++ rest)).head?, isDecimal c = false := by
      rintro c ⟨⟩
      decide
    obtain ⟨htakeLast, -⟩ := takeWhile_run (h.last ds rfl) hends.1
    obtain ⟨htake, hdrop⟩ := takeWhile_run h.first hhyphen
    unfold indexItem?
    simp only [chars, List.append_assoc, List.cons_append, htake, hdrop, htakeLast]
    split
    · exact absurd rfl h.first_ne
    · split
      · exact absurd rfl (h.last_ne _ rfl)
      · rw [List.length_append, List.length_cons, Nat.add_assoc, Nat.add_comm 1]

end IndexItem

/-- A position, or a range of positions from a first to a last one. -/
structure Span where
  /-- The first position. -/
  first : Nat
  /-- The last position of a range. -/
  last : Option Nat

/-- A range names the positions from its first to its last one, as far as they are counted. -/
def Span.Names (s : Span) (k : Nat) : Prop :=
  match s.last with
  | none => k = s.first
  | some b => s.first ≤ k ∧ k ≤ b ∧ k < s.first + maxSpan

namespace IndexItem

/-- The runs of digits denote the ends of a range. -/
structure Denotes (item : IndexItem) (s : Span) : Prop where
  ofDigits : item.OfDigits
  first : decimalValue? item.first = some s.first
  last : item.last.map decimalValue? = s.last.map some

/-- What an item is read as is what a range names, zero included. -/
def Finds (item : IndexItem) (s : Span) : Prop :=
  ∃ ks, item.positions = .ok ks ∧ ∀ k, k ∈ ks ↔ s.Names k

/-- What an item denotes is found unless it is too long. -/
theorem Denotes.finds {item : IndexItem} {s : Span} (h : item.Denotes s)
    (hshort : ¬ item.TooLong) :
    item.Finds s := by
  have hvalue {ds : List Char} (hne : ds ≠ []) (hlength : ¬ digitLimit < ds.length) :
      ofDigits? ds = decimalValue? ds := by
    rw [ofDigits?, if_neg (by simpa [hne] using hlength)]
  obtain ⟨hof, hfirst, hlast⟩ := h
  obtain ⟨first, last⟩ := item
  obtain ⟨a, b⟩ := s
  rw [← hvalue hof.first_ne fun hlong ↦ hshort (.inl hlong)] at hfirst
  cases last with
  | none =>
    cases b with
    | none => exact ⟨[a], by simp [positions, hfirst], by simp [Span.Names]⟩
    | some b => cases hlast
  | some ds =>
    cases b with
    | none => cases hlast
    | some b =>
      have hb : ofDigits? ds = some b := by
        rw [hvalue (hof.last_ne ds rfl) fun hlong ↦ hshort (.inr ⟨ds, rfl, hlong⟩)]
        exact Option.some_inj.mp hlast
      refine ⟨List.range' a (min (b + 1 - a) maxSpan), by simp [positions, hfirst, hb], fun k ↦ ?_⟩
      simp only [List.mem_range'_1, Span.Names]
      omega

/-- An item is a spelling of a number or a range, and not too long to be converted. -/
structure Spells (item : IndexItem) (s : Span) : Prop where
  denotes : item.Denotes s
  short : ¬ item.TooLong

end IndexItem

namespace Span

/-- A number, or two with a hyphen between them. -/
def chars (s : Span) : List Char :=
  match s.last with
  | none => natChars s.first
  | some b => natChars s.first ++ '-' :: natChars b

/-- What is recognised. -/
def item (s : Span) : IndexItem := ⟨natChars s.first, s.last.map natChars⟩

/-- No number is too long. -/
structure Short (s : Span) : Prop where
  first : s.first < 10 ^ digitLimit
  last : ∀ b ∈ s.last, b < 10 ^ digitLimit

/-- Numbers of one digit are not too long. -/
theorem short_of_lt_ten {s : Span} (h : s.first < 10 ∧ ∀ b ∈ s.last, b < 10) : s.Short := by
  have hlimit : 10 ≤ 10 ^ digitLimit := Nat.le_self_pow (by decide) 10
  exact ⟨Nat.lt_of_lt_of_le h.1 hlimit, fun b hb ↦ Nat.lt_of_lt_of_le (h.2 b hb) hlimit⟩

private theorem chars_item (s : Span) : s.item.chars = s.chars := by
  obtain ⟨first, last⟩ := s
  cases last <;> rfl

/-- A written number or range denotes itself. -/
theorem denotes_item (s : Span) : s.item.Denotes s where
  ofDigits :=
    { first_ne := natChars_ne_nil _
      first := fun _ hc ↦ isDecimal_of_isAsciiDigit (isAsciiDigit_of_mem_natChars hc)
      last_ne := by
        intro ds hds
        obtain ⟨b, -, rfl⟩ := Option.mem_map.mp hds
        exact natChars_ne_nil b
      last := by
        intro ds hds c hc
        obtain ⟨b, -, rfl⟩ := Option.mem_map.mp hds
        exact isDecimal_of_isAsciiDigit (isAsciiDigit_of_mem_natChars hc) }
  first := decimalValue?_natChars _
  last := by
    obtain ⟨first, last⟩ := s
    cases last with
    | none => rfl
    | some b => exact congrArg some (decimalValue?_natChars b)

/-- A written number or range that is short spells itself. -/
theorem Short.spells_item {s : Span} (h : s.Short) : s.item.Spells s where
  denotes := s.denotes_item
  short := by
    have hshort {n : Nat} (hn : n < 10 ^ digitLimit) : ¬ digitLimit < (natChars n).length :=
      Nat.not_lt.mpr ((length_natChars_le_iff (by decide)).mpr hn)
    rintro (hlong | ⟨ds, hds, hlong⟩)
    · exact hshort h.first hlong
    · obtain ⟨b, hb, rfl⟩ := Option.mem_map.mp hds
      exact hshort (h.last b hb) hlong

/-- A character between two items. -/
def Separates (c : Char) : Prop := isDecimal c = false ∧ c ≠ '-'

/-- A list of items with the characters between them. -/
def joined (s : Span) (more : List (Char × Span)) : List Char :=
  s.chars ++ more.flatMap fun entry ↦ entry.1 :: entry.2.chars

end Span

namespace IndexItem

/-- A list of items in any spelling with the characters between them. -/
def joined (item : IndexItem) (more : List (Char × IndexItem)) : List Char :=
  item.chars ++ more.flatMap fun entry ↦ entry.1 :: entry.2.chars

/-- All items of a list are recognised, in order. -/
theorem hits_joined {item : IndexItem} {more : List (Char × IndexItem)}
    (hitems : ∀ i ∈ item :: more.map Prod.snd, i.OfDigits)
    (h : ∀ entry ∈ more, Span.Separates entry.1) :
    hits indexItem? (joined item more) = item :: more.map Prod.snd := by
  have hends {item : IndexItem} {rest : List Char} (hrest : ∀ c ∈ rest.head?, Span.Separates c) :
      item.EndsAt rest := by
    refine ⟨fun c hc ↦ (hrest c hc).1, ?_⟩
    rintro - c r rfl
    exact absurd rfl (hrest '-' rfl).2
  have hitem := hitems item List.mem_cons_self
  induction more generalizing item with
  | nil =>
    have hnothing : item.EndsAt [] := hends nofun
    have hfound := hitem.indexItem?_append hnothing
    rw [joined, List.flatMap_nil, hits_append hitem.chars_ne_nil hfound]
    rfl
  | cons entry more ih =>
    obtain ⟨c, next⟩ := entry
    have hc : Span.Separates c := h (c, next) List.mem_cons_self
    have hfound :
        indexItem? (item.chars ++ c :: joined next more) = some (item, item.chars.length) := by
      apply hitem.indexItem?_append
      apply hends
      rintro d ⟨⟩
      exact hc
    have hskip : indexItem? (c :: joined next more) = none := by
      rw [indexItem?, List.takeWhile_cons_of_neg (by simp [hc.1])]
    have hnext : ∀ i ∈ next :: more.map Prod.snd, i.OfDigits :=
      fun i hi ↦ hitems i (List.mem_cons_of_mem item hi)
    show hits indexItem? (item.chars ++ c :: joined next more) = _
    rw [hits_append hitem.chars_ne_nil hfound, hits_cons hskip,
      ih hnext (fun e he ↦ h e (List.mem_cons_of_mem _ he)) (hnext next List.mem_cons_self)]
    rfl

end IndexItem

/-- A list of written numbers and ranges is a list of items. -/
theorem Span.joined_eq (s : Span) (more : List (Char × Span)) :
    joined s more = s.item.joined (more.map fun entry ↦ (entry.1, entry.2.item)) := by
  simp [joined, IndexItem.joined, List.flatMap_map, chars_item]

/-- The ascending list, each once, of the positions that items name. Zero is no position. -/
structure Lists (spans : List Span) (ks : List Nat) : Prop where
  /-- In order, without repetition. -/
  ascending : ks.Pairwise (· < ·)
  /-- Those named, and no others. -/
  mem_iff : ∀ k, k ∈ ks ↔ k ≠ 0 ∧ ∃ s ∈ spans, s.Names k

/-- The list is determined by what is named. -/
theorem Lists.unique {spans : List Span} {ks ks' : List Nat} (h : Lists spans ks)
    (h' : Lists spans ks') : ks = ks' :=
  h.ascending.eq_of_mem_iff h'.ascending fun k ↦ (h.mem_iff k).trans (h'.mem_iff k).symm

/-- No positions are listed by no items. -/
theorem lists_nil : Lists [] [] where
  ascending := .nil
  mem_iff := by simp

/-- Dropping repetitions from an ascending list leaves each element once. -/
theorem dropRepeats_spec {ks : List Nat} (h : ks.Pairwise (· ≤ ·)) :
    (dropRepeats ks).Pairwise (· < ·) ∧ ∀ k, k ∈ dropRepeats ks ↔ k ∈ ks := by
  fun_induction dropRepeats ks with
  | case1 => exact ⟨.nil, fun _ ↦ Iff.rfl⟩
  | case2 a => exact ⟨List.pairwise_singleton _ a, fun _ ↦ Iff.rfl⟩
  | case3 a r ih =>
    obtain ⟨hascending, hmem⟩ := ih (List.pairwise_cons.mp h).2
    refine ⟨hascending, fun k ↦ ?_⟩
    rw [hmem]
    simp
  | case4 a b r hne ih =>
    obtain ⟨hfirst, hrest⟩ := List.pairwise_cons.mp h
    obtain ⟨hascending, hmem⟩ := ih hrest
    have hb := hfirst b List.mem_cons_self
    refine ⟨List.pairwise_cons.mpr ⟨fun k hk ↦ ?_, hascending⟩, fun k ↦ ?_⟩
    · rcases List.mem_cons.mp ((hmem k).mp hk) with rfl | hk
      · omega
      · have := (List.pairwise_cons.mp hrest).1 k hk
        omega
    · rw [List.mem_cons, List.mem_cons, hmem]

/-- What the items of a text name is found, in order. -/
private theorem mapM_positions {items : List IndexItem} {spans : List Span}
    (h : List.Forall₂ IndexItem.Finds items spans) :
    ∃ named, items.mapM IndexItem.positions = .ok named ∧
      ∀ k, k ∈ named.flatten ↔ ∃ s ∈ spans, s.Names k := by
  induction h with
  | nil => exact ⟨[], rfl, by simp⟩
  | @cons item s items spans hitem _ ih =>
    obtain ⟨ks, hks, hmem⟩ := hitem
    obtain ⟨named, hnamed, hflat⟩ := ih
    refine ⟨ks :: named, ?_, fun k ↦ ?_⟩
    · rw [List.mapM_cons, hks, hnamed]
      rfl
    · rw [List.flatten_cons, List.mem_append, hmem, hflat]
      simp only [List.mem_cons, exists_eq_or_imp]

/-- A text is read as the ascending list of the positions that its items name. -/
theorem readIndices_of_hits {cs : List Char} {spans : List Span}
    (h : List.Forall₂ IndexItem.Finds (hits indexItem? cs) spans) :
    ∃ ks, readIndices cs = .ok ks ∧ Lists spans ks := by
  obtain ⟨named, hnamed, hmem⟩ := mapM_positions h
  have hsorted := List.pairwise_mergeSort' (· ≤ ·) (named.flatten.filter (· ≠ 0))
  obtain ⟨hascending, hsame⟩ := dropRepeats_spec hsorted
  refine ⟨_, ?_, hascending, fun k ↦ ?_⟩
  · rw [readIndices, hnamed]
    rfl
  · rw [hsame, List.mem_mergeSort, List.mem_filter, hmem, decide_eq_true_eq, and_comm]

namespace IndexItem

/-- A list of items is read as the ascending list of the positions that they name. -/
theorem readIndices_joined {item : IndexItem} {more : List (Char × IndexItem)} {spans : List Span}
    (hseparates : ∀ entry ∈ more, Span.Separates entry.1)
    (hspells : List.Forall₂ Spells (item :: more.map Prod.snd) spans) :
    ∃ ks, readIndices (item.joined more) = .ok ks ∧ Lists spans ks := by
  have hdigits : ∀ i ∈ item :: more.map Prod.snd, i.OfDigits := by
    generalize item :: more.map Prod.snd = items at hspells
    induction hspells with
    | nil => nofun
    | cons hitem _ ih => exact List.forall_mem_cons.mpr ⟨hitem.denotes.ofDigits, ih⟩
  apply readIndices_of_hits
  rw [hits_joined hdigits hseparates]
  exact hspells.imp fun _ _ h ↦ h.denotes.finds h.short

end IndexItem

/-- A list of short items is read as the ascending list of the positions that they name. -/
theorem readIndices_joined {s : Span} {more : List (Char × Span)}
    (hseparates : ∀ entry ∈ more, Span.Separates entry.1)
    (hshort : ∀ t ∈ s :: more.map Prod.snd, t.Short) :
    ∃ ks, readIndices (Span.joined s more) = .ok ks ∧ Lists (s :: more.map Prod.snd) ks := by
  have hitems : s.item :: (more.map fun entry ↦ (entry.1, entry.2.item)).map Prod.snd =
      (s :: more.map Prod.snd).map Span.item := by
    rw [List.map_cons, List.map_map, List.map_map]
    rfl
  rw [Span.joined_eq]
  apply IndexItem.readIndices_joined
  · intro entry hentry
    obtain ⟨e, he, rfl⟩ := List.mem_map.mp hentry
    exact hseparates e he
  · rw [hitems, List.forall₂_map_left_iff, List.forall₂_same]
    exact fun t ht ↦ (hshort t ht).spells_item

/-! ### Lists as users write them -/

/-- A range whose last position stands before its first one. -/
def Span.isReversed (s : Span) : Bool := s.last.any (· < s.first)

private theorem Span.not_names_of_isReversed {s : Span} (h : s.isReversed = true) (k : Nat) :
    ¬ s.Names k := by
  obtain ⟨a, last⟩ := s
  cases last with
  | none => cases h
  | some b =>
    have hb : b < a := by simpa [isReversed] using h
    simp only [Names]
    omega

/-- Reversed ranges can be left out. -/
theorem Lists.filter_isReversed {spans : List Span} {ks : List Nat} (h : Lists spans ks) :
    Lists (spans.filter (!·.isReversed)) ks where
  ascending := h.ascending
  mem_iff := by
    intro k
    rw [h.mem_iff]
    refine and_congr_right fun _ ↦ exists_congr fun s ↦ ?_
    rw [List.mem_filter, Bool.not_eq_true', and_assoc]
    refine and_congr_right fun _ ↦ ⟨fun hk ↦ ⟨?_, hk⟩, And.right⟩
    rw [← Bool.not_eq_true]
    exact fun hreversed ↦ Span.not_names_of_isReversed hreversed k hk

/-- What an item names starts at its first position and goes no further than is counted. -/
theorem Span.Names.mem_range' {s : Span} {k : Nat} (h : s.Names k) :
    k ∈ List.range' s.first maxSpan := by
  obtain ⟨a, last⟩ := s
  rw [List.mem_range'_1]
  cases last with
  | none =>
    have hk : k = a := h
    simp only [maxSpan]
    omega
  | some b =>
    obtain ⟨hfirst, -, hspan⟩ := h
    exact ⟨hfirst, hspan⟩

instance (s : Span) (k : Nat) : Decidable (s.Names k) :=
  match s with
  | ⟨a, none⟩ => inferInstanceAs (Decidable (k = a))
  | ⟨a, some b⟩ => inferInstanceAs (Decidable (a ≤ k ∧ k ≤ b ∧ k < a + maxSpan))

/-- An item contributes a limited number of positions. -/
theorem Lists.length_filter_names_le {spans : List Span} {ks : List Nat} (h : Lists spans ks)
    (s : Span) : (ks.filter (s.Names ·)).length ≤ maxSpan := by
  have hnodup : (ks.filter (s.Names ·)).Nodup :=
    (h.ascending.imp fun {_ _} hlt ↦ Nat.ne_of_lt hlt).filter _
  have hrange : ks.filter (s.Names ·) ⊆ List.range' s.first maxSpan := by
    intro k hk
    have hnames : s.Names k := of_decide_eq_true (List.mem_filter.mp hk).2
    exact hnames.mem_range'
  have hlength := (List.subperm_of_subset hnodup hrange).length_le
  rwa [List.length_range'] at hlength

/-- Numbers and ranges in any spelling, with commas of either width between them, are read as the
ascending list of the positions that they name: a number names itself, a range those from its first
to its last one, as far as they are counted, and zero is no position. -/
theorem lists_are_read_as_positions {item : IndexItem} {more : List (Char × IndexItem)}
    {spans : List Span} (hcommas : ∀ entry ∈ more, entry.1 = ',' ∨ entry.1 = '，')
    (hspells : List.Forall₂ IndexItem.Spells (item :: more.map Prod.snd) spans) :
    ∃ ks, readIndices (item.joined more) = .ok ks ∧ ks.Pairwise (· < ·) ∧
      (∀ k, k ∈ ks ↔ 1 ≤ k ∧ ∃ s ∈ spans, (s.last = none ∧ k = s.first) ∨
        ∃ b, s.last = some b ∧ s.first ≤ k ∧ k ≤ min b (s.first + 9999)) ∧
      Lists (spans.filter (!·.isReversed)) ks ∧
      ∀ s ∈ spans, (ks.filter (s.Names ·)).length ≤ 10000 := by
  have hseparates : ∀ entry ∈ more, Span.Separates entry.1 := by
    intro entry hentry
    rcases hcommas entry hentry with hcomma | hcomma
    · rw [hcomma]
      exact ⟨by decide, by decide⟩
    · rw [hcomma]
      exact ⟨by decide, by decide⟩
  have hnames (s : Span) (k : Nat) : s.Names k ↔ (s.last = none ∧ k = s.first) ∨
      ∃ b, s.last = some b ∧ s.first ≤ k ∧ k ≤ min b (s.first + 9999) := by
    obtain ⟨a, last⟩ := s
    cases last with
    | none => simp [Span.Names]
    | some b =>
      simp only [Span.Names, maxSpan, reduceCtorEq, false_and, Option.some.injEq, false_or,
        exists_eq_left']
      omega
  obtain ⟨ks, hread, hlists⟩ := IndexItem.readIndices_joined hseparates hspells
  refine ⟨ks, hread, hlists.ascending, fun k ↦ ?_, hlists.filter_isReversed,
    fun s _ ↦ hlists.length_filter_names_le s⟩
  rw [hlists.mem_iff, ← Nat.one_le_iff_ne_zero]
  simp only [hnames]

/-- A reversed range, leading zeros, a range that starts at zero, and a position named twice. -/
theorem lists_are_read_as_positions_of_mixture :
    let item : IndexItem := ⟨['5'], some ['2']⟩
    let more : List (Char × IndexItem) :=
      [('，', ⟨['0', '0', '7'], none⟩), (',', ⟨['0'], some ['4']⟩), ('，', ⟨['3'], none⟩)]
    let spans : List Span := [⟨5, some 2⟩, ⟨7, none⟩, ⟨0, some 4⟩, ⟨3, none⟩]
    item.joined more = "5-2，007,0-4，3".toList ∧
      (∀ entry ∈ more, entry.1 = ',' ∨ entry.1 = '，') ∧
      List.Forall₂ IndexItem.Spells (item :: more.map Prod.snd) spans ∧
      readIndices "5-2，007,0-4，3".toList = .ok [1, 2, 3, 4, 7] := by
  intro item more spans
  have htext : item.joined more = "5-2，007,0-4，3".toList := by decide
  have hcommas : ∀ entry ∈ more, entry.1 = ',' ∨ entry.1 = '，' := by simp [more]
  have hplain {s : Span} (h : s.first < 10 ∧ ∀ b ∈ s.last, b < 10) : s.item.Spells s :=
    (Span.short_of_lt_ten h).spells_item
  have hzeros : IndexItem.Spells ⟨['0', '0', '7'], none⟩ ⟨7, none⟩ :=
    { denotes :=
        { ofDigits := ⟨by simp, List.all_eq_true.mp (by decide), nofun, nofun⟩
          first := by decide
          last := rfl }
      short := by simp [IndexItem.TooLong, digitLimit] }
  have hspells : List.Forall₂ IndexItem.Spells (item :: more.map Prod.snd) spans :=
    .cons (hplain (s := ⟨5, some 2⟩) (by simp)) (.cons hzeros
      (.cons (hplain (s := ⟨0, some 4⟩) (by simp))
        (.cons (hplain (s := ⟨3, none⟩) (by simp)) .nil)))
  obtain ⟨ks, hread, -, -, hlists, -⟩ := lists_are_read_as_positions hcommas hspells
  have hpositions : Lists (spans.filter (!·.isReversed)) [1, 2, 3, 4, 7] :=
    { ascending := by decide
      mem_iff := by
        intro k
        simp [spans, Span.isReversed, Span.Names, maxSpan]
        omega }
  rw [htext, hlists.unique hpositions] at hread
  exact ⟨htext, hcommas, hspells, hread⟩

end PersonaChat.Command
