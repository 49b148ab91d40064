import PersonaChat.Command.Names
import PersonaChat.Proofs.Command.Matching
import PersonaChat.Proofs.Results

/-!
# Which name is the longest

A text may start with several names at once: one name continues another, or two differ in what case
folds together. The name that is found is said here without the order in which names are tried. It
is as long as any that fits, and of those that are equally long it stands first. The search gives
such a name wherever there is one, and so does the search among values of any kind where all of
them are texts.

Spec guidance: `SPEC_FULL.md`, lines 81–82.
-/

namespace PersonaChat.Command

open Text

variable {narrowed : List Char} {names : List String} {name : String}

/-- A narrowed text starts with a name: up to case, its first characters, as many as the name has,
are the name with its signs narrowed. A text that is shorter than the name counts as a whole. -/
structure Starts (narrowed : List Char) (name : String) : Prop where
  /-- The name is not empty. -/
  filled : name ≠ ""
  /-- The characters are those of the name up to case. -/
  head : lower (narrowed.take name.length) = lower (normalize name.toList)

private theorem startsWithName_iff : startsWithName narrowed name = true ↔
    Starts narrowed name := by
  rw [startsWithName, Bool.and_eq_true, bne_iff_ne, beq_iff_eq]
  exact ⟨fun h ↦ ⟨h.1, h.2⟩, fun h ↦ ⟨h.filled, h.head⟩⟩

/-- A registered name with which a text starts, as long as any other one, and before all others of
its length. -/
structure Longest (narrowed : List Char) (names : List String) (name : String) : Prop where
  /-- The text starts with it. -/
  starts : Starts narrowed name
  /-- No name with which the text starts is longer. -/
  longest : ∀ other ∈ names, Starts narrowed other → other.length ≤ name.length
  /-- It is registered, and those of its length with which the text starts come after it. -/
  first : ∃ before after, names = before ++ name :: after ∧
    ∀ other ∈ before, Starts narrowed other → other.length ≠ name.length

private theorem Longest.mem (h : Longest narrowed names name) : name ∈ names := by
  obtain ⟨before, after, rfl, -⟩ := h.first
  exact List.mem_append_right _ List.mem_cons_self

/-! ### Sorting keeps names of one length in their order -/

/-- A text starts with a name, which has a given length. -/
def fitsAt (narrowed : List Char) (k : Nat) (name : String) : Bool :=
  startsWithName narrowed name && name.length == k

private theorem fitsAt_iff {k : Nat} : fitsAt narrowed k name = true ↔
    Starts narrowed name ∧ name.length = k := by
  rw [fitsAt, Bool.and_eq_true, startsWithName_iff, beq_iff_eq]

/-- Names are tried in their order among those of one length. -/
theorem filter_tried (narrowed : List Char) (names : List String) (k : Nat) :
    (names.mergeSort fun a b ↦ b.length ≤ a.length).filter (fitsAt narrowed k) =
      names.filter (fitsAt narrowed k) := by
  have hpairwise : (names.filter (fitsAt narrowed k)).Pairwise
      fun a b ↦ decide (b.length ≤ a.length) = true := by
    refine List.pairwise_of_forall_mem_list fun a ha b hb ↦ decide_eq_true ?_
    rw [(fitsAt_iff.mp (List.of_mem_filter ha)).2, (fitsAt_iff.mp (List.of_mem_filter hb)).2]
  have hsub := (List.sublist_mergeSort longerFirst_trans longerFirst_total hpairwise
    List.filter_sublist).filter (fitsAt narrowed k)
  rw [List.filter_filter] at hsub
  simp only [Bool.and_self] at hsub
  have hperm := (List.mergeSort_perm names fun a b ↦ decide (b.length ≤ a.length)).filter
    (fitsAt narrowed k)
  exact (hsub.eq_of_length hperm.length_eq.symm).symm

/-- A name stands before all others of its length with which the text starts. -/
theorem first_iff : (names.filter (fitsAt narrowed name.length)).head? = some name ↔
    Starts narrowed name ∧ ∃ before after, names = before ++ name :: after ∧
      ∀ other ∈ before, Starts narrowed other → other.length ≠ name.length := by
  rw [List.head?_filter, List.find?_eq_some_iff_append, fitsAt_iff, and_iff_left rfl]
  refine and_congr_right fun _ ↦ exists₂_congr fun before after ↦ and_congr_right fun _ ↦ ?_
  refine forall₂_congr fun other _ ↦ ?_
  rw [Bool.not_eq_true', ← Bool.not_eq_true, fitsAt_iff, not_and]

/-! ### The search -/

/-- The name that is found is the longest, and the first of these. -/
theorem longest_of_matchName? (h : matchName? narrowed names = some name) :
    Longest narrowed names name := by
  obtain ⟨-, hfits, hlonger⟩ := matchName?_eq_some h
  have hstarts := startsWithName_iff.mp hfits
  have hhead : (names.filter (fitsAt narrowed name.length)).head? = some name := by
    rw [← filter_tried, List.head?_filter, List.find?_eq_some_iff_append]
    obtain ⟨-, before, after, hsplit, hbefore⟩ := List.find?_eq_some_iff_append.mp h
    refine ⟨fitsAt_iff.mpr ⟨hstarts, rfl⟩, before, after, hsplit, fun other hother ↦ ?_⟩
    have hmiss := hbefore other hother
    rw [Bool.not_eq_true'] at hmiss ⊢
    rw [fitsAt, hmiss, Bool.false_and]
  refine ⟨hstarts, fun other hmem hother ↦ Nat.le_of_not_lt fun hlt ↦ ?_, (first_iff.mp hhead).2⟩
  have hmiss := hlonger other hmem hlt
  rw [startsWithName_iff.mpr hother] at hmiss
  cases hmiss

/-- No name is found exactly where the text starts with none. -/
theorem matchName?_eq_none_iff :
    matchName? narrowed names = none ↔ ∀ name ∈ names, ¬ Starts narrowed name := by
  rw [matchName?, List.find?_eq_none]
  simp only [List.mem_mergeSort, startsWithName_iff]

/-- There is one longest name at most: two are of the same length, and of that length each stands
first. -/
theorem Longest.unique {other : String} (h : Longest narrowed names name)
    (h' : Longest narrowed names other) : name = other := by
  have hlength : name.length = other.length :=
    Nat.le_antisymm (h'.longest name h.mem h.starts) (h.longest other h'.mem h'.starts)
  have hname := first_iff.mpr ⟨h.starts, h.first⟩
  have hother := first_iff.mpr ⟨h'.starts, h'.first⟩
  rw [hlength, hother] at hname
  exact (Option.some.inj hname).symm

/-- The longest name is found. -/
theorem matchName?_of_longest (h : Longest narrowed names name) :
    matchName? narrowed names = some name := by
  cases hfound : matchName? narrowed names with
  | some found => rw [(longest_of_matchName? hfound).unique h]
  | none => exact absurd h.starts (matchName?_eq_none_iff.mp hfound name h.mem)

/-! ### The search among values -/

private theorem firstMatch_texts (narrowed : List Char) (names : List String) :
    firstMatch narrowed (names.map .str) = .ok (names.find? (startsWithName narrowed)) := by
  induction names with
  | nil => rfl
  | cons name names ih =>
    rw [List.map_cons, firstMatch, List.find?_cons]
    by_cases hname : name = ""
    · subst hname
      exact ih
    · have hfilled : (Json.str name).isFilled = true := by simp [Json.isFilled, hname]
      rw [hfilled]
      show (if startsWithName narrowed name then pure (some name) else firstMatch narrowed _) = _
      cases startsWithName narrowed name with
      | true => rfl
      | false => exact ih

/-- Among values that are texts the search finds what it finds among the texts. -/
theorem matchAmong_texts (narrowed : List Char) (names : List String) :
    matchAmong narrowed (names.map .str) = .ok (matchName? narrowed names) := by
  have hmeasured : (names.map Json.str).mapM (fun name ↦ (nameLength name).map (name, ·)) =
      .ok (names.map fun name ↦ (Json.str name, name.length)) := by
    have heach : ∀ entry ∈ names.map fun name ↦ (Json.str name, name.length),
        (nameLength entry.1).map (entry.1, ·) = .ok entry := by
      intro entry hentry
      obtain ⟨name, -, rfl⟩ := List.mem_map.mp hentry
      rfl
    have hall :=
      mapM_map_self (f := fun name ↦ (nameLength name).map (name, ·)) (g := Prod.fst) heach
    rwa [List.map_map] at hall
  have hsorted := (List.map_mergeSort (l := names) (f := fun name ↦ (Json.str name, name.length))
    (r := fun a b ↦ decide (b.length ≤ a.length)) (s := fun a b ↦ decide (b.2 ≤ a.2))
    fun _ _ _ _ ↦ rfl).symm
  unfold matchAmong
  rw [hmeasured]
  show firstMatch narrowed (List.map Prod.fst (List.mergeSort _ _)) = _
  rw [hsorted, List.map_map]
  exact firstMatch_texts narrowed _

/-- A text finds the longest name that it starts with, and of equally long ones the first, and it
finds none exactly where it starts with none. The search among values of any kind does the same
where all of them are texts. -/
theorem longest_name_is_found (narrowed : List Char) (names : List String) :
    (∀ name, matchName? narrowed names = some name ↔ Longest narrowed names name) ∧
      (matchName? narrowed names = none ↔ ∀ name ∈ names, ¬ Starts narrowed name) ∧
      matchAmong narrowed (names.map .str) = .ok (matchName? narrowed names) :=
  ⟨fun _ ↦ ⟨longest_of_matchName?, matchName?_of_longest⟩, matchName?_eq_none_iff,
    matchAmong_texts narrowed names⟩

/-- Of two names that differ by case the first is found, and not the shorter one that stands
before. -/
example : matchName? ['B', 'O', 'T', ' ', 'h', 'i'] ["", "Bo", "bot", "Bot"] = some "bot" := by cbv

/-- A name may be longer than the text that starts with it, as a letter may have two in lower
case. -/
example : matchName? ['İ', 'x'] ["i\u0307x"] = some "i\u0307x" := by cbv

end PersonaChat.Command
