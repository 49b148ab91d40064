import PersonaChat.Proofs.Command.Letters
import PersonaChat.Proofs.Command.Narrowing
import PersonaChat.Proofs.Registry.Naming

/-!
# The longest name is found

Where a registered name is followed by a character that no name holds, it is the one that is found.
A longer name does not fit, as that character stands in its way, and an equally long one fits only
if it differs by case at most, which names that are told apart do not.
-/

namespace PersonaChat.Command

open Text

/-! ### The order in which names are tried -/

variable {names : List String} {name : String} {narrowed : List Char}

/-- The order of names by length is transitive. -/
theorem longerFirst_trans (a b d : String) (hab : decide (b.length ≤ a.length) = true)
    (hbd : decide (d.length ≤ b.length) = true) : decide (d.length ≤ a.length) = true :=
  decide_eq_true (Nat.le_trans (of_decide_eq_true hbd) (of_decide_eq_true hab))

/-- Any two names are in order by length. -/
theorem longerFirst_total (a b : String) :
    (decide (b.length ≤ a.length) || decide (a.length ≤ b.length)) = true := by
  simpa using Nat.le_total b.length a.length

/-- Names are tried by descending length. -/
theorem pairwise_tried (names : List String) :
    (names.mergeSort fun a b ↦ b.length ≤ a.length).Pairwise fun a b ↦ b.length ≤ a.length :=
  (List.pairwise_mergeSort longerFirst_trans longerFirst_total names).imp of_decide_eq_true

/-- What follows a text is among more characters than the text has. -/
theorem mem_take_of_longer {front rest : List Char} {c : Char} {k : Nat} (h : front.length < k) :
    c ∈ (front ++ c :: rest).take k := by
  obtain ⟨j, rfl⟩ := Nat.exists_eq_add_of_lt h
  rw [Nat.add_assoc, List.take_length_add_append, List.take_succ_cons]
  exact List.mem_append_right _ List.mem_cons_self

/-- A text of the length of a name starts with it when the two differ by signs and case at most. -/
theorem startsWithName_append_iff {front rest : List Char} (hlength : front.length = name.length) :
    startsWithName (front ++ rest) name = true ↔
      name ≠ "" ∧ lower front = lower (normalize name.toList) := by
  rw [startsWithName, List.take_left' hlength]
  simp

/-- A name that is found is a registered one that fits, and no longer one does. -/
theorem matchName?_eq_some (h : matchName? narrowed names = some name) :
    name ∈ names ∧ startsWithName narrowed name = true ∧
      ∀ other ∈ names, name.length < other.length → startsWithName narrowed other = false := by
  have hmem {other : String} :
      other ∈ names.mergeSort (fun a b ↦ b.length ≤ a.length) ↔ other ∈ names := List.mem_mergeSort
  obtain ⟨hfits, front, back, hsplit, hfront⟩ := List.find?_eq_some_iff_append.mp h
  refine ⟨?_, hfits, fun other hother hlonger ↦ ?_⟩
  · rw [← hmem, hsplit]
    exact List.mem_append_right _ List.mem_cons_self
  · rw [← hmem, hsplit] at hother
    have hsorted := pairwise_tried names
    rw [hsplit] at hsorted
    rcases List.mem_append.mp hother with hother | hother
    · simpa using hfront other hother
    · rcases List.mem_cons.mp hother with rfl | hother
      · exact absurd hlonger (Nat.lt_irrefl _)
      · have hle := (List.pairwise_cons.mp (List.pairwise_append.mp hsorted).2.1).1 other hother
        omega

/-- Of two names that are found in texts that both fit, neither is tried before the other. -/
theorem eq_of_matchName? {narrowed' : List Char} {other : String}
    (h : matchName? narrowed names = some name) (h' : matchName? narrowed' names = some other)
    (hother : startsWithName narrowed other = true)
    (hname : startsWithName narrowed' name = true) :
    name = other := by
  obtain ⟨-, i, hi, hiname, hbefore⟩ := List.find?_eq_some_iff_getElem.mp h
  obtain ⟨-, j, hj, hjother, hbefore'⟩ := List.find?_eq_some_iff_getElem.mp h'
  rcases Nat.lt_trichotomy i j with hlt | heq | hlt
  · have hmiss := hbefore' i hlt
    rw [hiname, hname] at hmiss
    cases hmiss
  · rw [← hiname, ← hjother]
    exact getElem_congr_idx heq
  · have hmiss := hbefore j hlt
    rw [hjother, hother] at hmiss
    cases hmiss

end PersonaChat.Command

namespace PersonaChat.Name.Apart

open Text Command

variable {names : List String} {name : String}

/-- No character of a name is barred. -/
theorem allows_of_mem (h : Apart names) (hname : name ∈ names) :
    ∀ c ∈ name.toList, allows c = true := by
  have hvalid := h.valid name hname
  simp only [isValid, Bool.and_eq_true, List.all_eq_true] at hvalid
  exact hvalid.2

/-- No name that is told apart is empty. -/
theorem ne_empty (h : Apart names) (hname : name ∈ names) : name ≠ "" := by
  have hvalid := h.valid name hname
  simp only [isValid, Bool.and_eq_true, bne_iff_ne] at hvalid
  exact hvalid.1.1

/-- No name that is told apart is longer than is allowed. -/
theorem length_le (h : Apart names) (hname : name ∈ names) : name.length ≤ maxLength := by
  have hvalid := h.valid name hname
  simp only [isValid, Bool.and_eq_true, decide_eq_true_eq] at hvalid
  exact hvalid.1.2

/-- Names with the same lower case are the same. -/
theorem eq_of_lower (h : Apart names) {other : String} (hname : name ∈ names)
    (hother : other ∈ names) (hlower : lower name.toList = lower other.toList) : name = other :=
  List.inj_on_of_nodup_map h.nodup hname hother (congrArg String.ofList hlower)

/-- By descending length, only other names that are at least as long come before a name. -/
theorem exists_longer (h : Apart names) (hname : name ∈ names) :
    ∃ front back, names.mergeSort (fun a b ↦ b.length ≤ a.length) = front ++ name :: back ∧
      ∀ other ∈ front, other ∈ names ∧ other ≠ name ∧ name.length ≤ other.length := by
  have hperm := List.mergeSort_perm names fun a b ↦ decide (b.length ≤ a.length)
  have hsorted := pairwise_tried names
  have hnodup := hperm.nodup_iff.mpr (List.Nodup.of_map lowerString h.nodup)
  obtain ⟨front, back, hsplit⟩ := List.append_of_mem (hperm.mem_iff.mpr hname)
  rw [hsplit] at hsorted hnodup
  refine ⟨front, back, hsplit, fun other hother ↦ ⟨?_, ?_, ?_⟩⟩
  · rw [← hperm.mem_iff, hsplit]
    exact List.mem_append_left _ hother
  · rintro rfl
    exact (List.nodup_append.mp hnodup).2.2 other hother other List.mem_cons_self rfl
  · exact (List.pairwise_append.mp hsorted).2.2 other hother name List.mem_cons_self

/-- A text starts with the image of the name that it was written with. -/
theorem startsWithName_self (h : Apart names) (hname : name ∈ names) (rest : List Char) :
    startsWithName (normalize name.toList ++ rest) name = true :=
  (startsWithName_append_iff ((length_normalize _).trans String.length_toList)).mpr
    ⟨h.ne_empty hname, rfl⟩

/-- The name that a text was written with is found, if no other one that is at least as long
fits. -/
theorem matchName?_eq (h : Apart names) (hname : name ∈ names) {rest : List Char}
    (hother : ∀ other ∈ names, other ≠ name → name.length ≤ other.length →
      startsWithName (normalize name.toList ++ rest) other = false) :
    matchName? (normalize name.toList ++ rest) names = some name := by
  obtain ⟨front, back, hsplit, hfront⟩ := h.exists_longer hname
  rw [matchName?, hsplit, List.find?_eq_some_iff_append]
  refine ⟨h.startsWithName_self hname rest, front, back, rfl, fun other hmem ↦ ?_⟩
  obtain ⟨hmem, hne, hlength⟩ := hfront other hmem
  rw [hother other hmem hne hlength]
  rfl

end PersonaChat.Name.Apart

namespace PersonaChat.Command

open Text

/-! ### Names without full-width signs -/

/-- The names are told apart, and none holds a full-width sign. -/
structure Legible (names : List String) : Prop where
  /-- Acceptable, and pairwise different in lower case. -/
  apart : Name.Apart names
  /-- No character of a name counts as another one. -/
  plain : ∀ name ∈ names, ∀ c ∈ name.toList, c ∉ fullWidth.map Prod.fst

namespace Legible

variable {names : List String} {name other : String} {c : Char}

/-- A name that can be read is narrow already. -/
theorem normalize_eq (h : Legible names) (hname : name ∈ names) :
    normalize name.toList = name.toList :=
  normalize_of_notMem (h.plain name hname)

/-- A text starts with no longer name, and with no other one of the same length. -/
theorem startsWithName_other (h : Legible names) (hname : name ∈ names) (hother : other ∈ names)
    (hne : other ≠ name) (hlength : name.length ≤ other.length) (hc : Name.allows c = false)
    (rest : List Char) : startsWithName (name.toList ++ c :: rest) other = false := by
  have hdiffer : lower ((name.toList ++ c :: rest).take other.length) ≠ lower other.toList := by
    rcases Nat.eq_or_lt_of_le hlength with heq | hlt
    · rw [← heq, List.take_left' String.length_toList]
      exact fun hlower ↦ hne (h.apart.eq_of_lower hother hname hlower.symm)
    · -- The character after the name stands where the longer name has one of its own.
      have hmem : c ∈ (name.toList ++ c :: rest).take other.length :=
        mem_take_of_longer (by rwa [String.length_toList])
      exact Name.lower_ne_of_barred (h.apart.allows_of_mem hother) hmem hc
  simp [startsWithName, h.normalize_eq hother, hdiffer]

/-- The name before a barred character is found. -/
theorem matchName?_eq (h : Legible names) (hname : name ∈ names) (hc : Name.allows c = false)
    (rest : List Char) : matchName? (name.toList ++ c :: rest) names = some name := by
  have hmatch : matchName? (normalize name.toList ++ c :: rest) names = some name := by
    refine h.apart.matchName?_eq hname fun other hother hne hlength ↦ ?_
    rw [h.normalize_eq hname]
    exact h.startsWithName_other hname hother hne hlength hc rest
  rwa [h.normalize_eq hname] at hmatch

end Legible

end PersonaChat.Command
