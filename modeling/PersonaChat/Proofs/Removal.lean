import Mathlib.Data.List.Sort
import PersonaChat.Persona.Basic

/-!
# Removing positions of a history

Positions are removed one after the other, and every removal moves what stands behind it. Since the
last position goes first, none moves before it is removed: all positions mean what they meant in
the history as it was.

Spec guidance: `SPEC_FULL.md`, lines 108–109.
-/

namespace PersonaChat

universe u

variable {τ : Type u}

namespace History

/-! ### Positions that are there -/

/-- The named positions that are there. -/
theorem mem_present_iff {h : History τ} {wanted : List Int} {k : Nat} :
    k ∈ h.present wanted ↔ (k : Int) ∈ wanted ∧ 1 ≤ k ∧ k ≤ h.length := by
  rw [present, List.mem_filter, List.contains_iff_mem, and_comm, List.mem_map]
  refine and_congr_right fun _ ↦ ⟨?_, fun hk ↦ ⟨k - 1, List.mem_range.mpr (by omega), by omega⟩⟩
  rintro ⟨i, hi, rfl⟩
  have := List.mem_range.mp hi
  omega

/-- They are listed in order, each once. -/
theorem pairwise_present (h : History τ) (wanted : List Int) :
    (h.present wanted).Pairwise (· < ·) := by
  refine List.Pairwise.filter _ (List.pairwise_map.mpr ?_)
  exact List.pairwise_lt_range.imp fun hlt ↦ Nat.succ_lt_succ hlt

/-! ### What is left -/

/-- The messages whose numbers are not named, when the first one has the number `first`. -/
private def keep (h : History τ) (first : Nat) (wanted : List Int) : History τ :=
  ((h.zipIdx first).filter fun entry ↦ !wanted.contains (entry.2 : Int)).map Prod.fst

private theorem keep_cons (m : Message τ) (h : History τ) (first : Nat) (wanted : List Int) :
    keep (m :: h) first wanted =
      if wanted.contains (first : Int) then keep h (first + 1) wanted
      else m :: keep h (first + 1) wanted := by
  rw [keep, List.zipIdx_cons, List.filter_cons]
  cases wanted.contains (first : Int) <;> rfl

private theorem keep_append (h h' : History τ) (first : Nat) (wanted : List Int) :
    keep (h ++ h') first wanted = keep h first wanted ++ keep h' (first + h.length) wanted := by
  simp only [keep, List.zipIdx_append, List.filter_append, List.map_append]

/-- Only the names that are numbers of messages matter. -/
private theorem keep_congr (h : History τ) {first : Nat} {wanted other : List Int}
    (hsame : ∀ k : Nat, first ≤ k → k < first + h.length →
      ((k : Int) ∈ wanted ↔ (k : Int) ∈ other)) :
    keep h first wanted = keep h first other := by
  unfold keep
  congr 1
  refine List.filter_congr fun entry he ↦ ?_
  obtain ⟨m, k⟩ := entry
  have hk := List.mem_zipIdx he
  have hiff := hsame k hk.1 hk.2.1
  rw [Bool.eq_iff_iff, Bool.not_eq_true', Bool.not_eq_true', ← Bool.not_eq_true,
    ← Bool.not_eq_true,
    List.contains_iff_mem, List.contains_iff_mem, hiff]

/-- Where no message is named all stay. -/
private theorem keep_of_not_named (h : History τ) {first : Nat} {wanted : List Int}
    (hnone : ∀ k : Nat, first ≤ k → (k : Int) ∉ wanted) : keep h first wanted = h := by
  have hnil : keep h first wanted = keep h first [] :=
    keep_congr h fun k hk _ ↦ iff_of_false (hnone k hk) List.not_mem_nil
  rw [hnil]
  simp [keep]

/-- What is left depends only on the positions that are there. -/
theorem without_congr (h : History τ) {wanted other : List Int}
    (hsame : ∀ k : Nat, 1 ≤ k → k ≤ h.length → ((k : Int) ∈ wanted ↔ (k : Int) ∈ other)) :
    h.without wanted = h.without other :=
  keep_congr h fun k hk hlt ↦ hsame k hk (by omega)

/-- Where none of the named positions is there nothing is taken out. -/
theorem without_of_present_eq_nil {h : History τ} {wanted : List Int}
    (hnone : h.present wanted = []) :
    h.without wanted = h := by
  have hnil : h.without wanted = h.without [] := by
    refine without_congr h fun k hk hle ↦ iff_of_false (fun hwanted ↦ ?_) List.not_mem_nil
    have hmem := mem_present_iff.mpr ⟨hwanted, hk, hle⟩
    rw [hnone] at hmem
    cases hmem
  rw [hnil]
  simp [without]

/-- Where the messages behind some are not named they all stay. -/
private theorem without_append_of_le {front back : History τ} {wanted : List Int}
    (hfront : ∀ k ∈ wanted, k ≤ (front.length : Int)) :
    History.without (front ++ back) wanted = front.without wanted ++ back := by
  refine (keep_append front back 1 wanted).trans (congrArg _ ?_)
  refine keep_of_not_named back fun k hk hmem ↦ ?_
  have := hfront k hmem
  omega

/-- The last named message goes, and those behind it stay. -/
private theorem without_append_cons_of_le {front back : History τ} {m : Message τ}
    {wanted : List Int} (hfront : ∀ k ∈ wanted, k ≤ (front.length : Int)) :
    History.without (front ++ m :: back) (((front.length + 1 : Nat) : Int) :: wanted) =
      front.without wanted ++ back := by
  have hfirst :
      keep front 1 (((front.length + 1 : Nat) : Int) :: wanted) = keep front 1 wanted := by
    refine keep_congr front fun k _ hk ↦ ?_
    rw [List.mem_cons, or_iff_right]
    omega
  have hlast : keep [m] (1 + front.length) (((front.length + 1 : Nat) : Int) :: wanted) = [] := by
    simp [keep, Nat.add_comm]
  have hbehind : keep back (1 + front.length + 1) (((front.length + 1 : Nat) : Int) :: wanted) =
      back := by
    refine keep_of_not_named back fun k hk hmem ↦ ?_
    rcases List.mem_cons.mp hmem with hmem | hmem
    · omega
    · have := hfront k hmem
      omega
  calc keep (front ++ ([m] ++ back)) 1 (((front.length + 1 : Nat) : Int) :: wanted)
      = keep front 1 wanted ++ ([] ++ back) := by
        rw [keep_append, keep_append, hfirst, hlast, List.length_singleton, hbehind]
    _ = front.without wanted ++ back := rfl

/-- The last named position may be removed ahead of the others: it moves none of them. -/
theorem without_cons_of_lt {h : History τ} {position : Int} {rest : List Int} (hpos : 0 < position)
    (hle : position ≤ h.length) (hrest : ∀ k ∈ rest, k < position) :
    h.without (position :: rest) =
      History.without (h.eraseIdx (position.toNat - 1)) rest := by
  obtain ⟨i, rfl⟩ : ∃ i : Nat, position = ((i + 1 : Nat) : Int) := ⟨position.toNat - 1, by omega⟩
  have hi : i < h.length := by omega
  have hsplit : h = h.take i ++ h[i] :: h.drop (i + 1) := by simp
  have hlength : (h.take i).length = i := List.length_take_of_le (by omega)
  have hfront : ∀ k ∈ rest, k ≤ ((h.take i).length : Int) := fun k hk ↦ by
    have := hrest k hk
    omega
  calc h.without (((i + 1 : Nat) : Int) :: rest)
      = History.without (h.take i) rest ++ h.drop (i + 1) := by
        rw [← without_append_cons_of_le (m := h[i]) hfront, hlength, ← hsplit]
    _ = History.without (h.eraseIdx i) rest := by
        rw [List.eraseIdx_eq_take_drop_succ, without_append_of_le hfront]

/-! ### One removal after the other -/

/-- From the last position to the first: what is left is the history without these positions, and
those that were there are removed in this order. -/
theorem removeEach_of_descending {positions : List Int} (h : History τ)
    (hdesc : positions.Pairwise (· > ·)) :
    (h.removeEach positions).1 = h.without positions ∧
      (h.removeEach positions).2.Pairwise (· > ·) ∧
      ∀ k, k ∈ (h.removeEach positions).2 ↔ (k : Int) ∈ positions ∧ 1 ≤ k ∧ k ≤ h.length := by
  induction positions generalizing h with
  | nil => exact ⟨by simp [removeEach, without], .nil, by simp [removeEach]⟩
  | cons position rest ih =>
    obtain ⟨hbelow, hdesc⟩ := List.pairwise_cons.mp hdesc
    rw [removeEach]
    split
    · next hin =>
      obtain ⟨hpos, hle⟩ := hin
      obtain ⟨hleft, hremoved, hmem⟩ := ih (h.eraseIdx (position.toNat - 1)) hdesc
      have hlength : (h.eraseIdx (position.toNat - 1)).length = h.length - 1 :=
        List.length_eraseIdx_of_lt (by omega)
      refine ⟨?_, List.pairwise_cons.mpr ⟨fun k hk ↦ ?_, hremoved⟩, fun k ↦ ?_⟩
      · rw [without_cons_of_lt hpos hle hbelow]
        exact hleft
      · have := hbelow k ((hmem k).mp hk).1
        omega
      · rw [List.mem_cons, List.mem_cons, hmem, hlength]
        constructor
        · rintro (rfl | ⟨hk, h1, hlast⟩)
          · exact ⟨.inl (by omega), by omega, by omega⟩
          · exact ⟨.inr hk, h1, by omega⟩
        · rintro ⟨hk | hk, h1, hlast⟩
          · exact .inl (by omega)
          · have := hbelow k hk
            exact .inr ⟨hk, h1, by omega⟩
    · next hout =>
      obtain ⟨hleft, hremoved, hmem⟩ := ih h hdesc
      have hnot (k : Nat) (h1 : 1 ≤ k) (hk : k ≤ h.length) : (k : Int) ≠ position := by omega
      refine ⟨hleft.trans (without_congr h fun k h1 hk ↦ ?_), hremoved, fun k ↦ ?_⟩
      · rw [List.mem_cons, or_iff_right (hnot k h1 hk)]
      · rw [hmem, List.mem_cons, or_and_right]
        exact (or_iff_right fun hk ↦ hnot k hk.2.1 hk.2.2 hk.1).symm

/-- A position that is entered comes to its place. -/
private theorem enter_spec (position : Int) {positions : List Int}
    (h : positions.Pairwise (· > ·)) :
    (enter position positions).Pairwise (· > ·) ∧
      ∀ k, k ∈ enter position positions ↔ k = position ∨ k ∈ positions := by
  induction positions with
  | nil => exact ⟨List.pairwise_singleton _ _, fun k ↦ by simp [enter]⟩
  | cons first rest ih =>
    obtain ⟨hbelow, hrest⟩ := List.pairwise_cons.mp h
    obtain ⟨hdesc, hmem⟩ := ih hrest
    rw [enter]
    split
    · next hlt =>
      refine ⟨List.pairwise_cons.mpr ⟨fun k hk ↦ ?_, h⟩, fun k ↦ List.mem_cons⟩
      rcases List.mem_cons.mp hk with rfl | hk
      · exact hlt
      · exact lt_trans (hbelow k hk) hlt
    · next hge =>
      split
      · next heq =>
        refine ⟨h, fun k ↦ (or_iff_right_of_imp fun hk ↦ ?_).symm⟩
        rw [hk, ← heq]
        exact List.mem_cons_self
      · next hne =>
        refine ⟨List.pairwise_cons.mpr ⟨fun k hk ↦ ?_, hdesc⟩, fun k ↦ ?_⟩
        · rcases (hmem k).mp hk with rfl | hk
          · omega
          · exact hbelow k hk
        · rw [List.mem_cons, List.mem_cons, hmem, or_left_comm]

private theorem lastFirst_spec (wanted : List Int) :
    (lastFirst wanted).Pairwise (· > ·) ∧ ∀ k, k ∈ lastFirst wanted ↔ k ∈ wanted := by
  induction wanted with
  | nil => exact ⟨.nil, fun _ ↦ Iff.rfl⟩
  | cons position wanted ih =>
    obtain ⟨hdesc, hmem⟩ := enter_spec position ih.1
    exact ⟨hdesc, fun k ↦ (hmem k).trans ((or_congr_right (ih.2 k)).trans List.mem_cons.symm)⟩

/-- Removing positions leaves the history without them, whatever their order and however often they
are named, and says which of them were there. -/
theorem remove_eq (h : History τ) (wanted : List Int) :
    h.remove wanted = (h.without wanted, h.present wanted) := by
  obtain ⟨hdesc, hmem⟩ := lastFirst_spec wanted
  obtain ⟨hleft, hremoved, hin⟩ := removeEach_of_descending h hdesc
  refine Prod.ext (hleft.trans (without_congr h fun k _ _ ↦ hmem k)) ?_
  refine (List.pairwise_reverse.mpr hremoved).eq_of_mem_iff (pairwise_present h wanted) fun k ↦ ?_
  rw [List.mem_reverse, hin, hmem, mem_present_iff]

/-! ### The messages that stay -/

/-- The messages left are those at the positions that are not named, in their order. -/
theorem map_some_without (h : History τ) (wanted : List Int) :
    (h.without wanted).map some =
      ((List.range' 1 h.length).filter fun k : Nat ↦ !wanted.contains (k : Int)).map fun k : Nat ↦
        h[k - 1]? := by
  suffices hkeep : ∀ first, (keep h first wanted).map some =
      ((List.range' first h.length).filter fun k : Nat ↦ !wanted.contains (k : Int)).map
        fun k : Nat ↦ h[k - first]? from hkeep 1
  intro first
  induction h generalizing first with
  | nil => rfl
  | cons m h ih =>
    -- The messages behind the first are numbered from `first + 1`.
    have hbehind : ∀ k ∈ (List.range' (first + 1) h.length).filter fun k : Nat ↦
        !wanted.contains (k : Int), (m :: h)[k - first]? = h[k - (first + 1)]? := by
      intro k hk
      have hge := List.mem_range'_1.mp (List.mem_of_mem_filter hk)
      rw [show k - first = k - (first + 1) + 1 by omega, List.getElem?_cons_succ]
    rw [keep_cons, List.length_cons, List.range'_succ, List.filter_cons]
    by_cases hfirst : wanted.contains (first : Int)
    · rw [if_pos hfirst, hfirst, ih, if_neg (by simp), List.map_congr_left hbehind]
    · rw [Bool.not_eq_true] at hfirst
      rw [hfirst, if_neg (by simp), if_pos (by simp), List.map_cons, List.map_cons, ih,
        List.map_congr_left hbehind, Nat.sub_self, List.getElem?_cons_zero]

end History

namespace Persona

/-- Deleting positions of a history takes them out of it, and says which were there. -/
theorem deleteAt_eq (p : Persona τ) (scope : Scope) (user : String) (wanted : List Int) :
    p.deleteAt scope user wanted =
      (p.setHistory scope user ((p.history scope user).without wanted),
        (p.history scope user).present wanted) := by
  rw [deleteAt, History.remove_eq]

end Persona
end PersonaChat
