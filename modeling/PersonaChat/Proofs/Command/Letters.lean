import PersonaChat.Persona.Name

/-!
# Letters and signs in lower case

Lower case makes no sign of the command language and no blank out of other characters, and it
leaves the signs and blanks of a text standing. So in lower case, too, a name holds none of them.
-/

namespace PersonaChat.Name

open Text

/-- The code points of the characters that no name holds: the signs, then the blanks. -/
def barred : List Nat :=
  reserved.map Char.toNat ++ (List.range' 9 5 ++ List.range' 28 5 ++ [0x85, 0xA0, 0x1680] ++
    List.range' 0x2000 11 ++ [0x2028, 0x2029, 0x202F, 0x205F, 0x3000])

private theorem allows_ofNat_of_mem_barred : ∀ n ∈ barred, allows (Char.ofNat n) = false := by
  decide +kernel

/-- A name holds a character exactly when it is not barred. -/
theorem allows_eq_false_iff {c : Char} : allows c = false ↔ c.toNat ∈ barred := by
  constructor
  · intro h
    simp only [allows, Bool.and_eq_false_iff, Bool.not_eq_false', List.contains_iff_mem] at h
    rcases h with hsign | hblank
    · exact List.mem_append_left _ (List.mem_map_of_mem hsign)
    · apply List.mem_append_right
      simp only [isBlank, Bool.or_eq_true, Bool.and_eq_true, decide_eq_true_eq,
        beq_iff_eq] at hblank
      simp only [List.mem_append, List.mem_range'_1, List.mem_cons, List.not_mem_nil, or_false]
      omega
  · intro h
    have hc := allows_ofNat_of_mem_barred _ h
    rwa [Char.ofNat_toNat] at hc

/-- Whether a code point lies neither in a stretch nor in its image. A negative shift is compared
on the other side, so that all numbers are natural. -/
def missedBy (n : Nat) (r : CaseRun) : Bool :=
  (n.blt r.first || r.last.blt n) &&
    ((n + (-r.shift).toNat).blt (r.first + r.shift.toNat) ||
      (r.last + r.shift.toNat).blt (n + (-r.shift).toNat))

private theorem barred_missed : (lowerRuns.all fun r ↦ barred.all (missedBy · r)) = true := by
  decide +kernel

/-- No stretch of the case table touches a barred character. -/
private theorem barred_apart {r : CaseRun} (hr : r ∈ lowerRuns) {n : Nat} (hn : n ∈ barred) :
    ¬ (r.first ≤ n ∧ n ≤ r.last) ∧
    ¬ (r.first + r.shift ≤ (n : Int) ∧ (n : Int) ≤ r.last + r.shift) := by
  have hmissed := List.all_eq_true.mp (List.all_eq_true.mp barred_missed r hr) n hn
  simp only [missedBy, Bool.and_eq_true, Bool.or_eq_true, Nat.blt_eq] at hmissed
  omega

private theorem barred_no_letter : ∀ n ∈ barred,
    ¬ (65 ≤ n ∧ n ≤ 90) ∧ ¬ (97 ≤ n ∧ n ≤ 122) ∧ 0 < n ∧ n ≠ 0x130 ∧ n ≠ 0x3A3 := by
  decide

/-- A barred character is its own lower case. -/
theorem lowerChar_of_barred {c : Char} (h : allows c = false) : lowerChar c = [c] := by
  have hn := allows_eq_false_iff.mp h
  obtain ⟨hupper, -, -, hdotted, -⟩ := barred_no_letter _ hn
  unfold lowerChar
  split
  · rw [lowerAscii, if_neg hupper]
  · have hnone : lowerRuns.findSome? (·.image? c.toNat) = none := by
      rw [List.findSome?_eq_none_iff]
      intro r hr
      rw [CaseRun.image?, if_neg]
      rintro ⟨hfirst, hlast, -⟩
      exact (barred_apart hr hn).1 ⟨hfirst, hlast⟩
    rw [hnone]

private theorem toNat_ofNat (n : Nat) : (Char.ofNat n).toNat = n ∨ (Char.ofNat n).toNat = 0 := by
  by_cases hn : n.isValidChar
  · left
    rw [Char.ofNat, dif_pos hn]
    rfl
  · right
    rw [Char.ofNat, dif_neg hn]
    rfl

/-- A character is admitted when its code point, if it has one, is not barred. -/
private theorem allows_ofNat {n : Nat} (h : n ∉ barred) : allows (Char.ofNat n) = true := by
  rw [← Bool.not_eq_false, allows_eq_false_iff]
  rcases toNat_ofNat n with heq | heq
  · rwa [heq]
  · rw [heq]
    decide

/-- The lower case of a character that a name may hold is made of such characters. -/
theorem allows_of_mem_lowerChar {c d : Char} (h : allows c = true) (hd : d ∈ lowerChar c) :
    allows d = true := by
  unfold lowerChar at hd
  split at hd
  · rw [List.mem_singleton.mp hd, lowerAscii]
    split
    · apply allows_ofNat
      intro hmem
      have := (barred_no_letter _ hmem).2.1
      omega
    · exact h
  · split at hd
    · have hall : ['i', Char.ofNat 0x307].all allows = true := by decide
      exact List.all_eq_true.mp hall d hd
    · split at hd
      · next n hn =>
        rw [List.mem_singleton.mp hd]
        obtain ⟨r, hr, himage⟩ := List.exists_of_findSome?_eq_some hn
        unfold CaseRun.image? at himage
        split at himage
        · next hrun =>
          cases himage
          apply allows_ofNat
          intro hmem
          have hpositive := (barred_no_letter _ hmem).2.2.1
          apply (barred_apart hr hmem).2
          omega
        · cases himage
      · rw [List.mem_singleton.mp hd]
        exact h

/-- A barred character in the lower case of a text stands in the text. -/
theorem mem_of_mem_lowerFrom {cs before : List Char} {d : Char} (hd : d ∈ lowerFrom before cs)
    (h : allows d = false) : d ∈ cs := by
  induction cs generalizing before with
  | nil => cases hd
  | cons c cs ih =>
    rw [lowerFrom] at hd
    rcases List.mem_append.mp hd with hd | hd
    · have hc : allows c = false := by
        rw [← Bool.not_eq_true]
        intro hc
        split at hd
        · -- Either form of the small sigma.
          rw [List.mem_singleton.mp hd] at h
          split at h <;> cases h
        · rw [allows_of_mem_lowerChar hc hd] at h
          cases h
      have hsigma := (barred_no_letter _ (allows_eq_false_iff.mp hc)).2.2.2.2
      rw [if_neg hsigma, lowerChar_of_barred hc] at hd
      rw [List.mem_singleton.mp hd]
      exact List.mem_cons_self
    · exact List.mem_cons_of_mem c (ih hd)

/-- The lower case of characters that a name may hold is made of such characters. -/
theorem allows_of_mem_lowerFrom {cs : List Char} (h : ∀ c ∈ cs, allows c = true)
    (before : List Char) {d : Char} (hd : d ∈ lowerFrom before cs) : allows d = true := by
  rw [← Bool.not_eq_false]
  intro hbarred
  rw [h d (mem_of_mem_lowerFrom hd hbarred)] at hbarred
  cases hbarred

/-- A barred character stays in the lower case of a text. -/
theorem mem_lowerFrom_of_barred {cs : List Char} {c : Char} (hc : c ∈ cs) (h : allows c = false)
    (before : List Char) : c ∈ lowerFrom before cs := by
  induction cs generalizing before with
  | nil => cases hc
  | cons d cs ih =>
    rw [lowerFrom, List.mem_append]
    rcases List.mem_cons.mp hc with rfl | hc
    · left
      have hsigma := (barred_no_letter _ (allows_eq_false_iff.mp h)).2.2.2.2
      rw [if_neg hsigma, lowerChar_of_barred h]
      exact List.mem_singleton_self c
    · exact .inr (ih hc _)

/-- A text of characters that a name may hold and one with a barred character have different lower
cases. -/
theorem lower_ne_of_barred {cs ds : List Char} (h : ∀ c ∈ cs, allows c = true) {d : Char}
    (hd : d ∈ ds) (hbarred : allows d = false) : lower ds ≠ lower cs := by
  intro heq
  have hmem : d ∈ lower ds := mem_lowerFrom_of_barred hd hbarred []
  rw [heq] at hmem
  rw [allows_of_mem_lowerFrom h [] hmem] at hbarred
  cases hbarred

private theorem lowerChar_ne_nil (c : Char) : lowerChar c ≠ [] := by
  unfold lowerChar
  split
  · exact List.cons_ne_nil _ _
  · split
    · exact List.cons_ne_nil _ _
    · split <;> exact List.cons_ne_nil _ _

/-- A text with the lower case of one that starts with a barred character starts with it, too. -/
theorem exists_cons_of_lower_eq {cs ds : List Char} {d : Char} (hd : allows d = false)
    (h : lower cs = lower (d :: ds)) : ∃ r, cs = d :: r := by
  have hstart : lower (d :: ds) = d :: lowerFrom [d] ds := by
    have hsigma := (barred_no_letter _ (allows_eq_false_iff.mp hd)).2.2.2.2
    rw [lower, lowerFrom, if_neg hsigma, lowerChar_of_barred hd]
    rfl
  rw [hstart] at h
  cases cs with
  | nil => cases h
  | cons c cs =>
    suffices hc : c = d from ⟨cs, by rw [hc]⟩
    rw [lower, lowerFrom] at h
    split at h
    · -- Either form of the small sigma.
      rw [← (List.cons.inj h).1] at hd
      split at hd <;> cases hd
    · obtain ⟨e, front, hfront⟩ := List.exists_cons_of_ne_nil (lowerChar_ne_nil c)
      have hmem : e ∈ lowerChar c := by
        rw [hfront]
        exact List.mem_cons_self
      rw [hfront] at h
      obtain rfl := (List.cons.inj h).1
      cases hc : allows c with
      | true =>
        rw [allows_of_mem_lowerChar hc hmem] at hd
        cases hd
      | false =>
        rw [lowerChar_of_barred hc] at hmem
        exact (List.mem_singleton.mp hmem).symm

end PersonaChat.Name
