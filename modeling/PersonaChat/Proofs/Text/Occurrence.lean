import PersonaChat.Text.Scan

/-!
# Occurrences with their places

A scan finds occurrences from left to right, and goes on behind each of them. The place of an
occurrence is told by what is left of the text from its start on. What is found in a text at all is
found no later than where it can first be recognised.
-/

namespace PersonaChat.Text

universe u

variable {α : Type u} {recognise : List Char → Option (α × Nat)} {c : Char} {cs rest : List Char}
  {value : α} {width : Nat}

/-- Induction over a text from its end, for what holds of a text if it holds of all that may be
left of it behind its first character. -/
@[elab_as_elim]
theorem left_induction {motive : List Char → Prop} (nil : motive [])
    (cons : ∀ c rest, (∀ k, motive (rest.drop k)) → motive (c :: rest)) (cs : List Char) :
    motive cs := by
  have hall (n : Nat) : ∀ cs : List Char, cs.length ≤ n → motive cs := by
    induction n with
    | zero =>
      intro cs hcs
      rw [List.eq_nil_of_length_eq_zero (Nat.le_zero.mp hcs)]
      exact nil
    | succ n ih =>
      intro cs hcs
      cases cs with
      | nil => exact nil
      | cons c rest =>
        refine cons c rest fun k ↦ ih _ ?_
        rw [List.length_cons] at hcs
        rw [List.length_drop]
        omega
  exact hall cs.length cs (Nat.le_refl _)

/-! ### Hits -/

/-- A scan that passes over characters starts behind them. -/
theorem scanFrom_eq (k : Nat) (cs : List Char) :
    scanFrom recognise k cs = scan recognise (cs.drop k) := by
  induction cs generalizing k with
  | nil => simp [scan, scanFrom]
  | cons c rest ih =>
    cases k with
    | zero => rfl
    | succ k => exact ih k

/-- What is recognised at the start is found first, and the scan goes on behind it. -/
theorem hits_of_some (h : recognise (c :: rest) = some (value, width)) :
    hits recognise (c :: rest) = value :: hits recognise (rest.drop (width - 1)) := by
  rw [hits, scan, scanFrom, h]
  dsimp only
  rw [scanFrom_eq]
  rfl

/-- Where nothing is recognised the scan goes on with the next character. -/
theorem hits_of_none (h : recognise (c :: rest) = none) :
    hits recognise (c :: rest) = hits recognise rest := by
  rw [hits, scan, scanFrom, h]
  rfl

/-! ### Places -/

/-- A recogniser that also tells where it recognises something. -/
def located (recognise : List Char → Option (α × Nat)) (cs : List Char) :
    Option ((List Char × α) × Nat) :=
  (recognise cs).map fun (value, width) ↦ ((cs, value), width)

/-- The occurrences of a text in order, each with what is left of the text from its start on. -/
def occurrences (recognise : List Char → Option (α × Nat)) (cs : List Char) :
    List (List Char × α) :=
  hits (located recognise) cs

/-- Nothing occurs in the empty text. -/
theorem occurrences_nil : occurrences recognise [] = [] := rfl

/-- What is recognised occurs, and the search goes on behind it. -/
theorem occurrences_of_some (h : recognise (c :: rest) = some (value, width)) :
    occurrences recognise (c :: rest) =
      (c :: rest, value) :: occurrences recognise (rest.drop (width - 1)) := by
  have hlocated : located recognise (c :: rest) = some ((c :: rest, value), width) := by
    rw [located, h]
    rfl
  exact hits_of_some hlocated

/-- Where nothing is recognised the search goes on with the next character. -/
theorem occurrences_of_none (h : recognise (c :: rest) = none) :
    occurrences recognise (c :: rest) = occurrences recognise rest := by
  have hlocated : located recognise (c :: rest) = none := by
    rw [located, h]
    rfl
  exact hits_of_none hlocated

/-- Without their places the occurrences are what the scan finds. -/
theorem map_snd_occurrences (cs : List Char) :
    (occurrences recognise cs).map Prod.snd = hits recognise cs := by
  induction cs using left_induction with
  | nil => rfl
  | cons c rest ih =>
    cases h : recognise (c :: rest) with
    | none =>
      rw [occurrences_of_none h, hits_of_none h]
      exact ih 0
    | some found => rw [occurrences_of_some h, hits_of_some h, List.map_cons, ih]

/-- An occurrence is found in the text or in what is left of it. -/
theorem length_le_of_mem_occurrences {o : List Char × α} (h : o ∈ occurrences recognise cs) :
    o.1.length ≤ cs.length := by
  induction cs using left_induction with
  | nil => cases h
  | cons c rest ih =>
    cases hc : recognise (c :: rest) with
    | none =>
      rw [occurrences_of_none hc] at h
      exact Nat.le_succ_of_le (ih 0 h)
    | some found =>
      rw [occurrences_of_some hc, List.mem_cons] at h
      rcases h with rfl | h
      · exact Nat.le_refl _
      · have hlater := ih (found.2 - 1) h
        rw [List.length_drop] at hlater
        rw [List.length_cons]
        omega

/-- Characters where nothing is recognised are passed over. -/
theorem occurrences_drop {n : Nat} (h : ∀ k < n, recognise (cs.drop k) = none) :
    occurrences recognise cs = occurrences recognise (cs.drop n) := by
  induction n generalizing cs with
  | zero => rfl
  | succ n ih =>
    cases cs with
    | nil => rfl
    | cons c rest =>
      rw [occurrences_of_none (h 0 (Nat.succ_pos n))]
      exact ih fun k hk ↦ h (k + 1) (Nat.succ_lt_succ hk)

/-- Where something can be recognised, something is found there or before. -/
theorem exists_mem_occurrences {k : Nat} (hk : k < cs.length)
    (h : (recognise (cs.drop k)).isSome = true) :
    ∃ o ∈ occurrences recognise cs, cs.length ≤ o.1.length + k := by
  induction k generalizing cs with
  | zero =>
    cases cs with
    | nil => cases hk
    | cons c rest =>
      obtain ⟨found, hfound⟩ := Option.isSome_iff_exists.mp h
      rw [occurrences_of_some hfound]
      exact ⟨_, List.mem_cons_self, Nat.le_refl _⟩
  | succ k ih =>
    cases cs with
    | nil => cases hk
    | cons c rest =>
      cases hc : recognise (c :: rest) with
      | some found =>
        rw [occurrences_of_some hc]
        exact ⟨_, List.mem_cons_self, Nat.le_add_right _ _⟩
      | none =>
        obtain ⟨o, ho, hlength⟩ := ih (Nat.lt_of_succ_lt_succ hk) h
        rw [occurrences_of_none hc]
        exact ⟨o, ho, Nat.succ_le_succ hlength⟩

end PersonaChat.Text
