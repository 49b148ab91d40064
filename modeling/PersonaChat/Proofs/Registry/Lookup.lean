import PersonaChat.Registry.Basic

/-!
# What a name designates

A name designates the first persona whose name differs from it by case at most, and the search
stops with a failure at a name before it that is no text. `Designates` says so without the search.
From it follows which changes of a registry leave a name its persona: personas that come later in
the list may come and go and be renamed, and personas before it may be taken away.
-/

namespace PersonaChat

open Text

namespace Name

/-- A value is a text that differs from a name by case at most. -/
def Matches (name : String) (value : Json) : Prop :=
  ∃ s, value = .str s ∧ lowerString s = lowerString name

/-- A value is a text that differs from a name by more than case. -/
def Misses (name : String) (value : Json) : Prop :=
  ∃ s, value = .str s ∧ lowerString s ≠ lowerString name

private theorem not_matches_of_misses {name : String} {value : Json} (h : Misses name value) :
    ¬ Matches name value := by
  obtain ⟨s, rfl, hs⟩ := h
  rintro ⟨t, ht, hl⟩
  cases ht
  exact hs hl

/-- Only the lower case of a name matters. -/
theorem matches_congr {a b : String} (h : lowerString a = lowerString b) (value : Json) :
    Matches a value ↔ Matches b value := by
  simp [Matches, h]

/-- Only the lower case of a name matters. -/
theorem misses_congr {a b : String} (h : lowerString a = lowerString b) (value : Json) :
    Misses a value ↔ Misses b value := by
  simp [Misses, h]

private theorem position?_cons_of_matches {name : String} {x : Json} (h : Matches name x)
    (xs : List Json) : position? name (x :: xs) = .ok (some 0) := by
  obtain ⟨s, rfl, hs⟩ := h
  simp [position?, Json.forOperation, bind, Except.bind, sameIgnoringCase, hs, pure, Except.pure]

private theorem position?_cons_of_misses {name : String} {x : Json} (h : Misses name x)
    (xs : List Json) : position? name (x :: xs) = (position? name xs).map (·.map (· + 1)) := by
  obtain ⟨s, rfl, hs⟩ := h
  cases hp : position? name xs <;>
    simp [position?, Json.forOperation, bind, Except.bind, sameIgnoringCase, hs, hp, pure,
      Except.pure, Except.map]

private theorem position?_cons_of_not_text (name : String) {x : Json} (h : ∀ s, x ≠ .str s)
    (xs : List Json) : ∃ crash, position? name (x :: xs) = .error crash := by
  cases x with
  | str s => exact absurd rfl (h s)
  | _ => exact ⟨_, rfl⟩

private theorem matches_or_misses_or_not_text (name : String) (x : Json) :
    Matches name x ∨ Misses name x ∨ ∀ s, x ≠ .str s := by
  cases x with
  | str s =>
    by_cases hs : lowerString s = lowerString name
    · exact .inl ⟨s, rfl, hs⟩
    · exact .inr (.inl ⟨s, rfl, hs⟩)
  | _ => exact .inr (.inr fun s h ↦ by cases h)

private theorem map_succ_eq_some_iff (found : Except Crash (Option Nat)) (k : Nat) :
    found.map (·.map (· + 1)) = .ok (some k) ↔ ∃ j, k = j + 1 ∧ found = .ok (some j) := by
  cases found with
  | error crash => simp [Except.map]
  | ok found => cases found <;> simp [Except.map, eq_comm]

private theorem map_succ_eq_none_iff (found : Except Crash (Option Nat)) :
    found.map (·.map (· + 1)) = .ok none ↔ found = .ok none := by
  cases found with
  | error crash => simp [Except.map]
  | ok found => cases found <;> simp [Except.map]

/-- The position found is the first that matches, and all before it miss. -/
theorem position?_eq_some_iff (name : String) (xs : List Json) (k : Nat) :
    position? name xs = .ok (some k) ↔
      (∃ x, xs[k]? = some x ∧ Matches name x) ∧ ∀ j < k, ∃ x, xs[j]? = some x ∧ Misses name x := by
  induction xs generalizing k with
  | nil => simp [position?]
  | cons x xs ih =>
    rcases matches_or_misses_or_not_text name x with hx | hx | hx
    · rw [position?_cons_of_matches hx]
      constructor
      · intro h
        cases h
        exact ⟨⟨x, rfl, hx⟩, by simp⟩
      · rintro ⟨-, hbefore⟩
        cases k with
        | zero => rfl
        | succ k =>
          obtain ⟨y, hy, hm⟩ := hbefore 0 (by omega)
          cases hy
          exact absurd hx (not_matches_of_misses hm)
    · rw [position?_cons_of_misses hx, map_succ_eq_some_iff]
      constructor
      · rintro ⟨k, rfl, h⟩
        obtain ⟨hk, hbefore⟩ := (ih k).mp h
        refine ⟨hk, fun j hj ↦ ?_⟩
        cases j with
        | zero => exact ⟨x, rfl, hx⟩
        | succ j => exact hbefore j (by omega)
      · rintro ⟨⟨y, hy, hm⟩, hbefore⟩
        cases k with
        | zero =>
          cases hy
          exact absurd hm (not_matches_of_misses hx)
        | succ k =>
          exact ⟨k, rfl, (ih k).mpr ⟨⟨y, hy, hm⟩, fun j hj ↦ hbefore (j + 1) (by omega)⟩⟩
    · obtain ⟨crash, hc⟩ := position?_cons_of_not_text name hx xs
      rw [hc]
      constructor
      · intro h
        cases h
      · rintro ⟨⟨y, hy, s, hs, -⟩, hbefore⟩
        cases k with
        | zero =>
          cases hy
          exact absurd hs (hx s)
        | succ k =>
          obtain ⟨y, hy, s, hs, -⟩ := hbefore 0 (by omega)
          cases hy
          exact absurd hs (hx s)

/-- Nothing is found exactly when all present names are texts that miss. -/
theorem position?_eq_none_iff (name : String) (xs : List Json) :
    position? name xs = .ok none ↔ ∀ x ∈ xs, Misses name x := by
  induction xs with
  | nil => simp [position?]
  | cons x xs ih =>
    rw [List.forall_mem_cons]
    rcases matches_or_misses_or_not_text name x with hx | hx | hx
    · rw [position?_cons_of_matches hx]
      exact ⟨nofun, fun h ↦ absurd hx (not_matches_of_misses h.1)⟩
    · rw [position?_cons_of_misses hx, map_succ_eq_none_iff, ih]
      exact ⟨fun h ↦ ⟨hx, h⟩, And.right⟩
    · obtain ⟨crash, hc⟩ := position?_cons_of_not_text name hx xs
      rw [hc]
      exact ⟨nofun, fun ⟨⟨s, hs, _⟩, _⟩ ↦ absurd hs (hx s)⟩

/-- The search cannot fail among texts. -/
theorem position?_isOk_of_texts (name : String) {xs : List Json} (h : ∀ x ∈ xs, ∃ s, x = .str s) :
    ∃ found, position? name xs = .ok found := by
  induction xs with
  | nil => exact ⟨none, rfl⟩
  | cons x xs ih =>
    obtain ⟨⟨s, hs⟩, h⟩ := List.forall_mem_cons.mp h
    obtain ⟨found, hf⟩ := ih h
    rcases matches_or_misses_or_not_text name x with hx | hx | hx
    · exact ⟨_, position?_cons_of_matches hx xs⟩
    · exact ⟨_, by rw [position?_cons_of_misses hx, hf]; rfl⟩
    · exact absurd hs (hx s)

end Name

namespace Registry

variable {r : Registry Json} {name : String} {k : Nat} {p : Persona Json}

/-- A name designates the persona at a position: its name matches and all names before it miss. -/
structure Designates (r : Registry Json) (name : String) (k : Nat) (p : Persona Json) : Prop where
  /-- The persona stands at the position. -/
  stands : r.agents[k]? = some p
  /-- Its name matches. -/
  named : Name.Matches name p.name
  /-- The names before it miss. -/
  first : ∀ j q, j < k → r.agents[j]? = some q → Name.Misses name q.name

/-- A position is found exactly when it is the one that is designated. -/
theorem index?_eq_some_iff (r : Registry Json) (name : String) (k : Nat) :
    r.index? name = .ok (some k) ↔ ∃ p, r.Designates name k p := by
  rw [index?, Name.position?_eq_some_iff]
  simp only [names, List.getElem?_map, Option.map_eq_some_iff]
  constructor
  · rintro ⟨⟨_, ⟨p, hp, rfl⟩, hm⟩, hbefore⟩
    refine ⟨p, hp, hm, fun j q hj hq ↦ ?_⟩
    obtain ⟨_, ⟨q', hq', rfl⟩, hmiss⟩ := hbefore j hj
    rw [hq] at hq'
    cases hq'
    exact hmiss
  · rintro ⟨p, hp, hm, hfirst⟩
    refine ⟨⟨_, ⟨p, hp, rfl⟩, hm⟩, fun j hj ↦ ?_⟩
    have hlen : k < r.agents.length := (List.getElem?_eq_some_iff.mp hp).1
    have hq : r.agents[j]? = some r.agents[j] := List.getElem?_eq_getElem (by omega)
    exact ⟨_, ⟨_, hq, rfl⟩, hfirst j _ hj hq⟩

/-- A position that is found holds a persona. -/
theorem designates_of_index? (h : r.index? name = .ok (some k)) (hp : r.agents[k]? = some p) :
    r.Designates name k p := by
  obtain ⟨q, hq⟩ := (r.index?_eq_some_iff name k).mp h
  have := hq.stands
  rw [hp] at this
  cases this
  exact hq

/-- A persona is found exactly when it is designated. -/
theorem find?_eq_some_iff (r : Registry Json) (name : String) (p : Persona Json) :
    r.find? name = .ok (some p) ↔ ∃ k, r.Designates name k p := by
  constructor
  · intro h
    cases hi : r.index? name with
    | error crash => simp [find?, hi, Except.map] at h
    | ok found =>
      cases found with
      | none => simp [find?, hi, Except.map] at h
      | some k => exact ⟨k, designates_of_index? hi (by simpa [find?, hi, Except.map] using h)⟩
  · rintro ⟨k, hd⟩
    have hi := (r.index?_eq_some_iff name k).mpr ⟨p, hd⟩
    simp [find?, hi, Except.map, hd.stands]

/-- No persona is found exactly when no position is. -/
theorem find?_eq_none_iff (r : Registry Json) (name : String) :
    r.find? name = .ok none ↔ r.index? name = .ok none := by
  cases hi : r.index? name with
  | error crash => simp [find?, hi, Except.map]
  | ok found =>
    cases found with
    | none => simp [find?, hi, Except.map]
    | some k =>
      obtain ⟨p, hd⟩ := (r.index?_eq_some_iff name k).mp hi
      simp [find?, hi, Except.map, hd.stands]

/-- Only the lower case of a name matters. -/
theorem Designates.congr {a b : String} (h : lowerString a = lowerString b)
    (hd : r.Designates a k p) : r.Designates b k p where
  stands := hd.stands
  named := (Name.matches_congr h _).mp hd.named
  first := fun j q hj hq ↦ (Name.misses_congr h _).mp (hd.first j q hj hq)

/-- A name designates one persona at most. -/
theorem Designates.unique {k' : Nat} {p' : Persona Json} (h : r.Designates name k p)
    (h' : r.Designates name k' p') : k = k' ∧ p = p' := by
  have hi := (r.index?_eq_some_iff name k).mpr ⟨p, h⟩
  have hi' := (r.index?_eq_some_iff name k').mpr ⟨p', h'⟩
  rw [hi] at hi'
  cases hi'
  have := h.stands
  rw [h'.stands] at this
  cases this
  exact ⟨rfl, rfl⟩

/-- Names that differ by more than case designate different positions. -/
theorem Designates.ne {other : String} {j : Nat} {q : Persona Json} (h : r.Designates name k p)
    (hq : r.Designates other j q) (hne : lowerString other ≠ lowerString name) : j ≠ k := by
  rintro rfl
  have := h.stands
  rw [hq.stands] at this
  cases this
  obtain ⟨s, hs, hl⟩ := h.named
  obtain ⟨t, ht, hl'⟩ := hq.named
  rw [hs] at ht
  cases ht
  exact hne (hl'.symm.trans hl)

/-- Changing the designated persona changes the list at its position. -/
theorem update_of_designates (h : r.Designates name k p) (f : Persona Json → Persona Json) :
    r.update name f = { r with agents := r.agents.set k (f p) } := by
  have hi := (r.index?_eq_some_iff name k).mpr ⟨p, h⟩
  have hm : r.agents.modify k f = r.agents.set k (f p) := by
    apply List.ext_getElem?
    intro j
    rw [List.getElem?_modify, List.getElem?_set]
    by_cases hj : k = j
    · subst hj
      obtain ⟨hk, hp⟩ := List.getElem?_eq_some_iff.mp h.stands
      simp [hk, hp]
    · simp [hj]
  simp [update, hi, hm]

/-- Putting the designated persona in its own place changes nothing. -/
theorem set_of_designates (h : r.Designates name k p) :
    { r with agents := r.agents.set k p } = r := by
  have hs : r.agents.set k p = r.agents := by
    obtain ⟨hk, hp⟩ := List.getElem?_eq_some_iff.mp h.stands
    rw [← hp, List.set_getElem_self]
  rw [hs]

/-- Where no persona is designated nothing is changed. -/
theorem update_of_not_designates (h : ∀ k p, ¬ r.Designates name k p)
    (f : Persona Json → Persona Json) : r.update name f = r := by
  unfold update
  split
  · next k hi =>
    obtain ⟨p, hd⟩ := (r.index?_eq_some_iff name k).mp hi
    exact absurd hd (h k p)
  · rfl

/-- Removing the designated persona removes its position from the list. -/
theorem remove_of_designates (h : r.Designates name k p) :
    r.remove name = { r with agents := r.agents.eraseIdx k } := by
  have hi := (r.index?_eq_some_iff name k).mpr ⟨p, h⟩
  simp [remove, hi]

/-! ### What a name still designates after a change -/

namespace Designates

/-- Only the personas matter. -/
theorem of_agents_eq {r' : Registry Json} (h : r.Designates name k p)
    (ha : r'.agents = r.agents) : r'.Designates name k p where
  stands := by rw [ha]; exact h.stands
  named := h.named
  first := fun j q hj hq ↦ h.first j q hj (by rw [← ha]; exact hq)

/-- A persona that changes and keeps its name stays the one that is designated. -/
theorem set_self {p' : Persona Json} (h : r.Designates name k p) (hn : p'.name = p.name) :
    Registry.Designates { r with agents := r.agents.set k p' } name k p' where
  stands := by
    have hk := (List.getElem?_eq_some_iff.mp h.stands).1
    rw [List.getElem?_set_self hk]
  named := by rw [hn]; exact h.named
  first := fun j q hj hq ↦ by
    rw [List.getElem?_set_ne (by omega)] at hq
    exact h.first j q hj hq

/-- Another persona may change as long as it does not take the name. -/
theorem set_of_ne {j : Nat} {q : Persona Json} (h : r.Designates name k p) (hjk : j ≠ k)
    (hq : j < k → Name.Misses name q.name) :
    Registry.Designates { r with agents := r.agents.set j q } name k p where
  stands := by rw [List.getElem?_set_ne hjk]; exact h.stands
  named := h.named
  first := fun i q' hi hq' ↦ by
    by_cases hij : j = i
    · subst hij
      rw [List.getElem?_set] at hq'
      simp only [↓reduceIte] at hq'
      split at hq'
      · cases hq'
        exact hq hi
      · cases hq'
    · rw [List.getElem?_set_ne hij] at hq'
      exact h.first i q' hi hq'

/-- A change that keeps a persona's name leaves every name its position. -/
theorem set_of_name_eq {j : Nat} {q q' : Persona Json} (h : r.Designates name k p)
    (hq : r.agents[j]? = some q) (hn : q'.name = q.name) :
    Registry.Designates { r with agents := r.agents.set j q' } name k
      (if j = k then q' else p) := by
  by_cases hjk : j = k
  · subst hjk
    rw [if_pos rfl]
    have hpq := h.stands
    rw [hq] at hpq
    cases hpq
    exact h.set_self hn
  · rw [if_neg hjk]
    refine h.set_of_ne hjk fun hlt ↦ ?_
    rw [hn]
    exact h.first j q hlt hq

/-- Changes of all personas that keep their names leave every name its position. -/
theorem map {f : Persona Json → Persona Json} (h : r.Designates name k p)
    (hf : ∀ p, (f p).name = p.name) :
    Registry.Designates { r with agents := r.agents.map f } name k (f p) where
  stands := by rw [List.getElem?_map, h.stands]; rfl
  named := by rw [hf]; exact h.named
  first := fun j q hj hq ↦ by
    rw [List.getElem?_map] at hq
    obtain ⟨q', hq', rfl⟩ := Option.map_eq_some_iff.mp hq
    rw [hf]
    exact h.first j q' hj hq'

/-- A persona that comes last takes no name away. -/
theorem add (h : r.Designates name k p) (q : Persona Json) : (r.add q).Designates name k p := by
  have hk := (List.getElem?_eq_some_iff.mp h.stands).1
  refine ⟨?_, h.named, fun j q' hj hq' ↦ ?_⟩
  · rw [Registry.add, List.getElem?_append_left hk]
    exact h.stands
  · rw [Registry.add, List.getElem?_append_left (by omega)] at hq'
    exact h.first j q' hj hq'

/-- When another persona is gone, those behind it move up. -/
theorem eraseIdx {j : Nat} (h : r.Designates name k p) (hjk : j ≠ k) :
    Registry.Designates { r with agents := r.agents.eraseIdx j } name
      (if j < k then k - 1 else k) p := by
  by_cases hj : j < k
  · rw [if_pos hj]
    refine ⟨?_, h.named, fun i q hi hq ↦ ?_⟩
    · rw [List.getElem?_eraseIdx_of_ge (by omega), Nat.sub_add_cancel (by omega)]
      exact h.stands
    · by_cases hij : i < j
      · rw [List.getElem?_eraseIdx_of_lt hij] at hq
        exact h.first i q (by omega) hq
      · rw [List.getElem?_eraseIdx_of_ge (by omega)] at hq
        exact h.first (i + 1) q (by omega) hq
  · rw [if_neg hj]
    refine ⟨?_, h.named, fun i q hi hq ↦ ?_⟩
    · rw [List.getElem?_eraseIdx_of_lt (by omega)]
      exact h.stands
    · rw [List.getElem?_eraseIdx_of_lt (by omega)] at hq
      exact h.first i q hi hq

end Designates
end Registry
end PersonaChat
