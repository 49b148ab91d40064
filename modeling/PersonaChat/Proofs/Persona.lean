import PersonaChat.Persona.Basic

/-!
# Laws of histories

What the operations on a persona do to its name, its version and each of its histories. A history
is changed only through its own scope and, for a private one, its own user.

Spec guidance: `SPEC_FULL.md`, lines 37–40 and 107–111.
-/

namespace PersonaChat

universe u v

namespace Keyed

variable {κ : Type u} {α : Type v} [DecidableEq κ] {k : κ}

/-- Setting a key to the value that it has changes nothing. -/
theorem put_of_get? {a : α} {m : Keyed κ α} (h : get? k m = some a) : put k a m = m := by
  induction m with
  | nil => cases h
  | cons entry r ih =>
    rw [put]
    split
    · next hk =>
      rw [get?, if_pos hk] at h
      cases h
      rfl
    · next hk =>
      rw [get?, if_neg hk] at h
      rw [ih h]

/-- A value that a key has stands in an entry. -/
theorem mem_of_get? {a : α} {m : Keyed κ α} (h : get? k m = some a) : (k, a) ∈ m := by
  induction m with
  | nil => cases h
  | cons entry r ih =>
    obtain ⟨key, value⟩ := entry
    rw [get?] at h
    split at h
    · next hk =>
      cases h
      rw [hk]
      exact List.mem_cons_self
    · exact List.mem_cons_of_mem _ (ih h)

/-- The entries after a key is set are the old ones and that of the key. -/
theorem mem_put {a : α} {m : Keyed κ α} {entry : κ × α} (h : entry ∈ put k a m) :
    entry = (k, a) ∨ entry ∈ m := by
  induction m with
  | nil => exact .inl (List.mem_singleton.mp h)
  | cons first r ih =>
    rw [put] at h
    split at h
    · next hk =>
      rcases List.mem_cons.mp h with h | h
      · exact .inl (by rw [h, hk])
      · exact .inr (List.mem_cons_of_mem _ h)
    · rcases List.mem_cons.mp h with h | h
      · exact .inr (by rw [h]; exact List.mem_cons_self)
      · exact (ih h).imp_right (List.mem_cons_of_mem _)

/-- A key that is set stays where it is, or comes last. -/
theorem keys_put (a : α) (m : Keyed κ α) :
    keys (put k a m) = if k ∈ keys m then keys m else keys m ++ [k] := by
  induction m with
  | nil => rfl
  | cons entry r ih =>
    rw [put]
    by_cases hk : entry.1 = k
    · simp [keys, hk]
    · have hne : k ≠ entry.1 := Ne.symm hk
      rw [if_neg hk]
      show entry.1 :: keys (put k a r) =
        if k ∈ entry.1 :: keys r then _ else entry.1 :: (keys r ++ [k])
      rw [ih]
      by_cases hmem : k ∈ keys r
      · rw [if_pos hmem, if_pos (List.mem_cons_of_mem _ hmem)]
        rfl
      · rw [if_neg hmem, if_neg (by simp [hne, hmem])]

/-- Setting a key repeats no key. -/
theorem nodup_keys_put {m : Keyed κ α} (h : (keys m).Nodup) (k : κ) (a : α) :
    (keys (put k a m)).Nodup := by
  rw [keys_put]
  split
  · exact h
  · next hk =>
    refine List.nodup_append.mpr ⟨h, by simp, ?_⟩
    intro x hx y hy hxy
    rw [List.mem_singleton.mp hy] at hxy
    exact hk (hxy ▸ hx)

/-- Of two values that a key is set to only the later one counts. -/
theorem put_put (a b : α) (m : Keyed κ α) : put k b (put k a m) = put k b m := by
  induction m with
  | nil => simp [put]
  | cons entry r ih =>
    by_cases hk : entry.1 = k
    · simp [put, hk]
    · simp [put, hk, ih]

end Keyed

namespace History

variable {τ : Type u} {h : History τ}

/-- Taking messages out brings none in. -/
theorem without_subset (h : History τ) (wanted : List Int) : h.without wanted ⊆ h := by
  intro m hm
  obtain ⟨entry, he, rfl⟩ := List.mem_map.mp hm
  exact List.fst_mem_of_mem_zipIdx (List.mem_filter.mp he).1

/-- A message of a history with a new text is an old one, up to that text. -/
theorem mem_setText {position : Int} {content : τ} {m : Message τ}
    (hm : m ∈ h.setText position content) :
    m ∈ h ∨ ∃ m' ∈ h, m = { m' with content := content } := by
  obtain ⟨i, hi⟩ := List.mem_iff_getElem?.mp hm
  rw [setText, List.getElem?_modify] at hi
  obtain ⟨m', hm', rfl⟩ := Option.map_eq_some_iff.mp hi
  split
  · exact .inr ⟨m', List.mem_of_getElem? hm', rfl⟩
  · exact .inl (List.mem_of_getElem? hm')

/-- Taking the last message back brings none in. -/
theorem dropLast?_subset (role : String) (h : History Json) : h.dropLast? role ⊆ h := by
  unfold dropLast?
  split
  · split
    · exact List.dropLast_subset h
    · exact List.Subset.refl h
  · exact List.Subset.refl h

end History

namespace Persona

variable {τ : Type u} (p : Persona τ) (scope other : Scope) (user v : String) (h : History τ)
  (m : Message τ)

/-- A history leaves the name alone. -/
@[simp] theorem name_setHistory : (p.setHistory scope user h).name = p.name := by
  cases scope <;> rfl

/-- A history leaves the version alone. -/
@[simp] theorem version_setHistory : (p.setHistory scope user h).version = p.version := by
  cases scope <;> rfl

/-- A history leaves the description alone. -/
@[simp] theorem description_setHistory :
    (p.setHistory scope user h).description = p.description := by
  cases scope <;> rfl

/-- Counting up leaves the name alone. -/
@[simp] theorem name_bump : p.bump.name = p.name := rfl

/-- Counting up leaves the description alone. -/
@[simp] theorem description_bump : p.bump.description = p.description := rfl

/-- Counting up adds one to the version. -/
@[simp] theorem version_bump : p.bump.version = p.version + 1 := rfl

/-- Counting up leaves the histories alone. -/
@[simp] theorem history_bump : p.bump.history scope user = p.history scope user := by
  cases scope <;> rfl

/-- A message leaves the name alone. -/
@[simp] theorem name_append : (p.append scope user m).name = p.name := by simp [append]

/-- A message leaves the version alone. -/
@[simp] theorem version_append : (p.append scope user m).version = p.version := by simp [append]

/-- A message leaves the description alone. -/
@[simp] theorem description_append : (p.append scope user m).description = p.description := by
  simp [append]

/-- A message comes at the end of its history. -/
@[simp] theorem history_append :
    (p.append scope user m).history scope user = p.history scope user ++ [m] := by simp [append]

/-- Emptying a history leaves the name alone. -/
@[simp] theorem name_clear : (p.clear scope user).name = p.name := by
  cases scope
  · rfl
  · simp only [clear]
    split
    · rfl
    · rfl

/-- Emptying a history leaves the description alone. -/
@[simp] theorem description_clear : (p.clear scope user).description = p.description := by
  cases scope
  · rfl
  · simp only [clear]
    split
    · rfl
    · rfl

/-- Emptying a history does not count up by itself. -/
@[simp] theorem version_clear : (p.clear scope user).version = p.version := by
  cases scope
  · rfl
  · simp only [clear]
    split
    · rfl
    · rfl

/-- Emptying the shared history leaves the name alone. -/
@[simp] theorem name_clearShared : p.clearShared.name = p.name := rfl

/-- Emptying the shared history counts up. -/
@[simp] theorem version_clearShared : p.clearShared.version = p.version + 1 := rfl

/-- Emptying all histories leaves the name alone. -/
@[simp] theorem name_clearAll : p.clearAll.name = p.name := rfl

/-- Emptying all histories counts up. -/
@[simp] theorem version_clearAll : p.clearAll.version = p.version + 1 := rfl

variable {p}

/-- A history that is set is the same for the same scope and user, and the other histories stay. -/
theorem history_setHistory_of :
    (p.setHistory scope user h).history other v =
      if other = scope ∧ (scope = .personal → v = user) then h else p.history other v := by
  cases scope <;> cases other
  · simp [history, setHistory]
  · simp [history, setHistory]
  · simp [history, setHistory]
  · by_cases hv : v = user
    · simp [history, setHistory, hv]
    · simp [history, setHistory, hv, Keyed.get?_put_of_ne hv]

variable (p) in
/-- Setting a history to what it is changes no history. -/
theorem history_setHistory_history :
    (p.setHistory scope user (p.history scope user)).history other v = p.history other v := by
  rw [history_setHistory_of]
  split
  · next h =>
    obtain ⟨rfl, hv⟩ := h
    cases other
    · rfl
    · rw [hv rfl]
  · rfl

/-- A history that is there may be set to what it is. -/
theorem setHistory_history (h : scope = .personal → Keyed.has user p.privateHistories) :
    p.setHistory scope user (p.history scope user) = p := by
  cases scope with
  | shared => rfl
  | personal =>
    obtain ⟨entry, he⟩ := Option.isSome_iff_exists.mp (h rfl)
    rw [setHistory, history, he, Option.getD_some, Keyed.put_of_get? he]

/-- A history with messages is there. -/
theorem setHistory_history_of_ne_nil (h : p.history scope user ≠ []) :
    p.setHistory scope user (p.history scope user) = p := by
  refine setHistory_history scope user fun hs ↦ ?_
  subst hs
  rw [Keyed.has]
  cases hget : Keyed.get? user p.privateHistories with
  | some entry => rfl
  | none =>
    rw [history, hget] at h
    exact absurd rfl h

/-- Counting a change does not depend on the histories. -/
theorem setHistory_bump : p.bump.setHistory scope user h = (p.setHistory scope user h).bump := by
  cases scope <;> rfl

/-- Of two histories that are set for a scope and user only the later one counts. -/
theorem setHistory_setHistory (h' : History τ) :
    (p.setHistory scope user h).setHistory scope user h' = p.setHistory scope user h' := by
  cases scope with
  | shared => rfl
  | personal => simp [setHistory, Keyed.put_put]

end Persona
end PersonaChat
