import PersonaChat.Proofs.Desk.Sections

/-!
# Registries of texts

A registry is textual when all names and all contents of messages are texts. Every section keeps a
registry textual, and showing a history of a textual registry leaves it as it is.
-/

namespace PersonaChat

/-! ### Histories of texts -/

namespace History

/-- All messages have texts for contents. -/
def Textual (h : History Json) : Prop := ∀ m ∈ h, ∃ s, m.content = .str s

variable {h : History Json}

private theorem Textual.append (hh : h.Textual) {m : Message Json} {s : String}
    (hm : m.content = .str s) :
    Textual (h ++ [m]) := by
  intro m' hm'
  rcases List.mem_append.mp hm' with hm' | hm'
  · exact hh m' hm'
  · rw [List.mem_singleton.mp hm']
    exact ⟨s, hm⟩

private theorem Textual.without (hh : h.Textual) (wanted : List Int) :
    Textual (h.without wanted) :=
  fun m hm ↦ hh m (h.without_subset wanted hm)

private theorem Textual.setText (hh : h.Textual) (position : Int) (text : String) :
    Textual (h.setText position (.str text)) := by
  intro m hm
  rcases mem_setText hm with hm | ⟨m', -, rfl⟩
  · exact hh m hm
  · exact ⟨text, rfl⟩

/-- Showing texts leaves them as they are. -/
theorem Textual.afterShowing (hh : h.Textual) (indices : List Int) (textMode : Bool) :
    View.historyAfterShowing h indices textMode = h := by
  unfold View.historyAfterShowing
  dsimp only
  split
  · next index _ =>
    apply List.ext_getElem?
    intro i
    rw [List.getElem?_modify]
    cases hi : h[i]? with
    | none => rfl
    | some m =>
      obtain ⟨s, hs⟩ := hh m (List.mem_of_getElem? hi)
      have hm : View.afterShowing m textMode = m := by
        unfold View.afterShowing
        split
        · next hc _ _ =>
          rw [hs] at hc
          cases hc
        · rfl
      simp [hm]
  · rfl

end History

/-- The messages that a start stores are those before it and that of the user. -/
theorem Talk.mem_nextHistory {t : Talk} {h h' : History Json} {now : Int}
    (hn : t.nextHistory h now = .ok h') {m : Message Json} (hm : m ∈ h') :
    m ∈ h ∨ m = .ofUser t.prompt t.images now := by
  have hdrop (role : String) {g : History Json} (hg : m ∈ g.dropLast? role) : m ∈ g :=
    History.dropLast?_subset role g hg
  unfold nextHistory at hn
  split at hn
  · dsimp only at hn
    split at hn
    · cases hn
      exact .inl (hdrop _ hm)
    · cases hn
      exact (List.mem_append.mp hm).imp (fun hm ↦ hdrop _ (hdrop _ hm)) List.mem_singleton.mp
  · split at hn
    · cases hn
    · cases hn
      exact (List.mem_append.mp hm).imp id List.mem_singleton.mp

/-- The history that a start stores is textual if the one before is. -/
theorem Talk.textual_nextHistory {t : Talk} {h h' : History Json} {now : Int}
    (hn : t.nextHistory h now = .ok h') (hh : h.Textual) : h'.Textual := by
  intro m hm
  rcases mem_nextHistory hn hm with hm | rfl
  · exact hh m hm
  · exact ⟨_, rfl⟩

/-! ### Personas and registries of texts -/

namespace Persona

/-- The name is a text, and so are the contents of all messages. -/
structure Textual (p : Persona Json) : Prop where
  name : ∃ s, p.name = .str s
  history : ∀ scope user, (p.history scope user).Textual

variable {p p' : Persona Json}

/-- Histories of texts may be set and emptied. -/
theorem Textual.of_history (hp : p.Textual) (hn : ∃ s, p'.name = .str s)
    (hh : ∀ scope user, (p'.history scope user).Textual ∨
      p'.history scope user = p.history scope user) : p'.Textual where
  name := hn
  history := fun scope user ↦ by
    rcases hh scope user with h | h
    · exact h
    · rw [h]
      exact hp.history scope user

private theorem Textual.setHistory (hp : p.Textual) (scope : Scope) (user : String)
    {h : History Json}
    (hh : h.Textual) : (p.setHistory scope user h).Textual := by
  refine hp.of_history (by simpa using hp.name) fun scope' user' ↦ ?_
  rw [history_setHistory_of]
  split
  · exact .inl hh
  · exact .inr rfl

private theorem Textual.bump (hp : p.Textual) : p.bump.Textual :=
  hp.of_history hp.name fun scope user ↦ .inr (p.history_bump scope user)

private theorem Textual.clear (hp : p.Textual) (scope : Scope) (user : String) :
    (p.clear scope user).Textual := by
  have hempty : History.Textual [] := nofun
  cases scope
  · exact hp.setHistory .shared user hempty
  · unfold Persona.clear
    dsimp only
    split
    · exact hp.setHistory .personal user hempty
    · exact hp

/-- A fresh persona with a text for a name is textual. -/
theorem textual_fresh (name : String) (model systemPrompt description : Json) (now : Int) :
    (fresh (.str name) model systemPrompt description now).Textual where
  name := ⟨name, rfl⟩
  history := fun scope user ↦ by cases scope <;> exact nofun

end Persona

/-- All personas are textual. -/
def Registry.Textual (r : Registry Json) : Prop := ∀ p ∈ r.agents, p.Textual

namespace Registry.Textual

variable {r : Registry Json}

/-- Textual personas have texts for names. -/
theorem named (h : r.Textual) : r.Named := fun p hp ↦ (h p hp).name

private theorem of_designates (h : r.Textual) {name : String} {k : Nat} {p : Persona Json}
    (hd : r.Designates name k p) : p.Textual := h p (List.mem_of_getElem? hd.stands)

private theorem set (h : r.Textual) {p : Persona Json} (k : Nat) (hp : p.Textual) :
    Registry.Textual { r with agents := r.agents.set k p } := by
  intro q hq
  rcases List.mem_or_eq_of_mem_set hq with hq | rfl
  · exact h q hq
  · exact hp

end Registry.Textual

/-- An edit keeps a persona textual. -/
theorem Edit.Amends.textual {e : Edit} {r : Registry Json} {p p' : Persona Json}
    (h : e.Amends r p p') (hp : p.Textual) : p'.Textual := by
  cases h with
  | stopped => exact hp.bump
  | renamed => exact hp.of_history ⟨_, rfl⟩ fun scope user ↦ by cases scope <;> exact .inr rfl
  | described | equipped | prompted | updated =>
    exact hp.of_history hp.name fun scope user ↦ by cases scope <;> exact .inr rfl
  | reworded => exact (hp.setHistory _ _ ((hp.history _ _).setText _ _)).bump
  | thinned => exact (hp.setHistory _ _ ((hp.history _ _).without _)).bump
  | touched => exact hp.setHistory _ _ (hp.history _ _)
  | cleared => exact (hp.clear _ _).bump

/-- An edit keeps a registry textual. -/
theorem Edit.Makes.textual {e : Edit} {now : Int} {r r' : Registry Json} (h : e.Makes now r r')
    (hr : r.Textual) : r'.Textual := by
  have hempty : History.Textual [] := nofun
  cases h with
  | same => exact hr
  | amended found amends => exact hr.set _ (amends.textual (hr.of_designates found))
  | added =>
    intro q hq
    rcases List.mem_append.mp hq with hq | hq
    · exact hr q hq
    · rw [List.mem_singleton.mp hq]
      exact Persona.textual_fresh _ _ _ _ _
  | removed => exact fun q hq ↦ hr q (List.mem_of_mem_eraseIdx hq)
  | sharedCleared =>
    intro q hq
    obtain ⟨p, hp, rfl⟩ := List.mem_map.mp hq
    refine (hr p hp).of_history (hr p hp).name fun scope user ↦ ?_
    cases scope
    · exact .inl hempty
    · exact .inr rfl
  | allCleared =>
    intro q hq
    obtain ⟨p, hp, rfl⟩ := List.mem_map.mp hq
    refine (hr p hp).of_history (hr p hp).name fun scope user ↦ ?_
    cases scope <;> exact .inl hempty

/-- A section keeps a registry textual. -/
theorem Task.Rewrites.textual {t : Task} {now : Int} {r r' : Registry Json}
    (h : t.Rewrites now r r') (hr : r.Textual) : r'.Textual := by
  cases h with
  | kept agents_eq =>
    intro p hp
    rw [agents_eq] at hp
    exact hr p hp
  | edited stage makes => exact makes.textual hr
  | begun stage phase found next =>
    have hp := hr.of_designates found
    exact hr.set _ (hp.setHistory _ _ (Talk.textual_nextHistory next (hp.history _ _))).bump
  | completed stage phase found current =>
    have hp := hr.of_designates found
    exact hr.set _ (hp.setHistory _ _ ((hp.history _ _).append rfl))
  | described found =>
    have hp := hr.of_designates found
    exact hr.set _ (hp.of_history hp.name fun scope user ↦ by cases scope <;> exact .inr rfl)
  | shown found =>
    have hp := hr.of_designates found
    refine hr.set _ (hp.setHistory _ _ ?_)
    rw [(hp.history _ _).afterShowing]
    exact hp.history _ _

end PersonaChat
