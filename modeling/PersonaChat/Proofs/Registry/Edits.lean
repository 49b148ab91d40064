import PersonaChat.Proofs.Registry.Carrying

/-!
# What an edit makes of a registry

An edit leaves the registry as it is, changes the persona it names, adds one persona at the end,
takes the persona it names away, or empties histories of all personas. `Makes` lists these cases
with the exact persona that comes out of each. There are no others: an edit that is carried out is
one of them by `Carries.makes`, and what one leaves that fails by `makes_residue`; what edits do to
personas is read off these cases.

Spec guidance: `SPEC_FULL.md`, lines 107–111 and 217–220.
-/

namespace PersonaChat

open Text

namespace Edit

/-- The name of the persona that an edit is about. -/
def target (e : Edit) : String :=
  match e.change with
  | .create request => request.name
  | _ => e.agent

/-- What an edit makes of the persona it is about. -/
inductive Amends (e : Edit) (r : Registry Json) (p : Persona Json) : Persona Json → Prop where
  /-- Answers under way are out of date. -/
  | stopped {scope : Scope} (change : e.change = .stop scope) : Amends e r p p.bump
  /-- It has a new name, which differs from those of all other personas. -/
  | renamed {name : String} {others : List Json} (change : e.change = .rename name)
      (others_eq : otherNames p.name r.names = .ok others)
      (valid : Name.validate name others = .ok name) : Amends e r p { p with name := .str name }
  /-- It has a new description. -/
  | described {text : String} (change : e.change = .describe text) :
      Amends e r p { p with description := .str text }
  /-- It has a new model. -/
  | equipped {ref : String} {model : Json} (change : e.change = .setModel ref) :
      Amends e r p { p with model := model }
  /-- It has a new system prompt. -/
  | prompted {text : String} (change : e.change = .setPrompt text) :
      Amends e r p { p with systemPrompt := .str text }
  /-- The text of a message is another one. -/
  | reworded {scope : Scope} {index : Int} {indices : List Int} {text : String}
      (change : e.change = .editAt scope (index :: indices) text) (said : text ≠ "")
      (present : ((p.history scope e.user).at? index).isSome) :
      Amends e r p
        (p.setHistory scope e.user ((p.history scope e.user).setText index (.str text))).bump
  /-- Messages of a history are gone. -/
  | thinned {scope : Scope} {indices : List Int} (change : e.change = .deleteAt scope indices)
      (present : (p.history scope e.user).present indices ≠ []) :
      Amends e r p (p.setHistory scope e.user ((p.history scope e.user).without indices)).bump
  /-- No message was found to delete, but a private history may now have an entry. -/
  | touched {scope : Scope} {indices : List Int} (change : e.change = .deleteAt scope indices) :
      Amends e r p (p.setHistory scope e.user (p.history scope e.user))
  /-- A history is empty. -/
  | cleared {scope : Scope} (change : e.change = .clear scope) :
      Amends e r p (p.clear scope e.user).bump
  /-- It is as a request to create it asks. -/
  | updated {request : CreateRequest} {model : Option Json} (change : e.change = .create request) :
      Amends e r p (Edit.updated p request model)

/-- What an edit makes of a registry. -/
inductive Makes (e : Edit) (now : Int) (r : Registry Json) : Registry Json → Prop where
  /-- Nothing changes. -/
  | same : Makes e now r r
  /-- The persona it is about changes. -/
  | amended {k : Nat} {p p' : Persona Json} (found : r.Designates e.target k p)
      (amends : e.Amends r p p') : Makes e now r { r with agents := r.agents.set k p' }
  /-- A persona comes last. -/
  | added {name : String} {model systemPrompt description : Json}
      (valid : Name.validate name r.names = .ok name) :
      Makes e now r (r.add (.fresh (.str name) model systemPrompt description now))
  /-- The persona it is about is gone. -/
  | removed {k : Nat} {p : Persona Json} (change : e.change = .delete)
      (found : r.Designates e.target k p) : Makes e now r { r with agents := r.agents.eraseIdx k }
  /-- All shared histories are empty. -/
  | sharedCleared (change : e.change = .clearPublic) :
      Makes e now r { r with agents := r.agents.map Persona.clearShared }
  /-- All histories are empty. -/
  | allCleared (change : e.change = .clearEverything) :
      Makes e now r { r with agents := r.agents.map Persona.clearAll }

variable {e : Edit} {now : Int} {r : Registry Json}

/-- What is left of an edit that fails is the registry as it was, or a history that was set to
itself. -/
theorem residue_cases (e : Edit) (r : Registry Json) : e.residue r = r ∨
    ∃ scope indices k p, e.change = .deleteAt scope indices ∧ r.Designates e.agent k p ∧
      e.residue r = { r with
        agents := r.agents.set k (p.setHistory scope e.user (p.history scope e.user)) } := by
  unfold residue
  split
  · next scope index indices hc =>
    by_cases hd : ∃ k p, r.Designates e.agent k p
    · obtain ⟨k, p, hd⟩ := hd
      exact .inr ⟨scope, index :: indices, k, p, hc, hd, Registry.update_of_designates hd _⟩
    · exact .inl (Registry.update_of_not_designates (fun k p h ↦ hd ⟨k, p, h⟩) _)
  · exact .inl rfl

/-- What is left of an edit that fails is one of these cases. -/
theorem makes_residue : Makes e now r (e.residue r) := by
  rcases residue_cases e r with h | ⟨scope, indices, k, p, hc, hd, h⟩
  · rw [h]
    exact .same
  · rw [h]
    exact .amended (by simpa [target, hc] using hd) (.touched hc)

/-- An edit that is carried out does one of these things. -/
theorem Carries.makes {r' : Registry Json} (h : e.Carries now r r') : Makes e now r r' := by
  obtain ⟨agent, user, change⟩ := e
  cases h with
  | stopped hd => exact .amended hd (.stopped rfl)
  | copied _ hv => exact .added hv
  | renamed hd ho hv => exact .amended hd (.renamed rfl ho hv)
  | described hd => exact .amended hd (.described rfl)
  | equipped hd => exact .amended hd (.equipped rfl)
  | prompted hd => exact .amended hd (.prompted rfl)
  | removed hd => exact .removed rfl hd
  | reworded hs hd hp => exact .amended hd (.reworded rfl hs hp)
  | thinned hd hp => exact .amended hd (.thinned rfl hp)
  | cleared hd => exact .amended hd (.cleared rfl)
  | sharedCleared => exact .sharedCleared rfl
  | allCleared => exact .allCleared rfl
  | updated hd => exact .amended hd (.updated rfl)
  | created hv => exact .added hv

/-! ### What comes of a persona -/

variable {p p' : Persona Json}

/-- Only a rename gives a persona another name. -/
theorem Amends.name_eq (h : e.Amends r p p') (hn : ∀ name, e.change ≠ .rename name) :
    p'.name = p.name := by
  cases h with
  | renamed change => exact absurd change (hn _)
  | _ => simp [Edit.updated]

/-- A persona that has a text for a name keeps having one. -/
theorem Amends.isText_name (h : e.Amends r p p') (hp : ∃ s, p.name = .str s) :
    ∃ s, p'.name = .str s := by
  cases h with
  | renamed => exact ⟨_, rfl⟩
  | _ => simpa [Edit.updated] using hp

end Edit

/-- All personas have texts for names. -/
def Registry.Named (r : Registry Json) : Prop := ∀ p ∈ r.agents, ∃ s, p.name = .str s

/-- Names stay texts when a persona is replaced by one whose name is a text. -/
theorem Registry.Named.set {r : Registry Json} (h : r.Named) {p : Persona Json} (k : Nat)
    (hp : ∃ s, p.name = .str s) : Registry.Named { r with agents := r.agents.set k p } := by
  intro q hq
  rcases List.mem_or_eq_of_mem_set hq with hq | rfl
  · exact h q hq
  · exact hp

/-- Edits give only texts for names. -/
theorem Edit.Makes.named {e : Edit} {now : Int} {r r' : Registry Json} (h : e.Makes now r r')
    (hr : r.Named) : r'.Named := by
  cases h with
  | same => exact hr
  | amended found amends =>
    exact hr.set _ (amends.isText_name (hr _ (List.mem_of_getElem? found.stands)))
  | added valid =>
    intro q hq
    rcases List.mem_append.mp hq with hq | hq
    · exact hr q hq
    · cases List.mem_singleton.mp hq
      exact ⟨_, rfl⟩
  | removed change found => exact fun q hq ↦ hr q (List.mem_of_mem_eraseIdx hq)
  | sharedCleared =>
    intro q hq
    obtain ⟨p, hp, rfl⟩ := List.mem_map.mp hq
    exact hr p hp
  | allCleared =>
    intro q hq
    obtain ⟨p, hp, rfl⟩ := List.mem_map.mp hq
    exact hr p hp

/-- Among texts no search for a persona fails. -/
theorem Registry.Named.find?_ne_error {r : Registry Json} (h : r.Named) (name : String)
    (crash : Crash) : r.find? name ≠ .error crash := by
  have ht : ∀ x ∈ r.names, ∃ s, x = .str s := by
    intro x hx
    obtain ⟨p, hp, rfl⟩ := List.mem_map.mp hx
    exact h p hp
  obtain ⟨found, hf⟩ := Name.position?_isOk_of_texts name ht
  simp [find?, index?, hf, Except.map]

end PersonaChat
