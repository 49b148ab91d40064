import Mathlib.Data.Set.List
import PersonaChat.Proofs.Registry.Carrying
import PersonaChat.Proofs.Registry.Snapshot

/-!
# Registries with texts in their places

A registry is typed when texts stand wherever texts are meant to, roles are not empty, and each
user has one private history. Edits keep a registry typed, and a typed registry is the snapshot of
a registry of texts, so that it is read back once its numbers are short enough to be written.
-/

namespace PersonaChat

open Number

/-- The value is a text. -/
def Json.Textual (j : Json) : Prop := ∃ s, j = .str s

/-! ### Messages and histories -/

/-- Texts stand where texts are meant to, and the role is not empty. -/
structure Message.Typed (m : Message Json) : Prop where
  role : ∃ s, s ≠ "" ∧ m.role = .str s
  content : m.content.Textual
  images : ∀ image ∈ m.images, image.Textual

/-- All values of a message are texts, whatever they say. -/
structure Message.OfTexts (m : Message Json) : Prop where
  role : m.role.Textual
  content : m.content.Textual
  images : ∀ image ∈ m.images, image.Textual

/-- A typed message consists of texts. -/
theorem Message.Typed.ofTexts {m : Message Json} (hm : m.Typed) : m.OfTexts where
  role := hm.role.imp fun _ h ↦ h.2
  content := hm.content
  images := hm.images

/-- What a user says is typed if the media references are texts. -/
theorem Message.typed_ofUser {images : List Json} (h : ∀ image ∈ images, image.Textual)
    (content : String) (now : Int) : Typed (.ofUser content images now) where
  role := ⟨userRole, by decide, rfl⟩
  content := ⟨content, rfl⟩
  images := h

/-- An answer is typed. -/
theorem Message.typed_ofAssistant (content : String) (now : Int) :
    Typed (.ofAssistant content now) where
  role := ⟨assistantRole, by decide, rfl⟩
  content := ⟨content, rfl⟩
  images := nofun

namespace History

/-- All messages are typed. -/
def Typed (h : History Json) : Prop := ∀ m ∈ h, m.Typed

variable {h : History Json}

private theorem typed_nil : Typed [] := nofun

/-- Typed histories consist of texts. -/
theorem Typed.ofTexts (hh : h.Typed) : ∀ m ∈ h, m.OfTexts := fun m hm ↦ (hh m hm).ofTexts

/-- A typed message may come after typed ones. -/
theorem Typed.append (hh : h.Typed) {m : Message Json} (hm : m.Typed) : Typed (h ++ [m]) := by
  intro m' hm'
  rcases List.mem_append.mp hm' with hm' | hm'
  · exact hh m' hm'
  · rw [List.mem_singleton.mp hm']
    exact hm

private theorem Typed.without (hh : h.Typed) (wanted : List Int) : Typed (h.without wanted) :=
  fun m hm ↦ hh m (h.without_subset wanted hm)

private theorem Typed.setText (hh : h.Typed) (position : Int) (text : String) :
    Typed (h.setText position (.str text)) := by
  intro m hm
  rcases mem_setText hm with hm | ⟨m', hm', rfl⟩
  · exact hh m hm
  · exact ⟨(hh m' hm').role, ⟨text, rfl⟩, (hh m' hm').images⟩

end History

/-! ### Personas -/

namespace Persona

/-- Texts stand where texts are meant to, and each user has one private history. -/
structure Typed (p : Persona Json) : Prop where
  name : p.name.Textual
  description : p.description.Textual
  model : p.model.Textual
  systemPrompt : p.systemPrompt.Textual
  shared : p.publicHistory.Typed
  personal : ∀ entry ∈ p.privateHistories, History.Typed entry.2
  distinct : (Keyed.keys p.privateHistories).Nodup

variable {p : Persona Json}

namespace Typed

/-- Every history is typed. -/
theorem history (hp : p.Typed) (scope : Scope) (user : String) : (p.history scope user).Typed := by
  cases scope with
  | shared => exact hp.shared
  | personal =>
    rw [Persona.history]
    cases hget : Keyed.get? user p.privateHistories with
    | none => exact History.typed_nil
    | some h => exact hp.personal _ (Keyed.mem_of_get? hget)

/-- A typed persona may get a typed history. -/
theorem setHistory (hp : p.Typed) (scope : Scope) (user : String) {h : History Json}
    (hh : h.Typed) : (p.setHistory scope user h).Typed := by
  cases scope with
  | shared => exact { hp with shared := hh }
  | personal =>
    refine { hp with
      personal := fun entry hentry ↦ ?_, distinct := Keyed.nodup_keys_put hp.distinct user h }
    rcases Keyed.mem_put hentry with rfl | hentry
    · exact hh
    · exact hp.personal entry hentry

/-- Counting up keeps a persona typed. -/
theorem bump (hp : p.Typed) : p.bump.Typed := { hp with }

private theorem clear (hp : p.Typed) (scope : Scope) (user : String) :
    (p.clear scope user).Typed := by
  cases scope with
  | shared => exact hp.setHistory .shared user History.typed_nil
  | personal =>
    rw [Persona.clear]
    split
    · exact hp.setHistory .personal user History.typed_nil
    · exact hp

private theorem clearShared (hp : p.Typed) : p.clearShared.Typed :=
  { hp with shared := History.typed_nil }

private theorem clearAll (hp : p.Typed) : p.clearAll.Typed :=
  { hp with shared := History.typed_nil, personal := nofun, distinct := List.nodup_nil }

end Typed

/-- A fresh persona of texts is typed. -/
theorem typed_fresh {name model systemPrompt description : Json} (hname : name.Textual)
    (hmodel : model.Textual) (hprompt : systemPrompt.Textual) (hdescription : description.Textual)
    (now : Int) : (fresh name model systemPrompt description now).Typed :=
  ⟨hname, hdescription, hmodel, hprompt, History.typed_nil, nofun, List.nodup_nil⟩

end Persona

/-! ### Registries -/

namespace Registry

/-- Texts stand where texts are meant to, and each user has one private history of a persona. -/
structure Typed (r : Registry Json) : Prop where
  apiBase : r.apiBase.Textual
  apiKey : r.apiKey.Textual
  models : ∀ model ∈ r.models, model.Textual
  agents : ∀ p ∈ r.agents, p.Typed
  defaultModel : r.defaultModel.Textual
  defaultPrompt : r.defaultPrompt.Textual

namespace Typed

variable {r : Registry Json}

/-- A persona that is found in a typed registry is typed. -/
theorem of_designates (hr : r.Typed) {name : String} {k : Nat} {p : Persona Json}
    (hd : r.Designates name k p) : p.Typed := hr.agents p (List.mem_of_getElem? hd.stands)

/-- A typed registry may get a typed persona. -/
theorem set (hr : r.Typed) (k : Nat) {p : Persona Json} (hp : p.Typed) :
    Typed { r with agents := r.agents.set k p } := by
  refine { hr with agents := fun q hq ↦ ?_ }
  rcases List.mem_or_eq_of_mem_set hq with hq | rfl
  · exact hr.agents q hq
  · exact hp

private theorem add (hr : r.Typed) {p : Persona Json} (hp : p.Typed) : (r.add p).Typed := by
  refine { hr with agents := fun q hq ↦ ?_ }
  rcases List.mem_append.mp hq with hq | hq
  · exact hr.agents q hq
  · rw [List.mem_singleton.mp hq]
    exact hp

private theorem map (hr : r.Typed) {f : Persona Json → Persona Json}
    (hf : ∀ p, p.Typed → (f p).Typed) :
    Typed { r with agents := r.agents.map f } := by
  refine { hr with agents := fun q hq ↦ ?_ }
  obtain ⟨p, hp, rfl⟩ := List.mem_map.mp hq
  exact hf p (hr.agents p hp)

end Typed
end Registry

/-! ### Edits -/

namespace Models

variable {ref : String} {models : List Json} {model : Json}

/-- A model that is found is one of those that are looked through. -/
private theorem mem_of_containing? {part : String}
    (h : containing? part models = .ok (some model)) :
    model ∈ models := by
  induction models with
  | nil => cases h
  | cons first rest ih =>
    rw [containing?] at h
    obtain ⟨lower, -, h⟩ := bind_eq_ok h
    split at h
    · cases h
      exact List.mem_cons_self
    · exact List.mem_cons_of_mem _ (ih h)

/-- The model that a text refers to is one of those that are offered, or the text itself. -/
theorem eq_of_resolve (h : resolve ref models = .ok (some model)) :
    model ∈ models ∨ model = .str ref := by
  have numbered (i : Nat) (hi : at? models i = some model) : model ∈ models := by
    unfold at? at hi
    split at hi
    · cases hi
    · exact List.mem_of_getElem? hi
  have named (h : (do return some ((← containing? ref models).getD (.str ref)) :
      Except Crash (Option Json)) = .ok (some model)) : model ∈ models ∨ model = .str ref := by
    obtain ⟨found, hfound, hmodel⟩ := bind_eq_ok h
    cases found with
    | none =>
      cases hmodel
      exact .inr rfl
    | some found =>
      cases hmodel
      exact .inl (mem_of_containing? hfound)
  unfold resolve at h
  split at h
  · cases h
  · split at h
    · split at h
      · next i _ =>
        cases hat : at? models i.toNat with
        | some found =>
          simp only [hat, pure, Except.pure, bind, Except.bind, Except.ok.injEq,
            Option.some.injEq] at h
          subst h
          exact .inl (numbered _ hat)
        | none =>
          simp only [hat, pure_bind] at h
          exact named h
      · cases h
    · exact named h

end Models

namespace Edit

variable {e : Edit} {now : Int} {r r' : Registry Json}

/-- An edit that is carried out keeps a registry typed. -/
theorem Carries.typed (h : e.Carries now r r') (hr : r.Typed) : r'.Typed := by
  have referred {ref : String} {model : Json}
      (h : Models.resolve ref r.models = .ok (some model)) : model.Textual := by
    rcases Models.eq_of_resolve h with h | rfl
    · exact hr.models model h
    · exact ⟨ref, rfl⟩
  have resolved {ref : String} {model : Option Json} (h : Models.resolve ref r.models = .ok model)
      {default : Json} (hd : default.Textual) :
      ((model.filter Json.isFilled).getD default).Textual := by
    cases hm : model.filter Json.isFilled with
    | none => exact hd
    | some found =>
      rw [(Option.filter_eq_some_iff.mp hm).1] at h
      exact referred h
  obtain ⟨agent, user, change⟩ := e
  cases h with
  | stopped hd => exact hr.set _ (hr.of_designates hd).bump
  | copied hd =>
    have hp := hr.of_designates hd
    exact hr.add (Persona.typed_fresh ⟨_, rfl⟩ hp.model hp.systemPrompt hp.description now)
  | renamed hd => exact hr.set _ { hr.of_designates hd with name := ⟨_, rfl⟩ }
  | described hd => exact hr.set _ { hr.of_designates hd with description := ⟨_, rfl⟩ }
  | equipped hd hmodel =>
    exact hr.set _ { hr.of_designates hd with model := referred hmodel }
  | prompted hd => exact hr.set _ { hr.of_designates hd with systemPrompt := ⟨_, rfl⟩ }
  | removed => exact { hr with agents := fun q hq ↦ hr.agents q (List.mem_of_mem_eraseIdx hq) }
  | reworded _ hd =>
    have hp := hr.of_designates hd
    exact hr.set _ (hp.setHistory _ _ ((hp.history _ _).setText _ _)).bump
  | thinned hd =>
    have hp := hr.of_designates hd
    exact hr.set _ (hp.setHistory _ _ ((hp.history _ _).without _)).bump
  | cleared hd => exact hr.set _ ((hr.of_designates hd).clear _ _).bump
  | sharedCleared => exact hr.map fun p hp ↦ hp.clearShared
  | allCleared => exact hr.map fun p hp ↦ hp.clearAll
  | updated hd hmodel =>
    have hp := hr.of_designates hd
    refine hr.set _ { hp with
      model := resolved hmodel hp.model, systemPrompt := ⟨_, rfl⟩, description := ?_ }
    show Json.Textual (if _ then _ else _)
    split
    · exact hp.description
    · exact ⟨_, rfl⟩
  | created _ hmodel =>
    refine hr.add (Persona.typed_fresh ⟨_, rfl⟩ (resolved hmodel hr.defaultModel) ?_ ⟨_, rfl⟩ now)
    split
    · exact hr.defaultPrompt
    · exact ⟨_, rfl⟩

/-- An edit that fails leaves a registry typed. -/
theorem typed_residue (e : Edit) (hr : r.Typed) : (e.residue r).Typed := by
  unfold residue
  split
  · by_cases hd : ∃ k p, r.Designates e.agent k p
    · obtain ⟨k, p, hd⟩ := hd
      have hp := hr.of_designates hd
      rw [Registry.update_of_designates hd]
      exact hr.set _ (hp.setHistory _ _ (hp.history _ _))
    · rw [Registry.update_of_not_designates fun k p h ↦ hd ⟨k, p, h⟩]
      exact hr
  · exact hr

end Edit

/-! ### Snapshots -/

/-- A list of values that a function takes is the image of a list under it. -/
private theorem exists_map_eq {α β : Type} {f : α → β} {l : List β} (h : ∀ b ∈ l, ∃ a, b = f a) :
    ∃ l', l = List.map f l' := by
  have hl : l ∈ {l | ∀ b ∈ l, b ∈ Set.range f} := fun b hb ↦ (h b hb).imp fun _ ↦ Eq.symm
  rw [← Set.range_list_map] at hl
  exact hl.imp fun _ ↦ Eq.symm

private theorem Message.Typed.exists_map {m : Message Json} (hm : m.Typed) :
    ∃ m₀ : Message String, m = m₀.map .str := by
  obtain ⟨role, content, images, timestamp⟩ := m
  obtain ⟨role, -, rfl⟩ := hm.role
  obtain ⟨content, rfl⟩ := hm.content
  obtain ⟨images, rfl⟩ := exists_map_eq hm.images
  exact ⟨⟨role, content, images, timestamp⟩, rfl⟩

private theorem History.Typed.exists_map {h : History Json} (hh : h.Typed) :
    ∃ h₀ : History String, h = h₀.map (·.map .str) := exists_map_eq fun m hm ↦ (hh m hm).exists_map

private theorem Persona.Typed.exists_map {p : Persona Json} (hp : p.Typed) :
    ∃ p₀ : Persona String, p = p₀.map .str := by
  obtain ⟨name, description, model, systemPrompt, publicHistory, privateHistories, version,
    createdAt⟩ := p
  obtain ⟨name, rfl⟩ := hp.name
  obtain ⟨description, rfl⟩ := hp.description
  obtain ⟨model, rfl⟩ := hp.model
  obtain ⟨systemPrompt, rfl⟩ := hp.systemPrompt
  obtain ⟨publicHistory, rfl⟩ := hp.shared.exists_map
  have hentry : ∀ entry ∈ privateHistories, ∃ entry₀ : String × History String,
      entry = (entry₀.1, entry₀.2.map (·.map .str)) := by
    intro entry hentry
    obtain ⟨h, hh⟩ := (hp.personal entry hentry).exists_map
    exact ⟨(entry.1, h), by rw [← hh]⟩
  obtain ⟨privateHistories, rfl⟩ := exists_map_eq hentry
  exact ⟨⟨name, description, model, systemPrompt, publicHistory, privateHistories, version,
    createdAt⟩, rfl⟩

/-- A typed registry is the snapshot of a registry of texts. -/
theorem Registry.Typed.exists_snapshot {r : Registry Json} (hr : r.Typed) :
    ∃ r₀ : Registry String, r = r₀.snapshot := by
  obtain ⟨apiBase, apiKey, models, agents, defaultModel, defaultPrompt⟩ := r
  obtain ⟨apiBase, rfl⟩ := hr.apiBase
  obtain ⟨apiKey, rfl⟩ := hr.apiKey
  obtain ⟨models, rfl⟩ := exists_map_eq hr.models
  obtain ⟨agents, rfl⟩ := exists_map_eq fun p hp ↦ (hr.agents p hp).exists_map
  obtain ⟨defaultModel, rfl⟩ := hr.defaultModel
  obtain ⟨defaultPrompt, rfl⟩ := hr.defaultPrompt
  exact ⟨⟨apiBase, apiKey, models, agents, defaultModel, defaultPrompt⟩, rfl⟩

/-! ### Numbers -/

namespace Persona

/-- The numbers of a persona are short enough to be written. -/
def Short (p : Persona Json) : Prop :=
  p.version.natAbs < 10 ^ digitLimit ∧ p.createdAt.natAbs < 10 ^ digitLimit ∧
    (∀ m ∈ p.publicHistory, m.timestamp.natAbs < 10 ^ digitLimit) ∧
    ∀ entry ∈ p.privateHistories, ∀ m ∈ entry.2, m.timestamp.natAbs < 10 ^ digitLimit

instance : DecidablePred Short := fun _ ↦ inferInstanceAs (Decidable (_ ∧ _ ∧ _ ∧ _))

/-- A typed persona with short numbers can be stored. -/
theorem storable_of_typed {p : Persona String} (ht : (p.map Json.str).Typed)
    (hs : (p.map Json.str).Short) :
    p.Storable := by
  obtain ⟨hversion, hcreated, hshared, hpersonal⟩ := hs
  have message {m : Message String} (ht : (m.map Json.str).Typed)
      (hs : m.timestamp.natAbs < 10 ^ digitLimit) : m.Storable := by
    obtain ⟨role, hrole, heq⟩ := ht.role
    cases heq
    exact ⟨hrole, hs⟩
  refine ⟨fun m hm ↦ ?_, fun entry hentry m hm ↦ ?_, ?_, hversion, hcreated⟩
  · have hm' := List.mem_map_of_mem (f := Message.map Json.str) hm
    exact message (ht.shared _ hm') (hshared _ hm')
  · have hentry' : (entry.1, entry.2.map (·.map Json.str)) ∈ (p.map Json.str).privateHistories :=
      List.mem_map_of_mem hentry
    have hm' := List.mem_map_of_mem (f := Message.map Json.str) hm
    exact message (ht.personal _ hentry' _ hm') (hpersonal _ hentry' _ hm')
  · have hkeys : Keyed.keys (p.map Json.str).privateHistories = Keyed.keys p.privateHistories := by
      simp [map, Keyed.keys, Function.comp_def]
    exact hkeys ▸ ht.distinct

end Persona

namespace Registry

/-- The numbers of all personas are short enough to be written. -/
def Short (r : Registry Json) : Prop := ∀ p ∈ r.agents, p.Short

instance : DecidablePred Short := fun r ↦ inferInstanceAs (Decidable (∀ p ∈ r.agents, p.Short))

/-- A typed registry with short numbers is the snapshot of one whose personas can be stored. -/
theorem Typed.exists_storable {r : Registry Json} (hr : r.Typed) (hs : r.Short) :
    ∃ r₀ : Registry String, r = r₀.snapshot ∧ ∀ p ∈ r₀.agents, p.Storable := by
  obtain ⟨r₀, rfl⟩ := hr.exists_snapshot
  refine ⟨r₀, rfl, fun p hp ↦ ?_⟩
  have hp' : p.map .str ∈ r₀.snapshot.agents := List.mem_map_of_mem hp
  exact Persona.storable_of_typed (hr.agents _ hp') (hs _ hp')

end Registry
end PersonaChat
