import Mathlib.Data.List.InsertIdx
import PersonaChat.Desk.Edit
import PersonaChat.Proofs.Persona

/-!
# What a user sees of the registry

A user has access to the fields of every persona, to its shared history and to one private history.
Registries look the same to a user when nothing distinguishes them but the private histories of
others. An edit by a user acts on what this user sees: what it makes of the registry, what it
replies and what it frees do not depend on anything else. A viewer is such a user, or nobody in
particular: then everything is seen, and registries look the same only when they are the same.
-/

namespace PersonaChat

open Text

universe u

namespace Persona

variable {τ : Type u}

/-- A persona as a user sees it: of the private histories only that of this user is left. -/
def seenBy (v : String) (p : Persona τ) : Persona τ :=
  { p with privateHistories := ((Keyed.get? v p.privateHistories).map fun h ↦ (v, h)).toList }

variable (v : String) (p : Persona τ) (scope : Scope)

/-- A user sees the name. -/
@[simp] theorem name_seenBy : (p.seenBy v).name = p.name := rfl

/-- A user sees the model. -/
@[simp] theorem model_seenBy : (p.seenBy v).model = p.model := rfl

/-- A user sees the own private history. -/
@[simp] theorem get?_seenBy :
    Keyed.get? v (p.seenBy v).privateHistories = Keyed.get? v p.privateHistories := by
  unfold seenBy
  cases Keyed.get? v p.privateHistories with
  | none => rfl
  | some h => simp [Keyed.get?]

/-- Personas look the same to a user exactly when they differ in nothing but the private histories
of others: in who has one and in what it holds. -/
theorem seenBy_eq_iff {p q : Persona τ} :
    p.seenBy v = q.seenBy v ↔
      { p with privateHistories := [] } = { q with privateHistories := [] } ∧
        Keyed.get? v p.privateHistories = Keyed.get? v q.privateHistories := by
  constructor
  · intro h
    constructor
    · exact congrArg (fun p : Persona τ ↦ { p with privateHistories := [] }) h
    · rw [← get?_seenBy v p, ← get?_seenBy v q, h]
  · intro ⟨hfields, hown⟩
    unfold seenBy
    rw [hown]
    exact congrArg (fun seen : Persona τ ↦ { seen with
      privateHistories := ((Keyed.get? v q.privateHistories).map fun h ↦ (v, h)).toList }) hfields

/-- A user sees the shared histories and the own private ones. -/
@[simp] theorem history_seenBy : (p.seenBy v).history scope v = p.history scope v := by
  cases scope with
  | shared => rfl
  | personal => exact congrArg (Option.getD · []) (p.get?_seenBy v)

private theorem setHistory_seenBy (h : History τ) :
    (p.seenBy v).setHistory scope v h = (p.setHistory scope v h).seenBy v := by
  cases scope with
  | shared => rfl
  | personal =>
    simp only [setHistory, seenBy, Keyed.get?_put_self]
    cases Keyed.get? v p.privateHistories with
    | none => rfl
    | some old => simp [Keyed.put]

private theorem clear_seenBy : (p.seenBy v).clear scope v = (p.clear scope v).seenBy v := by
  cases scope with
  | shared => exact p.setHistory_seenBy v .shared []
  | personal =>
    unfold clear Keyed.has
    dsimp only
    rw [get?_seenBy, setHistory_seenBy]
    split
    · rfl
    · rfl

/-- The shared history is emptied before or after a user looks. -/
theorem clearShared_seenBy : (p.seenBy v).clearShared = p.clearShared.seenBy v := rfl

/-- All histories are emptied before or after a user looks. -/
theorem clearAll_seenBy : (p.seenBy v).clearAll = p.clearAll.seenBy v := rfl

private theorem deleteAt_seenBy (wanted : List Int) :
    (p.seenBy v).deleteAt scope v wanted =
      ((p.deleteAt scope v wanted).1.seenBy v, (p.deleteAt scope v wanted).2) := by
  unfold deleteAt
  dsimp only
  rw [history_seenBy, setHistory_seenBy]

private theorem editAt?_seenBy (position : Int) (content : τ) :
    (p.seenBy v).editAt? scope v position content =
      (p.editAt? scope v position content).map (seenBy v) := by
  unfold editAt?
  dsimp only
  rw [history_seenBy, setHistory_seenBy, Option.map_map]
  rfl

private theorem fresh_seenBy (name model systemPrompt description : τ) (now : Int) :
    (fresh name model systemPrompt description now).seenBy v =
      fresh name model systemPrompt description now := rfl

end Persona

namespace Registry

/-- The registry as a user sees it. -/
def seenBy {τ : Type u} (v : String) (r : Registry τ) : Registry τ :=
  { r with agents := r.agents.map (Persona.seenBy v) }

variable (v : String) (r : Registry Json) (name : String)

/-- A user sees all personas of a registry. -/
@[simp] theorem agents_seenBy : (r.seenBy v).agents = r.agents.map (Persona.seenBy v) := rfl

/-- A user sees the models of a registry. -/
@[simp] theorem models_seenBy : (r.seenBy v).models = r.models := rfl

/-- A user sees the names of all personas. -/
@[simp] theorem names_seenBy : (r.seenBy v).names = r.names := by
  simp [names, seenBy, Function.comp_def]

/-- A persona is found at the same position by a user. -/
@[simp] theorem index?_seenBy : (r.seenBy v).index? name = r.index? name := by
  unfold index?
  rw [names_seenBy]

private theorem find?_seenBy :
    (r.seenBy v).find? name = (r.find? name).map (Option.map (Persona.seenBy v)) := by
  unfold find?
  rw [index?_seenBy]
  cases r.index? name with
  | error crash => rfl
  | ok position =>
    cases position with
    | none => rfl
    | some i => simp [Except.map, seenBy]

/-- A change that acts on what a user sees of a persona acts on what the user sees of the
registry. -/
theorem update_seenBy {f g : Persona Json → Persona Json}
    (hfg : ∀ p, g (p.seenBy v) = (f p).seenBy v) :
    (r.seenBy v).update name g = (r.update name f).seenBy v := by
  unfold update
  rw [index?_seenBy]
  split
  · next i _ =>
    have hmodify : (r.agents.map (Persona.seenBy v)).modify i g =
        (r.agents.modify i f).map (Persona.seenBy v) := by
      apply List.ext_getElem?
      intro j
      simp only [List.getElem?_modify, List.getElem?_map]
      cases r.agents[j]? with
      | none => rfl
      | some p =>
        by_cases hij : i = j
        · simp [hij, hfg]
        · simp [hij]
    unfold seenBy
    rw [hmodify]
  · rfl

private theorem remove_seenBy : (r.seenBy v).remove name = (r.remove name).seenBy v := by
  unfold remove
  rw [index?_seenBy]
  split
  · simp [seenBy, List.eraseIdx_map]
  · rfl

private theorem add_seenBy (p : Persona Json) :
    (r.seenBy v).add (p.seenBy v) = (r.add p).seenBy v := by
  simp [add, seenBy]

end Registry

namespace Edit

variable (v : String) (r : Registry Json) (agent : String)

/-- What an edit comes to, as a user sees it. -/
def Result.seenBy (result : Result) : Result := (result.1.seenBy v, result.2)

private theorem onPersona_seenBy {edit other : Persona Json → Result}
    (h : ∀ p, other (p.seenBy v) = Result.seenBy v (edit p)) :
    onPersona (r.seenBy v) agent other = Result.seenBy v (onPersona r agent edit) := by
  unfold onPersona
  rw [Registry.find?_seenBy]
  rcases r.find? agent with crash | _ | p
  · rfl
  · rfl
  · exact h p

private theorem accept_update_seenBy {f g : Persona Json → Persona Json} (reply : String)
    (hfg : ∀ p, g (p.seenBy v) = (f p).seenBy v) :
    accept ((r.seenBy v).update agent g) reply =
    Result.seenBy v (accept (r.update agent f) reply) := by
  unfold accept
  rw [Registry.update_seenBy v r agent hfg]
  rfl

private theorem accept_add_seenBy {p : Persona Json} (hp : p.seenBy v = p) (reply : String) :
    accept ((r.seenBy v).add p) reply = Result.seenBy v (accept (r.add p) reply) := by
  have hadd := Registry.add_seenBy v r p
  rw [hp] at hadd
  unfold accept
  rw [hadd]
  rfl

private theorem copy_seenBy (name : String) (now : Int) :
    copy (r.seenBy v) agent name now = Result.seenBy v (copy r agent name now) := by
  unfold copy
  split
  · rfl
  · apply onPersona_seenBy
    intro p
    rw [Registry.names_seenBy]
    split
    · rfl
    · exact accept_add_seenBy v r (Persona.fresh_seenBy v _ _ _ _ now) _

private theorem rename_seenBy (name : String) :
    rename (r.seenBy v) agent name = Result.seenBy v (rename r agent name) := by
  unfold rename
  split
  · rfl
  · apply onPersona_seenBy
    intro p
    rw [Registry.names_seenBy, Persona.name_seenBy]
    split
    · rfl
    · split
      · rfl
      · exact accept_update_seenBy v r agent _ fun _ ↦ rfl

private theorem describe_seenBy (text : String) :
    describe (r.seenBy v) agent text = Result.seenBy v (describe r agent text) := by
  unfold describe
  split
  · rfl
  · apply onPersona_seenBy
    intro p
    exact accept_update_seenBy v r agent _ fun _ ↦ rfl

private theorem setModel_seenBy (ref : String) :
    setModel (r.seenBy v) agent ref = Result.seenBy v (setModel r agent ref) := by
  unfold setModel
  split
  · rfl
  · apply onPersona_seenBy
    intro p
    rw [Registry.models_seenBy, Persona.model_seenBy]
    split
    · rfl
    · split
      · rfl
      · exact accept_update_seenBy v r agent _ fun _ ↦ rfl

private theorem setPrompt_seenBy (text : String) :
    setPrompt (r.seenBy v) agent text = Result.seenBy v (setPrompt r agent text) := by
  unfold setPrompt
  apply onPersona_seenBy
  intro p
  exact accept_update_seenBy v r agent _ fun _ ↦ rfl

private theorem editAt_seenBy (scope : Scope) (indices : List Int) (text : String) :
    editAt (r.seenBy v) agent v scope indices text =
      Result.seenBy v (editAt r agent v scope indices text) := by
  unfold editAt
  split
  · rfl
  · split
    · rfl
    · apply onPersona_seenBy
      intro p
      rw [Persona.editAt?_seenBy]
      cases p.editAt? scope v _ _ with
      | none => rfl
      | some edited => exact accept_update_seenBy v r agent _ fun _ ↦ rfl

private theorem deleteAt_seenBy (scope : Scope) (indices : List Int) :
    deleteAt (r.seenBy v) agent v scope indices =
      Result.seenBy v (deleteAt r agent v scope indices) := by
  unfold deleteAt
  split
  · rfl
  · apply onPersona_seenBy
    intro p
    rw [Persona.deleteAt_seenBy]
    dsimp only
    split
    · unfold refuse fail
      rw [Registry.update_seenBy v r agent (f := fun _ ↦ (p.deleteAt scope v indices).1) fun _ ↦
        rfl]
      rfl
    · exact accept_update_seenBy v r agent _ fun _ ↦ rfl

private theorem create_seenBy (request : CreateRequest) (now : Int) :
    create (r.seenBy v) request now = Result.seenBy v (create r request now) := by
  unfold create
  rw [Registry.models_seenBy, Registry.find?_seenBy, Registry.names_seenBy]
  cases Models.resolve request.model r.models with
  | error crash => rfl
  | ok resolved =>
    rcases r.find? request.name with crash | _ | p
    · rfl
    · dsimp only [Except.map, Option.map]
      split
      · rfl
      · exact accept_add_seenBy v r (Persona.fresh_seenBy v _ _ _ _ now) _
    · exact accept_update_seenBy v r request.name _ fun _ ↦ rfl

/-- An edit acts on what its user sees. -/
theorem apply_seenBy (e : Edit) (now : Int) :
    e.apply now (r.seenBy e.user) = Result.seenBy e.user (e.apply now r) := by
  obtain ⟨agent, user, change⟩ := e
  cases change with
  | stop scope =>
    apply onPersona_seenBy
    intro p
    unfold acceptFreeing
    rw [Registry.update_seenBy user r agent (f := fun _ ↦ p.bump) fun _ ↦ rfl]
    rfl
  | copy name => exact copy_seenBy user r agent name now
  | rename name => exact rename_seenBy user r agent name
  | describe text => exact describe_seenBy user r agent text
  | setModel ref => exact setModel_seenBy user r agent ref
  | setPrompt text => exact setPrompt_seenBy user r agent text
  | delete =>
    apply onPersona_seenBy
    intro p
    unfold accept
    rw [Registry.remove_seenBy]
    rfl
  | editAt scope indices text => exact editAt_seenBy user r agent scope indices text
  | deleteAt scope indices => exact deleteAt_seenBy user r agent scope indices
  | clear scope =>
    apply onPersona_seenBy
    intro p
    unfold acceptFreeing
    rw [Persona.clear_seenBy,
      Registry.update_seenBy user r agent (f := fun _ ↦ (p.clear scope user).bump) fun _ ↦ rfl]
    rfl
  | clearPublic =>
    simp [apply, acceptFreeing, Result.seenBy, Registry.seenBy, Function.comp_def,
      Persona.clearShared_seenBy]
  | clearEverything =>
    simp [apply, acceptFreeing, Result.seenBy, Registry.seenBy, Function.comp_def,
      Persona.clearAll_seenBy]
  | create request => exact create_seenBy user r request now

end Edit

/-! ### Viewers -/

/-- A viewer sees all that a user has access to. -/
def Sees (viewer : Option String) (user : String) : Prop := ∀ v ∈ viewer, user = v

namespace Persona

variable {τ : Type u}

/-- A persona as it is shown to a viewer. -/
def shownTo (viewer : Option String) (p : Persona τ) : Persona τ :=
  match viewer with
  | none => p
  | some v => p.seenBy v

variable {viewer : Option String} {user : String} {p p' : Persona τ}

section

variable (h : p.shownTo viewer = p'.shownTo viewer)

include h

/-- Every viewer sees all but the private histories. -/
theorem fields_eq_of_shownTo :
    { p with privateHistories := [] } = { p' with privateHistories := [] } := by
  cases viewer with
  | none => exact congrArg (fun p : Persona τ ↦ { p with privateHistories := [] }) h
  | some v => exact ((seenBy_eq_iff v).mp h).1

/-- Personas that look the same have the same name. -/
theorem name_eq_of_shownTo : p.name = p'.name := by
  have hfields := congrArg name (fields_eq_of_shownTo h)
  exact hfields

/-- Personas that look the same have the same model. -/
theorem model_eq_of_shownTo : p.model = p'.model := by
  have hfields := congrArg model (fields_eq_of_shownTo h)
  exact hfields

/-- Personas that look the same have the same system prompt. -/
theorem systemPrompt_eq_of_shownTo : p.systemPrompt = p'.systemPrompt := by
  have hfields := congrArg systemPrompt (fields_eq_of_shownTo h)
  exact hfields

/-- Personas that look the same have the same version. -/
theorem version_eq_of_shownTo : p.version = p'.version := by
  have hfields := congrArg version (fields_eq_of_shownTo h)
  exact hfields

/-- Personas that look the same to a user have the same histories for the user. -/
theorem history_eq_of_shownTo (hu : Sees viewer user) (scope : Scope) :
    p.history scope user = p'.history scope user := by
  cases viewer with
  | none => exact congrArg (fun p : Persona τ ↦ p.history scope user) h
  | some v =>
    obtain rfl := hu v rfl
    rw [← history_seenBy, ← history_seenBy user p']
    exact congrArg (fun p : Persona τ ↦ p.history scope user) h

/-- A history that a viewer sees is replaced alike. -/
theorem setHistory_shownTo (hu : Sees viewer user) (scope : Scope) (history : History τ) :
    (p.setHistory scope user history).shownTo viewer =
      (p'.setHistory scope user history).shownTo viewer := by
  cases viewer with
  | none => exact congrArg (fun p : Persona τ ↦ p.setHistory scope user history) h
  | some v =>
    obtain rfl := hu v rfl
    show (p.setHistory scope user history).seenBy user =
      (p'.setHistory scope user history).seenBy user
    rw [← setHistory_seenBy, ← setHistory_seenBy]
    exact congrArg (fun p : Persona τ ↦ p.setHistory scope user history) h

/-- Counting up keeps the look. -/
theorem bump_shownTo : p.bump.shownTo viewer = p'.bump.shownTo viewer := by
  cases viewer with
  | none => exact congrArg bump h
  | some v => exact congrArg bump h

/-- A description keeps personas looking the same. -/
theorem describe_shownTo (description : τ) :
    { p with description := description }.shownTo viewer =
      { p' with description := description }.shownTo viewer := by
  cases viewer with
  | none => exact congrArg (fun p : Persona τ ↦ { p with description := description }) h
  | some v => exact congrArg (fun p : Persona τ ↦ { p with description := description }) h

/-- A message of a user whose history is seen keeps personas looking the same. -/
theorem append_shownTo (hu : Sees viewer user) (scope : Scope) (m : Message τ) :
    (p.append scope user m).shownTo viewer = (p'.append scope user m).shownTo viewer := by
  unfold append
  rw [history_eq_of_shownTo h hu scope]
  exact setHistory_shownTo h hu scope _

end

end Persona

namespace Registry

/-- A registry as it is shown to a viewer. -/
def shownTo {τ : Type u} (viewer : Option String) (r : Registry τ) : Registry τ :=
  { r with agents := r.agents.map (Persona.shownTo viewer) }

variable {viewer : Option String} {r r' : Registry Json}

/-- Who sees everything is shown the registry itself. -/
theorem shownTo_none {τ : Type u} (r : Registry τ) : r.shownTo none = r := by
  unfold shownTo
  have hid : Persona.shownTo none = (id : Persona τ → Persona τ) := rfl
  rw [hid, List.map_id]

section

variable (h : r.shownTo viewer = r'.shownTo viewer)

include h

/-- Registries that look the same have personas that look the same. -/
theorem agents_eq_of_shownTo :
    r.agents.map (Persona.shownTo viewer) = r'.agents.map (Persona.shownTo viewer) := by
  have hshown := congrArg agents h
  exact hshown

/-- Registries that look the same have the same models. -/
theorem models_eq_of_shownTo : r.models = r'.models := by
  have hshown := congrArg models h
  exact hshown

/-- Registries that look the same have the same provider. -/
theorem api_eq_of_shownTo : r.api = r'.api := by
  have hshown := congrArg api h
  exact hshown

/-- Registries that look the same have the same default model. -/
theorem defaultModel_eq_of_shownTo : r.defaultModel = r'.defaultModel := by
  have hshown := congrArg defaultModel h
  exact hshown

/-- Registries that look the same have as many personas. -/
theorem length_agents_of_shownTo : r.agents.length = r'.agents.length := by
  simpa using congrArg List.length (agents_eq_of_shownTo h)

/-- Registries that look the same have the same names. -/
theorem names_eq_of_shownTo : r.names = r'.names := by
  have hname : Persona.name ∘ Persona.shownTo viewer = (Persona.name : Persona Json → Json) := by
    cases viewer with
    | none => rfl
    | some v => rfl
  have hnames := congrArg (List.map Persona.name) (agents_eq_of_shownTo h)
  rwa [List.map_map, List.map_map, hname] at hnames

private theorem index?_eq_of_shownTo (name : String) : r.index? name = r'.index? name := by
  unfold index?
  rw [names_eq_of_shownTo h]

/-- At a position stand personas that look the same, or none. -/
theorem agents_cases (i : Nat) :
    (r.agents[i]? = none ∧ r'.agents[i]? = none) ∨
      ∃ p p', r.agents[i]? = some p ∧ r'.agents[i]? = some p' ∧
        p.shownTo viewer = p'.shownTo viewer := by
  have hi : (r.agents[i]?).map (Persona.shownTo viewer) =
      (r'.agents[i]?).map (Persona.shownTo viewer) := by
    rw [← List.getElem?_map, ← List.getElem?_map, agents_eq_of_shownTo h]
  cases hp : r.agents[i]? with
  | none =>
    rw [hp] at hi
    exact .inl ⟨rfl, Option.map_eq_none_iff.mp hi.symm⟩
  | some p =>
    rw [hp] at hi
    obtain ⟨p', hp', heq⟩ := Option.map_eq_some_iff.mp hi.symm
    exact .inr ⟨p, p', rfl, hp', heq.symm⟩

/-- A name designates personas that look the same in registries that look the same. -/
theorem find?_cases (name : String) :
    (∃ crash, r.find? name = .error crash ∧ r'.find? name = .error crash) ∨
      (r.find? name = .ok none ∧ r'.find? name = .ok none) ∨
      ∃ p p', r.find? name = .ok (some p) ∧ r'.find? name = .ok (some p') ∧
        p.shownTo viewer = p'.shownTo viewer := by
  unfold find?
  rw [index?_eq_of_shownTo h]
  rcases r'.index? name with crash | _ | i
  · exact .inl ⟨crash, rfl, rfl⟩
  · exact .inr (.inl ⟨rfl, rfl⟩)
  · simp only [Except.map, Option.bind_some]
    obtain ⟨hp, hp'⟩ | ⟨p, p', hp, hp', heq⟩ := agents_cases h i
    · rw [hp, hp']
      exact .inr (.inl ⟨rfl, rfl⟩)
    · rw [hp, hp']
      exact .inr (.inr ⟨p, p', rfl, rfl, heq⟩)

/-- Changes that make personas that look the same of personas that do keep registries looking the
same. -/
theorem update_shownTo (name : String) {f f' : Persona Json → Persona Json}
    (hf : ∀ p p', p.shownTo viewer = p'.shownTo viewer →
      (f p).shownTo viewer = (f' p').shownTo viewer) :
    (r.update name f).shownTo viewer = (r'.update name f').shownTo viewer := by
  unfold update
  rw [index?_eq_of_shownTo h]
  rcases r'.index? name with crash | _ | i
  · exact h
  · exact h
  · have hmodify : (r.agents.modify i f).map (Persona.shownTo viewer) =
        (r'.agents.modify i f').map (Persona.shownTo viewer) := by
      apply List.ext_getElem?
      intro j
      rw [List.getElem?_map, List.getElem?_map, List.getElem?_modify, List.getElem?_modify]
      obtain ⟨hp, hp'⟩ | ⟨p, p', hp, hp', heq⟩ := agents_cases h j
      · rw [hp, hp']
        rfl
      · rw [hp, hp']
        by_cases hij : i = j
        · simp [hij, hf p p' heq]
        · simp [hij, heq]
    show { r.shownTo viewer with agents := (r.agents.modify i f).map (Persona.shownTo viewer) } =
      { r'.shownTo viewer with agents := (r'.agents.modify i f').map (Persona.shownTo viewer) }
    rw [h, hmodify]

/-- A persona is replaced by ones that look the same. -/
theorem replace_shownTo (name : String) {p p' : Persona Json}
    (hp : p.shownTo viewer = p'.shownTo viewer) :
    (r.update name fun _ ↦ p).shownTo viewer = (r'.update name fun _ ↦ p').shownTo viewer :=
  update_shownTo h name fun _ _ _ ↦ hp

end

end Registry

/-- An edit whose user a viewer sees makes registries that look the same of registries that do, and
comes to the same. -/
theorem Edit.apply_shownTo {viewer : Option String} {r r' : Registry Json}
    (h : r.shownTo viewer = r'.shownTo viewer) (e : Edit) (he : Sees viewer e.user) (now : Int) :
    (e.apply now r).1.shownTo viewer = (e.apply now r').1.shownTo viewer ∧
      (e.apply now r).2 = (e.apply now r').2 := by
  cases viewer with
  | none =>
    rw [Registry.shownTo_none, Registry.shownTo_none] at h
    rw [h]
    exact ⟨rfl, rfl⟩
  | some v =>
    obtain rfl := he v rfl
    have hseen : Result.seenBy e.user (e.apply now r) = Result.seenBy e.user (e.apply now r') := by
      rw [← apply_seenBy, ← apply_seenBy]
      exact congrArg (e.apply now) h
    exact Prod.mk.inj hseen

end PersonaChat
