import PersonaChat.Desk.Describing
import PersonaChat.Proofs.Registry.Seen
import PersonaChat.Proofs.Results
import PersonaChat.View.Listing

/-!
# Lists of personas show no histories

The lists of personas and of models are made from names, descriptions, models and system prompts.
They are the same for personas whose private histories are left out.
-/

namespace PersonaChat

/-- Sorting the images of elements is sorting the elements by the keys of their images. -/
theorem Json.sortedBy_map {α β : Type} (f : α → β) (key : β → Json) (xs : List α) :
    sortedBy key (xs.map f) = (sortedBy (fun x ↦ key (f x)) xs).map (List.map f) := by
  unfold sortedBy
  rw [List.map_map, Function.comp_def]
  cases checkComparable (xs.map fun x ↦ key (f x)) with
  | error crash => rfl
  | ok _ =>
    have hsort := List.map_mergeSort (l := xs) (f := f)
      (r := fun a b ↦ (isBelow (key (f b)) (key (f a))).toOption != some true)
      (s := fun a b ↦ (isBelow (key b) (key a)).toOption != some true) fun _ _ _ _ ↦ rfl
    exact congrArg Except.ok hsort.symm

namespace View

variable (v : String)

/-- The personas that use one model, as a user sees them. -/
def ModelUse.seenBy (group : ModelUse) : ModelUse :=
  { group with members := group.members.map (Prod.map (Persona.seenBy v) id) }

/-- A member of a group, as a user sees it. -/
def Member.seenBy (m : Member) : Member := { m with persona := m.persona.seenBy v }

private theorem addMember_seenBy (p : Persona Json) (index : Nat) (groups : List ModelUse) :
    addMember (p.seenBy v) index (groups.map (ModelUse.seenBy v)) =
      (addMember p index groups).map (ModelUse.seenBy v) := by
  induction groups with
  | nil => rfl
  | cons group groups ih =>
    rw [List.map_cons]
    unfold addMember
    by_cases h : group.model.equal p.model = true
    · rw [if_pos h, if_pos (show (group.seenBy v).model.equal (p.seenBy v).model = true from h)]
      simp [ModelUse.seenBy]
    · rw [if_neg h,
        if_neg (show ¬(group.seenBy v).model.equal (p.seenBy v).model = true from h), ih]
      rfl

private theorem foldl_addMember_seenBy (members : List (Persona Json × Nat))
    (groups : List ModelUse) :
    (members.map (Prod.map (Persona.seenBy v) id)).foldl
        (fun groups (p, index) ↦ addMember p index groups) (groups.map (ModelUse.seenBy v)) =
      (members.foldl (fun groups (p, index) ↦ addMember p index groups) groups).map
        (ModelUse.seenBy v) := by
  induction members generalizing groups with
  | nil => rfl
  | cons member members ih =>
    obtain ⟨p, index⟩ := member
    rw [List.map_cons, List.foldl_cons, List.foldl_cons, ← ih, ← addMember_seenBy]
    rfl

private theorem byModel_seenBy (agents : List (Persona Json)) :
    byModel (agents.map (Persona.seenBy v)) =
      (byModel agents).map (List.map (ModelUse.seenBy v)) := by
  unfold byModel
  rw [List.mapM_map, List.zipIdx_map]
  have hcheck : ((fun p : Persona Json ↦ p.model.forLookup) ∘ Persona.seenBy v) =
      fun p : Persona Json ↦ p.model.forLookup := rfl
  rw [hcheck]
  cases agents.mapM fun p : Persona Json ↦ p.model.forLookup with
  | error crash => rfl
  | ok _ =>
    exact congrArg Except.ok (foldl_addMember_seenBy v (agents.zipIdx 1) [])

private theorem byName_seenBy (members : List (Persona Json × Nat)) :
    byName (members.map (Prod.map (Persona.seenBy v) id)) =
      (byName members).map (List.map (Member.seenBy v)) := by
  unfold byName
  rw [mapM_changed (Prod.map (Persona.seenBy v) id) (Member.seenBy v)]
  · generalize List.mapM (m := Except Crash) _ members = keyed
    cases keyed with
    | error crash => rfl
    | ok keyed =>
      have hsort := List.map_mergeSort (l := keyed) (f := Member.seenBy v)
        (r := fun a b ↦ !decide (b.key < a.key)) (s := fun a b ↦ !decide (b.key < a.key))
        fun _ _ _ _ ↦ rfl
      exact congrArg Except.ok hsort.symm
  · intro member
    obtain ⟨p, index⟩ := member
    dsimp only [Prod.map, id, Persona.name_seenBy]
    cases p.name.forOperation "lower" with
    | error crash => rfl
    | ok name => rfl

/-- The personas of a model are listed as a user sees them. -/
@[simp] theorem personaGroup_seenBy (group : ModelUse) :
    personaGroup (group.seenBy v) = personaGroup group := by
  unfold personaGroup
  rw [show (group.seenBy v).members = group.members.map (Prod.map (Persona.seenBy v) id) from rfl,
    byName_seenBy, List.length_map]
  cases byName group.members with
  | error crash => rfl
  | ok members =>
    dsimp only [Except.map, bind, Except.bind]
    rw [List.mapM_map]
    rfl

/-- The list of personas shows what everyone sees of them. -/
theorem personas_seenBy (agents : List (Persona Json)) :
    personas (agents.map (Persona.seenBy v)) = personas agents := by
  unfold personas
  rw [byModel_seenBy]
  cases byModel agents with
  | error crash => rfl
  | ok groups =>
    dsimp only [Except.map, bind, Except.bind]
    have hsorted : Json.sortedBy ModelUse.model (groups.map (ModelUse.seenBy v)) =
        (Json.sortedBy ModelUse.model groups).map (List.map (ModelUse.seenBy v)) :=
      Json.sortedBy_map (ModelUse.seenBy v) ModelUse.model groups
    rw [hsorted]
    cases Json.sortedBy ModelUse.model groups with
    | error crash => rfl
    | ok sorted =>
      dsimp only [Except.map]
      rw [List.mapM_map]
      have hgroups : personaGroup ∘ ModelUse.seenBy v = personaGroup :=
        funext (personaGroup_seenBy v)
      rw [hgroups]

/-- The list of personas shows what every viewer sees of them. -/
theorem personas_shownTo (viewer : Option String) (agents : List (Persona Json)) :
    personas (agents.map (Persona.shownTo viewer)) = personas agents := by
  cases viewer with
  | none =>
    show personas (agents.map id) = _
    rw [List.map_id]
  | some v => exact personas_seenBy v agents

/-- The use of a model is counted as a user sees it. -/
@[simp] theorem usage_seenBy (model : String) (agents : List (Persona Json)) :
    usage model (agents.map (Persona.seenBy v)) = usage model agents := by
  unfold usage
  rw [List.countP_map]
  rfl

/-- The list of models shows what everyone sees of the personas. -/
theorem models_seenBy (keywords : List String) (names : List Json) (agents : List (Persona Json)) :
    models keywords names (agents.map (Persona.seenBy v)) = models keywords names agents := by
  unfold models
  rw [List.mapM_map]
  simp only [modelGroup, usage_seenBy]
  rfl

/-- The list of models shows what every viewer sees of the personas. -/
theorem models_shownTo (viewer : Option String) (keywords : List String) (names : List Json)
    (agents : List (Persona Json)) :
    models keywords names (agents.map (Persona.shownTo viewer)) =
    models keywords names agents := by
  cases viewer with
  | none =>
    show models keywords names (agents.map id) = _
    rw [List.map_id]
  | some v => exact models_seenBy v keywords names agents

end View

/-- Which personas lack a description of their own can be seen by everyone. -/
theorem Describing.targets_seenBy (v : String) (r : Registry Json) :
    targets (r.seenBy v) = targets r := by
  unfold targets
  rw [Registry.agents_seenBy, List.filter_map, List.map_map]
  rfl

/-- Every viewer sees which personas lack a description of their own. -/
theorem Describing.targets_shownTo (viewer : Option String) (r : Registry Json) :
    targets (r.shownTo viewer) = targets r := by
  cases viewer with
  | none => rw [Registry.shownTo_none]
  | some v => exact targets_seenBy v r

end PersonaChat
