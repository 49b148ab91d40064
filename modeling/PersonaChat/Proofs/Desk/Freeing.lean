import PersonaChat.Proofs.Desk.Floor

/-!
# What commands free

A stop and the clearings free conversations whoever holds them, and they do so in a section of
their own, after the edit is done. No other command comes to such a section.
-/

namespace PersonaChat

/-- What an edit frees once it is carried out. -/
def Edit.release? (e : Edit) : Option Release :=
  match e.change with
  | .stop scope | .clear scope => some (.conversation ⟨e.agent, scope, e.user⟩)
  | .clearPublic => some .allShared
  | .clearEverything => some .all
  | _ => none

namespace Edit

variable {r : Registry Json} {done : EditDone}

private theorem release_accept {reply : String} (h : (accept r reply).2 = .ok done) :
    done.release = none := by
  cases h
  rfl

private theorem release_acceptFreeing {reply : String} {release : Release}
    (h : (acceptFreeing r reply release).2 = .ok done) : done.release = some release := by
  cases h
  rfl

private theorem release_onPersona {agent : String} {edit : Persona Json → Result}
    {release : Option Release} (he : ∀ p, (edit p).2 = .ok done → done.release = release)
    (h : (onPersona r agent edit).2 = .ok done) : done.release = release := by
  unfold onPersona at h
  split at h
  · cases h
  · cases h
  · exact he _ h

private theorem release_copy {agent name : String} {now : Int}
    (h : (copy r agent name now).2 = .ok done) : done.release = none := by
  unfold copy at h
  split at h
  · cases h
  · refine release_onPersona (fun p hp ↦ ?_) h
    split at hp
    · cases hp
    · exact release_accept hp

private theorem release_rename {agent name : String} (h : (rename r agent name).2 = .ok done) :
    done.release = none := by
  unfold rename at h
  split at h
  · cases h
  · refine release_onPersona (fun p hp ↦ ?_) h
    split at hp
    · cases hp
    · split at hp
      · cases hp
      · exact release_accept hp

private theorem release_describe {agent text : String} (h : (describe r agent text).2 = .ok done) :
    done.release = none := by
  unfold describe at h
  split at h
  · cases h
  · exact release_onPersona (fun p hp ↦ release_accept hp) h

private theorem release_setModel {agent ref : String} (h : (setModel r agent ref).2 = .ok done) :
    done.release = none := by
  unfold setModel at h
  split at h
  · cases h
  · refine release_onPersona (fun p hp ↦ ?_) h
    split at hp
    · cases hp
    · split at hp
      · cases hp
      · exact release_accept hp

private theorem release_editAt {agent user text : String} {scope : Scope} {indices : List Int}
    (h : (editAt r agent user scope indices text).2 = .ok done) : done.release = none := by
  unfold editAt at h
  split at h
  · cases h
  · split at h
    · cases h
    · refine release_onPersona (fun p hp ↦ ?_) h
      split at hp
      · cases hp
      · exact release_accept hp

private theorem release_deleteAt {agent user : String} {scope : Scope} {indices : List Int}
    (h : (deleteAt r agent user scope indices).2 = .ok done) : done.release = none := by
  unfold deleteAt at h
  split at h
  · cases h
  · refine release_onPersona (fun p hp ↦ ?_) h
    dsimp only at hp
    split at hp
    · cases hp
    · exact release_accept hp

private theorem release_create {request : CreateRequest} {now : Int}
    (h : (create r request now).2 = .ok done) : done.release = none := by
  unfold create at h
  split at h
  · cases h
  · cases h
  · exact release_accept h
  · split at h
    · cases h
    · exact release_accept h

/-- A stop and the clearings free what they are about; no other edit frees anything. -/
theorem release_of_apply {e : Edit} {now : Int} (h : (e.apply now r).2 = .ok done) :
    done.release = e.release? := by
  obtain ⟨agent, user, change⟩ := e
  cases change with
  | stop scope => exact release_onPersona (fun p hp ↦ release_acceptFreeing hp) h
  | copy name => exact release_copy h
  | rename name => exact release_rename h
  | describe text => exact release_describe h
  | setModel ref => exact release_setModel h
  | setPrompt text => exact release_onPersona (fun p hp ↦ release_accept hp) h
  | delete => exact release_onPersona (fun p hp ↦ release_accept hp) h
  | editAt scope indices text => exact release_editAt h
  | deleteAt scope indices => exact release_deleteAt h
  | clear scope => exact release_onPersona (fun p hp ↦ release_acceptFreeing hp) h
  | clearPublic => exact release_acceptFreeing h
  | clearEverything => exact release_acceptFreeing h
  | create request => exact release_create h

end Edit

/-- What a stage frees, or frees once its edit is done. -/
def Stage.release? : Stage → Option Release
  | .edit e => e.release?
  | .release freed _ => some freed
  | _ => none

namespace Task

/-- The words of the commands that free conversations. -/
def freeingWords : List String :=
  [ActionKind.stop, .clearHistory, .clearAllPublic, .clearEverything].map ActionKind.word

/-- A task that frees something is a stop or a clearing. -/
def Entitled (t : Task) : Prop := t.stage.release?.isSome → t.action ∈ freeingWords

variable (env : Surroundings) (w : World) (t : Task)

private theorem release?_fail (failure : Failure) : (fail w t failure).2.release? = none := by
  cases failure <;> rfl

private theorem release?_runEdit (e : Edit) :
    (runEdit env w t e).2.release? = none ∨ (runEdit env w t e).2.release? = e.release? := by
  unfold runEdit
  split
  · next r failure _ => exact .inl (release?_fail { w with registry := r } t failure)
  · next r done h =>
    dsimp only
    split
    · next release hr =>
      have hd : done.release = e.release? := Edit.release_of_apply (congrArg Prod.snd h)
      exact .inr (hr.symm.trans hd)
    · exact .inl rfl

/-- A section comes to free only what it was to free before. -/
theorem release?_stepStage : (stepStage env w t).2.release? = none ∨
    (stepStage env w t).2.release? = t.stage.release? := by
  unfold stepStage
  split
  · next e hs =>
    rw [hs]
    exact release?_runEdit env w t e
  · exact .inl rfl
  · next i hs =>
    unfold runInspection
    split
    · next w failure _ => exact .inl (release?_fail w t failure)
    · exact .inl rfl
  · next g hs =>
    unfold runTalk
    split
    · exact .inl rfl
    · next failure _ => exact .inl (release?_fail w t failure)
    · exact .inl rfl
  · exact .inl rfl
  · unfold reportConfigured
    split <;> exact .inl rfl
  · exact .inl rfl
  · split <;> exact .inl rfl
  · unfold reportListed
    split <;> exact .inl rfl
  · exact .inl rfl
  · unfold reportFetched
    split <;> exact .inl rfl
  · exact .inl rfl
  · unfold reportDescribed
    split
    · exact .inl rfl
    · next failure _ => exact .inl (release?_fail w t failure)
  · exact .inl rfl
  · exact .inl rfl

/-- A task that proceeds stays entitled to what it frees. -/
theorem Entitled.step {t : Task} (h : t.Entitled) : (t.step env w).2.Entitled := by
  intro hf
  change ((stepStage env w t).2.release?).isSome at hf
  rcases release?_stepStage env w t with hn | hs
  · rw [hn] at hf
    cases hf
  · rw [hs] at hf
    exact h hf

/-- An answer frees nothing. -/
theorem Entitled.answer {t : Task} (h : t.Entitled) (a : Answer) : (t.answer a).Entitled := by
  intro hf
  apply h
  unfold Task.answer at hf
  dsimp only at hf
  split at hf
  any_goals cases hf
  exact hf

/-- A request comes in as a task that is entitled to what it frees. -/
theorem entitled_task (user prompt : String) (images : List Json) (request : Request) :
    (request.task user prompt images).Entitled := by
  intro hf
  cases request with
  | configure api => cases hf
  | create request => cases hf
  | command c =>
    change (firstStage c user prompt images).release?.isSome at hf
    change c.action.kind.word ∈ freeingWords
    unfold firstStage at hf
    dsimp only at hf
    cases hc : c.action <;> rw [hc] at hf
    case stop => decide
    case clearHistory scope =>
      show ActionKind.clearHistory.word ∈ freeingWords
      decide
    case clearAllPublic => decide
    case clearEverything => decide
    all_goals cases hf

end Task
end PersonaChat
