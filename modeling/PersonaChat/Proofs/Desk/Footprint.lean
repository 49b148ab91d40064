import Mathlib.Data.List.Forall2
import PersonaChat.Proofs.Desk.Evolution
import PersonaChat.Proofs.Desk.Texts

/-!
# Every request touches only what it names

`Touches` lists, request by request, all that may differ in the registry after a request of a user
has run without another one in between: the entry it names and the fields that change there, while
the other entries stay and keep their order. `Request.touches_only_what_it_names` says that the
registry differs in this way, or that it does not differ at all and the request did not end well.

Spec guidance: `SPEC_FULL.md`, lines 107–111 and 139–144.
-/

namespace PersonaChat

/-- Only the description of a persona differs. -/
def Persona.Redescribed (p p' : Persona Json) : Prop := ∃ text, p' = { p with description := text }

namespace Action

/-- The action shows something. -/
def Looks : Action → Prop
  | .list | .viewPrompt | .viewAll _ | .viewAt _ | .exportHistory _ | .help => True
  | _ => False

end Action

namespace Request

/-- What a request of a user makes of the registry when no other one comes in between. -/
inductive Touches (user : String) (now : Int) (r : Registry Json) :
    Request → Registry Json → Prop where
  /-- Talk changes the user's history in its scope, and the version. -/
  | talked {c : Command} {k : Nat} {p : Persona Json} {h : History Json}
      (action : c.action = .chat ∨ c.action = .regenerate) (found : r.Designates c.agent k p) :
      Touches user now r (.command c)
        { r with agents := r.agents.set k (p.setHistory (.ofPrivate c.privateReply) user h).bump }
  /-- A stop changes the version. -/
  | stopped {c : Command} {k : Nat} {p : Persona Json} (action : c.action = .stop)
      (found : r.Designates c.agent k p) :
      Touches user now r (.command c) { r with agents := r.agents.set k p.bump }
  /-- Editing and deleting messages change the user's history in the scope of the action, and the
  version. -/
  | revised {c : Command} {scope : Scope} {k : Nat} {p : Persona Json} {h : History Json}
      (action : c.action = .editAt scope ∨ c.action = .deleteAt scope)
      (found : r.Designates c.agent k p) :
      Touches user now r (.command c)
        { r with agents := r.agents.set k (p.setHistory scope user h).bump }
  /-- Deleting messages that are not there sets the history to what it is. -/
  | entered {c : Command} {scope : Scope} {k : Nat} {p : Persona Json}
      (action : c.action = .deleteAt scope) (found : r.Designates c.agent k p) :
      Touches user now r (.command c)
        { r with agents := r.agents.set k (p.setHistory scope user (p.history scope user)) }
  /-- Emptying a history changes that history, and the version. -/
  | cleared {c : Command} {scope : Scope} {k : Nat} {p : Persona Json}
      (action : c.action = .clearHistory scope) (found : r.Designates c.agent k p) :
      Touches user now r (.command c)
        { r with agents := r.agents.set k (p.clear scope user).bump }
  /-- A rename changes the name. -/
  | renamed {c : Command} {k : Nat} {p : Persona Json} (action : c.action = .rename)
      (found : r.Designates c.agent k p) :
      Touches user now r (.command c)
        { r with agents := r.agents.set k { p with name := .str c.args } }
  /-- Describing a persona changes the description. -/
  | described {c : Command} {k : Nat} {p : Persona Json} (action : c.action = .setDescription)
      (found : r.Designates c.agent k p) :
      Touches user now r (.command c)
        { r with agents := r.agents.set k { p with description := .str c.args } }
  /-- Choosing a model changes the model. -/
  | equipped {c : Command} {k : Nat} {p : Persona Json} {model : Json}
      (action : c.action = .setModel) (found : r.Designates c.agent k p) :
      Touches user now r (.command c)
        { r with agents := r.agents.set k { p with model := model } }
  /-- Setting the system prompt changes the system prompt. -/
  | prompted {c : Command} {k : Nat} {p : Persona Json} (action : c.action = .setPrompt)
      (found : r.Designates c.agent k p) :
      Touches user now r (.command c)
        { r with agents := r.agents.set k { p with systemPrompt := .str c.args } }
  /-- A copy comes last, without histories and with version 0. -/
  | copied {c : Command} {k : Nat} {p : Persona Json} (action : c.action = .copy)
      (found : r.Designates c.agent k p) :
      Touches user now r (.command c)
        (r.add (.fresh (.str c.args) p.model p.systemPrompt p.description now))
  /-- Deleting a persona takes its entry away. -/
  | removed {c : Command} {k : Nat} {p : Persona Json} (action : c.action = .delete)
      (found : r.Designates c.agent k p) :
      Touches user now r (.command c) { r with agents := r.agents.eraseIdx k }
  /-- Emptying all shared histories changes these, and the versions. -/
  | sharedCleared {c : Command} (action : c.action = .clearAllPublic) :
      Touches user now r (.command c) { r with agents := r.agents.map Persona.clearShared }
  /-- Emptying all histories changes these, and the versions. -/
  | allCleared {c : Command} (action : c.action = .clearEverything) :
      Touches user now r (.command c) { r with agents := r.agents.map Persona.clearAll }
  /-- Filling in descriptions changes descriptions. -/
  | filled {c : Command} {agents : List (Persona Json)}
      (action : ∃ model, c.action = .fillDescriptions model)
      (each : List.Forall₂ Persona.Redescribed r.agents agents) :
      Touches user now r (.command c) { r with agents := agents }
  /-- Listing the models changes the models that are known, and no persona. -/
  | listed {c : Command} {models : List Json} (action : c.action = .listModels) :
      Touches user now r (.command c) { r with models := models }
  /-- Showing something changes nothing. -/
  | looked {c : Command} (action : c.action.Looks) : Touches user now r (.command c) r
  /-- A history with a message that has no text cannot be shown; its messages stay what they are,
  but for what stands in place of a text. -/
  | spoiled {c : Command} {scope : Scope} {k : Nat} {p : Persona Json} {h : History Json}
      (action : c.action = .viewAll scope ∨ c.action = .viewAt scope)
      (found : r.Designates c.agent k p) (odd : ¬ (p.history scope user).Textual)
      (remains : List.Forall₂ Message.Remains (p.history scope user) h) :
      Touches user now r (.command c)
        { r with agents := r.agents.set k (p.setHistory scope user h) }
  /-- A new address and key of the provider change these, and the models that are known. -/
  | configured {api : Api String} {models : List Json} :
      Touches user now r (.configure api) { r.setApi (api.map .str) with models := models }
  /-- A request to create a persona that is there changes its model, system prompt and
  description. -/
  | updated {request : CreateRequest} {model : Option Json} {k : Nat} {p : Persona Json}
      (found : r.Designates request.name k p) :
      Touches user now r (.create request)
        { r with agents := r.agents.set k (Edit.updated p request model) }
  /-- A request to create a persona that is not there makes it the last one, without histories. -/
  | created {request : CreateRequest} {model : Option Json} :
      Touches user now r (.create request)
        (r.add (Edit.created r request request.name model now))

end Request

namespace Task

variable (env : Surroundings) (w : World) (t : Task)

/-! ### Edits -/

/-- How the task of an edit stands: the edit is still to be done, or it was carried out and nothing
more comes, or it failed. -/
inductive Edits (e : Edit) (w : World) (w' : World) : Stage → Prop where
  /-- The edit is still to be done. -/
  | waiting (same : w' = w) : Edits e w w' (.edit e)
  /-- The edit was carried out. -/
  | freeing {release : Release} {reply : String}
      (carries : e.Carries w.now w.registry w'.registry) : Edits e w w' (.release release reply)
  /-- The edit was carried out, and the user knows. -/
  | done {ending : Ending} (carries : e.Carries w.now w.registry w'.registry) :
      Edits e w w' (.ended ending)
  /-- The edit failed. -/
  | failed {ending : Ending} (residue : w'.registry = e.residue w.registry)
      (bad : ¬ (Stage.ended ending).EndsWell) : Edits e w w' (.ended ending)

private theorem edits_runEdit (e : Edit) :
    Edits e w (runEdit env w t e).1 (runEdit env w t e).2 := by
  have hfail (w' : World) (failure : Failure) (hr : w'.registry = e.residue w.registry) :
      Edits e w (fail w' t failure).1 (fail w' t failure).2 := by
    have hbad := (Stage.failed_iff.mp (failed_fail w' t failure)).2
    cases failure with
    | refused refusal => exact .failed hr hbad
    | crashed crash => exact .failed hr hbad
  have hcarries (done : EditDone) (h : (e.apply w.now w.registry).2 = .ok done) :=
    e.carries_of_apply w.now w.registry h
  have hresidue (failure : Failure) (h : (e.apply w.now w.registry).2 = .error failure) :=
    e.residue_of_apply w.now w.registry h
  unfold runEdit
  split
  · next r failure happly =>
    rw [happly] at hresidue
    exact hfail { w with registry := r } failure (hresidue failure rfl)
  · next r done happly =>
    rw [happly] at hcarries
    dsimp only
    split
    · refine .freeing ?_
      rw [World.registry_commit]
      exact hcarries done rfl
    · refine .done ?_
      rw [acknowledge, World.registry_say, World.registry_commit]
      exact hcarries done rfl

/-- What the task of an edit comes to. -/
theorem edits_run {e : Edit} (hs : t.stage = .edit e) (script : Script) :
    Edits e w (t.run env script w).1 (t.run env script w).2.stage := by
  refine run_of_step (P := fun w' t' ↦ Edits e w w' t'.stage) env ?_ ?_ script
    (by rw [hs]; exact .waiting rfl)
  · intro w' t' h
    obtain ⟨agent, action, user, textMode, stage⟩ := t'
    cases h with
    | waiting same =>
      rw [same]
      exact edits_runEdit env w _ e
    | freeing carries => exact .done carries
    | done carries => exact .done carries
    | failed residue bad => exact .failed residue bad
  · intro w' t' a h
    rw [answer_of_not_waiting]
    · exact h
    · obtain ⟨agent, action, user, textMode, stage⟩ := t'
      cases h <;> rfl

/-! ### Looks -/

/-- How the task that shows something stands. -/
inductive Looks (i : Inspection) (w : World) (user : String) (w' : World) : Task → Prop where
  /-- It is still to be shown. -/
  | waiting {t : Task} (stage : t.stage = .inspect i) (user_eq : t.user = user)
      (same : w'.registry = w.registry) : Looks i w user w' t
  /-- Nothing changed. -/
  | same {t : Task} {ending : Ending} (stage : t.stage = .ended ending)
      (same : w'.registry = w.registry) : Looks i w user w' t
  /-- The history that cannot be shown changed. -/
  | spoiled {t : Task} {ending : Ending} {agent : String} {scope : Scope} {k : Nat}
      {p : Persona Json} {h : History Json} (stage : t.stage = .ended ending)
      (shown : i.history? = some (agent, scope)) (found : w.registry.Designates agent k p)
      (odd : ¬ (p.history scope user).Textual)
      (remains : List.Forall₂ Message.Remains (p.history scope user) h)
      (registry : w'.registry =
        { w.registry with agents := w.registry.agents.set k (p.setHistory scope user h) }) :
      Looks i w user w' t

private theorem ended_runInspection (i : Inspection) :
    ∃ ending, (runInspection env w t i).2 = .ended ending := by
  unfold runInspection
  split
  · exact (Stage.failed_iff.mp (failed_fail _ t _)).1
  · exact ⟨_, rfl⟩

private theorem looks_runInspection {i : Inspection} {w' : World}
    (same : w'.registry = w.registry) :
    Looks i w t.user (runInspection env w' t i).1
      { t with stage := (runInspection env w' t i).2 } := by
  obtain ⟨ending, hending⟩ := ended_runInspection env w' t i
  have hspeaks := (speaks_runInspection env w' t i).registry
  rcases (i.shows_run env w' t.user t.textMode).registry with
    h | ⟨agent, scope, indices, k, p, crash, hshown, hd, hsome, h, -⟩
  · exact .same hending (hspeaks.trans (h.trans same))
  · rw [same] at hd h
    by_cases htext : (p.history scope t.user).Textual
    · refine .same hending (hspeaks.trans ?_)
      rw [h, htext.afterShowing, Persona.setHistory_history_of_ne_nil _ _ hsome,
        Registry.set_of_designates hd]
    · exact .spoiled hending hshown hd htext
        (View.remains_historyAfterShowing _ indices t.textMode)
        (hspeaks.trans h)

/-- What the task that shows something comes to. -/
theorem looks_run {i : Inspection} (hs : t.stage = .inspect i) (script : Script) :
    Looks i w t.user (t.run env script w).1 (t.run env script w).2 := by
  refine run_of_step (P := fun w' t' ↦ Looks i w t.user w' t') env ?_ ?_ script
    (.waiting hs rfl rfl)
  · intro w' t' h
    cases h with
    | waiting stage user_eq same =>
      rw [← user_eq, step, stepStage, stage]
      exact looks_runInspection env w t' same
    | same stage same =>
      rw [step, stepStage, stage]
      exact .same rfl same
    | spoiled stage shown found odd remains registry =>
      rw [step, stepStage, stage]
      exact .spoiled rfl shown found odd remains registry
  · intro w' t' a h
    rw [answer_of_not_waiting]
    · exact h
    · cases h with
      | waiting stage | same stage | spoiled stage => rw [query?, stage]

/-! ### Models -/

/-- Only the models that are known differ. -/
def Remodels (r r' : Registry Json) : Prop :=
  ∃ models : List Json, r' = { r with models := models }

private theorem Remodels.refl (r : Registry Json) : Remodels r r := ⟨r.models, rfl⟩

private theorem Remodels.fetch {r : Registry Json} {w' : World} (h : Remodels r w'.registry)
    (f : Fetch) :
    Remodels r (f.step env w').1.registry := by
  obtain ⟨models, h⟩ := h
  rcases f.step_cases env w' with hs | ⟨models', hs⟩
  · exact ⟨models, hs.registry.trans h⟩
  · refine ⟨models'.map .str, ?_⟩
    rw [hs.registry, World.registry_commit, h]

/-- How the task of a new address and key stands. -/
inductive Configures (api : Api String) (r : Registry Json) (w' : World) : Stage → Prop where
  /-- They are still to be stored. -/
  | waiting (same : w'.registry = r) : Configures api r w' (.configure api)
  /-- They are stored, and the models are fetched. -/
  | fetching {f : Fetch} (remodels : Remodels (r.setApi (api.map .str)) w'.registry) :
      Configures api r w' (.configuring f)
  /-- They are stored, and nothing more comes. -/
  | done {ending : Ending} (remodels : Remodels (r.setApi (api.map .str)) w'.registry) :
      Configures api r w' (.ended ending)

private theorem configures_report {api : Api String} {r : Registry Json} {w' : World}
    (h : Remodels (r.setApi (api.map .str)) w'.registry) (result : Except Failure (List String)) :
    Configures api r (reportConfigured w' result).1 (reportConfigured w' result).2 := by
  rcases result with (refusal | crash) | names <;> exact .done h

/-- What the task of a new address and key comes to. -/
theorem configures_run {api : Api String} (hs : t.stage = .configure api) (script : Script) :
    Configures api w.registry (t.run env script w).1 (t.run env script w).2.stage := by
  refine run_of_step (P := fun w' t' ↦ Configures api w.registry w' t'.stage) env ?_ ?_ script
    (by rw [hs]; exact .waiting rfl)
  · intro w' t' h
    obtain ⟨agent, action, user, textMode, stage⟩ := t'
    cases h with
    | waiting same =>
      rw [step, stepStage]
      refine .fetching ⟨w.registry.models, ?_⟩
      rw [World.registry_say, World.registry_commit, same]
      rfl
    | @fetching f remodels =>
      cases f with
      | asked => exact .fetching (remodels.fetch env .asked)
      | waiting api => exact .fetching (remodels.fetch env (.waiting api))
      | answered result => exact .fetching (remodels.fetch env (.answered result))
      | finished result => exact configures_report remodels result
    | done remodels => exact .done remodels
  · intro w' t' a h
    obtain ⟨agent, action, user, textMode, stage⟩ := t'
    cases h with
    | waiting same => cases a <;> exact .waiting same
    | fetching remodels => cases a <;> exact .fetching remodels
    | done remodels => cases a <;> exact .done remodels

/-- How the task that lists the models stands. -/
inductive Lists (r : Registry Json) (w' : World) : Stage → Prop where
  /-- It is still to be seen whether models are known. -/
  | waiting (remodels : Remodels r w'.registry) : Lists r w' .list
  /-- The models are fetched. -/
  | fetching {f : Fetch} (remodels : Remodels r w'.registry) : Lists r w' (.listing f)
  /-- The models are to be shown. -/
  | showing (remodels : Remodels r w'.registry) : Lists r w' (.inspect .models)
  /-- Nothing more comes. -/
  | done {ending : Ending} (remodels : Remodels r w'.registry) : Lists r w' (.ended ending)

private theorem lists_report {r : Registry Json} {w' : World} (h : Remodels r w'.registry)
    (result : Except Failure (List String)) :
    Lists r (reportListed w' t result).1 (reportListed w' t result).2 := by
  rcases result with (refusal | crash) | names
  · exact .done h
  · exact .done h
  · exact .showing h

private theorem lists_runInspection {r : Registry Json} {w' : World} (h : Remodels r w'.registry) :
    Lists r (runInspection env w' t .models).1 (runInspection env w' t .models).2 := by
  obtain ⟨ending, hending⟩ := ended_runInspection env w' t .models
  have hspeaks := (speaks_runInspection env w' t .models).registry
  have hsame : (Inspection.run env w' t.user t.textMode .models).1.registry = w'.registry := by
    rcases (Inspection.models.shows_run env w' t.user t.textMode).registry with hr |
      ⟨_, _, _, _, _, _, hr, -⟩
    · exact hr
    · cases hr
  rw [hending]
  refine .done ?_
  rw [hspeaks, hsame]
  exact h

/-- What the task that lists the models comes to. -/
theorem lists_run (hs : t.stage = .list) (script : Script) :
    Lists w.registry (t.run env script w).1 (t.run env script w).2.stage := by
  refine run_of_step (P := fun w' t' ↦ Lists w.registry w' t'.stage) env ?_ ?_ script
    (by rw [hs]; exact .waiting (.refl _))
  · intro w' t' h
    obtain ⟨agent, action, user, textMode, stage⟩ := t'
    cases h with
    | waiting remodels =>
      rw [step, stepStage]
      dsimp only
      split
      · exact .fetching remodels
      · exact .showing remodels
    | @fetching f remodels =>
      cases f with
      | asked => exact .fetching (remodels.fetch env .asked)
      | waiting api => exact .fetching (remodels.fetch env (.waiting api))
      | answered result => exact .fetching (remodels.fetch env (.answered result))
      | finished result => exact lists_report _ remodels result
    | showing remodels => exact lists_runInspection env _ remodels
    | done remodels => exact .done remodels
  · intro w' t' a h
    obtain ⟨agent, action, user, textMode, stage⟩ := t'
    cases h with
    | waiting remodels => cases a <;> exact .waiting remodels
    | fetching remodels => cases a <;> exact .fetching remodels
    | showing remodels => cases a <;> exact .showing remodels
    | done remodels => cases a <;> exact .done remodels

/-! ### Descriptions -/

/-- Only descriptions differ. -/
def Fills (r r' : Registry Json) : Prop :=
  ∃ agents, List.Forall₂ Persona.Redescribed r.agents agents ∧ r' = { r with agents := agents }

private theorem Fills.refl (r : Registry Json) : Fills r r :=
  ⟨r.agents, List.forall₂_same.mpr fun p _ ↦ ⟨p.description, rfl⟩, rfl⟩

private theorem redescribed_set {ps qs : List (Persona Json)}
    (h : List.Forall₂ Persona.Redescribed ps qs) {k : Nat} {q : Persona Json}
    (hq : qs[k]? = some q)
    (text : Json) :
    List.Forall₂ Persona.Redescribed ps (qs.set k { q with description := text }) := by
  induction h generalizing k with
  | nil => exact .nil
  | @cons p q' ps qs hp hps ih =>
    cases k with
    | zero =>
      cases hq
      obtain ⟨text', rfl⟩ := hp
      exact .cons ⟨text, rfl⟩ hps
    | succ k => exact .cons hp (ih hq)

private theorem Fills.step {r : Registry Json} {w' : World} (h : Fills r w'.registry)
    (d : Describing) :
    Fills r (d.step env w').1.registry := by
  rcases d.step_cases env w' with hs | ⟨run, name, content, k, p, -, hd, hs⟩
  · rw [hs.registry]
    exact h
  · obtain ⟨agents, heach, hr⟩ := h
    have hp : agents[k]? = some p := by rw [← hd.stands, hr]
    rw [hs, World.registry_commit, hr]
    exact ⟨agents.set k { p with description := .str (Describing.polish content) },
      redescribed_set heach hp _, rfl⟩

/-- How the task that fills in descriptions stands. -/
inductive Describes (r : Registry Json) (w' : World) : Stage → Prop where
  /-- There are more to come. -/
  | going {d : Describing} (fills : Fills r w'.registry) : Describes r w' (.describe d)
  /-- Nothing more comes. -/
  | done {ending : Ending} (fills : Fills r w'.registry) : Describes r w' (.ended ending)

private theorem describes_report {r : Registry Json} {w' : World} (h : Fills r w'.registry)
    (result : Except Failure String) :
    Describes r (reportDescribed w' t result).1 (reportDescribed w' t result).2 := by
  rcases result with (refusal | crash) | text <;> exact .done h

/-- What the task that fills in descriptions comes to. -/
theorem describes_run {d : Describing} (hs : t.stage = .describe d) (script : Script) :
    Describes w.registry (t.run env script w).1 (t.run env script w).2.stage := by
  refine run_of_step (P := fun w' t' ↦ Describes w.registry w' t'.stage) env ?_ ?_ script
    (by rw [hs]; exact .going (.refl _))
  · intro w' t' h
    obtain ⟨agent, action, user, textMode, stage⟩ := t'
    cases h with
    | @going d fills =>
      cases d with
      | finished result => exact describes_report _ fills result
      | asked ref => exact .going (fills.step env (.asked ref))
      | surveyed model targets => exact .going (fills.step env (.surveyed model targets))
      | going run => exact .going (fills.step env (.going run))
      | waiting run persona request => exact .going (fills.step env (.waiting run persona request))
      | answered run persona result => exact .going (fills.step env (.answered run persona result))
    | done fills => exact .done fills
  · intro w' t' a h
    obtain ⟨agent, action, user, textMode, stage⟩ := t'
    cases h with
    | going fills => cases a <;> exact .going fills
    | done fills => cases a <;> exact .done fills

/-! ### Talk -/

/-- A history of the persona that is talked to differs, and the version is counted up; the persona
has a given name. -/
def Talks (talk : Talk) (r r' : Registry Json) (name : String) : Prop :=
  ∃ k p h, r.Designates talk.agent k p ∧ p.name = .str name ∧ r' = { r with
    agents := r.agents.set k (p.setHistory talk.scope talk.user h).bump }

/-- What a generation has made of the registry, by its phase. -/
def Tells (talk : Talk) (r r' : Registry Json) : Phase → Prop
  | .asked | .admitted _ | .occupied .. | .rejected .. => r' = r
  | .started ticket | .waiting ticket | .answered ticket _ | .freed ticket _
  | .stored ticket _ _ =>
    Talks talk r r' ticket.persona
  | .finished (.error _) => r' = r ∨ ∃ name, Talks talk r r' name
  | .finished (.ok _) => ∃ name, Talks talk r r' name

variable {talk : Talk} {r : Registry Json} {w' : World}

private theorem tells_begin (api : Api Json) (token : Nat) (same : w'.registry = r) :
    Tells talk r (Generation.begin env w' talk api token).1.registry
      (Generation.begin env w' talk api token).2 := by
  rcases Generation.begin_cases env w' talk api token with
    ⟨crash, -, hb⟩ | ⟨refusal, hb⟩ | ⟨k, p, h, hd, -, hb⟩
  · rw [hb]
    exact .inl same
  · rw [hb]
    exact same
  · rw [hb, World.registry_commit, same]
    rw [same] at hd
    obtain ⟨s, hs, -⟩ := hd.named
    exact ⟨k, p, h, hd, by rw [hs]; rfl, rfl⟩

/-- Nobody else changes a persona while its only generation waits, so the answer comes to it. -/
private theorem tells_complete {ticket : Ticket} (content : Option String)
    (h : Talks talk r w'.registry ticket.persona) :
    Tells talk r (Generation.complete env w' talk ticket content).1.registry
      (Generation.complete env w' talk ticket content).2 := by
  rcases Generation.complete_cases env w' talk ticket content with
    ⟨c, k, p, rfl, hd, hv⟩ | ⟨log, result, hc, -⟩
  · have hc := Generation.complete_of_current env w' talk c hd hv
    obtain ⟨j, q, history, hq, hname, hr⟩ := h
    have hlower : Text.lowerString ticket.persona = Text.lowerString talk.agent := by
      obtain ⟨s, hs, hl⟩ := hq.named
      rw [hname] at hs
      cases hs
      exact hl
    have hset :
        w'.registry.Designates talk.agent j (q.setHistory talk.scope talk.user history).bump := by
      rw [hr]
      exact hq.set_self (by simp)
    obtain ⟨rfl, rfl⟩ := hset.unique (hd.congr hlower)
    rw [hc]
    refine ⟨j, q, history ++ [.ofAssistant c w'.now], hq, hname, ?_⟩
    rw [World.registry_commit, hr]
    simp only [List.set_set, Persona.append, Persona.history_bump, Persona.history_setHistory,
      Persona.setHistory_bump, Persona.setHistory_setHistory]
  · rw [hc]
    cases result with
    | error failure => exact .inr ⟨ticket.persona, h⟩
    | ok outcome => exact ⟨ticket.persona, h⟩

private theorem tells_step {g : Generation} (h : Tells g.talk r w'.registry g.phase) :
    Tells g.talk r (g.step env w').1.registry (g.step env w').2.phase := by
  obtain ⟨talk, phase⟩ := g
  cases phase with
  | asked =>
    show Tells talk r w'.registry (Generation.enter w' talk)
    unfold Generation.enter
    split
    · exact .inl h
    · exact .inl h
    · split
      · exact h
      · exact .inl h
  | admitted api =>
    show Tells talk r (Generation.occupy w' talk api).1.registry (Generation.occupy w' talk api).2
    unfold Generation.occupy
    split
    · exact h
    · exact .inl h
  | occupied api token => exact tells_begin env api token h
  | rejected token refusal => exact .inl h
  | started ticket =>
    show Tells talk r (Generation.ask env w' talk ticket).1.registry
      (Generation.ask env w' talk ticket).2
    rw [Generation.registry_ask]
    rcases Generation.phase_ask env w' talk ticket with hp | ⟨result, hp⟩
    · rw [hp]
      exact h
    · rw [hp]
      exact h
  | waiting ticket => exact h
  | answered ticket result =>
    show Talks talk r (Generation.release (Generation.noteTimeout env w' talk result) talk
      ticket.token).registry ticket.persona
    rw [Generation.registry_release, Generation.registry_noteTimeout]
    exact h
  | freed ticket result =>
    rcases result with failure | content
    · exact .inr ⟨_, h⟩
    · exact tells_complete env content h
  | stored ticket index content =>
    refine ⟨ticket.persona, ?_⟩
    show Talks talk r (Generation.reply env w' talk ticket index content).registry ticket.persona
    rw [Generation.registry_reply]
    exact h
  | finished result => exact h

/-- How the task of a talk stands. -/
inductive Talking (talk : Talk) (r : Registry Json) (w' : World) : Stage → Prop where
  /-- The generation goes on. -/
  | going {g : Generation} (talk_eq : g.talk = talk) (tells : Tells talk r w'.registry g.phase) :
      Talking talk r w' (.talk g)
  /-- The history differs. -/
  | done {ending : Ending} {name : String} (talks : Talks talk r w'.registry name) :
      Talking talk r w' (.ended ending)
  /-- Nothing differs. -/
  | failed {ending : Ending} (same : w'.registry = r) (bad : ¬ (Stage.ended ending).EndsWell) :
      Talking talk r w' (.ended ending)

private theorem talking_runTalk {g : Generation} (htalk : g.talk = talk)
    (h : Tells talk r w'.registry g.phase) :
    Talking talk r (runTalk env w' t g).1 (runTalk env w' t g).2 := by
  unfold runTalk
  split
  · next outcome hp =>
    rw [hp] at h
    obtain ⟨name, h⟩ := h
    exact .done h
  · next failure hp =>
    rw [hp] at h
    obtain ⟨⟨ending, hending⟩, hbad⟩ := Stage.failed_iff.mp (failed_fail w' t failure)
    rw [hending] at hbad ⊢
    rcases h with h | ⟨name, h⟩
    · exact .failed (by rw [registry_fail]; exact h) hbad
    · exact .done (by rw [registry_fail]; exact h)
  · subst htalk
    exact .going rfl (tells_step env h)

/-- What the task of a talk comes to. -/
theorem talking_run {g : Generation} (hs : t.stage = .talk g) (hg : g.phase = .asked)
    (script : Script) :
    Talking g.talk w.registry (t.run env script w).1 (t.run env script w).2.stage := by
  refine run_of_step (P := fun w' t' ↦ Talking g.talk w.registry w' t'.stage) env ?_ ?_ script
    (by rw [hs]; exact .going rfl (by rw [hg]; rfl))
  · intro w' t' h
    obtain ⟨agent, action, user, textMode, stage⟩ := t'
    cases h with
    | going talk_eq tells => exact talking_runTalk env _ talk_eq tells
    | done talks => exact .done talks
    | failed same bad => exact .failed same bad
  · intro w' t' a h
    obtain ⟨agent, action, user, textMode, stage⟩ := t'
    cases h with
    | @going g' talk_eq tells =>
      obtain ⟨talk', phase⟩ := g'
      cases a with
      | models result => exact .going talk_eq tells
      | chat result => cases phase <;> exact .going talk_eq tells
    | done talks => cases a <;> exact .done talks
    | failed same bad => cases a <;> exact .failed same bad

end Task

namespace Request

variable {user prompt : String} {images : List Json} {now : Int} {r r' : Registry Json}

/-- An edit that is carried out touches what its command names. -/
private theorem touches_of_carries {c : Command} {e : Edit}
    (hs : Task.firstStage c user prompt images = .edit e) (h : e.Carries now r r') :
    Touches user now r (.command c) r' := by
  obtain ⟨agent, action, args, indices, privateReply, textMode⟩ := c
  cases action with
  | stop => cases hs; cases h with | stopped hd => exact .stopped rfl hd
  | copy => cases hs; cases h with | copied hd => exact .copied rfl hd
  | rename => cases hs; cases h with | renamed hd => exact .renamed rfl hd
  | setDescription => cases hs; cases h with | described hd => exact .described rfl hd
  | setModel => cases hs; cases h with | equipped hd => exact .equipped rfl hd
  | setPrompt => cases hs; cases h with | prompted hd => exact .prompted rfl hd
  | delete => cases hs; cases h with | removed hd => exact .removed rfl hd
  | clearHistory scope => cases hs; cases h with | cleared hd => exact .cleared rfl hd
  | clearAllPublic => cases hs; cases h with | sharedCleared => exact .sharedCleared rfl
  | clearEverything => cases hs; cases h with | allCleared => exact .allCleared rfl
  | deleteAt scope => cases hs; cases h with | thinned hd => exact .revised (.inr rfl) hd
  | editAt scope => cases hs; cases h with | reworded _ hd => exact .revised (.inl rfl) hd
  | _ => cases hs

/-- What an edit that fails leaves is what its command may touch, or nothing. -/
private theorem touches_of_residue {c : Command} {e : Edit}
    (hs : Task.firstStage c user prompt images = .edit e) (h : r' = e.residue r) :
    Touches user now r (.command c) r' ∨ r' = r := by
  subst h
  obtain ⟨agent, action, args, indices, privateReply, textMode⟩ := c
  cases action with
  | deleteAt scope =>
    cases hs
    cases indices with
    | nil => exact .inr rfl
    | cons index rest =>
      by_cases hd : ∃ k p, r.Designates agent k p
      · obtain ⟨k, p, hd⟩ := hd
        left
        show Touches user now r _
          (r.update agent fun p ↦ p.setHistory scope user (p.history scope user))
        rw [Registry.update_of_designates hd]
        exact .entered rfl hd
      · exact .inr (Registry.update_of_not_designates (fun k p hp ↦ hd ⟨k, p, hp⟩) _)
  | _ => cases hs <;> exact .inr rfl

/-- A request has made of the registry what it may, or nothing and has not ended well. -/
def Confined (user : String) (w : World) (request : Request) (w' : World) (stage : Stage) : Prop :=
  Touches user w.now w.registry request w'.registry ∨
    w'.registry = w.registry ∧ ¬ stage.EndsWell

variable (env : Surroundings) (w : World) (t : Task) (script : Task.Script)

private theorem confined_edit (request : Request) {e : Edit} (hs : t.stage = .edit e)
    (hcarries : ∀ r', e.Carries w.now w.registry r' → Touches user w.now w.registry request r')
    (hresidue : ∀ r', r' = e.residue w.registry →
      Touches user w.now w.registry request r' ∨ r' = w.registry) :
    Confined user w request (t.run env script w).1 (t.run env script w).2.stage := by
  have h := t.edits_run env w hs script
  generalize (t.run env script w).2.stage = stage at h ⊢
  cases h with
  | waiting same => exact .inr ⟨by rw [same], id⟩
  | freeing carries => exact .inl (hcarries _ carries)
  | done carries => exact .inl (hcarries _ carries)
  | failed residue bad =>
    rcases hresidue _ residue with h | h
    · exact .inl h
    · exact .inr ⟨h, bad⟩

private theorem confined_look {c : Command} {i : Inspection}
    (hs : Task.firstStage c user prompt images = .inspect i) (hlooks : c.action.Looks)
    (hshown : ∀ agent scope, i.history? = some (agent, scope) → agent = c.agent ∧
      (c.action = .viewAll scope ∨ c.action = .viewAt scope)) :
    Confined user w (.command c) ((Task.ofCommand c user prompt images).run env script w).1
      ((Task.ofCommand c user prompt images).run env script w).2.stage := by
  have looked {w' : World} {stage : Stage} (same : w'.registry = w.registry) :
      Confined user w (.command c) w' stage := by
    left
    rw [same]
    exact .looked hlooks
  cases (Task.ofCommand c user prompt images).looks_run env w hs script with
  | waiting stage user_eq same => exact looked same
  | same stage same => exact looked same
  | spoiled stage shown found odd remains registry =>
    obtain ⟨rfl, haction⟩ := hshown _ _ shown
    left
    rw [registry]
    exact .spoiled haction found odd remains

private theorem confined_talk {c : Command} {g : Generation}
    (hs : Task.firstStage c user prompt images = .talk g) (hg : g.phase = .asked)
    (haction : c.action = .chat ∨ c.action = .regenerate) (hagent : g.talk.agent = c.agent)
    (hscope : g.talk.scope = .ofPrivate c.privateReply) (huser : g.talk.user = user) :
    Confined user w (.command c) ((Task.ofCommand c user prompt images).run env script w).1
      ((Task.ofCommand c user prompt images).run env script w).2.stage := by
  have talked {r' : Registry Json} {name : String} (h : Task.Talks g.talk w.registry r' name) :
      Touches user w.now w.registry (.command c) r' := by
    obtain ⟨k, p, history, hd, -, rfl⟩ := h
    rw [hagent] at hd
    rw [hscope, huser]
    exact .talked haction hd
  have h := (Task.ofCommand c user prompt images).talking_run env w hs hg script
  generalize ((Task.ofCommand c user prompt images).run env script w).2.stage = stage at h ⊢
  cases h with
  | @going g' talk_eq tells =>
    -- A task that still waits for an answer has not ended well.
    obtain ⟨talk, phase⟩ := g'
    subst talk_eq
    cases phase with
    | asked | admitted | occupied | rejected => exact .inr ⟨tells, id⟩
    | started | waiting | answered | freed | stored => exact .inl (talked tells)
    | finished result =>
      cases result with
      | error failure =>
        rcases tells with h | ⟨name, h⟩
        · exact .inr ⟨h, id⟩
        · exact .inl (talked h)
      | ok outcome =>
        obtain ⟨name, h⟩ := tells
        exact .inl (talked h)
  | done talks => exact .inl (talked talks)
  | failed same bad => exact .inr ⟨same, bad⟩

private theorem confined_configure {api : Api String} (hs : t.stage = .configure api) :
    Confined user w (.configure api) (t.run env script w).1 (t.run env script w).2.stage := by
  have h := t.configures_run env w hs script
  have configured {r' : Registry Json} (h : Task.Remodels (w.registry.setApi (api.map .str)) r') :
      Touches user w.now w.registry (.configure api) r' := by
    obtain ⟨models, rfl⟩ := h
    exact .configured
  generalize (t.run env script w).2.stage = stage at h ⊢
  cases h with
  | waiting same => exact .inr ⟨same, id⟩
  | fetching remodels => exact .inl (configured remodels)
  | done remodels => exact .inl (configured remodels)

private theorem touches_of_list {c : Command} (hs : t.stage = .list)
    (haction : c.action = .listModels) :
    Touches user w.now w.registry (.command c) (t.run env script w).1.registry := by
  have remodels : Task.Remodels w.registry (t.run env script w).1.registry := by
    have h := t.lists_run env w hs script
    generalize (t.run env script w).2.stage = stage at h
    cases h <;> assumption
  obtain ⟨models, hr⟩ := remodels
  rw [hr]
  exact .listed haction

private theorem touches_of_describe {c : Command} {d : Describing} (hs : t.stage = .describe d)
    (haction : ∃ model, c.action = .fillDescriptions model) :
    Touches user w.now w.registry (.command c) (t.run env script w).1.registry := by
  have fills : Task.Fills w.registry (t.run env script w).1.registry := by
    have h := t.describes_run env w hs script
    generalize (t.run env script w).2.stage = stage at h
    cases h <;> assumption
  obtain ⟨agents, heach, hr⟩ := fills
  rw [hr]
  exact .filled haction heach

/-- A request that has run without another one in between has made of the registry only what
`Touches` allows to it; a registry that it did not touch is the same, and then the request did not
end well. -/
theorem touches_only_what_it_names (request : Request) (user prompt : String)
    (images : List Json) :
    Touches user w.now w.registry request
        ((request.task user prompt images).run env script w).1.registry ∨
      ((request.task user prompt images).run env script w).1.registry = w.registry ∧
        ¬ ((request.task user prompt images).run env script w).2.stage.EndsWell := by
  change Confined user w request _ _
  cases request with
  | configure api => exact confined_configure env w _ script rfl
  | create request =>
    refine confined_edit env w _ script (.create request) rfl (fun r' hc ↦ ?_)
      (fun r' hr ↦ .inr hr)
    cases hc with
    | updated found => exact .updated found
    | created => exact .created
  | command c =>
    have edit {e : Edit} (hs : Task.firstStage c user prompt images = .edit e) :
        Confined user w (.command c)
          ((Request.task user prompt images (.command c)).run env script w).1
          ((Request.task user prompt images (.command c)).run env script w).2.stage :=
      confined_edit env w _ script (.command c) hs (fun _ ↦ touches_of_carries hs)
        (fun _ ↦ touches_of_residue hs)
    obtain ⟨agent, action, args, indices, privateReply, textMode⟩ := c
    cases action with
    | chat => exact confined_talk env w script rfl rfl (.inl rfl) rfl rfl rfl
    | regenerate => exact confined_talk env w script rfl rfl (.inr rfl) rfl rfl rfl
    | listModels => exact .inl (touches_of_list env w _ script rfl rfl)
    | fillDescriptions model =>
      exact .inl (touches_of_describe env w _ script rfl ⟨model, rfl⟩)
    | list | viewPrompt | exportHistory | help =>
      exact confined_look env w script rfl trivial fun _ _ h ↦ by cases h
    | viewAll scope =>
      refine confined_look env w script rfl trivial fun _ _ h ↦ ?_
      cases h
      exact ⟨rfl, .inl rfl⟩
    | viewAt scope =>
      refine confined_look env w script rfl trivial fun _ _ h ↦ ?_
      cases h
      exact ⟨rfl, .inr rfl⟩
    | _ => exact edit rfl

end Request
end PersonaChat
