import PersonaChat.Desk.Task
import PersonaChat.Proofs.Desk.Alike
import PersonaChat.Proofs.View.Listing

/-!
# Steps in worlds that are alike

What is shown to a user whose histories the viewer sees, a step of such a user's command, a step of
fetching models or of describing personas: in worlds that are alike each comes out the same.
-/

namespace PersonaChat

open World

variable {env : Surroundings} {l : Likeness env} {w w' : World} {user : String}

namespace Inspection

private theorem acknowledge_like (h : w.Like l w') (text : String) :
    LikeWith l (acknowledge w text) (acknowledge w' text) :=
  (h.say text).returning _

private theorem refuse_like (h : w.Like l w') (refusal : Refusal) :
    LikeWith l (refuse w refusal) (refuse w' refusal) :=
  h.returning _

private theorem showText_like (h : w.Like l w') (textMode : Bool) (title content : String) :
    LikeWith l (showText env w textMode title content) (showText env w' textMode title content) :=
  (h.present content textMode title).returning _

private theorem attempt_like {α : Type} (h : w.Like l w') (value : Except Crash α)
    {go go' : α → Result}
    (hgo : ∀ a, LikeWith l (go a) (go' a)) :
    LikeWith l (attempt w value go) (attempt w' value go') := by
  cases value with
  | error crash => exact h.returning _
  | ok a => exact hgo a

/-- A history that cannot be shown is left by the attempt as the viewer sees it. -/
theorem attemptShowing_like {α : Type} (h : w.Like l w') (hu : Sees l.viewer user) (agent : String)
    (scope : Scope) (indices : List Int) (textMode : Bool) (shown : Except Crash α)
    {go go' : α → Result} (hgo : ∀ a, LikeWith l (go a) (go' a)) :
    LikeWith l (attemptShowing w agent user scope indices textMode shown go)
      (attemptShowing w' agent user scope indices textMode shown go') := by
  cases shown with
  | error crash =>
    refine (h.withRegistry ?_).returning _
    apply Registry.update_shownTo h.registry agent
    intro p p' hp
    dsimp only
    rw [Persona.history_eq_of_shownTo hp hu scope]
    split
    · exact hp
    · exact Persona.setHistory_shownTo hp hu scope _
  | ok a => exact hgo a

private theorem onPersona_like (h : w.Like l w') (agent : String)
    {look look' : Persona Json → Result}
    (hlook : ∀ p p', w.registry.find? agent = .ok (some p) →
      p.shownTo l.viewer = p'.shownTo l.viewer → LikeWith l (look p) (look' p')) :
    LikeWith l (onPersona w agent look) (onPersona w' agent look') := by
  unfold onPersona
  obtain ⟨crash, hf, hf'⟩ | ⟨hf, hf'⟩ | ⟨p, p', hf, hf', hp⟩ :=
    Registry.find?_cases h.registry agent
  · rw [hf, hf']
    exact h.returning _
  · rw [hf, hf']
    exact refuse_like h _
  · rw [hf, hf']
    exact hlook p p' hf hp

private theorem showPrompt_like (h : w.Like l w') (textMode : Bool) (agent : String) :
    LikeWith l (showPrompt env w textMode agent) (showPrompt env w' textMode agent) := by
  apply onPersona_like h
  intro p p' _ hp
  rw [Persona.systemPrompt_eq_of_shownTo hp, Persona.name_eq_of_shownTo hp,
    Persona.model_eq_of_shownTo hp]
  split
  · exact (h.emit _).returning _
  · exact showText_like h _ _ _

private theorem showPersonas_like (h : w.Like l w') (textMode : Bool) :
    LikeWith l (showPersonas env w textMode) (showPersonas env w' textMode) := by
  have hshown : View.personas w.registry.agents = View.personas w'.registry.agents := by
    rw [← View.personas_shownTo l.viewer, ← View.personas_shownTo l.viewer w'.registry.agents,
      Registry.agents_eq_of_shownTo h.registry]
  unfold showPersonas
  dsimp only
  rw [hshown, h.length_agents, h.isEmpty_agents]
  apply attempt_like h
  intro content
  split
  · exact acknowledge_like h _
  · exact showText_like h _ _ _

private theorem showModels_like (h : w.Like l w') (textMode : Bool) :
    LikeWith l (showModels env w textMode) (showModels env w' textMode) := by
  have hshown : View.models env.keywords w.registry.models w.registry.agents =
      View.models env.keywords w'.registry.models w'.registry.agents := by
    rw [← View.models_shownTo l.viewer, ← View.models_shownTo l.viewer _ _ w'.registry.agents,
      Registry.agents_eq_of_shownTo h.registry, h.models]
  unfold showModels
  dsimp only
  rw [hshown, h.models]
  apply attempt_like h
  intro content
  split
  · exact acknowledge_like h _
  · exact showText_like h _ _ _

private theorem showHistory_like (h : w.Like l w') (hu : Sees l.viewer user) (textMode : Bool)
    (agent : String) (scope : Scope) :
    LikeWith l (showHistory env w textMode user agent scope)
      (showHistory env w' textMode user agent scope) := by
  apply onPersona_like h
  intro p p' _ hp
  dsimp only
  rw [Persona.history_eq_of_shownTo hp hu scope]
  split
  · exact acknowledge_like h _
  · apply attemptShowing_like h hu
    intro content
    exact showText_like h _ _ _

private theorem showPositions_like (h : w.Like l w') (hu : Sees l.viewer user) (textMode : Bool)
    (agent : String) (scope : Scope) (indices : List Int) :
    LikeWith l (showPositions env w textMode user agent scope indices)
      (showPositions env w' textMode user agent scope indices) := by
  unfold showPositions
  split
  · exact refuse_like h _
  · apply onPersona_like h
    intro p p' _ hp
    dsimp only
    rw [Persona.history_eq_of_shownTo hp hu scope]
    apply attemptShowing_like h hu
    intro shown
    split
    · exact refuse_like h _
    · apply attempt_like h
      intro pictures
      obtain ⟨u, u', sent, hs, hs', hu⟩ := ((h.present (View.rule.intercalate shown) textMode
        (agent ++ " 历史记录")).sendImages pictures).cases
      rw [hs, hs']
      cases sent with
      | ok _ => exact hu.returning _
      | error crash => exact hu.returning _

private theorem sendFile_like (h : w.Like l w') {name : String} (hname : l.Exported name)
    (content : String) :
    LikeWith l (sendFile env w name content) (sendFile env w' name content) := by
  unfold sendFile
  dsimp only
  obtain ⟨failure, he, he'⟩ | ⟨d, d', he, he', hd⟩ := l.folder h.stored hname
  · rw [he, he']
    exact refuse_like h _
  · rw [he, he']
    dsimp only
    split
    · exact (h.withDisk hd).returning _
    · obtain ⟨fault, hw, hw'⟩ | ⟨e, e', hw, hw', he⟩ := l.file hd hname (Text.encode content)
      · rw [hw, hw']
        exact refuse_like (h.withDisk hd) _
      · rw [hw, hw']
        dsimp only
        split
        · exact refuse_like ((h.withDisk he).emit _) _
        · exact acknowledge_like ((h.withDisk he).emit _) _

/-- What an export of a user is called is a name that is exported alike. -/
def ExportsAlike (l : Likeness env) (w : World) (user agent : String) (scope : Scope) : Prop :=
  ∀ p name, w.registry.find? agent = .ok (some p) →
    View.Export.fileName agent scope.word user w.now = .ok name → l.Exported name

private theorem exportHistory_like (h : w.Like l w') (hu : Sees l.viewer user) (agent : String)
    (scope : Scope) (hexport : ExportsAlike l w user agent scope) :
    LikeWith l (exportHistory env w user agent scope) (exportHistory env w' user agent scope) := by
  apply onPersona_like h
  intro p p' hf hp
  dsimp only
  rw [Persona.history_eq_of_shownTo hp hu scope, Persona.model_eq_of_shownTo hp, ← h.now]
  split
  · exact acknowledge_like h _
  · apply attempt_like h
    intro content
    cases hname : View.Export.fileName agent scope.word user w.now with
    | error crash => exact h.returning _
    | ok name => exact sendFile_like h (hexport p name hf hname) _

/-- What is shown to a user is the same in worlds that are alike for a viewer who sees what the
user does. -/
theorem run_like (h : w.Like l w') (hu : Sees l.viewer user) (textMode : Bool) (i : Inspection)
    (hexport : ∀ agent scope, i = .exportFile agent scope → ExportsAlike l w user agent scope) :
    LikeWith l (i.run env w user textMode) (i.run env w' user textMode) := by
  cases i with
  | prompt agent => exact showPrompt_like h textMode agent
  | personas => exact showPersonas_like h textMode
  | models => exact showModels_like h textMode
  | wholeHistory agent scope => exact showHistory_like h hu textMode agent scope
  | positions agent scope indices => exact showPositions_like h hu textMode agent scope indices
  | exportFile agent scope => exact exportHistory_like h hu agent scope (hexport agent scope rfl)
  | help => exact showText_like h textMode _ _

end Inspection

namespace Generation

variable (t : Talk)

private theorem enter_like (h : w.Like l w') : enter w t = enter w' t := by
  unfold enter
  rw [h.api]
  obtain ⟨crash, hf, hf'⟩ | ⟨hf, hf'⟩ | ⟨p, p', hf, hf', hp⟩ :=
    Registry.find?_cases h.registry t.agent
  · rw [hf, hf']
  · rw [hf, hf']
  · rw [hf, hf']

private theorem occupy_like (h : w.Like l w') (api : Api Json) :
    LikeWith l (occupy w t api) (occupy w' t api) := by
  unfold occupy
  rw [h.busy]
  split
  · exact (h.withBusy _).returning _
  · exact (h.withBusy _).returning _

private theorem begin_like (h : w.Like l w') (ht : Sees l.viewer t.user) (api : Api Json)
    (token : Nat) :
    LikeWith l (begin env w t api token) (begin env w' t api token) := by
  unfold begin
  obtain ⟨crash, hf, hf'⟩ | ⟨hf, hf'⟩ | ⟨p, p', hf, hf', hp⟩ :=
    Registry.find?_cases h.registry t.agent
  · rw [hf, hf']
    exact h.returning _
  · rw [hf, hf']
    exact h.returning _
  · rw [hf, hf']
    dsimp only
    rw [Persona.history_eq_of_shownTo hp ht t.scope, h.now]
    split
    · exact h.returning _
    · next history _ =>
      have hstored := Persona.bump_shownTo (Persona.setHistory_shownTo hp ht t.scope history)
      rw [Persona.name_eq_of_shownTo hstored, Persona.version_eq_of_shownTo hstored,
        Persona.model_eq_of_shownTo hstored, Persona.systemPrompt_eq_of_shownTo hstored]
      exact (h.commit (Registry.replace_shownTo h.registry t.agent hstored)).returning _

private theorem ask_like (h : w.Like l w') (ticket : Ticket) :
    LikeWith l (ask env w t ticket) (ask env w' t ticket) := by
  have hnote (fields : List (String × Json)) :
      (note w t .info "Calling provider" fields).Like l
        (note w' t .info "Calling provider" fields) :=
    h.note _ _ _ _ _ _
  unfold ask
  dsimp only
  split
  · exact (hnote _).returning _
  · rw [(hnote _).accepting]
    split
    · exact (hnote _).returning _
    · obtain ⟨u, u', asked, ha, ha', hu⟩ :=
        ((hnote _).ask (.chat ticket.api ticket.request)).cases
      rw [ha, ha']
      cases asked with
      | ok _ => exact hu.returning _
      | error failure => exact hu.returning _

private theorem release_like (h : w.Like l w') (token : Nat) :
    (release w t token).Like l (release w' t token) := by
  unfold release
  rw [h.busy]
  exact h.withBusy _

private theorem noteTimeout_like (h : w.Like l w') (result : Except Failure (Option String)) :
    (noteTimeout env w t result).Like l (noteTimeout env w' t result) := by
  unfold noteTimeout
  split
  · exact h.note _ _ _ _ _ _
  · exact h

private theorem deliver_like (h : w.Like l w') (title content : String) :
    (deliver env w t title content).Like l (deliver env w' t title content) :=
  ((h.present _ t.textMode title).foldl_sendImage _).sendVideos _

/-- A generation is current in both worlds or in none. -/
theorem current?_cases (h : w.Like l w') (ticket : Ticket) :
    (∃ crash, current? w ticket = .error crash ∧ current? w' ticket = .error crash) ∨
      (current? w ticket = .ok none ∧ current? w' ticket = .ok none) ∨
      ∃ p p', current? w ticket = .ok (some p) ∧ current? w' ticket = .ok (some p') ∧
        p.shownTo l.viewer = p'.shownTo l.viewer := by
  unfold current?
  obtain ⟨crash, hf, hf'⟩ | ⟨hf, hf'⟩ | ⟨p, p', hf, hf', hp⟩ :=
    Registry.find?_cases h.registry ticket.persona
  · rw [hf, hf']
    exact .inl ⟨crash, rfl, rfl⟩
  · rw [hf, hf']
    exact .inr (.inl ⟨rfl, rfl⟩)
  · rw [hf, hf']
    have hversion := Persona.version_eq_of_shownTo hp
    by_cases hcurrent : p.version = ticket.version
    · exact .inr (.inr ⟨p, p', by simp [Except.map, hcurrent],
        by simp [Except.map, ← hversion, hcurrent], hp⟩)
    · exact .inr (.inl ⟨by simp [Except.map, hcurrent],
        by simp [Except.map, ← hversion, hcurrent]⟩)

private theorem complete_like (h : w.Like l w') (ht : Sees l.viewer t.user) (ticket : Ticket)
    (content : Option String) :
    LikeWith l (complete env w t ticket content) (complete env w' t ticket content) := by
  unfold complete
  obtain ⟨crash, hc, hc'⟩ | ⟨hc, hc'⟩ | ⟨p, p', hc, hc', hp⟩ := current?_cases h ticket
  · rw [hc, hc']
    exact h.returning _
  · rw [hc, hc']
    exact (h.note _ _ _ _ _ _).returning _
  · rw [hc, hc']
    cases content with
    | none => exact h.returning _
    | some content =>
      have happended := Persona.append_shownTo hp ht t.scope (.ofAssistant content w'.now)
      have hupdated := Registry.replace_shownTo h.registry ticket.persona happended
      dsimp only
      rw [h.now, Persona.history_eq_of_shownTo happended ht t.scope]
      exact (h.commit hupdated).returning _

private theorem reply_like (h : w.Like l w') (ticket : Ticket) (index : Nat) (content : String) :
    (reply env w t ticket index content).Like l (reply env w' t ticket index content) := by
  unfold reply
  dsimp only
  rw [h.now]
  exact deliver_like t (h.note _ _ _ _ _ _) _ content

/-- A generation of a user proceeds the same in worlds that are alike for a viewer who sees what
the user does. -/
theorem step_like (h : w.Like l w') (g : Generation) (hg : Sees l.viewer g.talk.user) :
    LikeWith l (g.step env w) (g.step env w') := by
  obtain ⟨t, phase⟩ := g
  cases phase with
  | asked => exact ⟨h, congrArg (Generation.mk t) (enter_like t h)⟩
  | admitted api => exact (occupy_like t h api).map (Generation.mk t)
  | occupied api token => exact (begin_like t h hg api token).map (Generation.mk t)
  | rejected token refusal => exact (release_like t h token).returning _
  | started ticket => exact (ask_like t h ticket).map (Generation.mk t)
  | waiting ticket => exact h.returning _
  | answered ticket result =>
    exact (release_like t (noteTimeout_like t h result) ticket.token).returning _
  | freed ticket result =>
    cases result with
    | error failure => exact h.returning _
    | ok content => exact (complete_like t h hg ticket content).map (Generation.mk t)
  | stored ticket index content => exact (reply_like t h ticket index content).returning _
  | finished result => exact h.returning _

end Generation

namespace Fetch

private theorem ask_like (h : w.Like l w') : LikeWith l (ask env w) (ask env w') := by
  unfold ask
  rw [h.api]
  dsimp only
  split
  · exact h.returning _
  · obtain ⟨u, u', asked, ha, ha', hu⟩ := (h.ask (.models w'.registry.api)).cases
    rw [ha, ha']
    cases asked with
    | ok _ => exact hu.returning _
    | error failure => exact hu.returning _

private theorem store_like (h : w.Like l w') (names : List String) :
    LikeWith l (store env w names) (store env w' names) := by
  have hmodels (models : List Json) :
      { w.registry with models := models }.shownTo l.viewer =
        { w'.registry with models := models }.shownTo l.viewer :=
    congrArg (fun r : Registry Json ↦ { r with models := models }) h.registry
  exact ((h.commit (hmodels _)).note _ _ _ _ _ _).returning _

private theorem step_like (h : w.Like l w') (f : Fetch) :
    LikeWith l (f.step env w) (f.step env w') := by
  cases f with
  | asked => exact ask_like h
  | waiting api => exact h.returning _
  | answered result =>
    cases result with
    | error failure => exact h.returning _
    | ok ids =>
      unfold step
      dsimp only
      split
      · exact h.returning _
      · next names _ =>
        obtain ⟨u, u', kept, hs, hs', hu⟩ := (store_like h names).cases
        rw [hs, hs']
        exact hu.returning _
  | finished result => exact h.returning _

end Fetch

namespace Describing

private theorem chosenModel_like (h : w.Like l w') (ref : String) :
    chosenModel w.registry ref = chosenModel w'.registry ref := by
  unfold chosenModel
  rw [h.models, Registry.defaultModel_eq_of_shownTo h.registry]

private theorem survey_like (h : w.Like l w') (ref : String) :
    LikeWith l (survey w ref) (survey w' ref) := by
  have htargets : targets w.registry = targets w'.registry := by
    rw [← targets_shownTo l.viewer, ← targets_shownTo l.viewer w'.registry, h.registry]
  unfold survey
  rw [chosenModel_like h, htargets, h.api]
  split
  · exact h.returning _
  · dsimp only
    split
    · exact h.returning _
    · split
      · exact h.returning _
      · exact (h.say _).returning _

private theorem ask_like (h : w.Like l w') (run : DescribingRun) :
    LikeWith l (ask env w run) (ask env w' run) := by
  unfold ask
  rw [h.now]
  split
  · exact h.returning _
  · dsimp only
    split
    · exact h.returning _
    · next question _ =>
      obtain ⟨u, u', asked, ha, ha', hu⟩ := (h.ask (.chat run.api question)).cases
      rw [ha, ha']
      cases asked with
      | ok _ => exact hu.returning _
      | error failure => exact hu.returning _

private theorem store_like (h : w.Like l w') (run : DescribingRun) (persona : Json)
    (content : String) :
    LikeWith l (store env w run persona content) (store env w' run persona content) := by
  unfold store
  cases persona.forOperation "lower" with
  | error crash => exact h.returning _
  | ok name =>
    dsimp only [bind, Except.bind, pure, Except.pure]
    obtain ⟨crash, hf, hf'⟩ | ⟨hf, hf'⟩ | ⟨p, p', hf, hf', hp⟩ :=
      Registry.find?_cases h.registry name
    · rw [hf, hf']
      exact h.returning _
    · rw [hf, hf']
      exact h.returning _
    · have hdescribed := Registry.update_shownTo h.registry name
        fun _ _ hp ↦ Persona.describe_shownTo hp (.str (polish content))
      rw [hf, hf']
      exact (h.commit hdescribed).returning _

private theorem step_like (h : w.Like l w') (d : Describing) :
    LikeWith l (d.step env w) (d.step env w') := by
  cases d with
  | asked ref => exact survey_like h ref
  | surveyed model targets =>
    unfold step connect
    rw [h.api]
    exact h.returning _
  | going run => exact ask_like h run
  | waiting run persona request => exact h.returning _
  | answered run persona result =>
    cases result with
    | error failure =>
      cases failure with
      | refused refusal => exact (h.note _ _ _ _ _ _).returning _
      | crashed crash => exact h.returning _
    | ok content =>
      unfold step
      dsimp only
      split
      · exact h.returning _
      · exact h.returning _
      · exact store_like h run persona _
  | finished result => exact h.returning _

end Describing

namespace Task

variable (t : Task)

/-- A viewer sees what a task edits, shows and says. -/
def SeenBy (viewer : Option String) (t : Task) : Prop :=
  match t.stage with
  | .edit e => Sees viewer e.user
  | .talk g => Sees viewer g.talk.user
  | .inspect _ | .list | .listing _ => Sees viewer t.user
  | _ => True

private theorem fail_like (h : w.Like l w') (failure : Failure) :
    LikeWith l (fail w t failure) (fail w' t failure) := by
  cases failure with
  | refused refusal => exact ((h.note _ _ _ _ _ _).say _).returning _
  | crashed crash => exact h.returning _

private theorem acknowledge_like (h : w.Like l w') (text : String) :
    LikeWith l (acknowledge w text) (acknowledge w' text) :=
  (h.say text).returning _

private theorem runEdit_like (h : w.Like l w') (e : Edit) (he : Sees l.viewer e.user) :
    LikeWith l (runEdit env w t e) (runEdit env w' t e) := by
  have hedit := e.apply_shownTo h.registry he w.now
  rw [congrArg (e.apply · w'.registry) h.now] at hedit
  unfold runEdit
  generalize e.apply w.now w.registry = x at hedit ⊢
  generalize e.apply w'.now w'.registry = x' at hedit ⊢
  obtain ⟨r, result⟩ := x
  obtain ⟨r', result'⟩ := x'
  obtain ⟨hr, hresult⟩ : r.shownTo l.viewer = r'.shownTo l.viewer ∧ result = result' := hedit
  subst hresult
  cases result with
  | error failure => exact fail_like t (h.withRegistry hr) failure
  | ok done =>
    obtain ⟨reply, release⟩ := done
    cases release with
    | none => exact acknowledge_like (h.commit hr) reply
    | some release => exact (h.commit hr).returning _

private theorem runInspection_like (h : w.Like l w') (ht : Sees l.viewer t.user) (i : Inspection)
    (hexport : ∀ agent scope, i = .exportFile agent scope →
      Inspection.ExportsAlike l w t.user agent scope) :
    LikeWith l (runInspection env w t i) (runInspection env w' t i) := by
  unfold runInspection
  obtain ⟨u, u', result, hi, hi', hu⟩ := (Inspection.run_like h ht t.textMode i hexport).cases
  rw [hi, hi']
  cases result with
  | error failure => exact fail_like t hu failure
  | ok outcome => exact hu.returning _

private theorem runTalk_like (h : w.Like l w') (g : Generation) (hg : Sees l.viewer g.talk.user) :
    LikeWith l (runTalk env w t g) (runTalk env w' t g) := by
  unfold runTalk
  split
  · exact h.returning _
  · exact fail_like t h _
  · obtain ⟨u, u', next, hs, hs', hu⟩ := (Generation.step_like h g hg).cases
    rw [hs, hs']
    exact hu.returning _

private theorem reportConfigured_like (h : w.Like l w') (result : Except Failure (List String)) :
    LikeWith l (reportConfigured w result) (reportConfigured w' result) := by
  unfold reportConfigured
  split
  · exact acknowledge_like h _
  · exact (h.say _).returning _
  · exact h.returning _

private theorem reportListed_like (h : w.Like l w') (result : Except Failure (List String)) :
    LikeWith l (reportListed w t result) (reportListed w' t result) := by
  unfold reportListed
  split
  · exact h.returning _
  · exact ((h.note _ _ _ _ _ _).say _).returning _
  · exact h.returning _

private theorem reportDescribed_like (h : w.Like l w') (result : Except Failure String) :
    LikeWith l (reportDescribed w t result) (reportDescribed w' t result) := by
  cases result with
  | ok text => exact acknowledge_like h text
  | error failure => exact fail_like t h failure

/-- What a task exports next has a name that is exported alike. -/
def ExportsAlike (l : Likeness env) (w : World) (t : Task) : Prop :=
  ∀ agent scope, t.stage = .inspect (.exportFile agent scope) →
    Inspection.ExportsAlike l w t.user agent scope

/-- The next step of a task that the viewer sees is the same in worlds that are alike. -/
theorem stepStage_like (h : w.Like l w') (ht : t.SeenBy l.viewer) (hexport : t.ExportsAlike l w) :
    LikeWith l (stepStage env w t) (stepStage env w' t) := by
  unfold SeenBy at ht
  unfold stepStage
  split
  · next e hs =>
    rw [hs] at ht
    exact runEdit_like t h e ht
  · rw [h.busy]
    exact acknowledge_like (h.withBusy _) _
  · next i hs =>
    rw [hs] at ht
    exact runInspection_like t h ht i fun agent scope hi ↦
      hexport agent scope (hs.trans (by rw [hi]))
  · next g hs =>
    rw [hs] at ht
    exact runTalk_like t h g ht
  · next api _ =>
    have hapi : (w.registry.setApi (api.map .str)).shownTo l.viewer =
        (w'.registry.setApi (api.map .str)).shownTo l.viewer :=
      congrArg (fun r : Registry Json ↦ r.setApi (api.map .str)) h.registry
    exact ((h.commit hapi).say _).returning _
  · exact reportConfigured_like h _
  · next f _ _ => exact (Fetch.step_like h f).map Stage.configuring
  · rw [h.models]
    split
    · exact (h.say _).returning _
    · exact h.returning _
  · exact reportListed_like t h _
  · next f _ _ => exact (Fetch.step_like h f).map Stage.listing
  · exact h.returning _
  · next f _ _ => exact (Fetch.step_like h f).map Stage.fetch
  · exact reportDescribed_like t h _
  · next d _ _ => exact (Describing.step_like h d).map Stage.describe
  · exact h.returning _

/-- A task that the viewer sees proceeds the same in worlds that are alike. -/
theorem step_like (h : w.Like l w') (ht : t.SeenBy l.viewer) (hexport : t.ExportsAlike l w) :
    LikeWith l (t.step env w) (t.step env w') :=
  (stepStage_like t h ht hexport).map fun stage ↦ { t with stage := stage }

end Task
end PersonaChat
