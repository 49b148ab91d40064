import PersonaChat.Proofs.Desk.Restart
import PersonaChat.Proofs.Desk.Texts
import PersonaChat.Proofs.Registry.Typed

/-!
# Changes are durable at once

A section that changes the registry and does not fail has saved what it leaves. So as long as the
save itself succeeds, the file holds the registry as it is when the section ends, and a service
that is started over the disk right then has that registry: sections keep a registry typed and
leave its defaults alone, which is all that reading it back depends on.

Spec guidance: `SPEC_FULL.md`, lines 43–44.
-/

namespace PersonaChat

/-! ### Sections keep a registry typed -/

/-- The media references that come with what is said are texts. -/
def Talk.Typed (t : Talk) : Prop := ∀ image ∈ t.images, image.Textual

/-- The history that a start stores is typed if the one before is. -/
theorem Talk.typed_nextHistory {t : Talk} {h h' : History Json} {now : Int}
    (hn : t.nextHistory h now = .ok h') (ht : t.Typed) (hh : h.Typed) : h'.Typed := by
  intro m hm
  rcases mem_nextHistory hn hm with hm | rfl
  · exact hh m hm
  · exact Message.typed_ofUser ht _ _

namespace Task

/-- What a task says comes with texts for media references. -/
def Typed (t : Task) : Prop := ∀ g ∈ t.stage.generation?, g.talk.Typed

variable {t : Task} {now : Int} {r r' : Registry Json}

private theorem Typed.talk (ht : t.Typed) {g : Generation} (hs : t.stage = .talk g) :
    g.talk.Typed :=
  ht g (by rw [hs]; rfl)

private theorem Stores.typed (h : t.Stores now r r') (ht : t.Typed) (hr : r.Typed) : r'.Typed := by
  cases h with
  | edited stage carries => exact carries.typed hr
  | begun stage phase found next =>
    have hp := hr.of_designates found
    exact hr.set _ (hp.setHistory _ _
      (Talk.typed_nextHistory next (ht.talk stage) (hp.history _ _))).bump
  | completed stage phase found current =>
    have hp := hr.of_designates found
    exact hr.set _ (hp.setHistory _ _ ((hp.history _ _).append (Message.typed_ofAssistant _ _)))
  | described stage found => exact hr.set _ { hr.of_designates found with description := ⟨_, rfl⟩ }
  | configured => exact { hr with apiBase := ⟨_, rfl⟩, apiKey := ⟨_, rfl⟩ }
  | fetched =>
    refine { hr with models := fun model hmodel ↦ ?_ }
    obtain ⟨s, -, rfl⟩ := List.mem_map.mp hmodel
    exact ⟨s, rfl⟩

private theorem Spoils.typed (h : t.Spoils r r') (hr : r.Typed) : r'.Typed := by
  cases h with
  | edited stage => exact Edit.typed_residue _ hr
  | @shown i agent scope indices k p stage found =>
    have hp := hr.of_designates found
    have htext : (p.history scope t.user).Textual := fun m hm ↦ (hp.history _ _ m hm).content
    rw [htext.afterShowing]
    exact hr.set _ (hp.setHistory _ _ (hp.history _ _))

/-- A section keeps a registry typed. -/
theorem typed_registry_step (env : Surroundings) {w : World} (ht : t.Typed)
    (hr : w.registry.Typed) :
    (t.step env w).1.registry.Typed := by
  cases t.saves_step env w with
  | kept same =>
    rw [same]
    exact hr
  | stored stores speaks =>
    rw [speaks.registry, World.registry_commit]
    exact stores.typed ht hr
  | spoiled spoils failed => exact spoils.typed hr

/-- A section leaves what is said as it is. -/
theorem Typed.step (ht : t.Typed) (env : Surroundings) (w : World) : (t.step env w).2.Typed := by
  intro g hg
  obtain ⟨g₀, hs, rfl, -⟩ := generation?_stepStage env w t hg
  have htalk : g₀.talk.Typed := ht.talk hs
  exact htalk

/-- An answer leaves what is said as it is. -/
theorem Typed.answer (ht : t.Typed) (a : Answer) : (t.answer a).Typed := by
  obtain ⟨agent, action, user, textMode, stage⟩ := t
  cases stage with
  | talk g =>
    obtain ⟨talk, phase⟩ := g
    have hanswer (result : Except Failure (Option String)) :
        (Generation.answer ⟨talk, phase⟩ result).talk = talk := by cases phase <;> rfl
    cases a with
    | models result => exact ht
    | chat result =>
      intro g hg
      cases hg
      rw [hanswer]
      exact ht ⟨talk, phase⟩ rfl
  | _ =>
    intro g hg
    cases a <;> cases hg

end Task

/-! ### The defaults stay -/

/-- Registries with the same defaults. -/
def Registry.SameDefaults (r r' : Registry Json) : Prop :=
  r'.defaultModel = r.defaultModel ∧ r'.defaultPrompt = r.defaultPrompt

/-- Whether defaults are taken from another registry depends on the defaults only. -/
theorem Registry.SameDefaults.withDefaults {r r' default : Registry Json} (h : r.SameDefaults r')
    (hd : r.withDefaults default = r) : r'.withDefaults default = r' := by
  obtain ⟨apiBase, apiKey, models, agents, defaultModel, defaultPrompt⟩ := r'
  obtain ⟨rfl, rfl⟩ := h
  have hmodel := congrArg Registry.defaultModel hd
  have hprompt := congrArg Registry.defaultPrompt hd
  dsimp only [Registry.withDefaults] at hmodel hprompt ⊢
  rw [hmodel, hprompt]

namespace Task

variable {t : Task} {now : Int} {r r' : Registry Json}

private theorem Stores.sameDefaults (h : t.Stores now r r') : r.SameDefaults r' := by
  cases h with
  | @edited e r' stage carries =>
    obtain ⟨agent, user, change⟩ := e
    cases carries <;> exact ⟨rfl, rfl⟩
  | _ => exact ⟨rfl, rfl⟩

private theorem Spoils.sameDefaults (h : t.Spoils r r') : r.SameDefaults r' := by
  cases h with
  | edited stage =>
    unfold Edit.residue Registry.update
    split
    · split <;> exact ⟨rfl, rfl⟩
    · exact ⟨rfl, rfl⟩
  | shown => exact ⟨rfl, rfl⟩

private theorem sameDefaults_step (env : Surroundings) (w : World) (t : Task) :
    w.registry.SameDefaults (t.step env w).1.registry := by
  cases t.saves_step env w with
  | kept same =>
    rw [same]
    exact ⟨rfl, rfl⟩
  | stored stores speaks =>
    rw [speaks.registry, World.registry_commit]
    exact stores.sameDefaults
  | spoiled spoils failed => exact spoils.sameDefaults

end Task

/-! ### Floors that can be restored -/

/-- A request that comes in has texts for media references. -/
def Move.Typed : Move → Prop
  | .receive _ _ images _ => ∀ image ∈ images, image.Textual
  | _ => True

namespace Floor

/-- The registry is typed and has defaults of its own, or those of the registry of a service that
finds none; so it will be when it is read back. -/
structure Restorable (default : Registry Json) (s : Floor) : Prop where
  registry : s.world.registry.Typed
  defaults : s.world.registry.withDefaults default = s.world.registry
  tasks : ∀ t ∈ s.tasks, t.Typed

variable (env : Surroundings) {default : Registry Json} {s : Floor}

/-- What a request that comes in says comes with texts for media references. -/
theorem typed_task {user prompt : String} {images : List Json}
    (h : ∀ image ∈ images, image.Textual) (request : Request) :
    (request.task user prompt images).Typed := by
  intro g hg
  cases request with
  | configure api => cases hg
  | create request => cases hg
  | command c =>
    obtain ⟨agent, action, args, indices, privateReply, textMode⟩ := c
    cases action <;> cases hg <;> exact h

private theorem Restorable.take (h : s.Restorable default) {move : Move} (hm : move.Typed) :
    (s.take env move).Restorable default := by
  have htasks : ∀ t ∈ (s.take env move).tasks, t.Typed := by
    refine forall_tasks_take env h.tasks (fun t ht ↦ (h.tasks t ht).step env s.world)
      (fun _ t a _ ht ↦ (h.tasks t (List.mem_of_getElem? ht)).answer a) ?_
    rintro user prompt images request rfl
    exact typed_task hm request
  rcases registry_take env s move with hr | ⟨i, t, -, ht, hr⟩
  · exact ⟨hr ▸ h.registry, hr ▸ h.defaults, htasks⟩
  · refine ⟨?_, ?_, htasks⟩
    · rw [hr]
      exact Task.typed_registry_step env (h.tasks t (List.mem_of_getElem? ht)) h.registry
    · rw [hr]
      exact (t.sameDefaults_step env s.world).withDefaults h.defaults

/-- Commands leave a registry that can be restored. -/
theorem Restorable.run (h : s.Restorable default) {moves : List Move}
    (hm : ∀ move ∈ moves, move.Typed) : (s.run env moves).Restorable default :=
  run_of_forall env (fun _ _ hm h ↦ h.take env hm) h hm

/-- A section that changes the registry and does not fail saves what it leaves. -/
theorem disk_proceed {i : Nat} (changes : (s.proceed env i).world.registry ≠ s.world.registry)
    (ends : ∀ t ∈ (s.proceed env i).tasks[i]?, ¬ t.stage.Failed) :
    (s.proceed env i).world.disk = (env.vault.save s.world.disk
      (Vault.encode (s.proceed env i).world.registry) s.world.serial
      (s.world.troubles.headD none)).1 := by
  cases ht : s.tasks[i]? with
  | none => exact absurd (by rw [proceed_of_getElem?_eq_none env ht]) changes
  | some t =>
    have hself := getElem?_proceed_self env ht
    rw [proceed_of_getElem? env ht] at changes ⊢
    cases t.saves_step env s.world with
    | kept same => exact absurd same changes
    | stored stores speaks =>
        rw [speaks.disk, speaks.registry, World.registry_commit, World.disk_commit]
    | spoiled spoils failed => exact absurd failed (ends _ hself)

/-- After any commands, when a section changes the registry and does not fail, and its save
succeeds, then the file holds the text of the registry as it is. A service that is started over the
disk right then, for the first time or anew and whatever it had in memory, has that registry, as
long as texts stand where texts are meant to in the registry at first and in what has come in, and
the numbers are short enough to be written. -/
theorem changes_are_durable {start s s' : Floor} {moves : List Move} {i : Nat}
    (reached : start.run env moves = s) (proceeds : s.proceed env i = s')
    (changes : s'.world.registry ≠ s.world.registry)
    (ends : ∀ t ∈ s'.tasks[i]?, ¬ t.stage.Failed)
    (writes : (env.vault.save s.world.disk (Vault.encode s'.world.registry) s.world.serial
      (s.world.troubles.headD none)).2 = .ok ()) :
    s'.world.disk.look env.vault.path =
        .ok (.file (Text.encode s'.world.registry.toJson.indentedText)) ∧
      ∀ default, start.Restorable default → (∀ move ∈ moves, move.Typed) →
        s'.world.registry.Short →
        (∀ env' ownsWorkers seconds, env'.vault = env.vault →
          ∃ t, Session.start env' default ownsWorkers s'.world.disk seconds = .ok t ∧
            t.world.registry = s'.world.registry) ∧
        ∀ t : Session, t.env.vault = env.vault → t.default = default →
          t.world.disk = s'.world.disk →
          ∃ t', t.restart = .ok t' ∧ t'.world.registry = s'.world.registry := by
  subst proceeds
  have hsaved : env.vault.save s.world.disk (Vault.encode (s.proceed env i).world.registry)
      s.world.serial (s.world.troubles.headD none) = ((s.proceed env i).world.disk, .ok ()) := by
    rw [disk_proceed env changes ends, ← writes]
  refine ⟨Vault.look_of_save hsaved, fun default hstart hmoves hshort ↦ ?_⟩
  have hrestorable : (s.proceed env i).Restorable default := by
    have hnext : Move.Typed (.proceed i) := trivial
    rw [← reached]
    exact (hstart.run env hmoves).take env hnext
  obtain ⟨r, hr, hstorable⟩ := hrestorable.registry.exists_storable hshort
  have hdefaults := hrestorable.defaults
  rw [hr] at hsaved hdefaults
  have hload (env' : Surroundings) (hvault : env'.vault = env.vault) (w : World)
      (hw : w.disk = (s.proceed env i).world.disk) : w.load env' default = .ok { w with
        registry := (s.proceed env i).world.registry, busy := .empty, accepting := true } := by
    rw [← hvault] at hsaved
    rw [World.load_saved hstorable hsaved default hw, hdefaults, hr]
  refine ⟨fun env' ownsWorkers seconds hvault ↦
    Session.start_of_load (hload env' hvault) ownsWorkers seconds, ?_⟩
  rintro t hvault rfl hd
  exact Session.restart_of_load (hload t.env hvault) hd

/-- The small service has texts where texts are meant to stand. -/
theorem typed_withBot : World.withBot.registry.Typed where
  apiBase := ⟨"base", rfl⟩
  apiKey := ⟨"key", rfl⟩
  models := nofun
  agents := by
    intro p hp
    rw [List.mem_singleton.mp hp]
    exact Persona.typed_fresh ⟨"Bot", rfl⟩ ⟨"model", rfl⟩ ⟨"prompt", rfl⟩ ⟨"bot", rfl⟩ 0
  defaultModel := ⟨"model", rfl⟩
  defaultPrompt := ⟨"", rfl⟩

/-- Over a disk without files a user renames `Bot`; the file then holds the registry with the new
name, and so does a service that is started over the disk right after that with nothing in
memory. -/
theorem changes_are_durable_of_rename :
    let s := (opened .withBot).run .plain [.askBot "u" .rename false "Bob"]
    let s' := s.proceed .plain 0
    s'.world.registry.names = [.str "Bob"] ∧
      s'.world.disk.look ["config.json"] =
        .ok (.file (Text.encode s'.world.registry.toJson.indentedText)) ∧
      ∃ t, Session.start .plain World.withBot.registry true s'.world.disk 0 = .ok t ∧
        t.world.registry.names = [.str "Bob"] := by
  intro s s'
  have hnames : s'.world.registry.names = [.str "Bob"] := by decide +kernel
  have hchanges : s'.world.registry ≠ s.world.registry := by
    intro h
    have hold : s.world.registry.names = [.str "Bot"] := by decide +kernel
    rw [← h, hnames] at hold
    exact absurd hold (by decide)
  have hstart : (opened .withBot).Restorable World.withBot.registry :=
    ⟨typed_withBot, rfl, fun _ h ↦ absurd h List.not_mem_nil⟩
  have hmoves : ∀ move ∈ [Move.askBot "u" .rename false "Bob"], move.Typed := by
    intro move hmove
    rw [List.mem_singleton.mp hmove]
    exact nofun
  have hends : ∀ t ∈ s'.tasks[0]?, ¬ t.stage.Failed := by decide +kernel
  obtain ⟨hfile, hload⟩ := changes_are_durable .plain rfl rfl hchanges hends rfl
  obtain ⟨t, ht, hregistry⟩ :=
    (hload _ hstart hmoves (by decide +kernel)).1 .plain true 0 rfl
  exact ⟨hnames, hfile, t, ht, by rw [hregistry, hnames]⟩

end Floor
end PersonaChat
