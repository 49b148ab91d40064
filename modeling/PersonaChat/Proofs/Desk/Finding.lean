import PersonaChat.Desk.Session
import PersonaChat.Proofs.Command.WellFormed
import PersonaChat.Proofs.Desk.Floor
import PersonaChat.Proofs.Desk.Refusals
import PersonaChat.Proofs.Registry.Lookup

/-!
# Commands find their persona

A command that is recognised by the registered names names one of them, and a persona that is
registered is found. While a command runs alone nothing takes the persona away before it is looked
up for the last time. That the persona will be found is a property of each stage; sections keep it,
and so do the answers of a provider, which knows nothing of personas. Main statement: commands that
are read are well formed, and a message handled alone never ends because there is no persona of a
name.

Spec guidance: `SPEC_FULL.md`, lines 157–162.
-/

namespace PersonaChat

open Failure

/-! ### Continuing a conversation -/

/-- At a phase of a generation its persona will be found wherever it is still looked up, and no
refusal is under way that says that something does not exist. -/
def Phase.Finds (r : Registry Json) (agent : String) : Phase → Prop
  | .asked | .admitted _ | .occupied _ _ => r.find? agent ≠ .ok none
  | .rejected _ refusal => ¬ refusal.IsNotFound
  | .started _ | .waiting _ | .stored .. => True
  | .answered _ result | .freed _ result => Avoids Refusal.IsNotFound (fun _ ↦ True) result
  | .finished result => Avoids Refusal.IsNotFound (fun outcome ↦ outcome.kind ≠ .notFound) result

namespace Talk

private theorem avoids_nextHistory {t : Talk} {h : History Json} {now : Int} {refusal : Refusal}
    (hrefused : t.nextHistory h now = .error refusal) : ¬ refusal.IsNotFound := by
  unfold nextHistory at hrefused
  split at hrefused
  · dsimp only at hrefused
    split at hrefused <;> cases hrefused
  · split at hrefused
    · cases hrefused
      nofun
    · cases hrefused

end Talk

namespace Generation

variable (env : Surroundings) (w : World) (t : Talk)

private theorem finds_enter (hfound : w.registry.find? t.agent ≠ .ok none) :
    (enter w t).Finds w.registry t.agent := by
  unfold enter
  split
  · trivial
  · next hnone => exact absurd hnone hfound
  · split
    · exact hfound
    · nofun

private theorem finds_occupy (hfound : w.registry.find? t.agent ≠ .ok none) (api : Api Json) :
    (occupy w t api).2.Finds (occupy w t api).1.registry t.agent := by
  unfold occupy
  split
  · exact hfound
  · nofun

/-- From the moment the message is stored the persona is not looked up by its name any more. -/
theorem finds_begin (hfound : w.registry.find? t.agent ≠ .ok none) (api : Api Json) (token : Nat)
    (r : Registry Json) : (begin env w t api token).2.Finds r t.agent := by
  unfold begin
  split
  · trivial
  · next hnone => exact absurd hnone hfound
  · split
    · next hrefused => exact Talk.avoids_nextHistory hrefused
    · trivial

private theorem finds_ask (ticket : Ticket) (r : Registry Json) :
    (ask env w t ticket).2.Finds r t.agent := by
  unfold ask
  dsimp only
  split
  · trivial
  · split
    · trivial
    · have hask := World.avoids_ask env (note w t .info "Calling provider"
        [("model", ticket.request.model), ("message_count", .int ticket.request.messages.length)])
        (.chat ticket.api ticket.request)
      split
      · trivial
      · next h =>
        rw [h] at hask
        exact avoids_error hask

private theorem finds_complete (ticket : Ticket) (content : Option String) (r : Registry Json) :
    (complete env w t ticket content).2.Finds r t.agent := by
  unfold complete
  split
  · trivial
  · nofun
  · nofun
  · trivial

/-- A provider that fails otherwise than by a refusal fails as a provider. -/
theorem not_isNotFound_refusalOf {failure : Failure}
    (h : Avoids (α := Unit) Refusal.IsNotFound (fun _ ↦ True) (.error failure)) :
    ¬ (refusalOf env failure).IsNotFound := by
  rcases failure with refusal | crash
  · exact h
  · cases crash <;> nofun

variable {w}

private theorem finds_step {g : Generation} (h : g.phase.Finds w.registry g.talk.agent) :
    (g.step env w).2.phase.Finds (g.step env w).1.registry g.talk.agent := by
  obtain ⟨t, phase⟩ := g
  cases phase with
  | asked => exact finds_enter w t h
  | admitted api => exact finds_occupy w t h api
  | occupied api token => exact finds_begin env w t h api token _
  | rejected token refusal => exact h
  | started ticket => exact finds_ask env w t ticket _
  | waiting ticket => trivial
  | answered ticket result => exact h
  | freed ticket result =>
    cases result with
    | error failure => exact not_isNotFound_refusalOf env (avoids_error h)
    | ok content => exact finds_complete env w t ticket content _
  | stored ticket index content => nofun
  | finished result => exact h

end Generation

/-! ### Fetching and describing -/

/-- No refusal is under way that says that something does not exist. -/
def Fetch.Finds : Fetch → Prop
  | .asked | .waiting _ => True
  | .answered result => Avoids Refusal.IsNotFound (fun _ ↦ True) result
  | .finished result => Avoids Refusal.IsNotFound (fun _ ↦ True) result

/-- No refusal is under way that says that something does not exist. What the provider refuses is
passed over. -/
def Describing.Finds : Describing → Prop
  | .finished result => Avoids Refusal.IsNotFound (fun _ ↦ True) result
  | _ => True

private theorem Fetch.finds_step (env : Surroundings) (w : World) {f : Fetch} (h : f.Finds) :
    (f.step env w).2.Finds := by
  cases f with
  | asked =>
    show (ask env w).2.Finds
    unfold ask
    dsimp only
    split
    · nofun
    · have hask := World.avoids_ask env w (.models w.registry.api)
      split
      · trivial
      · next hfailure =>
        rw [hfailure] at hask
        exact avoids_error hask
  | waiting api => trivial
  | answered result =>
    cases result with
    | error failure => exact avoids_error h
    | ok ids =>
      unfold step
      dsimp only
      split <;> trivial
  | finished result => exact h

private theorem Describing.finds_step (env : Surroundings) (w : World) {d : Describing}
    (h : d.Finds) :
    (d.step env w).2.Finds := by
  cases d with
  | asked ref =>
    show (survey w ref).2.Finds
    unfold survey
    split
    · trivial
    · dsimp only
      split
      · trivial
      · split
        · nofun
        · trivial
  | surveyed model targets =>
    show (connect env w model targets).Finds
    unfold connect
    dsimp only
    split
    · nofun
    · split <;> trivial
  | going run =>
    show (ask env w run).2.Finds
    unfold ask
    split
    · trivial
    · dsimp only
      split
      · trivial
      · split <;> trivial
  | waiting run persona request => trivial
  | answered run persona result =>
    rcases result with (refusal | crash) | content
    · trivial
    · trivial
    · unfold step
      dsimp only
      split
      · trivial
      · trivial
      · unfold store
        dsimp only
        split <;> trivial
  | finished result => exact h

/-! ### Tasks -/

/-- At a stage of a command its persona will be found wherever it is still looked up, and it will
not end because there is none. -/
def Stage.Finds (r : Registry Json) : Stage → Prop
  | .edit e => e.Finds r
  | .inspect i => i.Finds r
  | .talk g => g.phase.Finds r g.talk.agent
  | .listing f => f.Finds
  | .describe d => d.Finds
  | .fetch _ => False
  | .ended ending => ¬ ending.DeniesPersona
  | .release .. | .configure _ | .configuring _ | .list => True

namespace Task

variable {env : Surroundings} {w : World} {t : Task} {r : Registry Json}

/-- An outcome of another kind denies no persona. -/
theorem not_deniesPersona_outcome {o : Outcome} (h : o.kind ≠ .notFound) :
    ¬ (Ending.outcome o).DeniesPersona := by
  rintro ⟨name, rfl⟩
  exact h rfl

private theorem finds_fail {α : Type} {good : α → Prop} {failure : Failure}
    (h : Avoids Refusal.DeniesPersona good (.error failure)) : (fail w t failure).2.Finds r := by
  rcases failure with refusal | crash
  · rintro ⟨name, htold⟩
    obtain ⟨hkind, hmessage⟩ := Outcome.mk.inj htold
    refine h ⟨?_, name, Json.str.inj hmessage⟩
    unfold Refusal.IsNotFound
    cases hrefusal : refusal.kind with
    | notFound => rfl
    | _ =>
      rw [hrefusal] at hkind
      cases hkind
  · exact id

variable (env w t)

private theorem finds_runEdit {e : Edit} (h : e.Finds w.registry) (r : Registry Json) :
    (runEdit env w t e).2.Finds r := by
  have hspares : Avoids _ _ _ := h.spares w.now
  unfold runEdit
  split
  · next hfailed =>
    rw [hfailed] at hspares
    exact finds_fail hspares
  · dsimp only
    split
    · trivial
    · exact not_deniesPersona_outcome nofun

private theorem finds_runInspection {i : Inspection} (h : i.Finds w.registry) (r : Registry Json) :
    (runInspection env w t i).2.Finds r := by
  have hspares : Avoids _ _ _ := h.spares env t.user t.textMode
  unfold runInspection
  split
  · next hfailed =>
    rw [hfailed] at hspares
    exact finds_fail hspares
  · next outcome hshown =>
    rw [hshown] at hspares
    refine not_deniesPersona_outcome ?_
    rw [show outcome.kind = .ok from hspares]
    nofun

private theorem finds_runTalk {g : Generation} (h : g.phase.Finds w.registry g.talk.agent) :
    (runTalk env w t g).2.Finds (runTalk env w t g).1.registry := by
  unfold runTalk
  split
  · next outcome hphase =>
    rw [hphase] at h
    exact not_deniesPersona_outcome h
  · next failure hphase =>
    rw [hphase] at h
    exact finds_fail h.deniesPersona
  · exact Generation.finds_step env h

private theorem finds_reportConfigured (result : Except Failure (List String))
    (r : Registry Json) :
    (reportConfigured w result).2.Finds r := by
  rcases result with (refusal | crash) | names
  · exact not_deniesPersona_outcome nofun
  · exact id
  · exact not_deniesPersona_outcome nofun

private theorem finds_reportListed {result : Except Failure (List String)}
    (h : (Fetch.finished result).Finds)
    (r : Registry Json) : (reportListed w t result).2.Finds r := by
  rcases result with (refusal | crash) | names
  · have hprefixed : Avoids (α := Unit) Refusal.DeniesPersona (fun _ ↦ True)
        (.error (.refused { refusal with message := "获取失败: " ++ refusal.message })) :=
      Refusal.not_deniesPersona h
    exact finds_fail hprefixed
  · exact id
  · nofun

private theorem finds_reportDescribed {result : Except Failure String}
    (h : (Describing.finished result).Finds) (r : Registry Json) :
    (reportDescribed w t result).2.Finds r := by
  cases result with
  | error failure => exact finds_fail (Avoids.deniesPersona h)
  | ok text => exact not_deniesPersona_outcome nofun

variable {w t}

/-- A section keeps a command on the way to its persona. -/
theorem finds_step (h : t.stage.Finds w.registry) :
    (t.step env w).2.stage.Finds (t.step env w).1.registry := by
  show (stepStage env w t).2.Finds (stepStage env w t).1.registry
  unfold stepStage
  split
  · next e hs =>
    rw [hs] at h
    exact finds_runEdit env w t h _
  · exact not_deniesPersona_outcome nofun
  · next i hs =>
    rw [hs] at h
    exact finds_runInspection env w t h _
  · next g hs =>
    rw [hs] at h
    exact finds_runTalk env w t h
  · trivial
  · exact finds_reportConfigured w _ _
  · trivial
  · split
    · trivial
    · nofun
  · next result hs =>
    rw [hs] at h
    exact finds_reportListed w t h _
  · next f _ hs =>
    rw [hs] at h
    exact f.finds_step env w h
  · next hs =>
    rw [hs] at h
    exact h.elim
  · next hs =>
    rw [hs] at h
    exact h.elim
  · next result hs =>
    rw [hs] at h
    exact finds_reportDescribed w t h _
  · next d _ hs =>
    rw [hs] at h
    exact d.finds_step env w h
  · next hs =>
    rw [hs] at h
    exact h

private theorem finds_answer (h : t.stage.Finds r) {a : Answer} (ha : a.Foreign) :
    (t.answer a).stage.Finds r := by
  obtain ⟨agent, action, user, textMode, stage⟩ := t
  cases stage with
  | talk g =>
    cases a with
    | chat result =>
      obtain ⟨talk, phase⟩ := g
      cases phase with
      | waiting ticket => exact ha
      | _ => exact h
    | models result => exact h
  | listing f =>
    cases a with
    | chat result => exact h
    | models result =>
      cases f with
      | waiting api => exact ha
      | _ => exact h
  | describe d =>
    cases a with
    | chat result => cases d <;> exact h
    | models result => exact h
  | _ => cases a <;> exact h

/-- A command that is on the way to its persona runs to its end without being denied one. -/
theorem finds_run {script : Script} (hscript : script.Foreign) (h : t.stage.Finds w.registry) :
    (t.run env script w).2.stage.Finds (t.run env script w).1.registry :=
  run_of_replies (P := fun w t ↦ t.stage.Finds w.registry) env (fun _ _ ↦ finds_step env)
    (fun _ _ _ ha h ↦ finds_answer h ha) hscript.1 hscript.2 h

end Task

/-! ### Messages -/

/-- A name that is registered is found, unless the search for it crashes before. -/
theorem Registry.find?_ne_none_of_mem {r : Registry Json} {name : String}
    (h : .str name ∈ r.names) : r.find? name ≠ .ok none := by
  rw [Ne, find?_eq_none_iff, index?, Name.position?_eq_none_iff]
  intro hmisses
  obtain ⟨s, hs, hne⟩ := hmisses _ h
  cases hs
  exact hne rfl

/-- The history on which an operator acts at a stage. -/
def Stage.scope? : Stage → Option Scope
  | .edit ⟨_, _, .editAt scope _ _⟩ | .edit ⟨_, _, .deleteAt scope _⟩ | .edit ⟨_, _, .clear scope⟩
  | .inspect (.wholeHistory _ scope) | .inspect (.positions _ scope _)
  | .inspect (.exportFile _ scope) => some scope
  | _ => none

namespace Task

/-- A command is carried out on the history that its action addresses. -/
theorem scope?_firstStage (c : Command) (user prompt : String) (images : List Json) :
    (firstStage c user prompt images).scope? = c.action.scope? := by
  obtain ⟨agent, action, args, indices, privateReply, textMode⟩ := c
  cases action <;> rfl

/-- A command starts on the way to its persona, if it takes one. -/
theorem finds_firstStage {c : Command} {r : Registry Json}
    (h : c.action.kind ∉ ActionKind.global → r.find? c.agent ≠ .ok none) (user prompt : String)
    (images : List Json) : (firstStage c user prompt images).Finds r := by
  obtain ⟨agent, action, args, indices, privateReply, textMode⟩ := c
  have hlook {i : Inspection} (hagent : i.agent? = some agent)
      (hfound : r.find? agent ≠ .ok none) :
      i.Finds r := by
    intro name hname
    rw [hagent] at hname
    cases hname
    exact hfound
  cases action with
  | list | help => nofun
  | listModels | clearAllPublic | clearEverything | fillDescriptions model => trivial
  | viewPrompt | viewAll scope | viewAt scope | exportHistory scope => exact hlook rfl (h nofun)
  | _ => exact h nofun

end Task

namespace Incoming

variable (env : Surroundings) (w : World) {m : Incoming} {t : Task}

private theorem registry_quotation (id : Int) : (quotation env w id).1.registry = w.registry := by
  unfold quotation
  dsimp only
  split <;> rfl

/-- What is quoted changes what the user says, and not the registry. -/
theorem commandTask_spec (m : Incoming) (c : Command) :
    (commandTask env w m c).1.registry = w.registry ∧
      ∃ prompt images, (commandTask env w m c).2 = .ofCommand c m.user prompt images := by
  unfold commandTask
  split
  · exact ⟨rfl, _, _, rfl⟩
  · cases m.replyTo with
    | none => exact ⟨rfl, _, _, rfl⟩
    | some id => exact ⟨registry_quotation env w id, _, _, rfl⟩

/-- The command of a message that is read with the registered names is on the way to its
persona. -/
theorem finds_task (hnames : m.names = none) (h : (m.task env w).2 = .ok (some t)) :
    t.stage.Finds (m.task env w).1.registry := by
  unfold task at h ⊢
  rw [hnames, Option.getD_none] at h ⊢
  cases hread : Command.readAmong m.text w.registry.names with
  | error crash =>
    rw [hread] at h
    cases h
  | ok found =>
    rw [hread] at h
    rcases found with _ | api | request | c
    · cases h
    · cases h
      trivial
    · cases h
      trivial
    · obtain ⟨hregistry, prompt, images, htask⟩ := commandTask_spec env w m c
      cases h
      show (commandTask env w m c).2.stage.Finds (commandTask env w m c).1.registry
      rw [hregistry, htask]
      refine Task.finds_firstStage (fun hkind ↦ ?_) m.user prompt images
      rcases (Command.wellFormed_of_readAmong hread).addressed with hglobal | hmem
      · exact absurd hglobal.1 hkind
      · exact Registry.find?_ne_none_of_mem (Command.mem_filterMap_text?_iff.mp hmem)

end Incoming

namespace Session

private theorem stage_of_replyOf {t : Task} {ending : Ending} (h : replyOf t = .ended ending) :
    t.stage = .ended ending := by
  obtain ⟨agent, action, user, textMode, stage⟩ := t
  cases stage with
  | ended ending' =>
    cases h
    rfl
  | _ => cases h

/-- A command that runs alone runs in the world of its session. -/
theorem reply_run (s : Session) (script : Task.Script) (t : Task) :
    (s.run script t).2 = replyOf (t.run s.env script s.world).2 := by
  simp only [run, within, if_true]

/-- A message that is read with the registered names and handled alone is not denied its
persona. -/
theorem not_deniesPersona_of_send {s : Session} {script : Task.Script} {m : Incoming}
    {ending : Ending} (hscript : script.Foreign) (hnames : m.names = none)
    (h : (s.send script m).2 = .ended ending) : ¬ ending.DeniesPersona := by
  have hfinds {t : Task} := Incoming.finds_task s.env s.world (t := t) hnames
  unfold send take at h
  generalize m.task s.env s.world = taken at h hfinds
  rcases taken with ⟨w, crash | _ | t⟩
  · cases h
    exact id
  · cases h
  · have hrun := Task.finds_run s.env hscript (hfinds rfl)
    rw [stage_of_replyOf ((reply_run _ _ _).symm.trans h)] at hrun
    exact hrun

/-- Every command that is read is well formed, and carried out on the history that its action
addresses. A message that is read with the registered names and handled alone, by a provider that
knows nothing of personas, never ends because no persona has the name that it names. A provider
whose answers come over HTTP, whatever they are, knows nothing of personas. -/
theorem commands_find_their_persona :
    (∀ (text : String) (names : List String) (c : Command),
      Command.read? text names = .ok (some (.command c)) →
        c.WellFormed names ∧ ∀ user prompt images,
          (Task.firstStage c user prompt images).scope? = c.action.scope?) ∧
      (∀ (s : Session) (script : Task.Script) (m : Incoming) (ending : Ending), script.Foreign →
        m.names = none → (s.send script m).2 = .ended ending → ¬ ending.DeniesPersona) ∧
      ∀ (answers : List (Query → HttpAnswer)) (fallback : Query → HttpAnswer),
        Task.Script.Foreign ⟨answers.map fun answer query ↦ Client.read query (answer query),
          fun query ↦ Client.read query (fallback query)⟩ :=
  ⟨fun _ _ c h ↦ ⟨Command.wellFormed_of_read? h, Task.scope?_firstStage c⟩,
    fun _ _ _ _ ↦ not_deniesPersona_of_send, fun _ _ ↦
    ⟨List.forall_mem_map.mpr fun _ _ query ↦ Client.foreign_read query _,
      fun query ↦ Client.foreign_read query _⟩⟩

/-- The name of `Bot` may be written otherwise; what is missing is position 7 of its empty
history. -/
theorem commands_find_their_persona_of_missing_position :
    let s : Session := ⟨.plain, World.withBot.registry, false, .withBot, 0, [], []⟩
    let script : Task.Script := ⟨[], fun _ ↦ .chat (.ok none)⟩
    let m : Incoming := ⟨"u", "bot-7", [], none, none⟩
    let command : Command := ⟨"Bot", .deleteAt .shared, "", [7], false, false⟩
    Command.read? m.text ["Bot"] = .ok (some (.command command)) ∧ command.WellFormed ["Bot"] ∧
      script.Foreign ∧ m.names = none ∧
      (s.send script m).2 = .ended (.outcome (.ofText .notFound "索引无效")) ∧
      ¬ (Ending.outcome (.ofText .notFound "索引无效")).DeniesPersona := by
  intro s script m command
  have hread : Command.read? m.text ["Bot"] = .ok (some (.command command)) := by decide +kernel
  have hforeign : script.Foreign := ⟨fun _ h ↦ absurd h List.not_mem_nil, fun _ ↦ trivial⟩
  have hregistered : Command.readAmong m.text (m.names.getD World.withBot.registry.names) =
      .ok (some (.command command)) := by decide +kernel
  have htaken : s.take m = (s, .inl (.ofCommand command "u" "" [])) := by
    rw [take, Incoming.task, hregistered]
    rfl
  have hended : ((Task.ofCommand command "u" "" []).run .plain script .withBot).2.ending? =
      some (.outcome (.ofText .notFound "索引无效")) := by decide +kernel
  have hsend : (s.send script m).2 = .ended (.outcome (.ofText .notFound "索引无效")) := by
    rw [send, htaken]
    exact (reply_run _ _ _).trans (by rw [replyOf, hended])
  obtain ⟨hformed, hdenied, -⟩ := commands_find_their_persona
  exact ⟨hread, (hformed _ _ _ hread).1, hforeign, rfl, hsend,
    hdenied s script m _ hforeign rfl hsend⟩

end Session
end PersonaChat
