import PersonaChat.Proofs.Desk.Counting
import PersonaChat.Proofs.Registry.Naming

/-!
# Which commands cancel an answer

An answer is dropped when the version of its persona has moved on. The version is one number for
all histories of a persona, so an answer reaches its user unless a section in between counts it up,
whichever history it concerns, or takes the name from the persona. Commands about other personas
never matter, nor do those that are refused, nor those that only describe a persona, give it
another model or prompt, show it or copy it.

Spec guidance: `SPEC_FULL.md`, lines 50–51 and 128–129.
-/

namespace PersonaChat

open Text

/-! ### Which sections disturb a persona -/

/-- A section at this stage takes its name from the persona at a place: it is a rename that is
accepted, or a deletion. -/
def Stage.Unnames (r : Registry Json) (k : Nat) : Stage → Prop
  | .edit ⟨agent, _, .rename name⟩ => r.place? agent = some k ∧ (Edit.rename r agent name).2.isOk
  | .edit ⟨agent, _, .delete⟩ => r.place? agent = some k
  | _ => False

instance (r : Registry Json) (k : Nat) : DecidablePred (Stage.Unnames r k) := fun stage ↦ by
  unfold Stage.Unnames
  split <;> infer_instance

/-- A section at this stage counts up the version of the persona of a name, or takes its name from
it. -/
def Stage.Disturbs (r : Registry Json) (agent : String) (stage : Stage) : Prop :=
  ∃ k ∈ r.place? agent, stage.CountsUp r k ∨ stage.Unnames r k

instance (r : Registry Json) (agent : String) : DecidablePred (Stage.Disturbs r agent) :=
  fun stage ↦
  inferInstanceAs (Decidable (∃ k ∈ r.place? agent, stage.CountsUp r k ∨ stage.Unnames r k))

/-- The section that a move carries out disturbs the persona of a name. -/
def Floor.Disturbs (agent : String) (s : Floor) (move : Move) : Prop :=
  ∃ stage ∈ s.stage? move, stage.Disturbs s.world.registry agent

instance (agent : String) (s : Floor) : DecidablePred (Floor.Disturbs agent s) := fun move ↦
  inferInstanceAs (Decidable (∃ stage ∈ s.stage? move, stage.Disturbs s.world.registry agent))

/-- A name designates a persona of a version. -/
def Registry.Stands (r : Registry Json) (agent : String) (version : Int) : Prop :=
  ∃ k p, r.Designates agent k p ∧ p.version = version

namespace Registry.Stands

variable {r r' : Registry Json} {agent other : String} {version : Int} {j : Nat}
  {q q' : Persona Json}

private theorem of_agents_eq (h : r.Stands agent version) (ha : r'.agents = r.agents) :
    r'.Stands agent version := by
  obtain ⟨k, p, hd, hv⟩ := h
  exact ⟨k, p, hd.of_agents_eq ha, hv⟩

/-- A persona that keeps its name may change as long as it is another one or keeps its version. -/
theorem set (h : r.Stands agent version) (hq : r.Designates other j q) (hn : q'.name = q.name)
    (hv : q'.version = q.version ∨ lowerString other ≠ lowerString agent) :
    Registry.Stands { r with agents := r.agents.set j q' } agent version := by
  obtain ⟨k, p, hd, hp⟩ := h
  refine ⟨k, _, hd.set_of_name_eq hq.stands hn, ?_⟩
  split
  · next hjk =>
    subst hjk
    have hpq := (hd.stands).symm.trans hq.stands
    cases hpq
    rcases hv with hv | hv
    · exact hv.trans hp
    · exact absurd rfl (hd.ne hq hv)
  · exact hp

/-- Another persona may be renamed, for a new name differs from all other names. -/
theorem rename {name : String} {others : List Json} (h : r.Stands agent version)
    (hq : r.Designates other j q) (hne : lowerString other ≠ lowerString agent)
    (hothers : Edit.otherNames q.name r.names = .ok others)
    (hvalid : Name.validate name others = .ok name) :
    Registry.Stands { r with agents := r.agents.set j { q with name := .str name } } agent
      version := by
  obtain ⟨k, p, hd, hp⟩ := h
  refine ⟨k, p, hd.set_of_ne (hd.ne hq hne) fun _ ↦ ⟨name, rfl, fun hl ↦ ?_⟩, hp⟩
  -- The name of the persona is among the others, so the new name was checked against it.
  obtain ⟨own, hown, hol⟩ := hq.named
  obtain ⟨s, hs, hsl⟩ := hd.named
  have hmem : Json.str s ∈ others := by
    rw [hown] at hothers
    apply Edit.mem_otherNames hothers
    · rw [← hs]
      exact List.mem_map.mpr ⟨p, List.mem_of_getElem? hd.stands, rfl⟩
    · rw [hsl, hol]
      exact Ne.symm hne
  obtain ⟨t, ht, htl⟩ := Edit.misses_of_validate hvalid _ hmem
  cases ht
  exact htl (hsl.trans hl.symm)

end Registry.Stands

namespace Edit

variable {e : Edit} {r : Registry Json} {k : Nat} {p p' : Persona Json}

/-- A rename is accepted when the new name passes the check against all other names. -/
private theorem isOk_rename {agent name : String} {others : List Json}
    (hd : r.Designates agent k p) (hothers : otherNames p.name r.names = .ok others)
    (hvalid : Name.validate name others = .ok name) : (rename r agent name).2.isOk := by
  have hname : name ≠ "" := by
    rintro rfl
    cases hvalid
  have hf := (r.find?_eq_some_iff agent p).mpr ⟨k, hd⟩
  simp only [rename, hname, onPersona, hf, hothers, hvalid, accept, if_false]
  rfl

/-- What an edit makes of a persona that it does not disturb keeps the name and the version. -/
private theorem Amends.same_of_not_disturbs {agent : String} (h : e.Amends r p p')
    (found : r.Designates e.target k p) (hname : lowerString e.target = lowerString agent)
    (hd : ¬ (Stage.edit e).Disturbs r agent) : p'.name = p.name ∧ p'.version = p.version := by
  have hplace : r.place? agent = some k := (found.congr hname).place?
  constructor
  · refine h.name_eq fun name hchange ↦ hd ⟨k, hplace, .inr ?_⟩
    obtain ⟨own, user, change⟩ := e
    cases hchange
    cases h with
    | renamed change others_eq valid =>
      cases change
      exact ⟨found.place?, isOk_rename found others_eq valid⟩
    | _ => contradiction
  · rcases (h.evolves found).version_eq_or found.stands with hversion | ⟨stage, hstage, hcounts⟩
    · exact hversion
    · cases hstage
      exact absurd ⟨k, hplace, .inl hcounts⟩ hd

/-- An edit that does not disturb a persona leaves its name and its version to it. -/
theorem Makes.stands {now : Int} {r' : Registry Json} {agent : String} {version : Int}
    (h : e.Makes now r r') (hd : ¬ (Stage.edit e).Disturbs r agent) (hs : r.Stands agent version) :
    r'.Stands agent version := by
  cases h with
  | same => exact hs
  | amended found amends =>
    by_cases hname : lowerString e.target = lowerString agent
    · obtain ⟨hn, hv⟩ := amends.same_of_not_disturbs found hname hd
      exact hs.set found hn (.inl hv)
    · cases amends with
      | renamed change others_eq valid => exact hs.rename found hname others_eq valid
      | _ => exact hs.set found (by simp [updated]) (.inr hname)
  | added valid =>
    obtain ⟨k, p, hdes, hv⟩ := hs
    exact ⟨k, p, hdes.add _, hv⟩
  | removed change found =>
    obtain ⟨k, p, hdes, hv⟩ := hs
    refine ⟨_, p, hdes.eraseIdx (hdes.ne found fun hname ↦ hd ?_), hv⟩
    obtain ⟨own, user, _⟩ := e
    cases change
    exact ⟨_, (found.congr hname).place?, .inr found.place?⟩
  | sharedCleared change =>
    obtain ⟨own, user, _⟩ := e
    cases change
    obtain ⟨k, p, hdes, -⟩ := hs
    exact absurd ⟨k, hdes.place?, .inl trivial⟩ hd
  | allCleared change =>
    obtain ⟨own, user, _⟩ := e
    cases change
    obtain ⟨k, p, hdes, -⟩ := hs
    exact absurd ⟨k, hdes.place?, .inl trivial⟩ hd

end Edit

/-- A section that does not disturb a persona leaves its name and its version to it. -/
theorem Task.Rewrites.stands {t : Task} {now : Int} {r r' : Registry Json} {agent : String}
    {version : Int} (h : t.Rewrites now r r') (hd : ¬ t.stage.Disturbs r agent)
    (hs : r.Stands agent version) : r'.Stands agent version := by
  cases h with
  | kept agents_eq => exact hs.of_agents_eq agents_eq
  | edited stage makes =>
    rw [stage] at hd
    exact makes.stands hd hs
  | @begun g api token k p history stage phase found next =>
    refine hs.set found (by simp) (.inr fun hname ↦ hd ?_)
    obtain ⟨talk, _⟩ := g
    cases phase
    rw [stage]
    refine ⟨k, (found.congr hname).place?, .inl ⟨found.place?, ?_⟩⟩
    rcases Talk.nextHistory_cases next with ⟨-, spoken, -⟩ | ⟨again, -⟩
    · exact .inr spoken
    · exact .inl again
  | completed stage phase found current => exact hs.set found (by simp) (.inl (by simp))
  | described found => exact hs.set found rfl (.inl rfl)
  | shown found => exact hs.set found (by simp) (.inl (by simp))

namespace Floor

variable (env : Surroundings) {s : Floor} {agent : String} {version : Int}

/-- A move that does not disturb a persona leaves its name and its version to it. -/
theorem stands_take {move : Move} (hn : ¬ s.Disturbs agent move)
    (h : s.world.registry.Stands agent version) :
    (s.take env move).world.registry.Stands agent version := by
  rcases registry_take env s move with hr | ⟨j, t, rfl, ht, hr⟩
  · rwa [hr]
  · rw [hr]
    refine (t.rewrites_step env s.world).stands (fun hd ↦ hn ⟨t.stage, ?_, hd⟩) h
    simp [stage?, ht]

/-- Moves that do not disturb a persona leave its name and its version to it. -/
theorem stands_run {moves : List Move} (hn : Never env (Disturbs agent) s moves)
    (h : s.world.registry.Stands agent version) :
    (run env s moves).world.registry.Stands agent version :=
  run_of_never env (P := fun s ↦ s.world.registry.Stands agent version)
    (fun _ _ hn h ↦ stands_take env hn h) h hn

variable {i : Nat} {talk : Talk} {api : Api Json} {token : Nat} {ticket : Ticket}

/-- A start that succeeds leaves the persona with the version of the ticket, under a name that
differs from the one that was addressed by case at most. -/
theorem stands_of_started (hstart : s.At i (.talk ⟨talk, .occupied api token⟩))
    (hstarted : (s.proceed env i).At i (.talk ⟨talk, .started ticket⟩)) :
    lowerString ticket.persona = lowerString talk.agent ∧
      (s.proceed env i).world.registry.Stands talk.agent ticket.version := by
  obtain ⟨t, ht, hs⟩ := hstart
  obtain ⟨t', ht', hs'⟩ := hstarted
  rw [getElem?_proceed_self env ht] at ht'
  cases ht'
  rw [proceed_of_getElem? env ht]
  simp only [Task.step, Task.stepStage, hs, Task.runTalk, Generation.step] at hs' ⊢
  rcases Generation.begin_cases env s.world talk api token with
    ⟨_, _, h⟩ | ⟨_, h⟩ | ⟨k, p, history, hd, _, h⟩
  · rw [h] at hs'
    cases hs'
  · rw [h] at hs'
    cases hs'
  · rw [h] at hs' ⊢
    cases hs'
    obtain ⟨own, hown, hol⟩ := hd.named
    refine ⟨?_, k, (p.setHistory talk.scope talk.user history).bump, ?_, by simp⟩
    · rw [hown]
      exact hol
    · dsimp only
      rw [World.registry_commit]
      exact hd.set_self (by simp)

/-- The completion of a generation whose persona has the version of its ticket stores the answer,
which is to be sent next. -/
theorem stores_of_stands {content : String}
    (hfreed : s.At i (.talk ⟨talk, .freed ticket (.ok (some content))⟩))
    (hname : lowerString ticket.persona = lowerString talk.agent)
    (hstands : s.world.registry.Stands talk.agent ticket.version) :
    ∃ p, s.world.registry.find? talk.agent = .ok (some p) ∧
      (s.proceed env i).world.registry.find? talk.agent =
        .ok (some (p.append talk.scope talk.user (.ofAssistant content s.world.now))) ∧
      (s.proceed env i).At i (.talk ⟨talk,
        .stored ticket ((p.history talk.scope talk.user).length + 1) content⟩) := by
  obtain ⟨t, ht, hs⟩ := hfreed
  obtain ⟨k, p, hd, hv⟩ := hstands
  have h := Generation.complete_of_current env s.world talk content (hd.congr hname.symm) hv
  have hstep :
      t.step env s.world = ((Generation.complete env s.world talk ticket (some content)).1,
      { t with stage := .talk ⟨talk, .stored ticket ((p.history talk.scope talk.user).length + 1)
        content⟩ }) := by
    simp only [Task.step, Task.stepStage, hs, Task.runTalk, Generation.step, h]
  refine ⟨p, (Registry.find?_eq_some_iff _ _ _).mpr ⟨k, hd⟩, ?_, _,
    getElem?_proceed_self env ht, by rw [hstep]⟩
  rw [proceed_of_getElem? env ht, hstep, h, Registry.find?_eq_some_iff]
  dsimp only
  rw [World.registry_commit]
  exact ⟨k, hd.set_self (by simp)⟩

/-- A generation that has stored its answer sends it in its next section. -/
theorem sends_of_stored {index : Nat} {content : String}
    (hstored : s.At i (.talk ⟨talk, .stored ticket index content⟩)) :
    (s.proceed env i).world.events = s.world.events ++
        Generation.delivery env talk (Generation.title talk ticket.persona index) content ∧
      (s.proceed env i).At i (.talk ⟨talk, .finished (.ok (.done content))⟩) := by
  obtain ⟨t, ht, hs⟩ := hstored
  have hstep : t.step env s.world = (Generation.reply env s.world talk ticket index content,
      { t with stage := .talk ⟨talk, .finished (.ok (.done content))⟩ }) := by
    simp only [Task.step, Task.stepStage, hs, Task.runTalk, Generation.step]
  refine ⟨?_, _, getElem?_proceed_self env ht, by rw [hstep]⟩
  rw [proceed_of_getElem? env ht, hstep]
  exact Generation.events_reply env s.world talk ticket index content

/-- A generation that is done ends with its outcome. -/
theorem ends_of_finished {o : Outcome} (hdone : s.At i (.talk ⟨talk, .finished (.ok o)⟩)) :
    (s.proceed env i).At i (.ended (.outcome o)) := by
  obtain ⟨t, ht, hs⟩ := hdone
  refine ⟨_, getElem?_proceed_self env ht, ?_⟩
  simp only [Task.step, Task.stepStage, hs, Task.runTalk]

/-- What a user says to `Bot` in private. -/
def sampleTalk : Talk := ⟨"Bot", .personal, "u1", "hello", [], false, true⟩

/-- The ticket under which it is asked. -/
def sampleTicket : Ticket :=
  ⟨⟨.str "base", .str "key"⟩, 1, "Bot", 1,
    ⟨.str "model", [.ofUser "hello" [] 0], .str "prompt"⟩, 0⟩

/-- The floor on which it has made the conversation busy. -/
def sample : Floor :=
  run .plain (opened .withBot) [.askBot "u1" .chat true "hello", .proceed 0, .proceed 0]

end Floor

/-! ### The history alone does not decide -/

/-- Conversations are about one history: their names differ by case at most, and the user counts
for private histories only. -/
def Conversation.SameHistory (c d : Conversation) : Prop :=
  lowerString c.agent = lowerString d.agent ∧ c.scope = d.scope ∧
    (c.scope = .personal → c.user = d.user)

/-- An edit addresses the history of a conversation, all histories, or the name of its persona. -/
def Edit.Addresses (c : Conversation) (e : Edit) : Prop :=
  match e.change with
  | .stop scope | .editAt scope .. | .deleteAt scope _ | .clear scope =>
    Conversation.SameHistory ⟨e.agent, scope, e.user⟩ c
  | .rename _ | .delete => lowerString e.agent = lowerString c.agent
  | .clearPublic | .clearEverything => True
  | .copy _ | .describe _ | .setModel _ | .setPrompt _ | .create _ => False

/-- The next section of a task does so: it is such an edit, or a generation stores what its user
says in the history. -/
def Task.Addresses (c : Conversation) (t : Task) : Prop :=
  match t.stage with
  | .edit e => e.Addresses c
  | .talk ⟨talk, .occupied _ _⟩ => Conversation.SameHistory talk.conversation c
  | _ => False

instance (c d : Conversation) : Decidable (c.SameHistory d) :=
  inferInstanceAs (Decidable (_ ∧ _ ∧ _))

instance (c : Conversation) : DecidablePred (Edit.Addresses c) := fun e ↦ by
  unfold Edit.Addresses
  split <;> infer_instance

instance (c : Conversation) : DecidablePred (Task.Addresses c) := fun t ↦ by
  unfold Task.Addresses
  split <;> infer_instance

namespace Floor

/-- While the provider answers one user in private, another user talks to `Bot` in private. -/
def sampleTalks : List Move :=
  [.proceed 0, .askBot "u2" .chat true "hi", .proceed 1, .proceed 1, .proceed 1,
    .answer 0 (.chat (.ok (some "one"))), .proceed 0]

private theorem sampleTalks_drop :
    (run .plain (run .plain (sample.proceed .plain 0) sampleTalks)
      [.proceed 0, .proceed 0, .proceed 0]).At 0 (.ended (.outcome (.ofText .cancelled ""))) :=
  ⟨_, rfl, rfl⟩

end Floor
end PersonaChat
