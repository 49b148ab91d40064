import PersonaChat.Proofs.Desk.Evolution
import PersonaChat.Proofs.Desk.Texts

/-!
# How personas age

An entry of the registry counts its version up or keeps all its histories, whatever section of a
command runs, apart from the section that stores an answer. A deletion takes one entry out and
moves those behind it up. A generation gets its ticket when it stores what its user said: then its
history is the list that is sent, and its version the one that was counted up.
-/

namespace PersonaChat

/-! ### How an entry ages -/

/-- A persona counts its version up, or keeps the version and all histories. -/
def Persona.Ages (p p' : Persona Json) : Prop :=
  p'.version = p.version + 1 ∨
    p'.version = p.version ∧ ∀ scope user, p'.history scope user = p.history scope user

/-- Among texts an entry ages as it evolves, unless it gets an answer. -/
theorem Persona.Evolves.ages {r : Registry Json} {k : Nat} {p p' : Persona Json}
    {stage : Option Stage} (h : p.Evolves r k p' stage) (hp : p.Textual)
    (hc : ∀ talk ticket content, stage ≠ some (.talk ⟨talk, .freed ticket (.ok (some content))⟩)) :
    p.Ages p' := by
  cases h with
  | talked _ _ _ _ _ _ version | retaken _ _ _ version | thinned _ _ _ version
  | reworded _ _ _ _ version | cleared _ _ _ version | sharedCleared _ _ version
  | allCleared _ _ version | stopped _ _ _ version => exact .inl version
  | answered => exact absurd rfl (hc _ _ _)
  | shown remains version =>
    refine .inr ⟨version, fun scope user ↦ ?_⟩
    exact Message.Remains.eq_of_texts (remains scope user) (hp.history scope user)
  | kept same version => exact .inr ⟨version, same⟩

/-- Every entry ages, apart from the one that is gone. -/
def Registry.Ages (gone : Option Nat) (r r' : Registry Json) : Prop :=
  Registry.Each (fun _ p p' ↦ p.Ages p') gone r r'

/-! ### Generations on their way -/

/-- An answer, or the lack of a text, that a generation is about to store. -/
structure Completion where
  /-- What the generation was asked for. -/
  talk : Talk
  /-- What it keeps. -/
  ticket : Ticket
  /-- The answer. -/
  content : Option String

/-- What a generation keeps that has stored its message and still has to store its answer. -/
def Phase.ticket? : Phase → Option Ticket
  | .started ticket | .waiting ticket | .answered ticket _ | .freed ticket _ => some ticket
  | _ => none

/-- A start stores what the user says to the persona of a position. -/
structure Generation.Begins (w w' : World) (talk : Talk) (ticket : Ticket) (k : Nat)
    (p : Persona Json) : Prop where
  /-- The persona is the one that is addressed. -/
  found : w.registry.Designates talk.agent k p
  /-- Its name is noted. -/
  persona : ticket.persona = p.name.display
  /-- The version is counted up. -/
  version : ticket.version = p.version + 1
  /-- What the user says is added to the history, or the last exchange is taken back. -/
  next : talk.nextHistory (p.history talk.scope talk.user) w.now = .ok ticket.request.messages
  /-- The messages that are sent are the ones that are stored. -/
  registry : w'.registry = { w.registry with
    agents :=
      w.registry.agents.set k (p.setHistory talk.scope talk.user ticket.request.messages).bump }

/-- After its completion a generation has no answer to store. -/
theorem Generation.ticket?_complete (env : Surroundings) (w : World) (t : Talk)
    (ticket : Ticket) (content : Option String) :
    (complete env w t ticket content).2.ticket? = none := by
  unfold complete
  split <;> rfl

/-- A generation has a ticket since its start. -/
theorem Generation.ticket?_step (env : Surroundings) (w : World) (g : Generation) {ticket : Ticket}
    (h : (g.step env w).2.phase.ticket? = some ticket) :
    g.phase.ticket? = some ticket ∨ ∃ api token k p, g.phase = .occupied api token ∧
      Begins w (g.step env w).1 g.talk ticket k p := by
  unfold step at h ⊢
  dsimp only at h ⊢
  split at h
  · next hp =>
    unfold enter at h
    split at h
    · cases h
    · cases h
    · split at h <;> cases h
  · next hp =>
    unfold occupy at h
    split at h <;> cases h
  · next api token hp =>
    rcases begin_cases env w g.talk api token with ⟨_, _, hb⟩ | ⟨_, hb⟩ |
      ⟨k, p, history, hd, hn, hb⟩
    · rw [hb] at h
      cases h
    · rw [hb] at h
      cases h
    · rw [hb] at h
      cases h
      rw [hb]
      exact .inr ⟨api, token, k, p, hp, hd, rfl, rfl, hn, World.registry_commit env w _⟩
  · cases h
  · next ticket' hp =>
    left
    rw [hp]
    rcases phase_ask env w g.talk ticket' with ha | ⟨result, ha⟩
    · rw [ha] at h
      exact h
    · rw [ha] at h
      exact h
  · next hp =>
    left
    rw [hp]
    exact h
  · next hp =>
    left
    rw [hp]
    exact h
  · cases h
  · rw [ticket?_complete] at h
    cases h
  · cases h
  · cases h

namespace Task

/-- What the generation of a task keeps that has stored its message and still has to store its
answer. -/
def ticket? (t : Task) : Option (Talk × Ticket) :=
  match t.stage with
  | .talk g => g.phase.ticket?.map (g.talk, ·)
  | _ => none

/-- The name of the persona to which the next section of a task stores what the user says. -/
def starts? (t : Task) : Option String :=
  match t.stage with
  | .talk ⟨talk, .occupied _ _⟩ => some talk.agent
  | _ => none

/-- The answer that the next section of a task is to store. -/
def completion? (t : Task) : Option Completion :=
  match t.stage with
  | .talk ⟨talk, .freed ticket (.ok content)⟩ => some ⟨talk, ticket, content⟩
  | _ => none

variable (env : Surroundings) (w : World) (t : Task)

/-- A task with an answer to store is at the stage where it is stored. -/
theorem stage_of_completion? {t : Task} {c : Completion} (h : t.completion? = some c) :
    t.stage = .talk ⟨c.talk, .freed c.ticket (.ok c.content)⟩ := by
  unfold completion? at h
  split at h
  · next hs =>
    cases h
    exact hs
  · cases h

/-- The section that stores an answer. -/
theorem step_of_completion? {t : Task} {c : Completion} (h : t.completion? = some c) :
    t.step env w =
      ((Generation.complete env w c.talk c.ticket c.content).1,
        { t with
          stage := .talk ⟨c.talk, (Generation.complete env w c.talk c.ticket c.content).2⟩ }) := by
  rw [step, stepStage, stage_of_completion? h]
  rfl

/-- A section that stores no answer lets every entry age, apart from the one that it deletes. -/
theorem ages_step (htext : w.registry.Textual) (hc : t.completion? = none) :
    Registry.Ages (t.deletes? w.registry) w.registry (t.step env w).1.registry := by
  intro k p hp k' hk'
  obtain ⟨p', hp', hevolves⟩ := t.evolves_step env w k p hp k' hk'
  refine ⟨p', hp', hevolves.ages (htext p (List.mem_of_getElem? hp)) ?_⟩
  intro talk ticket content hs
  rw [completion?, Option.some.inj hs] at hc
  cases hc

/-- A task has a ticket since its start. -/
theorem ticket?_step {talk : Talk} {ticket : Ticket}
    (h : (t.step env w).2.ticket? = some (talk, ticket)) :
    t.starts? = none ∧ t.ticket? = some (talk, ticket) ∨
    t.starts? = some talk.agent ∧
      ∃ k p, Generation.Begins w (t.step env w).1 talk ticket k p := by
  have hg : ∃ g, (stepStage env w t).2.generation? = some g ∧ g.talk = talk ∧
      g.phase.ticket? = some ticket := by
    unfold ticket? step at h
    dsimp only at h
    split at h
    · next g hs =>
      obtain ⟨ticket', ht, he⟩ := Option.map_eq_some_iff.mp h
      cases he
      exact ⟨g, by rw [hs]; rfl, rfl, ht⟩
    · cases h
  obtain ⟨g, hstep, rfl, ht⟩ := hg
  obtain ⟨g₀, hs, rfl, hw⟩ := generation?_stepStage env w t hstep
  rcases g₀.ticket?_step env w ht with hsame | ⟨api, token, k, p, hp, hb⟩
  · refine .inl ⟨?_, ?_⟩
    · rw [starts?, hs]
      obtain ⟨talk, phase⟩ := g₀
      cases phase <;> first | rfl | cases hsame
    · rw [ticket?, hs]
      dsimp only
      rw [hsame]
      rfl
  · refine .inr ⟨?_, k, p, hb.found, hb.persona, hb.version, hb.next, ?_⟩
    · rw [starts?, hs]
      obtain ⟨talk, phase⟩ := g₀
      cases hp
      rfl
    · show (stepStage env w t).1.registry = _
      rw [hw]
      exact hb.registry

end Task

namespace Task

/-- A task that just came in has no ticket. -/
theorem ticket?_task (user prompt : String) (images : List Json) (request : Request) :
    (request.task user prompt images).ticket? = none := by
  cases request with
  | configure api => rfl
  | create request => rfl
  | command c =>
    show ticket? (.ofCommand c user prompt images) = none
    unfold ofCommand firstStage ticket?
    dsimp only
    cases c.action <;> rfl

/-- An answer changes nothing about the ticket. -/
theorem ticket?_answer (t : Task) (a : Answer) : (t.answer a).ticket? = t.ticket? := by
  unfold answer ticket?
  dsimp only
  cases hs : t.stage with
  | talk g =>
    cases a with
    | chat result => cases hp : g.phase <;> simp [Generation.answer, hp, Phase.ticket?]
    | models result => rfl
  | _ => cases a <;> rfl

end Task

end PersonaChat
