import PersonaChat.Proofs.Desk.Evolution

/-!
# What counts the version up

The version of an entry is the only mark by which an answer is found to be out of date, so it
matters which sections count it up. `Stage.CountsUp` lists them, with what they have to find in the
registry: talk that is accepted, a deletion or an edit of messages that are there, an emptying, and
a stop. `Task.version_step` says that such a section counts the version of an entry up by one, and
that every other section leaves it alone.

Spec guidance: `SPEC_FULL.md`, lines 50–51.
-/

namespace PersonaChat

/-- The entry at a place has a message at a position of a history. -/
def Registry.HasMessage (r : Registry Json) (k : Nat) (scope : Scope) (user : String)
    (position : Int) : Prop :=
  ∃ p ∈ r.agents[k]?, 1 ≤ position ∧ position ≤ (p.history scope user).length

instance (r : Registry Json) (k : Nat) (scope : Scope) (user : String) (position : Int) :
    Decidable (r.HasMessage k scope user position) :=
  inferInstanceAs (Decidable (∃ p ∈ r.agents[k]?, _ ∧ _))

/-- A section at this stage counts the version of the entry at a place up. -/
def Stage.CountsUp (r : Registry Json) (k : Nat) : Stage → Prop
  | .talk ⟨said, .occupied _ _⟩ =>
    r.place? said.agent = some k ∧ (said.again = true ∨ said.prompt ≠ "" ∨ said.images ≠ [])
  | .edit ⟨agent, _, .stop _⟩ | .edit ⟨agent, _, .clear _⟩ => r.place? agent = some k
  | .edit ⟨agent, user, .editAt scope (index :: _) text⟩ =>
    r.place? agent = some k ∧ text ≠ "" ∧ r.HasMessage k scope user index
  | .edit ⟨agent, user, .deleteAt scope indices⟩ =>
    r.place? agent = some k ∧ ∃ index ∈ indices, r.HasMessage k scope user index
  | .edit ⟨_, _, .clearPublic⟩ | .edit ⟨_, _, .clearEverything⟩ => True
  | _ => False

instance (r : Registry Json) (k : Nat) : DecidablePred (Stage.CountsUp r k) := fun stage ↦ by
  unfold Stage.CountsUp
  split <;> infer_instance

/-! ### Sections that count up -/

section Counting

variable {r : Registry Json} {k : Nat} {p : Persona Json}

/-- The entry at the place of a name is found under it, and is what an update under it replaces. -/
private theorem found_of_place? {agent : String} (h : r.place? agent = some k)
    (hp : r.agents[k]? = some p) : r.find? agent = .ok (some p) ∧
      ∀ q, r.update agent (fun _ ↦ q) = { r with agents := r.agents.set k q } := by
  obtain ⟨q, hd⟩ := Registry.place?_eq_some_iff.mp h
  have hq := hd.stands
  rw [hp] at hq
  cases hq
  exact ⟨(r.find?_eq_some_iff agent p).mpr ⟨k, hd⟩, fun q ↦ Registry.update_of_designates hd _⟩

private theorem hasMessage_iff (hp : r.agents[k]? = some p) {scope : Scope} {user : String}
    {position : Int} : r.HasMessage k scope user position ↔
      1 ≤ position ∧ position ≤ (p.history scope user).length := by
  simp [Registry.HasMessage, hp]

/-- An edit that counts up is carried out. -/
theorem Edit.version_of_countsUp {e : Edit} {now : Int} (hc : (Stage.edit e).CountsUp r k)
    (hp : r.agents[k]? = some p) :
    ∃ p', (e.apply now r).1.agents[k]? = some p' ∧ p'.version = p.version + 1 := by
  have hk := (List.getElem?_eq_some_iff.mp hp).1
  have hset (q : Persona Json) : (r.agents.set k q)[k]? = some q := List.getElem?_set_self hk
  obtain ⟨agent, user, change⟩ := e
  cases change with
  | stop scope =>
    obtain ⟨hf, hu⟩ := found_of_place? hc hp
    refine ⟨p.bump, ?_, rfl⟩
    simp only [apply, onPersona, hf, acceptFreeing, hu, hset]
  | clear scope =>
    obtain ⟨hf, hu⟩ := found_of_place? hc hp
    refine ⟨(p.clear scope user).bump, ?_, by simp⟩
    simp only [apply, onPersona, hf, acceptFreeing, hu, hset]
  | clearPublic => exact ⟨p.clearShared, by simp [apply, acceptFreeing, hp], rfl⟩
  | clearEverything => exact ⟨p.clearAll, by simp [apply, acceptFreeing, hp], rfl⟩
  | editAt scope indices text =>
    cases indices with
    | nil => exact hc.elim
    | cons index indices =>
      obtain ⟨hplace, hsaid, hmessage⟩ := hc
      obtain ⟨hf, hu⟩ := found_of_place? hplace hp
      rw [hasMessage_iff hp] at hmessage
      have hat : ∃ m, (p.history scope user).at? index = some m := by
        rw [History.at?, if_pos (by omega)]
        exact ⟨_, List.getElem?_eq_getElem (by omega)⟩
      obtain ⟨m, hm⟩ := hat
      refine ⟨(p.setHistory scope user ((p.history scope user).setText index (.str text))).bump,
        ?_, by simp⟩
      simp only [apply, editAt, hsaid, onPersona, hf, Persona.editAt?, hm, Option.map_some,
        accept, hu, if_false]
      exact hset _
  | deleteAt scope indices =>
    obtain ⟨hplace, index, hindex, hmessage⟩ := hc
    obtain ⟨hf, hu⟩ := found_of_place? hplace hp
    rw [hasMessage_iff hp] at hmessage
    have hpresent : (p.history scope user).present indices ≠ [] := by
      refine List.ne_nil_of_mem (a := index.toNat) (History.mem_present_iff.mpr ⟨?_, ?_, ?_⟩)
      · rwa [Int.toNat_of_nonneg (by omega)]
      · omega
      · omega
    refine ⟨(p.setHistory scope user ((p.history scope user).without indices)).bump, ?_, by simp⟩
    simp only [apply, deleteAt, List.isEmpty_eq_false_iff.mpr (List.ne_nil_of_mem hindex),
      onPersona, hf, Persona.deleteAt_eq, List.isEmpty_eq_false_iff.mpr hpresent, accept, hu,
      Bool.false_eq_true, if_false]
    exact hset _
  | _ => exact hc.elim

/-- Talk that counts up is accepted. -/
theorem Generation.version_of_countsUp (env : Surroundings) {w : World} {talk : Talk}
    {api : Api Json} {token : Nat}
    (hc : (Stage.talk ⟨talk, .occupied api token⟩).CountsUp w.registry k)
    (hp : w.registry.agents[k]? = some p) :
    ∃ p', (begin env w talk api token).1.registry.agents[k]? = some p' ∧
      p'.version = p.version + 1 := by
  have hk := (List.getElem?_eq_some_iff.mp hp).1
  obtain ⟨hplace, hspoken⟩ := hc
  obtain ⟨hf, hu⟩ := found_of_place? hplace hp
  have haccepted : ∃ h, talk.nextHistory (p.history talk.scope talk.user) w.now = .ok h := by
    unfold Talk.nextHistory
    split
    · dsimp only
      split <;> exact ⟨_, rfl⟩
    · next hagain =>
      rw [if_neg (by simpa [imp_iff_not_or, hagain] using hspoken)]
      exact ⟨_, rfl⟩
  obtain ⟨h, hh⟩ := haccepted
  refine ⟨(p.setHistory talk.scope talk.user h).bump, ?_, by simp⟩
  simp only [begin, hf, hh, hu, World.registry_commit]
  exact List.getElem?_set_self hk

end Counting

namespace Task

variable (env : Surroundings) {w : World} {t : Task} {k : Nat} {p : Persona Json}

private theorem version_of_countsUp (hc : t.stage.CountsUp w.registry k)
    (hp : w.registry.agents[k]? = some p) :
    ∃ p', (t.step env w).1.registry.agents[k]? = some p' ∧ p'.version = p.version + 1 := by
  cases hs : t.stage with
  | edit e =>
    rw [hs] at hc
    have hstep : (t.step env w).1.registry = (e.apply w.now w.registry).1 := by
      rw [step, stepStage, hs]
      exact registry_runEdit env w t e
    rw [hstep]
    exact Edit.version_of_countsUp hc hp
  | talk g =>
    obtain ⟨talk, phase⟩ := g
    rw [hs] at hc
    cases phase with
    | occupied api token =>
      have hstep : (t.step env w).1 = (Generation.begin env w talk api token).1 := by
        rw [step, stepStage, hs]
        rfl
      rw [hstep]
      exact Generation.version_of_countsUp env hc hp
    | _ => exact hc.elim
  | _ =>
    rw [hs] at hc
    exact hc.elim

private theorem deletes?_of_countsUp {r : Registry Json} (hc : t.stage.CountsUp r k) :
    t.deletes? r = none := by
  unfold deletes?
  split
  · next hs =>
    rw [hs] at hc
    exact hc.elim
  · rfl

end Task

/-- An entry that evolves with its version counted up does so in a section that counts it up. -/
theorem Persona.Evolves.version_eq_or {r : Registry Json} {k : Nat} {p p' : Persona Json}
    {stage : Option Stage} (h : p.Evolves r k p' stage) (hp : r.agents[k]? = some p) :
    p'.version = p.version ∨ ∃ s ∈ stage, s.CountsUp r k := by
  cases h with
  | talked about first spoken => exact .inr ⟨_, rfl, about, .inr spoken⟩
  | retaken about again => exact .inr ⟨_, rfl, about, .inl again⟩
  | @thinned e scope indices about change changes =>
    obtain ⟨agent, user, _⟩ := e
    cases change
    obtain ⟨gone, hne, hgone, -⟩ := changes.here
    obtain ⟨i, hi⟩ := List.exists_mem_of_ne_nil gone hne
    obtain ⟨hwanted, h1, hle⟩ := (hgone i).mp hi
    dsimp only at hle
    exact .inr ⟨_, rfl, about, i, hwanted, (hasMessage_iff hp).mpr ⟨by omega, by omega⟩⟩
  | @reworded e scope index indices text about change said changes =>
    obtain ⟨agent, user, _⟩ := e
    cases change
    obtain ⟨hpos, m, hm, -⟩ := changes.here
    have hlt := (List.getElem?_eq_some_iff.mp hm).1
    dsimp only at hlt
    exact .inr ⟨_, rfl, about, said, (hasMessage_iff hp).mpr ⟨by omega, by omega⟩⟩
  | @cleared e scope about change =>
    obtain ⟨agent, user, _⟩ := e
    cases change
    exact .inr ⟨_, rfl, about⟩
  | @sharedCleared e change =>
    obtain ⟨agent, user, _⟩ := e
    cases change
    exact .inr ⟨_, rfl, trivial⟩
  | @allCleared e change =>
    obtain ⟨agent, user, _⟩ := e
    cases change
    exact .inr ⟨_, rfl, trivial⟩
  | @stopped e scope about change =>
    obtain ⟨agent, user, _⟩ := e
    cases change
    exact .inr ⟨_, rfl, about⟩
  | answered _ _ _ _ version => exact .inl version
  | shown _ version => exact .inl version
  | kept _ version => exact .inl version

/-- Every entry evolves, apart from the one that is deleted, and its version is counted up by one
if the section is one that counts it up, and not at all otherwise. -/
theorem Task.version_step (env : Surroundings) (w : World) (t : Task) :
    Registry.Each (fun k p p' ↦ p.Evolves w.registry k p' (some t.stage) ∧
        p'.version = p.version + if t.stage.CountsUp w.registry k then 1 else 0)
      (t.deletes? w.registry) w.registry (t.step env w).1.registry := by
  intro k p hp k' hk'
  obtain ⟨p', hp', hevolves⟩ := t.evolves_step env w k p hp k' hk'
  refine ⟨p', hp', hevolves, ?_⟩
  split
  · next hc =>
    rw [deletes?_of_countsUp hc, placeAfter, Option.some.injEq] at hk'
    subst hk'
    obtain ⟨q, hq, hversion⟩ := version_of_countsUp env hc hp
    rw [hp'] at hq
    cases hq
    exact hversion
  · next hc =>
    rcases hevolves.version_eq_or hp with hversion | ⟨stage, hstage, hcounts⟩
    · omega
    · cases hstage
      exact absurd hcounts hc

namespace Floor

/-- The stage of the command that a move lets proceed. -/
def stage? (s : Floor) : Move → Option Stage
  | .proceed i => s.tasks[i]?.map Task.stage
  | _ => none

/-- A move counts the version of the entry at a place up. -/
def CountsUp (s : Floor) (k : Nat) (move : Move) : Prop :=
  ∃ stage ∈ s.stage? move, stage.CountsUp s.world.registry k

instance (s : Floor) (k : Nat) : DecidablePred (s.CountsUp k) := fun move ↦
  inferInstanceAs (Decidable (∃ stage ∈ s.stage? move, stage.CountsUp s.world.registry k))

end Floor
end PersonaChat
