import PersonaChat.Proofs.Desk.Naming
import PersonaChat.Proofs.Desk.Stages

/-!
# Filling in descriptions beside other commands

Which personas have no description is looked up once, and each description is stored later, under
the name that was looked up then, without another look at what it replaces. The names that are
looked up differ by more than case, so storing one description gives none of the other names one.
What does is listed by `Brings`. Main statement: where no other command brings a description under
a name that is still to be described, filling in descriptions changes none that a user chose.

Spec guidance: `SPEC_FULL.md`, lines 226–227.
-/

namespace PersonaChat

open Text

/-! ### Names without a description -/

namespace Registry

/-- No persona of a name has a description of its own. -/
def Undescribed (r : Registry Json) (name : String) : Prop :=
  ∀ p ∈ r.agents, Name.Matches name p.name → Describing.isUndescribed p = true

namespace Undescribed

variable {r r' : Registry Json} {name : String}

private theorem of_agents_eq (h : r.Undescribed name) (ha : r'.agents = r.agents) :
    r'.Undescribed name := by
  intro p hp
  rw [ha] at hp
  exact h p hp

/-- A persona may change unless it comes to the name with a description. -/
theorem set (h : r.Undescribed name) (k : Nat) {p' : Persona Json}
    (hp : Name.Matches name p'.name → Describing.isUndescribed p' = true) :
    Undescribed { r with agents := r.agents.set k p' } name := by
  intro q hq
  rcases List.mem_or_eq_of_mem_set hq with hq | rfl
  · exact h q hq
  · exact hp

/-- A persona may change in everything else. -/
theorem set_of_eq (h : r.Undescribed name) {k : Nat} {p p' : Persona Json}
    (hp : r.agents[k]? = some p) (hname : p'.name = p.name)
    (hdescription : p'.description = p.description) :
    Undescribed { r with agents := r.agents.set k p' } name := by
  refine h.set k fun hmatches ↦ ?_
  have hold := h p (List.mem_of_getElem? hp) (hname ▸ hmatches)
  rwa [Describing.isUndescribed, hdescription]

/-- A persona may come unless it comes to the name with a description. -/
theorem add (h : r.Undescribed name) {p : Persona Json}
    (hp : Name.Matches name p.name → Describing.isUndescribed p = true) :
    (r.add p).Undescribed name := by
  intro q hq
  rcases List.mem_append.mp hq with hq | hq
  · exact h q hq
  · rw [List.mem_singleton.mp hq]
    exact hp

private theorem eraseIdx (h : r.Undescribed name) (k : Nat) :
    Undescribed { r with agents := r.agents.eraseIdx k } name :=
  fun q hq ↦ h q (List.mem_of_mem_eraseIdx hq)

private theorem map (h : r.Undescribed name) {f : Persona Json → Persona Json}
    (hname : ∀ p, (f p).name = p.name) (hdescription : ∀ p, (f p).description = p.description) :
    Undescribed { r with agents := r.agents.map f } name := by
  intro q hq hmatches
  obtain ⟨p, hp, rfl⟩ := List.mem_map.mp hq
  rw [hname] at hmatches
  rw [Describing.isUndescribed, hdescription]
  exact h p hp hmatches

end Undescribed
end Registry

/-! ### What brings a description -/

/-- An edit may bring a description under a name: it describes the persona of that name, in one way
or the other, or it gives that name to a persona that may have a description. -/
def Edit.Brings (name : String) (e : Edit) : Prop :=
  match e.change with
  | .describe _ => lowerString e.agent = lowerString name
  | .create request => lowerString request.name = lowerString name ∧ request.description ≠ ""
  | .copy given | .rename given => lowerString given = lowerString name
  | _ => False

instance (name : String) : DecidablePred (Edit.Brings name)
  | ⟨agent, _, .describe _⟩ => inferInstanceAs (Decidable (lowerString agent = lowerString name))
  | ⟨_, _, .create request⟩ =>
    inferInstanceAs
      (Decidable (lowerString request.name = lowerString name ∧ request.description ≠ ""))
  | ⟨_, _, .copy given⟩ | ⟨_, _, .rename given⟩ =>
    inferInstanceAs (Decidable (lowerString given = lowerString name))
  | ⟨_, _, .stop _⟩ | ⟨_, _, .setModel _⟩ | ⟨_, _, .setPrompt _⟩ | ⟨_, _, .delete⟩
  | ⟨_, _, .editAt ..⟩ | ⟨_, _, .deleteAt ..⟩ | ⟨_, _, .clear _⟩ | ⟨_, _, .clearPublic⟩
  | ⟨_, _, .clearEverything⟩ => .isFalse id

/-- The name under which the description is stored that the provider has given. -/
def Describing.answered? : Describing → Option String
  | .answered _ (.str name) (.ok (some _)) => some name
  | _ => none

/-- The next section may bring a description under a name: it is such an edit, or it stores the
description that was asked for under that name. -/
def Stage.Brings (name : String) : Stage → Prop
  | .edit e => e.Brings name
  | .describe d => ∃ asked ∈ d.answered?, lowerString asked = lowerString name
  | _ => False

instance (name : String) : DecidablePred (Stage.Brings name)
  | .edit e => inferInstanceAs (Decidable (e.Brings name))
  | .describe d =>
      inferInstanceAs (Decidable (∃ asked ∈ d.answered?, lowerString asked = lowerString name))
  | .release .. | .inspect _ | .talk _ | .configure _ | .configuring _ | .list | .listing _
  | .fetch _
  | .ended _ => .isFalse id

/-- What matches a name under another name has its lower case. -/
theorem Name.Matches.lower_eq {name other : String} {value : Json} (h : Matches name value)
    (h' : Matches other value) : lowerString other = lowerString name := by
  obtain ⟨s, rfl, hs⟩ := h
  obtain ⟨_, ⟨⟩, hs'⟩ := h'
  exact hs'.symm.trans hs

/-- An edit that brings no description under a name leaves it undescribed. -/
theorem Edit.Carries.undescribed {e : Edit} {now : Int} {r r' : Registry Json} {name : String}
    (h : e.Carries now r r') (hbrings : ¬ e.Brings name) (hr : r.Undescribed name) :
    r'.Undescribed name := by
  have hgiven {given : String} (hmatches : Name.Matches name (.str given)) :
      lowerString given = lowerString name := by
    obtain ⟨_, ⟨⟩, hs⟩ := hmatches
    exact hs
  obtain ⟨agent, user, change⟩ := e
  cases h with
  | stopped found => exact hr.set_of_eq found.stands rfl rfl
  | copied found valid => exact hr.add fun hmatches ↦ absurd (hgiven hmatches) hbrings
  | renamed found others_eq valid => exact hr.set _ fun hmatches ↦ absurd (hgiven hmatches) hbrings
  | described found => exact hr.set _ fun hmatches ↦ absurd (hmatches.lower_eq found.named) hbrings
  | equipped found => exact hr.set_of_eq found.stands rfl rfl
  | prompted found => exact hr.set_of_eq found.stands rfl rfl
  | removed found => exact hr.eraseIdx _
  | reworded _ found => exact hr.set_of_eq found.stands (by simp) (by simp)
  | thinned found => exact hr.set_of_eq found.stands (by simp) (by simp)
  | cleared found => exact hr.set_of_eq found.stands (by simp) (by simp)
  | sharedCleared => exact hr.map Persona.name_clearShared fun _ ↦ rfl
  | allCleared => exact hr.map Persona.name_clearAll fun _ ↦ rfl
  | @updated request model k p found resolved =>
    by_cases hnone : request.description = ""
    · exact hr.set_of_eq found.stands rfl (by simp [updated, hnone])
    · exact hr.set _ fun hmatches ↦ absurd ⟨hmatches.lower_eq found.named, hnone⟩ hbrings
  | @created request model valid resolved =>
    refine hr.add fun hmatches ↦ ?_
    by_cases hnone : request.description = ""
    · simp [Describing.isUndescribed, created, Persona.fresh, hnone]
    · exact absurd ⟨hgiven hmatches, hnone⟩ hbrings

/-- A section that brings no description under a name leaves it undescribed. -/
theorem Task.undescribed_step (env : Surroundings) {w : World} {t : Task} {name : String}
    (hbrings : ¬ t.stage.Brings name) (hr : w.registry.Undescribed name) :
    (t.step env w).1.registry.Undescribed name := by
  cases t.saves_step env w with
  | kept same => rwa [same]
  | stored stores speaks =>
    rw [speaks.registry, World.registry_commit]
    cases stores with
    | edited stage carries => exact carries.undescribed (by rwa [stage] at hbrings) hr
    | begun stage phase found next => exact hr.set_of_eq found.stands (by simp) (by simp)
    | completed stage phase found current => exact hr.set_of_eq found.stands (by simp) (by simp)
    | described stage found =>
      rw [stage] at hbrings
      exact hr.set _ fun hmatches ↦ absurd ⟨_, rfl, hmatches.lower_eq found.named⟩ hbrings
    | configured => exact hr.of_agents_eq rfl
    | fetched => exact hr.of_agents_eq rfl
  | spoiled spoils failed =>
    generalize (t.step env w).1.registry = r at spoils
    cases spoils with
    | @edited e stage =>
      rcases e.residue_cases w.registry with h | ⟨scope, indices, k, p, -, hd, h⟩
      · rwa [h]
      · rw [h]
        exact hr.set_of_eq hd.stands (by simp) (by simp)
    | shown stage found => exact hr.set_of_eq found.stands (by simp) (by simp)

/-! ### Who is still to be described -/

/-- The personas that are still to be described, the one that is asked about included. -/
def Describing.pending : Describing → List Json
  | .surveyed _ targets => targets.map Prod.fst
  | .going run => run.remaining.map Prod.fst
  | .waiting run persona _ | .answered run persona _ => persona :: run.remaining.map Prod.fst
  | .asked _ | .finished _ => []

/-- How far describing has come at a stage that describes. -/
def Stage.describing? : Stage → Option Describing
  | .describe d => some d
  | _ => none

/-- A stage describes exactly if it is one of describing. -/
theorem Stage.describing?_eq_some_iff {stage : Stage} {d : Describing} :
    stage.describing? = some d ↔ stage = .describe d := by
  cases stage <;> simp [Stage.describing?]

/-- The names under which a command will store descriptions. -/
def Task.pending (t : Task) : List String :=
  (t.stage.describing?.elim [] Describing.pending).filterMap Json.text?

/-- The names under which a command will store descriptions differ by more than case, and nobody of
these names has a description. -/
structure Task.Fresh (t : Task) (r : Registry Json) : Prop where
  apart : (t.pending.map lowerString).Nodup
  undescribed : ∀ name ∈ t.pending, r.Undescribed name

namespace Task

variable {t t' : Task} {r r' : Registry Json}

/-- Fewer names stay fresh where they stay undescribed. -/
theorem Fresh.sublist (h : t.Fresh r) (hpending : t'.pending.Sublist t.pending)
    (hr : ∀ name ∈ t'.pending, r.Undescribed name → r'.Undescribed name) : t'.Fresh r' where
  apart := h.apart.sublist (hpending.map lowerString)
  undescribed := fun name hname ↦ hr name hname (h.undescribed name (hpending.subset hname))

private theorem fresh_of_pending_eq_nil (h : t.pending = []) : t.Fresh r where
  apart := by simp [h]
  undescribed := by simp [h]

end Task

namespace Describing

variable (env : Surroundings) (w : World)

/-- The names that are looked up are those of personas without a description. In a registry whose
names are told apart nobody else has such a name. -/
theorem fresh_targets {r : Registry Json} (hr : r.WellNamed) {t : Task} {model : Json}
    (hs : t.stage = .describe (.surveyed model (targets r))) : t.Fresh r := by
  have hpending : t.pending = (r.agents.filter isUndescribed).filterMap fun p ↦ p.name.text? := by
    simp [Task.pending, hs, Stage.describing?, pending, targets, List.filterMap_map,
      Function.comp_def]
  refine ⟨?_, fun name hname q hq hmatches ↦ ?_⟩
  · obtain ⟨names, hnames, ha⟩ := hr
    have hall : r.agents.filterMap (fun p ↦ p.name.text?) = names := by
      have hmap : r.agents.filterMap (fun p ↦ p.name.text?) = r.names.filterMap Json.text? := by
        rw [Registry.names, List.filterMap_map]
        rfl
      rw [hmap, hnames, List.filterMap_map]
      exact List.filterMap_some
    rw [hpending]
    apply (ha.sublist _).nodup
    rw [← hall]
    exact List.filter_sublist.filterMap _
  · rw [hpending] at hname
    obtain ⟨p, hp, htext⟩ := List.mem_filterMap.mp hname
    obtain ⟨hp, hnone⟩ := List.mem_filter.mp hp
    have hown : Name.Matches name p.name := by
      cases hn : p.name with
      | str s =>
        rw [hn] at htext
        cases htext
        exact ⟨name, rfl, rfl⟩
      | _ =>
        rw [hn] at htext
        cases htext
    obtain ⟨k, hk⟩ := List.mem_iff_getElem?.mp hp
    obtain ⟨j, hj⟩ := List.mem_iff_getElem?.mp hq
    obtain ⟨-, rfl⟩ := (hr.designates hk hown).unique (hr.designates hj hmatches)
    exact hnone

/-- A persona about which the provider has answered is done with. -/
theorem pending_step_answered (run : DescribingRun) (persona : Json)
    (result : Except Failure (Option String)) :
    ((answered run persona result).step env w).2.pending.Sublist (run.remaining.map Prod.fst) := by
  rcases result with (refusal | crash) | content
  · exact .refl _
  · exact List.nil_sublist _
  · simp only [step]
    split
    · exact .refl _
    · exact .refl _
    · unfold store
      dsimp only
      split
      · exact List.nil_sublist _
      · exact .refl _
      · exact .refl _

/-- Describing goes through the names that were looked up. -/
theorem pending_step {d : Describing} (hd : ∀ ref, d ≠ .asked ref) :
    (d.step env w).2.pending.Sublist d.pending := by
  cases d with
  | asked ref => exact absurd rfl (hd ref)
  | surveyed model targets =>
    simp only [step, connect]
    split
    · exact List.nil_sublist _
    · split
      · exact List.nil_sublist _
      · exact .refl _
  | going run =>
    simp only [step]
    unfold ask
    split
    · exact List.nil_sublist _
    · next persona prompt rest hremaining =>
      dsimp only
      split
      · exact List.nil_sublist _
      · split
        · simp [pending, hremaining]
        · simp [pending, hremaining]
  | waiting run persona request => exact .refl _
  | answered run persona result => exact (pending_step_answered env w run persona result).cons _
  | finished result => exact .refl _

/-- What the survey leads to is told by what it looks up. -/
private theorem survey_cases (ref : String) : (∃ result, (survey w ref).2 = .finished result) ∨
    ∃ model, (survey w ref).2 = .surveyed model (targets w.registry) := by
  unfold survey
  split
  · exact .inl ⟨_, rfl⟩
  · dsimp only
    split
    · exact .inl ⟨_, rfl⟩
    · split
      · exact .inl ⟨_, rfl⟩
      · exact .inr ⟨_, rfl⟩

/-- The survey looks up fresh names, and storing a description under one of them leaves the others
fresh. -/
theorem fresh_step {d : Describing} {t t' : Task} (hs : t.stage = .describe d)
    (hs' : t'.stage = .describe (d.step env w).2) (hr : w.registry.WellNamed)
    (h : t.Fresh w.registry) : t'.Fresh (d.step env w).1.registry := by
  have hpending : t.pending = d.pending.filterMap Json.text? := by
    simp [Task.pending, hs, Stage.describing?]
  have hpending' : t'.pending = (d.step env w).2.pending.filterMap Json.text? := by
    simp [Task.pending, hs', Stage.describing?]
  by_cases hasked : ∃ ref, d = .asked ref
  · obtain ⟨ref, rfl⟩ := hasked
    rcases survey_cases w ref with ⟨result, hsurvey⟩ | ⟨model, hsurvey⟩
    · apply Task.fresh_of_pending_eq_nil
      rw [hpending', step, hsurvey]
      rfl
    · rw [step, (speaks_survey w ref).registry]
      rw [step, hsurvey] at hs'
      exact fresh_targets hr hs'
  · have hsublist := pending_step env w fun ref hd ↦ hasked ⟨ref, hd⟩
    rcases step_cases env w d with hspeaks | ⟨run, name, content, k, p, rfl, hd, hstore⟩
    · rw [hspeaks.registry]
      refine h.sublist ?_ fun _ _ ↦ id
      rw [hpending, hpending']
      exact hsublist.filterMap _
    · -- The name under which the description is stored is none of those that remain.
      have hafter : t'.pending.Sublist (run.remaining.map Prod.fst |>.filterMap Json.text?) := by
        rw [hpending']
        exact (pending_step_answered env w run _ _).filterMap _
      have hbefore : t.pending = name :: (run.remaining.map Prod.fst).filterMap Json.text? := by
        rw [hpending]
        rfl
      have hapart := h.apart
      rw [hbefore, List.map_cons, List.nodup_cons] at hapart
      rw [hstore, World.registry_commit]
      refine h.sublist (hbefore ▸ hafter.cons name) fun other hother hundescribed ↦ ?_
      refine hundescribed.set k fun hmatches ↦ ?_
      have hsame : lowerString name = lowerString other := hmatches.lower_eq hd.named
      exact absurd (hsame ▸ List.mem_map_of_mem (hafter.subset hother)) hapart.1

end Describing

namespace Task

variable (env : Surroundings) (w : World) (t : Task)

private theorem describing?_fail (failure : Failure) :
    (fail w t failure).2.describing? = none := by
  cases failure <;> rfl

/-- Only a command that fills in descriptions goes on doing so. -/
theorem describing?_step (hs : t.stage.describing? = none) :
    (t.step env w).2.stage.describing? = none := by
  have hfollows := t.follows_step env w
  generalize t.stage = stage at hs hfollows
  generalize (t.step env w).2.stage = next at hfollows
  cases hfollows with
  | describing => cases hs
  | _ => rfl

/-- A command that fills in descriptions makes its step; one that has described everybody ends. -/
theorem stepStage_of_describe {d : Describing} (hs : t.stage = .describe d) :
    (stepStage env w t).2.describing? = none ∧ (stepStage env w t).1.registry = w.registry ∨
      stepStage env w t = ((d.step env w).1, .describe (d.step env w).2) := by
  rw [stepStage, hs]
  cases d with
  | finished result =>
    left
    dsimp only
    unfold reportDescribed
    split
    · exact ⟨rfl, rfl⟩
    · exact ⟨describing?_fail w t _, registry_fail w t _⟩
  | _ => exact .inr rfl

/-- An answer leaves alone whom a task has yet to describe. -/
@[simp] theorem pending_answer (a : Answer) : (t.answer a).pending = t.pending := by
  obtain ⟨agent, action, user, textMode, stage⟩ := t
  cases stage with
  | describe d =>
    cases a with
    | chat result => cases d <;> rfl
    | models result => rfl
  | _ => cases a <;> rfl

/-- Nobody is to be described when a command comes in. -/
theorem pending_task (user prompt : String) (images : List Json) (request : Request) :
    (request.task user prompt images).pending = [] := by
  cases request with
  | configure api => rfl
  | create request => rfl
  | command c =>
    obtain ⟨agent, action, args, indices, privateReply, textMode⟩ := c
    cases action <;> rfl

/-- Every section keeps the names fresh under which a command will store descriptions. -/
theorem fresh_step (hr : w.registry.WellNamed) (h : t.Fresh w.registry) :
    (t.step env w).2.Fresh (t.step env w).1.registry := by
  have hended (hs : (t.step env w).2.stage.describing? = none) :
      (t.step env w).2.Fresh (t.step env w).1.registry := by
    apply fresh_of_pending_eq_nil
    rw [pending, hs]
    rfl
  cases hs : t.stage with
  | describe d =>
    rcases stepStage_of_describe env w t hs with ⟨hnone, -⟩ | hstep
    · exact hended hnone
    · simp only [step, hstep]
      exact Describing.fresh_step env w hs rfl hr h
  | _ => exact hended (describing?_step env w t (by rw [hs]; rfl))

end Task

namespace Floor

variable (env : Surroundings) {s : Floor} {i : Nat}

/-- The next move lets another command bring a description under a name under which the given
command will store one. -/
def Brings (i : Nat) (s : Floor) : Move → Prop
  | .proceed j => j ≠ i ∧ ∃ t ∈ s.tasks[j]?, ∃ own ∈ s.tasks[i]?, ∃ name ∈ own.pending,
      t.stage.Brings name
  | _ => False

instance (i : Nat) (s : Floor) : DecidablePred (Brings i s)
  | .proceed j => inferInstanceAs (Decidable (j ≠ i ∧ ∃ t ∈ s.tasks[j]?, ∃ own ∈ s.tasks[i]?,
      ∃ name ∈ own.pending, t.stage.Brings name))
  | .receive .. | .answer .. | .clock .. | .close => inferInstanceAs (Decidable False)

/-- The names under which a command will store descriptions are fresh, in a registry whose names
are told apart. -/
structure Fresh (i : Nat) (s : Floor) : Prop where
  wellNamed : s.world.registry.WellNamed
  task : ∀ own ∈ s.tasks[i]?, own.Fresh s.world.registry

/-- Every move that brings no description under them keeps the names fresh. -/
theorem fresh_take {move : Move} (hbrings : ¬ Brings i s move) (h : s.Fresh i) :
    (s.take env move).Fresh i where
  wellNamed := wellNamed_take env s move h.wellNamed
  task := by
    intro own hown
    cases move with
    | receive user prompt images request =>
      change own ∈ (s.tasks ++ [request.task user prompt images])[i]? at hown
      rw [List.getElem?_append] at hown
      split at hown
      · exact h.task own hown
      · rw [List.mem_singleton.mp (List.mem_of_getElem? hown)]
        exact Task.fresh_of_pending_eq_nil (Task.pending_task user prompt images request)
    | proceed j =>
      change own ∈ (s.proceed env j).tasks[i]? at hown
      change own.Fresh (s.proceed env j).world.registry
      cases ht : s.tasks[j]? with
      | none =>
        rw [proceed_of_getElem?_eq_none env ht] at hown ⊢
        exact h.task own hown
      | some t =>
        by_cases hj : j = i
        · subst hj
          rw [getElem?_proceed_self env ht] at hown
          cases hown
          rw [proceed_of_getElem? env ht]
          exact t.fresh_step env s.world h.wellNamed (h.task t ht)
        · rw [getElem?_proceed_of_ne env hj] at hown
          rw [proceed_of_getElem? env ht]
          refine (h.task own hown).sublist (.refl _) fun name hname hundescribed ↦ ?_
          refine t.undescribed_step env (fun htask ↦ hbrings ?_) hundescribed
          exact ⟨hj, t, ht, own, hown, name, hname, htask⟩
    | answer j a =>
      change own ∈ (s.tasks.modify j (·.answer a))[i]? at hown
      rw [List.getElem?_modify] at hown
      obtain ⟨old, hold, rfl⟩ := Option.map_eq_some_iff.mp hown
      have hpending : (if j = i then old.answer a else old).pending = old.pending := by
        split
        · exact old.pending_answer a
        · rfl
      exact (h.task old hold).sublist (hpending ▸ .refl _) fun _ _ ↦ id
    | clock now => exact h.task own hown
    | close =>
      simp only [take] at hown ⊢
      rw [World.registry_save]
      exact h.task own hown

/-- The next section of a command stores a description in the place of another one that its
persona has got in the meantime. -/
def Overwrites (i : Nat) (s : Floor) : Prop :=
  ∃ run name content k p,
    s.tasks[i]?.bind (·.stage.describing?) =
      some (.answered run (.str name) (.ok (some content))) ∧
    content ≠ "" ∧ s.world.registry.Designates name k p ∧
    Describing.isUndescribed p = false ∧ p.description ≠ .str (Describing.polish content)

/-- The next section of a command leaves the registry alone, or it changes a description where
there is none but the one that every new persona has, and nothing else. -/
def FillsOnly (env : Surroundings) (i : Nat) (s : Floor) : Prop :=
  (s.proceed env i).world.registry = s.world.registry ∨
    ∃ k p text, s.world.registry.agents[k]? = some p ∧ Describing.isUndescribed p = true ∧
      (s.proceed env i).world.registry = { s.world.registry with
        agents := s.world.registry.agents.set k { p with description := .str text } }

/-- A description that was given for a persona is stored, whatever the persona has by then. -/
theorem registry_proceed_of_answered {run : DescribingRun} {name content : String} {k : Nat}
    {p : Persona Json}
    (hanswered : s.tasks[i]?.bind (·.stage.describing?) =
      some (.answered run (.str name) (.ok (some content))))
    (hne : content ≠ "") (hfound : s.world.registry.Designates name k p) :
    (s.proceed env i).world.registry = { s.world.registry with
      agents := s.world.registry.agents.set k
        { p with description := .str (Describing.polish content) } } := by
  obtain ⟨own, hown, hstage⟩ := Option.bind_eq_some_iff.mp hanswered
  have hs := Stage.describing?_eq_some_iff.mp hstage
  rw [proceed_of_getElem? env hown]
  simp only [Task.step, Task.stepStage, hs]
  rw [Describing.step_of_designates env s.world hfound hne, World.registry_commit]

/-- Where a description is overwritten, more is done than filling in. -/
theorem not_fillsOnly_of_overwrites (h : s.Overwrites i) : ¬ s.FillsOnly env i := by
  obtain ⟨run, name, content, k, p, hanswered, hne, hfound, hdescribed, hother⟩ := h
  have hstored := registry_proceed_of_answered env hanswered hne hfound
  have hk : (s.proceed env i).world.registry.agents[k]? =
      some { p with description := .str (Describing.polish content) } := by
    rw [hstored]
    exact List.getElem?_set_self (List.getElem?_eq_some_iff.mp hfound.stands).1
  -- The persona of the name is not left as it was, and it is none that has no description.
  have hchanged : s.world.registry.agents[k]? ≠
      some { p with description := .str (Describing.polish content) } := by
    rw [hfound.stands]
    exact fun h ↦ hother (congrArg Persona.description (Option.some_inj.mp h))
  rintro (hsame | ⟨k', p', text, hp', hundescribed, hsame⟩)
  · exact hchanged (hsame ▸ hk)
  · rw [hsame] at hk
    by_cases hplace : k' = k
    · subst hplace
      cases hfound.stands.symm.trans hp'
      exact Bool.false_ne_true (hdescribed.symm.trans hundescribed)
    · rw [List.getElem?_set_ne hplace] at hk
      exact hchanged hk

/-- A section of a command that fills in descriptions does nothing else exactly if it overwrites
none. -/
theorem fillsOnly_iff {d : Describing} (hd : s.tasks[i]?.bind (·.stage.describing?) = some d) :
    s.FillsOnly env i ↔ ¬ s.Overwrites i := by
  refine ⟨fun hfills hover ↦ not_fillsOnly_of_overwrites env hover hfills, fun hspared ↦ ?_⟩
  obtain ⟨own, hown, hstage⟩ := Option.bind_eq_some_iff.mp hd
  have hs := Stage.describing?_eq_some_iff.mp hstage
  rw [FillsOnly, proceed_of_getElem? env hown]
  simp only [Task.step]
  rcases own.stepStage_of_describe env s.world hs with ⟨-, hsame⟩ | hstep
  · exact .inl hsame
  · rw [hstep]
    rcases d.step_cases env s.world with hspeaks | ⟨run, name, content, k, p, rfl, hfound, hstore⟩
    · exact .inl hspeaks.registry
    · by_cases hempty : content = ""
      · subst hempty
        exact .inl rfl
      · rw [hstore, World.registry_commit]
        by_cases hundescribed : Describing.isUndescribed p = true
        · exact .inr ⟨k, p, Describing.polish content, hfound.stands, hundescribed, rfl⟩
        · -- What is stored is the description that the persona has already.
          have hsame : p.description = .str (Describing.polish content) :=
            not_not.mp fun hother ↦ hspared ⟨run, name, content, k, p, hd, hempty, hfound,
              Bool.not_eq_true _ ▸ hundescribed, hother⟩
          obtain ⟨hlt, hp⟩ := List.getElem?_eq_some_iff.mp hfound.stands
          have hset : s.world.registry.agents.set k p = s.world.registry.agents :=
            hp ▸ List.set_getElem_self hlt
          rw [← hsame]
          exact .inl (congrArg (fun agents ↦ { s.world.registry with agents := agents }) hset)

/-- Where nobody has a description of those whom a command has yet to describe, it overwrites
none. -/
theorem Fresh.not_overwrites (h : s.Fresh i) : ¬ s.Overwrites i := by
  rintro ⟨run, name, content, k, p, hanswered, -, hfound, hdescribed, -⟩
  obtain ⟨own, hown, hstage⟩ := Option.bind_eq_some_iff.mp hanswered
  have hname : name ∈ own.pending := by
    simp [Task.pending, hstage, Describing.pending, Json.text?]
  have hundescribed := (h.task own hown).undescribed name hname p
    (List.mem_of_getElem? hfound.stands) hfound.named
  exact Bool.false_ne_true (hdescribed.symm.trans hundescribed)

/-- A section that fills in descriptions changes descriptions only, one at a time, and only where
there is none but the one that every new persona has, exactly if it does not store what it was
given over a description that the persona of this name has got in the meantime. In a registry
whose names are told apart it never does so as long as no other command brings a description under
a name that is yet to be described. -/
theorem filling_spares_descriptions (env : Surroundings) {w : World} (hw : w.registry.WellNamed)
    (moves : List Move) (i : Nat) :
    let s := run env (opened w) moves
    (s.tasks[i]?.bind (·.stage.describing?)).isSome →
      (s.FillsOnly env i ↔ ¬ s.Overwrites i) ∧
        (Never env (Brings i) (opened w) moves → s.FillsOnly env i) := by
  intro s hdescribing
  obtain ⟨d, hd⟩ := Option.isSome_iff_exists.mp hdescribing
  have hfills := fillsOnly_iff env hd
  refine ⟨hfills, fun hbrings ↦ hfills.mpr ?_⟩
  have hopened : (opened w).Fresh i := ⟨hw, fun own hown ↦ absurd hown (by simp [opened])⟩
  have hfresh : s.Fresh i :=
    run_of_never env (P := Fresh i) (fun _ _ hn h ↦ fresh_take env hn h) hopened hbrings
  exact hfresh.not_overwrites

/-- A world with one persona, `Bot`, that was given no description. -/
private def newBot : World :=
  { World.withBot with registry := { World.withBot.registry with
      agents :=
        [.fresh (.str "Bot") (.str "model") (.str "prompt") (.str defaultDescription) 0] } }

/-- Descriptions are filled in up to the question about `Bot`. -/
private def askingAboutBot : List Move :=
  [.receive "u1" "" [] (.command ⟨"", .fillDescriptions none, "", [], false, false⟩), .proceed 0,
    .proceed 0, .proceed 0]

/-- While the question is put, `Bot` is deleted and created again in another case, without a
description, and so it is described. -/
theorem filling_spares_descriptions_of_created_again :
    let moves := askingAboutBot ++ [.askBot "u2" .delete false "", .proceed 1,
      .receive "u2" "" [] (.create ⟨"bot", "", "", ""⟩), .proceed 2,
      .answer 0 (.chat (.ok (some "a bot")))]
    let s := run .plain (opened newBot) moves
    newBot.registry.WellNamed ∧ Never .plain (Brings 0) (opened newBot) moves ∧
      (s.proceed .plain 0).world.registry.agents.map (·.description) = [.str "a bot"] ∧
      s.FillsOnly .plain 0 ∧ ¬ s.Overwrites 0 := by
  intro moves s
  have hnames : newBot.registry.WellNamed := ⟨["Bot"], rfl, by decide, by decide⟩
  have hbrings : Never .plain (Brings 0) (opened newBot) moves := by decide +kernel
  obtain ⟨hexact, hspares⟩ :=
    filling_spares_descriptions .plain hnames moves 0 (by decide +kernel)
  exact ⟨hnames, hbrings, by decide +kernel, hspares hbrings, hexact.mp (hspares hbrings)⟩

/-- While the question is put, a user describes `Bot`, and the answer takes the place of what the
user chose. -/
theorem not_filling_spares_of_description :
    let moves := askingAboutBot ++ [.askBot "u2" .setDescription false "my words", .proceed 1,
      .answer 0 (.chat (.ok (some "a bot")))]
    let s := run .plain (opened newBot) moves
    s.world.registry.agents.map (·.description) = [.str "my words"] ∧
      (s.tasks[0]?.bind (·.stage.describing?)).isSome ∧
      (s.proceed .plain 0).world.registry.agents.map (·.description) = [.str "a bot"] := by
  decide +kernel

end Floor

end PersonaChat
