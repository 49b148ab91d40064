import Mathlib.Data.List.Perm.Basic
import Mathlib.Data.List.Sort
import Mathlib.Data.Set.List
import PersonaChat.Proofs.Desk.Floor
import PersonaChat.Proofs.Desk.Sections
import PersonaChat.Proofs.Desk.Stages
import PersonaChat.Proofs.Registry.Naming

/-!
# Whose models the models are

To configure a provider is to store its address, to look the address up, to ask for the models and
to store them, with other commands in between. The models that are stored are those of the address
that was looked up, which is the one that was stored last at that time. So they are those of the
provider that is stored in the end, unless they were asked for before its address was stored and
come after its own. Here a floor is followed together with the provider that each command has asked
and the one whose models were stored last. Main statement: the models belong to the provider that
is stored exactly if it offers the same as the one that is followed, and it is the same one where
nobody is fetching when an address is stored for the last time.

Spec guidance: `SPEC_FULL.md`, lines 210–214.
-/

namespace PersonaChat

open Text

/-! ### Models of a provider -/

namespace Fetch

/-- The models that are kept of what a provider serves, in ascending order: those that hold a
keyword, or all where none does. -/
def Keeps (keywords : List String) (ids models : List Json) : Prop :=
  ∃ names : List String, (names.map Json.str).Perm ids ∧ names.Pairwise (· ≤ ·) ∧
    models = (Models.filter keywords names).map .str

/-- What is kept of what a provider serves is determined. -/
theorem Keeps.unique {keywords : List String} {ids models models' : List Json}
    (h : Keeps keywords ids models) (h' : Keeps keywords ids models') : models = models' := by
  obtain ⟨names, hperm, hsorted, rfl⟩ := h
  obtain ⟨names', hperm', hsorted', rfl⟩ := h'
  have hstr : Function.Injective Json.str := fun _ _ hs ↦ by cases hs; rfl
  have hnames : names.Perm names' :=
    (List.map_perm_map_iff hstr).mp (hperm.trans hperm'.symm)
  rw [hnames.eq_of_pairwise' hsorted hsorted']

/-- Of what two providers serve the same is kept. -/
def OffersAlike (keywords : List String) (ids ids' : List Json) : Prop :=
  ∃ models, Keeps keywords ids models ∧ Keeps keywords ids' models

/-- Models that are kept of what one provider serves are kept of what another one serves exactly if
the two offer the same. -/
theorem Keeps.iff_offersAlike {keywords : List String} {ids ids' models : List Json}
    (h : Keeps keywords ids models) :
    Keeps keywords ids' models ↔ OffersAlike keywords ids ids' := by
  constructor
  · intro h'
    exact ⟨models, h, h'⟩
  · rintro ⟨models', hkept, hkept'⟩
    rwa [h.unique hkept]

/-- Names of models are texts. -/
theorem eq_of_names {ids : List Json} {names : List String} (h : Models.names ids = .ok names) :
    ids = names.map .str := by
  have hcopied : names.map Json.str = ids.map id := map_eq_map_of_mapM_eq_ok (fun i name hname ↦ by
    cases i with
    | str s =>
      cases hname
      rfl
    | _ => cases hname) h
  rw [hcopied, List.map_id]

/-- Texts are put in the order of texts. -/
theorem exists_sorted (texts : List String) : ∃ sorted : List String, sorted.Perm texts ∧
    sorted.Pairwise (· ≤ ·) ∧
    (texts.map Json.str).mergeSort (fun a b ↦ (Json.isBelow (id b) (id a)).toOption != some true) =
      sorted.map Json.str := by
  refine ⟨texts.mergeSort (· ≤ ·), List.mergeSort_perm texts _,
    List.pairwise_mergeSort' (· ≤ ·) texts,
    (List.map_mergeSort fun a _ b _ ↦ ?_).symm⟩
  by_cases hle : a ≤ b
  · rw [id, id, Json.isBelow, decide_eq_true hle, decide_eq_false (String.not_lt.mpr hle)]
    rfl
  · rw [id, id, Json.isBelow, decide_eq_false hle, decide_eq_true (String.not_le.mp hle)]
    rfl

/-- The names of models are the identifiers, in ascending order. -/
theorem keeps_of_modelNames {ids : List Json} {names : List String}
    (h : modelNames ids = .ok names)
    (keywords : List String) : Keeps keywords ids ((Models.filter keywords names).map .str) := by
  unfold modelNames Json.sortedBy at h
  cases hcheck : Json.checkComparable (ids.map id) with
  | error crash =>
    rw [hcheck] at h
    cases h
  | ok =>
    simp only [hcheck, bind, Except.bind, pure, Except.pure] at h
    have hnames := eq_of_names h
    -- What was sorted into texts was texts before.
    obtain ⟨texts, rfl⟩ : ids ∈ Set.range (List.map Json.str) := by
      rw [Set.range_list_map]
      intro i hi
      rw [← (List.mergeSort_perm ids _).mem_iff, hnames] at hi
      obtain ⟨s, -, rfl⟩ := List.mem_map.mp hi
      exact ⟨s, rfl⟩
    obtain ⟨sorted, hperm, hsorted, hsame⟩ := exists_sorted texts
    have hstr : Function.Injective Json.str := fun _ _ hs ↦ by cases hs; rfl
    rw [List.map_injective_iff.mpr hstr (hnames.symm.trans hsame)]
    exact ⟨sorted, hperm.map _, hsorted, rfl⟩

/-! ### Fetching -/

/-- The models have been asked for and are still to be stored. -/
def Underway : Fetch → Prop
  | .waiting _ | .answered (.ok _) => True
  | _ => False

/-- What is under way concerns a provider: it is asked, or it has answered what it serves. -/
def Concerns (serves : Api Json → List Json) (api : Api Json) : Fetch → Prop
  | .waiting provider => provider = api
  | .answered (.ok ids) => ids = serves api
  | _ => True

instance : DecidablePred Underway
  | .waiting _ | .answered (.ok _) => .isTrue trivial
  | .asked | .answered (.error _) | .finished _ => .isFalse id

/-- The provider that is asked. -/
def provider? : Fetch → Option (Api Json)
  | .waiting api => some api
  | _ => none

/-- The names of which the next step stores those that are kept. -/
def names? : Fetch → Option (List String)
  | .answered (.ok ids) => (modelNames ids).toOption
  | _ => none

variable {serves : Api Json → List Json} {api : Api Json} {f : Fetch}

private theorem provider?_eq_some_iff : f.provider? = some api ↔ f = .waiting api := by
  cases f <;> simp [provider?]

private theorem underway_of_names? (h : f.names?.isSome = true) : f.Underway := by
  cases f with
  | answered result =>
    cases result with
    | error failure => cases h
    | ok ids => trivial
  | _ => cases h

/-- What is kept of the names that a provider has answered is kept of what it serves. -/
theorem keeps_of_names? {keywords names : List String} (h : f.names? = some names)
    (hconcerns : f.Concerns serves api) :
    Keeps keywords (serves api) ((Models.filter keywords names).map .str) := by
  cases f with
  | answered result =>
    cases result with
    | error failure => cases h
    | ok ids =>
      cases hconcerns
      cases hnames : modelNames (serves api) with
      | error crash =>
        rw [names?, hnames] at h
        cases h
      | ok names =>
        rw [names?, hnames] at h
        cases h
        exact keeps_of_modelNames hnames keywords
  | _ => cases h

variable (env : Surroundings) (w : World)

/-- When the address is looked up, only a question can come of it, to the provider that is
stored. -/
theorem ask_underway (h : (ask env w).2.Underway) :
    (ask env w).2 = .waiting w.registry.api := by
  revert h
  unfold ask
  dsimp only
  split
  · exact False.elim
  · split
    · exact fun _ ↦ rfl
    · exact False.elim

/-- After a step only a question is under way, to the provider that is stored or as before. -/
theorem step_underway (h : (f.step env w).2.Underway) :
    ∃ api, (f.step env w).2 = .waiting api ∧ (api = w.registry.api ∨ f = .waiting api) := by
  cases f with
  | asked => exact ⟨_, ask_underway env w h, .inl rfl⟩
  | waiting provider => exact ⟨provider, rfl, .inr rfl⟩
  | answered result =>
    cases result with
    | error failure => exact h.elim
    | ok ids =>
      revert h
      simp only [step]
      split <;> exact False.elim
  | finished result => exact h.elim

/-- A step changes the models only where names have been answered. -/
theorem registry_step : (f.step env w).1.registry = f.names?.elim w.registry fun names ↦
    { w.registry with models := (Models.filter env.keywords names).map .str } := by
  cases f with
  | asked => exact (speaks_ask env w).registry
  | answered result =>
    cases result with
    | error failure => rfl
    | ok ids =>
      simp only [step, names?]
      cases hnames : modelNames ids with
      | error crash => rfl
      | ok names =>
        simp only [store, World.registry_note, World.registry_commit]
        rfl
  | _ => rfl

/-- Models are kept where names have been answered. -/
theorem names?_of_finished {kept : List String} (h : (f.step env w).2 = .finished (.ok kept)) :
    f = .finished (.ok kept) ∨ f.names?.isSome = true := by
  cases f with
  | asked =>
    revert h
    simp only [step]
    unfold ask
    dsimp only
    split
    · nofun
    · split <;> nofun
  | waiting provider => cases h
  | answered result =>
    cases result with
    | error failure => cases h
    | ok ids =>
      right
      revert h
      simp only [step, names?]
      cases modelNames ids with
      | error crash => nofun
      | ok names => exact fun _ ↦ rfl
  | finished result => exact .inl h

end Fetch

/-- Edits leave the provider and its models alone. -/
theorem Edit.Carries.provider_eq {e : Edit} {now : Int} {r r' : Registry Json}
    (h : e.Carries now r r') : r'.api = r.api ∧ r'.models = r.models := by
  obtain ⟨agent, user, change⟩ := e
  cases h <;> exact ⟨rfl, rfl⟩

/-- The address and the key that are stored next. -/
def Stage.address? : Stage → Option (Api String)
  | .configure api => some api
  | _ => none

namespace Task

/-- The next section of a command stores an address. -/
def StoresApi (t : Task) : Prop := t.stage.address?.isSome = true

instance : DecidablePred StoresApi := fun t ↦
  inferInstanceAs (Decidable (t.stage.address?.isSome = true))

private theorem storesApi_iff {t : Task} : t.StoresApi ↔ ∃ api, t.stage = .configure api := by
  unfold StoresApi
  cases t.stage <;> simp [Stage.address?]

/-- No answer is heard by a command that is to store an address. -/
theorem StoresApi.answer {t : Task} (h : t.StoresApi) (a : Answer) : (t.answer a).StoresApi := by
  obtain ⟨agent, action, user, textMode, stage⟩ := t
  cases stage with
  | configure api => exact h
  | _ => cases h

/-- A command has asked for models and is still to store them. -/
def Fetches (t : Task) : Prop := ∃ f ∈ t.stage.fetch?, f.Underway

instance : DecidablePred Fetches := fun t ↦
  inferInstanceAs (Decidable (∃ f ∈ t.stage.fetch?, f.Underway))

/-- What a command fetches concerns a provider. -/
def Concerns (serves : Api Json → List Json) (api : Api Json) (t : Task) : Prop :=
  ∀ f ∈ t.stage.fetch?, f.Concerns serves api

/-- The provider that a command asks for its models. -/
def provider? (t : Task) : Option (Api Json) := t.stage.fetch?.bind Fetch.provider?

/-- The names of which the next section of a command stores those that are kept. -/
def names? (t : Task) : Option (List String) := t.stage.fetch?.bind Fetch.names?

variable {serves : Api Json → List Json} {api : Api Json} {t : Task}

private theorem provider?_eq_some_iff :
    t.provider? = some api ↔ t.stage.fetch? = some (.waiting api) := by
  simp only [provider?, Option.bind_eq_some_iff, Fetch.provider?_eq_some_iff, exists_eq_right]

private theorem fetches_of_provider? (h : t.provider? = some api) : t.Fetches :=
  ⟨_, provider?_eq_some_iff.mp h, trivial⟩

private theorem concerns_of_provider? (h : t.provider? = some api) : t.Concerns serves api := by
  intro f hf
  cases (provider?_eq_some_iff.mp h).symm.trans hf
  rfl

private theorem fetches_of_names? (h : t.names?.isSome = true) : t.Fetches := by
  obtain ⟨names, hnames⟩ := Option.isSome_iff_exists.mp h
  obtain ⟨f, hf, hn⟩ := Option.bind_eq_some_iff.mp hnames
  exact ⟨f, hf, Fetch.underway_of_names? (by rw [hn]; rfl)⟩

variable (env : Surroundings) (w : World)

/-- A command that fetches models makes of the registry what its fetching makes of it. -/
theorem registry_step_of_fetch {f : Fetch} (hf : t.stage.fetch? = some f) :
    (t.step env w).1.registry = (f.step env w).1.registry := by
  show (stepStage env w t).1.registry = _
  unfold stepStage
  cases hs : t.stage with
  | configuring f' =>
    rw [hs] at hf
    cases hf
    cases f with
    | finished result =>
      dsimp only
      unfold reportConfigured
      split <;> rfl
    | _ => rfl
  | listing f' =>
    rw [hs] at hf
    cases hf
    cases f with
    | finished result =>
      dsimp only
      unfold reportListed
      split <;> rfl
    | _ => rfl
  | fetch f' =>
    rw [hs] at hf
    cases hf
    cases f with
    | finished result => rfl
    | _ => rfl
  | _ =>
    rw [hs] at hf
    cases hf

/-- What is left of a section that fails leaves the provider and its models alone. -/
theorem Spoils.provider_eq {r r' : Registry Json} (h : t.Spoils r r') :
    r'.api = r.api ∧ r'.models = r.models := by
  cases h with
  | @edited e stage =>
    rcases e.residue_cases r with h | ⟨_, _, _, _, -, -, h⟩ <;> rw [h] <;> exact ⟨rfl, rfl⟩
  | shown stage found => exact ⟨rfl, rfl⟩

/-- A command that stores no address leaves the address alone. -/
theorem api_step (hapi : ¬ t.StoresApi) : (t.step env w).1.registry.api = w.registry.api := by
  cases t.saves_step env w with
  | kept same => rw [same]
  | stored stores speaks =>
    rw [speaks.registry, World.registry_commit]
    cases stores with
    | edited stage carries => exact carries.provider_eq.1
    | configured stage => exact absurd (by rw [StoresApi, stage]; rfl) hapi
    | _ => rfl
  | spoiled spoils failed => exact spoils.provider_eq.1

/-- A command changes the models only where it stores those that it has fetched. -/
theorem models_step : (t.step env w).1.registry.models = t.names?.elim w.registry.models
    fun names ↦ (Models.filter env.keywords names).map .str := by
  cases hf : t.stage.fetch? with
  | some f =>
    rw [registry_step_of_fetch env w hf, f.registry_step, names?, hf, Option.bind_some]
    cases f.names? <;> rfl
  | none =>
    rw [names?, hf, Option.bind_none, Option.elim_none]
    cases t.saves_step env w with
    | kept same => rw [same]
    | stored stores speaks =>
      rw [speaks.registry, World.registry_commit]
      cases stores with
      | edited stage carries => exact carries.provider_eq.2
      | fetched stage => cases hf.symm.trans stage
      | _ => rfl
    | spoiled spoils failed => exact spoils.provider_eq.2

/-- After a section of a command only a question is under way, to the provider that is stored or as
before. -/
theorem provider?_step (h : (t.step env w).2.Fetches) : ∃ api,
    (t.step env w).2.provider? = some api ∧ (api = w.registry.api ∨ t.provider? = some api) := by
  simp only [provider?_eq_some_iff]
  obtain ⟨f, hf, hunderway⟩ := h
  have hfollows := t.follows_step env w
  generalize t.stage = stage at hfollows ⊢
  generalize (t.step env w).2.stage = next at hf hfollows ⊢
  cases hfollows with
  | configured | listing =>
    cases hf
    exact hunderway.elim
  | @configuring f' | @fetchingList f' | @fetching f' =>
    cases hf
    obtain ⟨api, hnext, hasked⟩ := f'.step_underway env w hunderway
    exact ⟨api, congrArg some hnext, hasked.imp_right (congrArg some)⟩
  | _ => cases hf

end Task

namespace Stage

/-- An address has been stored, and its models are fetched now or were. -/
def Configures : Stage → Prop
  | .configuring _ | .ended _ => True
  | _ => False

/-- The models have been fetched and stored. -/
def Fetched : Stage → Prop
  | .configuring (.finished (.ok _)) => True
  | stage => stage.EndsWell

private theorem fetched_configuring {f : Fetch} :
    (configuring f).Fetched ↔ ∃ kept, f = .finished (.ok kept) := by
  cases f with
  | finished result => cases result <;> simp [Fetched, EndsWell]
  | _ => simp [Fetched, EndsWell]

private theorem EndsWell.fetched {stage : Stage} (h : stage.EndsWell) : stage.Fetched := by
  cases stage with
  | configuring f => exact h.elim
  | _ => exact h

end Stage

/-- Once it has fetched the models, a command that configures a provider has stored them. -/
theorem Task.fetched_step (env : Surroundings) (w : World) {t : Task}
    (hstage : t.stage.Configures) :
    (t.step env w).2.stage.Configures ∧
      ((t.step env w).2.stage.Fetched → t.stage.Fetched ∨ t.names?.isSome = true) := by
  cases hs : t.stage with
  | configuring f =>
    by_cases hdone : ∃ result, f = .finished result
    · obtain ⟨result, rfl⟩ := hdone
      simp only [step, stepStage, hs]
      rcases result with (refusal | crash) | names
      · exact ⟨trivial, fun hfetched ↦ by cases hfetched⟩
      · exact ⟨trivial, False.elim⟩
      · exact ⟨trivial, fun _ ↦ .inl trivial⟩
    · have hnext : stepStage env w t = ((f.step env w).1, .configuring (f.step env w).2) := by
        rw [stepStage, hs]
        cases f with
        | finished result => exact absurd ⟨result, rfl⟩ hdone
        | _ => rfl
      simp only [step, hnext, names?, hs]
      refine ⟨trivial, fun hfetched ↦ ?_⟩
      obtain ⟨kept, hkept⟩ := Stage.fetched_configuring.mp hfetched
      rcases f.names?_of_finished env w hkept with hsame | hnames
      · exact absurd ⟨.ok kept, hsame⟩ hdone
      · exact .inr hnames
  | ended ending =>
    simp only [step, stepStage, hs]
    exact ⟨trivial, .inl⟩
  | _ =>
    rw [hs] at hstage
    cases hstage

/-- A command that is to store an address goes on to fetch the models. -/
theorem Task.stage_step_of_storesApi (env : Surroundings) (w : World) {t : Task}
    (h : t.StoresApi) : (t.step env w).2.stage = .configuring .asked := by
  obtain ⟨api, hs⟩ := storesApi_iff.mp h
  simp only [step, stepStage, hs]

/-- An answer gives other models than the provider serves that was asked. -/
def Query.Misreports (serves : Api Json → List Json) (a : Answer) : Query → Prop
  | .models api =>
    match a with
    | .models (.ok ids) => ids ≠ serves api
    | _ => False
  | .chat .. => False

instance (serves : Api Json → List Json) :
    ∀ (a : Answer) (query : Query), Decidable (query.Misreports serves a)
  | .models (.ok ids), .models api => inferInstanceAs (Decidable (ids ≠ serves api))
  | .models (.error _), .models _ | .chat _, .models _ | _, .chat .. => .isFalse id

/-- An answer that is true leaves what is fetched concerned with the same provider. -/
theorem Fetch.concerns_answer {serves : Api Json → List Json} {api : Api Json} {f : Fetch}
    {result : Except Failure (List Json)} (h : f.Concerns serves api)
    (hhonest : ∀ query ∈ f.query?, ¬ query.Misreports serves (.models result)) :
    (f.answer result).Concerns serves api := by
  cases f with
  | waiting provider =>
    cases h
    cases result with
    | error failure => trivial
    | ok ids => exact not_not.mp (hhonest (.models _) rfl)
  | _ => exact h

/-- An answer asks nobody and puts nothing under way. -/
theorem Fetch.underway_answer {f : Fetch} {result : Except Failure (List Json)} :
    ((f.answer result).Underway → f.Underway) ∧
      ∀ api, (f.answer result).provider? = some api → f.provider? = some api := by
  cases f with
  | waiting provider => exact ⟨fun _ ↦ trivial, nofun⟩
  | _ => exact ⟨id, fun _ ↦ id⟩

namespace Task

variable {serves : Api Json → List Json} {api : Api Json} {t : Task} (a : Answer)

private theorem concerns_answer (h : t.Concerns serves api)
    (hhonest : ∀ query ∈ t.query?, ¬ query.Misreports serves a) :
    (t.answer a).Concerns serves api := by
  obtain ⟨agent, action, user, textMode, stage⟩ := t
  intro f hf
  cases stage with
  | configuring own | listing own | fetch own =>
    cases a with
    | chat result => exact h f hf
    | models result =>
      cases hf
      exact Fetch.concerns_answer (h own rfl) hhonest
  | talk g | describe d => cases a <;> cases hf
  | _ => cases hf

/-- What is under way after an answer was so before. -/
theorem fetches_answer : ((t.answer a).Fetches → t.Fetches) ∧
    ∀ api, (t.answer a).provider? = some api → t.provider? = some api := by
  obtain ⟨agent, action, user, textMode, stage⟩ := t
  cases stage with
  | configuring f | listing f | fetch f =>
    cases a with
    | chat result => exact ⟨id, fun _ ↦ id⟩
    | models result =>
      refine ⟨?_, fun api ↦ Fetch.underway_answer.2 api⟩
      rintro ⟨_, ⟨⟩, hunderway⟩
      exact ⟨f, rfl, Fetch.underway_answer.1 hunderway⟩
  | talk g | describe d =>
    cases a <;> refine ⟨?_, nofun⟩ <;> rintro ⟨_, ⟨⟩, _⟩
  | _ =>
    refine ⟨?_, nofun⟩
    rintro ⟨_, ⟨⟩, _⟩

/-- A command that comes in has asked for no models yet. -/
theorem not_fetches_task (user prompt : String) (images : List Json) (request : Request) :
    ¬ (request.task user prompt images).Fetches := by
  rintro ⟨f, hf, -⟩
  cases request with
  | configure api => cases hf
  | create request => cases hf
  | command c =>
    obtain ⟨agent, action, args, indices, privateReply, textMode⟩ := c
    cases action <;> cases hf

/-- An answer fetches and ends nothing by itself. -/
theorem fetched_answer (h : t.stage.Configures) :
    (t.answer a).stage.Configures ∧ ((t.answer a).stage.Fetched → t.stage.Fetched) := by
  obtain ⟨agent, action, user, textMode, stage⟩ := t
  cases stage with
  | configuring f =>
    cases a with
    | chat result => exact ⟨trivial, id⟩
    | models result => cases f <;> exact ⟨trivial, id⟩
  | ended ending => exact ⟨trivial, id⟩
  | _ => cases h

end Task

namespace Floor

variable {env : Surroundings} {serves : Api Json → List Json} {s : Floor} {i : Nat}

/-- The next move answers a question for models with others than the provider serves that was
asked. -/
def Misreports (serves : Api Json → List Json) (s : Floor) : Move → Prop
  | .answer i a => ∃ t ∈ s.tasks[i]?, ∃ query ∈ t.query?, query.Misreports serves a
  | _ => False

instance (serves : Api Json → List Json) (s : Floor) : DecidablePred (Misreports serves s)
  | .answer i a =>
    inferInstanceAs (Decidable (∃ t ∈ s.tasks[i]?, ∃ query ∈ t.query?, query.Misreports serves a))
  | .receive .. | .proceed _ | .clock .. | .close => inferInstanceAs (Decidable False)

/-- Nobody is fetching when an address is stored for the last time. -/
def Uncrossed (env : Surroundings) : Floor → List Move → Prop
  | _, [] => True
  | s, move :: moves =>
    (Proceeds Task.StoresApi s move → Never env (Proceeds Task.StoresApi) (s.take env move) moves →
      ∀ t ∈ s.tasks, ¬ t.Fetches) ∧ Uncrossed env (s.take env move) moves

instance decidableUncrossed (env : Surroundings) : ∀ s moves, Decidable (Uncrossed env s moves)
  | _, [] => inferInstanceAs (Decidable True)
  | s, move :: moves =>
    have := decidableUncrossed env (s.take env move) moves
    inferInstanceAs (Decidable ((Proceeds Task.StoresApi s move →
      Never env (Proceeds Task.StoresApi) (s.take env move) moves → ∀ t ∈ s.tasks, ¬ t.Fetches) ∧
      Uncrossed env (s.take env move) moves))

/-- As long as no address is stored, whoever is to store one stays to do so. -/
theorem exists_storesApi {moves : List Move}
    (hstores : Never env (Proceeds Task.StoresApi) s moves)
    (h : (∃ t ∈ s.tasks, t.StoresApi) ∨ ∃ user prompt images api,
      .receive user prompt images (.configure api) ∈ moves) :
    ∃ t ∈ (s.run env moves).tasks, t.StoresApi := by
  induction moves generalizing s with
  | nil => simpa [run] using h
  | cons move moves ih =>
    refine ih hstores.2 ?_
    rcases h with ⟨t, ht, hapi⟩ | ⟨user, prompt, images, api, hmem⟩
    · left
      obtain ⟨i, hi⟩ := List.mem_iff_getElem?.mp ht
      rcases s.getElem?_take env move i with hsame | ⟨t', rfl, ht', -⟩ | ⟨t', a, -, ht', hnext⟩ |
          ⟨_, _, _, _, -, hnone, -⟩
      · exact ⟨t, List.mem_of_getElem? (hsame.trans hi), hapi⟩
      · rw [hi] at ht'
        cases ht'
        exact absurd ⟨t, hi, hapi⟩ hstores.1
      · rw [hi] at ht'
        cases ht'
        exact ⟨_, List.mem_of_getElem? hnext, hapi.answer a⟩
      · rw [hi] at hnone
        cases hnone
    · rcases List.mem_cons.mp hmem with rfl | hmem
      · left
        exact ⟨_, List.mem_append_right _ (List.mem_singleton_self _), rfl⟩
      · exact .inr ⟨user, prompt, images, api, hmem⟩

end Floor

/-! ### Following the models -/

/-- A floor, the provider that each command has asked last for its models, and the provider whose
models were stored last. -/
structure Sourced where
  /-- The floor. -/
  floor : Floor
  /-- The provider that was asked last, by the number of the command. -/
  asked : Nat → Option (Api Json)
  /-- The provider whose models were stored last. -/
  source : Option (Api Json)

namespace Sourced

/-- A floor without commands. -/
def opened (w : World) : Sourced := ⟨.opened w, fun _ ↦ none, none⟩

/-- Carry out a move. A command that stores models stores those of the provider that it has
asked. -/
def take (env : Surroundings) (s : Sourced) (move : Move) : Sourced where
  floor := s.floor.take env move
  asked := fun i ↦ ((s.floor.take env move).tasks[i]?.bind Task.provider?).or (s.asked i)
  source := match move with
    | .proceed i => if (s.floor.tasks[i]?.bind Task.names?).isSome then s.asked i else s.source
    | _ => s.source

/-- Carry out moves one after the other. -/
def run (env : Surroundings) (s : Sourced) (moves : List Move) : Sourced :=
  moves.foldl (take env) s

variable {env : Surroundings} {serves : Api Json → List Json} {s : Sourced} {i : Nat}

/-- What is followed does not change the floor. -/
theorem floor_run (s : Sourced) (moves : List Move) :
    (s.run env moves).floor = s.floor.run env moves := by
  induction moves generalizing s with
  | nil => rfl
  | cons move moves ih => exact ih (s.take env move)

/-- What is under way concerns the provider that was asked, and the models are those of the
provider that is followed. -/
structure Sound (env : Surroundings) (serves : Api Json → List Json) (s : Sourced) : Prop where
  asked : ∀ i t, s.floor.tasks[i]? = some t → t.Fetches →
    ∃ provider, s.asked i = some provider ∧ t.Concerns serves provider
  source : ∀ provider, s.source = some provider →
    Fetch.Keeps env.keywords (serves provider) s.floor.world.registry.models

/-- Whom a command asks after a move is the one that it has asked last. -/
theorem asked_take {move : Move} {t : Task}
    (ht : (s.take env move).floor.tasks[i]? = some t) :
    (s.take env move).asked i = t.provider?.or (s.asked i) := by
  change (s.floor.take env move).tasks[i]? = some t at ht
  simp only [take, ht, Option.bind_some]

/-- A command that stores models makes their provider the one that is followed. -/
theorem source_proceed {t : Task} (ht : s.floor.tasks[i]? = some t) :
    (s.take env (.proceed i)).source = if t.names?.isSome then s.asked i else s.source := by
  simp only [take, ht, Option.bind_some]

/-- The models that a command stores are those of the provider that it has asked. -/
theorem Sound.keeps {t : Task} (h : s.Sound env serves) (ht : s.floor.tasks[i]? = some t)
    {names : List String} (hnames : t.names? = some names) :
    ∃ provider, s.asked i = some provider ∧ Fetch.Keeps env.keywords (serves provider)
      ((Models.filter env.keywords names).map .str) := by
  obtain ⟨provider, hprovider, hconcerns⟩ :=
    h.asked i t ht (Task.fetches_of_names? (by rw [hnames]; rfl))
  obtain ⟨f, hf, hn⟩ := Option.bind_eq_some_iff.mp hnames
  exact ⟨provider, hprovider, Fetch.keeps_of_names? hn (hconcerns f hf)⟩

/-- A move leaves the models and whose they are, or stores those of the provider that a command has
asked. -/
theorem Sound.source_take_cases (h : s.Sound env serves) (move : Move) :
    ((s.take env move).source = s.source ∧
      (s.floor.take env move).world.registry.models = s.floor.world.registry.models) ∨
    ∃ provider, (s.take env move).source = some provider ∧
      Fetch.Keeps env.keywords (serves provider)
        (s.floor.take env move).world.registry.models := by
  have hregistry := s.floor.registry_take env move
  cases move with
  | proceed i =>
    rw [Floor.take]
    cases ht : s.floor.tasks[i]? with
    | none =>
      rw [Floor.proceed_of_getElem?_eq_none env ht]
      refine .inl ⟨?_, rfl⟩
      simp only [Sourced.take, ht, Option.bind_none]
      rfl
    | some t =>
      simp only [source_proceed ht, Floor.proceed_of_getElem? env ht,
        t.models_step env s.floor.world]
      cases hnames : t.names? with
      | none => exact .inl ⟨rfl, rfl⟩
      | some names =>
        obtain ⟨provider, hprovider, hkeeps⟩ := h.keeps ht hnames
        exact .inr ⟨provider, hprovider, hkeeps⟩
  | _ =>
    -- Only sections of commands change the registry.
    rcases hregistry with hr | ⟨_, _, hmove, -⟩
    · rw [hr]
      refine .inl ⟨?_, rfl⟩
      simp only [Sourced.take]
    · cases hmove

/-- As long as providers are answered for truly, this stays so. -/
theorem Sound.take {move : Move} (h : s.Sound env serves)
    (hhonest : ¬ Floor.Misreports serves s.floor move) : (s.take env move).Sound env serves where
  asked := by
    intro i t' ht' hfetches
    cases hp : t'.provider? with
    | some provider =>
      exact ⟨provider, by rw [asked_take ht', hp]; rfl, Task.concerns_of_provider? hp⟩
    | none =>
      rw [asked_take ht', hp, Option.none_or]
      rcases s.floor.getElem?_take env move i with hsame | ⟨t, rfl, ht, hnext⟩ |
        ⟨t, a, rfl, ht, hnext⟩ | ⟨user, prompt, images, request, rfl, -, hnext⟩
      · exact h.asked i t' (hsame.symm.trans ht') hfetches
      · cases ht'.symm.trans hnext
        obtain ⟨api, hasks, -⟩ := t.provider?_step env s.floor.world hfetches
        cases hp.symm.trans hasks
      · cases ht'.symm.trans hnext
        obtain ⟨provider, hprovider, hconcerns⟩ :=
          h.asked i t ht ((Task.fetches_answer a).1 hfetches)
        exact ⟨provider, hprovider, t.concerns_answer a hconcerns fun query hquery hmisreports ↦
          hhonest ⟨t, ht, query, hquery, hmisreports⟩⟩
      · cases ht'.symm.trans hnext
        exact absurd hfetches (Task.not_fetches_task user prompt images request)
  source := by
    intro provider hprovider
    show Fetch.Keeps _ _ (s.floor.take env move).world.registry.models
    rcases h.source_take_cases move with ⟨hsource, hmodels⟩ | ⟨own, hown, hkeeps⟩
    · rw [hmodels]
      exact h.source provider (hsource.symm.trans hprovider)
    · cases hown.symm.trans hprovider
      exact hkeeps

/-- Where nothing was followed yet everything is sound. -/
theorem sound_opened (w : World) : (opened w).Sound env serves where
  asked := fun i t ht ↦ by cases ht
  source := nofun

/-- Once models were stored some provider is followed. -/
theorem Sound.isSome_source_take {move : Move} (h : s.Sound env serves)
    (hsource : s.source.isSome = true) : (s.take env move).source.isSome = true := by
  rcases h.source_take_cases move with ⟨hsame, -⟩ | ⟨provider, hprovider, -⟩
  · rwa [hsame]
  · rw [hprovider]
    rfl

/-! ### Whoever configures a provider has models stored -/

/-- A command is to store an address, or has stored it, and then models have been stored once it
has fetched them. -/
def Settling (i : Nat) (s : Sourced) : Prop :=
  ∃ t, s.floor.tasks[i]? = some t ∧
    (t.StoresApi ∨ t.stage.Configures ∧ (t.stage.Fetched → s.source.isSome = true))

/-- This stays so. -/
theorem Settling.take {move : Move} (hs : s.Settling i) (h : s.Sound env serves) :
    (s.take env move).Settling i := by
  obtain ⟨own, hown, hstage⟩ := hs
  rcases s.floor.getElem?_take env move i with hsame | ⟨t, rfl, ht, hnext⟩ |
    ⟨t, a, rfl, ht, hnext⟩ | ⟨_, _, _, _, -, hnone, -⟩
  · exact ⟨own, hsame.trans hown, hstage.imp_right fun ⟨hconfigures, hfetched⟩ ↦
      ⟨hconfigures, fun hf ↦ h.isSome_source_take (hfetched hf)⟩⟩
  · cases hown.symm.trans ht
    refine ⟨_, hnext, .inr ?_⟩
    rcases hstage with hstores | ⟨hconfigures, hfetched⟩
    · rw [own.stage_step_of_storesApi env s.floor.world hstores]
      exact ⟨trivial, False.elim⟩
    · obtain ⟨hstill, hdone⟩ := own.fetched_step env s.floor.world hconfigures
      refine ⟨hstill, fun hf ↦ ?_⟩
      rcases hdone hf with hbefore | hnames
      · exact h.isSome_source_take (hfetched hbefore)
      · obtain ⟨provider, hprovider, -⟩ := h.asked i own hown (Task.fetches_of_names? hnames)
        rw [source_proceed hown, if_pos hnames, hprovider]
        rfl
  · cases hown.symm.trans ht
    refine ⟨_, hnext, hstage.imp (fun hstores ↦ hstores.answer a) ?_⟩
    rintro ⟨hconfigures, hfetched⟩
    obtain ⟨hstill, hbefore⟩ := own.fetched_answer a hconfigures
    exact ⟨hstill, fun hf ↦ hfetched (hbefore hf)⟩
  · cases hown.symm.trans hnone

/-- A run in which a provider is configured, and providers are answered for truly, is sound, and
somebody stores models in it. -/
theorem sound_run {moves : List Move} (h : s.Sound env serves)
    (hhonest : Floor.Never env (Floor.Misreports serves) s.floor moves)
    (hs : (∃ i, s.Settling i) ∨ ∃ user prompt images api,
      .receive user prompt images (.configure api) ∈ moves) :
    (s.run env moves).Sound env serves ∧ ∃ i, (s.run env moves).Settling i := by
  induction moves generalizing s with
  | nil =>
    refine ⟨h, hs.resolve_right ?_⟩
    rintro ⟨user, prompt, images, api, hmem⟩
    cases hmem
  | cons move moves ih =>
    refine ih (h.take hhonest.1) hhonest.2 ?_
    rcases hs with ⟨i, hi⟩ | ⟨user, prompt, images, api, hmem⟩
    · exact .inl ⟨i, hi.take h⟩
    · rcases List.mem_cons.mp hmem with rfl | hmem
      · left
        refine ⟨s.floor.tasks.length, _, List.getElem?_concat_length, .inl rfl⟩
      · exact .inr ⟨user, prompt, images, api, hmem⟩

/-! ### Where nobody is fetching when the last address is stored -/

/-- Whatever is under way was asked of the provider that is stored, and the given command, which
configured it, has its models followed once it has fetched them. -/
structure Belongs (i : Nat) (s : Sourced) : Prop where
  asked : ∀ j t, s.floor.tasks[j]? = some t → t.Fetches →
    s.asked j = some s.floor.world.registry.api ∧
      ∀ api, t.provider? = some api → api = s.floor.world.registry.api
  own : ∃ t, s.floor.tasks[i]? = some t ∧ t.stage.Configures ∧
    (t.stage.Fetched → s.source = some s.floor.world.registry.api)

/-- Storing an address while nobody is fetching makes everything that is fetched later its own. -/
theorem belongs_of_stores {t : Task} (ht : s.floor.tasks[i]? = some t) (hstores : t.StoresApi)
    (hquiet : ∀ t ∈ s.floor.tasks, ¬ t.Fetches) : (s.take env (.proceed i)).Belongs i := by
  have hnext := t.stage_step_of_storesApi env s.floor.world hstores
  refine ⟨fun j t' ht' hfetches ↦ ?_, _, Floor.getElem?_proceed_self env ht, ?_, ?_⟩
  · exfalso
    change (s.floor.proceed env i).tasks[j]? = some t' at ht'
    rw [Floor.proceed_of_getElem? env ht] at ht'
    rcases List.mem_or_eq_of_mem_set (List.mem_of_getElem? ht') with ht' | rfl
    · exact hquiet t' ht' hfetches
    · obtain ⟨f, hf, hunderway⟩ := hfetches
      rw [hnext] at hf
      cases hf
      exact hunderway
  · rw [hnext]
    trivial
  · rw [hnext]
    exact False.elim

/-- A move that stores no address leaves the address. -/
theorem api_take {move : Move} (hstores : ¬ Floor.Proceeds Task.StoresApi s.floor move) :
    (s.take env move).floor.world.registry.api = s.floor.world.registry.api := by
  show (s.floor.take env move).world.registry.api = _
  rcases s.floor.registry_take env move with hr | ⟨j, t, rfl, ht, hr⟩
  · rw [hr]
  · rw [hr]
    exact t.api_step env s.floor.world fun hs ↦ hstores ⟨t, ht, hs⟩

/-- Once the provider that is stored is followed it stays so. -/
theorem Belongs.source_take {move : Move} (h : s.Belongs i)
    (hbefore : s.source = some s.floor.world.registry.api) :
    (s.take env move).source = some s.floor.world.registry.api := by
  cases move with
  | proceed j =>
    cases ht : s.floor.tasks[j]? with
    | none =>
      simp only [Sourced.take, ht, Option.bind_none]
      exact hbefore
    | some t =>
      rw [source_proceed ht]
      split
      · next hnames => exact (h.asked j t ht (Task.fetches_of_names? hnames)).1
      · exact hbefore
  | _ =>
    simp only [Sourced.take]
    exact hbefore

/-- What is under way after a move is a question to the provider that is stored, or was asked of it
before. -/
theorem Belongs.asked_or {move : Move} {j : Nat} {t' : Task} (h : s.Belongs i)
    (ht' : (s.take env move).floor.tasks[j]? = some t') (hfetches : t'.Fetches) :
    (t'.provider?.isSome = true ∨ s.asked j = some s.floor.world.registry.api) ∧
      ∀ api, t'.provider? = some api → api = s.floor.world.registry.api := by
  rcases s.floor.getElem?_take env move j with hsame | ⟨t, rfl, ht, hnext⟩ |
    ⟨t, a, rfl, ht, hnext⟩ | ⟨user, prompt, images, request, rfl, -, hnext⟩
  · exact (h.asked j t' (hsame.symm.trans ht') hfetches).imp_left .inr
  · cases ht'.symm.trans hnext
    obtain ⟨api, hasks, hcases⟩ := t.provider?_step env s.floor.world hfetches
    refine ⟨.inl (by rw [hasks]; rfl), fun api' hasks' ↦ ?_⟩
    cases hasks.symm.trans hasks'
    rcases hcases with rfl | hbefore
    · rfl
    · exact (h.asked j t ht (Task.fetches_of_provider? hbefore)).2 api hbefore
  · cases ht'.symm.trans hnext
    obtain ⟨hunderway, hbefore⟩ := Task.fetches_answer (t := t) a
    obtain ⟨hasked, hprovider⟩ := h.asked j t ht (hunderway hfetches)
    exact ⟨.inr hasked, fun api hasks ↦ hprovider api (hbefore api hasks)⟩
  · cases ht'.symm.trans hnext
    exact absurd hfetches (Task.not_fetches_task user prompt images request)

/-- As long as no address is stored, this stays so. -/
theorem Belongs.take {move : Move} (h : s.Belongs i)
    (hstores : ¬ Floor.Proceeds Task.StoresApi s.floor move) : (s.take env move).Belongs i := by
  constructor
  · intro j t' ht' hfetches
    obtain ⟨hasked, hprovider⟩ := h.asked_or ht' hfetches
    rw [api_take hstores]
    refine ⟨?_, hprovider⟩
    rw [asked_take ht']
    cases hp : t'.provider? with
    | some api =>
      rw [hprovider api hp]
      rfl
    | none => exact hasked.resolve_left (by rw [hp]; exact Bool.false_ne_true)
  · rw [api_take hstores]
    obtain ⟨own, hown, hconfigures, hfetched⟩ := h.own
    rcases s.floor.getElem?_take env move i with hsame | ⟨t, rfl, ht, hnext⟩ |
      ⟨t, a, rfl, ht, hnext⟩ | ⟨_, _, _, _, -, hnone, -⟩
    · exact ⟨own, hsame.trans hown, hconfigures, fun hf ↦ h.source_take (hfetched hf)⟩
    · cases hown.symm.trans ht
      obtain ⟨hstill, hdone⟩ := own.fetched_step env s.floor.world hconfigures
      refine ⟨_, hnext, hstill, fun hf ↦ ?_⟩
      rcases hdone hf with hbefore | hnames
      · exact h.source_take (hfetched hbefore)
      · rw [source_proceed hown, if_pos hnames]
        exact (h.asked i own hown (Task.fetches_of_names? hnames)).1
    · cases hown.symm.trans ht
      obtain ⟨hstill, hbefore⟩ := own.fetched_answer a hconfigures
      exact ⟨_, hnext, hstill, fun hf ↦ h.source_take (hfetched (hbefore hf))⟩
    · cases hown.symm.trans hnone

private theorem Belongs.run {moves : List Move} (h : s.Belongs i)
    (hstores : Floor.Never env (Floor.Proceeds Task.StoresApi) s.floor moves) :
    (s.run env moves).Belongs i := by
  induction moves generalizing s with
  | nil => exact h
  | cons move moves ih => exact ih (h.take hstores.1) hstores.2

/-- Where an address is stored at all, and nobody is fetching when one is stored for the last time,
the models belong in the end to the provider of the command that stores it. -/
theorem exists_belongs {moves : List Move} (huncrossed : Floor.Uncrossed env s.floor moves)
    (hstores : ¬ Floor.Never env (Floor.Proceeds Task.StoresApi) s.floor moves) :
    ∃ i, (s.run env moves).Belongs i := by
  induction moves generalizing s with
  | nil => exact absurd trivial hstores
  | cons move moves ih =>
    by_cases hlast :
        Floor.Never env (Floor.Proceeds Task.StoresApi) (s.floor.take env move) moves
    · have hmove : Floor.Proceeds Task.StoresApi s.floor move :=
        not_not.mp fun h ↦ hstores ⟨h, hlast⟩
      have hquiet := huncrossed.1 hmove hlast
      cases move with
      | proceed i =>
        obtain ⟨t, ht, hapi⟩ := hmove
        exact ⟨i, (belongs_of_stores ht hapi hquiet).run hlast⟩
      | _ => exact hmove.elim
    · exact ih huncrossed.2 hlast

end Sourced

namespace Floor

/-- Every provider is answered for truly. Then, once every command has ended well, the models that
are stored are those of the provider whose models were stored last, so that they are those of the
provider that is stored exactly if it offers the same. It is that provider if nobody is fetching
when an address is stored for the last time. -/
theorem models_belong_to_api (env : Surroundings) (serves : Api Json → List Json) {w : World}
    {moves : List Move} {user prompt : String} {images : List Json} {api : Api String}
    (hconfigures : .receive user prompt images (.configure api) ∈ moves)
    (hhonest : Never env (Misreports serves) (opened w) moves)
    (hends : ∀ t ∈ (run env (opened w) moves).tasks, t.stage.EndsWell) :
    let r := (run env (opened w) moves).world.registry
    ∃ provider, (Sourced.run env (.opened w) moves).source = some provider ∧
      Fetch.Keeps env.keywords (serves provider) r.models ∧
      (Fetch.Keeps env.keywords (serves r.api) r.models ↔
        Fetch.OffersAlike env.keywords (serves provider) (serves r.api)) ∧
      (Uncrossed env (opened w) moves →
        provider = r.api ∧ Fetch.Keeps env.keywords (serves r.api) r.models) := by
  intro r
  have hfloor : (Sourced.run env (.opened w) moves).floor = run env (opened w) moves :=
    Sourced.floor_run _ moves
  obtain ⟨hsound, i, own, hown, hstage⟩ := Sourced.sound_run (Sourced.sound_opened w) hhonest
    (.inr ⟨user, prompt, images, api, hconfigures⟩)
  rw [hfloor] at hown
  have hend := hends own (List.mem_of_getElem? hown)
  have hnot {t : Task} (ht : t.stage.EndsWell) : ¬ t.StoresApi := by
    intro hstores
    obtain ⟨_, hs⟩ := Task.storesApi_iff.mp hstores
    rw [hs] at ht
    exact ht
  obtain ⟨provider, hprovider⟩ :=
    Option.isSome_iff_exists.mp ((hstage.resolve_left (hnot hend)).2 hend.fetched)
  have hkeeps : Fetch.Keeps env.keywords (serves provider) r.models := by
    have h := hsound.source provider hprovider
    rwa [hfloor] at h
  refine ⟨provider, hprovider, hkeeps, hkeeps.iff_offersAlike, fun huncrossed ↦ ?_⟩
  have hstores : ¬ Never env (Proceeds Task.StoresApi) (opened w) moves := by
    intro hnever
    obtain ⟨t, ht, hapi⟩ := exists_storesApi hnever (.inr ⟨user, prompt, images, api, hconfigures⟩)
    exact hnot (hends t ht) hapi
  obtain ⟨j, hbelongs⟩ := Sourced.exists_belongs (s := .opened w) huncrossed hstores
  obtain ⟨last, hlast, -, hfollowed⟩ := hbelongs.own
  rw [hfloor] at hlast hfollowed
  have hsame : provider = r.api := Option.some_inj.mp
    (hprovider.symm.trans (hfollowed (hends last (List.mem_of_getElem? hlast)).fetched))
  exact ⟨hsame, hsame ▸ hkeeps⟩

/-- Every provider serves one model, which has the name of its address. -/
private def ownModel (api : Api Json) : List Json := [api.base]

/-- A user configures the provider of an address. -/
private def configures (user address : String) : Move :=
  .receive user "" [] (.configure ⟨address, "key"⟩)

/-- The provider of an address answers a command with its model. -/
private def offers (i : Nat) (address : String) : Move :=
  .answer i (.models (.ok [.str address]))

/-- Two users configure providers, and both addresses are stored before anybody looks one up. -/
theorem models_belong_to_api_of_late_lookup :
    let moves := [configures "u1" "a", configures "u2" "b", .proceed 0, .proceed 1, .proceed 0,
      .proceed 1, offers 0 "b", .proceed 0, .proceed 0, offers 1 "b", .proceed 1, .proceed 1]
    let s := run .plain (opened .withBot) moves
    configures "u1" "a" ∈ moves ∧ Never .plain (Misreports ownModel) (opened .withBot) moves ∧
      Uncrossed .plain (opened .withBot) moves ∧ (∀ t ∈ s.tasks, t.stage.EndsWell) ∧
      s.world.registry.api = ⟨.str "b", .str "key"⟩ ∧
      Fetch.Keeps [] (ownModel s.world.registry.api) s.world.registry.models := by
  intro moves s
  have hmem : configures "u1" "a" ∈ moves := List.mem_cons_self
  have hhonest : Never .plain (Misreports ownModel) (opened .withBot) moves := by decide +kernel
  have huncrossed : Uncrossed .plain (opened .withBot) moves := by decide +kernel
  have hends : ∀ t ∈ s.tasks, t.stage.EndsWell := by decide +kernel
  obtain ⟨provider, -, -, -, hbelongs⟩ := models_belong_to_api .plain ownModel hmem hhonest hends
  exact ⟨hmem, hhonest, huncrossed, hends, by decide +kernel, (hbelongs huncrossed).2⟩

/-- The first provider is asked for its models before the address of the second is stored, and
answers when those of the second are stored already. -/
theorem not_models_belong_to_api_of_late_answer :
    let moves := [configures "u1" "a", .proceed 0, .proceed 0, configures "u2" "b", .proceed 1,
      .proceed 1, offers 1 "b", .proceed 1, .proceed 1, offers 0 "a", .proceed 0, .proceed 0]
    let s := run .plain (opened .withBot) moves
    Never .plain (Misreports ownModel) (opened .withBot) moves ∧
      (∀ t ∈ s.tasks, t.stage.EndsWell) ∧
      s.world.registry.api = ⟨.str "b", .str "key"⟩ ∧ s.world.registry.models = [.str "a"] ∧
      ¬ Fetch.Keeps [] (ownModel s.world.registry.api) s.world.registry.models := by
  intro moves s
  have hapi : s.world.registry.api = ⟨.str "b", .str "key"⟩ := by decide +kernel
  have hmodels : s.world.registry.models = [.str "a"] := by decide +kernel
  refine ⟨by decide +kernel, by decide +kernel, hapi, hmodels, ?_⟩
  rw [hapi, hmodels]
  rintro ⟨names, hperm, -, hkept⟩
  obtain ⟨name, rfl, hname⟩ := List.map_eq_singleton_iff.mp (List.perm_singleton.mp hperm)
  cases hname
  revert hkept
  decide +kernel

end Floor

end PersonaChat
