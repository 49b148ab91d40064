import PersonaChat.Proofs.Desk.Frame
import PersonaChat.Proofs.Registry.Edits

/-!
# What a section does to the registry

`Stores` lists the registries that the next section of a task may store, with the exact persona
that comes out where one changes. A section stores such a registry and saves it, or it leaves the
registry as it is; only a section that fails may leave another one, and saves nothing. What a
section makes of the personas is read off these cases. Only generations and releases touch the busy
conversations; the other sections leave those alone.
-/

namespace PersonaChat

namespace Inspection

/-- The history that is shown. -/
def history? : Inspection → Option (String × Scope)
  | .wholeHistory agent scope | .positions agent scope _ => some (agent, scope)
  | _ => none

/-- What showing something to a user comes to. It leaves the busy conversations alone. Of the
registry it changes at most the history that is shown, with a message that cannot be shown, and
then it crashes. It is refused before anything is done, but for files that cannot be written or
sent, and otherwise it ends well and the user has got something. -/
structure Shows (i : Inspection) (w : World) (user : String) (textMode : Bool) (x : Result) :
    Prop where
  /-- The busy conversations stay. -/
  busy : x.1.busy = w.busy
  /-- At most one history changes. -/
  registry : x.1.registry = w.registry ∨ ∃ agent scope indices k p crash,
    i.history? = some (agent, scope) ∧ w.registry.Designates agent k p ∧
    p.history scope user ≠ [] ∧
    x.1.registry = { w.registry with
      agents := w.registry.agents.set k (p.setHistory scope user
        (View.historyAfterShowing (p.history scope user) indices textMode)) } ∧
    x.2 = .error (.crashed crash)
  /-- A refusal comes before everything else. -/
  refused : ∀ refusal, x.2 = .error (.refused refusal) → refusal.kind ≠ .general → x.1 = w
  /-- What is shown is shown well. -/
  done : ∀ outcome, x.2 = .ok outcome → outcome.kind = .ok
  /-- What is shown reaches the user. -/
  sends : ∃ new, x.1.events = w.events ++ new ∧ ∀ outcome, x.2 = .ok outcome → ¬ Silent new

variable (env : Surroundings) {i : Inspection} (w : World) (user : String) (textMode : Bool)

private theorem shows_failed (failure : Failure) :
    i.Shows w user textMode (w, .error failure) :=
  ⟨rfl, .inl rfl, fun _ _ _ ↦ rfl, nofun, [], (List.append_nil _).symm, nofun⟩

private theorem shows_spoken {w' : World} {outcome : Outcome} {new : List Event} (h : w.Speaks w')
    (hk : outcome.kind = .ok) (he : w'.events = w.events ++ new) (hr : ¬ Silent new) :
    i.Shows w user textMode (w', .ok outcome) :=
  ⟨h.busy, .inl h.registry, nofun, fun _ ho ↦ by cases ho; exact hk, new, he, fun _ _ ↦ hr⟩

private theorem shows_acknowledge (text : String) : i.Shows w user textMode (acknowledge w text) :=
  shows_spoken w user textMode (w.speaks_say text) rfl rfl
    (not_silent_of_mem List.mem_cons_self rfl)

private theorem shows_attempt {α : Type} {value : Except Crash α} {go : α → Result}
    (h : ∀ a, i.Shows w user textMode (go a)) : i.Shows w user textMode (attempt w value go) := by
  unfold attempt
  split
  · exact shows_failed w user textMode _
  · exact h _

private theorem shows_onPersona {agent : String} {look : Persona Json → Result}
    (h : ∀ k p, w.registry.Designates agent k p → i.Shows w user textMode (look p)) :
    i.Shows w user textMode (onPersona w agent look) := by
  unfold onPersona attempt
  split
  · exact shows_failed w user textMode _
  · next found hf =>
    dsimp only
    split
    · exact shows_failed w user textMode _
    · next p =>
      obtain ⟨k, hd⟩ := (w.registry.find?_eq_some_iff agent p).mp hf
      exact h k p hd

private theorem shows_attemptShowing {α : Type} {agent : String} {scope : Scope}
    {indices : List Int} {shown : Except Crash α} {go : α → Result} {k : Nat} {p : Persona Json}
    (hi : i.history? = some (agent, scope)) (hd : w.registry.Designates agent k p)
    (h : ∀ a, i.Shows w user textMode (go a)) :
    i.Shows w user textMode (attemptShowing w agent user scope indices textMode shown go) := by
  unfold attemptShowing
  split
  · next crash =>
    refine ⟨rfl, ?_, nofun, nofun, [], (List.append_nil _).symm, nofun⟩
    dsimp only
    rw [Registry.update_of_designates hd]
    by_cases he : (p.history scope user).isEmpty
    · rw [if_pos he, Registry.set_of_designates hd]
      exact .inl rfl
    · rw [if_neg he]
      exact .inr ⟨agent, scope, indices, k, p, crash, hi, hd, mt List.isEmpty_iff.mpr he, rfl, rfl⟩
  · exact h _

private theorem shows_showText (plain : Bool) (title content : String) :
    i.Shows w user textMode (showText env w plain title content) :=
  shows_spoken w user textMode (w.speaks_present env content plain title) rfl
    (w.events_present env content plain title)
      (World.not_silent_presentation env content plain title)

private theorem shows_sendFile (name content : String) :
    i.Shows w user textMode (sendFile env w name content) := by
  -- A file that cannot be written is a refusal of the general kind.
  have fault (disk : Disk) (f : DiskFault) (path : Path) :
      i.Shows w user textMode (refuse { w with disk := disk } (exportFault env f path)) :=
    ⟨rfl, .inl rfl, fun refusal he hk ↦ by cases he; exact absurd rfl hk, nofun,
      [], (List.append_nil _).symm, nofun⟩
  unfold sendFile
  dsimp only
  split
  · exact fault w.disk _ _
  · split
    · exact ⟨rfl, .inl rfl, nofun, nofun, [], (List.append_nil _).symm, nofun⟩
    · split
      · exact fault _ _ _
      · split
        · exact ⟨rfl, .inl rfl, fun refusal he hk ↦ by cases he; exact absurd rfl hk, nofun,
            _, rfl, nofun⟩
        · exact ⟨rfl, .inl rfl, nofun, fun outcome ho ↦ by cases ho; rfl,
            _, List.append_assoc .., fun _ _ ↦ not_silent_of_mem List.mem_cons_self rfl⟩

private theorem shows_showPositions (agent : String) (scope : Scope) (indices : List Int) :
    (positions agent scope indices).Shows w user textMode
      (showPositions env w textMode user agent scope indices) := by
  unfold showPositions
  split
  · exact shows_failed w user textMode _
  · refine shows_onPersona w user textMode fun k p hd ↦ ?_
    refine shows_attemptShowing w user textMode rfl hd fun shown ↦ ?_
    split
    · exact shows_failed w user textMode _
    · refine shows_attempt w user textMode fun pictures ↦ ?_
      have hs := (w.speaks_present env (View.rule.intercalate shown) textMode
        (agent ++ " 历史记录")).trans (World.speaks_sendImages _ pictures)
      obtain ⟨new, he⟩ :=
        (World.speaks_sendImages (w.present env (View.rule.intercalate shown) textMode
        (agent ++ " 历史记录")) pictures).events
      rw [World.events_present, List.append_assoc] at he
      dsimp only
      split
      · next h =>
        rw [h] at hs he
        exact shows_spoken w user textMode hs rfl he
          fun hsilent ↦ World.not_silent_presentation env _ _ _ (silent_append.mp hsilent).1
      · next h =>
        rw [h] at hs he
        exact ⟨hs.busy, .inl hs.registry, nofun, nofun, _, he, nofun⟩

/-- Showing something comes to nothing beyond what `Shows` allows. -/
theorem shows_run (i : Inspection) : i.Shows w user textMode (i.run env w user textMode) := by
  cases i with
  | prompt agent =>
    refine shows_onPersona w user textMode fun k p hd ↦ ?_
    split
    · exact shows_spoken w user textMode (w.speaks_emit _) rfl rfl
        (not_silent_of_mem List.mem_cons_self rfl)
    · exact shows_showText env w user textMode false _ _
  | personas =>
    refine shows_attempt w user textMode fun content ↦ ?_
    split
    · exact shows_acknowledge w user textMode _
    · exact shows_showText env w user textMode textMode _ _
  | models =>
    refine shows_attempt w user textMode fun content ↦ ?_
    split
    · exact shows_acknowledge w user textMode _
    · exact shows_showText env w user textMode textMode _ _
  | wholeHistory agent scope =>
    refine shows_onPersona w user textMode fun k p hd ↦ ?_
    dsimp only
    split
    · exact shows_acknowledge w user textMode _
    · exact shows_attemptShowing w user textMode rfl hd fun content ↦
        shows_showText env w user textMode textMode _ _
  | positions agent scope indices =>
      exact shows_showPositions env w user textMode agent scope indices
  | exportFile agent scope =>
    refine shows_onPersona w user textMode fun k p hd ↦ ?_
    dsimp only
    split
    · exact shows_acknowledge w user textMode _
    · exact shows_attempt w user textMode fun content ↦
        shows_attempt w user textMode fun name ↦ shows_sendFile env w user textMode name content
  | help => exact shows_showText env w user textMode textMode _ _

end Inspection

namespace Fetch

variable (env : Surroundings) (w : World) (f : Fetch)

/-- Asking for the models speaks. -/
theorem speaks_ask : w.Speaks (ask env w).1 := by
  have hs := w.speaks_ask env (.models w.registry.api)
  unfold ask
  dsimp only
  split
  · exact .refl w
  · split
    · next h => rwa [h] at hs
    · next h => rwa [h] at hs

/-- Fetching the models speaks, or it stores models. -/
theorem step_cases : w.Speaks (f.step env w).1 ∨ ∃ models : List String,
    (w.commit env { w.registry with models := models.map .str }).Speaks (f.step env w).1 := by
  unfold step
  split
  · exact .inl (speaks_ask env w)
  · exact .inl (.refl w)
  · exact .inl (.refl w)
  · split
    · exact .inl (.refl w)
    · next names _ => exact .inr ⟨Models.filter env.keywords names, World.speaks_note _ _ _ _⟩
  · exact .inl (.refl w)

/-- Fetching the models leaves the busy conversations alone. -/
@[simp] theorem busy_step : (f.step env w).1.busy = w.busy := by
  rcases step_cases env w f with h | ⟨models, h⟩
  · exact h.busy
  · rw [h.busy, World.busy_commit]

end Fetch

namespace Describing

/-- What describing may make of the personas: one of them may get a new description. -/
def Rewords (r r' : Registry Json) : Prop :=
  r' = r ∨ ∃ name k p text, r.Designates name k p ∧
    r' = { r with agents := r.agents.set k { p with description := .str text } }

variable (env : Surroundings) (w : World)

/-- Asking for a description speaks. -/
theorem speaks_ask (run : DescribingRun) : w.Speaks (ask env w run).1 := by
  unfold ask
  split
  · exact .refl w
  · dsimp only
    split
    · exact .refl w
    · next question _ =>
      have hs := w.speaks_ask env (.chat run.api question)
      split
      · next h => rwa [h] at hs
      · next h => rwa [h] at hs

/-- Looking for personas to describe speaks. -/
theorem speaks_survey (ref : String) : w.Speaks (survey w ref).1 := by
  unfold survey
  split
  · exact .refl w
  · dsimp only
    split
    · exact .refl w
    · split
      · exact .refl w
      · exact w.speaks_say _

private theorem store_cases (run : DescribingRun) (persona : Json) (content : String) :
    (store env w run persona content).1 = w ∨ ∃ name k p,
      persona = .str name ∧ w.registry.Designates name k p ∧
      (store env w run persona content).1 = w.commit env { w.registry with
        agents := w.registry.agents.set k { p with description := .str (polish content) } } := by
  unfold store
  dsimp only
  split
  · exact .inl rfl
  · exact .inl rfl
  · next name p hf =>
    have hp : persona = .str name ∧ w.registry.find? name = .ok (some p) := by
      cases persona with
      | str lower =>
        cases hq : w.registry.find? lower with
        | error crash => simp [Json.forOperation, hq, bind, Except.bind] at hf
        | ok found =>
          simp only [Json.forOperation, hq, bind, Except.bind, pure, Except.pure, Except.ok.injEq,
            Prod.mk.injEq] at hf
          obtain ⟨rfl, rfl⟩ := hf
          exact ⟨rfl, hq⟩
      | _ => simp [Json.forOperation, bind, Except.bind] at hf
    obtain ⟨rfl, hp⟩ := hp
    obtain ⟨k, hd⟩ := (w.registry.find?_eq_some_iff name p).mp hp
    refine .inr ⟨name, k, p, rfl, hd, ?_⟩
    rw [Registry.update_of_designates hd]

/-- Describing speaks, or it stores the description that was given for a persona. -/
theorem step_cases (d : Describing) : w.Speaks (d.step env w).1 ∨ ∃ run name content k p,
    d = .answered run (.str name) (.ok (some content)) ∧ w.registry.Designates name k p ∧
    (d.step env w).1 = w.commit env { w.registry with
      agents := w.registry.agents.set k { p with description := .str (polish content) } } := by
  cases d with
  | asked ref => exact .inl (speaks_survey w ref)
  | surveyed model targets => exact .inl (.refl w)
  | going run => exact .inl (speaks_ask env w run)
  | waiting run persona request => exact .inl (.refl w)
  | answered run persona result =>
    rcases result with (refusal | crash) | content
    · exact .inl (w.speaks_note _ _ _)
    · exact .inl (.refl w)
    · simp only [step]
      split
      · exact .inl (.refl w)
      · exact .inl (.refl w)
      · next content _ =>
        rcases store_cases env w run persona content with h | ⟨name, k, p, rfl, hd, h⟩
        · rw [h]
          exact .inl (.refl w)
        · exact .inr ⟨run, name, content, k, p, rfl, hd, h⟩
  | finished result => exact .inl (.refl w)

/-- A description that was given for a persona is stored, whatever the persona has by then. -/
theorem step_of_designates {run : DescribingRun} {name content : String} {k : Nat}
    {p : Persona Json} (hd : w.registry.Designates name k p) (hne : content ≠ "") :
    ((answered run (.str name) (.ok (some content))).step env w).1 =
      w.commit env { w.registry with
        agents := w.registry.agents.set k { p with description := .str (polish content) } } := by
  have hstore : (answered run (.str name) (.ok (some content))).step env w =
      store env w run (.str name) content := by
    simp only [step]
  have hfound := (w.registry.find?_eq_some_iff name p).mpr ⟨k, hd⟩
  simp only [hstore, store, Json.forOperation, hfound, bind, Except.bind, pure, Except.pure,
    Registry.update_of_designates hd]

/-- Describing leaves the busy conversations alone and changes at most one description at a
time. -/
theorem step_frame (d : Describing) :
    (d.step env w).1.busy = w.busy ∧ Rewords w.registry (d.step env w).1.registry := by
  rcases step_cases env w d with h | ⟨run, name, content, k, p, -, hd, h⟩
  · exact ⟨h.busy, .inl h.registry⟩
  · rw [h, World.busy_commit, World.registry_commit]
    exact ⟨rfl, .inr ⟨name, k, p, polish content, hd, rfl⟩⟩

end Describing

namespace Stage

/-- A request that has come to this stage has ended well. -/
def EndsWell : Stage → Prop
  | .ended (.outcome o) => o.kind = .ok
  | .ended (.models _) => True
  | _ => False

instance : DecidablePred EndsWell
  | .ended (.outcome o) => inferInstanceAs (Decidable (o.kind = .ok))
  | .ended (.models _) => .isTrue trivial
  | .ended (.raised _) | .edit _ | .release .. | .inspect _ | .talk _ | .configure _
  | .configuring _
  | .list | .listing _ | .fetch _ | .describe _ => .isFalse id

/-- A request that has come to this stage has ended, and not well. -/
def Failed : Stage → Prop
  | .ended (.outcome o) => o.kind ≠ .ok
  | .ended (.raised _) => True
  | _ => False

instance : DecidablePred Failed
  | .ended (.outcome o) => inferInstanceAs (Decidable (o.kind ≠ .ok))
  | .ended (.raised _) => .isTrue trivial
  | .ended (.models _) | .edit _ | .release .. | .inspect _ | .talk _ | .configure _
  | .configuring _
  | .list | .listing _ | .fetch _ | .describe _ => .isFalse id

/-- A request has failed when it has ended, and not well. -/
theorem failed_iff {stage : Stage} :
    stage.Failed ↔ (∃ ending, stage = .ended ending) ∧ ¬ stage.EndsWell := by
  cases stage with
  | ended ending => cases ending <;> simp [Failed, EndsWell]
  | _ => simp [Failed]

/-- How far the models have been fetched at a stage that fetches them. -/
def fetch? : Stage → Option Fetch
  | .configuring f | .listing f | .fetch f => some f
  | _ => none

end Stage

namespace Task

/-- The registry that the next section of a task may store. -/
inductive Stores (t : Task) (now : Int) (r : Registry Json) : Registry Json → Prop where
  /-- An edit is carried out. -/
  | edited {e : Edit} {r' : Registry Json} (stage : t.stage = .edit e)
      (carries : e.Carries now r r') : Stores t now r r'
  /-- A generation stores what the user says and counts up the version. -/
  | begun {g : Generation} {api : Api Json} {token k : Nat} {p : Persona Json} {h : History Json}
      (stage : t.stage = .talk g) (phase : g.phase = .occupied api token)
      (found : r.Designates g.talk.agent k p)
      (next : g.talk.nextHistory (p.history g.talk.scope g.talk.user) now = .ok h) :
      Stores t now r
        { r with agents := r.agents.set k (p.setHistory g.talk.scope g.talk.user h).bump }
  /-- A generation stores an answer. -/
  | completed {g : Generation} {ticket : Ticket} {content : String} {k : Nat} {p : Persona Json}
      (stage : t.stage = .talk g) (phase : g.phase = .freed ticket (.ok (some content)))
      (found : r.Designates ticket.persona k p) (current : p.version = ticket.version) :
      Stores t now r { r with
        agents := r.agents.set k (p.append g.talk.scope g.talk.user (.ofAssistant content now)) }
  /-- A persona is described. -/
  | described {run : DescribingRun} {name content text : String} {k : Nat} {p : Persona Json}
      (stage : t.stage = .describe (.answered run (.str name) (.ok (some content))))
      (found : r.Designates name k p) :
      Stores t now r { r with agents := r.agents.set k { p with description := .str text } }
  /-- The provider is another one. -/
  | configured {api : Api String} (stage : t.stage = .configure api) :
      Stores t now r (r.setApi (api.map .str))
  /-- The models are those that were fetched. -/
  | fetched {f : Fetch} {models : List String} (stage : t.stage.fetch? = some f) :
      Stores t now r { r with models := models.map .str }

/-- What a section that fails may leave in the registry. -/
inductive Spoils (t : Task) (r : Registry Json) : Registry Json → Prop where
  /-- An edit leaves its residue. -/
  | edited {e : Edit} (stage : t.stage = .edit e) : Spoils t r (e.residue r)
  /-- A history is left with a message that could not be shown. -/
  | shown {i : Inspection} {agent : String} {scope : Scope} {indices : List Int} {k : Nat}
      {p : Persona Json} (stage : t.stage = .inspect i) (found : r.Designates agent k p) :
      Spoils t r { r with
        agents := r.agents.set k (p.setHistory scope t.user
          (View.historyAfterShowing (p.history scope t.user) indices t.textMode)) }

/-- What the next section of a task does about the registry. -/
inductive Saves (env : Surroundings) (w : World) (t : Task) (w' : World) (stage : Stage) :
    Prop where
  /-- The registry stays. -/
  | kept (same : w'.registry = w.registry)
  /-- A registry is stored and saved, and then there is only talk. -/
  | stored {r : Registry Json} (stores : t.Stores w.now w.registry r)
      (speaks : (w.commit env r).Speaks w')
  /-- The section fails. -/
  | spoiled (spoils : t.Spoils w.registry w'.registry) (failed : stage.Failed)

/-- What the next section of a task may make of the registry. -/
inductive Rewrites (t : Task) (now : Int) (r : Registry Json) : Registry Json → Prop where
  /-- The personas stay as they are. -/
  | kept {r' : Registry Json} (agents_eq : r'.agents = r.agents) : Rewrites t now r r'
  /-- An edit is carried out. -/
  | edited {e : Edit} {r' : Registry Json} (stage : t.stage = .edit e)
      (makes : e.Makes now r r') : Rewrites t now r r'
  /-- A generation stores what the user says and counts up the version. -/
  | begun {g : Generation} {api : Api Json} {token k : Nat} {p : Persona Json} {h : History Json}
      (stage : t.stage = .talk g) (phase : g.phase = .occupied api token)
      (found : r.Designates g.talk.agent k p)
      (next : g.talk.nextHistory (p.history g.talk.scope g.talk.user) now = .ok h) :
      Rewrites t now r
        { r with agents := r.agents.set k (p.setHistory g.talk.scope g.talk.user h).bump }
  /-- A generation stores an answer. -/
  | completed {g : Generation} {ticket : Ticket} {content : String} {k : Nat} {p : Persona Json}
      (stage : t.stage = .talk g) (phase : g.phase = .freed ticket (.ok (some content)))
      (found : r.Designates ticket.persona k p) (current : p.version = ticket.version) :
      Rewrites t now r { r with
        agents := r.agents.set k (p.append g.talk.scope g.talk.user (.ofAssistant content now)) }
  /-- A persona is described. -/
  | described {name text : String} {k : Nat} {p : Persona Json} (found : r.Designates name k p) :
      Rewrites t now r { r with agents := r.agents.set k { p with description := .str text } }
  /-- A history is left with a message that could not be shown. -/
  | shown {i : Inspection} {agent : String} {scope : Scope} {indices : List Int} {k : Nat}
      {p : Persona Json} (found : r.Designates agent k p) (stage : t.stage = .inspect i) :
      Rewrites t now r { r with
        agents := r.agents.set k (p.setHistory scope t.user
          (View.historyAfterShowing (p.history scope t.user) indices t.textMode)) }

variable (env : Surroundings) (w : World) (t : Task)

/-- A refusal leaves the busy conversations alone. -/
@[simp] theorem busy_refuse (refusal : Refusal) : (refuse w t refusal).1.busy = w.busy := rfl

/-- A failure leaves the registry alone. -/
@[simp] theorem registry_fail (failure : Failure) :
    (fail w t failure).1.registry = w.registry := by
  cases failure <;> rfl

/-- A failure leaves the busy conversations alone. -/
@[simp] theorem busy_fail (failure : Failure) : (fail w t failure).1.busy = w.busy := by
  cases failure <;> rfl

/-- An edit makes of the registry what it does by itself, whether it succeeds or not. -/
theorem registry_runEdit (e : Edit) :
    (runEdit env w t e).1.registry = (e.apply w.now w.registry).1 := by
  unfold runEdit
  split
  · next h => simp [h]
  · next r done h =>
    dsimp only
    split <;> simp [h, acknowledge]

/-- An edit leaves the busy conversations to a section of its own. -/
theorem busy_runEdit (e : Edit) : (runEdit env w t e).1.busy = w.busy := by
  unfold runEdit
  split
  · simp
  · dsimp only
    split <;> simp [acknowledge]

/-- A failure is told to the user or passed on. -/
theorem speaks_fail (failure : Failure) : w.Speaks (fail w t failure).1 := by
  cases failure with
  | refused refusal => exact (w.speaks_note _ _ _).trans (World.speaks_say _ _)
  | crashed crash => exact .refl w

/-- A failure ends a task, and not well. -/
theorem failed_fail (failure : Failure) : (fail w t failure).2.Failed := by
  cases failure with
  | refused refusal =>
    show refusal.kind.outcome ≠ .ok
    cases refusal.kind <;> decide
  | crashed crash => trivial

/-- What showing something comes to is told to the user or passed on. -/
theorem speaks_runInspection (i : Inspection) :
    (i.run env w t.user t.textMode).1.Speaks (runInspection env w t i).1 := by
  unfold runInspection
  split
  · next h =>
    rw [h]
    exact speaks_fail _ t _
  · next h =>
    rw [h]
    exact .refl _

end Task

namespace Generation

variable (env : Surroundings) (w : World) (t : Talk)

/-- A conversation that is busy is not made busy again. -/
theorem occupy_of_busy (api : Api Json) {holder : Nat}
    (h : w.busy.holder? t.conversation = some holder) :
    occupy w t api = (w, .finished (.error (.refused .alreadyBusy))) := by
  simp [occupy, Occupancy.start, Occupancy.isBusy, h]

/-- A conversation that is free is made busy under the next token. -/
theorem occupy_of_free (api : Api Json) (h : w.busy.holder? t.conversation = none) :
    occupy w t api =
      ({ w with busy := (w.busy.start t.conversation).1 }, .occupied api w.busy.next) := by
  simp [occupy, Occupancy.start, Occupancy.isBusy, h]

/-- The start either stores nothing or does so for the persona that is designated. -/
theorem begin_cases (api : Api Json) (token : Nat) :
    (∃ crash, w.registry.find? t.agent = .error crash ∧
      begin env w t api token = (w, .finished (.error (.crashed crash)))) ∨
    (∃ refusal, begin env w t api token = (w, .rejected token refusal)) ∨
    ∃ k p h, w.registry.Designates t.agent k p ∧
      t.nextHistory (p.history t.scope t.user) w.now = .ok h ∧
      begin env w t api token =
        (w.commit env { w.registry with
            agents := w.registry.agents.set k (p.setHistory t.scope t.user h).bump },
          .started ⟨api, token, p.name.display, p.version + 1, ⟨p.model, h, p.systemPrompt⟩,
            w.now⟩) := by
  unfold begin
  split
  · next crash hf => exact .inl ⟨crash, hf, rfl⟩
  · exact .inr (.inl ⟨_, rfl⟩)
  · next p hf =>
    obtain ⟨k, hd⟩ := (w.registry.find?_eq_some_iff t.agent p).mp hf
    split
    · exact .inr (.inl ⟨_, rfl⟩)
    · next h hn =>
      refine .inr (.inr ⟨k, p, h, hd, hn, ?_⟩)
      dsimp only
      rw [Registry.update_of_designates hd]
      cases t.scope <;> rfl

/-- Putting the question leads to waiting for the answer, or to an answer at once when it fails. -/
theorem phase_ask (ticket : Ticket) : (ask env w t ticket).2 = .waiting ticket ∨
    ∃ result, (ask env w t ticket).2 = .answered ticket result := by
  unfold ask
  dsimp only
  split
  · exact .inr ⟨_, rfl⟩
  · split
    · exact .inr ⟨_, rfl⟩
    · split
      · exact .inl rfl
      · exact .inr ⟨_, rfl⟩

/-- A persona is current exactly when it is designated and has the version that was counted up. -/
theorem current?_eq_some_iff (ticket : Ticket) (p : Persona Json) :
    current? w ticket = .ok (some p) ↔
      ∃ k, w.registry.Designates ticket.persona k p ∧ p.version = ticket.version := by
  have hf := w.registry.find?_eq_some_iff ticket.persona p
  cases h : w.registry.find? ticket.persona with
  | error crash =>
    rw [h] at hf
    constructor
    · simp [current?, h, Except.map]
    · rintro ⟨k, hd, -⟩
      exact absurd (hf.mpr ⟨k, hd⟩) nofun
  | ok found =>
    rw [h] at hf
    simp only [Except.ok.injEq] at hf
    simp only [current?, h, Except.map, Except.ok.injEq, Option.filter_eq_some_iff, beq_iff_eq, hf,
      exists_and_right]

/-- Where names are texts, no persona is current when none that is designated has the version. -/
theorem current?_eq_none (hr : w.registry.Named) (ticket : Ticket)
    (h : ∀ k p, w.registry.Designates ticket.persona k p → p.version ≠ ticket.version) :
    current? w ticket = .ok none := by
  cases hc : current? w ticket with
  | error crash =>
    rw [current?] at hc
    cases hf : w.registry.find? ticket.persona with
    | error crash => exact absurd hf (hr.find?_ne_error _ crash)
    | ok found =>
      rw [hf] at hc
      cases hc
  | ok found =>
    cases found with
    | none => rfl
    | some p =>
      obtain ⟨k, hd, hv⟩ := (current?_eq_some_iff w ticket p).mp hc
      exact absurd hv (h k p hd)

/-- An answer is stored with a persona that is current, and it is known by its number from then
on. -/
theorem complete_of_current {ticket : Ticket} {k : Nat} {p : Persona Json} (content : String)
    (hd : w.registry.Designates ticket.persona k p) (hv : p.version = ticket.version) :
    complete env w t ticket (some content) =
      (w.commit env { w.registry with
          agents := w.registry.agents.set k
            (p.append t.scope t.user (.ofAssistant content w.now)) },
        .stored ticket ((p.history t.scope t.user).length + 1) content) := by
  have hc := (current?_eq_some_iff w ticket p).mpr ⟨k, hd, hv⟩
  simp only [complete, hc, Registry.update_of_designates hd, Persona.history_append,
    List.length_append, List.length_singleton]

/-- Storing an answer either does so for a persona that is current, or it changes nothing beyond
the records and the generation is done without an answer. -/
theorem complete_cases (ticket : Ticket) (content : Option String) :
    (∃ c k p, content = some c ∧ w.registry.Designates ticket.persona k p ∧
      p.version = ticket.version) ∨
    ∃ log result, complete env w t ticket content = ({ w with log := log }, .finished result) ∧
      ∀ o, result = .ok o → o = .ofText .cancelled "" := by
  unfold complete
  split
  · exact .inr ⟨w.log, _, rfl, nofun⟩
  · exact .inr ⟨_, _, rfl, fun o ho ↦ (Except.ok.inj ho).symm⟩
  · exact .inr ⟨w.log, _, rfl, nofun⟩
  · next p c hc =>
    obtain ⟨k, hd, hv⟩ := (current?_eq_some_iff w ticket p).mp hc
    exact .inl ⟨c, k, p, rfl, hd, hv⟩

/-- Storing an answer leaves the busy conversations alone. -/
@[simp] theorem busy_complete (ticket : Ticket) (content : Option String) :
    (complete env w t ticket content).1.busy = w.busy := by
  rcases complete_cases env w t ticket content with ⟨c, k, p, rfl, hd, hv⟩ | ⟨log, result, h, -⟩
  · rw [complete_of_current env w t c hd hv, World.busy_commit]
  · rw [h]

/-- A section of a generation stores what its phase says. -/
theorem saves_step {t : Task} {g : Generation} (hs : t.stage = .talk g) (stage : Stage) :
    t.Saves env w (g.step env w).1 stage := by
  unfold step
  dsimp only
  split
  · exact .kept rfl
  · next api _ =>
    unfold occupy
    split <;> exact .kept rfl
  · next api token hp =>
    rcases begin_cases env w g.talk api token with ⟨_, -, h⟩ | ⟨_, h⟩ | ⟨k, p, history, hd, hn, h⟩
    · rw [h]
      exact .kept rfl
    · rw [h]
      exact .kept rfl
    · have hbegun := congrArg Prod.fst h
      dsimp only at hbegun
      exact .stored (.begun hs hp hd hn) (.of_eq hbegun)
  · exact .kept rfl
  · next ticket _ => exact .kept (registry_ask env w g.talk ticket)
  · exact .kept rfl
  · next ticket result _ =>
    exact .kept (by rw [registry_release, registry_noteTimeout])
  · exact .kept rfl
  · next ticket content hp =>
    rcases complete_cases env w g.talk ticket content with ⟨c, k, p, rfl, hd, hv⟩ |
      ⟨log, result, h, -⟩
    · rw [complete_of_current env w g.talk c hd hv]
      exact .stored (.completed hs hp hd hv) (.refl _)
    · rw [h]
      exact .kept rfl
  · exact .kept (speaks_reply env w g.talk _ _ _).registry
  · exact .kept rfl

end Generation

namespace Task

variable (env : Surroundings) (w : World) (t : Task)

private theorem saves_runEdit {e : Edit} (hs : t.stage = .edit e) :
    t.Saves env w (runEdit env w t e).1 (runEdit env w t e).2 := by
  unfold runEdit
  split
  · next r failure happly =>
    have hr : r = e.residue w.registry := by
      rw [← e.residue_of_apply w.now w.registry (by rw [happly]), happly]
    refine .spoiled ?_ (failed_fail _ t failure)
    rw [registry_fail, hr]
    exact .edited hs
  · next r done happly =>
    have hcarries : e.Carries w.now w.registry r := by
      have h := e.carries_of_apply w.now w.registry (by rw [happly])
      rwa [happly] at h
    dsimp only
    split
    · dsimp only
      exact .stored (.edited hs hcarries) (.refl _)
    · exact .stored (.edited hs hcarries) (World.speaks_say _ _)

private theorem saves_runInspection {i : Inspection} (hs : t.stage = .inspect i) :
    t.Saves env w (runInspection env w t i).1 (runInspection env w t i).2 := by
  have hspeaks := (speaks_runInspection env w t i).registry
  rcases (i.shows_run env w t.user t.textMode).registry with
    h | ⟨agent, scope, indices, k, p, crash, -, hd, -, h, hcrash⟩
  · exact .kept (hspeaks.trans h)
  · refine .spoiled ?_ ?_
    · rw [hspeaks, h]
      exact .shown hs hd
    · unfold runInspection
      split
      · exact failed_fail _ t _
      · next hrun =>
        rw [hrun] at hcrash
        cases hcrash

private theorem saves_fetch {f : Fetch} (hs : t.stage.fetch? = some f) (stage : Stage) :
    t.Saves env w (f.step env w).1 stage := by
  rcases f.step_cases env w with h | ⟨models, h⟩
  · exact .kept h.registry
  · exact .stored (.fetched hs) h

/-- The next section of a task stores a registry that `Stores` lists, or leaves it, or fails. -/
theorem saves_step : t.Saves env w (t.step env w).1 (t.step env w).2.stage := by
  show t.Saves env w (stepStage env w t).1 (stepStage env w t).2
  unfold stepStage
  split
  · next e hs => exact saves_runEdit env w t hs
  · exact .kept rfl
  · next i hs => exact saves_runInspection env w t hs
  · next g hs =>
    unfold runTalk
    split
    · exact .kept rfl
    · exact .kept (registry_fail w t _)
    · exact g.saves_step env w hs _
  · next hs => exact .stored (.configured hs) (World.speaks_say _ _)
  · next result _ =>
    unfold reportConfigured
    split <;> exact .kept rfl
  · next f _ hs => exact saves_fetch env w t (by rw [hs]; rfl) _
  · split <;> exact .kept rfl
  · next result _ =>
    unfold reportListed
    split <;> exact .kept rfl
  · next f _ hs => exact saves_fetch env w t (by rw [hs]; rfl) _
  · exact .kept rfl
  · next f _ hs => exact saves_fetch env w t (by rw [hs]; rfl) _
  · next result _ =>
    unfold reportDescribed
    split
    · exact .kept rfl
    · exact .kept (registry_fail w t _)
  · next d _ hs =>
    rcases d.step_cases env w with h | ⟨run, name, content, k, p, rfl, hd, h⟩
    · exact .kept h.registry
    · exact .stored (.described hs hd) (.of_eq h)
  · exact .kept rfl

/-- What is stored rewrites the personas. -/
theorem Stores.rewrites {t : Task} {now : Int} {r r' : Registry Json} (h : t.Stores now r r') :
    t.Rewrites now r r' := by
  cases h with
  | edited stage carries => exact .edited stage carries.makes
  | begun stage phase found next => exact .begun stage phase found next
  | completed stage phase found current => exact .completed stage phase found current
  | described stage found => exact .described found
  | configured => exact .kept rfl
  | fetched => exact .kept rfl

/-- The next section of a task rewrites the personas in one of the ways that are listed. -/
theorem rewrites_step : t.Rewrites w.now w.registry (t.step env w).1.registry := by
  cases t.saves_step env w with
  | kept same => exact .kept (by rw [same])
  | stored stores speaks =>
    rw [speaks.registry, World.registry_commit]
    exact stores.rewrites
  | spoiled spoils failed =>
    generalize (t.step env w).1.registry = r at spoils
    cases spoils with
    | edited stage => exact .edited stage Edit.makes_residue
    | shown stage found => exact .shown found stage

end Task

/-- A section gives only texts for names. -/
theorem Task.Rewrites.named {t : Task} {now : Int} {r r' : Registry Json}
    (h : t.Rewrites now r r') (hr : r.Named) : r'.Named := by
  have text {name : String} {k : Nat} {p : Persona Json} (hd : r.Designates name k p) :
      ∃ s, p.name = .str s := hr p (List.mem_of_getElem? hd.stands)
  cases h with
  | kept agents_eq =>
    intro p hp
    rw [agents_eq] at hp
    exact hr p hp
  | edited stage makes => exact makes.named hr
  | begun stage phase found next => exact hr.set _ (by simpa using text found)
  | completed stage phase found current => exact hr.set _ (by simpa using text found)
  | described found =>
    obtain ⟨s, hs⟩ := text found
    exact hr.set _ ⟨s, hs⟩
  | shown found => exact hr.set _ (by simpa using text found)

/-- The generation that a stage is about. -/
def Stage.generation? : Stage → Option Generation
  | .talk g => some g
  | _ => none

namespace Task

variable (env : Surroundings) (w : World) (t : Task)

private theorem generation?_fail (failure : Failure) :
    (fail w t failure).2.generation? = none := by
  cases failure <;> rfl

private theorem generation?_runEdit (e : Edit) : (runEdit env w t e).2.generation? = none := by
  unfold runEdit
  split
  · next r failure _ => exact generation?_fail { w with registry := r } t failure
  · dsimp only
    split <;> rfl

private theorem generation?_runInspection (i : Inspection) :
    (runInspection env w t i).2.generation? = none := by
  unfold runInspection
  split
  · next w failure _ => exact generation?_fail w t failure
  · rfl

/-- A section of a task that continues no conversation and releases none leads to no generation and
leaves the busy conversations alone. -/
theorem stepStage_of_idle (hs : ∀ g, t.stage ≠ .talk g)
    (hr : ∀ r reply, t.stage ≠ .release r reply) :
    (stepStage env w t).2.generation? = none ∧ (stepStage env w t).1.busy = w.busy := by
  unfold stepStage
  split
  · next e _ => exact ⟨generation?_runEdit env w t e, busy_runEdit env w t e⟩
  · next h => exact absurd h (hr _ _)
  · next i _ =>
    exact ⟨generation?_runInspection env w t i, (speaks_runInspection env w t i).busy.trans
      (i.shows_run env w t.user t.textMode).busy⟩
  · next h => exact absurd h (hs _)
  · exact ⟨rfl, by simp⟩
  · unfold reportConfigured
    split
    · exact ⟨rfl, w.busy_say _⟩
    · exact ⟨rfl, w.busy_say _⟩
    · exact ⟨rfl, rfl⟩
  · next f _ _ => exact ⟨rfl, f.busy_step env w⟩
  · split
    · exact ⟨rfl, w.busy_say _⟩
    · exact ⟨rfl, rfl⟩
  · unfold reportListed
    split
    · exact ⟨rfl, rfl⟩
    · exact ⟨rfl, busy_refuse w t _⟩
    · exact ⟨rfl, rfl⟩
  · next f _ _ => exact ⟨rfl, f.busy_step env w⟩
  · unfold reportFetched
    split <;> exact ⟨rfl, rfl⟩
  · next f _ _ => exact ⟨rfl, f.busy_step env w⟩
  · unfold reportDescribed
    split
    · exact ⟨rfl, w.busy_say _⟩
    · next failure _ => exact ⟨generation?_fail w t failure, busy_fail w t failure⟩
  · next d _ _ => exact ⟨rfl, (d.step_frame env w).1⟩
  · exact ⟨rfl, rfl⟩

/-- A generation that has not finished makes its step; one that has ends its task. -/
theorem stepStage_of_talk {g : Generation} (hs : t.stage = .talk g) :
    (∃ result, g.phase = .finished result ∧ (stepStage env w t).2.generation? = none ∧
      (stepStage env w t).1.busy = w.busy) ∨
    stepStage env w t = ((g.step env w).1, .talk (g.step env w).2) := by
  unfold stepStage
  rw [hs]
  dsimp only
  unfold runTalk
  split
  · next outcome hp => exact .inl ⟨_, hp, rfl, rfl⟩
  · next failure hp => exact .inl ⟨_, hp, generation?_fail w t failure, busy_fail w t failure⟩
  · exact .inr rfl

/-- A generation comes out of a section only if it went into it. -/
theorem generation?_stepStage {g : Generation} (h : (stepStage env w t).2.generation? = some g) :
    ∃ g₀, t.stage = .talk g₀ ∧ g = (g₀.step env w).2 ∧
      (stepStage env w t).1 = (g₀.step env w).1 := by
  cases hs : t.stage with
  | talk g₀ =>
    rcases stepStage_of_talk env w t hs with ⟨_, _, hn, _⟩ | hstep
    · rw [hn] at h
      cases h
    · rw [hstep] at h ⊢
      cases h
      exact ⟨g₀, rfl, rfl, rfl⟩
  | release r reply =>
    rw [stepStage, hs] at h
    cases h
  | _ =>
    have hn := (stepStage_of_idle env w t (by simp [hs]) (by simp [hs])).1
    rw [hn] at h
    cases h

end Task
end PersonaChat
