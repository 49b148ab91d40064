import PersonaChat.Proofs.Desk.Course
import PersonaChat.Proofs.Desk.Durability
import PersonaChat.Proofs.Registry.Misreading
import PersonaChat.Proofs.View.Typed

/-!
# What a task can crash over

In a typed registry a section finds only a few things that it cannot cope with: a reference to a
model that is misread, and a file that has no name or no time. Beyond that a task crashes with its
provider, unless it continues a conversation. What a task will crash over is followed along its
course, one case for each stage.

Texts are sequences of Unicode scalar values, so every sheet can be encoded, and a file that cannot
be written has no name or no time: no text fails for its characters.
-/

namespace PersonaChat

open Text

/-! ### Inspections -/

namespace Inspection

/-- A history cannot be written to a file: the clock shows no time in calendar form, or the folder
is there and the file would have a null character in its name. -/
inductive Unwritable (env : Surroundings) (w : World) (agent user : String) : Crash → Prop where
  /-- The clock shows no time in calendar form. -/
  | clock {fault : Calendar.Fault} (unknown : Calendar.onLocalClock w.now = .error fault) :
      Unwritable env w agent user (.badTime fault)
  /-- The file would have a null character in its name. -/
  | path {time : Calendar} {disk : Disk} (known : Calendar.onLocalClock w.now = .ok time)
      (folder : w.disk.ensureFolder env.exportFolder = .ok disk)
      (barred : Char.ofNat 0 ∈ agent.toList ∨ Char.ofNat 0 ∈ user.toList) :
      Unwritable env w agent user .badPath

/-- A user asks for something that cannot be shown: a history that cannot be written to a file. -/
def Fails (env : Surroundings) (w : World) (user : String) : Inspection → Crash → Prop
  | .exportFile agent scope, crash => ∃ k p, w.registry.Designates agent k p ∧
      p.history scope user ≠ [] ∧ Unwritable env w agent user crash
  | _, _ => False

variable (env : Surroundings) {w : World} {user : String} {textMode : Bool} {crash : Crash}

private theorem sendFile_crashes_iff {name content : String} :
    (sendFile env w name content).2 = .error (.crashed crash) ↔
      (∃ disk, w.disk.ensureFolder env.exportFolder = .ok disk) ∧ Char.ofNat 0 ∈ name.toList ∧
        crash = .badPath := by
  unfold sendFile
  dsimp only
  split
  · next hf => exact ⟨nofun, fun ⟨⟨disk, hd⟩, _⟩ ↦ by rw [hd] at hf; cases hf⟩
  · next disk hf =>
    split
    · next hnul =>
      rw [List.contains_iff_mem] at hnul
      exact ⟨fun h ↦ by cases h; exact ⟨⟨disk, hf⟩, hnul, rfl⟩, fun ⟨_, _, h⟩ ↦ by rw [h]⟩
    · next hnul =>
      rw [List.contains_iff_mem] at hnul
      refine ⟨?_, fun h ↦ absurd h.2.1 hnul⟩
      split
      · nofun
      · split <;> nofun

/-- A history that is there is exported unless it cannot be written to a file. -/
private theorem export_crashes_iff {agent : String} {scope : Scope} {p : Persona Json}
    (hp : p.Typed) :
    (attempt w
      (View.Export.sheet (.str agent) p.model (.str scope.label) (p.history scope user) w.now)
      fun content ↦ attempt w (View.Export.fileName agent scope.word user w.now) fun name ↦
        sendFile env w name content).2 = .error (.crashed crash) ↔
      Unwritable env w agent user crash := by
  cases hclock : Calendar.onLocalClock w.now with
  | error fault =>
    have hc : View.Export.clock w.now = .error (.badTime fault) := by
      rw [View.Export.clock, hclock]; rfl
    rw [View.Export.sheet_of_clock_error ⟨agent, rfl⟩ hp.model ⟨scope.label, rfl⟩ _ hc]
    constructor
    · rintro ⟨⟩
      exact .clock hclock
    · rintro (@⟨fault', hunknown⟩ | ⟨hknown, -, -⟩)
      · rw [hclock] at hunknown
        cases hunknown
        rfl
      · rw [hclock] at hknown
        cases hknown
  | ok time =>
    have hc : View.Export.clock w.now = .ok time := by rw [View.Export.clock, hclock]; rfl
    obtain ⟨content, hcontent⟩ := View.Export.exists_sheet_eq_ok ⟨agent, rfl⟩ hp.model
      ⟨scope.label, rfl⟩ (hp.history scope user) hc
    obtain ⟨name, hname⟩ : ∃ name, View.Export.fileName agent scope.word user w.now = .ok name :=
      ⟨_, by rw [View.Export.fileName, hc]; rfl⟩
    have hnul := View.Export.mem_fileName_iff (c := Char.ofNat 0) hname (by decide) (by decide)
      (by cases scope <;> decide)
    rw [hcontent, hname]
    show (sendFile env w name content).2 = _ ↔ _
    rw [sendFile_crashes_iff, hnul]
    constructor
    · rintro ⟨⟨disk, hdisk⟩, hbarred, rfl⟩
      exact .path hclock hdisk hbarred
    · rintro (@⟨fault, hunknown⟩ | ⟨-, hfolder, hbarred⟩)
      · rw [hclock] at hunknown
        cases hunknown
      · exact ⟨⟨_, hfolder⟩, hbarred, rfl⟩

variable (hr : w.registry.Typed)
include hr

/-- Where the persona of a name is looked at, only the look can crash. -/
theorem onPersona_crashes_iff {agent : String} {look : Persona Json → Result} :
    (onPersona w agent look).2 = .error (.crashed crash) ↔
      ∃ k p, w.registry.Designates agent k p ∧ (look p).2 = .error (.crashed crash) := by
  unfold onPersona attempt
  rcases hr.find?_cases agent with ⟨hf, hnone⟩ | ⟨k, p, hf, hd⟩
  · rw [hf]
    exact ⟨nofun, fun ⟨k, p, hd, _⟩ ↦ absurd hd (hnone k p)⟩
  · rw [hf]
    constructor
    · exact fun h ↦ ⟨k, p, hd, h⟩
    · rintro ⟨k', p', hd', h⟩
      rwa [(hd.unique hd').2]

/-- A look at the persona of a name that cannot crash does not crash. -/
private theorem onPersona_ne_crashed {agent : String} {look : Persona Json → Result}
    (h : ∀ p, p.Typed → (look p).2 ≠ .error (.crashed crash)) :
    (onPersona w agent look).2 ≠ .error (.crashed crash) := by
  rw [Ne, onPersona_crashes_iff hr]
  rintro ⟨k, p, hd, hl⟩
  exact h p (hr.of_designates hd) hl

private theorem showPositions_ne_crashed (agent : String) (scope : Scope) (indices : List Int) :
    (showPositions env w textMode user agent scope indices).2 ≠ .error (.crashed crash) := by
  unfold showPositions
  split
  · nofun
  · refine onPersona_ne_crashed hr fun p hp ↦ ?_
    obtain ⟨shown, hshown⟩ :=
      View.exists_selected_eq_ok (hp.history scope user).ofTexts indices textMode
    obtain ⟨pictures, hpictures, htexts⟩ := exists_picturesAt_eq_ok (hp.history scope user) indices
    dsimp only
    rw [hshown]
    dsimp only [attemptShowing]
    split
    · nofun
    · rw [hpictures]
      dsimp only [attempt]
      have hsent := World.sendImages_eq_ok
        (w.present env (View.rule.intercalate shown) textMode (agent ++ " 历史记录")) htexts
      split
      · nofun
      · next hsend =>
        rw [hsend] at hsent
        cases hsent

/-- Looking at a typed registry crashes exactly when a history cannot be written to a file. -/
theorem crashes_iff (i : Inspection) :
    (i.run env w user textMode).2 = .error (.crashed crash) ↔ i.Fails env w user crash := by
  have never {result : Result} (h : result.2 ≠ .error (.crashed crash)) :
      result.2 = .error (.crashed crash) ↔ False := ⟨h, False.elim⟩
  cases i with
  | prompt agent =>
    refine never (onPersona_ne_crashed hr fun p _ ↦ ?_)
    split <;> nofun
  | personas =>
    obtain ⟨shown, hshown⟩ := View.exists_personas_eq_ok hr.agents
    refine never ?_
    show (showPersonas env w textMode).2 ≠ _
    unfold showPersonas
    dsimp only
    rw [hshown]
    dsimp only [attempt]
    split <;> nofun
  | models =>
    obtain ⟨shown, hshown⟩ := View.exists_models_eq_ok env.keywords hr.models hr.agents
    refine never ?_
    show (showModels env w textMode).2 ≠ _
    unfold showModels
    dsimp only
    rw [hshown]
    dsimp only [attempt]
    split <;> nofun
  | wholeHistory agent scope =>
    refine never (onPersona_ne_crashed hr fun p hp ↦ ?_)
    obtain ⟨shown, hshown⟩ := View.exists_history_eq_ok (hp.history scope user).ofTexts 0 textMode
    dsimp only
    split
    · nofun
    · rw [hshown]
      nofun
  | positions agent scope indices =>
    exact never (showPositions_ne_crashed env hr agent scope indices)
  | exportFile agent scope =>
    rw [Fails]
    refine (onPersona_crashes_iff hr).trans (exists_congr fun k ↦ exists_congr fun p ↦
      and_congr_right fun hd ↦ ?_)
    dsimp only
    split
    · next hempty => exact ⟨nofun, fun h ↦ absurd (List.isEmpty_iff.mp hempty) h.1⟩
    · next hfull =>
      rw [export_crashes_iff env (hr.of_designates hd)]
      exact ⟨fun h ↦ ⟨mt List.isEmpty_iff.mpr hfull, h⟩, fun h ↦ h.2⟩
  | help => exact never nofun

end Inspection

/-! ### Questions -/

/-- A task may crash over the answer: the provider failed and did not refuse, or what it gave as
models cannot be put in order, or is no texts. -/
def Answer.Crashes : Answer → Crash → Prop
  | .chat result, crash => result = .error (.crashed crash)
  | .models (.error failure), crash => failure = .crashed crash
  | .models (.ok ids), crash => Fetch.modelNames ids = .error crash

namespace Generation

variable (env : Surroundings) {w : World} {crash : Crash}

/-- In a typed registry a generation that has not crashed does not crash. -/
theorem step_ne_crashed (hr : w.registry.Typed) {g : Generation}
    (hg : g.phase ≠ .finished (.error (.crashed crash))) :
    (g.step env w).2.phase ≠ .finished (.error (.crashed crash)) := by
  obtain ⟨t, phase⟩ := g
  cases phase with
  | asked =>
    show enter w t ≠ _
    unfold enter
    split
    · next c hf => exact absurd hf (hr.named.find?_ne_error t.agent c)
    · nofun
    · split <;> nofun
  | admitted api =>
    show (occupy w t api).2 ≠ _
    unfold occupy
    split <;> nofun
  | occupied api token =>
    show (begin env w t api token).2 ≠ _
    rcases begin_cases env w t api token with ⟨c, hf, -⟩ | ⟨refusal, h⟩ | ⟨k, p, h, -, -, hb⟩
    · exact absurd hf (hr.named.find?_ne_error t.agent c)
    · rw [h]
      nofun
    · rw [hb]
      nofun
  | rejected token refusal => nofun
  | started ticket =>
    show (ask env w t ticket).2 ≠ _
    rcases phase_ask env w t ticket with h | ⟨result, h⟩ <;> rw [h] <;> nofun
  | waiting ticket => nofun
  | answered ticket result => nofun
  | freed ticket result =>
    cases result with
    | error failure => nofun
    | ok content =>
      show (complete env w t ticket content).2 ≠ _
      unfold complete
      split
      · next c hc =>
        unfold current? at hc
        cases hf : w.registry.find? ticket.persona with
        | error c => exact absurd hf (hr.named.find?_ne_error _ c)
        | ok found =>
          rw [hf] at hc
          cases hc
      · nofun
      · nofun
      · nofun
  | stored ticket index content => nofun
  | finished result => exact hg

end Generation

namespace Fetch

/-- Fetching the models has crashed, or will without another answer. -/
def Holds : Fetch → Crash → Prop
  | .answered result, crash => (Answer.models result).Crashes crash
  | .finished result, crash => result = .error (.crashed crash)
  | _, _ => False

/-- In a typed registry fetching the models crashes over answers only. -/
theorem holds_step (env : Surroundings) {w : World} (hr : w.registry.Typed) (f : Fetch)
    (crash : Crash) :
    (f.step env w).2.Holds crash ↔ f.Holds crash := by
  cases f with
  | asked =>
    refine ⟨?_, False.elim⟩
    show (ask env w).2.Holds crash → _
    have htyped : (Query.models w.registry.api).Typed := hr.api
    have hask := World.ask_ne_crashed env w htyped crash
    unfold ask
    dsimp only
    split
    · nofun
    · split
      · exact id
      · next failure hfailure =>
        rw [hfailure] at hask
        rintro ⟨⟩
        exact hask rfl
  | waiting api => exact Iff.rfl
  | answered result =>
    cases result with
    | error failure => simp [step, Holds, Answer.Crashes]
    | ok ids =>
      show (step env w (.answered (.ok ids))).2.Holds crash ↔ modelNames ids = .error crash
      unfold step
      dsimp only
      split
      · next c hc => simp [Holds, hc]
      · next names hn => simp [Holds, hn]
  | finished result => exact Iff.rfl

end Fetch

/-- The address and key of the provider are texts, and so are the names and prompts of the personas
that are to be described. -/
structure DescribingRun.Typed (run : DescribingRun) : Prop where
  api : run.api.Typed
  remaining : ∀ target ∈ run.remaining, target.1.Textual ∧ target.2.Textual

namespace Describing

/-- What describing keeps is typed. -/
def Typed : Describing → Prop
  | .surveyed _ targets => ∀ target ∈ targets, target.1.Textual ∧ target.2.Textual
  | .going run => run.Typed
  | .waiting run persona _ | .answered run persona _ => run.Typed ∧ persona.Textual
  | .asked _ | .finished _ => True

/-- Describing has crashed, or will without another answer. -/
def Holds : Describing → Crash → Prop
  | .asked ref, crash => Models.Misread ref ∧ crash = .badNumber
  | .answered _ _ result, crash => (Answer.chat result).Crashes crash
  | .finished result, crash => result = .error (.crashed crash)
  | _, _ => False

variable (env : Surroundings) {w : World} (hr : w.registry.Typed) {run : DescribingRun}
  {persona : Json}

private theorem typed_targets {r : Registry Json} (hr : r.Typed) :
    ∀ target ∈ targets r, target.1.Textual ∧ target.2.Textual := by
  intro target htarget
  obtain ⟨p, hp, rfl⟩ := List.mem_map.mp htarget
  have hp := hr.agents p (List.mem_filter.mp hp).1
  exact ⟨hp.name, hp.systemPrompt⟩

/-- A model is chosen unless the reference to it is misread. -/
theorem chosenModel_eq_error_iff {r : Registry Json} (hr : r.Typed) {ref : String}
    {crash : Crash} :
    chosenModel r ref = .error crash ↔ Models.Misread ref ∧ crash = .badNumber := by
  unfold chosenModel
  split
  · next hempty => exact ⟨nofun, fun h ↦ absurd hempty h.1.nonempty⟩
  · rw [← Models.resolve_eq_error_iff hr.models]
    cases Models.resolve ref r.models <;> simp [Except.map]

include hr

private theorem survey_spec (ref : String) (crash : Crash) : (survey w ref).2.Typed ∧
    ((survey w ref).2.Holds crash ↔ Models.Misread ref ∧ crash = .badNumber) := by
  rw [← chosenModel_eq_error_iff hr]
  unfold survey
  split
  · next c hc => simp [Typed, Holds, hc]
  · next model hm =>
    dsimp only
    split
    · simp [Typed, Holds, hm]
    · split
      · simp [Typed, Holds, hm]
      · simp only [Typed, Holds, hm, reduceCtorEq, iff_self, and_true]
        exact typed_targets hr

private theorem connect_spec {targets : List (Json × Json)} (model : Json)
    (h : ∀ target ∈ targets, target.1.Textual ∧ target.2.Textual) (crash : Crash) :
    (connect env w model targets).Typed ∧ ¬ (connect env w model targets).Holds crash := by
  unfold connect
  dsimp only
  split
  · exact ⟨trivial, nofun⟩
  · rw [World.connect_eq_ok env hr.api]
    exact ⟨⟨hr.api, h⟩, id⟩

omit hr in
private theorem ask_spec (h : run.Typed) (crash : Crash) :
    (ask env w run).2.Typed ∧ ¬ (ask env w run).2.Holds crash := by
  unfold ask
  split
  · exact ⟨trivial, nofun⟩
  · next persona prompt rest hremaining =>
    obtain ⟨hfirst, hrest⟩ := List.forall_mem_cons.mp (hremaining ▸ h.remaining)
    obtain ⟨text, htext⟩ := exists_request_eq_ok run.model hfirst.2 w.now
    have hquestion : (Query.chat run.api
        ⟨run.model, [.ofUser (Guide.describePrompt text) [] w.now], .str ""⟩).Typed := by
      refine ⟨h.api, fun m hm ↦ ?_⟩
      rw [List.mem_singleton.mp hm]
      exact Message.typed_ofUser (fun _ h ↦ absurd h List.not_mem_nil) _ _
    have hask := World.ask_ne_crashed env w hquestion crash
    dsimp only
    rw [htext]
    dsimp only
    split
    · exact ⟨⟨⟨h.api, hrest⟩, hfirst.1⟩, id⟩
    · next failure hfailure =>
      refine ⟨⟨⟨h.api, hrest⟩, hfirst.1⟩, ?_⟩
      rintro ⟨⟩
      rw [hfailure] at hask
      exact hask rfl

private theorem store_spec (h : run.Typed) (hp : persona.Textual) (content : String)
    (crash : Crash) :
    (store env w run persona content).2.Typed ∧
      ¬ (store env w run persona content).2.Holds crash := by
  obtain ⟨name, rfl⟩ := hp
  unfold store
  cases hf : w.registry.find? name with
  | error c => exact absurd hf (hr.named.find?_ne_error name c)
  | ok found =>
    simp only [Json.forOperation, bind, Except.bind, hf]
    cases found with
    | none => exact ⟨h, id⟩
    | some p => exact ⟨⟨h.api, h.remaining⟩, id⟩

/-- Describing keeps what it keeps typed. In a typed registry it crashes over a misread reference
and over answers only. -/
theorem step_spec {d : Describing} (hd : d.Typed) (crash : Crash) :
    (d.step env w).2.Typed ∧ ((d.step env w).2.Holds crash ↔ d.Holds crash) := by
  have never {d' : Describing} (h : d'.Typed ∧ ¬ d'.Holds crash) :
      d'.Typed ∧ (d'.Holds crash ↔ False) := ⟨h.1, h.2, False.elim⟩
  cases d with
  | asked ref => exact survey_spec hr ref crash
  | surveyed model targets => exact never (connect_spec env hr model hd crash)
  | going run => exact never (ask_spec env hd crash)
  | waiting run persona request => exact ⟨hd, Iff.rfl⟩
  | answered run persona result =>
    rcases result with (refusal | c) | content
    · exact ⟨hd.1, by simp [step, Holds, Answer.Crashes]⟩
    · exact ⟨trivial, by simp [step, Holds, Answer.Crashes]⟩
    · have hnone : ¬ (Answer.chat (.ok content)).Crashes crash := fun h ↦ by cases h
      show _ ∧ (_ ↔ (Answer.chat (.ok content)).Crashes crash)
      rw [iff_false_intro hnone]
      unfold step
      dsimp only
      split
      · exact never ⟨hd.1, id⟩
      · exact never ⟨hd.1, id⟩
      · exact never (store_spec env hr hd.1 hd.2 _ crash)
  | finished result => exact ⟨trivial, Iff.rfl⟩

end Describing
end PersonaChat
