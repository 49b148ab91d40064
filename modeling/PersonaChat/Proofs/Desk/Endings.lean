import PersonaChat.Proofs.Desk.Doors
import PersonaChat.Proofs.Desk.Escapes

/-!
# What requests come to

A request that runs alone ends with an outcome, unless one of a few failures escapes that are no
refusals: a reference to a model that is misread, a history that cannot be written to a file, and
whatever the provider fails with while no conversation is continued. However it ends, both gates
are free afterwards, and so are all conversations that were free before.

This is said for texts of Unicode scalar values, which can all be encoded.

Spec guidance: `SPEC_FULL.md`, lines 133–138 and 184–188.
-/

namespace PersonaChat

/-! ### Conversations are free again -/

namespace Task

variable {env : Surroundings} {o : Occupancy} {w w' : World} {t : Task} {heard : List Answer}
  {ending : Ending}

/-- A conversation that was free, and is not free any more, is held by the task. -/
def Clears (o : Occupancy) (w : World) (t : Task) : Prop :=
  ∀ c token, o.holder? c = none → w.busy.holder? c = some token →
    ∃ d, t.hold? = some (d, token) ∧ d.key = c.key

private theorem Clears.step (h : t.Clears o w) (hr : w.registry.Named) :
    (t.step env w).2.Clears o (t.step env w).1 := by
  intro c token hfree hbusy
  have hbefore := h c
  have hturn := t.turns_step env w hr
  generalize (t.step env w).1.busy = busy, (t.step env w).2.hold? = held at hturn hbusy ⊢
  cases hturn with
  | kept eq =>
    rw [eq]
    exact hbefore token hfree hbusy
  | @taken c₀ idle free =>
    rw [Occupancy.holder?_start] at hbusy
    split at hbusy
    · next hk =>
      cases hbusy
      exact ⟨c₀, rfl, hk.1⟩
    · obtain ⟨d, hd, -⟩ := hbefore token hfree hbusy
      rw [idle] at hd
      cases hd
  | @given c₀ token₀ held =>
    rw [Occupancy.holder?_finish] at hbusy
    split at hbusy
    · cases hbusy
    · next hkept =>
      -- What was held before is what the task held, and that is given back.
      obtain ⟨d, hd, hk⟩ := hbefore token hfree hbusy
      rw [held] at hd
      cases hd
      exact absurd ⟨hk, by simpa using hbusy⟩ hkept
  | @released release reply stage =>
    rw [Occupancy.holder?_release] at hbusy
    split at hbusy
    · cases hbusy
    · obtain ⟨d, hd, -⟩ := hbefore token hfree hbusy
      rw [hold?, stage] at hd
      cases hd

private theorem Clears.answer (h : t.Clears o w) (a : Answer) : (t.answer a).Clears o w := by
  intro c token hfree hbusy
  rw [hold?_answer]
  exact h c token hfree hbusy

/-- A task that has ended holds nothing, so what was free before is free. -/
theorem Course.frees (h : Course env w t heard w' ending) (hr : w.registry.Typed) (ht : t.Typed)
    (hc : t.Clears o w) (c : Conversation) (hfree : o.holder? c = none) :
    w'.busy.holder? c = none := by
  induction h with
  | @ended w t ending he =>
    by_contra hbusy
    obtain ⟨token, htoken⟩ := Option.ne_none_iff_exists'.mp hbusy
    obtain ⟨d, hd, -⟩ := hc c token hfree htoken
    obtain ⟨agent, action, user, textMode, stage⟩ := t
    cases stage with
    | talk g => cases he
    | _ => cases hd
  | stepped idle going rest ih =>
    exact ih (typed_registry_step env ht hr) (ht.step env _) (hc.step hr.named)
  | answered waits kind rest ih => exact ih hr (ht.answer _) (hc.answer _)

end Task

/-! ### What escapes a request -/

namespace Request

/-- A failure of the provider that is no refusal is passed on: its models are fetched, or it
describes personas. -/
def Exposed : Request → Prop
  | .configure _ => True
  | .create _ => False
  | .command c => c.action = .listModels ∨ ∃ model, c.action = .fillDescriptions model

/-- What escapes a request of a user, given the answers that are heard. -/
inductive Escapes (env : Surroundings) (w : World) (user : String) (heard : List Answer) :
    Request → Crash → Prop where
  /-- The model of a persona is chosen by a reference that is misread. -/
  | chosen {c : Command} {k : Nat} {p : Persona Json} (action : c.action = .setModel)
      (misread : Models.Misread c.args) (found : w.registry.Designates c.agent k p) :
      Escapes env w user heard (.command c) .badNumber
  /-- A persona is created or updated with a reference to a model that is misread. -/
  | created {request : CreateRequest} (misread : Models.Misread request.model) :
      Escapes env w user heard (.create request) .badNumber
  /-- The model that shall describe the personas is chosen by a reference that is misread. -/
  | filled {c : Command} {ref : String} (action : c.action = .fillDescriptions (some ref))
      (misread : Models.Misread ref) : Escapes env w user heard (.command c) .badNumber
  /-- A history cannot be written to a file. -/
  | exported {c : Command} {scope : Scope} {k : Nat} {p : Persona Json} {crash : Crash}
      (action : c.action = .exportHistory scope) (found : w.registry.Designates c.agent k p)
      (full : p.history scope user ≠ [])
      (unwritable : Inspection.Unwritable env w c.agent user crash) :
      Escapes env w user heard (.command c) crash
  /-- An answer is passed on that is a failure, or that holds no models. -/
  | passed {request : Request} {a : Answer} {crash : Crash} (exposed : request.Exposed)
      (mem : a ∈ heard) (crashes : a.Crashes crash) : Escapes env w user heard request crash

variable {env : Surroundings} {w : World} {user prompt : String} {images : List Json}
  {heard : List Answer} {request : Request} {crash : Crash}

private theorem exposed_task : (request.task user prompt images).stage.Exposed ↔
    request.Exposed := by
  cases request with
  | configure api => exact Iff.rfl
  | create request => exact Iff.rfl
  | command c =>
    obtain ⟨agent, action, args, indices, privateReply, textMode⟩ := c
    cases action <;>
      simp [task, Task.ofCommand, Task.firstStage, Stage.Exposed, Exposed]

private theorem sound_task : (request.task user prompt images).stage.Sound := by
  cases request with
  | command c =>
    obtain ⟨agent, action, args, indices, privateReply, textMode⟩ := c
    cases action <;> trivial
  | _ => trivial

/-- What escapes a request is what its task is bound to crash over. -/
theorem escapes_iff : request.Escapes env w user heard crash ↔
    (request.task user prompt images).BoundFor env w heard crash := by
  unfold Task.BoundFor
  rw [exposed_task]
  constructor
  · intro h
    cases h with
    | passed exposed mem crashes => exact .inr ⟨exposed, _, mem, crashes⟩
    | @chosen c k p action misread found =>
      refine .inl ?_
      simp only [task, Task.ofCommand, Task.firstStage, action]
      exact ⟨⟨misread, k, p, found⟩, rfl⟩
    | created misread => exact .inl ⟨misread, rfl⟩
    | @filled c ref action misread =>
      refine .inl ?_
      simp only [task, Task.ofCommand, Task.firstStage, action]
      exact ⟨misread, rfl⟩
    | @exported c scope k p crash action found full unwritable =>
      refine .inl ?_
      simp only [task, Task.ofCommand, Task.firstStage, action]
      exact ⟨k, p, found, full, unwritable⟩
  · rintro (h | ⟨exposed, a, mem, crashes⟩)
    · cases request with
      | configure api => exact h.elim
      | create request =>
        obtain ⟨misread, rfl⟩ := h
        exact .created misread
      | command c =>
        obtain ⟨agent, action, args, indices, privateReply, textMode⟩ := c
        cases action with
        | setModel =>
          obtain ⟨⟨misread, k, p, found⟩, rfl⟩ := h
          exact .chosen rfl misread found
        | fillDescriptions model =>
          obtain ⟨misread, rfl⟩ := h
          cases model with
          | none => exact absurd rfl misread.nonempty
          | some ref => exact .filled rfl misread
        | exportHistory scope =>
          obtain ⟨k, p, found, full, unwritable⟩ := h
          exact .exported rfl found full unwritable
        | chat | regenerate => cases h
        | _ => first | exact h.elim | exact h.1.elim
    · exact .passed exposed mem crashes

/-- Nothing escapes who continues a conversation. -/
theorem not_escapes_of_talk {c : Command} (h : c.action = .chat ∨ c.action = .regenerate) :
    ¬ (command c).Escapes env w user heard crash := by
  intro hescapes
  cases hescapes with
  | chosen action | filled action | exported action =>
    rw [action] at h
    rcases h with h | h <;> cases h
  | passed exposed =>
    rcases h with h | h <;> simp [Exposed, h] at exposed

/-- Over a typed registry, with whatever answers of the kinds that are asked for, a request ends
with an outcome unless something escapes, and it ends with exactly that which escapes. It waits at
no gate, and leaves both gates free and all conversations that were free. The gates stand where
they have to: no section of any task changes what it has not passed a gate to write. -/
theorem ends_unless_escapes {ι : Type} [DecidableEq ι] (env : Surroundings) (who : ι)
    {script : Task.Script} (proper : script.Proper) {w : World} (typed : w.registry.Typed)
    (request : Request) (user prompt : String) {images : List Json}
    (media : ∀ image ∈ images, image.Textual) :
    let t := request.task user prompt images
    let heard := t.heard env script w
    let stopped := t.run env script w
    ((∀ crash, ¬ request.Escapes env w user heard crash) →
      ∃ outcome, stopped.2.ending? = some (.outcome outcome)) ∧
    (∀ crash, stopped.2.ending? = some (.raised (.crashed crash)) ↔
      request.Escapes env w user heard crash) ∧
    t.runBehind env who script .free w = some (.free, stopped) ∧
    (∀ c, w.busy.holder? c = none → stopped.1.busy.holder? c = none) ∧
    ∀ (w : World) (t : Task),
      (w.registry.Typed → t.stage.room? ≠ some (.registry, .write) →
        (t.step env w).1.registry = w.registry) ∧
      (t.stage.room? ≠ some (.busy, .write) → (t.step env w).1.busy = w.busy) := by
  intro t heard stopped
  have ht : t.Typed := Floor.typed_task media request
  obtain ⟨ending, hending, hcourse⟩ := Task.course_run proper w t
  obtain ⟨-, hsound, hcrash⟩ := hcourse.ends typed ht sound_task
  have hescapes (crash : Crash) : ending = .raised (.crashed crash) ↔
      request.Escapes env w user heard crash := by
    rw [hcrash, escapes_iff]
  refine ⟨fun hnone ↦ ?_, fun crash ↦ ?_, t.runBehind_free env who script w, fun c hfree ↦ ?_,
    fun w t ↦ ⟨t.registry_step_of_room? env, t.busy_step_of_room? env⟩⟩
  · rcases hsound with ⟨outcome, rfl⟩ | ⟨crash, rfl⟩
    · exact ⟨outcome, hending⟩
    · exact absurd ((hescapes crash).mp rfl) (hnone crash)
  · rw [← hescapes, hending, Option.some_inj]
  · refine hcourse.frees typed ht (fun c token hidle hbusy ↦ ?_) c hfree
    rw [hidle] at hbusy
    cases hbusy

/-- The provider fails in a way of its own; a user who talks to `Bot` is told so, and nothing stays
busy. -/
theorem ends_of_talk :
    let failing : Task.Script := ⟨[], fun
      | .chat .. => .chat (.error (.crashed (.runtime "boom")))
      | .models _ => .models (.error (.crashed (.runtime "boom")))⟩
    let talk : Request := .command ⟨"Bot", .chat, "Hello", [], true, true⟩
    let stopped := (talk.task "u" "Hello" []).run .plain failing .withBot
    failing.Proper ∧ World.withBot.registry.Typed ∧
      (∃ outcome, stopped.2.ending? = some (.outcome outcome)) ∧
      (talk.task "u" "Hello" []).runBehind .plain "u" failing .free .withBot =
      some (.free, stopped) ∧
      ∀ c, stopped.1.busy.holder? c = none := by
  intro failing talk stopped
  have hproper : failing.Proper :=
    ⟨fun _ h ↦ absurd h List.not_mem_nil, fun query ↦ by cases query <;> trivial⟩
  obtain ⟨houtcome, -, hgates, hfree, -⟩ := ends_unless_escapes .plain "u" hproper
    Floor.typed_withBot talk "u" "Hello" (fun _ h ↦ absurd h List.not_mem_nil)
  exact ⟨hproper, Floor.typed_withBot, houtcome fun _ ↦ not_escapes_of_talk (.inl rfl), hgates,
    fun c ↦ hfree c (Occupancy.holder?_empty c)⟩

/-- A superscript two looks like a digit but is no number, so choosing it as the model of `Bot`
ends without an outcome. -/
theorem escapes_of_superscript :
    (⟨"u", "Bot%²", [], none, none⟩ : Incoming).task .plain .withBot =
        (.withBot,
          .ok (some (task "u" "²" [] (.command ⟨"Bot", .setModel, "²", [], false, false⟩)))) ∧
      ∀ script : Task.Script,
        ((task "u" "²" [] (.command ⟨"Bot", .setModel, "²", [], false, false⟩)).run .plain script
          .withBot).2.ending? = some (.raised (.crashed .badNumber)) := by
  have hread : Command.readAmong "Bot%²" [.str "Bot"] =
      .ok (some (.command ⟨"Bot", .setModel, "²", [], false, false⟩)) := by decide +kernel
  have hnames : World.withBot.registry.names = [.str "Bot"] := rfl
  refine ⟨?_, fun script ↦ rfl⟩
  rw [Incoming.task, Option.getD_none, hnames, hread]
  rfl

end Request
end PersonaChat
