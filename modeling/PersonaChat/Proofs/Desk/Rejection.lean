import PersonaChat.Proofs.Desk.Floor
import PersonaChat.Proofs.Desk.Progress
import PersonaChat.Proofs.Desk.Sections
import PersonaChat.Proofs.Occupancy

/-!
# Requests that are turned down

A request may be turned down before any question is put to the provider: it names something that
does not exist, an argument is not acceptable, or the conversation is busy. Then the disk is as it
was and the same conversations are busy, although a conversation may have been made busy and freed
again. The registry is as it was, with one exception: to delete messages from a private history
that a user does not have enters the user among those who have one.

Spec guidance: `SPEC_FULL.md`, lines 107–114.
-/

namespace PersonaChat

/-- A request that ends in this way was turned down. -/
def OutcomeKind.IsRejection : OutcomeKind → Prop
  | .notFound | .validation | .busy => True
  | _ => False

instance : DecidablePred OutcomeKind.IsRejection := fun kind ↦ by
  unfold OutcomeKind.IsRejection
  split <;> infer_instance

namespace Stage

/-- The next section puts a question to the provider, or tries to. -/
def Asks (r : Registry Json) : Stage → Prop
  | .talk ⟨_, .started _⟩ => True
  | .configuring .asked | .listing .asked | .fetch .asked => r.apiBase.isFilled
  | .describe (.going run) => run.remaining ≠ []
  | _ => False

instance (r : Registry Json) : DecidablePred (Asks r) := fun stage ↦ by
  unfold Asks
  split <;> infer_instance

/-- What a section that fails at this stage leaves of the registry. -/
def residue : Stage → Registry Json → Registry Json
  | .edit e, r => e.residue r
  | _, r => r

/-- What a request that is turned down leaves, given the stage and the world where it started. -/
structure Leaves (s : Stage) (w w' : World) : Prop where
  /-- Of an edit its residue stays. -/
  registry : w'.registry = s.residue w.registry
  /-- The same conversations are busy, under the same tokens. -/
  holder : ∀ c, w'.busy.holder? c = w.busy.holder? c
  /-- The files stay. -/
  disk : w'.disk = w.disk

/-- Nothing is left yet but that a conversation that was free is now busy. -/
def LeavesBusy (s : Stage) (w w' : World) (c : Conversation) (token : Nat) : Prop :=
  ∃ o : Occupancy, s.Leaves w { w' with busy := o } ∧ o.holder? c = none ∧ token = o.next ∧
    w'.busy = (o.start c).1

/-- How a request stands that started at a given stage and has put no question: what it would leave
if it were turned down here. Nothing is said of a request that cannot be turned down any more. -/
def Stands (s : Stage) (w w' : World) : Stage → Prop
  | .edit e => s = .edit e ∧ w' = w
  | .inspect _ | .list | .listing .asked | .listing (.finished (.error _)) => s.Leaves w w'
  | .describe (.asked _) | .describe (.surveyed ..) | .describe (.going _)
  | .describe (.finished _) => s.Leaves w w'
  | .talk ⟨_, .asked⟩ | .talk ⟨_, .admitted _⟩
  | .talk ⟨_, .finished (.error (.refused _))⟩ => s.Leaves w w'
  | .talk ⟨t, .occupied _ token⟩ | .talk ⟨t, .rejected token _⟩ =>
    s.LeavesBusy w w' t.conversation token
  | .ended (.outcome o) => o.kind.IsRejection → s.Leaves w w'
  | .talk ⟨_, .started _⟩ | .talk ⟨_, .finished (.error (.crashed _))⟩ | .ended _ | .release ..
  | .configure _ | .configuring _ | .fetch _ => True
  | .talk _ | .listing _ | .describe _ => False

variable {s : Stage} {w w' w'' : World}

private theorem Leaves.speaks (h : s.Leaves w w') (hs : w'.Speaks w'') : s.Leaves w w'' where
  registry := hs.registry.trans h.registry
  holder := fun c ↦ by rw [hs.busy]; exact h.holder c
  disk := hs.disk.trans h.disk

/-- A conversation that was made busy is freed again. -/
theorem LeavesBusy.release {t : Talk} {token : Nat} (h : s.LeavesBusy w w' t.conversation token) :
    s.Leaves w (Generation.release w' t token) := by
  obtain ⟨o, hleaves, hfree, rfl, hbusy⟩ := h
  refine ⟨hleaves.registry, fun c ↦ ?_, hleaves.disk⟩
  rw [← hleaves.holder c, Generation.release]
  dsimp only
  rw [hbusy, Occupancy.holder?_finish, Occupancy.holder?_start]
  by_cases hkey : t.conversation.key = c.key
  · have hnone : o.holder? c = none := by rw [← o.holder?_congr hkey, hfree]
    simp [hkey, hfree, hnone]
  · simp [hkey]

end Stage

namespace Task

open Stage

variable (env : Surroundings) {s : Stage} {w w' : World} (t : Task)

/-- A failure that is a rejection leaves what the request would have left before it. -/
private theorem stands_fail {failure : Failure}
    (h : ∀ refusal, failure = .refused refusal → refusal.kind.outcome.IsRejection →
      s.Leaves w w') :
    s.Stands w (fail w' t failure).1 (fail w' t failure).2 := by
  have hs := speaks_fail w' t failure
  cases failure with
  | refused refusal => exact fun hr ↦ (h refusal rfl hr).speaks hs
  | crashed crash => trivial

private theorem stands_runEdit (e : Edit) :
    (Stage.edit e).Stands w (runEdit env w t e).1 (runEdit env w t e).2 := by
  have hresidue (failure : Failure) (h : (e.apply w.now w.registry).2 = .error failure) :=
    e.residue_of_apply w.now w.registry h
  unfold runEdit
  split
  · next r failure happly =>
    have hr := hresidue failure (by rw [happly])
    rw [happly] at hr
    exact stands_fail t fun _ _ _ ↦ ⟨hr, fun _ ↦ rfl, rfl⟩
  · dsimp only
    split
    · trivial
    · exact False.elim

private theorem stands_runInspection (h : s.Leaves w w') (i : Inspection) :
    s.Stands w (runInspection env w' t i).1 (runInspection env w' t i).2 := by
  have hshows := i.shows_run env w' t.user t.textMode
  unfold runInspection
  split
  · next v failure hrun =>
    rw [hrun] at hshows
    refine stands_fail t fun refusal hf hr ↦ ?_
    have hv : v = w' := hshows.refused refusal (by rw [hf]) fun hk ↦ by
      rw [hk] at hr
      exact hr
    rw [hv]
    exact h
  · next v outcome hrun =>
    intro hr
    rw [hrun] at hshows
    rw [hshows.done outcome rfl] at hr
    exact hr.elim

private theorem stands_enter (h : s.Leaves w w') (talk : Talk) :
    s.Stands w w' (.talk ⟨talk, Generation.enter w' talk⟩) := by
  unfold Generation.enter
  split
  · trivial
  · exact h
  · split
    · exact h
    · exact h

private theorem stands_occupy (h : s.Leaves w w') (talk : Talk) (api : Api Json) :
    s.Stands w (Generation.occupy w' talk api).1
      (.talk ⟨talk, (Generation.occupy w' talk api).2⟩) := by
  cases hfree : w'.busy.holder? talk.conversation with
  | some holder =>
    rw [Generation.occupy_of_busy w' talk api hfree]
    exact h
  | none =>
    rw [Generation.occupy_of_free w' talk api hfree]
    exact ⟨w'.busy, ⟨h.registry, h.holder, h.disk⟩, hfree, rfl, rfl⟩

private theorem stands_begin {talk : Talk} {api : Api Json} {token : Nat}
    (h : s.LeavesBusy w w' talk.conversation token) :
    s.Stands w (Generation.begin env w' talk api token).1
      (.talk ⟨talk, (Generation.begin env w' talk api token).2⟩) := by
  rcases Generation.begin_cases env w' talk api token with
    ⟨crash, -, hb⟩ | ⟨refusal, hb⟩ | ⟨k, p, history, -, -, hb⟩
  · rw [hb]
    trivial
  · rw [hb]
    exact h
  · rw [hb]
    trivial

private theorem stands_runTalk {g : Generation} (h : s.Stands w w' (.talk g))
    (ha : ¬ (Stage.talk g).Asks w'.registry) :
    s.Stands w (runTalk env w' t g).1 (runTalk env w' t g).2 := by
  obtain ⟨talk, phase⟩ := g
  cases phase with
  | asked => exact stands_enter h talk
  | admitted api => exact stands_occupy h talk api
  | occupied api token => exact stands_begin env h
  | rejected token refusal => exact h.release
  | started ticket => exact absurd trivial ha
  | waiting | answered | freed | stored => exact h.elim
  | finished result =>
    rcases result with (refusal | crash) | outcome
    · exact stands_fail t fun _ _ _ ↦ h
    · trivial
    · exact h.elim

private theorem stands_listing {f : Fetch} (h : s.Stands w w' (.listing f))
    (ha : ¬ (Stage.listing f).Asks w'.registry) (hf : ∀ result, f ≠ .finished result) :
    s.Stands w (f.step env w').1 (.listing (f.step env w').2) := by
  cases f with
  | asked =>
    have hbase : w'.registry.apiBase.isFilled = false := by simpa [Asks] using ha
    simp only [Fetch.step, Fetch.ask, Registry.api, hbase]
    exact h
  | waiting | answered => exact h.elim
  | finished result => exact absurd rfl (hf result)

private theorem stands_reportListed {result : Except Failure (List String)}
    (h : s.Stands w w' (.listing (.finished result))) :
    s.Stands w (reportListed w' t result).1 (reportListed w' t result).2 := by
  rcases result with (refusal | crash) | names
  · exact fun _ ↦ h.speaks ((w'.speaks_note _ _ _).trans (World.speaks_say _ _))
  · trivial
  · exact h.elim

private theorem stands_describe {d : Describing} (h : s.Stands w w' (.describe d))
    (ha : ¬ (Stage.describe d).Asks w'.registry) (hd : ∀ result, d ≠ .finished result) :
    s.Stands w (d.step env w').1 (.describe (d.step env w').2) := by
  cases d with
  | asked ref =>
    simp only [Describing.step, Describing.survey]
    split
    · exact h
    · split
      · exact h
      · split
        · exact h
        · exact h.speaks (w'.speaks_say _)
  | surveyed model targets =>
    simp only [Describing.step, Describing.connect]
    split
    · exact h
    · split
      · exact h
      · exact h
  | going run =>
    have hnone : run.remaining = [] := by simpa [Asks] using ha
    simp only [Describing.step, Describing.ask, hnone]
    exact h
  | waiting | answered => exact h.elim
  | finished result => exact absurd rfl (hd result)

private theorem stands_reportDescribed {result : Except Failure String}
    (h : s.Stands w w' (.describe (.finished result))) :
    s.Stands w (reportDescribed w' t result).1 (reportDescribed w' t result).2 := by
  cases result with
  | ok text => exact False.elim
  | error failure => exact stands_fail t fun _ _ _ ↦ h

/-- A section that puts no question and does not end in a rejection with more than it may leave. -/
theorem stands_step (h : s.Stands w w' t.stage) (ha : ¬ t.stage.Asks w'.registry) :
    s.Stands w (t.step env w').1 (t.step env w').2.stage := by
  show s.Stands w (stepStage env w' t).1 (stepStage env w' t).2
  unfold stepStage
  split
  · next e hs =>
    rw [hs] at h
    obtain ⟨rfl, rfl⟩ := h
    exact stands_runEdit env t e
  · exact False.elim
  · next i hs =>
    rw [hs] at h
    exact stands_runInspection env t h i
  · next g hs =>
    rw [hs] at h ha
    exact stands_runTalk env t h ha
  · trivial
  · next result _ =>
    rcases result with (refusal | crash) | names
    · exact False.elim
    · trivial
    · exact False.elim
  · trivial
  · next hs =>
    rw [hs] at h
    split
    · exact h.speaks (w'.speaks_say _)
    · exact h
  · next result hs =>
    rw [hs] at h
    exact stands_reportListed t h
  · next f hf hs =>
    rw [hs] at h ha
    exact stands_listing env h ha hf
  · next result _ =>
    cases result <;> trivial
  · trivial
  · next result hs =>
    rw [hs] at h
    exact stands_reportDescribed t h
  · next d hd hs =>
    rw [hs] at h ha
    exact stands_describe env h ha hd
  · next ending hs =>
    rwa [hs] at h

/-! ### Without a question to the end -/

/-- A task carries out sections one after the other, none of which puts a question. -/
inductive Unasked (env : Surroundings) : World → Task → World → Task → Prop where
  /-- Nothing is left to be done. -/
  | done (w : World) (t : Task) : Unasked env w t w t
  /-- A section is carried out, and then others. -/
  | step {w w' : World} {t t' : Task} (silent : ¬ t.stage.Asks w.registry)
      (rest : Unasked env (t.step env w).1 (t.step env w).2 w' t') : Unasked env w t w' t'

variable {env} {t} {v : World} {t' : Task}

private theorem Unasked.stands (hu : Unasked env w' t v t') (h : s.Stands w w' t.stage) :
    s.Stands w v t'.stage := by
  induction hu with
  | done => exact h
  | step silent rest ih => exact ih (stands_step env _ h silent)

variable (env w) in
/-- A task that has ended stays as it is. -/
private theorem step_of_ending? (h : t.ending?.isSome) : t.step env w = (w, t) := by
  obtain ⟨agent, action, user, textMode, stage⟩ := t
  cases stage with
  | ended ending => rfl
  | _ => cases h

variable (env w) in
/-- A task that waits stays as it is. -/
private theorem step_of_query? (h : t.query?.isSome) : t.step env w = (w, t) := by
  obtain ⟨agent, action, user, textMode, stage⟩ := t
  cases stage with
  | talk g =>
    obtain ⟨talk, phase⟩ := g
    cases phase with
    | waiting ticket => rfl
    | _ => cases h
  | configuring f | listing f | fetch f =>
    cases f with
    | waiting api => rfl
    | _ => cases h
  | describe d =>
    cases d with
    | waiting run persona request => rfl
    | _ => cases h
  | _ => cases h

/-- A task that waits does not end without an answer. -/
private theorem Unasked.query?_eq_none (hu : Unasked env w t v t') (he : t'.ending?.isSome) :
    t.query? = none := by
  induction hu with
  | done w t =>
    obtain ⟨agent, action, user, textMode, stage⟩ := t
    cases stage with
    | ended ending => rfl
    | _ => cases he
  | @step w _ t _ silent rest ih =>
    cases hq : t.query? with
    | none => rfl
    | some query =>
      have hstep := step_of_query? env w (t := t) (by simp [hq])
      have hnone := ih he
      rw [hstep, hq] at hnone
      cases hnone

/-- Given enough steps, a task proceeds to the end that it comes to without a question. -/
private theorem Unasked.proceed_eq (hu : Unasked env w t v t') (he : t'.ending?.isSome)
    (steps : Nat) (hsteps : t.ahead w ≤ steps) : proceed env steps w t = (v, t') := by
  induction hu generalizing steps with
  | done w t => cases steps <;> simp [proceed, he]
  | @step w _ t _ silent rest ih =>
    have hq := Unasked.query?_eq_none (.step silent rest) he
    cases hend : t.ending? with
    | some ending =>
      have hstep := step_of_ending? env w (t := t) (by simp [hend])
      have hrest := ih he steps
      rw [hstep] at hrest
      exact hrest hsteps
    | none =>
      have hless : (t.step env w).2.ahead (t.step env w).1 < t.ahead w :=
        ahead_stepStage env w t hq hend _
      cases steps with
      | zero => omega
      | succ steps =>
        rw [proceed, hq, hend]
        exact ih he steps (by omega)

/-- A task that comes to its end without a question does so whatever the provider would answer. -/
theorem Unasked.run_eq (hu : Unasked env w t v t') (he : t'.ending?.isSome) (script : Script) :
    t.run env script w = (v, t') := by
  have hadvance : t.advance env w = (v, t') := hu.proceed_eq he _ (ahead_le_enough w t)
  have hstopped : Unasked env v t' v t' := .done v t'
  have hq : t'.query? = none := hstopped.query?_eq_none he
  simp [run, hadvance, converse, hq]

end Task

/-! ### What is left of a request -/

namespace Request

/-- The request deletes messages of a private history that its user does not have. -/
def Enters (user : String) (r : Registry Json) : Request → Prop
  | .command c => c.action = .deleteAt .personal ∧ c.indices ≠ [] ∧
    ∃ k p, r.Designates c.agent k p ∧ Keyed.has user p.privateHistories = false
  | _ => False

variable {user prompt : String} {images : List Json} {r : Registry Json} {request : Request}

variable (prompt images) in
/-- A request that enters its user leaves an empty private history. -/
theorem residue_of_enters (h : request.Enters user r) : ∃ c k p, request = .command c ∧
    r.Designates c.agent k p ∧ Keyed.has user p.privateHistories = false ∧
    (request.task user prompt images).stage.residue r =
      { r with agents := r.agents.set k (p.setHistory .personal user []) } := by
  cases request with
  | command c =>
    obtain ⟨agent, action, args, indices, privateReply, textMode⟩ := c
    obtain ⟨rfl, hindices, k, p, hd, habsent⟩ := h
    obtain ⟨index, rest, rfl⟩ := List.exists_cons_of_ne_nil hindices
    refine ⟨_, k, p, rfl, hd, habsent, ?_⟩
    have hnone : Keyed.get? user p.privateHistories = none := by simpa [Keyed.has] using habsent
    have hempty : p.history .personal user = [] := by rw [Persona.history, hnone]; rfl
    show r.update agent (fun p ↦ p.setHistory .personal user (p.history .personal user)) = _
    rw [Registry.update_of_designates hd, hempty]
  | configure | create => exact h.elim

/-- Any other request leaves nothing. -/
theorem residue_of_not_enters (h : ¬ request.Enters user r) :
    (request.task user prompt images).stage.residue r = r := by
  cases request with
  | configure | create => rfl
  | command c =>
    obtain ⟨agent, action, args, indices, privateReply, textMode⟩ := c
    cases action with
    | deleteAt scope =>
      cases indices with
      | nil => rfl
      | cons index rest =>
        show r.update agent (fun p ↦ p.setHistory scope user (p.history scope user)) = r
        by_cases hd : ∃ k p, r.Designates agent k p
        · obtain ⟨k, p, hd⟩ := hd
          rw [Registry.update_of_designates hd, Persona.setHistory_history,
            Registry.set_of_designates hd]
          rintro rfl
          cases hhas : Keyed.has user p.privateHistories with
          | true => rfl
          | false => exact absurd ⟨rfl, List.cons_ne_nil _ _, k, p, hd, hhas⟩ h
        · exact Registry.update_of_not_designates (fun k p hp ↦ hd ⟨k, p, hp⟩) _
    | _ => rfl

/-- A persona that gets a private history for a user without one is another one. -/
private theorem set_ne_of_absent {k : Nat} {p : Persona Json} {name : String}
    (hd : r.Designates name k p) (habsent : Keyed.has user p.privateHistories = false) :
    { r with agents := r.agents.set k (p.setHistory .personal user []) } ≠ r := by
  intro heq
  have hk := (List.getElem?_eq_some_iff.mp hd.stands).1
  have hp : some (p.setHistory .personal user []) = some p := by
    rw [← hd.stands, ← congrArg (fun r : Registry Json ↦ r.agents[k]?) heq]
    exact (List.getElem?_set_self hk).symm
  have hget := congrArg (fun p ↦ p.map (Keyed.get? user ·.privateHistories)) hp
  have hnone : Keyed.get? user p.privateHistories = none := by simpa [Keyed.has] using habsent
  simp [Persona.setHistory, hnone] at hget

variable {env : Surroundings} {w w' : World} {t' : Task}

/-- How the task of a request stands when it comes in. -/
theorem stands_task : (request.task user prompt images).stage.Stands w w
    (request.task user prompt images).stage := by
  cases request with
  | configure api => trivial
  | create request => exact ⟨rfl, rfl⟩
  | command c =>
    obtain ⟨agent, action, args, indices, privateReply, textMode⟩ := c
    cases action with
    | chat | regenerate | list | viewPrompt | listModels | viewAll | viewAt | exportHistory | help
    | fillDescriptions => exact ⟨rfl, fun _ ↦ rfl, rfl⟩
    | _ => exact ⟨rfl, rfl⟩

/-- A request that is turned down before any question is put ends so whatever the provider would
answer. The same conversations are busy as before, and the files are the same. The registry is the
same too, unless the request deletes messages of a private history that its user does not have:
then, and only then, it has changed, by this user's empty private history. -/
theorem rejection_changes_nothing (script : Task.Script) {o : Outcome}
    (silent : Task.Unasked env w (request.task user prompt images) w' t')
    (ends : t'.ending? = some (.outcome o)) (rejected : o.kind.IsRejection) :
    (request.task user prompt images).run env script w = (w', t') ∧
      (∀ c, w'.busy.holder? c = w.busy.holder? c) ∧ w'.disk = w.disk ∧
      (w'.registry = w.registry ↔ ¬ request.Enters user w.registry) ∧
      (request.Enters user w.registry → ∃ c k p, request = .command c ∧
        w.registry.Designates c.agent k p ∧ w'.registry = { w.registry with
          agents := w.registry.agents.set k (p.setHistory .personal user []) }) := by
  have hstage : t'.stage = .ended (.outcome o) := by
    obtain ⟨agent, action, user, textMode, stage⟩ := t'
    cases stage with
    | ended ending => simpa [Task.ending?] using ends
    | _ => cases ends
  have hstands := silent.stands stands_task
  rw [hstage] at hstands
  obtain ⟨hregistry, hholder, hdisk⟩ := hstands rejected
  refine ⟨silent.run_eq (by simp [ends]) script, hholder, hdisk, ?_, fun henters ↦ ?_⟩
  · constructor
    · intro hsame henters
      obtain ⟨c, k, p, -, hd, habsent, hresidue⟩ :=
        residue_of_enters prompt images henters
      rw [hregistry, hresidue] at hsame
      exact set_ne_of_absent hd habsent hsame
    · intro hother
      rw [hregistry, residue_of_not_enters hother]
  · obtain ⟨c, k, p, hc, hd, -, hresidue⟩ :=
      residue_of_enters prompt images henters
    exact ⟨c, k, p, hc, hd, by rw [hregistry, hresidue]⟩

/-- A talk in which nothing is said makes the conversation busy, and frees it when it is turned
down. -/
theorem rejection_changes_nothing_of_empty_talk :
    let t := (Request.command ⟨"Bot", .chat, "", [], true, true⟩).task "u" "" []
    let script : Task.Script := ⟨[], fun _ ↦ .chat (.ok (some "hello"))⟩
    (t.run .plain script .withBot).2.ending? = some (.outcome (.ofText .validation "请输入内容")) ∧
      (t.run .plain script .withBot).1.registry = World.withBot.registry ∧
      ((t.step .plain .withBot).2.step .plain (t.step .plain .withBot).1).1.busy.isBusy
        ⟨"Bot", .personal, "u"⟩ = true ∧
      (t.run .plain script .withBot).1.busy.isBusy ⟨"Bot", .personal, "u"⟩ = false := by
  intro t script
  have silent : ∃ w' t', Task.Unasked .plain .withBot t w' t' ∧
      t'.ending? = some (.outcome (.ofText .validation "请输入内容")) :=
    ⟨_, _, .step (by decide) (.step (by decide) (.step (by decide) (.step (by decide)
      (.step (by decide) (.done _ _))))), by decide⟩
  obtain ⟨w', t', hsilent, hends⟩ := silent
  obtain ⟨hrun, hholder, -, hregistry, -⟩ :=
    rejection_changes_nothing script hsilent hends (by decide)
  rw [hrun]
  refine ⟨hends, hregistry.mpr ?_, by decide, ?_⟩
  · rintro ⟨h, -⟩
    cases h
  · rw [Occupancy.isBusy, hholder]
    decide

/-- To delete a message from a private history that is not there is turned down, and still the
history is there afterwards. -/
theorem not_rejection_changes_nothing_of_absent_history :
    let t := (Request.command ⟨"Bot", .deleteAt .personal, "", [9], false, true⟩).task "u1" "" []
    let script : Task.Script := ⟨[], fun _ ↦ .chat (.ok (some "hello"))⟩
    Task.Unasked .plain .withBot t (t.run .plain script .withBot).1
      (t.run .plain script .withBot).2 ∧
      (t.run .plain script .withBot).2.ending? = some (.outcome (.ofText .notFound "索引无效")) ∧
      World.withBot.registry.agents.map (·.privateHistories) = [[]] ∧
      (t.run .plain script .withBot).1.registry.agents.map (·.privateHistories) = [[("u1", [])]] :=
  ⟨.step (by decide) (.done _ _), by decide, rfl, by decide⟩

end Request
end PersonaChat
