import PersonaChat.Desk.Intake

/-!
# Every command comes to its end

A task has only so many steps ahead of it. Every step that it takes on its own brings it closer to
its end, and so does every answer of the kind it waits for. The bounds on steps and on questions
with which tasks are run leave room for all of them, so that a task stops only to wait or because
it has ended, and ends once its questions are answered.
-/

namespace PersonaChat

open Text

/-- Whether an answer is of the kind that a question asks for. -/
def Query.Accepts : Query → Answer → Prop
  | .chat _ _, .chat _ => True
  | .models _, .models _ => True
  | _, _ => False

/-- Whether a script answers every question in its kind. -/
def Task.Script.Proper (script : Task.Script) : Prop :=
  (∀ reply ∈ script.replies, ∀ query : Query, query.Accepts (reply query)) ∧
    ∀ query : Query, query.Accepts (script.fallback query)

/-- The steps ahead of a generation. -/
def Phase.ahead : Phase → Nat
  | .asked => 10
  | .admitted _ => 9
  | .occupied _ _ => 8
  | .started _ => 7
  | .waiting _ => 6
  | .answered _ _ => 5
  | .freed _ _ => 3
  | .stored .. | .rejected _ _ => 2
  | .finished _ => 1

/-- The steps ahead of fetching the models. -/
def Fetch.ahead : Fetch → Nat
  | .asked => 7
  | .waiting _ => 6
  | .answered _ => 5
  | .finished _ => 2

/-- The steps ahead of describing personas, given how many personas there are. -/
def Describing.ahead (agents : Nat) : Describing → Nat
  | .asked _ => 3 * agents + 6
  | .surveyed _ targets => 3 * targets.length + 5
  | .going run => 3 * run.remaining.length + 4
  | .waiting run _ _ => 3 * run.remaining.length + 6
  | .answered run _ _ => 3 * run.remaining.length + 5
  | .finished _ => 1

/-- The steps ahead of a task, given how many personas there are. A task that waits for an answer
has a multiple of three ahead, so that a third of the steps bounds the questions. -/
def Stage.ahead (agents : Nat) : Stage → Nat
  | .edit _ => 2
  | .release _ _ | .inspect _ => 1
  | .talk g => g.phase.ahead
  | .configure _ | .list => 8
  | .configuring f | .listing f | .fetch f => f.ahead
  | .describe d => d.ahead agents
  | .ended _ => 0

/-- The steps ahead of a task. -/
def Task.ahead (w : World) (t : Task) : Nat := t.stage.ahead w.registry.agents.length

variable (env : Surroundings) (w : World)

namespace Generation

private theorem ahead_enter (t : Talk) : (enter w t).ahead < 10 := by
  unfold enter
  split
  · simp [Phase.ahead]
  · simp [Phase.ahead]
  · split
    · simp [Phase.ahead]
    · simp [Phase.ahead]

private theorem ahead_occupy (t : Talk) (api : Api Json) : (occupy w t api).2.ahead < 9 := by
  unfold occupy
  split
  · simp [Phase.ahead]
  · simp [Phase.ahead]

private theorem ahead_begin (t : Talk) (api : Api Json) (token : Nat) :
    (begin env w t api token).2.ahead < 8 := by
  unfold begin
  split
  · simp [Phase.ahead]
  · simp [Phase.ahead]
  · split
    · simp [Phase.ahead]
    · simp [Phase.ahead]

private theorem ahead_ask (t : Talk) (ticket : Ticket) : (ask env w t ticket).2.ahead < 7 := by
  unfold ask
  dsimp only
  split
  · simp [Phase.ahead]
  · split
    · simp [Phase.ahead]
    · split
      · simp [Phase.ahead]
      · simp [Phase.ahead]

private theorem ahead_complete (t : Talk) (ticket : Ticket) (content : Option String) :
    (complete env w t ticket content).2.ahead < 3 := by
  unfold complete
  split <;> simp [Phase.ahead]

/-- A generation that neither waits nor has finished comes closer to its end. -/
theorem ahead_step (g : Generation) (hw : ∀ ticket, g.phase ≠ .waiting ticket)
    (hf : ∀ result, g.phase ≠ .finished result) :
    (g.step env w).2.phase.ahead < g.phase.ahead := by
  obtain ⟨t, phase⟩ := g
  cases phase with
  | asked => exact ahead_enter w t
  | admitted api => exact ahead_occupy w t api
  | occupied api token => exact ahead_begin env w t api token
  | rejected token refusal => exact (by decide : 1 < 2)
  | started ticket => exact ahead_ask env w t ticket
  | waiting ticket => exact absurd rfl (hw ticket)
  | answered ticket result => exact (by decide : 3 < 5)
  | freed ticket result =>
    cases result with
    | error failure => exact (by decide : 1 < 3)
    | ok content => exact ahead_complete env w t ticket content
  | stored ticket index content => exact (by decide : 1 < 2)
  | finished result => exact absurd rfl (hf result)

end Generation

namespace Fetch

private theorem ahead_ask : (ask env w).2.ahead < 7 := by
  unfold ask
  dsimp only
  split
  · simp [ahead]
  · split
    · simp [ahead]
    · simp [ahead]

/-- Fetching that neither waits nor has finished comes closer to its end. -/
theorem ahead_step (f : Fetch) (hw : ∀ api, f ≠ .waiting api)
    (hf : ∀ result, f ≠ .finished result) :
    (f.step env w).2.ahead < f.ahead := by
  cases f with
  | asked => exact ahead_ask env w
  | waiting api => exact absurd rfl (hw api)
  | answered result =>
    cases result with
    | error failure => exact (by decide : 2 < 5)
    | ok ids =>
      unfold step
      dsimp only
      split
      · exact (by decide : 2 < 5)
      · exact (by decide : 2 < 5)
  | finished result => exact absurd rfl (hf result)

end Fetch

namespace Describing

private theorem length_targets_le (r : Registry Json) : (targets r).length ≤ r.agents.length := by
  unfold targets
  rw [List.length_map]
  exact List.length_filter_le _ _

private theorem ahead_survey (ref : String) (agents : Nat) :
    (survey w ref).2.ahead agents < 3 * w.registry.agents.length + 6 := by
  have htargets := length_targets_le w.registry
  unfold survey
  split
  · dsimp only [ahead]
    omega
  · dsimp only
    split
    · dsimp only [ahead]
      omega
    · split
      · dsimp only [ahead]
        omega
      · dsimp only [ahead]
        omega

private theorem ahead_connect (model : Json) (targets : List (Json × Json)) (agents : Nat) :
    (connect env w model targets).ahead agents < 3 * targets.length + 5 := by
  unfold connect
  dsimp only
  split
  · dsimp only [ahead]
    omega
  · split
    · dsimp only [ahead]
      omega
    · dsimp only [ahead]
      omega

private theorem ahead_ask (run : DescribingRun) (agents : Nat) :
    (ask env w run).2.ahead agents < 3 * run.remaining.length + 4 := by
  unfold ask
  split
  · dsimp only [ahead]
    omega
  · next persona prompt rest hrest =>
    rw [hrest, List.length_cons]
    dsimp only
    split
    · dsimp only [ahead]
      omega
    · split
      · dsimp only [ahead]
        omega
      · dsimp only [ahead]
        omega

private theorem ahead_store (run : DescribingRun) (persona : Json) (content : String)
    (agents : Nat) :
    (store env w run persona content).2.ahead agents < 3 * run.remaining.length + 5 := by
  unfold store
  dsimp only
  split
  · dsimp only [ahead]
    omega
  · dsimp only [ahead]
    omega
  · dsimp only [ahead]
    omega

/-- Describing that neither waits nor has finished comes closer to its end. -/
theorem ahead_step (d : Describing) (agents : Nat)
    (hw : ∀ run persona request, d ≠ .waiting run persona request)
    (hf : ∀ result, d ≠ .finished result) :
    (d.step env w).2.ahead agents < d.ahead w.registry.agents.length := by
  cases d with
  | asked ref => exact ahead_survey w ref agents
  | surveyed model targets => exact ahead_connect env w model targets agents
  | going run => exact ahead_ask env w run agents
  | waiting run persona request => exact absurd rfl (hw run persona request)
  | answered run persona result =>
    cases result with
    | error failure =>
      cases failure with
      | refused refusal =>
        dsimp only [step, ahead]
        omega
      | crashed crash =>
        dsimp only [step, ahead]
        omega
    | ok content =>
      unfold step
      dsimp only
      split
      · dsimp only [ahead]
        omega
      · dsimp only [ahead]
        omega
      · exact ahead_store env w run persona _ agents
  | finished result => exact absurd rfl (hf result)

end Describing

namespace Task

private theorem ahead_fail (t : Task) (failure : Failure) (agents : Nat) :
    (fail w t failure).2.ahead agents = 0 := by
  cases failure with
  | refused refusal => rfl
  | crashed crash => rfl

private theorem ahead_runEdit (t : Task) (e : Edit) (agents : Nat) :
    (runEdit env w t e).2.ahead agents < 2 := by
  unfold runEdit
  split
  · rw [ahead_fail]
    omega
  · dsimp only
    split
    · exact (by decide : 1 < 2)
    · exact (by decide : 0 < 2)

private theorem ahead_runInspection (t : Task) (i : Inspection) (agents : Nat) :
    (runInspection env w t i).2.ahead agents < 1 := by
  unfold runInspection
  split
  · rw [ahead_fail]
    omega
  · exact (by decide : 0 < 1)

private theorem ahead_runTalk (t : Task) (g : Generation)
    (hw : ∀ ticket, g.phase ≠ .waiting ticket)
    (agents : Nat) : (runTalk env w t g).2.ahead agents < g.phase.ahead := by
  unfold runTalk
  split
  · next outcome hphase =>
    rw [hphase]
    exact (by decide : 0 < 1)
  · next failure hphase =>
    rw [hphase, ahead_fail]
    exact (by decide : 0 < 1)
  · next hok herror =>
    apply g.ahead_step env w hw
    intro result hresult
    cases result with
    | ok outcome => exact hok outcome hresult
    | error failure => exact herror failure hresult

private theorem ahead_reportConfigured (result : Except Failure (List String)) (agents : Nat) :
    (reportConfigured w result).2.ahead agents < 2 := by
  unfold reportConfigured
  split
  · exact (by decide : 0 < 2)
  · exact (by decide : 0 < 2)
  · exact (by decide : 0 < 2)

private theorem ahead_reportListed (t : Task) (result : Except Failure (List String))
    (agents : Nat) :
    (reportListed w t result).2.ahead agents < 2 := by
  unfold reportListed
  split
  · exact (by decide : 1 < 2)
  · exact (by decide : 0 < 2)
  · exact (by decide : 0 < 2)

private theorem ahead_reportDescribed (t : Task) (result : Except Failure String) (agents : Nat) :
    (reportDescribed w t result).2.ahead agents < 1 := by
  cases result with
  | ok text => exact (by decide : 0 < 1)
  | error failure => exact Nat.lt_one_iff.mpr (ahead_fail w t failure agents)

/-- The next step of a task that neither waits nor has ended brings it closer to its end, however
many personas there are afterwards. -/
theorem ahead_stepStage (t : Task) (hq : t.query? = none) (he : t.ending? = none) (agents : Nat) :
    (stepStage env w t).2.ahead agents < t.ahead w := by
  unfold ahead
  unfold query? at hq
  unfold ending? at he
  unfold stepStage
  split
  · next e hs =>
    rw [hs]
    exact ahead_runEdit env w t e agents
  · next hs =>
    rw [hs]
    exact (by decide : 0 < 1)
  · next i hs =>
    rw [hs]
    exact ahead_runInspection env w t i agents
  · next g hs =>
    rw [hs] at hq ⊢
    apply ahead_runTalk env w t g
    intro ticket hphase
    simp [Generation.query?, hphase] at hq
  · next hs =>
    rw [hs]
    exact (by decide : 7 < 8)
  · next result hs =>
    rw [hs]
    exact ahead_reportConfigured w result agents
  · next f hf hs =>
    rw [hs] at hq ⊢
    exact f.ahead_step env w (by rintro api rfl; cases hq) hf
  · next hs =>
    rw [hs]
    split
    · exact (by decide : 7 < 8)
    · exact (by decide : 1 < 8)
  · next result hs =>
    rw [hs]
    exact ahead_reportListed w t result agents
  · next f hf hs =>
    rw [hs] at hq ⊢
    exact f.ahead_step env w (by rintro api rfl; cases hq) hf
  · next result hs =>
    rw [hs]
    cases result with
    | ok names => exact (by decide : 0 < 2)
    | error failure => exact (by decide : 0 < 2)
  · next f hf hs =>
    rw [hs] at hq ⊢
    exact f.ahead_step env w (by rintro api rfl; cases hq) hf
  · next result hs =>
    rw [hs]
    exact ahead_reportDescribed w t result agents
  · next d hf hs =>
    rw [hs] at hq ⊢
    exact d.ahead_step env w agents (by rintro run persona request rfl; cases hq) hf
  · next ending hs =>
    rw [hs] at he
    cases he

/-- A task stops to wait for an answer, or because it has ended. -/
def Stopped (t : Task) : Prop := t.query?.isSome ∨ t.ending?.isSome

private theorem ending?_of_ahead_eq_zero (t : Task) (h : t.ahead w = 0) : t.ending?.isSome := by
  obtain ⟨agent, action, user, textMode, stage⟩ := t
  unfold ahead at h
  cases stage with
  | ended ending => rfl
  | talk g => obtain ⟨talk, phase⟩ := g; cases phase <;> cases h
  | configuring f | listing f | fetch f => cases f <;> cases h
  | describe d => cases d <;> cases h
  | _ => cases h

/-- Given as many steps as are ahead of it, a task proceeds until it stops. -/
theorem proceed_stopped (steps : Nat) (t : Task) (h : t.ahead w ≤ steps) :
    (proceed env steps w t).2.Stopped ∧
      (proceed env steps w t).2.ahead (proceed env steps w t).1 ≤ t.ahead w := by
  induction steps generalizing w t with
  | zero => exact ⟨.inr (ending?_of_ahead_eq_zero w t (Nat.le_zero.mp h)), Nat.le_refl _⟩
  | succ steps ih =>
    unfold proceed
    split
    · next hstop =>
      rw [Bool.or_eq_true] at hstop
      exact ⟨hstop, Nat.le_refl _⟩
    · next hgo =>
      rw [Bool.or_eq_true, not_or] at hgo
      obtain ⟨hq, he⟩ := hgo
      have hstep : (t.step env w).2.ahead (t.step env w).1 < t.ahead w :=
        ahead_stepStage env w t (by simpa using hq) (by simpa using he) _
      obtain ⟨hstopped, hle⟩ := ih (t.step env w).1 (t.step env w).2 (by omega)
      exact ⟨hstopped, Nat.le_trans hle (Nat.le_of_lt hstep)⟩

/-- A task has no more sections ahead than it is given. -/
theorem ahead_le_enough (t : Task) : t.ahead w ≤ enough w t := by
  obtain ⟨agent, action, user, textMode, stage⟩ := t
  unfold ahead enough remaining
  cases stage with
  | talk g =>
    obtain ⟨talk, phase⟩ := g
    cases phase <;> simp only [Stage.ahead, Phase.ahead] <;> omega
  | configuring f | listing f | fetch f =>
    cases f <;> simp only [Stage.ahead, Fetch.ahead] <;> omega
  | describe d =>
    cases d <;> simp only [Stage.ahead, Describing.ahead, Describing.remaining] <;> omega
  | _ =>
    simp only [Stage.ahead]
    omega

private theorem advance_stopped (t : Task) :
    (t.advance env w).2.Stopped ∧ (t.advance env w).2.ahead (t.advance env w).1 ≤ t.ahead w :=
  proceed_stopped env w (enough w t) t (ahead_le_enough w t)

/-- A task that waits has three steps ahead of it for each persona to be described, and six
more. -/
theorem ahead_of_query? (t : Task) {query : Query} (hq : t.query? = some query) :
    t.ahead w = 3 * (t.remaining + 2) := by
  obtain ⟨agent, action, user, textMode, stage⟩ := t
  unfold query? at hq
  cases stage with
  | talk g =>
    obtain ⟨talk, phase⟩ := g
    cases phase with
    | waiting ticket => rfl
    | _ => cases hq
  | configuring f | listing f | fetch f =>
    cases f with
    | waiting api => rfl
    | _ => cases hq
  | describe d =>
    cases d with
    | waiting run persona request => rfl
    | _ => cases hq
  | _ => cases hq

/-- An answer of the right kind brings a task closer to its end. -/
theorem ahead_answer (t : Task) {query : Query} {a : Answer} (hq : t.query? = some query)
    (ha : query.Accepts a) : (t.answer a).ahead w < t.ahead w := by
  obtain ⟨agent, action, user, textMode, stage⟩ := t
  unfold query? at hq
  cases stage with
  | talk g =>
    obtain ⟨talk, phase⟩ := g
    cases phase with
    | waiting ticket =>
      cases hq
      cases a with
      | chat result => exact (by decide : 5 < 6)
      | models result => cases ha
    | _ => cases hq
  | configuring f | listing f | fetch f =>
    cases f with
    | waiting api =>
      cases hq
      cases a with
      | chat result => cases ha
      | models result => exact (by decide : 5 < 6)
    | _ => cases hq
  | describe d =>
    cases d with
    | waiting run persona request =>
      cases hq
      cases a with
      | chat result => exact Nat.lt_succ_self _
      | models result => cases ha
    | _ => cases hq
  | _ => cases hq

/-- A task that has stopped has a question ahead of it for each persona to be described, and two
more at most. -/
theorem ahead_le_of_stopped (t : Task) (h : t.Stopped) : t.ahead w / 3 ≤ t.remaining + 2 := by
  obtain hq | he := h
  · obtain ⟨query, hquery⟩ := Option.isSome_iff_exists.mp hq
    rw [ahead_of_query? w t hquery]
    omega
  · have hzero : t.ahead w = 0 := by
      obtain ⟨agent, action, user, textMode, stage⟩ := t
      cases stage with
      | ended ending => rfl
      | _ => cases he
    rw [hzero]
    omega

private theorem converse_ends (fallback : Query → Answer) (questions : Nat)
    (replies : List (Query → Answer)) (t : Task)
    (hproper : Script.Proper ⟨replies, fallback⟩) (ht : t.Stopped)
    (hquestions : t.ahead w / 3 ≤ questions) :
    (converse env fallback questions replies w t).2.ending?.isSome := by
  induction questions generalizing w t replies with
  | zero =>
    obtain hq | he := ht
    · obtain ⟨query, hquery⟩ := Option.isSome_iff_exists.mp hq
      have hahead := ahead_of_query? w t hquery
      omega
    · exact he
  | succ questions ih =>
    unfold converse
    split
    · next hq =>
      obtain hsome | he := ht
      · rw [hq] at hsome
        cases hsome
      · exact he
    · next query hq =>
      have hanswer : query.Accepts (replies.headD fallback query) := by
        cases replies with
        | nil => exact hproper.2 query
        | cons reply rest => exact hproper.1 reply List.mem_cons_self query
      have htail : Script.Proper ⟨replies.tail, fallback⟩ :=
        ⟨fun reply hreply ↦ hproper.1 reply (List.mem_of_mem_tail hreply), hproper.2⟩
      have hahead := ahead_of_query? w t hq
      have hless := ahead_answer w t hq hanswer
      obtain ⟨hstopped, hle⟩ := advance_stopped env w (t.answer (replies.headD fallback query))
      dsimp only
      generalize (t.answer (replies.headD fallback query)).advance env w =
        advanced at hstopped hle ⊢
      exact ih advanced.1 replies.tail advanced.2 htail hstopped (by omega)

/-- Every task ends once its questions are answered in their kind. -/
theorem run_ends (script : Script) (t : Task) (hproper : script.Proper) :
    (t.run env script w).2.ending?.isSome := by
  obtain ⟨hstopped, -⟩ := advance_stopped env w t
  have hquestions := ahead_le_of_stopped (t.advance env w).1 (t.advance env w).2 hstopped
  unfold run
  dsimp only
  exact converse_ends env _ _ _ _ _ hproper hstopped (Nat.le_trans hquestions (by omega))

end Task

end PersonaChat
