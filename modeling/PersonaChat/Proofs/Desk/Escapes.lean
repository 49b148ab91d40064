import PersonaChat.Proofs.Desk.Crashes
import PersonaChat.Proofs.Desk.Ownership

/-!
# What escapes a task

What a task is bound to crash over is seen from its stage, its world and the answers that it will
still hear: over what its next section cannot cope with, or over an answer that is passed on.
Neither a section nor an answer changes what it is bound for, so by induction on the course a task
crashes at its end over exactly that, and has an outcome otherwise.
-/

namespace PersonaChat

/-- Fetching the models puts no more questions. -/
def Fetch.Quiet : Fetch → Prop
  | .answered _ | .finished _ => True
  | .asked | .waiting _ => False

/-- Describing puts no more questions. -/
def Describing.Quiet : Describing → Prop
  | .answered _ _ (.error (.crashed _)) | .finished _ => True
  | _ => False

private theorem Fetch.quiet_step {env : Surroundings} {w : World} (f : Fetch) (h : f.Quiet) :
    (f.step env w).2.Quiet := by
  cases f with
  | answered result =>
    rcases result with failure | ids
    · trivial
    · unfold step
      dsimp only
      split <;> trivial
  | finished result => trivial
  | _ => exact h.elim

private theorem Describing.quiet_step {env : Surroundings} {w : World} (d : Describing)
    (h : d.Quiet) :
    (d.step env w).2.Quiet := by
  cases d with
  | answered run persona result =>
    rcases result with (refusal | crash) | content
    · exact h.elim
    · trivial
    · exact h.elim
  | finished result => trivial
  | _ => exact h.elim

namespace Stage

/-- What the provider fails with, if it does not refuse, is passed on. -/
def Exposed : Stage → Prop
  | .configure _ | .configuring _ | .list | .listing _ | .fetch _ | .describe _ => True
  | .edit _ | .release .. | .inspect _ | .talk _ | .ended _ => False

/-- No more questions are put. -/
def Quiet : Stage → Prop
  | .edit _ | .release .. | .inspect _ | .ended _ => True
  | .configuring f | .listing f | .fetch f => f.Quiet
  | .describe d => d.Quiet
  | .configure _ | .list | .talk _ => False

/-- The task has crashed, or will without another answer. -/
def Holds (env : Surroundings) (w : World) (user : String) : Stage → Crash → Prop
  | .edit e, crash => e.Misreads w.registry ∧ crash = .badNumber
  | .inspect i, crash => i.Fails env w user crash
  | .talk g, crash => g.phase = .finished (.error (.crashed crash))
  | .configuring f, crash | .listing f, crash | .fetch f, crash => f.Holds crash
  | .describe d, crash => d.Holds crash
  | .ended ending, crash => ending = .raised (.crashed crash)
  | .release .., _ | .configure _, _ | .list, _ => False

/-- What is kept is typed, and a task that has ended has an outcome or crashed. -/
def Sound : Stage → Prop
  | .describe d => d.Typed
  | .fetch _ => False
  | .ended ending => (∃ outcome, ending = .outcome outcome) ∨ ∃ crash,
      ending = .raised (.crashed crash)
  | _ => True

/-- What a section makes of a stage, as far as crashes go: nothing is added to them and nothing
taken away. -/
inductive Leads (env : Surroundings) (w w' : World) (user : String) (s s' : Stage) : Prop where
  /-- Nothing more is asked. -/
  | settled (sound : s'.Sound) (quiet : s'.Quiet) (safe : ¬ s'.Exposed)
      (holds : ∀ crash, s'.Holds env w' user crash ↔ s.Holds env w user crash)
  /-- The task goes on as before. -/
  | onward (sound : s'.Sound) (quiet : s.Quiet → s'.Quiet) (exposed : s'.Exposed ↔ s.Exposed)
      (holds : ∀ crash, s'.Holds env w' user crash ↔ s.Holds env w user crash)

end Stage

namespace Task

open Stage

variable {env : Surroundings} {w w' : World} {t : Task} {user : String} {s : Stage}

/-- An outcome settles a stage at which the task has not crashed. -/
private theorem leads_outcome {outcome : Outcome} (h : ∀ crash, ¬ s.Holds env w user crash) :
    s.Leads env w w' user (.ended (.outcome outcome)) :=
  .settled (.inl ⟨outcome, rfl⟩) trivial id fun crash ↦ ⟨nofun, fun hs ↦ absurd hs (h crash)⟩

/-- A failure settles a stage at which the task has failed so. -/
private theorem leads_fail {failure : Failure}
    (h : ∀ crash, s.Holds env w user crash ↔ failure = .crashed crash) :
    s.Leads env w (fail w' t failure).1 user (fail w' t failure).2 := by
  cases failure with
  | refused refusal => exact leads_outcome fun crash hs ↦ nomatch (h crash).mp hs
  | crashed c =>
    refine .settled (.inr ⟨c, rfl⟩) trivial id fun crash ↦ ?_
    rw [h]
    simp [fail, Holds]

variable (env w t)

private theorem leads_runEdit (hr : w.registry.Typed) (e : Edit) :
    (Stage.edit e).Leads env w (runEdit env w t e).1 t.user (runEdit env w t e).2 := by
  have hcrash (crash : Crash) : (e.apply w.now w.registry).2 = .error (.crashed crash) ↔
      e.Misreads w.registry ∧ crash = .badNumber := e.crashes_iff hr w.now
  unfold runEdit
  split
  · next r failure happly =>
    rw [happly] at hcrash
    exact leads_fail fun crash ↦ by rw [Holds, ← hcrash]; simp
  · next r done happly =>
    rw [happly] at hcrash
    have hnone (crash : Crash) : ¬ (Stage.edit e).Holds env w t.user crash := by
      rw [Holds, ← hcrash]
      nofun
    dsimp only
    split
    · exact .settled trivial trivial id fun crash ↦ ⟨False.elim, fun h ↦ hnone crash h⟩
    · exact leads_outcome hnone

private theorem leads_runInspection (hr : w.registry.Typed) (i : Inspection) :
    (Stage.inspect i).Leads env w (runInspection env w t i).1 t.user
      (runInspection env w t i).2 := by
  have hcrash (crash : Crash) : (i.run env w t.user t.textMode).2 = .error (.crashed crash) ↔
      i.Fails env w t.user crash := i.crashes_iff env hr
  unfold runInspection
  split
  · next v failure hrun =>
    rw [hrun] at hcrash
    exact leads_fail fun crash ↦ by rw [Holds, ← hcrash]; simp
  · next v outcome hrun =>
    rw [hrun] at hcrash
    exact leads_outcome fun crash h ↦ nomatch (hcrash crash).mpr h

private theorem leads_runTalk (hr : w.registry.Typed) (g : Generation) :
    (Stage.talk g).Leads env w (runTalk env w t g).1 t.user (runTalk env w t g).2 := by
  unfold runTalk
  split
  · next outcome hphase =>
    exact leads_outcome fun crash h ↦ by
      rw [Holds, hphase] at h
      cases h
  · next failure hphase => exact leads_fail fun crash ↦ by rw [Holds, hphase]; simp
  · next hok herror =>
    have hnone (crash : Crash) : g.phase ≠ .finished (.error (.crashed crash)) := herror _
    refine .onward trivial False.elim Iff.rfl fun crash ↦ ?_
    exact ⟨fun h ↦ absurd h (Generation.step_ne_crashed env hr (hnone crash)),
      fun h ↦ absurd h (hnone crash)⟩

private theorem leads_reportConfigured (result : Except Failure (List String)) :
    (Stage.configuring (.finished result)).Leads env w (reportConfigured w result).1 t.user
      (reportConfigured w result).2 := by
  rcases result with (refusal | c) | names
  · exact leads_outcome fun crash h ↦ by cases h
  · exact .settled (.inr ⟨c, rfl⟩) trivial id fun crash ↦ by
      simp [reportConfigured, Holds, Fetch.Holds]
  · exact leads_outcome fun crash h ↦ by cases h

private theorem leads_reportListed (result : Except Failure (List String)) :
    (Stage.listing (.finished result)).Leads env w (reportListed w t result).1 t.user
      (reportListed w t result).2 := by
  rcases result with (refusal | c) | names
  · exact leads_outcome fun crash h ↦ by cases h
  · exact .settled (.inr ⟨c, rfl⟩) trivial id fun crash ↦ by
      simp [reportListed, Holds, Fetch.Holds]
  · exact .settled trivial trivial id fun crash ↦ ⟨False.elim, fun h ↦ by cases h⟩

private theorem leads_reportDescribed (result : Except Failure String) :
    (Stage.describe (.finished result)).Leads env w (reportDescribed w t result).1 t.user
      (reportDescribed w t result).2 := by
  cases result with
  | error failure => exact leads_fail fun crash ↦ by simp [Holds, Describing.Holds]
  | ok text => exact leads_outcome fun crash h ↦ by cases h

variable {t}

/-- A section leaves the crashes of a task as they are. -/
theorem leads_step (hr : w.registry.Typed) (ht : t.stage.Sound) :
    t.stage.Leads env w (t.step env w).1 t.user (t.step env w).2.stage := by
  show t.stage.Leads env w (stepStage env w t).1 t.user (stepStage env w t).2
  unfold stepStage
  split
  · next e hs =>
    rw [hs]
    exact leads_runEdit env w t hr e
  · next hs =>
    rw [hs]
    exact leads_outcome nofun
  · next i hs =>
    rw [hs]
    exact leads_runInspection env w t hr i
  · next g hs =>
    rw [hs]
    exact leads_runTalk env w t hr g
  · next hs =>
    rw [hs]
    exact .onward trivial False.elim Iff.rfl fun crash ↦ ⟨False.elim, False.elim⟩
  · next result hs =>
    rw [hs]
    exact leads_reportConfigured env w t result
  · next f _ hs =>
    rw [hs]
    exact .onward trivial f.quiet_step Iff.rfl (f.holds_step env hr)
  · next hs =>
    rw [hs]
    split
    · exact .onward trivial False.elim Iff.rfl fun crash ↦ Iff.rfl
    · exact .settled trivial trivial id fun crash ↦ Iff.rfl
  · next result hs =>
    rw [hs]
    exact leads_reportListed env w t result
  · next f _ hs =>
    rw [hs]
    exact .onward trivial f.quiet_step Iff.rfl (f.holds_step env hr)
  · next hs =>
    rw [hs] at ht
    exact ht.elim
  · next hs =>
    rw [hs] at ht
    exact ht.elim
  · next result hs =>
    rw [hs]
    exact leads_reportDescribed env w t result
  · next d _ hs =>
    rw [hs] at ht ⊢
    exact .onward (d.step_spec env hr ht .badNumber).1 d.quiet_step Iff.rfl
      fun crash ↦ (d.step_spec env hr ht crash).2
  · next ending hs =>
    rw [hs] at ht ⊢
    exact .onward ht id Iff.rfl fun crash ↦ Iff.rfl

/-- A task is bound to crash, given the answers that it will hear. -/
def BoundFor (env : Surroundings) (w : World) (t : Task) (heard : List Answer)
    (crash : Crash) : Prop :=
  t.stage.Holds env w t.user crash ∨ t.stage.Exposed ∧ ∃ a ∈ heard, a.Crashes crash

variable {env w} {heard : List Answer} {ending : Ending} {crash : Crash}

/-- A section changes nothing about what a task is bound for. -/
theorem boundFor_step (hr : w.registry.Typed) (hs : t.stage.Sound)
    (hquiet : (t.step env w).2.stage.Quiet → heard = []) :
    (t.step env w).2.BoundFor env (t.step env w).1 heard crash ↔ t.BoundFor env w heard crash := by
  cases leads_step env w hr hs with
  | settled sound quiet safe holds =>
    rw [hquiet quiet]
    unfold BoundFor
    simp only [List.not_mem_nil, false_and, exists_false, and_false, or_false]
    exact holds crash
  | onward sound quiet exposed holds =>
    exact or_congr (holds crash) (and_congr_left' exposed)

/-- To hear an answer changes nothing about what a task is bound for. -/
theorem boundFor_answer {query : Query} {a : Answer} (waits : t.query? = some query)
    (kind : query.Accepts a) :
    (t.answer a).BoundFor env w heard crash ↔ t.BoundFor env w (a :: heard) crash := by
  obtain ⟨agent, action, user, textMode, stage⟩ := t
  unfold query? at waits
  unfold BoundFor
  cases stage with
  | talk g =>
    obtain ⟨talk, phase⟩ := g
    cases phase with
    | waiting ticket => cases a <;> simp [answer, Generation.answer, Holds, Exposed]
    | _ => cases waits
  | configuring f | listing f | fetch f =>
    cases f with
    | waiting api =>
      cases waits
      cases a with
      | chat result => exact kind.elim
      | models result => simp [answer, Fetch.answer, Holds, Fetch.Holds, Exposed]
    | _ => cases waits
  | describe d =>
    cases d with
    | waiting run persona request =>
      cases waits
      cases a with
      | chat result => simp [answer, Describing.answer, Holds, Describing.Holds, Exposed]
      | models result => exact kind.elim
    | _ => cases waits
  | _ => cases waits

private theorem sound_answer (hs : t.stage.Sound) (a : Answer) : (t.answer a).stage.Sound := by
  obtain ⟨agent, action, user, textMode, stage⟩ := t
  cases stage with
  | describe d =>
    cases a with
    | chat result => cases d <;> exact hs
    | models result => exact hs
  | fetch f => exact hs.elim
  | ended ending => cases a <;> exact hs
  | _ => cases a <;> trivial

/-- A task that puts no more questions waits for no answer. -/
theorem query?_of_quiet (h : t.stage.Quiet) : t.query? = none := by
  obtain ⟨agent, action, user, textMode, stage⟩ := t
  cases stage with
  | configuring f | listing f | fetch f => cases f <;> first | rfl | exact h.elim
  | describe d => cases d <;> first | rfl | exact h.elim
  | talk g => exact h.elim
  | _ => rfl

/-- A task ends with an outcome, or it crashes as it is bound to. -/
theorem Course.ends (h : Course env w t heard w' ending) (hr : w.registry.Typed) (ht : t.Typed)
    (hs : t.stage.Sound) : (t.stage.Quiet → heard = []) ∧ (Stage.ended ending).Sound ∧
      ∀ crash, ending = .raised (.crashed crash) ↔ t.BoundFor env w heard crash := by
  induction h with
  | @ended w t ending he =>
    obtain ⟨agent, action, user, textMode, stage⟩ := t
    cases stage with
    | ended ending' =>
      cases he
      exact ⟨fun _ ↦ rfl, hs, fun crash ↦ by simp [BoundFor, Holds, Exposed]⟩
    | _ => cases he
  | @stepped w w' t heard ending idle going rest ih =>
    have hlead := leads_step env w hr hs
    have hsound : (t.step env w).2.stage.Sound := by cases hlead <;> assumption
    obtain ⟨hquiet, hending, hbound⟩ := ih (typed_registry_step env ht hr) (ht.step env w) hsound
    refine ⟨fun hq ↦ hquiet ?_, hending, fun crash ↦ ?_⟩
    · cases hlead with
      | settled sound quiet => exact quiet
      | onward sound quiet => exact quiet hq
    · rw [hbound, boundFor_step hr hs hquiet]
  | @answered w w' t query a heard ending waits kind rest ih =>
    obtain ⟨-, hending, hbound⟩ := ih hr (ht.answer a) (sound_answer hs a)
    refine ⟨fun hq ↦ ?_, hending, fun crash ↦ ?_⟩
    · rw [query?_of_quiet hq] at waits
      cases waits
    · rw [hbound, boundFor_answer waits kind]

end Task
end PersonaChat
