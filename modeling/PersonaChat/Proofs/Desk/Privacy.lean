import PersonaChat.Desk.Session
import PersonaChat.Proofs.Desk.AlikeSteps
import PersonaChat.Proofs.Desk.Floor
import PersonaChat.Proofs.Desk.Progress

/-!
# Private histories stay private

A command of a user runs the same in two worlds that look the same to this user: it asks the
provider the same questions, sends the same texts, pictures and files, ends in the same way, and
leaves worlds that look the same again. So nothing that a user gets depends on the private
histories of others.

Spec guidance: `SPEC_FULL.md`, lines 28–29.
-/

namespace PersonaChat

open World

variable {v : String} {w w' : World} (env : Surroundings)

namespace Task

variable (t : Task)

private theorem seenBy_fail (w : World) (failure : Failure) :
    SeenBy (some v) { t with stage := (fail w t failure).2 } := by
  cases failure with
  | refused refusal => trivial
  | crashed crash => trivial

/-- A user keeps seeing what a task of the user does. -/
theorem seenBy_step (w : World) (ht : t.SeenBy (some v)) : (t.step env w).2.SeenBy (some v) := by
  obtain ⟨agent, action, user, textMode, stage⟩ := t
  cases stage with
  | edit e =>
    unfold step stepStage runEdit
    dsimp only
    split
    · exact seenBy_fail _ _ _
    · split
      · trivial
      · trivial
  | release release reply => trivial
  | inspect i =>
    unfold step stepStage runInspection
    dsimp only
    split
    · exact seenBy_fail _ _ _
    · trivial
  | talk g =>
    unfold step stepStage runTalk
    dsimp only
    split
    · trivial
    · exact seenBy_fail _ _ _
    · exact ht
  | configure api => trivial
  | configuring f =>
    cases f with
    | finished result =>
      rcases result with (_ | _) | _
      · trivial
      · trivial
      · trivial
    | asked | waiting _ | answered _ => trivial
  | list =>
    unfold step stepStage
    dsimp only
    split
    · exact ht
    · exact ht
  | listing f =>
    cases f with
    | finished result =>
      rcases result with (_ | _) | _
      · trivial
      · trivial
      · exact ht
    | asked | waiting _ | answered _ => exact ht
  | fetch f =>
    cases f with
    | finished result =>
      cases result with
      | error failure => trivial
      | ok names => trivial
    | asked | waiting _ | answered _ => trivial
  | describe d =>
    cases d with
    | finished result =>
      cases result with
      | error failure => exact seenBy_fail _ _ _
      | ok text => trivial
    | asked _ | surveyed _ _ | going _ | waiting _ _ _ | answered _ _ _ => trivial
  | ended ending => trivial

private theorem seenBy_answer (a : Answer) (ht : t.SeenBy (some v)) :
    (t.answer a).SeenBy (some v) := by
  obtain ⟨agent, action, user, textMode, stage⟩ := t
  cases stage with
  | talk g =>
    cases a with
    | chat result =>
      unfold answer Generation.answer SeenBy
      dsimp only
      split
      · exact ht
      · exact ht
    | models result => exact ht
  | configuring f | listing f | fetch f | describe d =>
    cases a with
    | chat result => exact ht
    | models result => exact ht
  | _ => exact ht

/-- Until it waits or ends, a task of a user proceeds the same in worlds that look the same to this
user, and the user then still sees what it does. -/
theorem proceed_like (steps : Nat) (h : w.Like (.ofUser env v) w') (ht : t.SeenBy (some v)) :
    LikeWith (.ofUser env v) (proceed env steps w t) (proceed env steps w' t) ∧
      (proceed env steps w t).2.SeenBy (some v) := by
  induction steps generalizing w w' t with
  | zero => exact ⟨h.returning t, ht⟩
  | succ steps ih =>
    unfold proceed
    split
    · exact ⟨h.returning t, ht⟩
    · obtain ⟨u, u', next, hs, hs', hu⟩ :=
        (step_like t h ht fun _ _ _ _ _ _ _ ↦ trivial).cases
      have hnext := seenBy_step env t w ht
      rw [hs] at hnext ⊢
      rw [hs']
      exact ih next hu hnext

private theorem advance_like (h : w.Like (.ofUser env v) w') (ht : t.SeenBy (some v)) :
    LikeWith (.ofUser env v) (t.advance env w) (t.advance env w') ∧
      (t.advance env w).2.SeenBy (some v) := by
  unfold advance enough
  rw [h.length_agents]
  exact proceed_like env t _ h ht

/-- Whatever the provider answers, and however it makes its answers depend on the questions. -/
theorem converse_like (fallback : Query → Answer) (questions : Nat)
    (replies : List (Query → Answer)) (h : w.Like (.ofUser env v) w') (ht : t.SeenBy (some v)) :
    LikeWith (.ofUser env v) (converse env fallback questions replies w t)
      (converse env fallback questions replies w' t) := by
  induction questions generalizing w w' t replies with
  | zero => exact h.returning t
  | succ questions ih =>
    unfold converse
    split
    · exact h.returning t
    · next query _ =>
      obtain ⟨hadvanced, hof⟩ := advance_like env (t.answer (replies.headD fallback query)) h
        (seenBy_answer t _ ht)
      obtain ⟨u, u', next, hs, hs', hu⟩ := hadvanced.cases
      rw [hs] at hof
      dsimp only
      rw [hs, hs']
      exact ih next replies.tail hu hof

private theorem run_like (script : Script) (h : w.Like (.ofUser env v) w')
    (ht : t.SeenBy (some v)) :
    LikeWith (.ofUser env v) (t.run env script w) (t.run env script w') := by
  obtain ⟨hadvanced, hof⟩ := advance_like env t h ht
  obtain ⟨u, u', next, hs, hs', hu⟩ := hadvanced.cases
  rw [hs] at hof
  unfold run
  dsimp only
  rw [hs, hs', hu.length_agents]
  exact converse_like env next _ _ _ hu hof

/-- A task of a user runs the same in worlds that look the same to this user. -/
theorem run_alike (script : Script) (h : w.Alike v w') (ht : t.SeenBy (some v)) :
    (t.run env script w).1.Alike v (t.run env script w').1 ∧
      (t.run env script w).2 = (t.run env script w').2 := by
  obtain ⟨hworld, hresult⟩ := run_like env t script ((alike_iff_like env).mp h) ht
  exact ⟨(alike_iff_like env).mpr hworld, hresult⟩

end Task

namespace Request

/-- A user sees what the task of a request of this user does. -/
theorem seenBy_task (request : Request) (v prompt : String) (images : List Json) :
    (request.task v prompt images).SeenBy (some v) := by
  have hv : Sees (some v) v := fun u hu ↦ Option.some.inj hu
  cases request with
  | configure api => trivial
  | create request => exact hv
  | command c =>
    obtain ⟨agent, action, args, indices, privateReply, textMode⟩ := c
    cases action with
    | fillDescriptions model => trivial
    | _ => exact hv

end Request

namespace Incoming

private theorem quotation_like (h : w.Like (.ofUser env v) w') (id : Int) :
    LikeWith (.ofUser env v) (quotation env w id) (quotation env w' id) := by
  unfold quotation
  dsimp only
  split
  · exact (h.emit _).returning _
  · exact ((h.emit _).note _ _ _ _ _ _).returning _

private theorem commandTask_like (h : w.Like (.ofUser env v) w') (m : Incoming) (c : Command) :
    LikeWith (.ofUser env v) (commandTask env w m c) (commandTask env w' m c) := by
  unfold commandTask
  split
  · exact h.returning _
  · cases m.replyTo with
    | none => exact h.returning _
    | some id =>
      obtain ⟨u, u', quoted, hq, hq', hu⟩ := (quotation_like env h id).cases
      dsimp only
      rw [hq, hq']
      exact hu.returning _

private theorem seenBy_commandTask (w : World) (m : Incoming) (c : Command) :
    (commandTask env w m c).2.SeenBy (some m.user) := by
  unfold commandTask
  split
  · exact (Request.command c).seenBy_task m.user _ _
  · exact (Request.command c).seenBy_task m.user _ _

/-- A message is recognised by the names of all personas, which every user sees. -/
theorem task_like (m : Incoming) (h : w.Like (.ofUser env v) w') :
    LikeWith (.ofUser env v) (m.task env w) (m.task env w') := by
  unfold task
  rw [h.names]
  split
  · exact h.returning _
  · exact h.returning _
  · exact h.returning _
  · exact h.returning _
  · next c _ =>
    obtain ⟨u, u', t, hc, hc', hu⟩ := (commandTask_like env h m c).cases
    rw [hc, hc']
    exact hu.returning _

/-- A user sees what the task of a message of this user does. -/
theorem seenBy_task (m : Incoming) {t : Task} (h : (m.task env w).2 = .ok (some t)) :
    t.SeenBy (some m.user) := by
  unfold task at h
  split at h
  · cases h
  · cases h
  · next api _ =>
    cases h
    exact (Request.configure api).seenBy_task m.user "" []
  · next request _ =>
    cases h
    exact (Request.create request).seenBy_task m.user "" []
  · next c _ =>
    have hc := seenBy_commandTask env w m c
    cases h
    exact hc

end Incoming

/-- A message is replied to in the same way, and leaves what the user sees the same, in services
whose worlds differ in the private histories of others only. -/
theorem Session.send_alike (s : Session) (m : Incoming) (h : w.Alike m.user w')
    (script : Task.Script) :
    ({ s with world := w }.send script m).2 = ({ s with world := w' }.send script m).2 ∧
      ({ s with world := w }.send script m).1.world.Alike m.user
        ({ s with world := w' }.send script m).1.world := by
  have hof (t : Task) := Incoming.seenBy_task s.env (w := w) m (t := t)
  obtain ⟨u, u', task, ht, ht', hu⟩ :=
    (Incoming.task_like s.env m ((alike_iff_like s.env).mp h)).cases
  rw [ht] at hof
  unfold send take
  dsimp only
  rw [ht, ht']
  rcases task with crash | _ | t
  · exact ⟨rfl, (alike_iff_like s.env).mpr hu⟩
  · exact ⟨rfl, (alike_iff_like s.env).mpr hu⟩
  · obtain ⟨hworld, hresult⟩ :=
      Task.run_alike s.env t script ((alike_iff_like s.env).mpr hu) (hof t rfl)
    unfold run within
    simp only [if_true]
    exact ⟨by rw [hresult], hworld⟩

namespace Request

/-- What a request of a user comes to, all that leaves the service meanwhile, and what the user
sees afterwards are the same in worlds that differ in the private histories of others only; and a
request does come to something. So it is with a message of the user in whatever session, from how
it is read to how it is replied to. -/
theorem task_hides_other_histories (h : w.Alike v w') (request : Request) (prompt : String)
    (images : List Json) (script : Task.Script) :
    ((request.task v prompt images).run env script w).2.ending? =
        ((request.task v prompt images).run env script w').2.ending? ∧
      ((request.task v prompt images).run env script w).1.events =
        ((request.task v prompt images).run env script w').1.events ∧
      ((request.task v prompt images).run env script w).1.Alike v
        ((request.task v prompt images).run env script w').1 ∧
      (script.Proper → ((request.task v prompt images).run env script w).2.ending?.isSome) ∧
      ∀ (s : Session) (m : Incoming), m.user = v →
        ({ s with world := w }.send script m).2 = ({ s with world := w' }.send script m).2 ∧
          ({ s with world := w }.send script m).1.world.Alike v
            ({ s with world := w' }.send script m).1.world := by
  obtain ⟨hworld, hresult⟩ :=
    Task.run_alike env _ script h (request.seenBy_task v prompt images)
  refine ⟨by rw [hresult], hworld.events, hworld, Task.run_ends env w script _, ?_⟩
  rintro s m rfl
  exact s.send_alike m h script

/-- A small service in which another user has said something in private. -/
def withSecret : World :=
  { World.withBot with
    registry := { World.withBot.registry with
      agents := World.withBot.registry.agents.map fun p ↦
        p.setHistory .personal "u2" [.ofUser "secret" [] 0] } }

/-- The user who said it is shown it, and everyone else gets what there would be without it. -/
theorem task_hides_other_histories_of_secret :
    let view : Request := .command ⟨"Bot", .viewAll .personal, "", [], false, true⟩
    let script : Task.Script := ⟨[], fun _ ↦ .chat (.ok (some "hello"))⟩
    ((view.task "u2" "" []).run .plain script withSecret).2.ending? ≠
        ((view.task "u2" "" []).run .plain script .withBot).2.ending? ∧
      withSecret.Alike "u1" .withBot ∧
      ((view.task "u1" "" []).run .plain script withSecret).2.ending? =
        ((view.task "u1" "" []).run .plain script .withBot).2.ending? ∧
      ((view.task "u1" "" []).run .plain script withSecret).2.ending? =
        some (.outcome (.done "📭 Bot 私有历史为空")) := by
  intro view script
  have halike : withSecret.Alike "u1" .withBot :=
    ⟨rfl, rfl, rfl, rfl, rfl, rfl, rfl, rfl⟩
  exact ⟨by decide +kernel, halike,
    (task_hides_other_histories .plain halike view "" [] script).1, by decide +kernel⟩

end Request

end PersonaChat
