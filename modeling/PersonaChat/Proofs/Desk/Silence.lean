import Mathlib.Data.List.Induction
import PersonaChat.Proofs.Desk.Floor
import PersonaChat.Proofs.Desk.Stages
import PersonaChat.Proofs.Desk.Telling

/-!
# Silence means a dropped answer

What a command sends is collected from its own sections, whatever the other commands do in between.
It befits the stage of the command from its first section to its end. Main statement: a request
that has ended with an outcome has sent nothing to its user exactly if the answer was dropped; if
it failed, the last thing it sent is a text with the message; and if it is a generation that ended
well, one section stored the answer and saved it, a later one sent it, and no other section sent
anything to the user. Between the two the registry is not locked, so the sections of other commands
may come there.

Spec guidance: `SPEC_FULL.md`, lines 136–138.
-/

namespace PersonaChat

/-! ### The outcome of a generation -/

namespace Stage

/-- The outcome of a command, once it is known. -/
def outcome? : Stage → Option Outcome
  | .ended (.outcome o) | .talk ⟨_, .finished (.ok o)⟩ => some o
  | _ => none

/-- A command continues the given conversation, or it has ended. -/
def Continues (talk : Talk) : Stage → Prop
  | .talk g => g.talk = talk
  | .ended _ => True
  | _ => False

/-- Until its outcome is known, a command may have sent nothing. -/
theorem toldBy_nil {stage : Stage} (h : stage.outcome? = none) : stage.ToldBy [] := by
  unfold ToldBy
  split
  · cases h
  · cases h
  · exact silent_nil
  · trivial

private theorem outcome?_talk_eq_some {g : Generation} {o : Outcome}
    (h : outcome? (.talk g) = some o) :
    g.phase = .finished (.ok o) := by
  unfold outcome? at h
  split at h
  · next hs => cases hs
  · next hs =>
    cases hs
    cases h
    rfl
  · cases h

end Stage

namespace Task

variable (env : Surroundings) (w : World) {t : Task} {talk : Talk}

private theorem outcome?_fail_ne_ok {failure : Failure} {o : Outcome}
    (ho : (fail w t failure).2.outcome? = some o) : o.kind ≠ .ok := by
  cases failure with
  | refused refusal =>
    cases ho
    show refusal.kind.outcome ≠ .ok
    cases refusal.kind <;> decide
  | crashed crash => cases ho

private theorem continues_step (h : t.stage.Continues talk) :
    (t.step env w).2.stage.Continues talk := by
  have hfollows := t.follows_step env w
  generalize (t.step env w).2.stage = next at hfollows ⊢
  generalize t.stage = stage at h hfollows
  cases hfollows with
  | ended => trivial
  | talking => exact h
  | _ => cases h

private theorem continues_answer (h : t.stage.Continues talk) (a : Answer) :
    (t.answer a).stage.Continues talk := by
  obtain ⟨agent, action, user, textMode, stage⟩ := t
  cases stage with
  | talk g =>
    obtain ⟨talk, phase⟩ := g
    cases a with
    | chat result => cases phase <;> exact h
    | models result => exact h
  | ended ending => trivial
  | _ => cases h

private theorem outcome?_answer (a : Answer) : (t.answer a).stage.outcome? = t.stage.outcome? := by
  obtain ⟨agent, action, user, textMode, stage⟩ := t
  cases stage with
  | talk g =>
    obtain ⟨talk, phase⟩ := g
    cases a with
    | chat result => cases phase <;> rfl
    | models result => rfl
  | _ => cases a <;> rfl

/-- The next section of a generation that has its outcome, or has failed, ends the command; before
that it is a section of the generation. -/
private theorem step_of_continues (h : t.stage.Continues talk) :
    ((∃ ending, (t.step env w).2.stage = .ended ending) ∧
      ∀ o, (t.step env w).2.stage.outcome? = some o → o.kind = .ok →
        t.stage.outcome? = some o ∧ (t.step env w).1.events = w.events) ∨
    ∃ phase, t.stage = .talk ⟨talk, phase⟩ ∧ (∀ o, phase ≠ .finished (.ok o)) ∧
      t.step env w = ((Generation.step env w ⟨talk, phase⟩).1,
        { t with stage := .talk (Generation.step env w ⟨talk, phase⟩).2 }) := by
  cases hs : t.stage with
  | talk g =>
    obtain ⟨talk', phase⟩ := g
    rw [hs] at h
    cases h
    by_cases hdone : ∃ o', phase = .finished (.ok o')
    · obtain ⟨o', rfl⟩ := hdone
      have hstep : t.step env w = (w, { t with stage := .ended (.outcome o') }) := by
        simp only [step, stepStage, hs, runTalk]
      rw [hstep]
      exact .inl ⟨⟨_, rfl⟩, fun o ho _ ↦ ⟨ho, rfl⟩⟩
    rcases stepStage_of_talk env w t hs with ⟨result, rfl, -, -⟩ | hstep
    · cases result with
      | ok o' => exact absurd ⟨o', rfl⟩ hdone
      | error failure =>
        have hstep :
            t.step env w = ((fail w t failure).1, { t with stage := (fail w t failure).2 }) := by
          simp only [step, stepStage, hs, runTalk]
        rw [hstep]
        refine .inl ⟨?_, fun o ho hk ↦ absurd hk (outcome?_fail_ne_ok w ho)⟩
        cases failure <;> exact ⟨_, rfl⟩
    · exact .inr ⟨phase, rfl, not_exists.mp hdone, by simp only [step, hstep]⟩
  | ended ending =>
    have hstep : t.step env w = (w, t) := by
      simp only [step, stepStage, hs]
      rw [← hs]
    rw [hstep, hs]
    exact .inl ⟨⟨_, rfl⟩, fun o ho _ ↦ ⟨ho, rfl⟩⟩
  | _ =>
    rw [hs] at h
    cases h

/-- A generation comes by a good outcome in the section that sends the answer it has stored, and
sends nothing after that. -/
theorem outcome?_step (h : t.stage.Continues talk) {o : Outcome}
    (ho : (t.step env w).2.stage.outcome? = some o) (hk : o.kind = .ok) :
    (t.stage.outcome? = some o ∧ (t.step env w).1.events = w.events) ∨
    ∃ ticket index content, t.stage = .talk ⟨talk, .stored ticket index content⟩ ∧
      o = .done content ∧ (t.step env w).1.events = w.events ++
        Generation.delivery env talk (Generation.title talk ticket.persona index) content := by
  rcases step_of_continues env w h with ⟨-, hknown⟩ | ⟨phase, hs, hdone, hstep⟩
  · exact .inl (hknown o ho hk)
  · rw [hstep] at ho ⊢
    obtain ⟨ticket, index, content, rfl, hends, hreply⟩ :=
      Generation.stored_of_finished env w hdone (Stage.outcome?_talk_eq_some ho) hk
    refine .inr ⟨ticket, index, content, hs, hends, ?_⟩
    dsimp only
    rw [hreply, Generation.events_reply]

/-- A generation whose answer waits to be sent after a section has stored it in that section. -/
theorem storesAnswer_of_step (h : t.stage.Continues talk) {ticket : Ticket} {index : Nat}
    {content : String}
    (hs : (t.step env w).2.stage = .talk ⟨talk, .stored ticket index content⟩) :
    ∃ phase, t.stage = .talk ⟨talk, phase⟩ ∧ (∀ o, phase ≠ .finished (.ok o)) ∧
      Generation.StoresAnswer env w talk ticket index content (t.step env w).1 := by
  rcases step_of_continues env w h with ⟨⟨ending, hended⟩, -⟩ | ⟨phase, hphase, hdone, hstep⟩
  · rw [hended] at hs
    cases hs
  · rw [hstep] at hs ⊢
    exact ⟨phase, hphase, hdone,
      Generation.storesAnswer_of_step env w (congrArg Generation.phase (Stage.talk.inj hs))⟩

/-- A question is not answered by storing anything. -/
theorem stored_of_answer {a : Answer} {ticket : Ticket} {index : Nat} {content : String}
    (hs : (t.answer a).stage = .talk ⟨talk, .stored ticket index content⟩) :
    t.stage = .talk ⟨talk, .stored ticket index content⟩ := by
  obtain ⟨agent, action, user, textMode, stage⟩ := t
  cases stage with
  | talk g =>
    obtain ⟨talk', phase⟩ := g
    cases a with
    | chat result =>
      cases phase with
      | waiting own => cases hs
      | _ => exact hs
    | models result => exact hs
  | _ => cases a <;> cases hs

end Task

/-- A request that just came in has no outcome. -/
theorem Request.outcome?_task (request : Request) (user prompt : String) (images : List Json) :
    (request.task user prompt images).stage.outcome? = none := by
  cases request with
  | configure api => rfl
  | create request => rfl
  | command c =>
    show (Task.firstStage c user prompt images).outcome? = none
    unfold Task.firstStage
    cases c.action <;> rfl

/-! ### What a command sends -/

namespace Floor

/-- What a command sends in a move. -/
def sentIn (env : Surroundings) (s : Floor) (i : Nat) : Move → List Event
  | .proceed j => if j = i then (s.proceed env j).world.events.drop s.world.events.length else []
  | .receive .. | .answer .. | .clock _ | .close => []

/-- What a command sends while moves are made. -/
def sent (env : Surroundings) (i : Nat) : Floor → List Move → List Event
  | _, [] => []
  | s, move :: moves => s.sentIn env i move ++ sent env i (s.take env move) moves

variable (env : Surroundings) {s : Floor} {i : Nat} {t : Task}

private theorem sent_append (moves moves' : List Move) :
    s.sent env i (moves ++ moves') = s.sent env i moves ++
    (s.run env moves).sent env i moves' := by
  induction moves generalizing s with
  | nil => rfl
  | cons move moves ih =>
    rw [List.cons_append, sent, sent, ih, List.append_assoc]
    rfl

/-- What a command sends comes after what was sent before. -/
theorem events_proceed (s : Floor) (i : Nat) :
    (s.proceed env i).world.events = s.world.events ++ s.sentIn env i (.proceed i) := by
  rw [sentIn, if_pos rfl]
  cases ht : s.tasks[i]? with
  | none => simp [proceed_of_getElem?_eq_none env ht]
  | some t =>
    obtain ⟨new, hnew, -⟩ := t.toldBy_step env s.world
    rw [proceed_of_getElem? env ht]
    dsimp only
    rw [hnew, List.drop_left]

/-- In a move that is not its next section a command sends nothing and stays as it is but for an
answer. -/
theorem take_of_ne (ht : s.tasks[i]? = some t) {move : Move} (hmove : move ≠ .proceed i) :
    s.sentIn env i move = [] ∧
      ((s.take env move).tasks[i]? = some t ∨ ∃ a,
        (s.take env move).tasks[i]? = some (t.answer a)) := by
  have hi := (List.getElem?_eq_some_iff.mp ht).1
  cases move with
  | receive user prompt images request =>
    exact ⟨rfl, .inl ((List.getElem?_append_left hi).trans ht)⟩
  | proceed j =>
    have hj : j ≠ i := fun hj ↦ hmove (by rw [hj])
    exact ⟨if_neg hj, .inl ((getElem?_proceed_of_ne env hj).trans ht)⟩
  | answer j a =>
    refine ⟨rfl, ?_⟩
    by_cases hj : j = i
    · exact .inr ⟨a, by simp [take, hj, ht]⟩
    · exact .inl (by simp [take, hj, ht])
  | clock now => exact ⟨rfl, .inl ht⟩
  | close =>
    refine ⟨rfl, .inl ?_⟩
    dsimp only [take]
    exact ht

/-- What a command sends in its next section. -/
theorem sentIn_proceed (ht : s.tasks[i]? = some t) {new : List Event}
    (hnew : (t.step env s.world).1.events = s.world.events ++ new) :
    s.sentIn env i (.proceed i) = new := by
  have h := s.events_proceed env i
  rw [proceed_of_getElem? env ht] at h
  exact List.append_cancel_left (h.symm.trans hnew)

/-- After a move, what a command has sent befits its stage if it did before. -/
theorem toldBy_take (ht : s.tasks[i]? = some t) {before : List Event} (h : t.stage.ToldBy before)
    (move : Move) : ∃ t', (s.take env move).tasks[i]? = some t' ∧
      t'.stage.ToldBy (before ++ s.sentIn env i move) := by
  by_cases hmove : move = .proceed i
  · subst hmove
    obtain ⟨new, hnew, htold⟩ := t.toldBy_step env s.world
    refine ⟨_, getElem?_proceed_self env ht, ?_⟩
    rw [sentIn_proceed env ht hnew]
    exact htold before h
  · obtain ⟨hnothing, hsame | ⟨a, hanswered⟩⟩ := take_of_ne env ht hmove
    · exact ⟨t, hsame, by rwa [hnothing, List.append_nil]⟩
    · refine ⟨_, hanswered, ?_⟩
      rw [hnothing, List.append_nil]
      exact Task.toldBy_answer h a

/-- After any moves, what a command has sent befits its stage if it did at first. -/
theorem toldBy_run (ht : s.tasks[i]? = some t) {before : List Event} (h : t.stage.ToldBy before)
    (moves : List Move) : ∃ t', (s.run env moves).tasks[i]? = some t' ∧
      t'.stage.ToldBy (before ++ s.sent env i moves) := by
  induction moves generalizing s t before with
  | nil => exact ⟨t, ht, by rwa [sent, List.append_nil]⟩
  | cons move moves ih =>
    obtain ⟨t', ht', h'⟩ := toldBy_take env ht h move
    rw [sent, ← List.append_assoc]
    exact ih ht' h'

/-- After some moves a generation has stored its answer and saved it; it was silent before, and
only other commands have proceeded since. -/
structure HasStored (s : Floor) (i : Nat) (talk : Talk) (ticket : Ticket) (index : Nat)
    (content : String) (before between : List Move) : Prop where
  /-- Its section stores the answer, saves it and sends nothing. -/
  stores : Generation.StoresAnswer env (s.run env before).world talk ticket index content
    ((s.run env before).proceed env i).world
  /-- It is silent before. -/
  silent_before : Silent (s.sent env i before)
  /-- It does not proceed since then. -/
  others : ∀ move ∈ between, move ≠ .proceed i

/-- A generation stores its answer and saves it in one section, and sends it in its next one; the
registry is free for the moves between them, and before and after it is silent. -/
structure Answers (s : Floor) (i : Nat) (talk : Talk) (content : String)
    (before between after : List Move) : Prop where
  /-- The answer is stored and saved first, and sent after that. -/
  sends : ∃ ticket index, s.HasStored env i talk ticket index content before between ∧
    (s.run env (before ++ .proceed i :: between)).sentIn env i (.proceed i) =
      Generation.delivery env talk (Generation.title talk ticket.persona index) content
  /-- It is silent after. -/
  silent_after :
    Silent (((s.run env (before ++ .proceed i :: between)).proceed env i).sent env i after)

variable {env} in
/-- Another move in which nothing is sent may follow. -/
theorem Answers.concat {talk : Talk} {content : String} {before between after : List Move}
    (h : s.Answers env i talk content before between after) {move : Move}
    (hnothing : (s.run env
      (before ++ .proceed i :: between ++ .proceed i :: after)).sentIn env i move = []) :
    s.Answers env i talk content before between (after ++ [move]) where
  sends := h.sends
  silent_after := by
    rw [run_append] at hnothing
    rw [sent_append, silent_append]
    refine ⟨h.silent_after, ?_⟩
    change Silent (sentIn env (run env (run env s _) (.proceed i :: after)) i move ++ [])
    rw [hnothing]
    exact silent_nil

/-- After some moves a command goes on with its talk: where its answer waits to be sent it has
stored it, and where it has a good outcome it has stored its answer and sent it later. -/
structure Answering (s : Floor) (i : Nat) (talk : Talk) (moves : List Move) (t : Task) :
    Prop where
  /-- It goes on with its talk. -/
  continues : t.stage.Continues talk
  /-- An answer that waits was stored. -/
  stored : ∀ ticket index content, t.stage = .talk ⟨talk, .stored ticket index content⟩ →
    ∃ before between, moves = before ++ .proceed i :: between ∧
      s.HasStored env i talk ticket index content before between
  /-- A good outcome is an answer that was stored and sent. -/
  answers : ∀ o, t.stage.outcome? = some o → o.kind = .ok → ∃ content before between after,
    o = .done content ∧ moves = before ++ .proceed i :: between ++ .proceed i :: after ∧
      s.Answers env i talk content before between after

namespace Answering

variable {env} {talk : Talk} {moves : List Move} {move : Move}

/-- An answer that waits goes on to wait while others proceed. -/
theorem stored_concat (h : s.Answering env i talk moves t) (hmove : move ≠ .proceed i)
    {ticket : Ticket} {index : Nat} {content : String}
    (hs : t.stage = .talk ⟨talk, .stored ticket index content⟩) :
    ∃ before between, moves ++ [move] = before ++ .proceed i :: between ∧
      s.HasStored env i talk ticket index content before between := by
  obtain ⟨before, between, rfl, hstored⟩ := h.stored ticket index content hs
  refine ⟨before, between ++ [move], by simp, { hstored with others := fun m hm ↦ ?_ }⟩
  rcases List.mem_append.mp hm with hm | hm
  · exact hstored.others m hm
  · rwa [List.mem_singleton.mp hm]

/-- An answer that was sent stays the only thing that was sent where nothing more is. -/
theorem answers_concat (h : s.Answering env i talk moves t)
    (hnothing : (s.run env moves).sentIn env i move = []) {o : Outcome}
    (ho : t.stage.outcome? = some o) (hk : o.kind = .ok) : ∃ content before between after,
      o = .done content ∧
        moves ++ [move] = before ++ .proceed i :: between ++ .proceed i :: after ∧
        s.Answers env i talk content before between after := by
  obtain ⟨content, before, between, after, hdone, rfl, hanswers⟩ := h.answers o ho hk
  exact ⟨content, before, between, after ++ [move], hdone, by simp, hanswers.concat hnothing⟩

/-- The next section of the command itself stores the answer, sends the one that it has stored, or
does neither. -/
theorem proceed (h : s.Answering env i talk moves t) (ht : (s.run env moves).tasks[i]? = some t)
    (htold : t.stage.ToldBy (s.sent env i moves)) :
    s.Answering env i talk (moves ++ [.proceed i]) (t.step env (s.run env moves).world).2 where
  continues := Task.continues_step env _ h.continues
  stored := by
    intro ticket index content hs
    obtain ⟨phase, hphase, hdone, hstores⟩ := Task.storesAnswer_of_step env _ h.continues hs
    rw [hphase] at htold
    refine ⟨moves, [], rfl, ?_, (Stage.toldBy_talk_iff hdone).mp htold, nofun⟩
    rw [proceed_of_getElem? env ht]
    exact hstores
  answers := by
    intro o ho hk
    rcases Task.outcome?_step env _ h.continues ho hk with ⟨ho, hevents⟩ |
      ⟨ticket, index, content, hstage, rfl, hevents⟩
    · exact h.answers_concat (sentIn_proceed env ht (by rw [hevents, List.append_nil])) ho hk
    · obtain ⟨before, between, rfl, hstored⟩ := h.stored ticket index content hstage
      exact ⟨content, before, between, [], rfl, rfl,
        ⟨ticket, index, hstored, sentIn_proceed env ht hevents⟩, silent_nil⟩

end Answering

/-- A generation that was asked goes on answering after any moves. -/
theorem answering_run {talk : Talk} (ht : s.tasks[i]? = some t)
    (hs : t.stage = .talk ⟨talk, .asked⟩) (moves : List Move) :
    ∃ t', (s.run env moves).tasks[i]? = some t' ∧ s.Answering env i talk moves t' := by
  -- From the end: the last move is the section that is looked for, or it comes after that.
  induction moves using List.reverseRecOn with
  | nil =>
    refine ⟨t, ht, ?_, ?_, ?_⟩
    · rw [hs]
      exact rfl
    · rw [hs]
      nofun
    · rw [hs]
      nofun
  | append_singleton moves move ih =>
    obtain ⟨t', ht', h⟩ := ih
    rw [run_append]
    change ∃ t'', ((s.run env moves).take env move).tasks[i]? = some t'' ∧ _
    by_cases hmove : move = .proceed i
    · subst hmove
      obtain ⟨_, hrun, htold⟩ := toldBy_run env ht (Stage.toldBy_nil (by rw [hs]; rfl)) moves
      cases ht'.symm.trans hrun
      exact ⟨_, getElem?_proceed_self env ht', h.proceed ht' htold⟩
    · obtain ⟨hnothing, hsame | ⟨a, hanswered⟩⟩ := take_of_ne env ht' hmove
      · exact ⟨t', hsame, h.continues, fun _ _ _ ↦ h.stored_concat hmove,
          fun o ho hk ↦ h.answers_concat hnothing ho hk⟩
      · refine ⟨_, hanswered, Task.continues_answer h.continues a,
          fun _ _ _ hs' ↦ h.stored_concat hmove (Task.stored_of_answer hs'), fun o ho hk ↦ ?_⟩
        rw [Task.outcome?_answer] at ho
        exact h.answers_concat hnothing ho hk

/-- A request has sent nothing to its user exactly if it ended with a dropped answer; an error
ended with a text that holds its message; and a generation that ended well stored its answer and
saved it in a section of its own, before anything reached the user. -/
theorem silence_means_cancelled (env : Surroundings) (s : Floor) (user prompt : String)
    (images : List Json) (request : Request) (moves : List Move) {o : Outcome}
    (ends : ((s.take env (.receive user prompt images request)).run env moves).At s.tasks.length
      (.ended (.outcome o))) :
    let start := s.take env (.receive user prompt images request)
    o.ToldBy (start.sent env s.tasks.length moves) ∧
      ∀ talk, (request.task user prompt images).stage = .talk ⟨talk, .asked⟩ → o.kind = .ok →
        ∃ content before between after, o = .done content ∧
          moves = before ++ .proceed s.tasks.length :: between ++
          .proceed s.tasks.length :: after ∧
          start.Answers env s.tasks.length talk content before between after := by
  intro start
  have hstart : start.tasks[s.tasks.length]? = some (request.task user prompt images) := by
    simp [start, take]
  obtain ⟨t, ht, hs⟩ := ends
  refine ⟨?_, fun talk htalk hk ↦ ?_⟩
  · have hnew := Stage.toldBy_nil (request.outcome?_task user prompt images)
    obtain ⟨t', ht', htold⟩ := toldBy_run env hstart hnew moves
    rw [ht] at ht'
    cases ht'
    rwa [hs] at htold
  · obtain ⟨t', ht', hanswering⟩ := answering_run env hstart htalk moves
    rw [ht] at ht'
    cases ht'
    exact hanswering.answers o (by rw [hs]; rfl) hk

/-- A user talks to `Bot`, and the answer cannot be drawn: it reaches him all the same, after it
was stored and saved, although another user empties the history in between. -/
theorem silence_means_cancelled_of_undrawn :
    let env : Surroundings :=
      { Surroundings.plain with renderer := some fun _ _ ↦ .error "no fonts" }
    let talk : Talk := ⟨"Bot", .shared, "u", "hello", [], false, false⟩
    let start := (opened .withBot).take env
      (.receive "u" "hello" [] (.command ⟨"Bot", .chat, "hello", [], false, false⟩))
    let moves : List Move := [.proceed 0, .proceed 0, .proceed 0, .proceed 0,
      .answer 0 (.chat (.ok (some "hi"))), .proceed 0, .proceed 0,
      .askBot "v" (.clearHistory .shared) false "", .proceed 1, .proceed 0, .proceed 0]
    (start.run env moves).At 0 (.ended (.outcome (.done "hi"))) ∧
    ¬ Silent (start.sent env 0 moves) ∧
      ∃ before between after, moves = before ++ .proceed 0 :: between ++ .proceed 0 :: after ∧
        start.Answers env 0 talk "hi" before between after := by
  intro env talk start moves
  have ends : (start.run env moves).At 0 (.ended (.outcome (.done "hi"))) :=
    .of_ending? (by decide +kernel)
  obtain ⟨htold, hanswers⟩ := silence_means_cancelled env (opened .withBot) "u" "hello" []
    (.command ⟨"Bot", .chat, "hello", [], false, false⟩) moves ends
  refine ⟨ends, ?_, ?_⟩
  · intro hsilent
    cases htold.silent.mp hsilent
  · obtain ⟨content, before, between, after, hdone, hmoves, h⟩ := hanswers talk rfl rfl
    cases hdone
    exact ⟨before, between, after, hmoves, h⟩

/-- While the provider answers one user, another one stops `Bot`: the answer is dropped in
silence. -/
example :
    let start := (opened .withBot).take .plain
      (.receive "u1" "hello" [] (.command ⟨"Bot", .chat, "hello", [], false, true⟩))
    let moves : List Move := [.proceed 0, .proceed 0, .proceed 0, .proceed 0,
      .askBot "u2" .stop false "", .proceed 1, .proceed 1, .answer 0 (.chat (.ok (some "hi"))),
      .proceed 0, .proceed 0, .proceed 0]
    (start.run .plain moves).tasks[0]?.bind Task.ending? =
    some (.outcome (.ofText .cancelled "")) ∧
      Silent (start.sent .plain 0 moves) := by
  decide +kernel

end Floor

end PersonaChat
