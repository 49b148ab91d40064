import Mathlib.Data.List.Induction
import PersonaChat.Proofs.Desk.Aging

/-!
# Questions that answer a user

A generation puts the history that it has stored to the provider. When a user says something, that
is the last message. When an answer shall be given anew without a word, one answer is taken back,
and the last message is whatever is left: nothing, if the history was empty, or another answer, if
what stood between the two was deleted. Main statement: these are the only questions that do not
end with a message of a user.

Spec guidance: `SPEC_FULL.md`, lines 126–129.
-/

namespace PersonaChat

open Text

/-! ### Histories that await an answer -/

namespace History

/-- There is a last message, and it is one of a user. -/
def EndsWithUser (h : History Json) : Prop := ∃ m ∈ h.getLast?, m.hasRole userRole = true

instance : DecidablePred EndsWithUser := fun h ↦
  inferInstanceAs (Decidable (∃ m ∈ h.getLast?, m.hasRole userRole = true))

/-- Behind the last message of a user there is at most one message, an answer. -/
def EndsWithExchange (h : History Json) : Prop :=
  ∃ front m answers, h = front ++ m :: answers ∧ m.hasRole userRole = true ∧
    answers.length ≤ 1 ∧ ∀ answer ∈ answers, answer.hasRole assistantRole = true

variable {h h' : History Json}

private theorem endsWithUser_concat {m : Message Json} :
    EndsWithUser (h ++ [m]) ↔ m.hasRole userRole = true := by
  simp [EndsWithUser]

/-- No message is both one of a user and an answer. -/
theorem not_hasRole_both {m : Message Json} (hu : m.hasRole userRole = true)
    (ha : m.hasRole assistantRole = true) : False := by
  simp only [Message.hasRole, beq_iff_eq] at hu ha
  rw [hu] at ha
  exact absurd ha (by decide)

/-- When one answer is taken back, what is left ends with a message of a user exactly if there was
one with at most one answer behind it. -/
theorem DropsLast.endsWithUser_iff (hd : DropsLast assistantRole h h') :
    EndsWithUser h' ↔ EndsWithExchange h := by
  cases hd with
  | @dropped h' a spoken =>
    constructor
    · rintro ⟨m, hm, hrole⟩
      obtain ⟨front, rfl⟩ := List.getLast?_eq_some_iff.mp hm
      exact ⟨front, m, [a], by simp, hrole, by simp, by simpa using spoken⟩
    · rintro ⟨front, m, answers, heq, hrole, hlength, hanswers⟩
      rcases answers with - | ⟨b, - | ⟨c, rest⟩⟩
      · obtain ⟨-, heq⟩ := List.append_inj' heq rfl
        cases heq
        exact (not_hasRole_both hrole spoken).elim
      · obtain ⟨rfl, -⟩ :=
          List.append_inj' (by simpa using heq : h' ++ [a] = (front ++ [m]) ++ [b]) rfl
        exact endsWithUser_concat.mpr hrole
      · simp at hlength
  | stayed other =>
    constructor
    · rintro ⟨m, hm, hrole⟩
      obtain ⟨front, rfl⟩ := List.getLast?_eq_some_iff.mp hm
      exact ⟨front, m, [], rfl, hrole, by simp, nofun⟩
    · rintro ⟨front, m, answers, rfl, hrole, hlength, hanswers⟩
      rcases answers with - | ⟨b, - | ⟨c, rest⟩⟩
      · exact endsWithUser_concat.mpr hrole
      · exact absurd (hanswers b List.mem_cons_self) (other b (by simp))
      · simp at hlength

end History

/-- The history that a start stores ends with a message of a user, unless an answer shall be given
anew, nothing is said, and there is no exchange to take it from. -/
theorem Talk.endsWithUser_nextHistory {t : Talk} {h h' : History Json} {now : Int}
    (hn : t.nextHistory h now = .ok h') :
    h'.EndsWithUser ↔ t.again = false ∨ t.prompt ≠ "" ∨ h.EndsWithExchange := by
  rcases t.nextHistory_cases hn with ⟨hfresh, -, rfl⟩ | ⟨hagain, hretakes⟩
  · exact iff_of_true (History.endsWithUser_concat.mpr (by simp [Message.hasRole, Message.ofUser]))
      (.inl hfresh)
  · rw [hagain]
    cases hretakes with
    | silent unsaid answer => simp [unsaid, answer.endsWithUser_iff]
    | said said answer question role content eq =>
      rw [eq]
      exact iff_of_true (History.endsWithUser_concat.mpr role) (.inr (.inl said))

namespace Floor

variable (env : Surroundings) {s : Floor} {i : Nat}

/-- A command that holds a ticket has once carried out the section that stored its message. -/
theorem exists_begins (w : World) {moves : List Move} {t : Task} {talk : Talk} {ticket : Ticket}
    (ht : ((opened w).run env moves).tasks[i]? = some t)
    (holds : t.ticket? = some (talk, ticket)) :
    ∃ before after k p, moves = before ++ .proceed i :: after ∧
      Generation.Begins ((opened w).run env before).world
        ((opened w).run env (before ++ [.proceed i])).world talk ticket k p := by
  induction moves using List.reverseRecOn generalizing t with
  | nil => simp [run, opened] at ht
  | append_singleton moves move ih =>
    have earlier {t : Task} (ht : ((opened w).run env moves).tasks[i]? = some t)
        (holds : t.ticket? = some (talk, ticket)) :
        ∃ before after k p, moves ++ [move] = before ++ .proceed i :: after ∧
          Generation.Begins ((opened w).run env before).world
            ((opened w).run env (before ++ [.proceed i])).world talk ticket k p := by
      obtain ⟨before, after, k, p, hmoves, hb⟩ := ih ht holds
      exact ⟨before, after ++ [move], k, p, by rw [hmoves]; simp, hb⟩
    rw [run_append] at ht
    change (take env ((opened w).run env moves) move).tasks[i]? = some t at ht
    rcases getElem?_take env ((opened w).run env moves) move i with
      hsame | ⟨own, rfl, hown, hnext⟩ | ⟨own, a, -, hown, hnext⟩ |
      ⟨user, prompt, images, request, -, -, hnext⟩
    · rw [hsame] at ht
      exact earlier ht holds
    · rw [hnext] at ht
      cases ht
      rcases Task.ticket?_step env _ _ holds with ⟨-, holds⟩ | ⟨-, k, p, hb⟩
      · exact earlier hown holds
      · refine ⟨moves, [], k, p, rfl, ?_⟩
        rw [run_append]
        change Generation.Begins _ (proceed env _ i).world _ _ _ _
        rw [proceed_of_getElem? env hown]
        exact hb
    · rw [hnext] at ht
      cases ht
      rw [Task.ticket?_answer] at holds
      exact earlier hown holds
    · rw [hnext] at ht
      cases ht
      rw [Task.ticket?_task] at holds
      cases holds

/-- After any commands, the question of a generation ends with a message of a user exactly if the
generation is no attempt to give an answer anew, or its user said something, or the history in
which it started ended with a message of a user and at most one answer. -/
theorem questions_end_with_user_iff (env : Surroundings) (w : World) {moves : List Move} {i : Nat}
    {talk : Talk} {phase : Phase} {ticket : Ticket}
    (underway : ((opened w).run env moves).At i (.talk ⟨talk, phase⟩))
    (holds : phase.ticket? = some ticket) :
    ∃ before after k p, moves = before ++ .proceed i :: after ∧
      ((opened w).run env before).world.registry.Designates talk.agent k p ∧
      (ticket.request.messages.EndsWithUser ↔ talk.again = false ∨ talk.prompt ≠ "" ∨
        (p.history talk.scope talk.user).EndsWithExchange) := by
  obtain ⟨t, ht, hs⟩ := underway
  have hticket : t.ticket? = some (talk, ticket) := by
    rw [Task.ticket?, hs]
    simp [holds]
  obtain ⟨before, after, k, p, hmoves, hb⟩ := exists_begins env w ht hticket
  exact ⟨before, after, k, p, hmoves, hb.found, Talk.endsWithUser_nextHistory hb.next⟩

/-- A user talks to `Bot`, and then wants another answer without a word: the second question ends
with what the user said. -/
theorem questions_end_with_user_of_exchange :
    let moves : List Move :=
      [.askBot "u" .chat false "hello", .proceed 0, .proceed 0, .proceed 0, .proceed 0,
      .answer 0 (.chat (.ok (some "hi"))), .proceed 0, .proceed 0,
      .askBot "u" .regenerate false "", .proceed 1, .proceed 1, .proceed 1, .proceed 1]
    ∃ talk ticket, ((opened .withBot).run .plain moves).At 1 (.talk ⟨talk, .waiting ticket⟩) ∧
      talk.again = true ∧ talk.prompt = "" ∧ ticket.request.messages.EndsWithUser ∧
      ∃ before after k p, moves = before ++ .proceed 1 :: after ∧
        ((opened .withBot).run .plain before).world.registry.Designates talk.agent k p ∧
        (p.history talk.scope talk.user).EndsWithExchange := by
  intro moves
  have underway : ((opened .withBot).run .plain moves).At 1
      (.talk ⟨⟨"Bot", .shared, "u", "", [], true, true⟩,
        .waiting ⟨⟨.str "base", .str "key"⟩, 2, "Bot", 2,
        ⟨.str "model", [.ofUser "hello" [] 0], .str "prompt"⟩, 0⟩⟩) := ⟨_, rfl, rfl⟩
  refine ⟨_, _, underway, rfl, rfl, by decide +kernel, ?_⟩
  obtain ⟨before, after, k, p, hmoves, hfound, hiff⟩ :=
    questions_end_with_user_iff .plain .withBot underway rfl
  have hends : History.EndsWithUser [.ofUser "hello" [] 0] := by decide +kernel
  rcases hiff.mp hends with hagain | hprompt | hexchange
  · cases hagain
  · exact absurd rfl hprompt
  · exact ⟨before, after, k, p, hmoves, hfound, hexchange⟩

/-- Before anything was said to `Bot` a user wants another answer: the provider is asked about no
message at all. -/
theorem not_questions_end_with_user_of_empty_history :
    let s := (opened .withBot).run .plain
      [.askBot "u" .regenerate false "", .proceed 0, .proceed 0, .proceed 0, .proceed 0]
    ∃ talk ticket, s.At 0 (.talk ⟨talk, .waiting ticket⟩) ∧
      s.world.events = [.ask (.chat ticket.api ticket.request)] ∧
      ¬ ticket.request.messages.EndsWithUser :=
  ⟨⟨"Bot", .shared, "u", "", [], true, true⟩,
    ⟨⟨.str "base", .str "key"⟩, 1, "Bot", 1, ⟨.str "model", [], .str "prompt"⟩, 0⟩,
    ⟨_, rfl, rfl⟩, rfl, by decide⟩

end Floor

end PersonaChat
