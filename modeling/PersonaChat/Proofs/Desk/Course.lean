import PersonaChat.Proofs.Desk.Progress

/-!
# The course of a task

A task that runs to its end carries out its sections, hears an answer wherever it waits, and ends.
Its course says so without the bounds with which it is run, so that what sections and answers
preserve can be followed along it. Main statement: every run whose questions are answered in their
kind is such a course.
-/

namespace PersonaChat.Task

variable (env : Surroundings)

/-- The answers that a task hears that runs to its end, for at most the given number of
questions. -/
def heardIn (fallback : Query → Answer) :
    Nat → List (Query → Answer) → World → Task → List Answer
  | 0, _, _, _ => []
  | questions + 1, replies, w, t =>
    match t.query? with
    | none => []
    | some query =>
      let answer := replies.headD fallback query
      let (w, t) := (t.answer answer).advance env w
      answer :: heardIn fallback questions replies.tail w t

/-- The answers that a task hears when it runs to its end with the provider following a script. -/
def heard (script : Script) (w : World) (t : Task) : List Answer :=
  let (w, t) := t.advance env w
  heardIn env script.fallback (w.registry.agents.length + t.remaining + 2) script.replies w t

/-- In a world a task hears answers of the kinds it waits for, leaves another world, and comes to
an ending. -/
inductive Course : World → Task → List Answer → World → Ending → Prop where
  /-- It has ended. -/
  | ended {w : World} {t : Task} {ending : Ending} (ended : t.ending? = some ending) :
      Course w t [] w ending
  /-- It carries out its next section. -/
  | stepped {w w' : World} {t : Task} {heard : List Answer} {ending : Ending}
      (idle : t.query? = none) (going : t.ending? = none)
      (rest : Course (t.step env w).1 (t.step env w).2 heard w' ending) :
      Course w t heard w' ending
  /-- It hears an answer. -/
  | answered {w w' : World} {t : Task} {query : Query} {a : Answer} {heard : List Answer}
      {ending : Ending} (waits : t.query? = some query) (kind : query.Accepts a)
      (rest : Course w (t.answer a) heard w' ending) : Course w t (a :: heard) w' ending

variable {env} {w w' : World} {t : Task} {heard : List Answer} {ending : Ending}

/-- What a task does without a break stands at the start of its course. -/
theorem Course.of_proceed {steps : Nat}
    (h : Course env (proceed env steps w t).1 (proceed env steps w t).2 heard w' ending) :
    Course env w t heard w' ending := by
  induction steps generalizing w t with
  | zero => exact h
  | succ steps ih =>
    unfold proceed at h
    split at h
    · exact h
    · next hgo =>
      rw [Bool.or_eq_true, not_or] at hgo
      exact .stepped (by simpa using hgo.1) (by simpa using hgo.2) (ih h)

/-- A task that ends when it is answered has followed its course. -/
theorem course_converse {fallback : Query → Answer} {questions : Nat}
    {replies : List (Query → Answer)} (hproper : Script.Proper ⟨replies, fallback⟩)
    (h : (converse env fallback questions replies w t).2.ending? = some ending) :
    Course env w t (heardIn env fallback questions replies w t)
      (converse env fallback questions replies w t).1 ending := by
  induction questions generalizing w t replies with
  | zero => exact .ended h
  | succ questions ih =>
    cases hq : t.query? with
    | none =>
      simp only [converse, heardIn, hq] at h ⊢
      exact .ended h
    | some query =>
      have hanswer : query.Accepts (replies.headD fallback query) := by
        cases replies with
        | nil => exact hproper.2 query
        | cons reply rest => exact hproper.1 reply List.mem_cons_self query
      have htail : Script.Proper ⟨replies.tail, fallback⟩ :=
        ⟨fun reply hreply ↦ hproper.1 reply (List.mem_of_mem_tail hreply), hproper.2⟩
      simp only [converse, heardIn, hq] at h ⊢
      exact .answered hq hanswer (ih htail h).of_proceed

/-- A task that is run with its questions answered in their kind follows a course to its end. -/
theorem course_run {script : Script} (hproper : script.Proper) (w : World) (t : Task) :
    ∃ ending, (t.run env script w).2.ending? = some ending ∧
      Course env w t (t.heard env script w) (t.run env script w).1 ending := by
  obtain ⟨ending, hending⟩ := Option.isSome_iff_exists.mp (run_ends env w script t hproper)
  exact ⟨ending, hending, (course_converse hproper hending).of_proceed⟩

end PersonaChat.Task
