import PersonaChat.Desk.Intake
import PersonaChat.Proofs.Desk.Frame

/-!
# Commands side by side

A floor is a world with all the commands that have come in so far. A move takes in a request, lets
one command carry out its next section, answers a question that a command has put, sets the clock,
or closes the service to further conversations. Sections of different commands follow each other in
any order, so a list of moves is an interleaving.
-/

namespace PersonaChat

/-- The task of a request, given what the user says and the media that come with it. -/
def Request.task (user prompt : String) (images : List Json) : Request → Task
  | .configure api => .ofApi api user
  | .create request => .ofCreate request user
  | .command c => .ofCommand c user prompt images

namespace Task

/-- An answer is heard only by a task that waits for one. -/
theorem answer_of_not_waiting {t : Task} (h : t.query? = none) (a : Answer) : t.answer a = t := by
  obtain ⟨agent, action, user, textMode, stage⟩ := t
  cases stage with
  | talk g =>
    obtain ⟨talk, phase⟩ := g
    cases phase with
    | waiting ticket => cases h
    | _ => cases a <;> rfl
  | configuring f | listing f | fetch f =>
    cases f with
    | waiting api => cases h
    | _ => cases a <;> rfl
  | describe d =>
    cases d with
    | waiting run persona request => cases h
    | _ => cases a <;> rfl
  | _ => cases a <;> rfl

end Task

/-- A world and the commands in it, by the order in which they came in. -/
structure Floor where
  /-- The world. -/
  world : World
  /-- The commands, those that have ended included. -/
  tasks : List Task

/-- What happens next on a floor. -/
inductive Move where
  /-- A request comes in. -/
  | receive (user prompt : String) (images : List Json) (request : Request)
  /-- A command carries out its next section. -/
  | proceed (i : Nat)
  /-- The question of a command is answered. -/
  | answer (i : Nat) (answer : Answer)
  /-- The clock is set. -/
  | clock (now : Int)
  /-- The service saves the registry and takes no further conversations. -/
  | close

namespace Floor

/-- A floor without commands. -/
def opened (w : World) : Floor := ⟨w, []⟩

/-- Let a command carry out its next section. -/
def proceed (env : Surroundings) (s : Floor) (i : Nat) : Floor :=
  match s.tasks[i]? with
  | none => s
  | some t =>
    let (w, t) := t.step env s.world
    ⟨w, s.tasks.set i t⟩

/-- Carry out a move. -/
def take (env : Surroundings) (s : Floor) : Move → Floor
  | .receive user prompt images request =>
    { s with tasks := s.tasks ++ [request.task user prompt images] }
  | .proceed i => s.proceed env i
  | .answer i answer => { s with tasks := s.tasks.modify i (·.answer answer) }
  | .clock now => { s with world := { s.world with now := now } }
  | .close => { s with world := { s.world.save env with accepting := false } }

/-- Carry out moves one after the other. -/
def run (env : Surroundings) (s : Floor) (moves : List Move) : Floor := moves.foldl (take env) s

/-- A move never is of the given kind at the floor where it is made. -/
def Never (env : Surroundings) (kind : Floor → Move → Prop) : Floor → List Move → Prop
  | _, [] => True
  | s, move :: moves => ¬ kind s move ∧ Never env kind (s.take env move) moves

/-- The next move lets a command of a kind carry out its next section. -/
def Proceeds (kind : Task → Prop) (s : Floor) : Move → Prop
  | .proceed i => ∃ t ∈ s.tasks[i]?, kind t
  | _ => False

instance (kind : Task → Prop) [DecidablePred kind] (s : Floor) :
    DecidablePred (Proceeds kind s)
  | .proceed i => inferInstanceAs (Decidable (∃ t ∈ s.tasks[i]?, kind t))
  | .receive .. | .answer .. | .clock .. | .close => inferInstanceAs (Decidable False)

instance decidableNever (env : Surroundings) (kind : Floor → Move → Prop)
    [∀ s, DecidablePred (kind s)] : ∀ s moves, Decidable (Never env kind s moves)
  | _, [] => inferInstanceAs (Decidable True)
  | s, move :: moves =>
    have := decidableNever env kind (s.take env move) moves
    inferInstanceAs (Decidable (¬ kind s move ∧ Never env kind (s.take env move) moves))

/-- A command is at a stage. -/
def At (s : Floor) (i : Nat) (stage : Stage) : Prop := ∃ t, s.tasks[i]? = some t ∧ t.stage = stage

/-- A command is at one stage only. -/
theorem At.unique {s : Floor} {i : Nat} {stage stage' : Stage} (h : s.At i stage)
    (h' : s.At i stage') : stage = stage' := by
  obtain ⟨t, ht, rfl⟩ := h
  obtain ⟨t', ht', rfl⟩ := h'
  rw [ht] at ht'
  cases ht'
  rfl

/-- A command that has an ending is at its end. -/
theorem At.of_ending? {s : Floor} {i : Nat} {ending : Ending}
    (h : s.tasks[i]?.bind Task.ending? = some ending) : s.At i (.ended ending) := by
  obtain ⟨t, ht, he⟩ := Option.bind_eq_some_iff.mp h
  refine ⟨t, ht, ?_⟩
  obtain ⟨agent, action, user, textMode, stage⟩ := t
  cases stage with
  | ended own =>
    cases he
    rfl
  | _ => cases he

variable (env : Surroundings) {s : Floor} {i : Nat} {t : Task}

/-- A command that proceeds carries out its step in the world. -/
theorem proceed_of_getElem? (h : s.tasks[i]? = some t) :
    s.proceed env i = ⟨(t.step env s.world).1, s.tasks.set i (t.step env s.world).2⟩ := by
  simp [proceed, h]

/-- Where there is no command nothing proceeds. -/
theorem proceed_of_getElem?_eq_none (h : s.tasks[i]? = none) : s.proceed env i = s := by
  simp [proceed, h]

/-- A command that has proceeded stands in its place. -/
theorem getElem?_proceed_self (h : s.tasks[i]? = some t) :
    (s.proceed env i).tasks[i]? = some (t.step env s.world).2 := by
  have hi := (List.getElem?_eq_some_iff.mp h).1
  simp [proceed_of_getElem? env h, hi]

/-- The other commands stay as they are while one proceeds. -/
theorem getElem?_proceed_of_ne {j : Nat} (h : i ≠ j) :
    (s.proceed env i).tasks[j]? = s.tasks[j]? := by
  cases ht : s.tasks[i]? with
  | none => rw [proceed_of_getElem?_eq_none env ht]
  | some t => simp [proceed_of_getElem? env ht, h]

/-- Moves after other moves are carried out where these have led. -/
theorem run_append (s : Floor) (moves moves' : List Move) :
    s.run env (moves ++ moves') = (s.run env moves).run env moves' := List.foldl_append

/-- A move leaves the registry alone, or it is the next section of a command. -/
theorem registry_take (s : Floor) (move : Move) :
    (s.take env move).world.registry = s.world.registry ∨ ∃ i t, move = .proceed i ∧
      s.tasks[i]? = some t ∧
      (s.take env move).world.registry = (t.step env s.world).1.registry := by
  cases move with
  | receive user prompt images request => exact .inl rfl
  | proceed i =>
    show (s.proceed env i).world.registry = _ ∨ _
    cases ht : s.tasks[i]? with
    | none => exact .inl (by rw [proceed_of_getElem?_eq_none env ht])
    | some t =>
      refine .inr ⟨i, t, rfl, ht, ?_⟩
      show (s.proceed env i).world.registry = _
      rw [proceed_of_getElem? env ht]
  | answer i a => exact .inl rfl
  | clock now => exact .inl rfl
  | close =>
    left
    dsimp only [take]
    exact World.registry_save env s.world

/-- After a move a command is as it was, it has carried out its next section, it has been given an
answer, or it has just come in. -/
theorem getElem?_take (s : Floor) (move : Move) (i : Nat) :
    (s.take env move).tasks[i]? = s.tasks[i]? ∨
    (∃ t, move = .proceed i ∧ s.tasks[i]? = some t ∧
      (s.take env move).tasks[i]? = some (t.step env s.world).2) ∨
    (∃ t a, move = .answer i a ∧ s.tasks[i]? = some t ∧
      (s.take env move).tasks[i]? = some (t.answer a)) ∨
    ∃ user prompt images request, move = .receive user prompt images request ∧
      s.tasks[i]? = none ∧
      (s.take env move).tasks[i]? = some (request.task user prompt images) := by
  cases move with
  | receive user prompt images request =>
    change (s.tasks ++ [request.task user prompt images])[i]? = _ ∨ _
    rcases Nat.lt_trichotomy i s.tasks.length with hi | rfl | hi
    · exact .inl (List.getElem?_append_left hi)
    · refine .inr (.inr (.inr ⟨user, prompt, images, request, rfl, by simp, ?_⟩))
      simp [take]
    · left
      rw [List.getElem?_eq_none (by simp; omega), List.getElem?_eq_none (by omega)]
  | proceed j =>
    change (s.proceed env j).tasks[i]? = _ ∨ _
    by_cases hj : j = i
    · subst hj
      cases ht : s.tasks[j]? with
      | none => exact .inl (by rw [proceed_of_getElem?_eq_none env ht, ht])
      | some t => exact .inr (.inl ⟨t, rfl, rfl, getElem?_proceed_self env ht⟩)
    · exact .inl (getElem?_proceed_of_ne env hj)
  | answer j a =>
    change (s.tasks.modify j (·.answer a))[i]? = _ ∨ _
    rw [List.getElem?_modify]
    by_cases hj : j = i
    · subst hj
      cases ht : s.tasks[j]? with
      | none => exact .inl rfl
      | some t =>
        refine .inr (.inr (.inl ⟨t, a, rfl, rfl, ?_⟩))
        simp [take, ht]
    · left
      cases s.tasks[i]? <;> simp [hj]
  | clock now => exact .inl rfl
  | close => exact .inl rfl

/-- What holds of every command, is kept by its sections and by answers, and holds of a command
that comes in, holds of every command after a move. -/
theorem forall_tasks_take {P : Task → Prop} {move : Move} (h : ∀ t ∈ s.tasks, P t)
    (hstep : ∀ t ∈ s.tasks, P (t.step env s.world).2)
    (hanswer : ∀ i t a, move = .answer i a → s.tasks[i]? = some t → P (t.answer a))
    (hreceive : ∀ user prompt images request, move = .receive user prompt images request →
      P (request.task user prompt images)) : ∀ t ∈ (s.take env move).tasks, P t := by
  intro t ht
  obtain ⟨i, hi⟩ := List.mem_iff_getElem?.mp ht
  rcases s.getElem?_take env move i with hsame | ⟨own, -, hown, hnext⟩ |
    ⟨own, a, hmove, hown, hnext⟩ |
      ⟨user, prompt, images, request, hmove, -, hnext⟩
  · rw [hsame] at hi
    exact h t (List.mem_of_getElem? hi)
  · rw [hnext] at hi
    cases hi
    exact hstep own (List.mem_of_getElem? hown)
  · rw [hnext] at hi
    cases hi
    exact hanswer i own a hmove hown
  · rw [hnext] at hi
    cases hi
    exact hreceive user prompt images request hmove

/-- What every move preserves holds after any moves. -/
theorem run_of_take {P : Floor → Prop} (hstep : ∀ s move, P s → P (take env s move))
    (h : P s) (moves : List Move) : P (run env s moves) := by
  induction moves generalizing s with
  | nil => exact h
  | cons move moves ih => exact ih (hstep s move h)

/-- What every move of a kind preserves holds after any moves of that kind. -/
theorem run_of_forall {P : Floor → Prop} {kind : Move → Prop}
    (hstep : ∀ s move, kind move → P s → P (take env s move)) (h : P s) {moves : List Move}
    (hm : ∀ move ∈ moves, kind move) : P (run env s moves) := by
  induction moves generalizing s with
  | nil => exact h
  | cons move moves ih =>
    exact ih (hstep s move (hm move List.mem_cons_self) h) fun m h ↦
      hm m (List.mem_cons_of_mem _ h)

/-- What every move preserves that is not of a kind holds after any moves that are not. -/
theorem run_of_never {P : Floor → Prop} {kind : Floor → Move → Prop}
    (hstep : ∀ s move, ¬ kind s move → P s → P (take env s move)) (h : P s) {moves : List Move}
    (hn : Never env kind s moves) : P (run env s moves) := by
  induction moves generalizing s with
  | nil => exact h
  | cons move moves ih => exact ih (hstep s move hn.1 h) hn.2

/-- A command that waits for no answer stays where it is until its next section. -/
theorem At.run_of_ne {stage : Stage} (h : s.At i stage)
    (hquery : ∀ t : Task, t.stage = stage → t.query? = none) {moves : List Move}
    (hm : ∀ move ∈ moves, move ≠ .proceed i) : (run env s moves).At i stage := by
  refine run_of_forall env (P := fun s ↦ s.At i stage) (fun s move hne h ↦ ?_) h hm
  obtain ⟨t, ht, hs⟩ := h
  rcases s.getElem?_take env move i with hsame | ⟨_, hself, -⟩ | ⟨t', a, -, ht', hnext⟩ |
      ⟨_, _, _, _, -, hnone, -⟩
  · exact ⟨t, hsame.trans ht, hs⟩
  · exact absurd hself hne
  · rw [ht] at ht'
    cases ht'
    exact ⟨t, by rw [hnext, Task.answer_of_not_waiting (hquery t hs)], hs⟩
  · rw [ht] at hnone
    cases hnone

end Floor

/-! ### A small service -/

/-- Surroundings in which nothing is drawn, questions reach the provider as they are, and no upload
fails. -/
def Surroundings.plain : Surroundings :=
  ⟨⟨[], ["config.json"]⟩, [], "", .direct, .whole 300, [], none, fun _ ↦ .ok none, none⟩

/-- A world with one fresh persona, `Bot`, and a provider. -/
def World.withBot : World :=
  ⟨⟨.str "base", .str "key", [],
    [.fresh (.str "Bot") (.str "model") (.str "prompt") (.str "bot") 0],
    .str "model", .str ""⟩, .empty, true, [], 0, [], 0, [], []⟩

/-- The message in which a user asks something of `Bot`. -/
def Move.askBot (user : String) (action : Action) (personal : Bool) (text : String) : Move :=
  .receive user text [] (.command ⟨"Bot", action, text, [], personal, true⟩)

end PersonaChat
