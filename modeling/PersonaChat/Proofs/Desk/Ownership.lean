import Mathlib.Logic.Function.Basic
import PersonaChat.Proofs.Desk.Freeing
import PersonaChat.Proofs.Desk.Sections
import PersonaChat.Proofs.Occupancy

/-!
# Who keeps a conversation busy

A generation holds its conversation from the section that makes it busy to the one that frees it,
also when a stop or a clearing has freed the conversation under its hands. The tokens of the
occupancy are those of such generations, each of one; so no conversation stays busy without a
generation, and none is freed by a generation that does not hold it any more.

Spec guidance: `SPEC_FULL.md`, lines 123–128.
-/

namespace PersonaChat

/-! ### Tokens and their holders -/

/-- A release frees a conversation. -/
def Release.Frees (c : Conversation) : Release → Prop
  | .conversation d => d.key = c.key
  | .allShared => c.scope = .shared
  | .all => True

instance (c : Conversation) : ∀ r : Release, Decidable (r.Frees c)
  | .conversation d => inferInstanceAs (Decidable (d.key = c.key))
  | .allShared => inferInstanceAs (Decidable (c.scope = .shared))
  | .all => inferInstanceAs (Decidable True)

namespace Occupancy

/-- A release takes from their holders the conversations that it frees. -/
theorem holder?_release (o : Occupancy) (r : Release) (c : Conversation) :
    (o.release r).holder? c = if r.Frees c then none else o.holder? c := by
  cases r with
  | conversation d =>
    by_cases hk : d.key = c.key
    · simp [release, holder?_finish, Release.Frees, hk]
    · simp [release, holder?_finish, Release.Frees, hk]
  | allShared =>
    by_cases hs : c.scope = .shared
    · simp [release, holder?_clearShared, Release.Frees, hs]
    · simp [release, holder?_clearShared, Release.Frees, hs]
  | all => simp [release, Release.Frees]

/-- A release gives out no token. -/
@[simp] theorem next_release (o : Occupancy) (r : Release) : (o.release r).next = o.next := by
  cases r with
  | conversation d => exact o.next_finish d none
  | allShared => rfl
  | all => rfl

private theorem WF.release {o : Occupancy} (h : o.WF) (r : Release) : (o.release r).WF := by
  cases r with
  | conversation d => exact h.finish d none
  | allShared => exact h.clearShared
  | all => exact wf_clearAll

/-- The tokens of an occupancy belong to holders, each of which is known by a number. -/
structure OwnedBy (o : Occupancy) (held : Nat → Option (Conversation × Nat)) : Prop where
  /-- Whoever holds a conversation is one of the holders. -/
  owner : ∀ c token, o.holder? c = some token → ∃ i d, held i = some (d, token) ∧ d.key = c.key
  /-- The tokens of all holders have been given out. -/
  below : ∀ i d token, held i = some (d, token) → token < o.next
  /-- A token has one holder. -/
  unique : ∀ i j c d token, held i = some (c, token) → held j = some (d, token) → i = j
  /-- No persona without busy users is kept. -/
  wf : o.WF

namespace OwnedBy

variable {o : Occupancy} {held : Nat → Option (Conversation × Nat)} {c : Conversation} {i : Nat}

/-- Whoever makes a free conversation busy becomes a holder. -/
theorem start (h : o.OwnedBy held) (hi : held i = none) (hc : o.holder? c = none) :
    (o.start c).1.OwnedBy (Function.update held i (some (c, o.next))) := by
  have hnext : (o.start c).1.next = o.next + 1 := by rw [next_start, if_pos hc]
  refine ⟨fun d token hd ↦ ?_, fun j d token hj ↦ ?_, fun j k d d' token hj hk ↦ ?_, h.wf.start c⟩
  · rw [holder?_start] at hd
    split at hd
    · next hk =>
      cases hd
      exact ⟨i, c, by simp, hk.1⟩
    · obtain ⟨j, d', hj, hk⟩ := h.owner d token hd
      have hji : j ≠ i := by
        rintro rfl
        rw [hi] at hj
        cases hj
      exact ⟨j, d', by simpa [hji] using hj, hk⟩
  · rw [hnext]
    by_cases hji : j = i
    · subst hji
      simp only [Function.update_self, Option.some.injEq, Prod.mk.injEq] at hj
      omega
    · have := h.below j d token (by simpa [hji] using hj)
      omega
  · -- The new token is not among those that have been given out.
    by_cases hji : j = i <;> by_cases hki : k = i
    · rw [hji, hki]
    · subst hji
      simp only [Function.update_self, Option.some.injEq, Prod.mk.injEq] at hj
      have := h.below k d' token (by simpa [hki] using hk)
      omega
    · subst hki
      simp only [Function.update_self, Option.some.injEq, Prod.mk.injEq] at hk
      have := h.below j d token (by simpa [hji] using hj)
      omega
    · exact h.unique j k d d' token (by simpa [hji] using hj) (by simpa [hki] using hk)

/-- A holder that frees its conversation is one no longer, and what it held is free. -/
theorem finish {token : Nat} (h : o.OwnedBy held) (hi : held i = some (c, token)) :
    (o.finish c (some token)).OwnedBy (Function.update held i none) := by
  have hold {j : Nat} {d : Conversation × Nat} (hj : Function.update held i none j = some d) :
      held j = some d := by
    by_cases hji : j = i
    · simp [hji] at hj
    · simpa [hji] using hj
  refine ⟨fun d t hd ↦ ?_, fun j d t hj ↦ ?_, fun j k d d' t hj hk ↦ ?_, h.wf.finish c _⟩
  · rw [holder?_finish] at hd
    split at hd
    · cases hd
    · next hfree =>
      obtain ⟨j, d', hj, hk⟩ := h.owner d t hd
      have hji : j ≠ i := by
        rintro rfl
        rw [hi] at hj
        cases hj
        exact hfree ⟨hk, by simpa using hd⟩
      exact ⟨j, d', by simpa [hji] using hj, hk⟩
  · rw [next_finish]
    exact h.below j d t (hold hj)
  · exact h.unique j k d d' t (hold hj) (hold hk)

/-- Stopping and clearing free conversations but make nobody a holder. -/
theorem release (h : o.OwnedBy held) (r : Release) : (o.release r).OwnedBy held := by
  refine ⟨fun d token hd ↦ h.owner d token ?_, fun j d token hj ↦ ?_, h.unique, h.wf.release r⟩
  · rw [holder?_release] at hd
    split at hd
    · cases hd
    · exact hd
  · rw [next_release]
    exact h.below j d token hj

end OwnedBy
end Occupancy

/-! ### What a section does to them -/

/-- The token with which a generation keeps its conversation busy: it has one from the section that
makes the conversation busy to the one that frees it. -/
def Phase.token? : Phase → Option Nat
  | .occupied _ token | .rejected token _ => some token
  | .started ticket | .waiting ticket | .answered ticket _ => some ticket.token
  | _ => none

namespace Task

/-- The conversation that a task holds, with its token. -/
def hold? (t : Task) : Option (Conversation × Nat) :=
  match t.stage with
  | .talk g => g.phase.token?.map (g.talk.conversation, ·)
  | _ => none

/-- The next section of a task is the one in which a stop or a clearing frees a conversation. -/
def Frees (c : Conversation) (t : Task) : Prop :=
  match t.stage with
  | .release release _ => release.Frees c ∧ t.action ∈ freeingWords
  | _ => False

instance (c : Conversation) : DecidablePred (Frees c)
  | ⟨_, action, _, _, .release release _⟩ =>
    inferInstanceAs (Decidable (release.Frees c ∧ action ∈ freeingWords))
  | ⟨_, _, _, _, .edit _⟩ | ⟨_, _, _, _, .inspect _⟩ | ⟨_, _, _, _, .talk _⟩
  | ⟨_, _, _, _, .configure _⟩ | ⟨_, _, _, _, .configuring _⟩ | ⟨_, _, _, _, .list⟩
  | ⟨_, _, _, _, .listing _⟩ | ⟨_, _, _, _, .fetch _⟩ | ⟨_, _, _, _, .describe _⟩
  | ⟨_, _, _, _, .ended _⟩ => inferInstanceAs (Decidable False)

/-- What the next section of a task makes of the busy conversations, and what it holds then. -/
inductive Turns (t : Task) (o : Occupancy) : Occupancy → Option (Conversation × Nat) → Prop where
  /-- Nothing changes. -/
  | kept {held : Option (Conversation × Nat)} (eq : held = t.hold?) : Turns t o o held
  /-- It makes a free conversation busy. -/
  | taken {c : Conversation} (idle : t.hold? = none) (free : o.holder? c = none) :
      Turns t o (o.start c).1 (some (c, o.next))
  /-- It frees what it holds, unless that is held by another token by now. -/
  | given {c : Conversation} {token : Nat} (held : t.hold? = some (c, token)) :
      Turns t o (o.finish c (some token)) none
  /-- A stop or a clearing frees conversations. -/
  | released {release : Release} {reply : String} (stage : t.stage = .release release reply) :
      Turns t o (o.release release) none

end Task

namespace Generation

variable (env : Surroundings) (w : World)

private theorem token?_ask (t : Talk) (ticket : Ticket) :
    (ask env w t ticket).2.token? = some ticket.token := by
  rcases phase_ask env w t ticket with h | ⟨result, h⟩ <;> rw [h] <;> rfl

private theorem token?_complete (t : Talk) (ticket : Ticket) (content : Option String) :
    (complete env w t ticket content).2.token? = none := by
  unfold complete
  split <;> rfl

/-- What a section of a generation does to the busy conversations; the search for the persona must
not fail, for a start that ends so frees nothing. -/
theorem turns_step {t : Task} {g : Generation} (hs : t.stage = .talk g) (hr : w.registry.Named) :
    t.Turns w.busy (g.step env w).1.busy
      ((g.step env w).2.phase.token?.map (g.talk.conversation, ·)) := by
  have held {phase : Phase} (hp : g.phase = phase) :
      phase.token?.map (g.talk.conversation, ·) = t.hold? := by simp [Task.hold?, hs, hp]
  unfold step
  dsimp only
  split
  · next hp =>
    have hn : (enter w g.talk).token? = none := by
      unfold enter
      split
      · rfl
      · rfl
      · split <;> rfl
    rw [hn]
    exact .kept (held hp)
  · next api hp =>
    have hi : t.hold? = none := by simp [Task.hold?, hs, hp, Phase.token?]
    unfold occupy
    cases hc : w.busy.holder? g.talk.conversation with
    | some holder =>
      rw [Occupancy.start_of_busy hc]
      exact .kept hi.symm
    | none =>
      have ht := Task.Turns.taken hi hc
      rw [Occupancy.start_of_free hc] at ht ⊢
      exact ht
  · next api token hp =>
    have hk := held hp
    rcases begin_cases env w g.talk api token with ⟨crash, hf, -⟩ | ⟨_, h⟩ |
      ⟨k, p, history, -, -, h⟩
    · exact absurd hf (hr.find?_ne_error _ crash)
    · rw [h]
      exact .kept hk
    · rw [h]
      dsimp only
      rw [World.busy_commit]
      exact .kept hk
  · next token refusal hp => exact .given (held hp).symm
  · next ticket hp =>
    rw [busy_ask, token?_ask]
    exact .kept (held hp)
  · next ticket hp => exact .kept (held hp)
  · next ticket result hp =>
    have hg := (held hp).symm
    have ht := Task.Turns.given (o := w.busy) hg
    rw [← busy_noteTimeout env w g.talk result] at ht
    rw [← busy_noteTimeout env w g.talk result]
    exact ht
  · next hp =>
    have hk := held hp
    exact .kept hk
  · next ticket content hp =>
    rw [busy_complete, token?_complete]
    exact .kept (held hp)
  · next hp =>
    have hk := held hp
    rw [busy_reply]
    exact .kept hk
  · next hp => exact .kept (held hp)

end Generation

namespace Task

variable (env : Surroundings) (w : World) (t : Task)

private theorem hold?_of_generation? {stage : Stage} (h : stage.generation? = none) :
    hold? { t with stage := stage } = none := by
  cases stage <;> first | rfl | cases h

/-- What the next section of a task does to the busy conversations. -/
theorem turns_step (hr : w.registry.Named) :
    t.Turns w.busy (t.step env w).1.busy (t.step env w).2.hold? := by
  show t.Turns w.busy (stepStage env w t).1.busy (hold? { t with stage := (stepStage env w t).2 })
  cases hs : t.stage with
  | talk g =>
    rcases stepStage_of_talk env w t hs with ⟨result, hp, hn, hb⟩ | hstep
    · rw [t.hold?_of_generation? hn, hb]
      exact .kept (by simp [hold?, hs, hp, Phase.token?])
    · rw [hstep]
      exact g.turns_step env w hs hr
  | release release reply =>
    rw [stepStage, hs]
    exact .released hs
  | _ =>
    obtain ⟨hn, hb⟩ := stepStage_of_idle env w t (by simp [hs]) (by simp [hs])
    rw [t.hold?_of_generation? hn, hb]
    exact .kept (by simp [hold?, hs])

/-- A task that just came in holds nothing. -/
theorem hold?_task (user prompt : String) (images : List Json) (request : Request) :
    (request.task user prompt images).hold? = none := by
  cases request with
  | configure api => rfl
  | create request => rfl
  | command c =>
    show hold? (.ofCommand c user prompt images) = none
    unfold ofCommand firstStage hold?
    dsimp only
    cases c.action <;> rfl

/-- An answer changes nothing about what a task holds. -/
theorem hold?_answer (a : Answer) : (t.answer a).hold? = t.hold? := by
  unfold answer hold?
  dsimp only
  cases hs : t.stage with
  | talk g =>
    cases a with
    | chat result =>
      cases hp : g.phase <;> simp [Generation.answer, hp, Phase.token?]
    | models result => rfl
  | _ => cases a <;> rfl

end Task

/-! ### Interleavings -/

namespace Floor

/-- The conversation that a command holds, with its token. -/
def held? (s : Floor) (i : Nat) : Option (Conversation × Nat) := s.tasks[i]?.bind Task.hold?

/-- A command holds a conversation with a token. -/
def Holds (s : Floor) (i : Nat) (c : Conversation) (token : Nat) : Prop :=
  ∃ d, s.held? i = some (d, token) ∧ d.key = c.key

/-- The tokens of the busy conversations are those of the commands that hold them, the names of the
personas are texts, and only stops and clearings are about to free something else. -/
structure Owned (s : Floor) : Prop where
  busy : s.world.busy.OwnedBy s.held?
  named : s.world.registry.Named
  entitled : ∀ t ∈ s.tasks, t.Entitled

variable (env : Surroundings) {s : Floor} {i : Nat} {t : Task}

private theorem held?_of_getElem? (h : s.tasks[i]? = some t) : s.held? i = t.hold? := by
  simp [held?, h]

/-- A command that proceeds changes only what it holds itself. -/
theorem held?_proceed (h : s.tasks[i]? = some t) :
    (s.proceed env i).held? = Function.update s.held? i (t.step env s.world).2.hold? := by
  funext j
  by_cases hj : j = i
  · subst hj
    rw [held?_of_getElem? (getElem?_proceed_self env h), Function.update_self]
  · rw [held?, getElem?_proceed_of_ne env (Ne.symm hj), Function.update_of_ne hj, held?]

/-- A command that comes in holds nothing, and an answer changes nothing about what is held. -/
theorem held?_take {move : Move} (h : ∀ i, move ≠ .proceed i) :
    (s.take env move).held? = s.held? := by
  funext j
  cases move with
  | receive user prompt images request =>
    simp only [take, held?]
    by_cases hj : j < s.tasks.length
    · rw [List.getElem?_append_left hj]
    · have hnone : s.tasks[j]? = none := List.getElem?_eq_none (by omega)
      rw [List.getElem?_append_right (by omega), hnone]
      cases hk : j - s.tasks.length with
      | zero => exact Task.hold?_task user prompt images request
      | succ k => rfl
  | proceed i => exact absurd rfl (h i)
  | answer i a =>
    simp only [take, held?, List.getElem?_modify]
    cases ht : s.tasks[j]? with
    | none => rfl
    | some t =>
      by_cases hj : i = j
      · simp [hj, t.hold?_answer a]
      · simp [hj]
  | clock now => rfl
  | close => simp only [take, held?]

/-- What a command that proceeds makes of the busy conversations, and what it holds then. -/
private theorem Owned.turns_proceed (h : s.Owned) (ht : s.tasks[i]? = some t) :
    t.Turns s.world.busy (s.proceed env i).world.busy ((s.proceed env i).held? i) := by
  rw [held?_proceed env ht, Function.update_self, proceed_of_getElem? env ht]
  exact t.turns_step env s.world h.named

private theorem held?_proceed_eq_update (ht : s.tasks[i]? = some t) :
    (s.proceed env i).held? = Function.update s.held? i ((s.proceed env i).held? i) := by
  rw [held?_proceed env ht, Function.update_self]

private theorem Owned.named_take (h : s.Owned) (move : Move) :
    (s.take env move).world.registry.Named := by
  rcases registry_take env s move with hr | ⟨i, t, -, -, hr⟩
  · rw [hr]
    exact h.named
  · rw [hr]
    exact (t.rewrites_step env s.world).named h.named

private theorem Owned.entitled_take (h : s.Owned) (move : Move) :
    ∀ t ∈ (s.take env move).tasks, t.Entitled :=
  forall_tasks_take env h.entitled (fun t ht ↦ (h.entitled t ht).step env s.world)
    (fun _ t a _ ht ↦ (h.entitled t (List.mem_of_getElem? ht)).answer a)
    fun user prompt images request _ ↦ Task.entitled_task user prompt images request

/-- Good order is kept when a command proceeds. -/
theorem Owned.proceed (h : s.Owned) (i : Nat) : (s.proceed env i).Owned := by
  refine ⟨?_, h.named_take env (.proceed i), h.entitled_take env (.proceed i)⟩
  cases ht : s.tasks[i]? with
  | none =>
    rw [proceed_of_getElem?_eq_none env ht]
    exact h.busy
  | some t =>
    have hi := held?_of_getElem? ht
    have hturn := h.turns_proceed env ht
    rw [held?_proceed_eq_update env ht]
    generalize (s.proceed env i).world.busy = busy, (s.proceed env i).held? i = held at hturn ⊢
    cases hturn with
    | kept eq =>
      rw [eq, ← hi, Function.update_eq_self]
      exact h.busy
    | taken idle free => exact h.busy.start (hi.trans idle) free
    | given held => exact h.busy.finish (hi.trans held)
    | released stage =>
      have hnone : s.held? i = none := by rw [hi, Task.hold?, stage]
      rw [← hnone, Function.update_eq_self]
      exact h.busy.release _

/-- Good order is kept by every move. -/
theorem Owned.take (h : s.Owned) (move : Move) : (s.take env move).Owned := by
  by_cases hmove : ∃ i, move = .proceed i
  · obtain ⟨i, rfl⟩ := hmove
    exact h.proceed env i
  · refine ⟨?_, h.named_take env move, h.entitled_take env move⟩
    rw [held?_take env fun i hi ↦ hmove ⟨i, hi⟩]
    cases move with
    | close =>
      dsimp only [Floor.take]
      rw [World.busy_save]
      exact h.busy
    | proceed i => exact absurd ⟨i, rfl⟩ hmove
    | receive _ _ _ _ | answer _ _ | clock _ => exact h.busy

/-- Good order is kept by any moves. -/
theorem Owned.run (h : s.Owned) (moves : List Move) : (s.run env moves).Owned :=
  run_of_take env (fun _ move hs ↦ hs.take env move) h moves

/-- A floor is in good order when nothing is busy and there is no command. -/
theorem owned_opened {w : World} (hw : w.registry.Named) (hb : w.busy = .empty) :
    (opened w).Owned := by
  have hheld (i : Nat) : (opened w).held? i = none := rfl
  refine ⟨⟨fun c token hc ↦ ?_, fun i d token hi ↦ ?_, fun i j c d token hi ↦ ?_, ?_⟩, hw,
    by simp [opened]⟩
  · simp [opened, hb] at hc
  · simp [hheld] at hi
  · simp [hheld] at hi
  · rw [opened, hb]
    exact Occupancy.wf_empty

/-- A busy conversation is held by one command. -/
theorem Owned.existsUnique_holds (h : s.Owned) {c : Conversation} {token : Nat}
    (hc : s.world.busy.holder? c = some token) : ∃! i, s.Holds i c token := by
  obtain ⟨i, d, hi, hk⟩ := h.busy.owner c token hc
  refine ⟨i, ⟨d, hi, hk⟩, fun j hj ↦ ?_⟩
  obtain ⟨d', hj, -⟩ := hj
  exact h.busy.unique j i d' d token hj hi

/-- Where no command holds anything nothing is busy. -/
theorem Owned.eq_nil_of_held?_eq_none (h : s.Owned) (hn : ∀ i, s.held? i = none) :
    s.world.busy.shared = [] ∧ s.world.busy.personal = [] := by
  apply h.busy.wf.eq_nil_of_holder?_eq_none
  intro c
  cases hc : s.world.busy.holder? c with
  | none => rfl
  | some token =>
    obtain ⟨i, d, hi, -⟩ := h.busy.owner c token hc
    rw [hn i] at hi
    cases hi

/-- A generation that proceeds frees no conversation that another token holds. -/
theorem Owned.holder?_proceed (h : s.Owned) {g : Generation} {c : Conversation} {holder : Nat}
    (ht : s.tasks[i]? = some t) (hg : t.stage = .talk g)
    (hc : s.world.busy.holder? c = some holder) (hother : ∀ d, s.held? i ≠ some (d, holder)) :
    (s.proceed env i).world.busy.holder? c = some holder := by
  have hi := held?_of_getElem? ht
  have hturn := h.turns_proceed env ht
  generalize (s.proceed env i).world.busy = busy, (s.proceed env i).held? i = held at hturn ⊢
  cases hturn with
  | kept => exact hc
  | taken idle free =>
    rw [Occupancy.holder?_start, if_neg, hc]
    rintro ⟨hk, -⟩
    rw [Occupancy.holder?_congr _ hk, hc] at free
    cases free
  | @given d token held =>
    rw [Occupancy.holder?_finish, if_neg, hc]
    rintro ⟨-, hall⟩
    have ht := hall token rfl
    rw [hc] at ht
    cases ht
    exact hother d (hi.trans held)
  | released stage =>
    rw [hg] at stage
    cases stage

/-- The command of a number, as long as it holds a token, has what it holds to itself. -/
private structure Keeps (s : Floor) (i : Nat) (c : Conversation) (token : Nat) : Prop where
  owned : s.Owned
  below : token < s.world.busy.next
  holder : s.Holds i c token → s.world.busy.holder? c = some token

/-- Tokens that were given out stay below the next one. -/
private theorem Keeps.below_proceed {c : Conversation} {token : Nat} (h : s.Keeps i c token)
    {j : Nat} (ht : s.tasks[j]? = some t) : token < (s.proceed env j).world.busy.next := by
  have hb := h.below
  have hturn := h.owned.turns_proceed env ht
  generalize (s.proceed env j).world.busy = busy, (s.proceed env j).held? j = held at hturn ⊢
  cases hturn with
  | kept => exact hb
  | taken idle free =>
    rw [Occupancy.next_start, if_pos free]
    omega
  | given => rwa [Occupancy.next_finish]
  | released => rwa [Occupancy.next_release]

/-- Whatever else proceeds, the conversation carries the token for as long as the command holds
it. -/
private theorem Keeps.holder_proceed {c : Conversation} {token : Nat} (h : s.Keeps i c token)
    {j : Nat} (ht : s.tasks[j]? = some t) (hn : ¬ t.Frees c)
    (hi : (s.proceed env j).Holds i c token) :
    (s.proceed env j).world.busy.holder? c = some token := by
  obtain ⟨d, hd, hk⟩ := hi
  have hj := held?_of_getElem? ht
  have hturn := h.owned.turns_proceed env ht
  rw [held?_proceed_eq_update env ht] at hd
  generalize (s.proceed env j).world.busy = busy, (s.proceed env j).held? j = held at hturn hd ⊢
  cases hturn with
  | kept eq =>
    rw [eq, ← hj, Function.update_eq_self] at hd
    exact h.holder ⟨d, hd, hk⟩
  | taken idle free =>
    by_cases hij : i = j
    · -- The token is new, so it is not the one that was given out before.
      subst hij
      simp only [Function.update_self, Option.some.injEq, Prod.mk.injEq] at hd
      have := h.below
      omega
    · rw [Function.update_of_ne hij] at hd
      have hc := h.holder ⟨d, hd, hk⟩
      rw [Occupancy.holder?_start, if_neg, hc]
      rintro ⟨hk', -⟩
      rw [Occupancy.holder?_congr _ hk', hc] at free
      cases free
  | @given d' token' held =>
    by_cases hij : i = j
    · subst hij
      simp at hd
    · rw [Function.update_of_ne hij] at hd
      have hc := h.holder ⟨d, hd, hk⟩
      rw [Occupancy.holder?_finish, if_neg, hc]
      rintro ⟨-, hall⟩
      have htoken := hall token' rfl
      rw [hc] at htoken
      cases htoken
      exact hij (h.owned.busy.unique i j d d' token hd (hj.trans held))
  | @released release reply stage =>
    have hnone : s.held? j = none := by rw [hj, Task.hold?, stage]
    rw [← hnone, Function.update_eq_self] at hd
    have hentitled : t.action ∈ Task.freeingWords :=
      h.owned.entitled t (List.mem_of_getElem? ht) (by rw [stage]; rfl)
    have hfrees : ¬ release.Frees c := fun hf ↦
      hn (by rw [Task.Frees, stage]; exact ⟨hf, hentitled⟩)
    rw [Occupancy.holder?_release, if_neg hfrees]
    exact h.holder ⟨d, hd, hk⟩

private theorem Keeps.proceed {c : Conversation} {token : Nat} (h : s.Keeps i c token) (j : Nat)
    (hn : ¬ Proceeds (Task.Frees c) s (.proceed j)) : (s.proceed env j).Keeps i c token := by
  cases ht : s.tasks[j]? with
  | none => rwa [proceed_of_getElem?_eq_none env ht]
  | some t =>
    exact ⟨h.owned.proceed env j, h.below_proceed env ht,
      h.holder_proceed env ht fun hf ↦ hn ⟨t, ht, hf⟩⟩

private theorem Keeps.take {c : Conversation} {token : Nat} (h : s.Keeps i c token) {move : Move}
    (hn : ¬ Proceeds (Task.Frees c) s move) : (s.take env move).Keeps i c token := by
  have stays {s' : Floor} (ho : s'.Owned) (hb : s'.world.busy = s.world.busy)
      (hh : s'.held? = s.held?) : s'.Keeps i c token := by
    refine ⟨ho, ?_, fun ⟨d, hd, hk⟩ ↦ ?_⟩
    · rw [hb]
      exact h.below
    · rw [hb]
      exact h.holder ⟨d, by rw [← hh]; exact hd, hk⟩
  cases move with
  | receive user prompt images request =>
      exact stays (h.owned.take env _) rfl (held?_take env (by simp))
  | proceed j => exact h.proceed env j hn
  | answer j a => exact stays (h.owned.take env _) rfl (held?_take env (by simp))
  | clock now => exact stays (h.owned.take env _) rfl (held?_take env (by simp))
  | close =>
    refine stays (h.owned.take env _) ?_ (held?_take env (by simp))
    dsimp only [Floor.take]
    rw [World.busy_save]

/-- A command that has just made a conversation busy is the one that holds it. -/
private theorem Owned.keeps (h : s.Owned) {c : Conversation} {token : Nat}
    (hidle : s.held? i = none)
    (hstart : (s.proceed env i).Holds i c token) : (s.proceed env i).Keeps i c token := by
  have howned := h.proceed env i
  obtain ⟨d, hd, hk⟩ := hstart
  refine ⟨howned, howned.busy.below i d token hd, fun _ ↦ ?_⟩
  cases ht : s.tasks[i]? with
  | none =>
    rw [proceed_of_getElem?_eq_none env ht, hidle] at hd
    cases hd
  | some t =>
    have hi := held?_of_getElem? ht
    have hturn := h.turns_proceed env ht
    generalize (s.proceed env i).world.busy = busy, (s.proceed env i).held? i = held at hturn hd ⊢
    cases hturn with
    | kept eq =>
      rw [eq, ← hi, hidle] at hd
      cases hd
    | taken idle free =>
      cases hd
      rw [Occupancy.holder?_start, if_pos ⟨hk, free⟩]
    | given => cases hd
    | released => cases hd

/-- A command cannot make a conversation busy that another one has to itself. -/
private theorem Keeps.not_holds {c : Conversation} {token token' : Nat} (h : s.Keeps i c token)
    (hi : s.Holds i c token) {j : Nat} (hidle : s.held? j = none) :
    ¬ (s.proceed env j).Holds j c token' := by
  rintro ⟨d, hd, hk⟩
  have hc := h.holder hi
  cases ht : s.tasks[j]? with
  | none =>
    rw [proceed_of_getElem?_eq_none env ht, hidle] at hd
    cases hd
  | some t =>
    have hj := held?_of_getElem? ht
    have hturn := h.owned.turns_proceed env ht
    generalize (s.proceed env j).world.busy = busy, (s.proceed env j).held? j = held at hturn hd
    cases hturn with
    | kept eq =>
      rw [eq, ← hj, hidle] at hd
      cases hd
    | taken idle free =>
      cases hd
      rw [Occupancy.holder?_congr _ hk, hc] at free
      cases free
    | given => cases hd
    | released => cases hd

/-- After any interleaving of commands that starts with nothing busy: a busy conversation carries
the token of exactly one command, which is between making it busy and freeing it; a generation
frees nothing that another token holds; a command makes a conversation busy while another one is
under way for it only after a stop or a clearing has freed it in between; and nothing is busy once
no command holds anything. -/
theorem busy_iff_held (env : Surroundings) (w : World) (named : w.registry.Named)
    (idle : w.busy = .empty) (moves : List Move) :
    let s := run env (opened w) moves
    (∀ c token, s.world.busy.holder? c = some token → ∃! i, s.Holds i c token) ∧
    (∀ i t g c holder, s.tasks[i]? = some t → t.stage = .talk g →
      s.world.busy.holder? c = some holder → (∀ d, s.held? i ≠ some (d, holder)) →
      (s.proceed env i).world.busy.holder? c = some holder) ∧
    (∀ i c token between j token',
      s.held? i = none → (s.proceed env i).Holds i c token →
      (run env (s.proceed env i) between).Holds i c token →
      (run env (s.proceed env i) between).held? j = none →
      ((run env (s.proceed env i) between).proceed env j).Holds j c token' →
      ¬ Never env (Proceeds (Task.Frees c)) (s.proceed env i) between) ∧
    ((∀ i, s.held? i = none) → s.world.busy.shared = [] ∧ s.world.busy.personal = []) := by
  intro s
  have howned : s.Owned := (owned_opened named idle).run env moves
  refine ⟨fun c token hc ↦ howned.existsUnique_holds hc, ?_, ?_, howned.eq_nil_of_held?_eq_none⟩
  · intro i t g c holder ht hg hc hother
    exact howned.holder?_proceed env ht hg hc hother
  · intro i c token between j token' hidle hstart hstill hj hsecond hnever
    have hkeeps := run_of_never env (fun s _ hn (h : s.Keeps i c token) ↦ h.take env hn)
      (howned.keeps env hidle hstart) hnever
    exact hkeeps.not_holds env hstill hj hsecond

/-- A generation is stopped and another one starts while the first still waits: the conversation is
held by the second, and the answer to the first leaves it so. -/
theorem busy_iff_held_after_stop :
    let moves := [.askBot "u" .chat false "one", .proceed 0, .proceed 0, .proceed 0, .proceed 0,
      .askBot "u" .stop false "", .proceed 1, .proceed 1,
      .askBot "u" .chat false "two", .proceed 2, .proceed 2, .proceed 2, .proceed 2,
      .answer 0 (.chat (.ok (some "late")))]
    let s := run .plain (opened .withBot) moves
    s.world.busy.holder? ⟨"Bot", .shared, "u"⟩ = some 2 ∧
      (∃! i, s.Holds i ⟨"Bot", .shared, "u"⟩ 2) ∧
      (s.proceed .plain 0).world.busy.holder? ⟨"Bot", .shared, "u"⟩ = some 2 := by
  intro moves s
  have named : World.withBot.registry.Named := by
    intro p hp
    cases List.mem_singleton.mp hp
    exact ⟨_, rfl⟩
  have hbusy := busy_iff_held .plain .withBot named rfl moves
  have hc : s.world.busy.holder? ⟨"Bot", .shared, "u"⟩ = some 2 := by rfl
  have hfirst : s.held? 0 = some (⟨"Bot", .shared, "u"⟩, 1) := by rfl
  refine ⟨hc, hbusy.1 _ _ hc, hbusy.2.1 0 _ _ _ 2 rfl rfl hc fun d hd ↦ ?_⟩
  rw [hfirst] at hd
  cases hd

end Floor
end PersonaChat
