import PersonaChat.Proofs.Desk.Counting

/-!
# Histories along a run

Along any moves an entry evolves section by section: its version never decreases, and its histories
lose messages only to sections that take some back, edit one, delete some or empty a history. All
other sections, whoever's commands they belong to, leave the messages standing where they are.

Spec guidance: `SPEC_FULL.md`, lines 48–51.
-/

namespace PersonaChat

namespace History

variable {h h' h'' : History Json}

/-- All messages remain in their places; others may have come after them. -/
def Kept (h h' : History Json) : Prop :=
  ∃ front rest, h' = front ++ rest ∧ List.Forall₂ Message.Remains h front

private theorem kept_of_remains (hr : List.Forall₂ Message.Remains h h') : h.Kept h' :=
  ⟨h', [], (List.append_nil h').symm, hr⟩

private theorem Kept.refl (h : History Json) : h.Kept h :=
  kept_of_remains (List.forall₂_same.mpr fun m _ ↦ .refl m)

private theorem kept_append (h rest : History Json) : h.Kept (h ++ rest) :=
  ⟨h, rest, rfl, List.forall₂_same.mpr fun m _ ↦ .refl m⟩

private theorem Kept.trans (hk : h.Kept h') (hk' : h'.Kept h'') : h.Kept h'' := by
  obtain ⟨front, rest, rfl, hfront⟩ := hk
  obtain ⟨front', rest', rfl, hfront'⟩ := hk'
  -- What became of the front is the part of the later list that is as long.
  refine ⟨front'.take front.length, front'.drop front.length ++ rest', ?_, ?_⟩
  · rw [← List.append_assoc, List.take_append_drop]
  · have hsplit := List.forall₂_take front.length hfront'
    rw [List.take_left] at hsplit
    exact Message.Remains.trans_list hfront hsplit

end History

/-- A section at this stage may take something from a history of an entry, or reword a message
there. -/
def Stage.Trims (r : Registry Json) (k : Nat) (scope : Scope) (user : String) : Stage → Prop
  | .talk ⟨asked, .occupied _ _⟩ => asked.again = true ∧ r.place? asked.agent = some k ∧
    scope = asked.scope ∧ (asked.scope = .personal → user = asked.user)
  | .edit ⟨agent, editor, .editAt edited _ _⟩ | .edit ⟨agent, editor, .deleteAt edited _⟩
  | .edit ⟨agent, editor, .clear edited⟩ =>
    r.place? agent = some k ∧ scope = edited ∧ (edited = .personal → user = editor)
  | .edit ⟨_, _, .clearPublic⟩ => scope = .shared
  | .edit ⟨_, _, .clearEverything⟩ => True
  | _ => False

instance (r : Registry Json) (k : Nat) (scope : Scope) (user : String) :
    DecidablePred (Stage.Trims r k scope user)
  | .talk ⟨asked, .occupied _ _⟩ =>
    inferInstanceAs (Decidable (asked.again = true ∧ r.place? asked.agent = some k ∧
      scope = asked.scope ∧ (asked.scope = .personal → user = asked.user)))
  | .edit ⟨agent, editor, .editAt edited _ _⟩ | .edit ⟨agent, editor, .deleteAt edited _⟩
  | .edit ⟨agent, editor, .clear edited⟩ =>
    inferInstanceAs (Decidable (r.place? agent = some k ∧ scope = edited ∧
      (edited = .personal → user = editor)))
  | .edit ⟨_, _, .clearPublic⟩ => inferInstanceAs (Decidable (scope = .shared))
  | .edit ⟨_, _, .clearEverything⟩ => .isTrue trivial
  | .talk ⟨_, .asked⟩ | .talk ⟨_, .admitted _⟩ | .talk ⟨_, .rejected ..⟩ | .talk ⟨_, .started _⟩
  | .talk ⟨_, .waiting _⟩ | .talk ⟨_, .answered ..⟩ | .talk ⟨_, .freed ..⟩ | .talk ⟨_, .stored ..⟩
  | .talk ⟨_, .finished _⟩ | .edit ⟨_, _, .create _⟩ | .edit ⟨_, _, .stop _⟩
  | .edit ⟨_, _, .copy _⟩ | .edit ⟨_, _, .rename _⟩ | .edit ⟨_, _, .describe _⟩
  | .edit ⟨_, _, .setModel _⟩ | .edit ⟨_, _, .setPrompt _⟩ | .edit ⟨_, _, .delete⟩ | .release ..
  | .inspect _ | .configure _ | .configuring _ | .list | .listing _ | .fetch _ | .describe _
  | .ended _ => .isFalse id

namespace Persona

variable {r : Registry Json} {k : Nat} {p p' : Persona Json} {stage : Option Stage}

/-- The version never decreases. -/
theorem Evolves.version_le (h : p.Evolves r k p' stage) : p.version ≤ p'.version := by
  cases h <;> omega

/-- A history that a section does not trim keeps its messages. -/
theorem Evolves.kept_history (h : p.Evolves r k p' stage) {scope : Scope} {user : String}
    (hs : ∀ s ∈ stage, ¬ s.Trims r k scope user) :
    (p.history scope user).Kept (p'.history scope user) := by
  have of_eq (heq : p'.history scope user = p.history scope user) :
      (p.history scope user).Kept (p'.history scope user) := by
    rw [heq]
    exact .refl _
  have untouched {edited : Scope} {editor : String} {change : History Json → History Json → Prop}
      (hc : p.Changes p' edited editor change)
      (hn : ¬ (scope = edited ∧ (edited = .personal → user = editor))) :=
    of_eq (hc.elsewhere scope user hn)
  have appended {edited : Scope} {editor : String} {m : Message Json}
      (hc : p.Changes p' edited editor fun h h' ↦ h' = h ++ [m]) :
      (p.history scope user).Kept (p'.history scope user) := by
    rcases hc.here_or_same scope user with heq | heq
    · rw [heq]
      exact History.kept_append _ _
    · exact of_eq heq
  cases h with
  | talked _ _ _ _ _ changes => exact appended changes
  | answered _ _ _ changes => exact appended changes
  | retaken about again changes =>
    exact untouched changes fun hhere ↦ hs _ rfl ⟨again, about, hhere⟩
  | @thinned e _ _ about change changes =>
    obtain ⟨agent, editor, _⟩ := e
    cases change
    exact untouched changes fun hhere ↦ hs _ rfl ⟨about, hhere⟩
  | @reworded e _ _ _ _ about change _ changes =>
    obtain ⟨agent, editor, _⟩ := e
    cases change
    exact untouched changes fun hhere ↦ hs _ rfl ⟨about, hhere⟩
  | @cleared e _ about change changes =>
    obtain ⟨agent, editor, _⟩ := e
    cases change
    exact untouched changes fun hhere ↦ hs _ rfl ⟨about, hhere⟩
  | @sharedCleared e change changes =>
    obtain ⟨agent, editor, _⟩ := e
    cases change
    exact untouched (changes user) fun hhere ↦ hs _ rfl hhere.1
  | @allCleared e change =>
    obtain ⟨agent, editor, _⟩ := e
    cases change
    exact absurd trivial (hs _ rfl)
  | stopped _ _ same => exact of_eq (same scope user)
  | shown remains => exact History.kept_of_remains (remains scope user)
  | kept same => exact of_eq (same scope user)

end Persona

namespace Floor

/-- Where an entry of the registry stands after a move, unless the move deletes it. -/
def placeAfter (s : Floor) (k : Nat) : Move → Option Nat
  | .proceed i =>
    match s.tasks[i]? with
    | some t => PersonaChat.placeAfter (t.deletes? s.world.registry) k
    | none => some k
  | _ => some k

/-- Where an entry of the registry stands after some moves, unless one of them deletes it. -/
def placeAlong (env : Surroundings) : Floor → Nat → List Move → Option Nat
  | _, k, [] => some k
  | s, k, move :: moves =>
    match s.placeAfter k move with
    | none => none
    | some k' => placeAlong env (s.take env move) k' moves

/-- No move along the way trims a history of an entry. -/
def Spares (env : Surroundings) (scope : Scope) (user : String) : Floor → Nat → List Move → Prop
  | _, _, [] => True
  | s, k, move :: moves =>
    (∀ stage ∈ s.stage? move, ¬ stage.Trims s.world.registry k scope user) ∧
      ∀ k' ∈ s.placeAfter k move, Spares env scope user (s.take env move) k' moves

instance decidableSpares (env : Surroundings) (scope : Scope) (user : String) :
    ∀ s k moves, Decidable (Spares env scope user s k moves)
  | _, _, [] => inferInstanceAs (Decidable True)
  | s, k, move :: moves =>
    have := fun k' ↦ decidableSpares env scope user (s.take env move) k' moves
    inferInstanceAs (Decidable ((∀ stage ∈ s.stage? move, ¬ stage.Trims _ k scope user) ∧
      ∀ k' ∈ s.placeAfter k move, Spares env scope user (s.take env move) k' moves))

variable (env : Surroundings) {s : Floor} {k : Nat} {p : Persona Json}

/-- An entry evolves with every move that does not delete it, and its version is counted up by one
if the move is one that counts it up, and not at all otherwise. -/
theorem evolves_take (hp : s.world.registry.agents[k]? = some p) {move : Move} {k' : Nat}
    (hk : s.placeAfter k move = some k') :
    ∃ p', (s.take env move).world.registry.agents[k']? = some p' ∧
      p.Evolves s.world.registry k p' (s.stage? move) ∧
      p'.version = p.version + if s.CountsUp k move then 1 else 0 := by
  -- A move that runs no section leaves the entry and counts nothing.
  have idle (hs : s.stage? move = none) :
      p.Evolves s.world.registry k p (s.stage? move) ∧
        p.version = p.version + if s.CountsUp k move then 1 else 0 := by
    have hc : ¬ s.CountsUp k move := by simp [CountsUp, hs]
    exact ⟨.refl _ k p _, by simp [hc]⟩
  cases move with
  | receive | answer | clock =>
    cases hk
    exact ⟨p, hp, idle rfl⟩
  | close =>
    cases hk
    refine ⟨p, ?_, idle rfl⟩
    dsimp only [take]
    rw [World.registry_save]
    exact hp
  | proceed i =>
    rw [take]
    cases ht : s.tasks[i]? with
    | none =>
      simp only [placeAfter, ht] at hk
      cases hk
      rw [proceed_of_getElem?_eq_none env ht]
      exact ⟨p, hp, idle (by simp [stage?, ht])⟩
    | some t =>
      simp only [placeAfter, ht] at hk
      rw [proceed_of_getElem? env ht]
      have hs : s.stage? (.proceed i) = some t.stage := by simp [stage?, ht]
      simpa [CountsUp, hs] using t.version_step env s.world k p hp k' hk

/-- Along moves that do not delete an entry its version never decreases, and a history that no move
trims keeps its messages. -/
theorem continues_run (hp : s.world.registry.agents[k]? = some p) (moves : List Move) {k' : Nat}
    (hk : placeAlong env s k moves = some k') :
    ∃ p', (run env s moves).world.registry.agents[k']? = some p' ∧ p.version ≤ p'.version ∧
      ∀ scope user, Spares env scope user s k moves →
        (p.history scope user).Kept (p'.history scope user) := by
  induction moves generalizing s k p with
  | nil =>
    cases hk
    exact ⟨p, hp, Int.le_refl _, fun scope user _ ↦ .refl _⟩
  | cons move moves ih =>
    rw [placeAlong] at hk
    split at hk
    · cases hk
    · next l hl =>
      obtain ⟨q, hq, hfirst, -⟩ := evolves_take env hp hl
      obtain ⟨p', hp', hversion, hrest⟩ := ih hq hk
      refine ⟨p', hp', Int.le_trans hfirst.version_le hversion, fun scope user hspares ↦ ?_⟩
      exact (hfirst.kept_history hspares.1).trans (hrest scope user (hspares.2 l hl))

/-- Every section changes an entry that it does not delete in one of the ways listed in `Evolves`,
and counts its version up by one if it is talk that is accepted, an edit or a deletion of messages
that are there, an emptying or a stop, and not at all otherwise. Along any moves the version never
decreases, and a history keeps its messages in their places unless a section takes back, deletes,
rewords or empties there. -/
theorem histories_evolve (env : Surroundings) (s : Floor) {k : Nat} {p : Persona Json}
    (hp : s.world.registry.agents[k]? = some p) :
    (∀ move k', s.placeAfter k move = some k' →
      ∃ p', (s.take env move).world.registry.agents[k']? = some p' ∧
        p.Evolves s.world.registry k p' (s.stage? move) ∧
        p'.version = p.version + if s.CountsUp k move then 1 else 0) ∧
    ∀ moves k', placeAlong env s k moves = some k' →
      ∃ p', (run env s moves).world.registry.agents[k']? = some p' ∧ p.version ≤ p'.version ∧
        ∀ scope user, Spares env scope user s k moves →
          (p.history scope user).Kept (p'.history scope user) :=
  ⟨fun _ _ hk ↦ evolves_take env hp hk, fun moves _ hk ↦ continues_run env hp moves hk⟩

/-- While a user waits for an answer in the shared history of `Bot`, another one empties a private
history: the shared history keeps what was said. -/
theorem histories_evolve_of_private_clear :
    let s :=
      run .plain (opened .withBot) [.askBot "u" .chat false "one", .proceed 0, .proceed 0,
        .proceed 0]
    let moves : List Move := [.proceed 0, .proceed 0,
      .askBot "v" (.clearHistory .personal) true "", .proceed 1, .proceed 1]
    ∃ p p', s.world.registry.agents[0]? = some p ∧
      (run .plain s moves).world.registry.agents[0]? = some p' ∧
      p.history .shared "u" = [.ofUser "one" [] 0] ∧ p.version ≤ p'.version ∧
      (p.history .shared "u").Kept (p'.history .shared "u") := by
  intro s moves
  have hsaid : s.world.registry.agents[0]?.map (·.history .shared "u") =
      some [.ofUser "one" [] 0] := by rfl
  obtain ⟨p, hp, hh⟩ := Option.map_eq_some_iff.mp hsaid
  have hspares : Spares .plain .shared "u" s 0 moves := by
    decide +kernel
  obtain ⟨-, hrun⟩ := histories_evolve .plain s hp
  obtain ⟨p', hp', hversion, hkept⟩ := hrun moves 0 rfl
  exact ⟨p, p', hp, hp', hh, hversion, hkept .shared "u" hspares⟩

end Floor
end PersonaChat
