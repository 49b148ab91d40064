import Mathlib.Logic.Function.Basic
import PersonaChat.Proofs.Desk.Aging

/-!
# When an answer is out of date

An answer is stored if the persona that is found under the name of the ticket has the version of
the ticket. As long as that is the entry in which the generation stored what its user said, the
version tells whether the history is still the one that was sent: whatever changes a history counts
the version up, and a version is given to one generation only. But a persona that was deleted and
created again, or one that took the name over, counts from the beginning, so its version may be the
one of the ticket by chance. This is the only way in which an answer gets into a history it does
not continue.

Spec guidance: `SPEC_FULL.md`, lines 50–51 and 128–129.
-/

namespace PersonaChat

/-! ### Following the entries -/

/-- A floor, and for each generation on it where the entry stands now in which it stored what its
user said. -/
structure Followed where
  /-- The floor. -/
  floor : Floor
  /-- The position of the entry, by the number of the generation; none when it was deleted. -/
  homes : Nat → Option Nat

namespace Followed

/-- A floor without commands. -/
def opened (w : World) : Followed := ⟨.opened w, fun _ ↦ none⟩

/-- Where the entries stand after the next section of a task: a start finds the entry, and a
deletion moves the entries behind it up. -/
def homesAfter (s : Followed) (i : Nat) (t : Task) : Nat → Option Nat :=
  match t.starts? with
  | some agent => Function.update s.homes i (s.floor.world.registry.place? agent)
  | none => fun j ↦ (s.homes j).bind (placeAfter (t.deletes? s.floor.world.registry))

/-- Carry out a move. -/
def take (env : Surroundings) (s : Followed) (move : Move) : Followed where
  floor := s.floor.take env move
  homes := match move with
    | .proceed i => (s.floor.tasks[i]?).elim s.homes (s.homesAfter i)
    | _ => s.homes

/-- Every move is of a kind at the floor where it is made. -/
def Always (env : Surroundings) (kind : Followed → Move → Prop) : Followed → List Move → Prop
  | _, [] => True
  | s, move :: moves => kind s move ∧ Always env kind (s.take env move) moves

/-- The position of the persona to which an answer is stored, if it is not dropped. -/
def target? (s : Followed) (c : Completion) : Option Nat :=
  (s.floor.world.registry.place? c.ticket.persona).filter fun k ↦
    s.floor.world.registry.agents[k]?.any (·.version == c.ticket.version)

/-- The persona under the name of the ticket is the entry in which the generation stored what its
user said, and the history is, message for message, the list that was sent. -/
def Faithful (s : Followed) (i : Nat) (c : Completion) : Prop :=
  ∃ k p, s.floor.world.registry.Designates c.ticket.persona k p ∧ s.homes i = some k ∧
    p.history c.talk.scope c.talk.user = c.ticket.request.messages

/-- The generation ends as cancelled, and nothing but the records changes. -/
def Drops (env : Surroundings) (s : Followed) (i : Nat) (c : Completion) : Prop :=
  (s.floor.proceed env i).At i (.talk ⟨c.talk, .finished (.ok (.ofText .cancelled ""))⟩) ∧
    ∃ log, (s.floor.proceed env i).world = { s.floor.world with log := log }

/-- A move stores an answer only where it continues what was sent; otherwise the answer is
dropped. -/
def Sound (env : Surroundings) (s : Followed) : Move → Prop
  | .proceed i => ∀ c ∈ s.floor.tasks[i]?.bind Task.completion?,
    ((s.floor.proceed env i).world.registry ≠ s.floor.world.registry → s.Faithful i c) ∧
      (¬ s.Faithful i c → s.Drops env i c)
  | _ => True

/-- A move stores an answer only in the entry in which the generation stored what its user said. -/
def AtHome (s : Followed) : Move → Prop
  | .proceed i => ∀ c ∈ s.floor.tasks[i]?.bind Task.completion?, ∀ k ∈ s.target? c,
      s.homes i = some k
  | _ => True

instance (s : Followed) : DecidablePred s.AtHome
  | .proceed i => inferInstanceAs (Decidable (∀ c ∈ s.floor.tasks[i]?.bind Task.completion?,
      ∀ k ∈ s.target? c, s.homes i = some k))
  | .receive .. | .answer .. | .clock .. | .close => inferInstanceAs (Decidable True)

instance decidableAlways (env : Surroundings) (kind : Followed → Move → Prop)
    [∀ s, DecidablePred (kind s)] : ∀ s moves, Decidable (Always env kind s moves)
  | _, [] => inferInstanceAs (Decidable True)
  | s, move :: moves =>
    have := decidableAlways env kind (s.take env move) moves
    inferInstanceAs (Decidable (kind s move ∧ Always env kind (s.take env move) moves))

variable {s : Followed} {i : Nat} {t : Task}

private theorem target?_eq_some_iff {c : Completion} {k : Nat} :
    s.target? c = some k ↔ ∃ p, s.floor.world.registry.Designates c.ticket.persona k p ∧
      p.version = c.ticket.version := by
  rw [target?, Option.filter_eq_some_iff, Registry.place?_eq_some_iff]
  constructor
  · rintro ⟨⟨p, hd⟩, hv⟩
    rw [hd.stands] at hv
    exact ⟨p, hd, by simpa using hv⟩
  · rintro ⟨p, hd, hv⟩
    refine ⟨⟨p, hd⟩, ?_⟩
    rw [hd.stands]
    simpa using hv

/-! ### What is known of a generation on its way -/

/-- A generation is on its way, and its entry stands at a position. -/
def Flies (s : Followed) (i : Nat) (talk : Talk) (ticket : Ticket) (k : Nat) : Prop :=
  (∃ t, s.floor.tasks[i]? = some t ∧ t.ticket? = some (talk, ticket)) ∧ s.homes i = some k

/-- The version of a persona has moved on since a start, or the history is what the start
stored. -/
def Fits (talk : Talk) (ticket : Ticket) (p : Persona Json) : Prop :=
  ticket.version < p.version ∨
    ticket.version = p.version ∧ p.history talk.scope talk.user = ticket.request.messages

private theorem Fits.version_le {talk : Talk} {ticket : Ticket} {p : Persona Json}
    (h : Fits talk ticket p) : ticket.version ≤ p.version := by
  rcases h with h | ⟨h, -⟩ <;> omega

private theorem Fits.ages {talk : Talk} {ticket : Ticket} {p p' : Persona Json}
    (h : Fits talk ticket p)
    (ha : p.Ages p') : Fits talk ticket p' := by
  have hle := h.version_le
  rcases ha with hv | ⟨hv, hh⟩
  · left
    omega
  · rcases h with h | ⟨h, hm⟩
    · left
      omega
    · exact .inr ⟨by omega, by rw [hh, hm]⟩

/-- The entry of each generation on its way fits it, and generations with one entry have different
versions. -/
structure Traced (s : Followed) : Prop where
  textual : s.floor.world.registry.Textual
  fits : ∀ i talk ticket k, s.Flies i talk ticket k →
    ∃ p, s.floor.world.registry.agents[k]? = some p ∧ Fits talk ticket p
  apart : ∀ i j talk talk' ticket ticket' k, i ≠ j → s.Flies i talk ticket k →
    s.Flies j talk' ticket' k → ticket.version ≠ ticket'.version

variable (env : Surroundings)

private theorem deletes?_of_starts? {agent : String} (h : t.starts? = some agent)
    (r : Registry Json) : t.deletes? r = none := by
  unfold Task.starts? at h
  split at h
  · next hs => rw [Task.deletes?, hs]
  · cases h

private theorem homes_proceed (ht : s.floor.tasks[i]? = some t) :
    (s.take env (.proceed i)).homes = s.homesAfter i t := by
  simp [take, ht]

/-- A start finds its entry under the name it is given. -/
private theorem homesAfter_self {agent : String} {k : Nat} {p : Persona Json}
    (h : t.starts? = some agent) (hd : s.floor.world.registry.Designates agent k p) :
    s.homesAfter i t i = some k := by
  rw [homesAfter, h]
  dsimp only
  rw [Function.update_self, Registry.place?_eq_some_iff.mpr ⟨p, hd⟩]

/-- All other entries stand where the section leaves them. -/
private theorem homesAfter_of_ne {j : Nat} (h : t.starts? = none ∨ j ≠ i) :
    s.homesAfter i t j =
      (s.homes j).bind (placeAfter (t.deletes? s.floor.world.registry)) := by
  cases hstart : t.starts? with
  | some agent =>
    have hj : j ≠ i := by
      rcases h with h | h
      · rw [h] at hstart
        cases hstart
      · exact h
    rw [homesAfter, hstart, deletes?_of_starts? hstart]
    dsimp only
    rw [Function.update_of_ne hj]
    cases s.homes j with
    | none => rfl
    | some k => rfl
  | none => rw [homesAfter, hstart]

/-- A generation that is on its way after a section was so before, or the section was its start. -/
theorem flies_proceed (ht : s.floor.tasks[i]? = some t) {j : Nat} {talk : Talk} {ticket : Ticket}
    {k' : Nat} (h : (s.take env (.proceed i)).Flies j talk ticket k') :
    (∃ k, s.Flies j talk ticket k ∧
      placeAfter (t.deletes? s.floor.world.registry) k = some k') ∨
    j = i ∧ t.deletes? s.floor.world.registry = none ∧ ∃ p, Generation.Begins s.floor.world
      (t.step env s.floor.world).1 talk ticket k' p := by
  obtain ⟨⟨u, hu, hticket⟩, hhome⟩ := h
  rw [homes_proceed env ht] at hhome
  change (s.floor.proceed env i).tasks[j]? = some u at hu
  have before (hold : ∃ v, s.floor.tasks[j]? = some v ∧ v.ticket? = some (talk, ticket))
      (hj : t.starts? = none ∨ j ≠ i) : ∃ k, s.Flies j talk ticket k ∧
        placeAfter (t.deletes? s.floor.world.registry) k = some k' := by
    rw [homesAfter_of_ne hj] at hhome
    obtain ⟨k, hk, hplace⟩ := Option.bind_eq_some_iff.mp hhome
    exact ⟨k, ⟨hold, hk⟩, hplace⟩
  by_cases hj : j = i
  · subst hj
    rw [Floor.getElem?_proceed_self env ht] at hu
    cases hu
    rcases t.ticket?_step env s.floor.world hticket with ⟨hstart, hold⟩ | ⟨hstart, k, p, hb⟩
    · exact .inl (before ⟨t, ht, hold⟩ (.inl hstart))
    · rw [homesAfter_self hstart hb.found] at hhome
      cases hhome
      exact .inr ⟨rfl, deletes?_of_starts? hstart _, p, hb⟩
  · rw [Floor.getElem?_proceed_of_ne env (Ne.symm hj)] at hu
    exact .inl (before ⟨u, hu, hticket⟩ (.inr hj))

private theorem registry_proceed (ht : s.floor.tasks[i]? = some t) :
    (s.take env (.proceed i)).floor.world.registry = (t.step env s.floor.world).1.registry := by
  show (s.floor.proceed env i).world.registry = _
  rw [Floor.proceed_of_getElem? env ht]

/-- A move is the next section of a task, or it touches neither the personas nor the entries nor
the tickets. -/
private theorem take_cases (s : Followed) (move : Move) :
    (∃ i t, move = .proceed i ∧ s.floor.tasks[i]? = some t) ∨
      (s.take env move).floor.world.registry = s.floor.world.registry ∧
        (s.take env move).homes = s.homes ∧
        ∀ (j : Nat) (u : Task) talk ticket, (s.take env move).floor.tasks[j]? = some u →
          u.ticket? = some (talk, ticket) →
          ∃ t : Task, s.floor.tasks[j]? = some t ∧ t.ticket? = some (talk, ticket) := by
  cases move with
  | receive user prompt images request =>
    refine .inr ⟨rfl, rfl, fun j u talk ticket hu hticket ↦ ?_⟩
    simp only [Followed.take, Floor.take] at hu
    by_cases hj : j < s.floor.tasks.length
    · rw [List.getElem?_append_left hj] at hu
      exact ⟨u, hu, hticket⟩
    · -- The command that came in is on no way yet.
      rw [List.getElem?_append_right (by omega)] at hu
      have hmem := List.mem_singleton.mp (List.mem_of_getElem? hu)
      rw [hmem, Task.ticket?_task] at hticket
      cases hticket
  | proceed i =>
    cases ht : s.floor.tasks[i]? with
    | none =>
      have hsame : s.take env (.proceed i) = s := by
        simp [Followed.take, Floor.take, Floor.proceed_of_getElem?_eq_none env ht, ht]
      rw [hsame]
      exact .inr ⟨rfl, rfl, fun j u talk ticket hu hticket ↦ ⟨u, hu, hticket⟩⟩
    | some t => exact .inl ⟨i, t, rfl, ht⟩
  | answer i a =>
    refine .inr ⟨rfl, rfl, fun j u talk ticket hu hticket ↦ ?_⟩
    simp only [Followed.take, Floor.take, List.getElem?_modify] at hu
    obtain ⟨t, ht, rfl⟩ := Option.map_eq_some_iff.mp hu
    refine ⟨t, ht, ?_⟩
    split at hticket
    · rwa [t.ticket?_answer] at hticket
    · exact hticket
  | clock now => exact .inr ⟨rfl, rfl, fun j u talk ticket hu hticket ↦ ⟨u, hu, hticket⟩⟩
  | close =>
    right
    dsimp only [Followed.take, Floor.take]
    rw [World.registry_save]
    exact ⟨rfl, rfl, fun j u talk ticket hu hticket ↦ ⟨u, hu, hticket⟩⟩

/-- A section that stores no answer keeps track. -/
private theorem Traced.proceed_of_no_completion (h : s.Traced) (ht : s.floor.tasks[i]? = some t)
    (hc : t.completion? = none) : (s.take env (.proceed i)).Traced := by
  have hages := t.ages_step env s.floor.world h.textual hc
  refine ⟨?_, fun j talk ticket k' hj ↦ ?_, fun j l talk talk' ticket ticket' k' hjl hj hl ↦ ?_⟩
  · rw [registry_proceed env ht]
    exact (t.rewrites_step env s.floor.world).textual h.textual
  · rw [registry_proceed env ht]
    rcases flies_proceed env ht hj with ⟨k, hold, hplace⟩ | ⟨-, -, p, hb⟩
    · obtain ⟨p, hp, hfits⟩ := h.fits j talk ticket k hold
      obtain ⟨p', hp', ha⟩ := hages k p hp k' hplace
      exact ⟨p', hp', hfits.ages ha⟩
    · have hk := (List.getElem?_eq_some_iff.mp hb.found.stands).1
      refine ⟨_, by rw [hb.registry, List.getElem?_set_self hk], .inr ⟨?_, ?_⟩⟩
      · simp [hb.version]
      · rw [Persona.history_bump, Persona.history_setHistory]
  · -- A version that is counted up now is above those of all generations with the same entry.
    have above {m : Nat} {talk₀ talk₁ : Talk} {ticket₀ ticket₁ : Ticket} {k : Nat}
        {p : Persona Json}
        (hdel : t.deletes? s.floor.world.registry = none)
        (hb : Generation.Begins s.floor.world (t.step env s.floor.world).1 talk₁ ticket₁ k' p)
        (hold : s.Flies m talk₀ ticket₀ k)
        (hplace : placeAfter (t.deletes? s.floor.world.registry) k = some k') :
        ticket₀.version < ticket₁.version := by
      rw [hdel, placeAfter, Option.some.injEq] at hplace
      rw [hplace] at hold
      obtain ⟨q, hq, hfits⟩ := h.fits m talk₀ ticket₀ k' hold
      rw [hb.found.stands] at hq
      cases hq
      have hle := hfits.version_le
      have hv := hb.version
      omega
    rcases flies_proceed env ht hj with ⟨k, hold, hplace⟩ | ⟨hji, hdel, p, hb⟩
    · rcases flies_proceed env ht hl with ⟨k₂, hold₂, hplace₂⟩ | ⟨-, hdel, p, hb⟩
      · have hkk := placeAfter_inj hplace hplace₂
        subst hkk
        exact h.apart j l talk talk' ticket ticket' k hjl hold hold₂
      · have hlt := above hdel hb hold hplace
        omega
    · rcases flies_proceed env ht hl with ⟨k₂, hold₂, hplace₂⟩ | ⟨hli, -, -, -⟩
      · have hlt := above hdel hb hold₂ hplace₂
        omega
      · exact absurd (hji.trans hli.symm) hjl

/-- Storing an answer in the entry of its generation keeps track. -/
private theorem Traced.proceed_of_completion (h : s.Traced) {c : Completion}
    (ht : s.floor.tasks[i]? = some t) (hc : t.completion? = some c)
    (hhome : ∀ k, s.target? c = some k → s.homes i = some k) :
    (s.take env (.proceed i)).Traced := by
  have hs := Task.stage_of_completion? hc
  have hdel : t.deletes? s.floor.world.registry = none := by rw [Task.deletes?, hs]
  have hself : t.ticket? = some (c.talk, c.ticket) := by
    rw [Task.ticket?, hs]
    rfl
  -- The generation itself has ended, so only the others are on their way.
  have flies {j : Nat} {talk : Talk} {ticket : Ticket} {k : Nat}
      (hj : (s.take env (.proceed i)).Flies j talk ticket k) :
      j ≠ i ∧ s.Flies j talk ticket k := by
    have hji : j ≠ i := by
      rintro rfl
      obtain ⟨⟨u, hu, hticket⟩, -⟩ := hj
      change (s.floor.proceed env j).tasks[j]? = some u at hu
      rw [Floor.getElem?_proceed_self env ht, Task.step_of_completion? env _ hc] at hu
      cases hu
      simp [Task.ticket?, Generation.ticket?_complete] at hticket
    rcases flies_proceed env ht hj with ⟨k₀, hold, hplace⟩ | ⟨hji', -, -, -⟩
    · rw [hdel] at hplace
      cases hplace
      exact ⟨hji, hold⟩
    · exact absurd hji' hji
  refine ⟨?_, fun j talk ticket k hj ↦ ?_, fun j l talk talk' ticket ticket' k hjl hj hl ↦
    h.apart j l talk talk' ticket ticket' k hjl (flies hj).2 (flies hl).2⟩
  · rw [registry_proceed env ht]
    exact (t.rewrites_step env s.floor.world).textual h.textual
  · obtain ⟨hji, hold⟩ := flies hj
    obtain ⟨q, hq, hfits⟩ := h.fits j talk ticket k hold
    rw [registry_proceed env ht, Task.step_of_completion? env _ hc]
    dsimp only
    rcases Generation.complete_cases env s.floor.world c.talk c.ticket c.content with
      ⟨content, k₀, p, hcontent, hd, hv⟩ | ⟨log, result, hsame, -⟩
    · have hi := hhome k₀ (target?_eq_some_iff.mpr ⟨p, hd, hv⟩)
      rw [hcontent, Generation.complete_of_current env s.floor.world c.talk content hd hv]
      dsimp only
      rw [World.registry_commit]
      dsimp only
      by_cases hk : k₀ = k
      · subst hk
        rw [hd.stands] at hq
        cases hq
        have hne :=
          h.apart i j c.talk talk c.ticket ticket k₀ (Ne.symm hji) ⟨⟨t, ht, hself⟩, hi⟩ hold
        have hle := hfits.version_le
        have hlen := (List.getElem?_eq_some_iff.mp hd.stands).1
        refine ⟨_, by rw [List.getElem?_set_self hlen], .inl ?_⟩
        rw [Persona.version_append]
        omega
      · exact ⟨q, by rw [List.getElem?_set_ne hk]; exact hq, hfits⟩
    · rw [hsame]
      exact ⟨q, hq, hfits⟩

/-- Moves that store answers at home only keep track. -/
theorem Traced.take (h : s.Traced) {move : Move} (hhome : s.AtHome move) :
    (s.take env move).Traced := by
  rcases s.take_cases env move with ⟨i, t, rfl, ht⟩ | ⟨hregistry, hhomes, htickets⟩
  · cases hc : t.completion? with
    | none => exact h.proceed_of_no_completion env ht hc
    | some c =>
      refine h.proceed_of_completion env ht hc fun k hk ↦ ?_
      exact hhome c (by rw [ht]; exact hc) k hk
  · have flies {j : Nat} {talk : Talk} {ticket : Ticket} {k : Nat}
        (hj : (s.take env move).Flies j talk ticket k) : s.Flies j talk ticket k := by
      obtain ⟨⟨u, hu, hticket⟩, hk⟩ := hj
      rw [hhomes] at hk
      exact ⟨htickets j u talk ticket hu hticket, hk⟩
    refine ⟨?_, fun j talk ticket k hj ↦ ?_, fun j l talk talk' ticket ticket' k hjl hj hl ↦ ?_⟩
    · rw [hregistry]
      exact h.textual
    · rw [hregistry]
      exact h.fits j talk ticket k (flies hj)
    · exact h.apart j l talk talk' ticket ticket' k hjl (flies hj) (flies hl)

/-! ### Answers that continue what was sent -/

private theorem at_of_completion (ht : s.floor.tasks[i]? = some t) {c : Completion}
    (hc : t.completion? = some c) : (s.floor.proceed env i).At i (.talk ⟨c.talk,
      (Generation.complete env s.floor.world c.talk c.ticket c.content).2⟩) := by
  refine ⟨_, Floor.getElem?_proceed_self env ht, ?_⟩
  rw [Task.step_of_completion? env _ hc]

/-- An answer that is not dropped does not end as cancelled, whether it is a text or not. -/
private theorem not_drops_of_target {c : Completion} {k : Nat} (ht : s.floor.tasks[i]? = some t)
    (hc : t.completion? = some c) (hk : s.target? c = some k) : ¬ s.Drops env i c := by
  rintro ⟨hat, -⟩
  obtain ⟨p, hd, hv⟩ := target?_eq_some_iff.mp hk
  have hcur := (Generation.current?_eq_some_iff s.floor.world c.ticket p).mpr ⟨k, hd, hv⟩
  have heq := (at_of_completion env ht hc).unique hat
  obtain ⟨talk, ticket, content⟩ := c
  cases content with
  | none | some content => simp [Generation.complete, hcur] at heq

/-- A sound move stores its answer at home. -/
theorem Sound.atHome {move : Move} (h : s.Sound env move) : s.AtHome move := by
  cases move with
  | proceed i =>
    intro c hc k hk
    obtain ⟨t, ht, hct⟩ := Option.bind_eq_some_iff.mp hc
    by_cases hf : s.Faithful i c
    · obtain ⟨k', p', hd', hhome, -⟩ := hf
      obtain ⟨p, hd, -⟩ := target?_eq_some_iff.mp hk
      rw [hhome, (hd'.unique hd).1]
    · exact absurd ((h c hc).2 hf) (not_drops_of_target env ht hct hk)
  | _ => trivial

/-- A move that stores its answer at home is sound. -/
theorem Traced.sound (h : s.Traced) {move : Move} (hhome : s.AtHome move) : s.Sound env move := by
  cases move with
  | proceed i =>
    intro c hc
    obtain ⟨t, ht, hct⟩ := Option.bind_eq_some_iff.mp hc
    have hs := Task.stage_of_completion? hct
    have hself : t.ticket? = some (c.talk, c.ticket) := by
      rw [Task.ticket?, hs]
      rfl
    -- What is stored at home continues what was sent, because the version has not moved on.
    have faithful {k : Nat} {p : Persona Json}
        (hd : s.floor.world.registry.Designates c.ticket.persona k p)
        (hv : p.version = c.ticket.version) : s.Faithful i c := by
      have hi := hhome c hc k (target?_eq_some_iff.mpr ⟨p, hd, hv⟩)
      obtain ⟨q, hq, hfits⟩ := h.fits i c.talk c.ticket k ⟨⟨t, ht, hself⟩, hi⟩
      rw [hd.stands] at hq
      cases hq
      rcases hfits with hlt | ⟨-, hm⟩
      · omega
      · exact ⟨k, p, hd, hi, hm⟩
    constructor
    · intro hchange
      rw [Floor.proceed_of_getElem? env ht, Task.step_of_completion? env _ hct] at hchange
      rcases Generation.complete_cases env s.floor.world c.talk c.ticket c.content with
        ⟨_, k, p, -, hd, hv⟩ | ⟨log, result, hsame, -⟩
      · exact faithful hd hv
      · exact absurd (by rw [hsame]) hchange
    · intro hf
      have hnone : Generation.current? s.floor.world c.ticket = .ok none :=
        Generation.current?_eq_none _ h.textual.named _ fun k p hd hv ↦ hf (faithful hd hv)
      have hat := at_of_completion env ht hct
      simp only [Generation.complete, hnone] at hat
      refine ⟨hat, ?_⟩
      rw [Floor.proceed_of_getElem? env ht, Task.step_of_completion? env _ hct]
      simp only [Generation.complete, hnone]
      exact ⟨_, rfl⟩
  | _ => trivial

/-- Moves that are sound store their answers at home. -/
theorem always_atHome_of_always_sound (moves : List Move) (h : Always env (Sound env) s moves) :
    Always env AtHome s moves := by
  induction moves generalizing s with
  | nil => trivial
  | cons move moves ih => exact ⟨h.1.atHome, ih h.2⟩

/-- Moves that store their answers at home are sound. -/
theorem Traced.always_sound (h : s.Traced) {moves : List Move}
    (hhome : Always env AtHome s moves) :
    Always env (Sound env) s moves := by
  induction moves generalizing s with
  | nil => trivial
  | cons move moves ih => exact ⟨h.sound env hhome.1, ih (h.take env hhome.1) hhome.2⟩

/-! ### Entries that stay under their names -/

/-- The next section of a task neither renames nor deletes a persona. -/
def Stays (s : Followed) : Move → Prop
  | .proceed i => ∀ t ∈ s.floor.tasks[i]?, ∀ e, t.stage = .edit e →
      e.change ≠ .delete ∧ ∀ name, e.change ≠ .rename name
  | _ => True

/-- The entry of each generation on its way stands where the name of its ticket leads. -/
def Rooted (s : Followed) : Prop :=
  ∀ i t talk ticket, s.floor.tasks[i]? = some t → t.ticket? = some (talk, ticket) →
    ∃ k p, s.homes i = some k ∧ s.floor.world.registry.Designates ticket.persona k p

/-- A section that renames and deletes nothing leaves every name its position. -/
private theorem designates_of_rewrites {now : Int} {r r' : Registry Json} {name : String} {k : Nat}
    {p : Persona Json} (h : t.Rewrites now r r')
    (hstay : ∀ e, t.stage = .edit e → e.change ≠ .delete ∧ ∀ name, e.change ≠ .rename name)
    (hd : r.Designates name k p) : ∃ p', r'.Designates name k p' := by
  cases h with
  | kept agents_eq => exact ⟨p, hd.of_agents_eq agents_eq⟩
  | @edited e _ stage makes =>
    obtain ⟨hdel, hren⟩ := hstay e stage
    cases makes with
    | same => exact ⟨p, hd⟩
    | amended found amends => exact ⟨_, hd.set_of_name_eq found.stands (amends.name_eq hren)⟩
    | added => exact ⟨p, hd.add _⟩
    | removed change => exact absurd change hdel
    | sharedCleared => exact ⟨_, hd.map fun p ↦ p.name_clearShared⟩
    | allCleared => exact ⟨_, hd.map fun p ↦ p.name_clearAll⟩
  | begun stage phase found next => exact ⟨_, hd.set_of_name_eq found.stands (by simp)⟩
  | completed stage phase found current => exact ⟨_, hd.set_of_name_eq found.stands (by simp)⟩
  | described found => exact ⟨_, hd.set_of_name_eq found.stands rfl⟩
  | shown found => exact ⟨_, hd.set_of_name_eq found.stands (by simp)⟩

private theorem Rooted.proceed (h : s.Rooted) (hstay : s.Stays (.proceed i))
    (ht : s.floor.tasks[i]? = some t) : (s.take env (.proceed i)).Rooted := by
  have hkeep {name : String} {k : Nat} {p : Persona Json}
      (hd : s.floor.world.registry.Designates name k p) :
      ∃ p', (s.take env (.proceed i)).floor.world.registry.Designates name k p' := by
    rw [registry_proceed env ht]
    exact designates_of_rewrites (t.rewrites_step env s.floor.world) (hstay t ht) hd
  have hdel : t.deletes? s.floor.world.registry = none := by
    unfold Task.deletes?
    split
    · next hs => exact absurd rfl (hstay t ht _ hs).1
    · rfl
  intro j u talk ticket hu hticket
  rw [homes_proceed env ht]
  change (s.floor.proceed env i).tasks[j]? = some u at hu
  have hold (hj : ∃ v, s.floor.tasks[j]? = some v ∧ v.ticket? = some (talk, ticket))
      (hne : t.starts? = none ∨ j ≠ i) : ∃ k p, s.homesAfter i t j = some k ∧
        (s.take env (.proceed i)).floor.world.registry.Designates ticket.persona k p := by
    obtain ⟨v, hv, hvt⟩ := hj
    obtain ⟨k, p, hk, hd⟩ := h j v talk ticket hv hvt
    obtain ⟨p', hd'⟩ := hkeep hd
    exact ⟨k, p', by rw [homesAfter_of_ne hne, hk, hdel]; rfl, hd'⟩
  by_cases hj : j = i
  · subst hj
    rw [Floor.getElem?_proceed_self env ht] at hu
    cases hu
    rcases t.ticket?_step env s.floor.world hticket with ⟨hstart, hsame⟩ | ⟨hstart, k, p, hb⟩
    · exact hold ⟨t, ht, hsame⟩ (.inl hstart)
    · obtain ⟨own, hown, hlower⟩ := hb.found.named
      have hpersona : ticket.persona = own := by
        rw [hb.persona, hown]
        rfl
      obtain ⟨p', hd'⟩ := hkeep (hb.found.congr (b := ticket.persona) (by rw [hpersona, hlower]))
      exact ⟨k, p', homesAfter_self hstart hb.found, hd'⟩
  · rw [Floor.getElem?_proceed_of_ne env (Ne.symm hj)] at hu
    exact hold ⟨u, hu, hticket⟩ (.inr hj)

/-- Where nothing is renamed and deleted, entries stay under their names. -/
theorem Rooted.take (h : s.Rooted) {move : Move} (hstay : s.Stays move) :
    (s.take env move).Rooted := by
  rcases s.take_cases env move with ⟨i, t, rfl, ht⟩ | ⟨hregistry, hhomes, htickets⟩
  · exact h.proceed env hstay ht
  · intro j u talk ticket hu hticket
    obtain ⟨t, ht, hsame⟩ := htickets j u talk ticket hu hticket
    rw [hregistry, hhomes]
    exact h j t talk ticket ht hsame

private theorem Rooted.atHome (h : s.Rooted) (move : Move) : s.AtHome move := by
  cases move with
  | proceed i =>
    intro c hc k hk
    obtain ⟨t, ht, hct⟩ := Option.bind_eq_some_iff.mp hc
    have hself : t.ticket? = some (c.talk, c.ticket) := by
      rw [Task.ticket?, Task.stage_of_completion? hct]
      rfl
    obtain ⟨k', p', hhome, hd'⟩ := h i t c.talk c.ticket ht hself
    obtain ⟨p, hd, -⟩ := target?_eq_some_iff.mp hk
    rw [hhome, (hd'.unique hd).1]
  | _ => trivial

private theorem always_atHome (h : s.Rooted) (moves : List Move)
    (hstay : Always env Stays s moves) :
    Always env AtHome s moves := by
  induction moves generalizing s with
  | nil => trivial
  | cons move moves ih => exact ⟨h.atHome move, ih (h.take env hstay.1) hstay.2⟩

/-- In any interleaving of commands over a registry of texts, answers are stored only where they
continue what was sent, and dropped otherwise, exactly when no answer gets into an entry other than
the one in which its generation stored what its user said; this is so in particular when no persona
is renamed or deleted. -/
theorem sound_iff_atHome (env : Surroundings) (w : World) (texts : w.registry.Textual)
    (moves : List Move) :
    (Always env (Sound env) (opened w) moves ↔ Always env AtHome (opened w) moves) ∧
      (Always env Stays (opened w) moves → Always env AtHome (opened w) moves) := by
  have htraced : (opened w).Traced := by
    refine ⟨texts, fun i talk ticket k hi ↦ ?_, fun i j talk talk' ticket ticket' k _ hi _ ↦ ?_⟩
    · cases hi.2
    · cases hi.2
  have hrooted : (opened w).Rooted := by
    intro i t talk ticket ht
    cases ht
  exact ⟨⟨always_atHome_of_always_sound env moves, htraced.always_sound env⟩,
    always_atHome env hrooted moves⟩

private theorem textual_withBot : World.withBot.registry.Textual := by
  intro p hp
  rw [List.mem_singleton.mp hp]
  exact Persona.textual_fresh _ _ _ _ _

/-- While the provider answers one user, another one talks to `Bot` in private: the answer to the
second is stored, and the one to the first is dropped. -/
theorem sound_of_private_talk :
    World.withBot.registry.Textual ∧
      Always .plain (Sound .plain) (opened .withBot)
        [.askBot "u1" .chat false "one", .proceed 0, .proceed 0, .proceed 0, .proceed 0,
          .askBot "u2" .chat true "two", .proceed 1, .proceed 1, .proceed 1, .proceed 1,
          .answer 1 (.chat (.ok (some "second"))), .proceed 1, .proceed 1,
          .answer 0 (.chat (.ok (some "first"))), .proceed 0, .proceed 0] :=
  ⟨textual_withBot, (sound_iff_atHome .plain .withBot textual_withBot _).1.mpr (by decide +kernel)⟩

/-- A persona is deleted while the provider answers, created again, and stopped: it has the version
of the ticket by chance, and the answer gets into a history that does not ask for it. -/
theorem not_sound_of_created_again : ¬ ∀ (env : Surroundings) (w : World) (moves : List Move),
    w.registry.Textual → Always env (Sound env) (opened w) moves := by
  intro h
  have hsound := h .plain .withBot
    [.askBot "u1" .chat false "hello", .proceed 0, .proceed 0, .proceed 0, .proceed 0,
      .askBot "u2" .delete false "", .proceed 1,
      .receive "u2" "" [] (.create ⟨"Bot", "", "model", "prompt"⟩), .proceed 2,
      .askBot "u2" .stop false "", .proceed 3,
      .answer 0 (.chat (.ok (some "late"))), .proceed 0, .proceed 0] textual_withBot
  have hhome := always_atHome_of_always_sound .plain _ hsound
  revert hhome
  decide +kernel

end Followed
end PersonaChat
