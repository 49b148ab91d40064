import Mathlib.Data.List.Forall2
import PersonaChat.Proofs.Desk.Floor
import PersonaChat.Proofs.Desk.Sections

/-!
# How an entry of the registry evolves

An entry keeps its place while commands run, but for deletions, which take one entry out and move
those behind it up. `Persona.Evolves` lists what a section of a command may do to the histories and
the version of an entry: each way to change a history belongs to one kind of section and counts the
version up, but for an answer that is stored, which leaves the version alone. `Task.evolves_step`
says that there are no other ways.

Spec guidance: `SPEC_FULL.md`, lines 107–111 and 217–220.
-/

namespace PersonaChat

/-! ### Where entries stand -/

/-- Where an entry stands once the entry at a position, if any, is gone. -/
def placeAfter (gone : Option Nat) (k : Nat) : Option Nat :=
  match gone with
  | none => some k
  | some j => if k = j then none else if j < k then some (k - 1) else some k

/-- Different entries come to stand at different positions. -/
theorem placeAfter_inj {gone : Option Nat} {k l m : Nat} (hk : placeAfter gone k = some m)
    (hl : placeAfter gone l = some m) : k = l := by
  cases gone with
  | none =>
    cases hk
    cases hl
    rfl
  | some j =>
    simp only [placeAfter] at hk hl
    split at hk
    · cases hk
    · split at hl
      · cases hl
      · split at hk <;> split at hl <;> simp only [Option.some.injEq] at hk hl <;> omega

namespace Registry

/-- Every entry is related to what comes of it, apart from the one that is gone. -/
def Each (R : Nat → Persona Json → Persona Json → Prop) (gone : Option Nat)
    (r r' : Registry Json) : Prop :=
  ∀ k p, r.agents[k]? = some p → ∀ k', placeAfter gone k = some k' →
    ∃ p', r'.agents[k']? = some p' ∧ R k p p'

variable {R : Nat → Persona Json → Persona Json → Prop} {r r' : Registry Json}

private theorem each_of_agents_eq (hrefl : ∀ k p, R k p p) (h : r'.agents = r.agents) :
    Each R none r r' := by
  intro k p hp k' hk'
  cases hk'
  exact ⟨p, by rw [h]; exact hp, hrefl k p⟩

private theorem each_set (hrefl : ∀ k p, R k p p) {name : String} {k : Nat} {p p' : Persona Json}
    (hd : r.Designates name k p) (h : R k p p') :
    Each R none r { r with agents := r.agents.set k p' } := by
  intro j q hq j' hj'
  cases hj'
  by_cases hjk : k = j
  · subst hjk
    rw [hd.stands] at hq
    cases hq
    have hk := (List.getElem?_eq_some_iff.mp hd.stands).1
    exact ⟨p', by rw [List.getElem?_set_self hk], h⟩
  · exact ⟨q, by rw [List.getElem?_set_ne hjk]; exact hq, hrefl j q⟩

private theorem each_add (hrefl : ∀ k p, R k p p) (q : Persona Json) :
    Each R none r (r.add q) := by
  intro k p hp k' hk'
  cases hk'
  have hk := (List.getElem?_eq_some_iff.mp hp).1
  exact ⟨p, by rw [Registry.add, List.getElem?_append_left hk]; exact hp, hrefl k p⟩

private theorem each_map {f : Persona Json → Persona Json} (hf : ∀ k p, R k p (f p)) :
    Each R none r { r with agents := r.agents.map f } := by
  intro k p hp k' hk'
  cases hk'
  exact ⟨f p, by rw [List.getElem?_map, hp]; rfl, hf k p⟩

private theorem each_eraseIdx (hrefl : ∀ k p, R k p p) (j : Nat) :
    Each R (some j) r { r with agents := r.agents.eraseIdx j } := by
  intro k p hp k' hk'
  refine ⟨p, ?_, hrefl k p⟩
  simp only [placeAfter] at hk'
  split at hk'
  · cases hk'
  · split at hk'
    · cases hk'
      rw [List.getElem?_eraseIdx_of_ge (by omega), Nat.sub_add_cancel (by omega)]
      exact hp
    · cases hk'
      rw [List.getElem?_eraseIdx_of_lt (by omega)]
      exact hp

/-- The position of the persona that a name designates. -/
def place? (r : Registry Json) (name : String) : Option Nat :=
  match r.index? name with
  | .ok found => found
  | .error _ => none

/-- The place of a name is the position of the persona that it designates. -/
theorem place?_eq_some_iff {name : String} {k : Nat} :
    r.place? name = some k ↔ ∃ p, r.Designates name k p := by
  rw [← index?_eq_some_iff, place?]
  split
  · next h => simp [h]
  · next h => simp [h]

/-- A persona that is designated stands in the place of its name. -/
theorem Designates.place? {name : String} {k : Nat} {p : Persona Json}
    (h : r.Designates name k p) :
    r.place? name = some k := place?_eq_some_iff.mpr ⟨p, h⟩

end Registry

/-- The position of the persona that the next section of a task deletes. -/
def Task.deletes? (t : Task) (r : Registry Json) : Option Nat :=
  match t.stage with
  | .edit ⟨agent, _, .delete⟩ => r.place? agent
  | _ => none

/-- Deleting a persona takes its entry away and leaves the others as they are. -/
theorem Edit.each_delete {R : Nat → Persona Json → Persona Json → Prop} (hrefl : ∀ k p, R k p p)
    (agent user : String) (now : Int) (r : Registry Json) :
    Registry.Each R (r.place? agent) r (Edit.apply ⟨agent, user, .delete⟩ now r).1 := by
  show Registry.Each R (r.place? agent) r (onPersona r agent fun p ↦
    accept (r.remove agent) ("🗑️ 已删除 " ++ p.name.display)).1
  unfold onPersona
  split
  · next crash hf =>
    have hnone : r.place? agent = none := by
      cases hp : r.place? agent with
      | none => rfl
      | some k =>
        obtain ⟨p, hd⟩ := Registry.place?_eq_some_iff.mp hp
        rw [(r.find?_eq_some_iff agent p).mpr ⟨k, hd⟩] at hf
        cases hf
    rw [hnone]
    exact Registry.each_of_agents_eq hrefl rfl
  · next hf =>
    have hnone : r.place? agent = none := by
      rw [Registry.place?, (r.find?_eq_none_iff agent).mp hf]
    rw [hnone]
    exact Registry.each_of_agents_eq hrefl rfl
  · next p hf =>
    obtain ⟨k, hd⟩ := (r.find?_eq_some_iff agent p).mp hf
    rw [hd.place?]
    show Registry.Each R (some k) r (r.remove agent)
    rw [Registry.remove_of_designates hd]
    exact Registry.each_eraseIdx hrefl k

/-! ### How histories change -/

namespace History

variable {h : History Json}

/-- The last message is dropped if it has the role, and nothing else. -/
inductive DropsLast (role : String) : History Json → History Json → Prop where
  /-- The last message has the role. -/
  | dropped {h : History Json} {m : Message Json} (spoken : m.hasRole role) :
      DropsLast role (h ++ [m]) h
  /-- There is no last message, or it has another role. -/
  | stayed {h : History Json} (other : ∀ m ∈ h.getLast?, ¬ m.hasRole role) : DropsLast role h h

private theorem dropsLast_dropLast? (role : String) (h : History Json) :
    DropsLast role h (h.dropLast? role) := by
  unfold dropLast?
  split
  · next m hm =>
    split
    · next hrole =>
      obtain ⟨front, rfl⟩ := List.getLast?_eq_some_iff.mp hm
      rw [List.dropLast_concat]
      exact .dropped hrole
    · next hrole =>
      refine .stayed fun m' hm' ↦ ?_
      rw [hm] at hm'
      cases hm'
      exact hrole
  · next hm => exact .stayed fun m' hm' ↦ by rw [hm] at hm'; cases hm'

/-- The last answer is taken back; with a new prompt so is what the user said before it, and the
prompt takes its place. -/
inductive Retakes (prompt : String) (h h' : History Json) : Prop where
  /-- There is no new prompt. -/
  | silent (unsaid : prompt = "") (answer : DropsLast assistantRole h h')
  /-- There is a new prompt. -/
  | said {h₁ h₂ : History Json} {m : Message Json} (said : prompt ≠ "")
      (answer : DropsLast assistantRole h h₁) (question : DropsLast userRole h₁ h₂)
      (role : m.hasRole userRole) (content : m.content = .str prompt) (eq : h' = h₂ ++ [m])

/-- The messages at the wanted positions that exist, and at least one, are gone. -/
def Thins (wanted : List Int) (h h' : History Json) : Prop :=
  ∃ gone : List Nat, gone ≠ [] ∧
    (∀ i : Nat, i ∈ gone ↔ (i : Int) ∈ wanted ∧ 1 ≤ i ∧ i ≤ h.length) ∧
    h' = h.without (gone.map Int.ofNat)

private theorem thins_without {wanted : List Int} (hp : h.present wanted ≠ []) :
    Thins wanted h (h.without wanted) := by
  refine ⟨h.present wanted, hp, fun i ↦ mem_present_iff,
    without_congr h fun k hk hle ↦ ?_⟩
  rw [List.mem_map]
  constructor
  · exact fun hwanted ↦ ⟨k, mem_present_iff.mpr ⟨hwanted, hk, hle⟩, rfl⟩
  · rintro ⟨i, hi, hik⟩
    cases Int.ofNat.inj hik
    exact (mem_present_iff.mp hi).1

/-- The message at a position has the given text. -/
def Rewords (index : Int) (text : String) (h h' : History Json) : Prop :=
  0 < index ∧ ∃ m, h[index.toNat - 1]? = some m ∧
    h' = h.set (index.toNat - 1) { m with content := .str text }

private theorem rewords_setText {index : Int} {text : String} (hp : (h.at? index).isSome) :
    Rewords index text h (h.setText index (.str text)) := by
  unfold at? at hp
  split at hp
  · next hpos =>
    obtain ⟨m, hm⟩ := Option.isSome_iff_exists.mp hp
    refine ⟨hpos, m, hm, ?_⟩
    rw [setText, List.modify_eq_set_getElem?, hm]
    rfl
  · cases hp

end History

/-- The history that a start stores: the message of the user comes last, or the last exchange is
taken back. -/
theorem Talk.nextHistory_cases {t : Talk} {h h' : History Json} {now : Int}
    (hn : t.nextHistory h now = .ok h') :
    (t.again = false ∧ (t.prompt ≠ "" ∨ t.images ≠ []) ∧
        h' = h ++ [.ofUser t.prompt t.images now]) ∨
      (t.again = true ∧ h.Retakes t.prompt h') := by
  unfold nextHistory at hn
  cases ha : t.again with
  | true =>
    simp only [ha, ↓reduceIte] at hn
    have hanswer := History.dropsLast_dropLast? assistantRole h
    split at hn
    · next hp =>
      cases hn
      exact .inr ⟨rfl, .silent hp hanswer⟩
    · next hp =>
      cases hn
      exact .inr ⟨rfl, .said hp hanswer (History.dropsLast_dropLast? userRole _)
        (by simp [Message.hasRole, Message.ofUser]) rfl rfl⟩
  | false =>
    simp only [ha, Bool.false_eq_true, ↓reduceIte] at hn
    split at hn
    · cases hn
    · next hspoken =>
      cases hn
      refine .inl ⟨rfl, ?_, rfl⟩
      simpa [imp_iff_not_or] using hspoken

/-- A message stays what it is, but for what stands in the place of its text if that is no text. -/
structure Message.Remains (m m' : Message Json) : Prop where
  role : m'.role = m.role
  images : m'.images = m.images
  timestamp : m'.timestamp = m.timestamp
  content : m'.content = m.content ∨ ∀ s, m.content ≠ .str s

namespace Message.Remains

variable {m m' m'' : Message Json}

/-- A message remains what it is. -/
theorem refl (m : Message Json) : m.Remains m := ⟨rfl, rfl, rfl, .inl rfl⟩

private theorem trans (h : m.Remains m') (h' : m'.Remains m'') : m.Remains m'' where
  role := h'.role.trans h.role
  images := h'.images.trans h.images
  timestamp := h'.timestamp.trans h.timestamp
  content := by
    rcases h.content with hc | hc
    · rcases h'.content with hc' | hc'
      · exact .inl (hc'.trans hc)
      · rw [hc] at hc'
        exact .inr hc'
    · exact .inr hc

/-- What remains of messages remains of them after further changes. -/
theorem trans_list {h h' h'' : History Json} (hr : List.Forall₂ Message.Remains h h')
    (hr' : List.Forall₂ Message.Remains h' h'') : List.Forall₂ Message.Remains h h'' := by
  induction hr generalizing h'' with
  | nil =>
    cases hr'
    exact .nil
  | cons hm _ ih =>
    cases hr' with
    | cons hm' hr' => exact .cons (hm.trans hm') (ih hr')

/-- A message with a text stays exactly what it is. -/
theorem eq_of_text (h : m.Remains m') {s : String} (hs : m.content = .str s) : m' = m := by
  have hc : m'.content = m.content := by
    rcases h.content with hc | hc
    · exact hc
    · exact absurd hs (hc s)
  obtain ⟨role, content, images, timestamp⟩ := m
  obtain ⟨role', content', images', timestamp'⟩ := m'
  have hr := h.role
  have hi := h.images
  have ht := h.timestamp
  simp only at hr hc hi ht
  rw [hr, hc, hi, ht]

/-- Messages with texts stay exactly what they are. -/
theorem eq_of_texts {h h' : History Json} (hr : List.Forall₂ Message.Remains h h')
    (ht : ∀ m ∈ h, ∃ s, m.content = .str s) : h' = h := by
  induction hr with
  | nil => rfl
  | @cons m m' h h' hm hr ih =>
    obtain ⟨s, hs⟩ := ht m List.mem_cons_self
    rw [hm.eq_of_text hs, ih fun m hmem ↦ ht m (List.mem_cons_of_mem _ hmem)]

end Message.Remains

private theorem View.remains_afterShowing (m : Message Json) (textMode : Bool) :
    m.Remains (afterShowing m textMode) := by
  unfold afterShowing
  split
  · next hc _ => exact ⟨rfl, rfl, rfl, .inr fun s hs ↦ by rw [hc] at hs; cases hs⟩
  · exact .refl m

private theorem forall₂_modify {f : Message Json → Message Json}
    (hf : ∀ m : Message Json, m.Remains (f m)) (h : History Json) (i : Nat) :
    List.Forall₂ Message.Remains h (h.modify i f) := by
  induction h generalizing i with
  | nil =>
    cases i with
    | zero => exact .nil
    | succ i => exact .nil
  | cons m h ih =>
    cases i with
    | zero => exact .cons (hf m) (List.forall₂_same.mpr fun m _ ↦ .refl m)
    | succ i => exact .cons (.refl m) (ih i)

/-- Showing a history leaves its messages what they are. -/
theorem View.remains_historyAfterShowing (h : History Json) (indices : List Int)
    (textMode : Bool) :
    List.Forall₂ Message.Remains h (historyAfterShowing h indices textMode) := by
  unfold historyAfterShowing
  dsimp only
  split
  · exact forall₂_modify (fun m ↦ View.remains_afterShowing m textMode) h _
  · exact List.forall₂_same.mpr fun m _ ↦ .refl m

/-! ### How an entry evolves -/

namespace Persona

variable {p p' : Persona Json} {scope : Scope} {user : String}

/-- One history changes as a relation tells, and the others stay. -/
structure Changes (p p' : Persona Json) (scope : Scope) (user : String)
    (change : History Json → History Json → Prop) : Prop where
  /-- The history changes. -/
  here : change (p.history scope user) (p'.history scope user)
  /-- The others stay. -/
  elsewhere : ∀ other v, ¬ (other = scope ∧ (scope = .personal → v = user)) →
    p'.history other v = p.history other v

/-- Every history either changes so or stays. -/
theorem Changes.here_or_same {change : History Json → History Json → Prop}
    (h : p.Changes p' scope user change) (other : Scope) (v : String) :
    change (p.history other v) (p'.history other v) ∨ p'.history other v = p.history other v := by
  by_cases hsame : other = scope ∧ (scope = .personal → v = user)
  · obtain ⟨rfl, hv⟩ := hsame
    left
    cases other with
    | shared => exact h.here
    | personal =>
      rw [hv rfl]
      exact h.here
  · exact .inr (h.elsewhere other v hsame)

private theorem changes_setHistory (change : History Json → History Json → Prop) {h : History Json}
    (hc : change (p.history scope user) h) :
    p.Changes (p.setHistory scope user h) scope user change where
  here := by rwa [history_setHistory]
  elsewhere := fun other v hne ↦ by rw [history_setHistory_of, if_neg hne]

private theorem changes_bump {change : History Json → History Json → Prop}
    (h : p.Changes p' scope user change) : p.Changes p'.bump scope user change where
  here := by rw [history_bump]; exact h.here
  elsewhere := fun other v hne ↦ by rw [history_bump]; exact h.elsewhere other v hne

private theorem changes_clear : p.Changes (p.clear scope user) scope user fun _ h ↦ h = [] := by
  cases scope with
  | shared =>
    show p.Changes (p.setHistory .shared user []) .shared user fun _ h ↦ h = []
    exact changes_setHistory _ rfl
  | personal =>
    unfold clear
    dsimp only
    split
    · exact changes_setHistory _ rfl
    · next habsent =>
      refine ⟨?_, fun _ _ _ ↦ rfl⟩
      have hnone : Keyed.get? user p.privateHistories = none := by
        simpa [Keyed.has] using habsent
      rw [history, hnone]
      rfl

/-- What the next section of a command, which is at the given stage, may do to the entry at a
position. -/
inductive Evolves (r : Registry Json) (k : Nat) (p p' : Persona Json) : Option Stage → Prop where
  /-- Talk puts what the user says at the end of a history. -/
  | talked {talk : Talk} {api : Api Json} {token : Nat} {m : Message Json}
      (about : r.place? talk.agent = some k) (first : talk.again = false)
      (spoken : talk.prompt ≠ "" ∨ talk.images ≠ []) (role : m.hasRole userRole)
      (content : m.content = .str talk.prompt)
      (changes : p.Changes p' talk.scope talk.user fun h h' ↦ h' = h ++ [m])
      (version : p'.version = p.version + 1) :
      Evolves r k p p' (some (.talk ⟨talk, .occupied api token⟩))
  /-- An answer that is asked for anew is taken back from a history. -/
  | retaken {talk : Talk} {api : Api Json} {token : Nat}
      (about : r.place? talk.agent = some k) (again : talk.again = true)
      (changes : p.Changes p' talk.scope talk.user (·.Retakes talk.prompt))
      (version : p'.version = p.version + 1) :
      Evolves r k p p' (some (.talk ⟨talk, .occupied api token⟩))
  /-- Messages of a history are deleted. -/
  | thinned {e : Edit} {scope : Scope} {indices : List Int} (about : r.place? e.agent = some k)
      (change : e.change = .deleteAt scope indices)
      (changes : p.Changes p' scope e.user (History.Thins indices))
      (version : p'.version = p.version + 1) :
      Evolves r k p p' (some (.edit e))
  /-- A message of a history is edited. -/
  | reworded {e : Edit} {scope : Scope} {index : Int} {indices : List Int} {text : String}
      (about : r.place? e.agent = some k)
      (change : e.change = .editAt scope (index :: indices) text)
      (said : text ≠ "") (changes : p.Changes p' scope e.user (History.Rewords index text))
      (version : p'.version = p.version + 1) :
      Evolves r k p p' (some (.edit e))
  /-- A history is emptied. -/
  | cleared {e : Edit} {scope : Scope} (about : r.place? e.agent = some k)
      (change : e.change = .clear scope) (changes : p.Changes p' scope e.user fun _ h ↦ h = [])
      (version : p'.version = p.version + 1) : Evolves r k p p' (some (.edit e))
  /-- The shared histories of all personas are emptied. -/
  | sharedCleared {e : Edit} (change : e.change = .clearPublic)
      (changes : ∀ user, p.Changes p' .shared user fun _ h ↦ h = [])
      (version : p'.version = p.version + 1) : Evolves r k p p' (some (.edit e))
  /-- All histories of all personas are emptied. -/
  | allCleared {e : Edit} (change : e.change = .clearEverything)
      (empty : ∀ scope user, p'.history scope user = []) (version : p'.version = p.version + 1) :
      Evolves r k p p' (some (.edit e))
  /-- The answers under way are stopped. -/
  | stopped {e : Edit} {scope : Scope} (about : r.place? e.agent = some k)
      (change : e.change = .stop scope)
      (same : ∀ scope user, p'.history scope user = p.history scope user)
      (version : p'.version = p.version + 1) : Evolves r k p p' (some (.edit e))
  /-- An answer comes at the end of a history. -/
  | answered {talk : Talk} {ticket : Ticket} {text : String} {m : Message Json}
      (about : r.place? ticket.persona = some k) (role : m.hasRole assistantRole)
      (content : m.content = .str text)
      (changes : p.Changes p' talk.scope talk.user fun h h' ↦ h' = h ++ [m])
      (version : p'.version = p.version) :
      Evolves r k p p' (some (.talk ⟨talk, .freed ticket (.ok (some text))⟩))
  /-- Showing something takes no lock and changes no text. -/
  | shown {i : Inspection}
      (remains : ∀ scope user,
        List.Forall₂ Message.Remains (p.history scope user) (p'.history scope user))
      (version : p'.version = p.version) : Evolves r k p p' (some (.inspect i))
  /-- Histories and version stay. -/
  | kept {stage : Option Stage} (same : ∀ scope user, p'.history scope user = p.history scope user)
      (version : p'.version = p.version) : Evolves r k p p' stage

/-- An entry may stay as it is in any section. -/
theorem Evolves.refl (r : Registry Json) (k : Nat) (p : Persona Json) (stage : Option Stage) :
    p.Evolves r k p stage := .kept (fun _ _ ↦ rfl) rfl

end Persona

/-- An edit of a persona lets its entry evolve. -/
theorem Edit.Amends.evolves {e : Edit} {r : Registry Json} {k : Nat} {p p' : Persona Json}
    (h : e.Amends r p p') (hd : r.Designates e.target k p) :
    p.Evolves r k p' (some (.edit e)) := by
  have about (ht : e.target = e.agent) : r.place? e.agent = some k := by
    rw [← ht]
    exact hd.place?
  cases h with
  | stopped change =>
    exact .stopped (about (by simp [target, change])) change (p.history_bump · ·) rfl
  | renamed | described | equipped | prompted | updated =>
    exact .kept (fun scope user ↦ by cases scope <;> rfl) rfl
  | reworded change said present =>
    exact .reworded (about (by simp [target, change])) change said
      (Persona.changes_bump (Persona.changes_setHistory _ (History.rewords_setText present)))
      (by simp)
  | thinned change present =>
    exact .thinned (about (by simp [target, change])) change
      (Persona.changes_bump (Persona.changes_setHistory _ (History.thins_without present)))
      (by simp)
  | touched =>
    exact .kept (fun other v ↦ Persona.history_setHistory_history _ _ other _ v) (by simp)
  | cleared change =>
    exact .cleared (about (by simp [target, change])) change
      (Persona.changes_bump Persona.changes_clear) (by simp)

/-- An edit that deletes no persona lets every entry evolve. -/
theorem Edit.Makes.evolves {e : Edit} {now : Int} {r r' : Registry Json} (h : e.Makes now r r')
    (hd : e.change ≠ .delete) :
    Registry.Each (fun k p p' ↦ p.Evolves r k p' (some (.edit e))) none r r' := by
  have hrefl (k : Nat) (p : Persona Json) : p.Evolves r k p (some (.edit e)) := .refl r k p _
  cases h with
  | same => exact Registry.each_of_agents_eq hrefl rfl
  | amended found amends => exact Registry.each_set hrefl found (amends.evolves found)
  | added => exact Registry.each_add hrefl _
  | removed change => exact absurd change hd
  | sharedCleared change =>
    exact Registry.each_map fun k p ↦ .sharedCleared change (fun user ↦ ⟨rfl, fun other v hne ↦ by
      cases other
      · exact absurd ⟨rfl, nofun⟩ hne
      · rfl⟩) rfl
  | allCleared change =>
    exact Registry.each_map fun k p ↦
      .allCleared change (fun scope user ↦ by cases scope <;> rfl) rfl

namespace Task

/-- Every section lets every entry evolve, apart from the one that it deletes. -/
theorem evolves_step (env : Surroundings) (w : World) (t : Task) :
    Registry.Each (fun k p p' ↦ p.Evolves w.registry k p' (some t.stage))
      (t.deletes? w.registry) w.registry (t.step env w).1.registry := by
  have hrefl (k : Nat) (p : Persona Json) : p.Evolves w.registry k p (some t.stage) :=
    .refl _ k p _
  by_cases hdel : ∃ agent user, t.stage = .edit ⟨agent, user, .delete⟩
  · obtain ⟨agent, user, hs⟩ := hdel
    have hstep :
        (t.step env w).1.registry = (Edit.apply ⟨agent, user, .delete⟩ w.now w.registry).1 := by
      rw [step, stepStage, hs]
      exact registry_runEdit env w t _
    rw [hstep, deletes?, hs]
    exact Edit.each_delete (by rw [← hs]; exact hrefl) agent user w.now w.registry
  · have hnone : t.deletes? w.registry = none := by
      unfold deletes?
      split
      · next agent user hs => exact absurd ⟨agent, user, hs⟩ hdel
      · rfl
    rw [hnone]
    have hrewrites := t.rewrites_step env w
    generalize (t.step env w).1.registry = r' at hrewrites ⊢
    cases hrewrites with
    | kept agents_eq => exact Registry.each_of_agents_eq hrefl agents_eq
    | @edited e _ stage makes =>
      rw [stage]
      refine makes.evolves fun hchange ↦ hdel ⟨e.agent, e.user, ?_⟩
      rw [stage, ← hchange]
    | @begun g api token k p h stage phase found next =>
      obtain ⟨talk, _⟩ := g
      cases phase
      refine Registry.each_set hrefl found ?_
      rw [stage]
      rcases Talk.nextHistory_cases next with ⟨hfirst, hspoken, rfl⟩ | ⟨hagain, hretakes⟩
      · exact .talked found.place? hfirst hspoken (by simp [Message.hasRole, Message.ofUser]) rfl
          (Persona.changes_bump (Persona.changes_setHistory _ rfl)) (by simp)
      · exact .retaken found.place? hagain
          (Persona.changes_bump (Persona.changes_setHistory _ hretakes)) (by simp)
    | @completed g ticket content k p stage phase found current =>
      obtain ⟨talk, _⟩ := g
      cases phase
      refine Registry.each_set hrefl found ?_
      rw [stage]
      exact .answered found.place? (by simp [Message.hasRole, Message.ofAssistant]) rfl
        (Persona.changes_setHistory _ rfl) (by simp)
    | described found =>
      exact Registry.each_set hrefl found (.kept (fun scope user ↦ by cases scope <;> rfl) rfl)
    | @shown i agent scope indices k p found stage =>
      refine Registry.each_set hrefl found ?_
      rw [stage]
      refine .shown (fun other v ↦ ?_) (by simp)
      rw [Persona.history_setHistory_of]
      split
      · next hsame =>
        obtain ⟨rfl, hv⟩ := hsame
        cases other
        · exact View.remains_historyAfterShowing _ indices t.textMode
        · rw [hv rfl]
          exact View.remains_historyAfterShowing _ indices t.textMode
      · exact List.forall₂_same.mpr fun m _ ↦ .refl m

end Task

end PersonaChat
