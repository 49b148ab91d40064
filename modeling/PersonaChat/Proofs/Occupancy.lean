import PersonaChat.Occupancy

/-!
# Laws of busy conversations

Conversations are kept busy under keys: a persona for its shared history, a persona and a user for
a private one. Every operation is described by what it does to the holder of each key. The map of
the private histories never holds a persona without busy users, so an occupancy in which nobody
holds anything is empty.

Spec guidance: `SPEC_FULL.md`, lines 45–46 and 121–128.
-/

namespace PersonaChat

namespace Conversation

/-- What a conversation is kept busy under; the user counts for the private histories only. -/
def key (c : Conversation) : String × Option String :=
  match c.scope with
  | .shared => (c.agent, none)
  | .personal => (c.agent, some c.user)

/-- Conversations of one key have one scope. -/
theorem scope_eq_of_key_eq {c d : Conversation} (h : c.key = d.key) : c.scope = d.scope := by
  cases hc : c.scope <;> cases hd : d.scope <;> simp_all [key]

/-- Conversations of one key are with one persona. -/
theorem agent_eq_of_key_eq {c d : Conversation} (h : c.key = d.key) : c.agent = d.agent := by
  cases hc : c.scope <;> cases hd : d.scope <;> simp_all [key]

end Conversation

namespace Occupancy

variable (o : Occupancy) (c d : Conversation) (token : Nat)

/-- No persona without busy users is kept. -/
def WF : Prop := ∀ entry ∈ o.personal, entry.2 ≠ []

/-! ### Who holds what -/

/-- The holder is the holder of the key. -/
theorem holder?_congr {c d : Conversation} (h : c.key = d.key) : o.holder? c = o.holder? d := by
  have hs := Conversation.scope_eq_of_key_eq h
  have ha := Conversation.agent_eq_of_key_eq h
  cases hd : d.scope with
  | shared => simp [holder?, hs, hd, ha]
  | personal =>
    have hu : c.user = d.user := by simpa [Conversation.key, hs, hd, ha] using h
    simp [holder?, hs, hd, ha, hu]

/-- Nobody holds anything at the beginning. -/
@[simp] theorem holder?_empty : empty.holder? c = none := by
  cases hc : c.scope <;> simp [holder?, hc, empty, users, Keyed.get?]

private theorem users_put_self (a : String) (us : Keyed String Nat) :
    Occupancy.users { o with personal := Keyed.put a us o.personal } a = us := by
  simp [users]

private theorem users_put_of_ne {a b : String} (h : b ≠ a) (us : Keyed String Nat) :
    Occupancy.users { o with personal := Keyed.put a us o.personal } b = o.users b := by
  simp [users, Keyed.get?_put_of_ne h]

private theorem users_erase_self (a : String) :
    Occupancy.users { o with personal := Keyed.erase a o.personal } a = [] := by
  simp [users]

private theorem users_erase_of_ne {a b : String} (h : b ≠ a) :
    Occupancy.users { o with personal := Keyed.erase a o.personal } b = o.users b := by
  simp [users, Keyed.get?_erase_of_ne h]

/-- Holding a conversation changes the holder of its key only. -/
theorem holder?_hold :
    (o.hold c token).holder? d = if c.key = d.key then some token else o.holder? d := by
  cases hc : c.scope <;> cases hd : d.scope
  · by_cases ha : d.agent = c.agent
    · simp [holder?, hold, Conversation.key, hc, hd, ha]
    · simp [holder?, hold, Conversation.key, hc, hd, Keyed.get?_put_of_ne ha, Ne.symm ha]
  · simp [holder?, hold, Conversation.key, hc, hd, users]
  · simp [holder?, hold, Conversation.key, hc, hd]
  · by_cases ha : d.agent = c.agent
    · by_cases hu : d.user = c.user
      · simp [holder?, hold, Conversation.key, hc, hd, ha, hu, users_put_self]
      · simp [holder?, hold, Conversation.key, hc, hd, ha, users_put_self,
          Keyed.get?_put_of_ne hu, Ne.symm hu]
    · simp [holder?, hold, Conversation.key, hc, hd, users_put_of_ne o ha, Ne.symm ha]

/-- Freeing a conversation leaves its key without a holder and every other key alone. -/
theorem holder?_free :
    (o.free c).holder? d = if c.key = d.key then none else o.holder? d := by
  cases hc : c.scope <;> cases hd : d.scope
  · by_cases ha : d.agent = c.agent
    · simp [holder?, free, Conversation.key, hc, hd, ha]
    · simp [holder?, free, Conversation.key, hc, hd, Keyed.get?_erase_of_ne ha, Ne.symm ha]
  · simp [holder?, free, Conversation.key, hc, hd, users]
  · simp only [holder?, free, Conversation.key, hc, hd]
    split <;> simp
  · by_cases ha : d.agent = c.agent
    · -- The other users of the persona keep their holders also when the persona is forgotten: then
      -- there are none.
      have hrest (u : String) (hu : u ≠ c.user) :
          Keyed.get? u (Keyed.erase c.user (o.users c.agent)) = Keyed.get? u (o.users c.agent) :=
        Keyed.get?_erase_of_ne hu _
      simp only [holder?, free, Conversation.key, hc, hd, ha]
      split
      · next he =>
        have he := List.isEmpty_iff.mp he
        rw [users_erase_self]
        by_cases hu : d.user = c.user
        · simp [hu, Keyed.get?]
        · have := hrest d.user hu
          rw [he] at this
          simp [Ne.symm hu, Keyed.get?, ← this]
      · rw [users_put_self]
        by_cases hu : d.user = c.user
        · simp [hu]
        · simp [hrest d.user hu, Ne.symm hu]
    · simp only [holder?, free, Conversation.key, hc, hd]
      split
      · simp [users_erase_of_ne o ha, Ne.symm ha]
      · simp [users_put_of_ne o ha, Ne.symm ha]

/-- A busy conversation is not given out again. -/
theorem start_of_busy {o : Occupancy} {c : Conversation} {holder : Nat}
    (h : o.holder? c = some holder) : o.start c = (o, none) := by
  simp [start, isBusy, h]

/-- A free conversation is given out under the next token. -/
theorem start_of_free {o : Occupancy} {c : Conversation} (h : o.holder? c = none) :
    o.start c = ({ o.hold c o.next with next := o.next + 1 }, some o.next) := by
  simp [start, isBusy, h]

/-- Making a conversation busy changes the holder of its key only. -/
theorem holder?_start :
    (o.start c).1.holder? d =
      if c.key = d.key ∧ o.holder? c = none then some o.next else o.holder? d := by
  cases h : o.holder? c with
  | some holder => simp [start_of_busy h]
  | none =>
    rw [start_of_free h]
    simpa [holder?, users] using holder?_hold o c d o.next

/-- Freeing takes the key from the holder that is named, or from any holder when none is named. -/
theorem holder?_finish (token : Option Nat) :
    (o.finish c token).holder? d =
      if c.key = d.key ∧ ∀ t ∈ token, o.holder? d = some t then none else o.holder? d := by
  by_cases hk : c.key = d.key
  · have hd := o.holder?_congr hk
    cases hc : o.holder? c with
    | none => simp [finish, hc, ← hd]
    | some holder =>
      cases token with
      | none => simp [finish, hc, holder?_free, hk]
      | some t =>
        by_cases ht : holder = t
        · simp [finish, hc, holder?_free, hk, ← hd, ht]
        · simp [finish, hc, hk, ← hd, ht]
  · cases hc : o.holder? c with
    | none => simp [finish, hc, hk]
    | some holder =>
      cases token with
      | none => simp [finish, hc, holder?_free, hk]
      | some t =>
        by_cases ht : holder = t
        · simp [finish, hc, holder?_free, hk, ht]
        · simp [finish, hc, hk, ht]

/-- Freeing all shared histories leaves the private ones alone. -/
theorem holder?_clearShared :
    o.clearShared.holder? d = if d.scope = .shared then none else o.holder? d := by
  cases hd : d.scope <;> simp [holder?, clearShared, hd, Keyed.get?, users]

/-- Freeing everything leaves no holder. -/
@[simp] theorem holder?_clearAll : o.clearAll.holder? d = none := by
  cases hd : d.scope <;> simp [holder?, clearAll, hd, Keyed.get?, users]

/-! ### Tokens to come -/

/-- A token is given out once. -/
theorem next_start :
    (o.start c).1.next = if o.holder? c = none then o.next + 1 else o.next := by
  cases h : o.holder? c with
  | some holder => simp [start_of_busy h]
  | none => simp [start_of_free h]

/-- Freeing gives out no token. -/
@[simp] theorem next_finish (token : Option Nat) : (o.finish c token).next = o.next := by
  have hf : (o.free c).next = o.next := by
    unfold free
    split
    · rfl
    · dsimp only
      split <;> rfl
  unfold finish
  split
  · rfl
  · exact hf
  · split
    · exact hf
    · rfl

/-! ### No persona without busy users -/

private theorem ne_nil_of_mem_put {a : String} {us : Keyed String Nat} (hus : us ≠ [])
    {m : Keyed String (Keyed String Nat)} (hm : ∀ entry ∈ m, entry.2 ≠ []) :
    ∀ entry ∈ Keyed.put a us m, entry.2 ≠ [] := by
  induction m with
  | nil => simpa [Keyed.put] using hus
  | cons e m ih =>
    obtain ⟨he, hm⟩ := List.forall_mem_cons.mp hm
    simp only [Keyed.put]
    split
    · exact List.forall_mem_cons.mpr ⟨hus, hm⟩
    · exact List.forall_mem_cons.mpr ⟨he, ih hm⟩

private theorem ne_nil_of_mem_erase {a : String} {m : Keyed String (Keyed String Nat)}
    (hm : ∀ entry ∈ m, entry.2 ≠ []) : ∀ entry ∈ Keyed.erase a m, entry.2 ≠ [] :=
  fun entry he ↦ hm entry (List.mem_filter.mp he).1

private theorem put_ne_nil (u : String) (us : Keyed String Nat) : Keyed.put u token us ≠ [] := by
  intro h
  have := Keyed.get?_put_self u token us
  simp [h, Keyed.get?] at this

/-- Nothing busy is well formed. -/
theorem wf_empty : empty.WF := by simp [WF, empty]

variable {o}

private theorem WF.hold (h : o.WF) : (o.hold c token).WF := by
  unfold Occupancy.hold
  split
  · exact h
  · exact ne_nil_of_mem_put (put_ne_nil _ _ _) h

private theorem WF.free (h : o.WF) : (o.free c).WF := by
  unfold Occupancy.free
  split
  · exact h
  · dsimp only
    split
    · exact ne_nil_of_mem_erase h
    · next hus => exact ne_nil_of_mem_put (fun he ↦ hus (List.isEmpty_iff.mpr he)) h

/-- A start keeps busy conversations well formed. -/
theorem WF.start (h : o.WF) : (o.start c).1.WF := by
  unfold Occupancy.start
  split
  · exact h
  · exact h.hold c o.next

/-- An end keeps them well formed. -/
theorem WF.finish (h : o.WF) (token : Option Nat) : (o.finish c token).WF := by
  unfold Occupancy.finish
  split
  · exact h
  · exact h.free c
  · split
    · exact h.free c
    · exact h

/-- Freeing the shared conversations keeps them well formed. -/
theorem WF.clearShared (h : o.WF) : o.clearShared.WF := h

/-- Freeing all conversations leaves them well formed. -/
theorem wf_clearAll : o.clearAll.WF := by simp [WF, clearAll]

/-- Where nobody holds anything both maps are empty. -/
theorem WF.eq_nil_of_holder?_eq_none (h : o.WF) (hn : ∀ c, o.holder? c = none) :
    o.shared = [] ∧ o.personal = [] := by
  constructor
  · cases hs : o.shared with
    | nil => rfl
    | cons e rest =>
      have := hn ⟨e.1, .shared, ""⟩
      simp [holder?, hs, Keyed.get?] at this
  · cases hp : o.personal with
    | nil => rfl
    | cons e rest =>
      cases hu : e.2 with
      | nil => exact absurd hu (h e (by simp [hp]))
      | cons u us =>
        have := hn ⟨e.1, .personal, u.1⟩
        simp [holder?, users, hp, hu, Keyed.get?] at this

end Occupancy
end PersonaChat
