import PersonaChat.Proofs.Occupancy

/-!
# Tokens over the life of the busy conversations

Whatever is started, finished and cleared, in any order, with tokens that are stale or given back
twice: tokens only grow, two keys are never held by one token, and no persona is kept without busy
users. One operation keeps these facts, so every sequence of operations does.

Spec guidance: `SPEC_FULL.md`, lines 121–128.
-/

namespace PersonaChat
namespace Occupancy

/-! ### Sequences of operations -/

/-- An operation on the busy conversations. -/
inductive Op where
  /-- Make a conversation busy. -/
  | start (c : Conversation)
  /-- Free a conversation, with a token or without one. -/
  | finish (c : Conversation) (token : Option Nat)
  /-- Free all shared histories. -/
  | clearShared
  /-- Free all histories. -/
  | clearAll
  deriving DecidableEq, Repr

/-- Carry out an operation: what is busy afterwards, and the token it gave out. -/
def perform (o : Occupancy) : Op → Occupancy × Option Nat
  | .start c => o.start c
  | .finish c token => (o.finish c token, none)
  | .clearShared => (o.clearShared, none)
  | .clearAll => (o.clearAll, none)

/-- Carry out an operation and note the token it gave out behind the earlier ones. -/
def advance (past : Occupancy × List Nat) (op : Op) : Occupancy × List Nat :=
  ((past.1.perform op).1, past.2 ++ (past.1.perform op).2.toList)

/-- What is busy after some operations, and the tokens they gave out, in order. -/
def after (ops : List Op) : Occupancy × List Nat := ops.foldl advance (empty, [])

/-! ### What every operation keeps -/

/-- The tokens given out so far, and how they are held. -/
structure Issued (o : Occupancy) (given : List Nat) : Prop where
  /-- Every token is larger than the earlier ones. -/
  increasing : given.Pairwise (· < ·)
  /-- The next token is larger than all of them. -/
  below : ∀ t ∈ given, t < o.next
  /-- What is held was given out. -/
  held : ∀ c t, o.holder? c = some t → t ∈ given
  /-- One token holds one key. -/
  apart : ∀ c d t, o.holder? c = some t → o.holder? d = some t → c.key = d.key
  /-- No persona is kept without busy users. -/
  wf : o.WF

variable {o : Occupancy} {given : List Nat}

private theorem issued_empty : Issued empty [] where
  increasing := .nil
  below := by simp
  held := by simp
  apart := by simp
  wf := wf_empty

/-- Operations that free some keys and give out no token keep what was issued. -/
private theorem Issued.of_freed {o' : Occupancy} (h : Issued o given) (hnext : o'.next = o.next)
    (hfree : ∀ c t, o'.holder? c = some t → o.holder? c = some t) (hwf : o'.WF) :
    Issued o' given where
  increasing := h.increasing
  below := hnext ▸ h.below
  held c t hc := h.held c t (hfree c t hc)
  apart c d t hc hd := h.apart c d t (hfree c t hc) (hfree d t hd)
  wf := hwf

private theorem Issued.finish (h : Issued o given) (c : Conversation) (token : Option Nat) :
    Issued (o.finish c token) given := by
  refine h.of_freed (next_finish o c token) (fun d t hd ↦ ?_) (h.wf.finish c token)
  rw [holder?_finish] at hd
  split at hd
  · cases hd
  · exact hd

private theorem Issued.clearShared (h : Issued o given) : Issued o.clearShared given := by
  refine h.of_freed rfl (fun d t hd ↦ ?_) h.wf.clearShared
  rw [holder?_clearShared] at hd
  split at hd
  · cases hd
  · exact hd

private theorem Issued.clearAll (h : Issued o given) : Issued o.clearAll given :=
  h.of_freed rfl (fun d t hd ↦ by simp at hd) wf_clearAll

/-- Whatever holds a key after a free conversation was made busy is the new token, which holds that
key only, or was there before. -/
private theorem holder?_start_of_free {c : Conversation} (hfree : o.holder? c = none)
    {d : Conversation} {t : Nat} (hd : (o.start c).1.holder? d = some t) :
    c.key = d.key ∧ t = o.next ∨ c.key ≠ d.key ∧ o.holder? d = some t := by
  rw [holder?_start] at hd
  by_cases hk : c.key = d.key
  · rw [if_pos ⟨hk, hfree⟩] at hd
    exact .inl ⟨hk, (Option.some.inj hd).symm⟩
  · rw [if_neg fun e ↦ hk e.1] at hd
    exact .inr ⟨hk, hd⟩

private theorem Issued.start (h : Issued o given) (c : Conversation) :
    Issued (o.start c).1 (given ++ (o.start c).2.toList) := by
  cases hc : o.holder? c with
  | some holder => simpa [start_of_busy hc] using h
  | none =>
    have hgiven : (o.start c).2.toList = [o.next] := by simp [start_of_free hc]
    have hnext : (o.start c).1.next = o.next + 1 := by simp [start_of_free hc]
    -- The next token is larger than all that were given out, so it is held by nobody yet.
    have hfresh (d : Conversation) : o.holder? d ≠ some o.next := fun hd ↦
      Nat.lt_irrefl _ (h.below _ (h.held d _ hd))
    rw [hgiven]
    refine ⟨?_, ?_, ?_, ?_, h.wf.start c⟩
    · refine List.pairwise_append.mpr ⟨h.increasing, List.pairwise_singleton _ _, ?_⟩
      intro t ht u hu
      rw [List.mem_singleton.mp hu]
      exact h.below t ht
    · intro t ht
      rw [hnext]
      rcases List.mem_append.mp ht with ht | ht
      · exact Nat.lt_succ_of_lt (h.below t ht)
      · rw [List.mem_singleton.mp ht]
        exact Nat.lt_succ_self _
    · intro d t hd
      rcases holder?_start_of_free hc hd with ⟨-, rfl⟩ | ⟨-, hd⟩
      · exact List.mem_append_right _ List.mem_cons_self
      · exact List.mem_append_left _ (h.held d t hd)
    · intro d e t hd he
      rcases holder?_start_of_free hc hd with ⟨hkd, rfl⟩ | ⟨-, hd⟩ <;>
        rcases holder?_start_of_free hc he with ⟨hke, hte⟩ | ⟨-, he⟩
      · exact hkd.symm.trans hke
      · exact absurd he (hfresh e)
      · exact absurd (hte ▸ hd) (hfresh d)
      · exact h.apart d e t hd he

/-- One operation keeps what was issued, with the token it gives out. -/
theorem Issued.advance {past : Occupancy × List Nat} (h : Issued past.1 past.2) (op : Op) :
    Issued (advance past op).1 (advance past op).2 := by
  cases op with
  | start c => exact h.start c
  | finish c token => simpa [Occupancy.advance, perform] using h.finish c token
  | clearShared => simpa [Occupancy.advance, perform] using h.clearShared
  | clearAll => simpa [Occupancy.advance, perform] using h.clearAll

/-- Every sequence of operations keeps what was issued. -/
theorem issued_after (ops : List Op) : Issued (after ops).1 (after ops).2 :=
  List.foldlRecOn (motive := fun past ↦ Issued past.1 past.2) ops Occupancy.advance issued_empty
    fun _ h op _ ↦ Issued.advance h op

/-! ### The laws -/

/-- What each operation does to the busy conversations, once the tokens `given` are given out. -/
structure Lawful (o : Occupancy) (given : List Nat) : Prop where
  /-- A busy conversation is not made busy again, and nothing changes. -/
  start_none : ∀ c, (o.start c).2 = none ↔ o.isBusy c = true
  start_busy : ∀ c, o.isBusy c = true → (o.start c).1 = o
  /-- A free one gets a token larger than all earlier ones, which holds its key and no other. -/
  start_free : ∀ c, o.isBusy c = false → ∃ t, (o.start c).2 = some t ∧ (∀ g ∈ given, g < t) ∧
    ∀ d, (o.start c).1.holder? d = if d.key = c.key then some t else o.holder? d
  /-- A token frees what it holds. -/
  finish_held : ∀ c t, o.holder? c = some t → (o.finish c (some t)).isBusy c = false
  /-- It changes nothing where it does not hold. -/
  finish_stale : ∀ c t, o.holder? c ≠ some t → o.finish c (some t) = o
  /-- Without a token a conversation is free in any case. -/
  finish_anyway : ∀ c, (o.finish c none).isBusy c = false
  /-- Finishing is about one key. -/
  finish_elsewhere : ∀ c token d, d.key ≠ c.key → (o.finish c token).holder? d = o.holder? d
  /-- Clearing what is shared frees exactly that. -/
  clearShared : ∀ d, o.clearShared.holder? d = if d.scope = .shared then none else o.holder? d
  /-- Clearing all frees all. -/
  clearAll : ∀ d, o.clearAll.isBusy d = false

private theorem finish_of_ne {c : Conversation} {t : Nat} (h : o.holder? c ≠ some t) :
    o.finish c (some t) = o := by
  cases hc : o.holder? c with
  | none => simp [Occupancy.finish, hc]
  | some holder =>
    have hne : holder ≠ t := fun e ↦ h (hc.trans (congrArg some e))
    simp [Occupancy.finish, hc, hne]

private theorem isBusy_finish {c : Conversation} {token : Option Nat}
    (h : ∀ t ∈ token, o.holder? c = some t) : (o.finish c token).isBusy c = false := by
  rw [isBusy, holder?_finish, if_pos ⟨rfl, h⟩]
  rfl

/-- The laws hold wherever the next token is larger than those that were given out. -/
theorem lawful_of_below (h : ∀ t ∈ given, t < o.next) : Lawful o given where
  start_none c := by
    cases hb : o.isBusy c <;> simp [Occupancy.start, hb]
  start_busy c hb := by simp [Occupancy.start, hb]
  start_free c hb := by
    have hc : o.holder? c = none := by simpa [isBusy] using hb
    refine ⟨o.next, by simp [start_of_free hc], h, fun d ↦ ?_⟩
    simp [holder?_start, hc, eq_comm (a := c.key)]
  finish_held c t hc := isBusy_finish fun u hu ↦ by simp_all
  finish_stale c t hc := finish_of_ne hc
  finish_anyway c := isBusy_finish (by simp)
  finish_elsewhere c token d hd := by
    rw [holder?_finish, if_neg fun e ↦ hd e.1.symm]
  clearShared := holder?_clearShared o
  clearAll d := by simp [isBusy]

/-- After every sequence of operations: each token given out is larger than those before it, what
is held was given out, different keys are held by different tokens, no persona is kept without busy
users, and the next operation follows the laws. -/
theorem tokens_lawful (ops : List Op) :
    (after ops).2.Pairwise (· < ·) ∧
    (∀ c t, (after ops).1.holder? c = some t → t ∈ (after ops).2) ∧
    (∀ c d t, (after ops).1.holder? c = some t → (after ops).1.holder? d = some t →
      c.key = d.key) ∧
    (∀ entry ∈ (after ops).1.personal, entry.2 ≠ []) ∧
    Lawful (after ops).1 (after ops).2 := by
  have h := issued_after ops
  exact ⟨h.increasing, h.held, h.apart, h.wf, lawful_of_below h.below⟩

/-- A stale token frees nothing: the conversation was cleared and is held anew. -/
example :
    let c : Conversation := ⟨"a", .personal, "u"⟩
    (after [.start c, .clearAll, .start c, .finish c (some 1)]).1.holder? c = some 2 := by decide

end Occupancy
end PersonaChat
