import Mathlib.Control.Monad.Basic
import Mathlib.Data.List.Forall2

/-!
# Results of steps and of traversals

A step may fail, and a sequence or a traversal of steps fails with the first that does. From a
result of the whole follow results of the parts, and from results of the parts one of the whole.
-/

namespace PersonaChat

variable {ε α β γ : Type}

/-! ### Sequences -/

/-- Where a sequence of two steps has a result, each of them has. -/
theorem bind_eq_ok {x : Except ε α} {f : α → Except ε β} {b : β} (h : x >>= f = .ok b) :
    ∃ a, x = .ok a ∧ f a = .ok b := by
  cases x with
  | error _ => cases h
  | ok a => exact ⟨a, rfl, h⟩

/-- Where a step whose result is changed has a result, so has the step. -/
theorem map_eq_ok {x : Except ε α} {f : α → β} {b : β} (h : x.map f = .ok b) :
    ∃ a, x = .ok a ∧ f a = b := by
  cases x with
  | error _ => cases h
  | ok a => exact ⟨a, rfl, Except.ok.inj h⟩

/-- Where a step has a result of some kind, and what follows has one for those of the kind, both
together have one. -/
theorem exists_bind_eq_ok_forall {x : Except ε α} {f : α → Except ε β} {P : α → Prop}
    (hx : ∃ a, x = .ok a ∧ P a) (hf : ∀ a, P a → ∃ b, f a = .ok b) : ∃ b, (x >>= f) = .ok b := by
  obtain ⟨a, rfl, ha⟩ := hx
  exact hf a ha

/-- Where a step has a result, and so has what follows, both together have one. -/
theorem exists_bind_eq_ok {x : Except ε α} {f : α → Except ε β} (hx : ∃ a, x = .ok a)
    (hf : ∀ a, ∃ b, f a = .ok b) : ∃ b, (x >>= f) = .ok b := by
  obtain ⟨a, rfl⟩ := hx
  exact hf a

/-! ### Traversals -/

/-- Where the traversal of a list has a result, so have its first element and the rest. -/
theorem mapM_cons_ok {f : α → Except ε β} {x : α} {xs : List α} {ys : List β}
    (h : (x :: xs).mapM f = .ok ys) :
    ∃ y rest, f x = .ok y ∧ xs.mapM f = .ok rest ∧ ys = y :: rest := by
  rw [List.mapM_cons] at h
  obtain ⟨y, hy, h⟩ := bind_eq_ok h
  obtain ⟨rest, hrest, h⟩ := bind_eq_ok h
  cases h
  exact ⟨y, rest, hy, hrest, rfl⟩

/-- A traversal has one result for each element, in their order. -/
theorem getElem?_of_mapM_eq_ok {f : α → Except ε β} {xs : List α} {ys : List β}
    (h : xs.mapM f = .ok ys) : ys.length = xs.length ∧
      ∀ (i : Nat) x, xs[i]? = some x → ∃ y, ys[i]? = some y ∧ f x = .ok y := by
  induction xs generalizing ys with
  | nil =>
    cases h
    exact ⟨rfl, fun i x hi ↦ by simp at hi⟩
  | cons first xs ih =>
    obtain ⟨y, rest, hfirst, hrest, rfl⟩ := mapM_cons_ok h
    obtain ⟨hlength, heach⟩ := ih hrest
    refine ⟨congrArg (· + 1) hlength, fun i x hi ↦ ?_⟩
    cases i with
    | zero =>
      cases hi
      exact ⟨y, rfl, hfirst⟩
    | succ i => exact heach i x hi

/-- What relates each element to its result relates a list to the results of its traversal. -/
theorem forall₂_of_mapM_eq_ok {f : α → Except ε β} {R : α → β → Prop}
    (hf : ∀ x y, f x = .ok y → R x y) {xs : List α} {ys : List β} (h : xs.mapM f = .ok ys) :
    List.Forall₂ R xs ys := by
  induction xs generalizing ys with
  | nil =>
    cases h
    exact .nil
  | cons x xs ih =>
    obtain ⟨y, rest, hx, hrest, rfl⟩ := mapM_cons_ok h
    exact .cons (hf x y hx) (ih hrest)

/-- Every result of a traversal is that of one of the elements. -/
theorem exists_mem_of_mapM_eq_ok {f : α → Except ε β} {xs : List α} {ys : List β}
    (h : xs.mapM f = .ok ys) : ∀ y ∈ ys, ∃ x ∈ xs, f x = .ok y := by
  induction xs generalizing ys with
  | nil =>
    cases h
    exact nofun
  | cons first xs ih =>
    obtain ⟨y, rest, hfirst, hrest, rfl⟩ := mapM_cons_ok h
    refine List.forall_mem_cons.mpr ⟨⟨first, List.mem_cons_self, hfirst⟩, fun z hz ↦ ?_⟩
    obtain ⟨x, hx, hfx⟩ := ih hrest z hz
    exact ⟨x, List.mem_cons_of_mem _ hx, hfx⟩

/-- What a step copies into its results, a traversal copies in order. -/
theorem map_eq_map_of_mapM_eq_ok {f : α → Except ε β} {g : β → γ} {g' : α → γ}
    (hg : ∀ x y, f x = .ok y → g y = g' x) {xs : List α} {ys : List β} (h : xs.mapM f = .ok ys) :
    ys.map g = xs.map g' := by
  induction xs generalizing ys with
  | nil =>
    cases h
    rfl
  | cons x xs ih =>
    obtain ⟨y, rest, hy, hrest, rfl⟩ := mapM_cons_ok h
    rw [List.map_cons, List.map_cons, hg x y hy, ih hrest]

/-- Where a step has a result of some kind for each element, so has the traversal of the list. -/
theorem exists_mapM_eq_ok_forall {f : α → Except ε β} {P : β → Prop} {xs : List α}
    (h : ∀ x ∈ xs, ∃ y, f x = .ok y ∧ P y) : ∃ ys, xs.mapM f = .ok ys ∧ ∀ y ∈ ys, P y := by
  induction xs with
  | nil => exact ⟨[], rfl, nofun⟩
  | cons x xs ih =>
    obtain ⟨⟨y, hy, hP⟩, hxs⟩ := List.forall_mem_cons.mp h
    obtain ⟨ys, hys, hPs⟩ := ih hxs
    exact ⟨y :: ys, by rw [List.mapM_cons, hy, hys]; rfl, List.forall_mem_cons.mpr ⟨hP, hPs⟩⟩

/-- Where a step has a result for each element, so has the traversal of the list. -/
theorem exists_mapM_eq_ok {f : α → Except ε β} {xs : List α} (h : ∀ x ∈ xs, ∃ y, f x = .ok y) :
    ∃ ys, xs.mapM f = .ok ys := by
  obtain ⟨ys, hys, -⟩ := exists_mapM_eq_ok_forall (P := fun _ ↦ True) fun x hx ↦
    (h x hx).imp fun _ hy ↦ ⟨hy, trivial⟩
  exact ⟨ys, hys⟩

/-- Where a step undoes a change of each element, the traversal undoes that of the list. -/
theorem mapM_map_self {f : β → Except ε α} {g : α → β} {xs : List α}
    (hxs : ∀ x ∈ xs, f (g x) = .ok x) : (xs.map g).mapM f = .ok xs := by
  induction xs with
  | nil => rfl
  | cons x xs ih =>
    have hrest := ih fun y hy ↦ hxs y (List.mem_cons_of_mem x hy)
    rw [List.map_cons, List.mapM_cons, hxs x List.mem_cons_self, hrest]
    rfl

/-- Where a step commutes with a change of its arguments, so does the traversal of a list. -/
theorem mapM_changed {g : α → Except ε β} (a : α → α) (b : β → β)
    (h : ∀ x, g (a x) = (g x).map b) (xs : List α) :
    (xs.map a).mapM g = (xs.mapM g).map (List.map b) := by
  induction xs with
  | nil => rfl
  | cons x xs ih =>
    rw [List.map_cons, List.mapM_cons, List.mapM_cons, h, ih]
    cases g x with
    | error e => rfl
    | ok y =>
      cases xs.mapM g with
      | error e => rfl
      | ok ys => rfl

end PersonaChat
