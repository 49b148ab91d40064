/-!
# Insertion-ordered maps

A map is the list of its entries in the order in which their keys were first inserted. Setting a
key that is present changes its value in place, a fresh key comes last, and an erased key leaves no
trace of its place.
-/

namespace PersonaChat

universe u v

/-- A map as the list of its entries. -/
abbrev Keyed (κ : Type u) (α : Type v) := List (κ × α)

namespace Keyed

variable {κ : Type u} {α : Type v} [DecidableEq κ]

/-- The value of a key. -/
def get? (k : κ) : Keyed κ α → Option α
  | [] => none
  | (key, value) :: r => if key = k then some value else get? k r

/-- Whether a key is present. -/
def has (k : κ) (m : Keyed κ α) : Bool := (get? k m).isSome

/-- Set a key: a present one keeps its place, a fresh one comes last. -/
def put (k : κ) (a : α) : Keyed κ α → Keyed κ α
  | [] => [(k, a)]
  | (key, value) :: r => if key = k then (key, a) :: r else (key, value) :: put k a r

/-- Remove a key. -/
def erase (k : κ) (m : Keyed κ α) : Keyed κ α := m.filter fun entry ↦ entry.1 ≠ k

/-- The keys in order. -/
def keys (m : Keyed κ α) : List κ := m.map Prod.fst

/-- Setting a key gives it the new value. -/
@[simp] theorem get?_put_self (k : κ) (a : α) (m : Keyed κ α) : get? k (put k a m) = some a := by
  induction m with
  | nil => simp [put, get?]
  | cons entry r ih =>
    simp only [put]
    split
    · next h => simp [get?, h]
    · next h => simp [get?, h, ih]

/-- Setting a key leaves the others alone. -/
theorem get?_put_of_ne {k l : κ} (h : l ≠ k) (a : α) (m : Keyed κ α) :
    get? l (put k a m) = get? l m := by
  induction m with
  | nil => simp [put, get?, Ne.symm h]
  | cons entry r ih =>
    simp only [put]
    split
    · next hk => subst hk; simp [get?, Ne.symm h]
    · next hk => simp [get?, ih]

/-- An erased key has no value. -/
@[simp] theorem get?_erase_self (k : κ) (m : Keyed κ α) : get? k (erase k m) = none := by
  induction m with
  | nil => rfl
  | cons entry r ih =>
    by_cases h : entry.1 = k
    · simpa [erase, h] using ih
    · simpa [erase, get?, h] using ih

/-- Erasing a key leaves the others alone. -/
theorem get?_erase_of_ne {k l : κ} (h : l ≠ k) (m : Keyed κ α) :
    get? l (erase k m) = get? l m := by
  induction m with
  | nil => rfl
  | cons entry r ih =>
    by_cases hk : entry.1 = k
    · have hl : entry.1 ≠ l := fun e ↦ h (e.symm.trans hk)
      simpa [erase, get?, hk, Ne.symm h] using ih
    · by_cases hl : entry.1 = l
      · simp [erase, get?, hl, h]
      · simpa [erase, get?, hk, hl] using ih

end Keyed
end PersonaChat
