import PersonaChat.Proofs.Json.RoundTrip
import PersonaChat.Proofs.Persona
import PersonaChat.Proofs.Results

/-!
# What is read can be written

The reader goes no deeper than it may, converts no integer that is too long, and gives each key of
an object one value. So what it reads can be written again and is then read back, unless it holds
floating-point numbers, whose notation is not looked at here.

Main statement: `Json.writable_of_read`.
-/

namespace PersonaChat.Json

open Text Number

/-- The value holds no floating-point number. -/
inductive Whole : Json → Prop where
  /-- The null value. -/
  | null : Whole .null
  /-- A truth value. -/
  | bool {b : Bool} : Whole (.bool b)
  /-- An integer. -/
  | int {n : Int} : Whole (.int n)
  /-- A string. -/
  | str {s : String} : Whole (.str s)
  /-- An array of such values. -/
  | arr {items : List Json} (inner : ∀ item ∈ items, Whole item) : Whole (.arr items)
  /-- An object of such values. -/
  | obj {fields : List (String × Json)} (inner : ∀ field ∈ fields, Whole field.2) :
      Whole (.obj fields)

/-- The value can be written as deep as tells, if it holds no floating-point number. -/
def WritableIfWhole (depth : Nat) (j : Json) : Prop := j.Whole → Writable depth j

variable {depth : Nat} {cs rest : List Char} {j : Json}

/-! ### Words and numbers -/

private theorem number?_writable {negative : Bool} (h : number? negative cs = some (j, rest)) :
    WritableIfWhole depth j := by
  intro hw
  unfold number? at h
  dsimp only at h
  split at h
  · cases h
  · split at h
    · obtain ⟨n, hread, heq⟩ := Option.map_eq_some_iff.mp h
      obtain ⟨digits, hdigits, hcast⟩ := Option.bind_eq_some_iff.mp hread
      cases hcast
      cases heq
      have hshort := ofDigits?_lt hdigits
      refine .int ?_
      cases negative
      · exact hshort
      · simpa using hshort
    · obtain ⟨x, -, heq⟩ := Option.map_eq_some_iff.mp h
      cases heq
      cases hw

private theorem scalar?_writable (h : scalar? cs = some (j, rest)) : WritableIfWhole depth j := by
  intro hw
  unfold scalar? at h
  split at h
  · cases h
    exact .null
  · cases h
    exact .bool
  · cases h
    exact .bool
  · split at h
    · cases h
      cases hw
    · cases h
      cases hw
    · cases h
      cases hw
    · split at h
      · exact number?_writable h hw
      · exact number?_writable h hw

/-! ### Arrays and objects -/

/-- With this much fuel only what can be written is read: as a value, as the items of an array, and
as the fields of an object, each key once. -/
structure ReadsWritable (fuel : Nat) : Prop where
  value {depth : Nat} {cs rest : List Char} {j : Json} (h : value fuel depth cs = .ok (j, rest)) :
    WritableIfWhole depth j
  items {depth : Nat} {cs rest : List Char} {js : List Json}
    (h : items fuel depth cs = .ok (js, rest)) : ∀ j ∈ js, WritableIfWhole depth j
  fields {depth : Nat} {before fs : List (String × Json)} {cs rest : List Char}
    (h : fields fuel depth before cs = .ok (fs, rest)) (distinct : (Keyed.keys before).Nodup)
    (inner : ∀ field ∈ before, WritableIfWhole depth field.2) :
    (Keyed.keys fs).Nodup ∧ ∀ field ∈ fs, WritableIfWhole depth field.2

namespace ReadsWritable

variable {fuel : Nat}

private theorem eq_some_of_orMalformed {α : Type} {x : Option α} {a : α}
    (h : orMalformed x = .ok a) :
    x = some a := by
  cases x with
  | none => cases h
  | some b =>
    cases h
    rfl

/-- One more step reads a value that can be written. -/
theorem value_succ (hf : ReadsWritable fuel) (h : Json.value (fuel + 1) depth cs = .ok (j, rest)) :
    WritableIfWhole depth j := by
  unfold Json.value at h
  split at h
  · obtain ⟨_, -, heq⟩ := Option.map_eq_some_iff.mp (eq_some_of_orMalformed h)
    cases heq
    exact fun _ ↦ .str
  · cases h
  · cases h
  · split at h
    · cases h
      exact fun _ ↦ .arr (List.forall_mem_nil _)
    · obtain ⟨⟨js, _⟩, hitems, heq⟩ := map_eq_ok h
      cases heq
      rintro (_ | _ | _ | _ | inner)
      exact .arr fun item hitem ↦ hf.items hitems item hitem (inner item hitem)
  · split at h
    · cases h
      exact fun _ ↦ .obj .nil (List.forall_mem_nil _)
    · obtain ⟨⟨fs, _⟩, hfields, heq⟩ := map_eq_ok h
      cases heq
      obtain ⟨distinct, hinner⟩ := hf.fields hfields .nil (List.forall_mem_nil _)
      rintro (_ | _ | _ | _ | _ | inner)
      exact .obj distinct fun field hfield ↦ hinner field hfield (inner field hfield)
  · exact scalar?_writable (eq_some_of_orMalformed h)

/-- One more step reads items that can be written. -/
theorem items_succ (hf : ReadsWritable fuel) {js : List Json}
    (h : Json.items (fuel + 1) depth cs = .ok (js, rest)) : ∀ j ∈ js, WritableIfWhole depth j := by
  unfold Json.items at h
  obtain ⟨⟨first, _⟩, hfirst, h⟩ := bind_eq_ok h
  dsimp only at h
  split at h
  · cases h
    exact List.forall_mem_singleton.mpr (hf.value hfirst)
  · obtain ⟨⟨others, _⟩, hothers, h⟩ := bind_eq_ok h
    cases h
    exact List.forall_mem_cons.mpr ⟨hf.value hfirst, hf.items hothers⟩
  · cases h

/-- One more step reads fields that can be written, each key once. -/
theorem fields_succ (hf : ReadsWritable fuel) {before fs : List (String × Json)}
    (h : Json.fields (fuel + 1) depth before cs = .ok (fs, rest))
    (distinct : (Keyed.keys before).Nodup)
    (inner : ∀ field ∈ before, WritableIfWhole depth field.2) :
    (Keyed.keys fs).Nodup ∧ ∀ field ∈ fs, WritableIfWhole depth field.2 := by
  unfold Json.fields at h
  dsimp only at h
  split at h
  · obtain ⟨⟨key, _⟩, -, h⟩ := bind_eq_ok h
    dsimp only at h
    split at h
    · obtain ⟨⟨first, _⟩, hfirst, h⟩ := bind_eq_ok h
      have distinct' := Keyed.nodup_keys_put distinct key first
      have inner' : ∀ field ∈ Keyed.put key first before, WritableIfWhole depth field.2 := by
        intro field hfield
        rcases Keyed.mem_put hfield with rfl | hbefore
        · exact hf.value hfirst
        · exact inner field hbefore
      dsimp only at h
      split at h
      · cases h
        exact ⟨distinct', inner'⟩
      · exact hf.fields h distinct' inner'
      · cases h
    · cases h
  · cases h

end ReadsWritable

/-- Whatever the fuel, only what can be written is read. -/
theorem readsWritable (fuel : Nat) : ReadsWritable fuel := by
  -- The three readers call each other with less fuel, so all three are carried along.
  induction fuel with
  | zero => exact ⟨nofun, nofun, nofun⟩
  | succ fuel ih => exact ⟨ih.value_succ, ih.items_succ, ih.fields_succ⟩

/-- A document that was read and holds no floating-point number can be written, no deeper than the
reader goes, and is then read back. -/
theorem writable_of_read {text : String} (h : read text = .ok j) (hw : j.Whole) :
    Writable maxDepth j := by
  obtain ⟨⟨found, _⟩, hvalue, h⟩ := bind_eq_ok h
  dsimp only at h
  split at h
  · cases h
    exact (readsWritable _).value hvalue hw
  · cases h

end PersonaChat.Json
