import Mathlib.Data.List.InsertIdx
import Mathlib.Data.List.Nodup
import PersonaChat.Proofs.Registry.Edits
import PersonaChat.Proofs.Results

/-!
# Names that are told apart

The names of a registry are told apart when each of them is acceptable and no two of them have the
same lower case. Three edits bring new names in, and each compares with the present names in its
own way: a creation looks for the name, a copy compares with all names, and a rename compares with
the names that differ from the present one by more than case. All of them keep the names apart. In
such a registry every spelling of a name designates the one persona that has it.

Spec guidance: `SPEC_FULL.md`, lines 48–49 and 113–114.
-/

namespace PersonaChat

open Text

namespace Name

/-- Every name is acceptable, and no two have the same lower case. -/
structure Apart (names : List String) : Prop where
  /-- Every name is acceptable. -/
  valid : ∀ name ∈ names, isValid name = true
  /-- No two have the same lower case. -/
  nodup : (names.map lowerString).Nodup

namespace Apart

variable {names names' : List String} {name : String}

/-- Some of the names that are told apart are told apart. -/
theorem sublist (h : Apart names) (hs : names'.Sublist names) : Apart names' where
  valid := fun name hn ↦ h.valid name (hs.subset hn)
  nodup := h.nodup.sublist (hs.map lowerString)

private theorem append (h : Apart names) (hv : isValid name = true)
    (hn : lowerString name ∉ names.map lowerString) : Apart (names ++ [name]) where
  valid := fun n hmem ↦ by
    rcases List.mem_append.mp hmem with hmem | hmem
    · exact h.valid n hmem
    · rw [List.mem_singleton.mp hmem]
      exact hv
  nodup := by
    rw [List.map_append]
    apply List.Nodup.append h.nodup (List.nodup_singleton _)
    simpa using hn

/-- A name may be replaced by one that has the same lower case, or one that no name has. -/
theorem set (h : Apart names) {k : Nat} {own : String} (hk : names[k]? = some own)
    (hv : isValid name = true)
    (hn : lowerString name = lowerString own ∨ lowerString name ∉ names.map lowerString) :
    Apart (names.set k name) where
  valid := fun n hmem ↦ by
    rcases List.mem_or_eq_of_mem_set hmem with hmem | rfl
    · exact h.valid n hmem
    · exact hv
  nodup := by
    rw [List.map_set]
    rcases hn with hn | hn
    · have hlk : (names.map lowerString)[k]? = some (lowerString name) := by
        rw [List.getElem?_map, hk, hn]
        rfl
      obtain ⟨hlt, hget⟩ := List.getElem?_eq_some_iff.mp hlk
      rw [← hget, List.set_getElem_self]
      exact h.nodup
    · exact h.nodup.set hn

/-- Two positions with names of the same lower case are the same. -/
theorem position_inj (h : Apart names) {j k : Nat} {a b : String} (ha : names[j]? = some a)
    (hb : names[k]? = some b) (hl : lowerString a = lowerString b) : j = k := by
  have hj : (names.map lowerString)[j]? = some (lowerString a) := by
    rw [List.getElem?_map, ha]
    rfl
  have hk : (names.map lowerString)[k]? = some (lowerString a) := by
    rw [List.getElem?_map, hb, hl]
    rfl
  have hlt := (List.getElem?_eq_some_iff.mp hj).1
  exact (List.getElem?_inj hlt h.nodup).mp (hj.trans hk.symm)

end Apart

/-- A name that passes the check is acceptable. -/
theorem isValid_of_validate {result : String} {name : String} {present : List Json}
    (h : validate name present = .ok result) : isValid name = true := by
  unfold validate at h
  split at h
  · cases h
  · split at h
    · cases h
    · next hv => simpa using hv

end Name

namespace Edit

private theorem mem_zip_of_mapM {names : List Json} {lowered : List String} {s : String}
    (h : names.mapM (fun other ↦ (other.forOperation "lower").map lowerString) = .ok lowered)
    (hs : Json.str s ∈ names) : (Json.str s, lowerString s) ∈ names.zip lowered := by
  induction names generalizing lowered with
  | nil => cases hs
  | cons x xs ih =>
    obtain ⟨y, rest, hy, hrest, rfl⟩ := mapM_cons_ok h
    rw [List.zip_cons_cons]
    rcases List.mem_cons.mp hs with hx | hxs
    · rw [← hx] at hy ⊢
      cases hy
      exact List.mem_cons_self
    · exact List.mem_cons_of_mem _ (ih hrest hxs)

/-- A name that differs from a persona's own by more than case is among the other names. -/
theorem mem_otherNames {names others : List Json} {own s : String}
    (h : otherNames (.str own) names = .ok others) (hs : Json.str s ∈ names)
    (hne : lowerString s ≠ lowerString own) : Json.str s ∈ others := by
  have ho : (Json.str own).forOperation "lower" = .ok own := rfl
  unfold otherNames at h
  cases hl : names.mapM (fun other ↦ (other.forOperation "lower").map lowerString) with
  | error crash => simp [hl, bind, Except.bind] at h
  | ok lowered =>
    simp only [hl, ho, bind, Except.bind, pure, Except.pure, Except.ok.injEq] at h
    rw [← h, List.mem_map]
    exact ⟨_, List.mem_filter.mpr ⟨mem_zip_of_mapM hl hs, by simpa using hne⟩, rfl⟩

/-- A name that passes the check misses all present names. -/
theorem misses_of_validate {name result : String} {present : List Json}
    (h : Name.validate name present = .ok result) : ∀ x ∈ present, Name.Misses name x := by
  unfold Name.validate at h
  split at h
  · cases h
  · split at h
    · cases h
    · split at h
      · cases h
      · cases h
      · next hp => exact (Name.position?_eq_none_iff name present).mp hp

end Edit

namespace Registry

/-- The names of all personas are texts that are told apart. -/
def WellNamed (r : Registry Json) : Prop :=
  ∃ names : List String, r.names = names.map .str ∧ Name.Apart names

namespace WellNamed

variable {r r' : Registry Json} {k : Nat} {p : Persona Json}

/-- Names that stay the same stay told apart. -/
theorem of_names_eq (h : r.WellNamed) (hn : r'.names = r.names) : r'.WellNamed := by
  obtain ⟨names, hr, ha⟩ := h
  exact ⟨names, hn.trans hr, ha⟩

private theorem getElem?_names {names : List String} (hr : r.names = names.map .str)
    (hp : r.agents[k]? = some p) : ∃ own, p.name = .str own ∧ names[k]? = some own := by
  have hk : (names.map Json.str)[k]? = some p.name := by
    rw [← hr, Registry.names, List.getElem?_map, hp]
    rfl
  rw [List.getElem?_map] at hk
  obtain ⟨own, hown, hname⟩ := Option.map_eq_some_iff.mp hk
  exact ⟨own, hname.symm, hown⟩

/-- Names that are told apart are texts. -/
theorem named (h : r.WellNamed) : r.Named := by
  obtain ⟨names, hr, -⟩ := h
  intro p hp
  have hmem : p.name ∈ names.map Json.str := by
    rw [← hr]
    exact List.mem_map.mpr ⟨p, hp, rfl⟩
  obtain ⟨s, -, hs⟩ := List.mem_map.mp hmem
  exact ⟨s, hs.symm⟩

/-- A persona that keeps its name may change. -/
theorem set_of_name_eq (h : r.WellNamed) {p' : Persona Json} (hp : r.agents[k]? = some p)
    (hn : p'.name = p.name) : WellNamed { r with agents := r.agents.set k p' } := by
  apply h.of_names_eq
  have hk : r.names[k]? = some p'.name := by
    rw [Registry.names, List.getElem?_map, hp, hn]
    rfl
  obtain ⟨hlt, hget⟩ := List.getElem?_eq_some_iff.mp hk
  rw [Registry.names, List.map_set, ← hget]
  exact List.set_getElem_self hlt

/-- A persona may be renamed, for the new name was compared with those of all other personas. -/
theorem rename (h : r.WellNamed) {name : String} {others : List Json}
    (hp : r.agents[k]? = some p) (ho : Edit.otherNames p.name r.names = .ok others)
    (hv : Name.validate name others = .ok name) :
    WellNamed { r with agents := r.agents.set k { p with name := .str name } } := by
  obtain ⟨names, hr, ha⟩ := h
  obtain ⟨own, hown, hk⟩ := getElem?_names hr hp
  refine ⟨names.set k name, ?_, ha.set hk (Name.isValid_of_validate hv) ?_⟩
  · rw [Registry.names, List.map_set, List.map_set, ← hr]
    rfl
  · by_cases hsame : lowerString name = lowerString own
    · exact .inl hsame
    · right
      intro hmem
      obtain ⟨s, hs, hls⟩ := List.mem_map.mp hmem
      -- The name with this lower case is not the persona's own, so it was among those compared
      -- with.
      have hother : Json.str s ∈ others := by
        rw [hown] at ho
        apply Edit.mem_otherNames ho
        · rw [hr]
          exact List.mem_map.mpr ⟨s, hs, rfl⟩
        · intro he
          exact hsame (hls.symm.trans he)
      obtain ⟨t, ht, hlt⟩ := Edit.misses_of_validate hv _ hother
      cases ht
      exact hlt hls

/-- A persona may come in under a name that was compared with all names. -/
theorem add (h : r.WellNamed) {name : String} (hv : Name.validate name r.names = .ok name)
    (hp : p.name = .str name) : (r.add p).WellNamed := by
  obtain ⟨names, hr, ha⟩ := h
  refine ⟨names ++ [name], ?_, ha.append (Name.isValid_of_validate hv) ?_⟩
  · rw [Registry.names, Registry.add, List.map_append, List.map_append, ← hr]
    simp [Registry.names, hp]
  · intro hmem
    obtain ⟨s, hs, hls⟩ := List.mem_map.mp hmem
    have hpresent : Json.str s ∈ r.names := by
      rw [hr]
      exact List.mem_map.mpr ⟨s, hs, rfl⟩
    obtain ⟨t, ht, hlt⟩ := Edit.misses_of_validate hv _ hpresent
    cases ht
    exact hlt hls

private theorem eraseIdx (h : r.WellNamed) (k : Nat) :
    WellNamed { r with agents := r.agents.eraseIdx k } := by
  obtain ⟨names, hr, ha⟩ := h
  refine ⟨names.eraseIdx k, ?_, ha.sublist (List.eraseIdx_sublist ..)⟩
  rw [← List.eraseIdx_map, ← hr]
  exact (List.eraseIdx_map ..).symm

private theorem map (h : r.WellNamed) {f : Persona Json → Persona Json}
    (hf : ∀ p, (f p).name = p.name) :
    WellNamed { r with agents := r.agents.map f } := by
  apply h.of_names_eq
  simp [Registry.names, hf, Function.comp_def]

/-- Every spelling of the name of a persona designates this persona. -/
theorem designates (h : r.WellNamed) {spelling : String} (hp : r.agents[k]? = some p)
    (hm : Name.Matches spelling p.name) : r.Designates spelling k p where
  stands := hp
  named := hm
  first := fun j q hj hq ↦ by
    obtain ⟨names, hr, ha⟩ := h
    obtain ⟨own, hown, hk⟩ := getElem?_names hr hp
    obtain ⟨other, hother, hjo⟩ := getElem?_names hr hq
    obtain ⟨s, hs, hls⟩ := hm
    rw [hown] at hs
    cases hs
    refine ⟨other, hother, fun hl ↦ ?_⟩
    have := ha.position_inj hjo hk (hl.trans hls.symm)
    omega

end WellNamed
end Registry

/-- Every edit keeps the names apart. -/
theorem Edit.Makes.wellNamed {e : Edit} {now : Int} {r r' : Registry Json} (h : e.Makes now r r')
    (hr : r.WellNamed) : r'.WellNamed := by
  cases h with
  | same => exact hr
  | amended found amends =>
    cases amends with
    | renamed change others_eq valid => exact hr.rename found.stands others_eq valid
    | _ => exact hr.set_of_name_eq found.stands (by simp [Edit.updated])
  | added valid => exact hr.add valid rfl
  | removed change found => exact hr.eraseIdx _
  | sharedCleared => exact hr.map Persona.name_clearShared
  | allCleared => exact hr.map Persona.name_clearAll

end PersonaChat
