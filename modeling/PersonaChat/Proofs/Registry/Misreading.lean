import PersonaChat.Proofs.Command.Letters
import PersonaChat.Proofs.Registry.Edits
import PersonaChat.Proofs.Text.Decimal
import PersonaChat.Proofs.View.Typed

/-!
# References to models that cannot be read

A text of characters that look like digits is taken for the number of a model. Not all such
characters are decimal digits, and not so many digits are converted; such a text is misread. In a
typed registry this is the only thing that an edit can crash over.
-/

namespace PersonaChat

open Text Number

namespace Number

variable {cs : List Char}

private theorem digitLike_of_barred :
    ∀ n ∈ '+'.toNat :: Name.barred, isDigitLike (Char.ofNat n) = false := by
  decide +kernel

/-- A character that looks like a digit may stand in a name, and is no plus sign. -/
theorem allows_of_digitLike {c : Char} (h : isDigitLike c = true) :
    Name.allows c = true ∧ c ≠ '+' := by
  have hmem : c.toNat ∉ '+'.toNat :: Name.barred := by
    intro hmem
    have := digitLike_of_barred _ hmem
    rw [Char.ofNat_toNat, h] at this
    cases this
  rw [List.mem_cons, not_or] at hmem
  refine ⟨?_, fun hc ↦ hmem.1 (congrArg Char.toNat hc)⟩
  rw [← Bool.not_eq_false, Name.allows_eq_false_iff]
  exact hmem.2

/-- Digits without anything between them form one group; another character keeps them from it. -/
theorem ungroup?_of_digitLike (hne : cs ≠ []) (h : ∀ c ∈ cs, isDigitLike c = true) :
    ungroup? cs = if cs.all isDecimal then some cs else none := by
  induction cs with
  | nil => exact absurd rfl hne
  | cons c cs ih =>
    cases cs with
    | nil => simp [ungroup?]
    | cons d cs =>
      have hd : d ≠ '_' := by
        rintro rfl
        have := (allows_of_digitLike (h '_' (by simp))).1
        exact absurd this (by decide)
      rw [ungroup?, if_neg hd, ih (by simp) fun c hc ↦ h c (List.mem_cons_of_mem _ hc),
        List.all_cons (a := c)]
      by_cases hc : isDecimal c = true
      · by_cases hrest : (d :: cs).all isDecimal = true <;> simp [hc, hrest]
      · simp [hc]

/-- Digits are an integer as they stand. -/
theorem readInt?_of_digitLike (hne : cs ≠ []) (h : ∀ c ∈ cs, isDigitLike c = true) :
    readInt? cs = ((ungroup? cs).bind ofDigits?).map Int.ofNat := by
  have hblank (c : Char) (hc : c ∈ cs) : ¬ isNumberBlank c = true := by
    have hallows := (allows_of_digitLike (h c hc)).1
    simp only [Name.allows, Bool.and_eq_true, Bool.not_eq_true'] at hallows
    simp [isNumberBlank, hallows.2]
  have hdrop (ds : List Char) (hds : ∀ c ∈ ds, c ∈ cs) : ds.dropWhile isNumberBlank = ds := by
    cases ds with
    | nil => rfl
    | cons d ds => exact List.dropWhile_cons_of_neg (hblank d (hds d List.mem_cons_self))
  unfold readInt?
  rw [hdrop cs fun _ ↦ id, hdrop cs.reverse fun c hc ↦ List.mem_reverse.mp hc,
    List.reverse_reverse]
  dsimp only
  split
  · have := (allows_of_digitLike (h '-' List.mem_cons_self)).1
    exact absurd this (by decide)
  · exact absurd rfl (allows_of_digitLike (h '+' List.mem_cons_self)).2
  · rfl

/-- A text of characters that look like digits is a number unless one of them is not decimal, or
there are too many. -/
theorem readInt?_eq_none_iff (hne : cs ≠ []) (h : ∀ c ∈ cs, isDigitLike c = true) :
    readInt? cs = none ↔ (∃ c ∈ cs, isDecimal c = false) ∨ digitLimit < cs.length := by
  rw [readInt?_of_digitLike hne h, ungroup?_of_digitLike hne h, Option.map_eq_none_iff]
  by_cases hall : cs.all isDecimal = true
  · have hdecimal := List.all_eq_true.mp hall
    have hnone : ¬ ∃ c ∈ cs, isDecimal c = false := by
      rintro ⟨c, hc, hd⟩
      rw [hdecimal c hc] at hd
      cases hd
    rw [if_pos hall, or_iff_right hnone]
    exact ofDigits?_eq_none_iff hne hdecimal
  · rw [if_neg hall]
    have hsome : ∃ c ∈ cs, isDecimal c = false := by simpa using hall
    simp [hsome]

end Number

namespace Models

/-- All characters look like digits, but one of them is not decimal, or there are too many. -/
structure Misread (ref : String) : Prop where
  nonempty : ref ≠ ""
  digitLike : ∀ c ∈ ref.toList, isDigitLike c = true
  unreadable : (∃ c ∈ ref.toList, isDecimal c = false) ∨ digitLimit < ref.toList.length

instance : DecidablePred Misread := fun ref ↦
  decidable_of_iff (ref ≠ "" ∧ ref.toList.all isDigitLike = true ∧
      (ref.toList.all isDecimal = false ∨ digitLimit < ref.toList.length)) <| by
    rw [List.all_eq_true, List.all_eq_false]
    simp only [Bool.not_eq_true]
    exact ⟨fun h ↦ ⟨h.1, h.2.1, h.2.2⟩, fun h ↦ ⟨h.1, h.2, h.3⟩⟩

variable {ref : String} {models : List Json} {crash : Crash}

/-- Texts can be searched for a text. -/
theorem exists_containing?_eq_ok (h : ∀ model ∈ models, model.Textual) (part : String) :
    ∃ found, containing? part models = .ok found := by
  induction models with
  | nil => exact ⟨none, rfl⟩
  | cons model models ih =>
    obtain ⟨⟨text, rfl⟩, hmodels⟩ := List.forall_mem_cons.mp h
    obtain ⟨found, hfound⟩ := ih hmodels
    unfold containing?
    simp only [Json.forOperation, bind, Except.bind, hfound]
    split <;> exact ⟨_, rfl⟩

/-- Among models that are texts, a reference fails exactly when it is misread. -/
theorem resolve_eq_error_iff (h : ∀ model ∈ models, model.Textual) :
    resolve ref models = .error crash ↔ Misread ref ∧ crash = .badNumber := by
  obtain ⟨found, hfound⟩ := exists_containing?_eq_ok h ref
  unfold resolve
  split
  · next hempty => exact ⟨nofun, fun hm ↦ absurd hempty hm.1.nonempty⟩
  · next hempty =>
    have hne : ref.toList ≠ [] := mt String.toList_eq_nil_iff.mp hempty
    split
    · next hdigits =>
      have hdigits := List.all_eq_true.mp hdigits
      cases hread : readInt? ref.toList with
      | none =>
        have hmisread : Misread ref :=
          ⟨hempty, hdigits, (readInt?_eq_none_iff hne hdigits).mp hread⟩
        simp [bind, Except.bind, hmisread, eq_comm]
      | some i =>
        have hnot : ¬ Misread ref := by
          intro hm
          rw [(readInt?_eq_none_iff hne hdigits).mpr hm.unreadable] at hread
          cases hread
        cases hat : at? models i.toNat <;>
          simp [bind, Except.bind, pure, Except.pure, hat, hfound, hnot]
    · next hdigits =>
      have hnot : ¬ Misread ref := fun hm ↦ hdigits (List.all_eq_true.mpr hm.digitLike)
      simp [bind, Except.bind, pure, Except.pure, hfound, hnot]

end Models

namespace Registry.Typed

variable {r : Registry Json}

/-- All names of a typed registry are texts. -/
theorem named (hr : r.Typed) : r.Named := fun p hp ↦ (hr.agents p hp).name

/-- In a typed registry a name is looked up without a crash. -/
theorem find?_cases (hr : r.Typed) (name : String) :
    (r.find? name = .ok none ∧ ∀ k p, ¬ r.Designates name k p) ∨
      ∃ k p, r.find? name = .ok (some p) ∧ r.Designates name k p := by
  cases hf : r.find? name with
  | error crash => exact absurd hf (hr.named.find?_ne_error name crash)
  | ok found =>
    cases found with
    | none =>
      refine .inl ⟨rfl, fun k p hd ↦ ?_⟩
      rw [(r.find?_eq_some_iff name p).mpr ⟨k, hd⟩] at hf
      cases hf
    | some p =>
      obtain ⟨k, hd⟩ := (r.find?_eq_some_iff name p).mp hf
      exact .inr ⟨k, p, rfl, hd⟩

private theorem textual_names (hr : r.Typed) : ∀ name ∈ r.names, name.Textual := by
  intro name hname
  obtain ⟨p, hp, rfl⟩ := List.mem_map.mp hname
  exact (hr.agents p hp).name

end Registry.Typed

/-- A name is checked among texts without a crash. -/
theorem Name.validate_ne_crashed {present : List Json} (h : ∀ x ∈ present, x.Textual)
    (name : String)
    (crash : Crash) : validate name present ≠ .error (.crashed crash) := by
  obtain ⟨found, hfound⟩ := position?_isOk_of_texts name h
  unfold validate
  rw [hfound]
  split
  · nofun
  · split
    · nofun
    · cases found <;> nofun

namespace Edit

/-- The names that differ from a text among texts are found, and are texts. -/
theorem exists_otherNames_eq_ok {name : Json} {names : List Json} (hname : name.Textual)
    (h : ∀ other ∈ names, other.Textual) :
    ∃ others, otherNames name names = .ok others ∧ ∀ other ∈ others, other.Textual := by
  obtain ⟨own, rfl⟩ := hname
  have hlower : ∀ other ∈ names,
      ∃ lowered, (other.forOperation "lower").map lowerString = .ok lowered := by
    intro other hother
    obtain ⟨s, rfl⟩ := h other hother
    exact ⟨_, rfl⟩
  obtain ⟨lowered, hlowered⟩ := exists_mapM_eq_ok hlower
  refine ⟨_, by rw [otherNames, hlowered]; rfl, fun other hother ↦ ?_⟩
  obtain ⟨entry, hentry, rfl⟩ := List.mem_map.mp hother
  exact h _ (List.of_mem_zip (List.mem_filter.mp hentry).1).1

variable {r : Registry Json} {crash : Crash} {agent : String}

/-- Where the persona of a name is changed, only the change can crash. -/
theorem onPersona_crashes_iff (hr : r.Typed) {edit : Persona Json → Result} :
    (onPersona r agent edit).2 = .error (.crashed crash) ↔
      ∃ k p, r.Designates agent k p ∧ (edit p).2 = .error (.crashed crash) := by
  unfold onPersona
  rcases hr.find?_cases agent with ⟨hf, hnone⟩ | ⟨k, p, hf, hd⟩
  · rw [hf]
    exact ⟨nofun, fun ⟨k, p, hd, _⟩ ↦ absurd hd (hnone k p)⟩
  · rw [hf]
    constructor
    · exact fun h ↦ ⟨k, p, hd, h⟩
    · rintro ⟨k', p', hd', h⟩
      rwa [(hd.unique hd').2]

/-- A change of the persona of a name that cannot crash does not crash. -/
private theorem onPersona_ne_crashed (hr : r.Typed) {edit : Persona Json → Result}
    (h : ∀ p, p.Typed → (edit p).2 ≠ .error (.crashed crash)) :
    (onPersona r agent edit).2 ≠ .error (.crashed crash) := by
  rw [Ne, onPersona_crashes_iff hr]
  rintro ⟨k, p, hd, he⟩
  exact h p (hr.of_designates hd) he

variable (hr : r.Typed)
include hr

private theorem copy_ne_crashed (name : String) (now : Int) :
    (copy r agent name now).2 ≠ .error (.crashed crash) := by
  unfold copy
  split
  · nofun
  · refine onPersona_ne_crashed hr fun p _ ↦ ?_
    split
    · next failure hv =>
      rintro ⟨⟩
      exact Name.validate_ne_crashed hr.textual_names name crash hv
    · nofun

private theorem rename_ne_crashed (name : String) :
    (rename r agent name).2 ≠ .error (.crashed crash) := by
  unfold rename
  split
  · nofun
  · refine onPersona_ne_crashed hr fun p hp ↦ ?_
    obtain ⟨others, hothers, htexts⟩ := exists_otherNames_eq_ok hp.name hr.textual_names
    rw [hothers]
    dsimp only
    split
    · next failure hv =>
      rintro ⟨⟩
      exact Name.validate_ne_crashed htexts name crash hv
    · nofun

private theorem describe_ne_crashed (text : String) :
    (describe r agent text).2 ≠ .error (.crashed crash) := by
  unfold describe
  split
  · nofun
  · exact onPersona_ne_crashed hr nofun

private theorem editAt_ne_crashed (user : String) (scope : Scope) (indices : List Int)
    (text : String) :
    (editAt r agent user scope indices text).2 ≠ .error (.crashed crash) := by
  unfold editAt
  split
  · nofun
  · split
    · nofun
    · refine onPersona_ne_crashed hr fun p _ ↦ ?_
      split <;> nofun

private theorem deleteAt_ne_crashed (user : String) (scope : Scope) (indices : List Int) :
    (deleteAt r agent user scope indices).2 ≠ .error (.crashed crash) := by
  unfold deleteAt
  split
  · nofun
  · refine onPersona_ne_crashed hr fun p _ ↦ ?_
    dsimp only
    split <;> nofun

private theorem setModel_crashes_iff (ref : String) :
    (setModel r agent ref).2 = .error (.crashed crash) ↔
      (Models.Misread ref ∧ ∃ k p, r.Designates agent k p) ∧ crash = .badNumber := by
  unfold setModel
  split
  · next hempty => exact ⟨nofun, fun h ↦ absurd hempty h.1.1.nonempty⟩
  · rw [onPersona_crashes_iff hr]
    cases hc : Models.resolve ref r.models with
    | error c =>
      obtain ⟨hm, rfl⟩ := (Models.resolve_eq_error_iff hr.models).mp hc
      constructor
      · rintro ⟨k, p, hd, ⟨⟩⟩
        exact ⟨⟨hm, k, p, hd⟩, rfl⟩
      · rintro ⟨⟨-, k, p, hd⟩, rfl⟩
        exact ⟨k, p, hd, rfl⟩
    | ok resolved =>
      constructor
      · rintro ⟨k, p, hd, he⟩
        dsimp only at he
        split at he <;> cases he
      · rintro ⟨⟨hm, -⟩, rfl⟩
        rw [(Models.resolve_eq_error_iff hr.models).mpr ⟨hm, rfl⟩] at hc
        cases hc

private theorem create_crashes_iff (request : CreateRequest) (now : Int) :
    (create r request now).2 = .error (.crashed crash) ↔
      Models.Misread request.model ∧ crash = .badNumber := by
  rw [← Models.resolve_eq_error_iff hr.models]
  unfold create
  split
  · next c _ hc =>
    rw [hc]
    exact ⟨fun h ↦ by cases h; rfl, fun h ↦ by cases h; rfl⟩
  · next c _ hf => exact absurd hf (hr.named.find?_ne_error request.name c)
  · next hc _ =>
    rw [hc]
    exact ⟨nofun, nofun⟩
  · next hc _ =>
    rw [hc]
    refine ⟨?_, nofun⟩
    split
    · next failure hv =>
      rintro ⟨⟩
      exact absurd hv (Name.validate_ne_crashed hr.textual_names request.name crash)
    · nofun

omit hr

/-- The edit takes a text for the number of a model that is none. A model is chosen only for a
persona that exists; for one that is to be created it is looked up first. -/
def Misreads (e : Edit) (r : Registry Json) : Prop :=
  match e.change with
  | .setModel ref => Models.Misread ref ∧ ∃ k p, r.Designates e.agent k p
  | .create request => Models.Misread request.model
  | _ => False

/-- An edit of a typed registry crashes exactly when it misreads a reference to a model. -/
theorem crashes_iff (hr : r.Typed) (e : Edit) (now : Int) :
    (e.apply now r).2 = .error (.crashed crash) ↔ e.Misreads r ∧ crash = .badNumber := by
  obtain ⟨agent, user, change⟩ := e
  have never {result : Result} (h : result.2 ≠ .error (.crashed crash)) :
      result.2 = .error (.crashed crash) ↔ False ∧ crash = .badNumber :=
    ⟨fun he ↦ absurd he h, fun he ↦ he.1.elim⟩
  cases change with
  | stop scope => exact never (onPersona_ne_crashed hr nofun)
  | copy name => exact never (copy_ne_crashed hr name now)
  | rename name => exact never (rename_ne_crashed hr name)
  | describe text => exact never (describe_ne_crashed hr text)
  | setModel ref => exact setModel_crashes_iff hr ref
  | setPrompt text => exact never (onPersona_ne_crashed hr nofun)
  | delete => exact never (onPersona_ne_crashed hr nofun)
  | editAt scope indices text => exact never (editAt_ne_crashed hr user scope indices text)
  | deleteAt scope indices => exact never (deleteAt_ne_crashed hr user scope indices)
  | clear scope => exact never (onPersona_ne_crashed hr nofun)
  | clearPublic | clearEverything => exact never nofun
  | create request => exact create_crashes_iff hr request now

end Edit
end PersonaChat
