import PersonaChat.Command.Names
import PersonaChat.Proofs.Command.Expression

/-!
# Commands that are read are well formed

Whatever carries out a command relies on its parts and checks few of them. What a reader makes of a
suffix is well formed, one lemma for each way in which a suffix comes about, and so is every
command that is read. Values that are no texts may stand among the names; even then a command names
one of them, or no persona at all.

Spec guidance: `SPEC_FULL.md`, lines 90–93.
-/

namespace PersonaChat

/-- The kinds of actions on the whole registry. -/
def ActionKind.global : List ActionKind :=
  [.help, .list, .listModels, .clearAllPublic, .clearEverything, .fillDescriptions]

namespace Command

open Text

/-- A command to the whole registry: it names no persona, and its action is all it carries. -/
def IsGlobal (c : Command) : Prop := c.action.kind ∈ ActionKind.global ∧ c = global c.action

/-- A command that can be carried out as it is, given the names by which personas are addressed. -/
structure WellFormed (names : List String) (c : Command) : Prop where
  /-- It is one to the whole registry, or it names a persona. -/
  addressed : c.IsGlobal ∨ c.agent ∈ names
  /-- Actions on histories carry a scope, and no others do. -/
  carries : c.action.scope?.isSome = c.action.kind.isScoped
  /-- Behind the private mark the scope is the private one. -/
  personal : c.privateReply = true → ∀ scope ∈ c.action.scope?, scope = .personal
  /-- Positions are counted from 1. -/
  positive : ∀ i ∈ c.indices, 0 < i
  /-- They ascend, each once. -/
  ascending : c.indices.Pairwise (· < ·)
  /-- Where positions are shown or deleted there are some. -/
  selecting : c.action.kind = .viewAt ∨ c.action.kind = .deleteAt → c.indices ≠ []
  /-- Only actions on positions come with any. -/
  bare : c.action.kind ∉ [.viewAt, .deleteAt, .editAt] → c.indices = []
  /-- The text does not start with a blank. -/
  starts : ∀ x ∈ c.args.toList.head?, isBlank x = false
  /-- The text does not end with a blank. -/
  ends : ∀ x ∈ c.args.toList.getLast?, isBlank x = false

end Command

/-- An action carries a scope exactly when its kind takes one. -/
theorem Action.isSome_scope? (a : Action) : a.scope?.isSome = a.kind.isScoped := by
  cases a <;> rfl

namespace Command

open Text

/-! ### What follows a name -/

/-- What follows a name is well formed, given whether the private mark stands before the name. -/
structure Suffix.WellFormed (marked : Bool) (s : Suffix) : Prop where
  /-- Behind the private mark the scope is the private one. -/
  personal : marked = true → ∀ scope ∈ s.action.scope?, scope = .personal
  /-- Zero is no position. -/
  positive : ∀ k ∈ s.indices, k ≠ 0
  /-- Positions ascend, each once. -/
  ascending : s.indices.Pairwise (· < ·)
  /-- Where positions are shown or deleted there are some. -/
  selecting : s.action.kind = .viewAt ∨ s.action.kind = .deleteAt → s.indices ≠ []
  /-- Only actions on positions come with any. -/
  bare : s.action.kind ∉ [.viewAt, .deleteAt, .editAt] → s.indices = []
  /-- The text is trimmed. -/
  trimmed : ∃ cs, s.args = trim cs

variable {marked : Bool} {action : Action} {scope : Scope} {narrowed typed talk cs : List Char}
  {s : Suffix}

/-- An action that takes no positions, with a trimmed text. -/
theorem wellFormed_ofText (hkind : action.kind ∉ [.viewAt, .deleteAt])
    (hscope : marked = true → ∀ scope ∈ action.scope?, scope = .personal) (cs : List Char) :
    (Suffix.ofText action (trim cs)).WellFormed marked where
  personal := hscope
  positive := List.forall_mem_nil _
  ascending := .nil
  selecting h := absurd (by simpa [Suffix.ofText] using h) hkind
  bare _ := rfl
  trimmed := ⟨cs, rfl⟩

/-- An action without a scope that takes no positions, with a trimmed text. -/
theorem wellFormed_ofText_of_scope? (hkind : action.kind ∉ [.viewAt, .deleteAt])
    (hscope : action.scope? = none) (cs : List Char) :
    (Suffix.ofText action (trim cs)).WellFormed marked :=
  wellFormed_ofText hkind (fun _ _ h ↦ by rw [hscope] at h; cases h) cs

/-- An action on the positions that a text names. -/
theorem wellFormed_positions {ks : List Nat} (hread : readIndices cs = .ok ks)
    (hkind : action.kind ∈ [.viewAt, .deleteAt, .editAt]) (hsome : action.kind = .editAt ∨ ks ≠ [])
    (hscope : marked = true → ∀ scope ∈ action.scope?, scope = .personal) (text : List Char) :
    Suffix.WellFormed marked ⟨action, trim text, ks⟩ := by
  obtain ⟨-, spans, -, hlists⟩ := readIndices_eq_ok_iff.mp hread
  refine ⟨hscope, fun k hk ↦ ((hlists.mem_iff k).mp hk).1, hlists.ascending, fun h ↦ ?_,
    fun h ↦ absurd hkind h, text, rfl⟩
  rcases hsome with hedit | hsome
  · rw [show action.kind = .editAt from hedit] at h
    simp at h
  · exact hsome

/-- Operators on histories, and talk. -/
theorem wellFormed_readHistorySuffix (hscope : marked = true → scope = .personal)
    (htalk : ∃ cs, talk = trim cs) (h : readHistorySuffix scope narrowed typed talk = .ok s) :
    s.WellFormed marked := by
  have hpersonal : marked = true → ∀ scope' ∈ some scope, scope' = .personal := by
    rintro hmarked _ ⟨⟩
    exact hscope hmarked
  have htalking : (Suffix.ofText .chat talk).WellFormed marked := by
    obtain ⟨cs, rfl⟩ := htalk
    exact wellFormed_ofText_of_scope? (by decide) rfl cs
  have hpositions {cs : List Char} {action : Action}
      (hkind : action.kind ∈ [.viewAt, .deleteAt, .editAt]) (haction : action.scope? = some scope)
      (h : (do
        let indices ← readIndices cs
        return if indices.isEmpty then Suffix.ofText .chat talk else ⟨action, [], indices⟩ :
          Except IndexFault Suffix) = .ok s) : s.WellFormed marked := by
    obtain ⟨indices, hread, hs⟩ := bind_eq_ok h
    cases hs
    split
    · exact htalking
    · next hsome =>
      exact wellFormed_positions hread hkind (.inr (by simpa using hsome)) (haction ▸ hpersonal) []
  unfold readHistorySuffix at h
  dsimp only at h
  split at h
  · cases h
    exact wellFormed_ofText (by simp [Action.kind]) hpersonal []
  · exact hpositions (by simp [Action.kind]) rfl h
  · cases h
    exact wellFormed_ofText (by simp [Action.kind]) hpersonal []
  · obtain ⟨indices, hread, hs⟩ := bind_eq_ok h
    cases hs
    exact wellFormed_positions hread (by simp [Action.kind]) (.inl rfl) hpersonal _
  · cases h
    exact wellFormed_ofText (by simp [Action.kind]) hpersonal []
  · exact hpositions (by simp [Action.kind]) rfl h
  · cases h
    exact htalking

/-- Whatever is recognised behind a name, where a trimmed text stands. -/
theorem wellFormed_readSuffix (htyped : ∃ cs, typed = trim cs)
    (h : readSuffix narrowed typed marked = .ok s) : s.WellFormed marked := by
  have hmarked : marked = true → Scope.ofPrivate marked = .personal := by
    rintro rfl
    rfl
  unfold readSuffix at h
  split at h
  · cases h
    obtain ⟨cs, rfl⟩ := htyped
    exact wellFormed_ofText_of_scope? (by decide) rfl cs
  · cases h
    exact wellFormed_ofText_of_scope? (by decide) rfl _
  · cases h
    exact wellFormed_ofText_of_scope? (by decide) rfl _
  · cases h
    exact wellFormed_ofText_of_scope? (by decide) rfl _
  · cases h
    exact wellFormed_ofText_of_scope? (by decide) rfl []
  · exact wellFormed_readHistorySuffix hmarked htyped h
  · cases h
    exact wellFormed_ofText_of_scope? (by decide) rfl _
  · cases h
    exact wellFormed_ofText_of_scope? (by decide) rfl _
  · cases h
    exact wellFormed_ofText_of_scope? (by decide) rfl _
  · cases h
    exact wellFormed_ofText_of_scope? (by decide) rfl []
  · exact wellFormed_readHistorySuffix (fun _ ↦ rfl) htyped h
  · exact wellFormed_readHistorySuffix hmarked htyped h

/-! ### Messages -/

variable {c : Command} {names : List String} {name text : String}

/-- A command to the whole registry is well formed. -/
theorem IsGlobal.wellFormed (h : c.IsGlobal) (names : List String) : c.WellFormed names := by
  obtain ⟨hkind, hglobal⟩ := h
  have hprivate : c.privateReply = false := by rw [hglobal]; rfl
  have hindices : c.indices = [] := by rw [hglobal]; rfl
  have hargs : c.args.toList = [] := by rw [hglobal]; rfl
  refine ⟨.inl ⟨hkind, hglobal⟩, c.action.isSome_scope?, ?_, ?_, ?_, ?_, fun _ ↦ hindices, ?_, ?_⟩
  · rw [hprivate]
    nofun
  · rw [hindices]
    exact List.forall_mem_nil _
  · rw [hindices]
    exact .nil
  · rintro (h | h)
    · rw [h] at hkind
      exact absurd hkind (by decide)
    · rw [h] at hkind
      exact absurd hkind (by decide)
  · rw [hargs]
    nofun
  · rw [hargs]
    nofun

/-- A command behind a registered name is well formed if its suffix is. -/
theorem Suffix.WellFormed.behind {cs : List Char} (h : s.WellFormed ((marksOf cs).contains '&'))
    (hname : name ∈ names) : (s.behind cs name).WellFormed names := by
  obtain ⟨text, htext⟩ := h.trimmed
  have hargs : (s.behind cs name).args.toList = trim text := by
    rw [← htext]
    exact String.toList_ofList
  obtain ⟨hstarts, hends⟩ := solid_ends_trim text
  refine ⟨.inr hname, s.action.isSome_scope?, h.personal, ?_, ?_, ?_, ?_, hargs ▸ hstarts,
    hargs ▸ hends⟩
  · intro i hi
    obtain ⟨k, hk, rfl⟩ := List.mem_map.mp hi
    have hpositive := h.positive k hk
    exact Int.natCast_pos.mpr (Nat.pos_of_ne_zero hpositive)
  · exact List.pairwise_map.mpr (h.ascending.imp Int.ofNat_lt.mpr)
  · exact fun hkind hnil ↦ h.selecting hkind (List.map_eq_nil_iff.mp hnil)
  · exact fun hkind ↦ List.map_eq_nil_iff.mpr (h.bare hkind)

private theorem isGlobal_of_readGlobal? (h : readGlobal? cs = some c) : c.IsGlobal := by
  have hwords : ∀ entry ∈ globalWords, entry.2.kind ∈ ActionKind.global := by decide
  obtain ⟨hglobal, ⟨entry, hentry, haction⟩ | ⟨model, haction⟩⟩ := eq_global_of_readGlobal? h
  · exact ⟨haction ▸ hwords entry hentry, hglobal⟩
  · exact ⟨by simp [haction, Action.kind, ActionKind.global], hglobal⟩

private theorem mem_of_readDelete? (h : readDelete? cs names = some name) : name ∈ names := by
  unfold readDelete? at h
  dsimp only at h
  split at h
  · cases h
  · exact List.mem_of_find?_eq_some h

private theorem wellFormed_deletion (hname : name ∈ names) : (deletion name).WellFormed names where
  addressed := .inr hname
  carries := rfl
  personal := nofun
  positive := List.forall_mem_nil _
  ascending := .nil
  selecting h := by rcases h with h | h <;> cases h
  bare _ := rfl
  starts := nofun
  ends := nofun

private theorem wellFormed_of_readPersona? (h : readPersona? cs names = .ok (some c)) :
    c.WellFormed names := by
  obtain ⟨name, s, hname, hs, rfl⟩ := exists_suffix_of_readPersona? h
  exact (wellFormed_readSuffix ⟨_, rfl⟩ hs).behind (matchName?_eq_some hname).1

/-- Every command that is read is well formed. -/
theorem wellFormed_of_read? (h : read? text names = .ok (some (.command c))) :
    c.WellFormed names := by
  rcases read?_command_cases h with hglobal | ⟨-, ⟨name, hdelete, rfl⟩ | ⟨-, hpersona⟩⟩
  · exact (isGlobal_of_readGlobal? hglobal).wellFormed names
  · exact wellFormed_deletion (mem_of_readDelete? hdelete)
  · exact wellFormed_of_readPersona? hpersona

/-! ### Names of any kind -/

/-- More names make no command worse. -/
theorem WellFormed.mono {names' : List String} (h : c.WellFormed names) (hsub : names ⊆ names') :
    c.WellFormed names' :=
  { h with addressed := h.addressed.imp_right fun hmem ↦ hsub hmem }

variable {values : List Json}

/-- A name is among the texts of some values if it is one of the values. -/
theorem mem_filterMap_text?_iff : name ∈ values.filterMap Json.text? ↔ .str name ∈ values := by
  rw [List.mem_filterMap]
  constructor
  · rintro ⟨value, hvalue, htext⟩
    cases value with
    | str s =>
      cases htext
      exact hvalue
    | _ => cases htext
  · exact fun hvalue ↦ ⟨.str name, hvalue, rfl⟩

/-- Values that are all texts are these texts. -/
theorem filterMap_text?_of_mapM (h : values.mapM Json.text? = some names) :
    values.filterMap Json.text? = names := by
  induction values generalizing names with
  | nil =>
    cases h
    rfl
  | cons value values ih =>
    rw [List.mapM_cons, Option.bind_eq_bind, Option.bind_eq_some_iff] at h
    obtain ⟨name, hname, h⟩ := h
    rw [Option.bind_eq_bind, Option.bind_eq_some_iff] at h
    obtain ⟨rest, hrest, hnames⟩ := h
    cases hnames
    rw [List.filterMap_cons_some hname, ih hrest]

private theorem eq_str_of_forOperation {value : Json} {operation s : String}
    (h : value.forOperation operation = .ok s) : value = .str s := by
  cases value with
  | str t =>
    cases h
    rfl
  | _ => cases h

private theorem mem_of_readDeleteAmong (h : readDeleteAmong cs values = .ok (some name)) :
    .str name ∈ values := by
  induction values with
  | nil => cases h
  | cons value values ih =>
    unfold readDeleteAmong at h
    split at h
    · cases h
    · obtain ⟨s, hlower, h⟩ := bind_eq_ok h
      split at h
      · next found hfound =>
        cases h
        cases List.mem_singleton.mp (mem_of_readDelete? hfound)
        rw [eq_str_of_forOperation hlower]
        exact List.mem_cons_self
      · exact List.mem_cons_of_mem value (ih h)

private theorem mem_of_firstMatch (h : firstMatch narrowed values = .ok (some name)) :
    .str name ∈ values := by
  induction values with
  | nil => cases h
  | cons value values ih =>
    unfold firstMatch at h
    split at h
    · exact List.mem_cons_of_mem value (ih h)
    · obtain ⟨s, htranslate, h⟩ := bind_eq_ok h
      split at h
      · cases h
        rw [eq_str_of_forOperation htranslate]
        exact List.mem_cons_self
      · exact List.mem_cons_of_mem value (ih h)

/-- To measure names is to leave them as they are. -/
private theorem map_fst_of_measured {measured : List (Json × Nat)}
    (h : values.mapM (fun name ↦ (nameLength name).map (name, ·)) = .ok measured) :
    measured.map Prod.fst = values := by
  have hcopied : measured.map Prod.fst = values.map id :=
    map_eq_map_of_mapM_eq_ok (fun name entry hentry ↦ by
      obtain ⟨_, -, rfl⟩ := map_eq_ok hentry
      rfl) h
  rw [hcopied, List.map_id]

private theorem mem_of_matchAmong (h : matchAmong narrowed values = .ok (some name)) :
    .str name ∈ values := by
  unfold matchAmong at h
  obtain ⟨measured, hmeasured, h⟩ := bind_eq_ok h
  obtain ⟨entry, hentry, hname⟩ := List.mem_map.mp (mem_of_firstMatch h)
  rw [List.mem_mergeSort] at hentry
  rw [← map_fst_of_measured hmeasured]
  exact List.mem_map.mpr ⟨entry, hentry, hname⟩

private theorem eq_ok_of_orBadNumber {α : Type} {result : Except IndexFault α} {value : α}
    (h : orBadNumber result = .ok value) : result = .ok value := by
  cases result with
  | ok _ =>
    cases h
    rfl
  | error fault => cases h

private theorem wellFormed_of_readPersonaAmong (h : readPersonaAmong cs values = .ok (some c)) :
    c.WellFormed (values.filterMap Json.text?) := by
  unfold readPersonaAmong at h
  split at h
  · cases h
  · obtain ⟨found, hmatch, h⟩ := bind_eq_ok h
    cases found with
    | none => cases h
    | some name =>
      have hname := mem_filterMap_text?_iff.mpr (mem_of_matchAmong hmatch)
      exact (wellFormed_of_readPersona? (eq_ok_of_orBadNumber h)).mono (by simpa using hname)

/-- A command that is read among values is well formed with the texts among them as names. -/
theorem wellFormed_of_readAmong (h : readAmong text values = .ok (some (.command c))) :
    c.WellFormed (values.filterMap Json.text?) := by
  unfold readAmong at h
  split at h
  · next names hnames =>
    rw [filterMap_text?_of_mapM hnames]
    exact wellFormed_of_read? (eq_ok_of_orBadNumber h)
  · dsimp only at h
    split at h
    · next request hunnamed =>
      cases h
      exact (isGlobal_of_readGlobal? (readGlobal?_of_readUnnamed? hunnamed)).wellFormed _
    · obtain ⟨found, hdelete, h⟩ := bind_eq_ok h
      cases found with
      | some name =>
        cases h
        exact wellFormed_deletion (mem_filterMap_text?_iff.mpr (mem_of_readDeleteAmong hdelete))
      | none =>
        obtain ⟨found, hpersona, hfound⟩ := bind_eq_ok h
        cases found with
        | none => cases hfound
        | some found =>
          cases hfound
          exact wellFormed_of_readPersonaAmong hpersona

end Command
end PersonaChat
