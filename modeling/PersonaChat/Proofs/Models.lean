import PersonaChat.Proofs.Registry.Misreading
import PersonaChat.View.Listing

/-!
# Numbers of a model list select its models

A model list is shown in groups, and what a group shows of a model is its number in the list. Every
model of the list has its number in one group and once, whatever the order of the groups is: that
of the first keyword that it contains. A number that is shown beside a model is therefore its
position in the list, which is what the number refers to when a user types it.

Spec guidance: `SPEC_FULL.md`, lines 212–216.
-/

namespace PersonaChat.Models

open Text Number

variable {keywords models : List String} {model keyword : String} {owner : Option String} {i : Nat}

/-! ### Keywords -/

/-- A model's name contains a keyword, up to case. -/
def Holds (model keyword : String) : Prop := lower keyword.toList <:+: lower model.toList

private theorem contains_iff : contains keyword model = true ↔ Holds model keyword := occursIn_iff

/-- The keyword whose group a model belongs to: the first one that its name contains, or none when
it contains none. -/
inductive Belongs (keywords : List String) (model : String) : Option String → Prop where
  /-- Its name contains the keyword and none of those before it. -/
  | named {before after : List String} {keyword : String}
      (split : keywords = before ++ keyword :: after)
      (holds : Holds model keyword) (first : ∀ other ∈ before, ¬ Holds model other) :
      Belongs keywords model (some keyword)
  /-- Its name contains no keyword. -/
  | other (holdsNone : ∀ keyword ∈ keywords, ¬ Holds model keyword) : Belongs keywords model none

private theorem keyword?_eq_iff : keyword? keywords model = owner ↔
    Belongs keywords model owner := by
  unfold keyword?
  cases owner with
  | none =>
    simp only [List.find?_eq_none, contains_iff]
    exact ⟨.other, fun | .other h => h⟩
  | some keyword =>
    simp only [List.find?_eq_some_iff_append, Bool.not_eq_true', ← Bool.not_eq_true, contains_iff]
    exact ⟨fun ⟨holds, _, _, split, first⟩ ↦ .named split holds first,
      fun | .named split holds first => ⟨holds, _, _, split, first⟩⟩

/-- The first keyword is one of the keywords, if there is one. -/
theorem keyword?_mem (keywords : List String) (model : String) :
    keyword? keywords model ∈ keywords.map some ++ [none] := by
  cases h : keyword? keywords model with
  | none => simp
  | some keyword =>
    have := List.mem_of_find?_eq_some h
    simpa using this

/-! ### Numbers -/

/-- A number is the position of a model in a list, counted from 1. -/
def Numbers (models : List String) (i : Nat) (model : String) : Prop :=
  1 ≤ i ∧ models[i - 1]? = some model

private theorem mem_numbered_iff : (i, model) ∈ numbered models ↔ Numbers models i model := by
  rw [numbered, List.mem_map]
  constructor
  · rintro ⟨⟨m, j⟩, hmem, heq⟩
    cases heq
    exact List.mk_mem_zipIdx_iff_le_and_getElem?_sub.mp hmem
  · exact fun h ↦ ⟨(model, i), List.mk_mem_zipIdx_iff_le_and_getElem?_sub.mpr h, rfl⟩

/-- The numbers of a list increase. -/
theorem pairwise_numbered (models : List String) :
    (numbered models).Pairwise fun a b ↦ a.1 < b.1 := by
  have hrange : (numbered models).map Prod.fst = List.range' 1 models.length := by
    rw [numbered, List.map_map]
    exact List.zipIdx_map_snd 1 models
  rw [← List.pairwise_map (f := Prod.fst) (R := (· < ·)), hrange]
  exact List.pairwise_lt_range'

private theorem mem_itemsOf_iff : (i, model) ∈ itemsOf keywords models owner ↔
    Numbers models i model ∧ Belongs keywords model owner := by
  rw [itemsOf, List.mem_filter, mem_numbered_iff, beq_iff_eq, keyword?_eq_iff]

/-! ### Groups -/

/-- The title of the group of a keyword, or of the models that contain none. -/
def titleOf : Option String → String
  | some keyword => title keyword
  | none => otherTitle

/-- A group shows the models that belong to a keyword, or to none, with their numbers, which
increase. -/
structure Group.Shows (keywords models : List String) (owner : Option String) (group : Group) :
    Prop where
  /-- The title tells the keyword. -/
  title : group.title = titleOf owner
  /-- There is a model in the group. -/
  filled : group.items ≠ []
  /-- The numbers increase. -/
  increasing : group.items.Pairwise fun a b ↦ a.1 < b.1
  /-- The models are those that belong to the keyword, each with its position in the list. -/
  items : ∀ i model, (i, model) ∈ group.items ↔
    Numbers models i model ∧ Belongs keywords model owner

/-- The keywords to which some model belongs, in their order, and then `none` if some model belongs
to no keyword. -/
def owners (keywords models : List String) : List (Option String) :=
  (keywords.map some ++ [none]).filter fun owner ↦ !(itemsOf keywords models owner).isEmpty

private theorem groups_eq (keywords models : List String) :
    groups keywords models =
      (owners keywords models).map fun owner ↦ ⟨titleOf owner, itemsOf keywords models owner⟩ := by
  have hall :
      (keywords.map fun keyword ↦
        (⟨title keyword, itemsOf keywords models (some keyword)⟩ : Group)) ++
      [⟨otherTitle, itemsOf keywords models none⟩] =
      (keywords.map some ++ [none]).map fun owner ↦
        ⟨titleOf owner, itemsOf keywords models owner⟩ := by
    rw [List.map_append, List.map_map]
    rfl
  rw [groups, hall, List.filter_map]
  rfl

private theorem shows_of_mem_owners (h : owner ∈ owners keywords models) :
    Group.Shows keywords models owner ⟨titleOf owner, itemsOf keywords models owner⟩ where
  title := rfl
  filled := by simpa [owners] using (List.mem_filter.mp h).2
  increasing := (pairwise_numbered models).filter _
  items := fun _ _ ↦ mem_itemsOf_iff

/-- A model is shown in some group exactly with its positions in the list. -/
theorem mem_items_groups_iff :
    (i, model) ∈ (groups keywords models).flatMap Group.items ↔ Numbers models i model := by
  rw [groups_eq, List.flatMap_map, List.mem_flatMap]
  constructor
  · rintro ⟨owner, -, hmem⟩
    exact (mem_itemsOf_iff.mp hmem).1
  · intro h
    have hmem : (i, model) ∈ itemsOf keywords models (keyword? keywords model) :=
      mem_itemsOf_iff.mpr ⟨h, keyword?_eq_iff.mp rfl⟩
    refine ⟨keyword? keywords model, List.mem_filter.mpr ⟨keyword?_mem keywords model, ?_⟩, hmem⟩
    simpa using List.ne_nil_of_mem hmem

/-- Where no keyword is repeated, no number is shown twice. -/
theorem nodup_items_groups (distinct : keywords.Nodup) (models : List String) :
    ((groups keywords models).flatMap Group.items).Nodup := by
  have howners : (keywords.map some ++ [none]).Nodup := by
    refine List.nodup_append.mpr
      ⟨distinct.map (Option.some_injective _), List.nodup_singleton _, ?_⟩
    simp
  rw [groups_eq, List.flatMap_map, List.nodup_flatMap]
  constructor
  · intro owner _
    exact ((pairwise_numbered models).filter _).imp fun hlt heq ↦ by
      rw [heq] at hlt
      exact Nat.lt_irrefl _ hlt
  · refine (howners.filter _).imp fun hne item hitem hitem' ↦ hne ?_
    -- A model has one first keyword only.
    have hown := keyword?_eq_iff.mpr (mem_itemsOf_iff.mp hitem).2
    rw [← hown]
    exact keyword?_eq_iff.mpr (mem_itemsOf_iff.mp hitem').2

/-! ### References by number -/

private theorem isDecimal_of_mem_natChars {c : Char} (h : c ∈ natChars i) : isDecimal c = true :=
  isDecimal_of_isAsciiDigit (isAsciiDigit_of_mem_natChars h)

private theorem isDigitLike_of_mem_natChars {c : Char} (h : c ∈ natChars i) :
    isDigitLike c = true := by
  rw [isDigitLike, isDecimal_of_mem_natChars h, Bool.true_or]

/-- A written number is read as an integer, if it is not too long. -/
theorem readInt?_natChars (h : i < 10 ^ digitLimit) : readInt? (natChars i) = some (i : Int) := by
  have hdigits : ∀ c ∈ natChars i, isDigitLike c = true := fun _ ↦ isDigitLike_of_mem_natChars
  have hdecimal : (natChars i).all isDecimal = true :=
    List.all_eq_true.mpr fun _ ↦ isDecimal_of_mem_natChars
  rw [readInt?_of_digitLike (natChars_ne_nil i) hdigits,
    ungroup?_of_digitLike (natChars_ne_nil i) hdigits,
    if_pos hdecimal, Option.bind_some, ofDigits?_natChars h]
  rfl

/-- The number of a model refers to it. -/
theorem resolve_number (h : Numbers models i model) (short : i < 10 ^ digitLimit) :
    resolve (natText i) (models.map .str) = .ok (some (.str model)) := by
  obtain ⟨hpos, hmodel⟩ := h
  have hchars : (natText i).toList = natChars i := String.toList_ofList
  have hne : natText i ≠ "" := by
    rw [Ne, ← String.toList_eq_nil_iff, hchars]
    exact natChars_ne_nil i
  have hdigits : (natText i).toList.all isDigitLike = true := by
    rw [hchars]
    exact List.all_eq_true.mpr fun c hc ↦ isDigitLike_of_mem_natChars hc
  have hat : at? (models.map Json.str) i = some (.str model) := by
    rw [at?, if_neg (by omega), List.getElem?_map, hmodel]
    rfl
  rw [resolve, if_neg hne, if_pos hdigits, hchars, readInt?_natChars short]
  simp only [Int.toNat_natCast, hat]
  rfl

/-! ### Lists of values -/

private theorem names_texts (texts : List String) : names (texts.map .str) = .ok texts :=
  mapM_map_self fun _ _ ↦ rfl

/-- Of values that are texts the groups are those of the texts. -/
theorem groupValues_texts (keywords models : List String) :
    groupValues (keywords.map .str) (models.map .str) = .ok (groups keywords models) := by
  rw [groupValues, names_texts, names_texts]
  cases models with
  | nil => simp [groups, itemsOf, numbered, bind, Except.bind, pure, Except.pure]
  | cons model models => rfl

/-- Of values that are texts the groups of the texts are shown. -/
theorem view_texts (keywords models : List String) {agents : List (Persona Json)}
    (looked : ∀ p ∈ agents, p.model.Textual) :
    View.models keywords (models.map .str) agents =
      .ok ("\n\n".intercalate ((groups keywords models).map (View.modelGroup · agents))) := by
  obtain ⟨found, hfound⟩ := exists_mapM_eq_ok fun p hp ↦ ⟨_, (looked p hp).forLookup⟩
  rw [View.models, hfound, names_texts]
  rfl

/-! ### The list as a whole -/

/-- For pairwise different keywords the groups show every model with its position in the list, each
once. There is a group for each keyword to which some model belongs, in their order, and then one
for the models that belong to none, if there are any; in a group the numbers increase. A number
that is shown beside a model refers to it; longer numbers than are converted can be neither written
nor read. The groups of values that are texts are the same, and a user is shown them as they
are. -/
theorem groups_number_all_models {keywords : List String} (distinct : keywords.Nodup)
    (models : List String) :
    let all := (groups keywords models).flatMap Group.items
    (all.Nodup ∧ ∀ i model, (i, model) ∈ all ↔ Numbers models i model) ∧
    (∃ owners : List (Option String), owners.Sublist (keywords.map some ++ [none]) ∧
      List.Forall₂ (Group.Shows keywords models) owners (groups keywords models)) ∧
    (∀ i model, (i, model) ∈ all → i < 10 ^ digitLimit →
      resolve (natText i) (models.map .str) = .ok (some (.str model))) ∧
    groupValues (keywords.map .str) (models.map .str) = .ok (groups keywords models) ∧
    ∀ agents, (∀ p ∈ agents, p.model.Textual) → View.models keywords (models.map .str) agents =
      .ok ("\n\n".intercalate ((groups keywords models).map fun group ↦
        "\n".intercalate (("### " ++ group.title) :: group.items.map fun item ↦
          "- `" ++ natText item.1 ++ "` " ++ item.2 ++ View.usage item.2 agents))) := by
  intro all
  refine ⟨⟨nodup_items_groups distinct models, fun _ _ ↦ mem_items_groups_iff⟩,
    ⟨owners keywords models, List.filter_sublist, ?_⟩,
    fun i model hmem hshort ↦ resolve_number (mem_items_groups_iff.mp hmem) hshort,
    groupValues_texts keywords models, fun agents hagents ↦ view_texts keywords models hagents⟩
  rw [groups_eq, List.forall₂_map_right_iff, List.forall₂_same]
  exact fun owner howner ↦ shows_of_mem_owners howner

/-- In a list with one model twice, one that contains two keywords and one that contains none, the
fourth model is shown as such in the group of the keyword that comes first, and is what the number
four refers to. -/
theorem groups_number_all_models_of_mixture :
    let models := ["claude-4", "gpt-5", "my-model", "claude-GPT-5", "gpt-5"]
    defaultKeywords.Nodup ∧
      groups defaultKeywords models =
      [⟨"Gpt-5 Series", [(2, "gpt-5"), (4, "claude-GPT-5"), (5, "gpt-5")]⟩,
        ⟨"Claude Series", [(1, "claude-4")]⟩, ⟨"Other Models", [(3, "my-model")]⟩] ∧
      resolve "4" (models.map .str) = .ok (some (.str "claude-GPT-5")) := by
  intro models
  have hgroups : groups defaultKeywords models =
      [⟨"Gpt-5 Series", [(2, "gpt-5"), (4, "claude-GPT-5"), (5, "gpt-5")]⟩,
        ⟨"Claude Series", [(1, "claude-4")]⟩,
        ⟨"Other Models", [(3, "my-model")]⟩] := by decide +kernel
  have hdistinct : defaultKeywords.Nodup := by decide
  refine ⟨hdistinct, hgroups, ?_⟩
  refine (groups_number_all_models hdistinct models).2.2.1 4 "claude-GPT-5" ?_ ?_
  · rw [hgroups]
    decide
  · exact Nat.lt_of_lt_of_le (by decide : 4 < 10 ^ 1)
      (Nat.pow_le_pow_right (by decide) (by decide))

end PersonaChat.Models
