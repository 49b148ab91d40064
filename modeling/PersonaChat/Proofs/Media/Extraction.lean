import PersonaChat.Proofs.Desk.Floor
import PersonaChat.Proofs.Media.Embedding
import PersonaChat.Proofs.Text.Occurrence

/-!
# Pictures that are named and pictures that are sent

An answer is shown with an address in place of each embedded picture, and the pictures of the
answer are sent after it. Both look for embedded pictures, but what is sent is found by a scan that
takes bare links to picture files as well, and a bare link goes on up to a blank. Main statement:
both scans find the same embedded pictures exactly when no bare link runs over the start of one,
and then each address that is named is sent. Whatever the answer is, each address is sent once, in
the order in which they are found.

Spec guidance: `SPEC_FULL.md`, lines 221–224.
-/

namespace PersonaChat.Media

open Text

variable {cs address : List Char} {width : Nat}

/-! ### Bare links -/

/-- An ending of a picture file is not empty and ends inside the text in which it is found. -/
theorem lastEnding?_bounds (h : lastEnding? cs = some width) : 0 < width ∧ width ≤ cs.length := by
  induction cs generalizing width with
  | nil => cases h
  | cons c r ih =>
    rw [lastEnding?] at h
    split at h
    · next later hlater =>
      cases h
      exact ⟨Nat.succ_pos later, Nat.succ_le_succ (ih hlater).2⟩
    · obtain ⟨ending, hending, rfl⟩ := Option.map_eq_some_iff.mp h
      have hall : ∀ ending ∈ pictureEndings, 0 < ending.length := by decide
      have hfits := List.find?_some hending
      exact ⟨hall ending (List.mem_of_find?_eq_some hending),
        (List.isPrefixOf_iff_prefix.mp hfits).length_le⟩

/-- A bare link is as wide as its address, which is not empty. -/
theorem length_of_bareLink? (h : bareLink? cs = some (address, width)) :
    address.length = width ∧ 0 < width := by
  obtain ⟨start, -, hstart⟩ := List.exists_of_findSome?_eq_some h
  obtain ⟨r, hr, hlink⟩ := Option.bind_eq_some_iff.mp hstart
  obtain ⟨ending, hending, hfound⟩ := Option.map_eq_some_iff.mp hlink
  cases hfound
  obtain ⟨hpos, hle⟩ := lastEnding?_bounds hending
  have hrest : r = cs.drop start.length := by
    unfold dropStart? at hr
    split at hr
    · exact (Option.some.inj hr).symm
    · cases hr
  have hrun : (r.takeWhile (!isBlank ·)).length ≤ r.length := (List.takeWhile_prefix _).length_le
  rw [List.length_drop] at hle
  rw [hrest, List.length_drop, ← hrest] at hrun
  rw [List.length_take]
  omega

private theorem anyPicture?_of_picture? {found : List Char × Nat} (h : picture? cs = some found) :
    anyPicture? cs = some found := by
  rw [anyPicture?, h]
  rfl

private theorem anyPicture?_of_none (h : picture? cs = none) : anyPicture? cs = bareLink? cs := by
  rw [anyPicture?, h]
  rfl

/-! ### The two scans -/

/-- How the address of an embedded picture starts. -/
def pictureStarts : List (List Char) := linkStarts ++ [dataStart]

/-- A bare link that is found runs over the start of an embedded picture. -/
def RunsOver (cs : List Char) : Prop :=
  ∃ o ∈ occurrences anyPicture? cs, picture? o.1 = none ∧
    ∃ k < o.2.length, Starts pictureStarts (o.1.drop k)

instance (starts : List (List Char)) (cs : List Char) : Decidable (Starts starts cs) :=
  decidable_of_iff _ isSome_embedded?_iff

instance (cs : List Char) : Decidable (RunsOver cs) :=
  inferInstanceAs (Decidable (∃ o ∈ occurrences anyPicture? cs, picture? o.1 = none ∧
    ∃ k < o.2.length, Starts pictureStarts (o.1.drop k)))

/-- The embedded pictures among all pictures that are found. -/
def embeddedAmong (cs : List Char) : List (List Char × List Char) :=
  (occurrences anyPicture? cs).filter fun o ↦ (picture? o.1).isSome

private theorem picture?_eq_none_iff : picture? cs = none ↔ ¬ Starts pictureStarts cs :=
  embedded?_eq_none_iff

/-- The scan for all pictures finds the same embedded pictures as the scan for these, exactly when
no bare link runs over the start of one. -/
theorem occurrences_eq_iff (cs : List Char) :
    occurrences picture? cs = embeddedAmong cs ↔ ¬ RunsOver cs := by
  induction cs using left_induction with
  | nil => simp [occurrences_nil, embeddedAmong, RunsOver]
  | cons c r ih =>
    unfold embeddedAmong RunsOver at *
    cases hp : picture? (c :: r) with
    | some found =>
      -- Both scans find the same picture here.
      rw [occurrences_of_some hp, occurrences_of_some (anyPicture?_of_picture? hp)]
      simp only [List.filter_cons, hp, Option.isSome_some, if_true, List.cons.injEq, true_and,
        List.exists_mem_cons_iff, reduceCtorEq, false_and, false_or]
      exact ih _
    | none =>
      cases hb : bareLink? (c :: r) with
      | none =>
        rw [occurrences_of_none hp, occurrences_of_none ((anyPicture?_of_none hp).trans hb)]
        exact ih 0
      | some found =>
        obtain ⟨link, width⟩ := found
        obtain ⟨hlength, hpos⟩ := length_of_bareLink? hb
        rw [occurrences_of_some ((anyPicture?_of_none hp).trans hb)]
        simp only [List.filter_cons, hp, Option.isSome_none, Bool.false_eq_true, if_false,
          List.exists_mem_cons_iff, true_and, hlength, not_or]
        have hbehind : (c :: r).drop width = r.drop (width - 1) := by
          obtain ⟨k, rfl⟩ : ∃ k, width = k + 1 := ⟨width - 1, by omega⟩
          rfl
        by_cases hover : ∃ k < width, Starts pictureStarts ((c :: r).drop k)
        · -- The scan for embedded pictures finds one before the link ends.
          refine iff_of_false (fun heq ↦ ?_) fun h ↦ h.1 hover
          obtain ⟨k, hk, hstarts⟩ := hover
          have hwithin : k < (c :: r).length := by
            by_contra hout
            rw [List.drop_eq_nil_of_le (by omega)] at hstarts
            exact hstarts.ne_nil rfl
          obtain ⟨o, ho, hplace⟩ :=
            exists_mem_occurrences hwithin (isSome_embedded?_iff.mpr hstarts)
          have hlate := length_le_of_mem_occurrences
            (List.mem_of_mem_filter (heq ▸ ho : o ∈ List.filter _ _))
          rw [← hbehind, List.length_drop] at hlate
          omega
        · -- Up to the end of the link it finds none.
          have hpassed :
              occurrences picture? (c :: r) = occurrences picture? (r.drop (width - 1)) := by
            rw [← hbehind]
            refine occurrences_drop fun k hk ↦ picture?_eq_none_iff.mpr fun hstarts ↦ ?_
            exact hover ⟨k, hk, hstarts⟩
          rw [hpassed, ih (width - 1)]
          exact (and_iff_right hover).symm

/-! ### The pictures of a text, each once -/

/-- The addresses of all pictures of a text, as often as they are found in it. -/
def mentioned (content : String) : List String :=
  (hits anyPicture? content.toList).map String.ofList

private theorem keepFirst_of_mem {a : List Char} {seen : List (List Char)} (h : a ∈ seen)
    (addresses : List (List Char)) :
    keepFirst seen (a :: addresses) = keepFirst seen addresses := by
  simp [keepFirst, h]

private theorem keepFirst_of_notMem {a : List Char} {seen : List (List Char)} (h : a ∉ seen)
    (addresses : List (List Char)) :
    keepFirst seen (a :: addresses) = a :: keepFirst (a :: seen) addresses := by
  simp [keepFirst, h]

/-- All addresses are kept but those that were seen before. -/
theorem mem_keepFirst {seen addresses : List (List Char)} :
    address ∈ keepFirst seen addresses ↔ address ∈ addresses ∧ address ∉ seen := by
  induction addresses generalizing seen with
  | nil => simp [keepFirst]
  | cons a addresses ih =>
    by_cases ha : a ∈ seen
    · rw [keepFirst_of_mem ha, ih, List.mem_cons]
      refine and_congr_left fun hnew ↦ (or_iff_right ?_).symm
      rintro rfl
      exact hnew ha
    · rw [keepFirst_of_notMem ha, List.mem_cons, ih, List.mem_cons, List.mem_cons]
      by_cases heq : address = a
      · simp [heq, ha]
      · simp [heq]

/-- What is kept stands in the order in which it is found first. -/
theorem pairwise_keepFirst (seen addresses : List (List Char)) :
    (keepFirst seen addresses).Pairwise fun a b ↦ addresses.idxOf a < addresses.idxOf b := by
  induction addresses generalizing seen with
  | nil => exact .nil
  | cons a addresses ih =>
    have later {b : List Char} (h : b ≠ a) :
        (a :: addresses).idxOf b = addresses.idxOf b + 1 :=
      List.idxOf_cons_ne addresses (Ne.symm h)
    by_cases ha : a ∈ seen
    · have hne {b : List Char} (hb : b ∈ keepFirst seen addresses) : b ≠ a := by
        rintro rfl
        exact (mem_keepFirst.mp hb).2 ha
      rw [keepFirst_of_mem ha]
      refine (ih seen).imp_of_mem fun hb hc hlt ↦ ?_
      rw [later (hne hb), later (hne hc)]
      exact Nat.succ_lt_succ hlt
    · have hne {b : List Char} (hb : b ∈ keepFirst (a :: seen) addresses) : b ≠ a := by
        rintro rfl
        exact (mem_keepFirst.mp hb).2 List.mem_cons_self
      rw [keepFirst_of_notMem ha, List.pairwise_cons]
      refine ⟨fun b hb ↦ ?_, (ih (a :: seen)).imp_of_mem fun hb hc hlt ↦ ?_⟩
      · rw [List.idxOf_cons_self, later (hne hb)]
        exact Nat.succ_pos _
      · rw [later (hne hb), later (hne hc)]
        exact Nat.succ_lt_succ hlt

private theorem mem_pictures_iff {content url : String} :
    url ∈ pictures content ↔ url ∈ mentioned content := by
  simp only [pictures, mentioned, List.mem_map, mem_keepFirst, List.not_mem_nil, not_false_eq_true,
    and_true]

private theorem idxOf_map_ofList (addresses : List (List Char)) (a : List Char) :
    (addresses.map String.ofList).idxOf (String.ofList a) = addresses.idxOf a := by
  induction addresses with
  | nil => rfl
  | cons b addresses ih =>
    by_cases hb : b = a
    · rw [hb, List.map_cons, List.idxOf_cons_self, List.idxOf_cons_self]
    · have hne : String.ofList b ≠ String.ofList a := fun h ↦ hb (String.ofList_injective h)
      rw [List.map_cons, List.idxOf_cons_ne _ hne, List.idxOf_cons_ne _ hb, ih]

/-- The addresses of the pictures stand in the order in which they are found first. -/
theorem pairwise_pictures (content : String) : (pictures content).Pairwise fun a b ↦
    (mentioned content).idxOf a < (mentioned content).idxOf b := by
  rw [pictures, mentioned, List.pairwise_map]
  simp only [idxOf_map_ofList]
  exact pairwise_keepFirst [] _

/-- A picture that both scans find is among the pictures. -/
theorem mem_pictures_of_hits {content : String} (h : ¬ RunsOver content.toList)
    (haddress : address ∈ hits picture? content.toList) :
    String.ofList address ∈ pictures content := by
  rw [← map_snd_occurrences, (occurrences_eq_iff _).mpr h, List.mem_map] at haddress
  obtain ⟨o, ho, rfl⟩ := haddress
  rw [mem_pictures_iff, mentioned, ← map_snd_occurrences]
  exact List.mem_map_of_mem (List.mem_map_of_mem (List.mem_of_mem_filter ho))

/-- Whatever a text is, its pictures are the addresses that are found in it, each once and in the
order in which they are found first; and the embedded pictures are the same as those for which the
text names an address, place by place, exactly when no bare link runs over the start of one. Then
every address that an answer names in place of a picture is among the pictures that are sent after
it. -/
theorem named_pictures_are_sent (content : String) :
    ((∀ url, url ∈ pictures content ↔ url ∈ mentioned content) ∧ (pictures content).Nodup ∧
      (pictures content).Pairwise fun a b ↦
        (mentioned content).idxOf a < (mentioned content).idxOf b) ∧
    (occurrences picture? content.toList = embeddedAmong content.toList ↔
      ¬ RunsOver content.toList) ∧
    (¬ RunsOver content.toList → ∀ address ∈ hits picture? content.toList,
      String.ofList address ∈ pictures content ∧
      ∀ env t title, t.textMode = true → Generation.delivery env t title content =
        .text (.str (showAddresses content)) ::
          ((pictures content).flatMap World.picture ++ (videos content).map .video)) := by
  have horder := pairwise_pictures content
  refine ⟨⟨fun url ↦ mem_pictures_iff, horder.imp fun hlt heq ↦ ?_, horder⟩, occurrences_eq_iff _,
    fun h address haddress ↦ ?_⟩
  · rw [heq] at hlt
    exact Nat.lt_irrefl _ hlt
  · have hmem := mem_pictures_of_hits h haddress
    refine ⟨hmem, fun env t title htext ↦ ?_⟩
    have hne : (pictures content).isEmpty = false := by
      rw [List.isEmpty_eq_false_iff]
      exact List.ne_nil_of_mem hmem
    have hshown : Generation.shownAnswer t content (pictures content) = showAddresses content := by
      simp [Generation.shownAnswer, hne, htext]
    rw [Generation.delivery, hshown, htext]
    unfold World.presentation
    cases env.renderer <;> rfl

/-- A bare link that ends before a blank, a linked picture and one that carries its data. -/
theorem named_pictures_are_sent_of_blank :
    let content :=
      "见 https://a.test/x.png ，![图](https://b.test/y.png)![](data:image/png;base64,AA==)"
    let address := "https://b.test/y.png".toList
    let talk : Talk := ⟨"Bot", .shared, "u1", "draw", [], false, true⟩
    ¬ RunsOver content.toList ∧ address ∈ hits picture? content.toList ∧ talk.textMode = true ∧
      String.ofList address ∈ pictures content ∧
      Generation.delivery .plain talk "Bot #2" content = .text (.str (showAddresses content)) ::
        ((pictures content).flatMap World.picture ++ (videos content).map .video) := by
  intro content address talk
  have hfree : ¬ RunsOver content.toList := by decide +kernel
  have hnamed : address ∈ hits picture? content.toList := by decide +kernel
  obtain ⟨hmem, hsent⟩ := (named_pictures_are_sent content).2.2 hfree address hnamed
  exact ⟨hfree, hnamed, rfl, hmem, hsent .plain talk "Bot #2" rfl⟩

/-- Without a blank between them the bare link takes in the picture, whose address is named and not
sent. -/
theorem not_named_pictures_are_sent_of_link :
    let content := "见https://a.test/x.png，![图](https://b.test/y.png)"
    hits picture? content.toList = ["https://b.test/y.png".toList] ∧
      "https://b.test/y.png" ∉ pictures content ∧
      showAddresses content = "见https://a.test/x.png，https://b.test/y.png" := by
  decide +kernel

end PersonaChat.Media
