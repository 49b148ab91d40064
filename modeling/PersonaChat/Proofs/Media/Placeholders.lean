import PersonaChat.Proofs.Media.Embedding

/-!
# Placeholders for embedded pictures

Where pictures that carry their data must not be shown or sent, a placeholder stands for each. Main
statement: of a text with such pictures in it all that stands before, between and behind them is
kept exactly when no text before a picture leaves an opening `![` on its last line. Where one does,
the picture is taken to start there, and a link or another picture on the same line is lost.

Spec guidance: `SPEC_FULL.md`, lines 221–224.
-/

namespace PersonaChat.Media

open Text

/-! ### Texts with pictures -/

/-- A picture that carries its data, with words that do not end before their line does. -/
structure DataPicture where
  /-- The words that stand for it. -/
  words : List Char
  /-- Its address. -/
  address : List Char
  /-- The words end at the closing bracket of the picture. -/
  no_bracket : ']' ∉ words
  /-- They stand on one line. -/
  no_break : '\n' ∉ words
  /-- The address carries data. -/
  fits : Fits [dataStart] address

/-- The picture as it is embedded. -/
def DataPicture.chars (d : DataPicture) : List Char := embedding d.words d.address

/-- A text with pictures in it. -/
inductive Illustrated where
  /-- A text after the last picture. -/
  | text (t : List Char)
  /-- A text, a picture and what follows it. -/
  | before (t : List Char) (d : DataPicture) (rest : Illustrated)

namespace Illustrated

/-- The whole text. -/
def chars : Illustrated → List Char
  | text t => t
  | before t d rest => t ++ (d.chars ++ rest.chars)

/-- The whole text with a placeholder for each picture. -/
def replaced (placeholder : List Char) : Illustrated → List Char
  | text t => t
  | before t _ rest => t ++ (placeholder ++ rest.replaced placeholder)

/-- The texts before, between and behind the pictures. -/
def texts : Illustrated → List (List Char)
  | text t => [t]
  | before t _ rest => t :: rest.texts

/-- The texts that a picture follows. -/
def followed : Illustrated → List (List Char)
  | text _ => []
  | before t _ rest => t :: rest.followed

end Illustrated

/-- What stands for a picture in a request to the provider, in a history shown as text, in an
exported history and in an answer that cannot be rendered. -/
def placeholders : List String := ["[Image Created]", "[图片]", "[图片数据]", "[图片渲染失败]"]

/-! ### Replacement -/

/-- A picture is recognised whole. -/
theorem DataPicture.dataPicture?_append (d : DataPicture) (back : List Char) :
    dataPicture? (d.chars ++ back) = some (d.address, d.chars.length) :=
  embedded?_append d.no_bracket d.no_break d.fits back

/-- A picture starts with another character than each of the placeholders. -/
theorem placeholder_starts {p : String} (hp : p ∈ placeholders) {c : Char} {r : List Char}
    {found : List Char × Nat} (h : dataPicture? (c :: r) = some found) :
    ∃ d s, p.toList = d :: s ∧ d ≠ c := by
  have hc : c = '!' := by
    obtain ⟨words, address, back, -, -, heq⟩ :=
      isSome_embedded?_iff.mp (Option.isSome_of_eq_some h)
    exact (List.cons_eq_cons.mp heq).1
  have hbracket : placeholders.all (·.toList.head? == some '[') = true := by decide
  have hhead := eq_of_beq (List.all_eq_true.mp hbracket p hp)
  obtain ⟨s, hs⟩ := List.head?_eq_some_iff.mp hhead
  exact ⟨'[', s, hs, by rw [hc]; decide⟩

/-- A placeholder stands for each picture and nothing else is changed, exactly when no text between
the pictures holds another one and none before a picture leaves an opening on its last line. -/
theorem placeholders_keep_text_iff (content : Illustrated) {p : String} (hp : p ∈ placeholders) :
    replaceData p (String.ofList content.chars) = String.ofList (content.replaced p.toList) ↔
      (∀ t ∈ content.texts, ¬ Shows [dataStart] t) ∧ ∀ t ∈ content.followed, ¬ LeavesOpen t := by
  have hnew (c : Char) (r value : List Char) (width : Nat)
      (h : dataPicture? (c :: r) = some (value, width)) : ∃ d s, p.toList = d :: s ∧ d ≠ c :=
    placeholder_starts hp h
  rw [replaceData, String.toList_ofList, String.ofList_inj]
  induction content with
  | text t =>
    have hstep : replaceHits dataPicture? (fun _ ↦ p.toList) (t ++ []) = t ++ [] ↔ _ :=
      replaceHits_append_eq_iff hnew
    have hspared : (∀ tail, tail <:+ t → tail ≠ [] → dataPicture? (tail ++ []) = none) ↔ _ :=
      spared_iff
    rw [hspared, List.append_nil] at hstep
    rw [Illustrated.chars, Illustrated.replaced, hstep]
    simp [Illustrated.texts, Illustrated.followed, replaceHits, scan, scanFrom]
  | before t d rest ih =>
    have hwhole : replaceHits dataPicture? (fun _ ↦ p.toList) (d.chars ++ rest.chars) =
        p.toList ++ replaceHits dataPicture? (fun _ ↦ p.toList) rest.chars :=
      replaceHits_append (List.cons_ne_nil _ _) (d.dataPicture?_append rest.chars)
    have hspared : (∀ tail, tail <:+ t → tail ≠ [] →
        dataPicture? (tail ++ (d.chars ++ rest.chars)) = none) ↔ _ :=
      spared_before_iff d.no_break d.fits rest.chars
    rw [Illustrated.chars, Illustrated.replaced, replaceHits_append_eq_iff hnew, hspared, hwhole,
      List.append_right_inj]
    simp only [Illustrated.texts, Illustrated.followed, List.forall_mem_cons]
    exact (and_congr_right' ih).trans and_and_and_comm

/-- A linked picture on an earlier line, and two pictures with a text between them. -/
theorem placeholders_keep_text_of_lines :
    let dog : DataPicture :=
      ⟨"dog".toList, "data:image/png;base64,AAAA".toList, by decide, by decide, by decide⟩
    let wordless : DataPicture :=
      ⟨[], "data:image/gif;base64,BBBB".toList, by decide, by decide, by decide⟩
    let content : Illustrated :=
      .before "![cat](https://a.test/cat.png)\nand ".toList dog
        (.before ", [more](https://a.test): ".toList wordless (.text "!".toList))
    "[图片]" ∈ placeholders ∧ replaceData "[图片]" (String.ofList content.chars) =
      "![cat](https://a.test/cat.png)\nand [图片], [more](https://a.test): [图片]!" := by
  intro dog wordless content
  have hp : "[图片]" ∈ placeholders := by decide
  have hkept := (placeholders_keep_text_iff content hp).mpr ⟨by decide, by decide⟩
  exact ⟨hp, hkept⟩

/-- A linked picture on the same line is lost, with the text behind it, whatever the placeholder
is. -/
theorem not_placeholders_keep_text_of_link :
    let dog : DataPicture :=
      ⟨"dog".toList, "data:image/png;base64,AAAA".toList, by decide, by decide, by decide⟩
    let content : Illustrated :=
      .before "![cat](https://a.test/cat.png) and ".toList dog (.text [])
    (∀ t ∈ content.texts, ¬ Shows [dataStart] t) ∧ ∀ p ∈ placeholders,
      replaceData p (String.ofList content.chars) = p ∧
        replaceData p (String.ofList content.chars) ≠
        String.ofList (content.replaced p.toList) := by
  decide +kernel

end PersonaChat.Media
