import PersonaChat.Proofs.Persona
import PersonaChat.Proofs.Removal
import PersonaChat.Proofs.View.Typed

/-!
# Positions mean one message

A position names a message to those who look at a history, to those who reword a message and to
those who delete some. All of them count from 1, and what is shown under a number is what an edit
at this number rewords and what a deletion of it takes out.

Spec guidance: `SPEC_FULL.md`, lines 49–50 and 107–110.
-/

namespace PersonaChat

universe u

/-! ### Positions that are there -/

namespace History

variable {τ : Type u} {h : History τ} {position : Int}

private theorem at?_eq_some_iff {m : Message τ} :
    h.at? position = some m ↔ 0 < position ∧ h[position.toNat - 1]? = some m := by
  rw [at?]
  split
  · next hpos => rw [and_iff_right hpos]
  · next hpos => exact iff_of_false nofun fun h ↦ hpos h.1

/-- A position is there from 1 to the number of messages. -/
theorem isSome_at?_iff : (h.at? position).isSome ↔ 1 ≤ position ∧ position ≤ h.length := by
  rw [at?]
  split
  · rw [isSome_getElem?]
    omega
  · rw [Option.isSome_none]
    exact iff_of_false nofun fun h ↦ by omega

/-- What is left of a history when the positions `gone` are taken out: the messages at all others,
in their order. -/
def Loses (h h' : History τ) (gone : List Nat) : Prop :=
  ∃ kept : List Nat, kept.Pairwise (· < ·) ∧
    (∀ k, k ∈ kept ↔ 1 ≤ k ∧ k ≤ h.length ∧ k ∉ gone) ∧
    h'.map some = kept.map fun k ↦ h[k - 1]?

private theorem loses_without (h : History τ) (wanted : List Int) :
    h.Loses (h.without wanted) (h.present wanted) := by
  refine ⟨_, (List.pairwise_lt_range' 1).filter _, fun k ↦ ?_, map_some_without h wanted⟩
  rw [List.mem_filter, List.mem_range'_1, mem_present_iff, Bool.not_eq_true', ← Bool.not_eq_true,
    List.contains_iff_mem]
  constructor
  · rintro ⟨⟨h1, hlt⟩, hnot⟩
    exact ⟨h1, by omega, fun hgone ↦ hnot hgone.1⟩
  · rintro ⟨h1, hle, hnot⟩
    exact ⟨⟨h1, by omega⟩, fun hw ↦ hnot ⟨hw, h1, hle⟩⟩

end History

/-! ### What is shown -/

namespace View

open Text

variable {h : History Json} {m : Message Json} {textMode : Bool}

/-- One position shows one message or none. -/
theorem selected_singleton (h : History Json) (position : Int) (textMode : Bool) :
    selected h [position] textMode =
      match h.at? position with
      | some m => (selectedMessage position m textMode).map ([·])
      | none => .ok [] := by
  unfold selected
  cases hat : h.at? position with
  | none => simp [hat]; rfl
  | some m =>
    simp only [List.filterMap_cons, List.filterMap_nil, hat, Option.map_some, List.mapM_cons,
      List.mapM_nil]
    cases selectedMessage position m textMode <;> rfl

/-- The line of a media reference: the picture is embedded, or in text mode its address is named,
with a note in the place of an address that holds the picture itself. -/
inductive MediaLine (textMode : Bool) : Json → String → Prop where
  /-- The picture at the address. -/
  | embedded {image : Json} (plain : textMode = false) :
      MediaLine textMode image ("![image](" ++ image.display ++ ")")
  /-- The address. -/
  | named {address : String} (text : textMode = true)
      (linked : Media.isDataAddress address = false) :
      MediaLine textMode (.str address) ("- [图片] " ++ address)
  /-- The note. -/
  | noted {address : String} (text : textMode = true) (held : Media.isDataAddress address = true) :
      MediaLine textMode (.str address) "- [Base64 Image]"

/-- A text with the lines of pictures below it, or a note where there is nothing to see. -/
inductive TextAbove : String → List String → String → Prop where
  /-- There are no pictures. -/
  | text {words : String} (seen : words.toList.all isBlank = false) : TextAbove words [] words
  /-- There is no text. -/
  | pictures {lines : List String} (any : lines ≠ []) :
      TextAbove "" lines ("\n".intercalate lines)
  /-- There are both. -/
  | both {words : String} {lines : List String} (said : words ≠ "") (any : lines ≠ []) :
      TextAbove words lines (words ++ "\n\n" ++ "\n".intercalate lines)
  /-- There is nothing but blanks. -/
  | nothing {words : String} (blank : words.toList.all isBlank = true) :
      TextAbove words [] "(无内容)"

/-- What is shown of a text: in text mode a note stands for each picture that is embedded in it. -/
def wordsOf (textMode : Bool) (words : String) : String :=
  if textMode then Media.replaceData "[图片]" words else words

/-- A block shows a message under a number: the sign of its role, its time if that is shown, what
is shown of its text, and the lines of its media references, in their order. -/
def Shows (shown : String → String) (textMode withTime : Bool) (position : Int) (m : Message Json)
    (block : String) : Prop :=
  ∃ words sign lines body, m.content = .str words ∧ roleSign m.role = .ok sign ∧
    List.Forall₂ (MediaLine textMode) m.images lines ∧ TextAbove (shown words) lines body ∧
    block = "**#" ++ intText position ++ " " ++ sign ++
      (if withTime then " " ++ shortTime m.timestamp else "") ++ "**\n" ++ body

/-- The line of a media reference can be seen. -/
private theorem MediaLine.exists_seen {image : Json} {line : String}
    (h : MediaLine textMode image line) : ∃ c ∈ line.toList, isBlank c = false := by
  cases h with
  | embedded => exact ⟨'!', by simp [String.toList_append], by decide⟩
  | named => exact ⟨'-', by simp [String.toList_append], by decide⟩
  | noted => exact ⟨'-', by simp, by decide⟩

/-- A text with its pictures is shown as it is, or as a note where there is nothing to see. -/
private theorem textAbove_withMedia (words : String) {images : List Json} {lines : List String}
    (h : List.Forall₂ (MediaLine textMode) images lines) :
    TextAbove words lines (if (withMedia words lines).toList.all isBlank then "(无内容)"
      else withMedia words lines) := by
  cases h with
  | nil =>
    have hshown : withMedia words [] = words := rfl
    rw [hshown]
    split
    · next hblank => exact .nothing hblank
    · next hseen => exact .text (by simpa using hseen)
  | @cons image line images lines hline =>
    -- The first line can be seen, so the whole can.
    obtain ⟨c, hc, hseen⟩ := hline.exists_seen
    have hmem : c ∈ ("\n".intercalate (line :: lines)).toList := by
      cases lines with
      | nil => simpa using hc
      | cons next rest => simp [hc]
    have hshown : withMedia words (line :: lines) =
        (if words = "" then "" else words ++ "\n\n") ++ "\n".intercalate (line :: lines) := rfl
    have hnot : ¬ (withMedia words (line :: lines)).toList.all isBlank := by
      intro hall
      rw [hshown, String.toList_append, List.all_append, Bool.and_eq_true] at hall
      exact absurd (List.all_eq_true.mp hall.2 c hmem) (by simp [hseen])
    rw [if_neg hnot, hshown]
    split
    · next hnone =>
      rw [hnone, String.empty_append]
      exact .pictures nofun
    · next hsaid => exact .both hsaid nofun

private theorem eq_str_of_forSearch {value : Json} {words : String}
    (h : value.forSearch = .ok words) : value = .str words := by
  cases value with
  | str =>
    cases h
    rfl
  | _ => cases h

/-- A message that can be shown has a text, which comes before its media references. -/
private theorem fullText_eq_ok {shown : String} (h : fullText m textMode = .ok shown) :
    ∃ words lines, m.content = .str words ∧ List.Forall₂ (MediaLine textMode) m.images lines ∧
      shown = withMedia (wordsOf textMode words) lines := by
  cases textMode with
  | true =>
    obtain ⟨words, hwords, h⟩ := bind_eq_ok h
    obtain ⟨lines, hlines, h⟩ := bind_eq_ok h
    cases h
    refine ⟨words, lines, eq_str_of_forSearch hwords, forall₂_of_mapM_eq_ok ?_ hlines, rfl⟩
    intro image line hline
    unfold mediaName at hline
    cases image with
    | str address =>
      cases hline
      split
      · next hheld => exact .noted rfl hheld
      · next hlinked => exact .named rfl (by simpa using hlinked)
    | _ => cases hline
  | false =>
    unfold fullText at h
    cases hcontent : m.content with
    | str words =>
      simp only [hcontent, Bool.false_eq_true, if_false] at h
      cases h
      refine ⟨words, m.images.map mediaEmbedding, rfl, ?_, rfl⟩
      rw [List.forall₂_map_right_iff, List.forall₂_same]
      exact fun image _ ↦ .embedded rfl
    | arr items =>
      simp only [hcontent, Bool.false_eq_true, if_false] at h
      cases h
    | _ =>
      simp only [hcontent, Bool.false_eq_true, if_false] at h
      split at h <;> cases h

/-- A block that a history or a choice consists of shows its message. -/
theorem shows_of_message {index : Int} {withTime : Bool} {block : String}
    (hb : message index m textMode withTime = .ok block) :
    Shows (wordsOf textMode) textMode withTime index m block := by
  obtain ⟨body, hbody, hb⟩ := bind_eq_ok hb
  obtain ⟨sign, hsign, hb⟩ := bind_eq_ok hb
  cases hb
  obtain ⟨shown, hshown, hbody⟩ := bind_eq_ok hbody
  cases hbody
  obtain ⟨words, lines, hwords, hlines, rfl⟩ := fullText_eq_ok hshown
  exact ⟨words, sign, lines, _, hwords, hsign, hlines, textAbove_withMedia _ hlines, rfl⟩

/-- What is shown of a text that is chosen: in text mode the addresses of its pictures stand for
them. -/
def chosenWords (textMode : Bool) (words : String) : String :=
  wordsOf textMode (if textMode then Media.showAddresses words else words)

/-- A message that is chosen is shown without its time. -/
theorem shows_of_selectedMessage {index : Int} {block : String}
    (hb : selectedMessage index m textMode = .ok block) :
    Shows (chosenWords textMode) textMode false index m block := by
  cases textMode with
  | false => exact shows_of_message hb
  | true =>
    obtain ⟨content, hcontent, hb⟩ := bind_eq_ok hb
    obtain ⟨words, hwords, hcontent⟩ := bind_eq_ok hcontent
    cases hcontent
    obtain ⟨words', sign, lines, body, hwords', hrest⟩ := shows_of_message hb
    cases hwords'
    exact ⟨words, sign, lines, body, eq_str_of_forSearch hwords, hrest⟩

/-- A history is shown as one block for each message, in their order. -/
theorem exists_blocks {shown : String} (hs : history h 0 textMode = .ok shown) :
    ∃ blocks : List String, shown = rule.intercalate blocks ∧ blocks.length = h.length ∧
      ∀ (i : Nat) m, h[i]? = some m →
        ∃ block, blocks[i]? = some block ∧ message (i + 1 : Nat) m textMode true = .ok block := by
  unfold history at hs
  obtain ⟨blocks, hblocks, hs⟩ := bind_eq_ok hs
  cases hs
  obtain ⟨hlength, heach⟩ := getElem?_of_mapM_eq_ok hblocks
  refine ⟨blocks, rfl, hlength.trans List.length_zipIdx, fun i m hi ↦ ?_⟩
  have hentry : (h.zipIdx 1)[i]? = some (m, 1 + i) := by
    rw [List.getElem?_zipIdx, hi]
    rfl
  obtain ⟨block, hblock, hshown⟩ := heach i (m, 1 + i) hentry
  rw [Int.zero_add, Nat.add_comm] at hshown
  exact ⟨block, hblock, hshown⟩

end View

/-! ### One message -/

namespace Persona

/-- A persona is another one but for a single history: that of a scope and, if it is a private one,
of a user. -/
structure DiffersAt {τ : Type u} (p q : Persona τ) (scope : Scope) (user : String) : Prop where
  /-- Nothing but that history is set. -/
  fields : q = p.setHistory scope user (q.history scope user)
  /-- All other histories are the same. -/
  others : ∀ other v, ¬ (other = scope ∧ (scope = .personal → v = user)) →
    q.history other v = p.history other v

private theorem differsAt_setHistory {τ : Type u} (p : Persona τ) (scope : Scope) (user : String)
    (h : History τ) : p.DiffersAt (p.setHistory scope user h) scope user where
  fields := by rw [history_setHistory]
  others other v hne := by rw [history_setHistory_of, if_neg hne]

/-- The message that a position of a history means, whatever is done with it. -/
structure Means (p : Persona Json) (scope : Scope) (user : String) (position : Int)
    (m : Message Json) : Prop where
  /-- It is the one at that position, counted from 1. -/
  stands : (p.history scope user)[position.toNat - 1]? = some m
  /-- Choosing the position shows the message and nothing else. -/
  chosen : ∀ textMode, View.selected (p.history scope user) [position] textMode =
    (View.selectedMessage position m textMode).map ([·])
  /-- Its block shows the message, under the number. -/
  shown : ∀ textMode block, View.selectedMessage position m textMode = .ok block →
    View.Shows (View.chosenWords textMode) textMode false position m block
  /-- In the whole history a block has that place, and shows the message under the number as
  well. -/
  listed : ∀ textMode shown, View.history (p.history scope user) 0 textMode = .ok shown →
    ∃ blocks : List String, shown = View.rule.intercalate blocks ∧
      blocks.length = (p.history scope user).length ∧
      ∃ block, blocks[position.toNat - 1]? = some block ∧
        View.Shows (View.wordsOf textMode) textMode true position m block
  /-- An edit changes its text and nothing else of it. -/
  reworded : ∀ content, p.editAt? scope user position content =
    some (p.setHistory scope user
      ((p.history scope user).set (position.toNat - 1) { m with content := content }))
  /-- A deletion takes it out, and no other message. -/
  deleted : p.deleteAt scope user [position] =
    (p.setHistory scope user ((p.history scope user).eraseIdx (position.toNat - 1)),
      [position.toNat])

variable {p : Persona Json} {scope : Scope} {user : String} {position : Int}

private theorem means_of_at? {m : Message Json}
    (hat : (p.history scope user).at? position = some m) :
    p.Means scope user position m := by
  obtain ⟨hpos, hm⟩ := History.at?_eq_some_iff.mp hat
  have hle : position ≤ (p.history scope user).length :=
    (History.isSome_at?_iff.mp (Option.isSome_of_eq_some hat)).2
  have hnumber : ((position.toNat - 1 + 1 : Nat) : Int) = position := by omega
  refine ⟨hm, fun textMode ↦ ?_, fun textMode block ↦ View.shows_of_selectedMessage,
    fun textMode shown hs ↦ ?_, fun content ↦ ?_, ?_⟩
  · rw [View.selected_singleton, hat]
  · obtain ⟨blocks, hshown, hlength, heach⟩ := View.exists_blocks hs
    obtain ⟨block, hblock, hmessage⟩ := heach _ m hm
    rw [hnumber] at hmessage
    exact ⟨blocks, hshown, hlength, block, hblock, View.shows_of_message hmessage⟩
  · rw [editAt?, hat, Option.map_some, History.setText, List.modify_eq_set_getElem?, hm]
    rfl
  · have hremove : (p.history scope user).remove [position] =
        ((p.history scope user).eraseIdx (position.toNat - 1), [position.toNat]) := by
      simp [History.remove, History.lastFirst, History.enter, History.removeEach, hpos, hle]
    rw [deleteAt, hremove]

/-- A position that is not there is shown by nothing, and neither reworded nor deleted. -/
private theorem means_nothing (hat : (p.history scope user).at? position = none) :
    (∀ textMode, View.selected (p.history scope user) [position] textMode = .ok []) ∧
      (∀ content, p.editAt? scope user position content = none) ∧
      (p.deleteAt scope user [position]).2 = [] := by
  refine ⟨fun textMode ↦ ?_, fun content ↦ ?_, ?_⟩
  · rw [View.selected_singleton, hat]
  · rw [editAt?, hat, Option.map_none]
  · have hout : ¬ (1 ≤ position ∧ position ≤ (p.history scope user).length) := by
      rw [← History.isSome_at?_iff, hat]
      nofun
    rw [deleteAt_eq]
    refine List.eq_nil_iff_forall_not_mem.mpr fun k hk ↦ ?_
    obtain ⟨hk, h1, hle⟩ := History.mem_present_iff.mp hk
    rw [List.mem_singleton] at hk
    omega

end Persona
end PersonaChat
