import PersonaChat.Proofs.Command.Index
import PersonaChat.Proofs.Command.Precedence

/-!
# Commands are read back

Each command to a persona has a canonical writing: marks, the name, and behind it an operator with
its arguments. Main statement: a message in canonical writing is read as the command that it
writes, whatever the names, the marks and the arguments are.

Spec guidance: `SPEC_FULL.md`, lines 80–84.
-/

namespace PersonaChat.Command

open Text Number

/-! ### Lists of items -/

private theorem graphic_of_mem_natChars {n : Nat} {c : Char} (h : c ∈ natChars n) : Graphic c := by
  have hdigit := isAsciiDigit_of_mem_natChars h
  rw [isAsciiDigit, Bool.and_eq_true, decide_eq_true_eq, decide_eq_true_eq] at hdigit
  unfold Graphic
  omega

private theorem Span.graphic_of_mem_chars {s : Span} {c : Char} (h : c ∈ s.chars) : Graphic c := by
  unfold Span.chars at h
  split at h
  · exact graphic_of_mem_natChars h
  · rcases List.mem_append.mp h with h | h
    · exact graphic_of_mem_natChars h
    · rcases List.mem_cons.mp h with rfl | h
      · decide
      · exact graphic_of_mem_natChars h

/-- Items with commas between them. -/
def listed (first : Span) (more : List Span) : List Char := Span.joined first (more.map (',', ·))

private theorem graphic_of_mem_listed {first : Span} {more : List Span} {c : Char}
    (h : c ∈ listed first more) : Graphic c := by
  rcases List.mem_append.mp h with h | h
  · exact Span.graphic_of_mem_chars h
  · obtain ⟨entry, hentry, hc⟩ := List.mem_flatMap.mp h
    obtain ⟨s, -, rfl⟩ := List.mem_map.mp hentry
    rcases List.mem_cons.mp hc with rfl | hc
    · show Graphic ','
      decide
    · exact Span.graphic_of_mem_chars hc

/-- A list starts with a digit, so with no sign. -/
theorem exists_listed (first : Span) (more : List Span) :
    ∃ d r, listed first more = d :: r ∧ d ≠ '*' ∧ d ≠ '$' := by
  obtain ⟨d, r, hd⟩ := List.exists_cons_of_ne_nil (natChars_ne_nil first.first)
  have hstart : ∃ r', listed first more = d :: r' := by
    unfold listed Span.joined Span.chars
    rw [hd]
    split
    · exact ⟨_, rfl⟩
    · exact ⟨_, rfl⟩
  obtain ⟨r', hr'⟩ := hstart
  have hmem : d ∈ natChars first.first := by
    rw [hd]
    exact List.mem_cons_self
  have hdigit := isAsciiDigit_of_mem_natChars hmem
  refine ⟨d, r', hr', ?_, ?_⟩
  all_goals
    rintro rfl
    cases hdigit

/-! ### Operators on histories -/

/-- No number is too long, and some position is named. -/
structure Readable (spans : List Span) : Prop where
  short : ∀ s ∈ spans, s.Short
  named : ∃ k, k ≠ 0 ∧ ∃ s ∈ spans, s.Names k

/-- A list of items is read as the positions that it names, at least one. -/
theorem readIndices_listed {first : Span} {more : List Span} (h : Readable (first :: more)) :
    ∃ ks, readIndices (listed first more) = .ok ks ∧ Lists (first :: more) ks ∧ ks ≠ [] := by
  have hitems : (more.map ((',', ·) : Span → Char × Span)).map Prod.snd = more := by
    rw [List.map_map]
    exact List.map_id more
  have hcomma : ∀ entry ∈ more.map ((',', ·) : Span → Char × Span), Span.Separates entry.1 := by
    intro entry hentry
    obtain ⟨s, -, rfl⟩ := List.mem_map.mp hentry
    show Span.Separates ','
    exact ⟨by decide, by decide⟩
  obtain ⟨ks, hks, hlists⟩ := readIndices_joined hcomma (by rw [hitems]; exact h.short)
  rw [hitems] at hlists
  refine ⟨ks, hks, hlists, ?_⟩
  rintro rfl
  obtain ⟨k, hk⟩ := h.named
  exact List.not_mem_nil ((hlists.mem_iff k).mpr hk)

/-- What is written to work on a history. -/
inductive HistoryWriting where
  /-- Show all of it. -/
  | viewAll
  /-- Write it to a file. -/
  | exportHistory
  /-- Empty it. -/
  | clearHistory
  /-- Show positions. -/
  | viewAt (first : Span) (more : List Span)
  /-- Delete positions. -/
  | deleteAt (first : Span) (more : List Span)
  /-- Edit a position. -/
  | editAt (position : Nat) (content : List Char)

namespace HistoryWriting

/-- The operator with its arguments. -/
def chars : HistoryWriting → List Char
  | .viewAll => ['/', '*']
  | .exportHistory => ['_', '*']
  | .clearHistory => ['-', '*']
  | .viewAt first more => '/' :: listed first more
  | .deleteAt first more => '-' :: listed first more
  | .editAt position content => '\'' :: (natChars position ++ ' ' :: content)

/-- The action in a scope. -/
def action (scope : Scope) : HistoryWriting → Action
  | .viewAll => .viewAll scope
  | .exportHistory => .exportHistory scope
  | .clearHistory => .clearHistory scope
  | .viewAt _ _ => .viewAt scope
  | .deleteAt _ _ => .deleteAt scope
  | .editAt _ _ => .editAt scope

/-- The text argument. -/
def args : HistoryWriting → List Char
  | .editAt _ content => content
  | _ => []

/-- The items of the list. -/
def items : HistoryWriting → List Span
  | .viewAt first more | .deleteAt first more => first :: more
  | .editAt position _ => [⟨position, none⟩]
  | _ => []

/-- A list that is there names a position, and a content that is there is trimmed. -/
structure Proper (w : HistoryWriting) : Prop where
  readable : w.items ≠ [] → Readable w.items
  trimmed : trim w.args = w.args

/-- A list behind a sign is neither trimmed nor narrowed. -/
private theorem sign_listed {c : Char} (hc : Graphic c) (first : Span) (more : List Span) :
    trimRight (c :: listed first more) = c :: listed first more ∧
      normalize (c :: listed first more) = c :: listed first more := by
  have hgraphic : ∀ d ∈ c :: listed first more, Graphic d := by
    intro d hd
    rcases List.mem_cons.mp hd with rfl | hd
    · exact hc
    · exact graphic_of_mem_listed hd
  exact ⟨trimRight_of_solid fun d hd ↦ (hgraphic d hd).isBlank_eq, normalize_of_graphic hgraphic⟩

/-- A position is followed by a content that stands behind one blank, unless it is empty. -/
private theorem trimRight_edit (position : Nat) (content : List Char) :
    trimRight ('\'' :: (natChars position ++ ' ' :: content)) =
      '\'' :: (natChars position ++ trimRight (' ' :: content)) := by
  have hsolid : ∀ c ∈ natChars position, isBlank c = false :=
    fun c hc ↦ (graphic_of_mem_natChars hc).isBlank_eq
  rw [trimRight_solid_cons (by decide), trimRight_append_of_solid hsolid]

/-- A position and a content are read back. -/
private theorem readHistorySuffix_edit (position : Nat) {content : List Char}
    (hcontent : trim content = content) (scope : Scope) (narrowed talk : List Char) {ks : List Nat}
    (hks : readIndices (natChars position) = .ok ks) :
    readHistorySuffix scope ('\'' :: narrowed)
      ('\'' :: (natChars position ++ trimRight (' ' :: content))) talk =
        .ok ⟨.editAt scope, content, ks⟩ := by
  have hblank : isBlank ' ' = true := by decide
  have hcut : cutAtBlank (natChars position ++ trimRight (' ' :: content)) =
      (natChars position, if content = [] then none else some content) := by
    rw [cutAtBlank_append fun c hc ↦ (graphic_of_mem_natChars hc).isBlank_eq,
      trimRight_blank_cons hblank hcontent]
    split
    · simp [cutAtBlank]
    · simp [cutAtBlank, hblank]
  have htail : trim ((if content = [] then none else some content).getD []) = content := by
    split
    · next hnil =>
      rw [hnil]
      rfl
    · exact hcontent
  have hhead :=
    normalize_of_graphic fun c (hc : c ∈ natChars position) ↦ graphic_of_mem_natChars hc
  simp only [readHistorySuffix, List.drop_succ_cons, List.drop_zero, hcut, hhead, hks, htail]
  rfl

/-- What is written to work on a history is read back. -/
theorem readHistorySuffix_chars {w : HistoryWriting} (hw : w.Proper) (scope : Scope)
    (talk : List Char) :
    ∃ ks, Lists w.items ks ∧
      readHistorySuffix scope (normalize (trimRight w.chars)) (trimRight w.chars) talk =
        .ok ⟨w.action scope, w.args, ks⟩ := by
  cases w with
  | viewAll => exact ⟨[], lists_nil, rfl⟩
  | exportHistory => exact ⟨[], lists_nil, rfl⟩
  | clearHistory => exact ⟨[], lists_nil, rfl⟩
  | viewAt first more | deleteAt first more =>
    obtain ⟨ks, hks, hlists, hne⟩ := readIndices_listed (hw.readable (List.cons_ne_nil _ _))
    obtain ⟨d, r, hd, hstar, -⟩ := exists_listed first more
    have hslash := sign_listed (c := '/') (by decide) first more
    have hhyphen := sign_listed (c := '-') (by decide) first more
    refine ⟨ks, hlists, ?_⟩
    simp only [chars, hslash, hhyphen, action, args]
    rw [hd] at hks ⊢
    simp [readHistorySuffix, hstar, hks, hne, bind, Except.bind, pure, Except.pure]
  | editAt position content =>
    obtain ⟨ks, hks, hlists, -⟩ := readIndices_listed (hw.readable (List.cons_ne_nil _ _))
    have hposition : listed ⟨position, none⟩ [] = natChars position := List.append_nil _
    rw [hposition] at hks
    refine ⟨ks, hlists, ?_⟩
    rw [chars, trimRight_edit]
    exact readHistorySuffix_edit position hw.trimmed scope _ talk hks

/-- Directly behind a name, nothing else takes what is written to work on a history. -/
theorem readSuffix_eq_readHistorySuffix (w : HistoryWriting) (marked : Bool) :
    readSuffix (normalize (trimRight w.chars)) (trimRight w.chars) marked =
      readHistorySuffix (.ofPrivate marked) (normalize (trimRight w.chars)) (trimRight w.chars)
        (trimRight w.chars) := by
  cases w with
  | viewAll => rfl
  | exportHistory => rfl
  | clearHistory => rfl
  | viewAt first more =>
    obtain ⟨d, r, hd, -, hdollar⟩ := exists_listed first more
    simp only [chars, sign_listed (c := '/') (by decide) first more]
    rw [hd]
    simp [readSuffix, hdollar]
  | deleteAt first more =>
    simp only [chars, sign_listed (c := '-') (by decide) first more]
    rfl
  | editAt position content =>
    rw [chars, trimRight_edit]
    rfl

/-- What is written to work on a history is set off, by a sign. -/
theorem setOff (w : HistoryWriting) :
    ∃ c r, w.chars = c :: r ∧ isBlank c = false ∧ SetOff c r := by
  cases w with
  | clearHistory =>
    refine ⟨_, _, rfl, rfl, setOff_hyphen fun d hd ↦ ?_⟩
    rw [List.mem_singleton.mp hd]
    decide
  | deleteAt first more =>
    exact ⟨_, _, rfl, rfl, setOff_hyphen fun d hd ↦ (graphic_of_mem_listed hd).isBlank_eq⟩
  | _ => exact ⟨_, _, rfl, rfl, setOff_of_sign (by decide) _⟩

end HistoryWriting

/-! ### Commands to a persona -/

/-- What is written behind a name. -/
inductive Writing where
  /-- Talk. -/
  | chat (text : List Char)
  /-- Copy the persona. -/
  | copy (text : List Char)
  /-- Rename it. -/
  | rename (text : List Char)
  /-- Ask for the last answer anew. -/
  | regenerate (text : List Char)
  /-- Drop the answer under way. -/
  | stop
  /-- Describe the persona. -/
  | setDescription (text : List Char)
  /-- Choose its model. -/
  | setModel (text : List Char)
  /-- Set its system prompt. -/
  | setPrompt (text : List Char)
  /-- Show its system prompt. -/
  | viewPrompt
  /-- Work on a history, the private one where a mark stands right behind the name. -/
  | onHistory (marked : Bool) (w : HistoryWriting)

namespace Writing

/-- The text behind the name. -/
def chars : Writing → List Char
  | .chat text => ' ' :: text
  | .copy text => '~' :: '#' :: text
  | .rename text => '~' :: '=' :: text
  | .regenerate text => '~' :: ' ' :: text
  | .stop => ['!']
  | .setDescription text => ':' :: ' ' :: text
  | .setModel text => '%' :: text
  | .setPrompt text => '$' :: text
  | .viewPrompt => ['/', '$']
  | .onHistory false w => w.chars
  | .onHistory true w => '&' :: w.chars

/-- The action, given whether the private mark stands before the name. -/
def action (before : Bool) : Writing → Action
  | .chat _ => .chat
  | .copy _ => .copy
  | .rename _ => .rename
  | .regenerate _ => .regenerate
  | .stop => .stop
  | .setDescription _ => .setDescription
  | .setModel _ => .setModel
  | .setPrompt _ => .setPrompt
  | .viewPrompt => .viewPrompt
  | .onHistory behind w => w.action (.ofPrivate (before || behind))

/-- The text argument. -/
def args : Writing → List Char
  | .chat text | .copy text | .rename text | .regenerate text | .setDescription text
  | .setModel text | .setPrompt text => text
  | .stop | .viewPrompt => []
  | .onHistory _ w => w.args

/-- The items of the list. -/
def items : Writing → List Span
  | .onHistory _ w => w.items
  | _ => []

/-- Signs that talk does not start with. -/
def operators : List Char := ['~', '!', ':', '%', '$', '/', '&', '_', '\'', '-']

/-- Text arguments are trimmed, lists name a position, and talk is not empty and starts with no
operator. -/
structure Proper (w : Writing) : Prop where
  readable : w.items ≠ [] → Readable w.items
  trimmed : trim w.args = w.args
  talk : ∀ text, w = .chat text → ∃ c r, text = c :: r ∧ narrow c ∉ operators

private theorem Proper.onHistory {marked : Bool} {w : HistoryWriting}
    (h : (onHistory marked w).Proper) :
    w.Proper where
  readable := h.readable
  trimmed := h.trimmed

/-- Text that starts with no operator is talk. -/
theorem readSuffix_talk {c : Char} (h : c ∉ operators) (r typed : List Char) (marked : Bool) :
    readSuffix (c :: r) typed marked = .ok (.ofText .chat typed) := by
  simp only [operators, List.mem_cons, List.not_mem_nil, or_false, not_or] at h
  simp [readSuffix, readHistorySuffix, h]

/-- What is written behind a name is set off from it. -/
theorem setOff {w : Writing} (hw : w.Proper) : ∃ c r, w.chars = c :: r ∧ SetOff c r := by
  cases w with
  | chat text =>
    obtain ⟨c, r, rfl, -⟩ := hw.talk text rfl
    have htext : trim (c :: r) = c :: r := hw.trimmed
    exact ⟨' ', c :: r, rfl, setOff_blank htext (List.cons_ne_nil c r)⟩
  | setDescription text =>
    refine ⟨':', ' ' :: text, rfl, by decide, by decide, trimRight_solid_cons (by decide) _,
      ?_, nofun⟩
    intro _ hslashes
    cases (List.cons_prefix_cons.mp hslashes).1
  | onHistory marked w =>
    cases marked with
    | false =>
      obtain ⟨c, r, hc, -, hset⟩ := w.setOff
      exact ⟨c, r, hc, hset⟩
    | true => exact ⟨_, _, rfl, setOff_of_sign (by decide) _⟩
  | _ => exact ⟨_, _, rfl, setOff_of_sign (by decide) _⟩

/-- What is written behind a name to work on a history is read back, with or without a mark before
it. -/
theorem readSuffix_onHistory {behind : Bool} {w : HistoryWriting}
    (hw : (onHistory behind w).Proper)
    (marked : Bool) :
    ∃ ks, Lists w.items ks ∧
      readSuffix (normalize (trim (trimRight (onHistory behind w).chars)))
        (trim (trimRight (onHistory behind w).chars)) marked =
          .ok ⟨w.action (.ofPrivate (marked || behind)), w.args, ks⟩ := by
  obtain ⟨c, r, hc, hsolid, -⟩ := w.setOff
  cases behind with
  | false =>
    obtain ⟨ks, hlists, hread⟩ :=
      w.readHistorySuffix_chars hw.onHistory (.ofPrivate marked) (trimRight w.chars)
    have htyped : trim (trimRight w.chars) = trimRight w.chars := by
      rw [hc, trim_trimRight_of_solid hsolid, trimRight_solid_cons hsolid]
    refine ⟨ks, hlists, ?_⟩
    rw [chars, htyped, w.readSuffix_eq_readHistorySuffix, hread, Bool.or_false]
  | true =>
    obtain ⟨ks, hlists, hread⟩ :=
      w.readHistorySuffix_chars hw.onHistory .personal ('&' :: trimRight w.chars)
    refine ⟨ks, hlists, ?_⟩
    rw [chars, trim_trimRight_of_solid (by decide), Bool.or_true]
    exact hread

/-- What is written behind a name is read back. -/
theorem readSuffix_chars {w : Writing} (hw : w.Proper) (marked : Bool) :
    ∃ ks, Lists w.items ks ∧
      readSuffix (normalize (trim (trimRight w.chars))) (trim (trimRight w.chars)) marked =
        .ok ⟨w.action marked, w.args, ks⟩ := by
  have hblank : isBlank ' ' = true := by decide
  have htext : trim w.args = w.args := hw.trimmed
  have hend : trimRight w.args = w.args := (trimmed_ends htext).2
  cases w with
  | chat text =>
    obtain ⟨c, r, rfl, hc⟩ := hw.talk text rfl
    refine ⟨[], lists_nil, ?_⟩
    simp only [args] at htext
    simp only [chars, trim_trimRight_blank_cons hblank htext]
    exact readSuffix_talk hc _ _ _
  | stop => exact ⟨[], lists_nil, rfl⟩
  | viewPrompt => exact ⟨[], lists_nil, rfl⟩
  | copy text | rename text =>
    refine ⟨[], lists_nil, ?_⟩
    simp only [args] at htext hend
    rw [chars, trim_trimRight_of_solid (by decide), trimRight_solid_cons (by decide), hend]
    show Except.ok (Suffix.ofText _ (trim text)) = _
    rw [htext]
    rfl
  | setModel text | setPrompt text =>
    refine ⟨[], lists_nil, ?_⟩
    simp only [args] at htext hend
    rw [chars, trim_trimRight_of_solid (by decide), hend]
    show Except.ok (Suffix.ofText _ (trim text)) = _
    rw [htext]
    rfl
  | regenerate text | setDescription text =>
    refine ⟨[], lists_nil, ?_⟩
    simp only [args] at htext
    rw [chars, trim_trimRight_of_solid (by decide), trimRight_blank_cons hblank htext]
    split
    · next hnil =>
      rw [hnil]
      rfl
    · show Except.ok (Suffix.ofText _ (trim (' ' :: text))) = _
      rw [trim, trimLeft_of_blank hblank, ← trim, htext]
      rfl
  | onHistory behind w => exact readSuffix_onHistory hw marked

end Writing

/-- A message in canonical writing is read as the command that it writes: marks in any order and
number, a registered name whatever the other names are, and any operator with its arguments. -/
theorem commands_are_read_back {names : List String} (h : Legible names) {name : String}
    (hname : name ∈ names) {marks : List Char} (hmarks : ∀ m ∈ marks, m = '&' ∨ m = '"')
    {w : Writing} (hw : w.Proper) :
    ∃ ks, Lists w.items ks ∧
      read? (String.ofList (marks ++ name.toList ++ w.chars)) names =
        .ok (some (.command
          { agent := name
            action := w.action (marks.contains '&')
            args := String.ofList w.args
            indices := ks.map Int.ofNat
            privateReply := marks.contains '&'
            textMode := marks.contains '"' })) := by
  obtain ⟨ks, hlists, hsuffix⟩ := w.readSuffix_chars hw (marks.contains '&')
  obtain ⟨c, r, hchars, hset⟩ := w.setOff hw
  refine ⟨ks, hlists, ?_⟩
  have hmessage := read?_message h hname (fun m hm ↦ isMark_iff.mpr (hmarks m hm)) hset
  rw [hchars, hset.trimRight_eq] at hsuffix
  rw [hchars, hmessage, hsuffix]
  rfl

/-- `Bo` is found although `Bot` is longer, and overlapping items count once. -/
theorem commands_are_read_back_of_overlap :
    let names := ["Bot", "Bo", "翻译"]
    let w : Writing := .onHistory true (.deleteAt ⟨3, some 5⟩ [⟨1, none⟩, ⟨4, none⟩])
    Legible names ∧ "Bo" ∈ names ∧ (∀ m ∈ ['"', '&', '"'], m = '&' ∨ m = '"') ∧ w.Proper ∧
      read? "\"&\"Bo&-3-5,1,4" names =
        .ok (some (.command ⟨"Bo", .deleteAt .personal, "", [1, 3, 4, 5], true, true⟩)) := by
  intro names w
  have hplain : names.all (fun name ↦ name.toList.all fun c ↦
      decide (c ∉ fullWidth.map Prod.fst)) = true := by decide
  have hnames : Legible names :=
    { apart := ⟨by decide, by decide +kernel⟩
      plain := fun name hname c hc ↦
        of_decide_eq_true (List.all_eq_true.mp (List.all_eq_true.mp hplain name hname) c hc) }
  have hnamed (k : Nat) : (∃ s ∈ w.items, s.Names k) ↔ (3 ≤ k ∧ k ≤ 5) ∨ k = 1 ∨ k = 4 := by
    simp [w, Writing.items, HistoryWriting.items, Span.Names, maxSpan]
    omega
  have hdigits : ∀ s ∈ w.items, s.first < 10 ∧ ∀ b ∈ s.last, b < 10 := by
    simp [w, Writing.items, HistoryWriting.items]
  have hproper : w.Proper :=
    { readable := fun _ ↦
        { short := fun s hs ↦ Span.short_of_lt_ten (hdigits s hs)
          named := ⟨1, by decide, (hnamed 1).mpr (by decide)⟩ }
      trimmed := rfl
      talk := fun text heq ↦ by simp [w] at heq }
  have hname : "Bo" ∈ names := by decide
  have hmarks : ∀ m ∈ ['"', '&', '"'], m = '&' ∨ m = '"' := by simp
  obtain ⟨ks, hlists, hread⟩ := commands_are_read_back hnames hname hmarks hproper
  have hpositions : Lists w.items [1, 3, 4, 5] :=
    { ascending := by decide
      mem_iff := fun k ↦ by
        rw [hnamed]
        simp
        omega }
  refine ⟨hnames, hname, hmarks, hproper, ?_⟩
  rw [hlists.unique hpositions] at hread
  exact hread

end PersonaChat.Command
