import PersonaChat.Proofs.Command.Mistaken

/-!
# Which positions an operator acts on

Positions are not parsed but found: every run of digits in the text behind an operator counts,
whatever surrounds it. So the operators act on exactly the positions that the text mentions, and
talk is what mentions none. An index expression mentions what it lists; so does any sentence with a
number in it. Main statement: what is viewed or deleted, and what is talk, for every text behind an
operator, and that only an index expression acts where no other text has a digit.

Spec guidance: `SPEC_FULL.md`, lines 95–103.
-/

namespace PersonaChat.Command

open Text Number

variable {cs rest : List Char} {spans : List Span}

/-! ### What a text mentions -/

/-- The numbers and ranges in a text, from left to right, each as long as can be. -/
inductive Mentions : List Char → List Span → Prop
  /-- Nothing is left. -/
  | done : Mentions [] []
  /-- Another character takes part in no number. -/
  | other {c : Char} {cs : List Char} {spans : List Span} (hc : isDecimal c = false)
      (h : Mentions cs spans) : Mentions (c :: cs) spans
  /-- A number or a range. -/
  | item {item : IndexItem} {s : Span} {rest : List Char} {spans : List Span}
      (hitem : item.Denotes s) (hends : item.EndsAt rest) (h : Mentions rest spans) :
      Mentions (item.chars ++ rest) (s :: spans)

/-- Runs of digits denote something. -/
theorem IndexItem.OfDigits.exists_denotes {item : IndexItem} (h : item.OfDigits) :
    ∃ s, item.Denotes s := by
  obtain ⟨first, last⟩ := item
  obtain ⟨a, ha⟩ := exists_decimalValue?_eq h.first
  cases last with
  | none => exact ⟨⟨a, none⟩, h, ha, rfl⟩
  | some ds =>
    obtain ⟨b, hb⟩ := exists_decimalValue?_eq (h.last ds rfl)
    exact ⟨⟨a, some b⟩, h, ha, congrArg some hb⟩

/-- Every text mentions something, be it nothing. -/
theorem exists_mentions (cs : List Char) : ∃ spans, Mentions cs spans := by
  induction hn : cs.length using Nat.strong_induction_on generalizing cs with
  | _ n ih =>
    subst hn
    cases cs with
    | nil => exact ⟨[], .done⟩
    | cons c r =>
      rcases exists_item (c :: r) with hhead | ⟨item, rest, hcs, hof, hends⟩
      · obtain ⟨spans, h⟩ := ih r.length (Nat.lt_succ_self _) r rfl
        exact ⟨spans, .other (hhead c rfl) h⟩
      · have hshorter : rest.length < (c :: r).length := by
          rw [hcs, List.length_append]
          have := List.length_pos_iff.mpr hof.chars_ne_nil
          omega
        obtain ⟨spans, h⟩ := ih rest.length hshorter rest rfl
        obtain ⟨s, hs⟩ := hof.exists_denotes
        exact ⟨s :: spans, hcs ▸ .item hs hends h⟩

/-- What a text mentions is found in it, unless it holds a long run. -/
theorem Mentions.finds (h : Mentions cs spans) (hshort : ¬ HoldsLongRun cs) :
    List.Forall₂ IndexItem.Finds (hits indexItem? cs) spans := by
  induction h with
  | done => exact .nil
  | other hc _ ih =>
    rw [hits_cons (indexItem?_eq_none hc)]
    exact ih fun hlong ↦ hshort ((holdsLongRun_cons hc).mpr hlong)
  | item hitem hends _ ih =>
    rw [hitem.ofDigits.holdsLongRun_iff hends, not_or] at hshort
    rw [hits_append hitem.ofDigits.chars_ne_nil (hitem.ofDigits.indexItem?_append hends)]
    exact .cons (hitem.finds hshort.1) (ih hshort.2)

/-- The positions that a text mentions, ascending and each once. -/
def Positions (cs : List Char) (ks : List Nat) : Prop :=
  ∃ spans, Mentions cs spans ∧ Lists spans ks

/-- Exactly the positions that a text mentions are read, unless it holds a long run. -/
theorem readIndices_eq_ok_iff {ks : List Nat} :
    readIndices cs = .ok ks ↔ ¬ HoldsLongRun cs ∧ Positions cs ks := by
  constructor
  · intro hread
    have hshort : ¬ HoldsLongRun cs := by
      rw [← readIndices_eq_error_iff .numberTooLong, hread]
      nofun
    obtain ⟨spans, hmentions⟩ := exists_mentions cs
    obtain ⟨ks', hread', hlists⟩ := readIndices_of_hits (hmentions.finds hshort)
    cases hread.symm.trans hread'
    exact ⟨hshort, spans, hmentions, hlists⟩
  · rintro ⟨hshort, spans, hmentions, hlists⟩
    obtain ⟨ks', hread, hlists'⟩ := readIndices_of_hits (hmentions.finds hshort)
    rw [hread, hlists.unique hlists']

/-- A text without digits mentions nothing. -/
theorem mentions_nil (h : ∀ c ∈ cs, isDecimal c = false) : Mentions cs [] := by
  induction cs with
  | nil => exact .done
  | cons c cs ih =>
    exact .other (h c List.mem_cons_self) (ih fun d hd ↦ h d (List.mem_cons_of_mem c hd))

private theorem not_holdsLongRun_of_digitFree (h : ∀ c ∈ cs, isDecimal c = false) :
    ¬ HoldsLongRun cs := by
  rintro ⟨run, hrun, hlong, hdigits⟩
  obtain ⟨c, hc⟩ := List.exists_mem_of_length_pos (Nat.zero_lt_of_lt hlong)
  exact absurd (hdigits c hc) (by simp [h c (hrun.subset hc)])

/-! ### Index expressions -/

/-- No blank is a digit. -/
theorem isDecimal_of_isBlank {c : Char} (h : isBlank c = true) : isDecimal c = false := by
  have hbarred : ∀ n ∈ Name.barred, isDecimal (Char.ofNat n) = false := by decide +kernel
  have hc : Name.allows c = false := by
    rw [← Bool.not_eq_true]
    intro hallows
    rw [isBlank_of_allows hallows] at h
    cases h
  have := hbarred _ (Name.allows_eq_false_iff.mp hc)
  rwa [Char.ofNat_toNat] at this

/-- A comma of either width. -/
def IsComma (c : Char) : Prop := narrow c = ','

private theorem IsComma.isDecimal_eq {c : Char} (h : IsComma c) : isDecimal c = false := by
  have hnarrow : isDecimal (narrow c) = isDecimal c := eq_of_pairs (by decide) c
  rw [← hnarrow, h]
  decide

/-- A list of items with commas between them and blanks around them, and what they denote. -/
inductive Expresses : List Char → List Span → Prop
  /-- The last item. -/
  | last {front back : List Char} {item : IndexItem} {s : Span}
      (hfront : ∀ c ∈ front, isBlank c = true) (hback : ∀ c ∈ back, isBlank c = true)
      (hitem : item.Denotes s) : Expresses (front ++ (item.chars ++ back)) [s]
  /-- An item with others behind it. -/
  | more {front back rest : List Char} {item : IndexItem} {s : Span} {comma : Char}
      {spans : List Span}
      (hfront : ∀ c ∈ front, isBlank c = true) (hback : ∀ c ∈ back, isBlank c = true)
      (hitem : item.Denotes s) (hcomma : IsComma comma) (h : Expresses rest spans) :
      Expresses (front ++ (item.chars ++ (back ++ comma :: rest))) (s :: spans)

/-- A text is nothing but a list of items. -/
def IsExpression (cs : List Char) : Prop := ∃ spans, Expresses cs spans

/-- Blanks are passed over. -/
theorem Mentions.blanks {front : List Char} (hfront : ∀ c ∈ front, isBlank c = true)
    (h : Mentions cs spans) : Mentions (front ++ cs) spans := by
  induction front with
  | nil => exact h
  | cons c front ih =>
    exact .other (isDecimal_of_isBlank (hfront c List.mem_cons_self))
      (ih fun d hd ↦ hfront d (List.mem_cons_of_mem c hd))

/-- An item ends where blanks follow, and behind them nothing or a comma. -/
theorem IndexItem.endsAt_blanks (item : IndexItem) {back : List Char}
    (hback : ∀ c ∈ back, isBlank c = true) (hrest : ∀ c ∈ rest.head?, IsComma c) :
    item.EndsAt (back ++ rest) := by
  have hhead : ∀ c ∈ (back ++ rest).head?, isBlank c = true ∨ IsComma c := by
    cases back with
    | nil => exact fun c hc ↦ .inr (hrest c hc)
    | cons d back =>
      rintro c ⟨⟩
      exact .inl (hback _ List.mem_cons_self)
  refine ⟨fun c hc ↦ (hhead c hc).elim isDecimal_of_isBlank IsComma.isDecimal_eq, ?_⟩
  intro _ c r hr
  rw [hr] at hhead
  exact absurd (hhead '-' rfl) (by unfold IsComma; decide)

/-- An expression mentions what its items denote. -/
theorem Expresses.mentions (h : Expresses cs spans) : Mentions cs spans := by
  induction h with
  | @last front back item s hfront hback hitem =>
    have hends : item.EndsAt (back ++ []) := item.endsAt_blanks hback nofun
    have hnothing := Mentions.blanks hback .done
    rw [List.append_nil] at hends hnothing
    exact .blanks hfront (.item hitem hends hnothing)
  | @more front back rest item s comma spans hfront hback hitem hcomma _ ih =>
    have hends : item.EndsAt (back ++ comma :: rest) := by
      apply item.endsAt_blanks hback
      rintro c ⟨⟩
      exact hcomma
    exact .blanks hfront (.item hitem hends (.blanks hback (.other hcomma.isDecimal_eq ih)))

/-- The characters that an expression is made of. -/
def MayExpress (c : Char) : Prop := isBlank c = true ∨ isDecimal c = true ∨ c = '-' ∨ IsComma c

private theorem IndexItem.OfDigits.mayExpress {item : IndexItem} (h : item.OfDigits) :
    ∀ c ∈ item.chars, MayExpress c := by
  obtain ⟨first, last⟩ := item
  intro c hc
  cases last with
  | none => exact .inr (.inl (h.first c hc))
  | some ds =>
    rcases List.mem_append.mp hc with hc | hc
    · exact .inr (.inl (h.first c hc))
    · rcases List.mem_cons.mp hc with rfl | hc
      · exact .inr (.inr (.inl rfl))
      · exact .inr (.inl (h.last ds rfl c hc))

/-- Nothing else stands in an expression. -/
theorem Expresses.mayExpress (h : Expresses cs spans) : ∀ c ∈ cs, MayExpress c := by
  induction h with
  | last hfront hback hitem =>
    simp only [List.mem_append]
    rintro c (hc | hc | hc)
    · exact .inl (hfront c hc)
    · exact hitem.ofDigits.mayExpress c hc
    · exact .inl (hback c hc)
  | more hfront hback hitem hcomma _ ih =>
    simp only [List.mem_append, List.mem_cons]
    rintro c (hc | hc | hc | rfl | hc)
    · exact .inl (hfront c hc)
    · exact hitem.ofDigits.mayExpress c hc
    · exact .inl (hback c hc)
    · exact .inr (.inr (.inr hcomma))
    · exact ih c hc

/-- Digits stand in a text only if it is an expression. -/
def Unmixed (cs : List Char) : Prop := (∃ c ∈ cs, isDecimal c = true) → IsExpression cs

/-- A text that is no expression, where digits stand in expressions only, mentions nothing. -/
theorem Unmixed.positions_nil (h : Unmixed cs) (hcs : ¬ IsExpression cs) :
    ¬ HoldsLongRun cs ∧ Positions cs [] := by
  have hfree : ∀ c ∈ cs, isDecimal c = false := by
    intro c hc
    rw [← Bool.not_eq_true]
    exact fun hdigit ↦ hcs (h ⟨c, hc, hdigit⟩)
  exact ⟨not_holdsLongRun_of_digitFree hfree, [], mentions_nil hfree, lists_nil⟩

/-! ### Operators on positions -/

/-- What follows a name starts with an operator on positions, and the operand is the text behind
it. The signs that stand alone behind an operator make it another one. -/
inductive Operates (marked : Bool) : List Char → Action → List Char → Prop
  /-- Show positions. -/
  | view {operand : List Char} (hstar : operand ≠ ['*']) (hdollar : operand ≠ ['$']) :
      Operates marked ('/' :: operand) (.viewAt (.ofPrivate marked)) operand
  /-- Delete positions. -/
  | delete {operand : List Char} (hstar : operand ≠ ['*']) :
      Operates marked ('-' :: operand) (.deleteAt (.ofPrivate marked)) operand
  /-- Show positions of the private history. -/
  | viewPersonal {operand : List Char} (hstar : operand ≠ ['*']) :
      Operates marked ('&' :: '/' :: operand) (.viewAt .personal) operand
  /-- Delete positions of the private history. -/
  | deletePersonal {operand : List Char} (hstar : operand ≠ ['*']) :
      Operates marked ('&' :: '-' :: operand) (.deleteAt .personal) operand

/-- An action on positions, or talk where there are none. -/
def Suffix.ofPositions (action : Action) (talk : List Char) (ks : List Nat) : Suffix :=
  if ks = [] then .ofText .chat talk else ⟨action, [], ks⟩

/-- Whether an action shows or deletes positions. -/
def ActsOnPositions : Action → Prop
  | .viewAt _ | .deleteAt _ => True
  | _ => False

variable {scope : Scope} {narrowed typed talk operand : List Char} {action : Action}
  {marked : Bool}

/-- An operator on positions is talk where its operand mentions none. -/
theorem readHistorySuffix_operand (hstar : operand ≠ ['*']) :
    readHistorySuffix scope ('/' :: operand) typed talk =
        (readIndices operand).map (.ofPositions (.viewAt scope) talk) ∧
      readHistorySuffix scope ('-' :: operand) typed talk =
        (readIndices operand).map (.ofPositions (.deleteAt scope) talk) := by
  have hpositions (action : Action) : (do
      let indices ← readIndices operand
      return if indices.isEmpty then Suffix.ofText .chat talk else ⟨action, [], indices⟩ :
        Except IndexFault Suffix) = (readIndices operand).map (.ofPositions action talk) := by
    cases readIndices operand with
    | error _ => rfl
    | ok ks => simp [bind, Except.bind, pure, Except.pure, Except.map, Suffix.ofPositions]
  cases operand with
  | nil =>
    have hnil : readIndices [] = .ok [] :=
      readIndices_eq_ok_iff.mpr ⟨not_holdsLongRun_nil, [], .done, lists_nil⟩
    rw [hnil]
    exact ⟨rfl, rfl⟩
  | cons c r =>
    constructor
    · rw [← hpositions, readHistorySuffix]
      rintro rfl rfl
      exact hstar rfl
    · rw [← hpositions, readHistorySuffix]
      rintro rfl rfl
      exact hstar rfl

/-- What is read acts on positions only behind an operator on them. -/
theorem operand_of_readHistorySuffix {s : Suffix}
    (h : readHistorySuffix scope narrowed typed talk = .ok s) (hacts : ActsOnPositions s.action) :
    ∃ operand, operand ≠ ['*'] ∧
      (narrowed = '/' :: operand ∧ s.action = .viewAt scope ∨
        narrowed = '-' :: operand ∧ s.action = .deleteAt scope) := by
  have hpositions {cs : List Char} {action : Action} (h : (do
      let indices ← readIndices cs
      return if indices.isEmpty then Suffix.ofText .chat talk else ⟨action, [], indices⟩ :
        Except IndexFault Suffix) = .ok s) : s.action = action := by
    obtain ⟨indices, -, hs⟩ := bind_eq_ok h
    cases hs
    split at hacts
    · cases hacts
    · next hsome => rw [if_neg hsome]
  unfold readHistorySuffix at h
  dsimp only at h
  split at h
  · cases h
    cases hacts
  · next c r hstar =>
    refine ⟨c :: r, ?_, .inl ⟨rfl, hpositions h⟩⟩
    rintro ⟨⟩
    exact hstar rfl rfl
  · cases h
    cases hacts
  · obtain ⟨indices, -, hs⟩ := bind_eq_ok h
    cases hs
    cases hacts
  · cases h
    cases hacts
  · next c r hstar =>
    refine ⟨c :: r, ?_, .inr ⟨rfl, hpositions h⟩⟩
    rintro ⟨⟩
    exact hstar rfl rfl
  · cases h
    cases hacts

/-- Behind an operator on positions the suffix acts on those that the operand mentions. -/
theorem Operates.readSuffix_eq (h : Operates marked narrowed action operand) :
    readSuffix narrowed typed marked = (readIndices operand).map (.ofPositions action typed) := by
  cases h with
  | view hstar hdollar =>
    have hsuffix : readSuffix ('/' :: operand) typed marked =
        readHistorySuffix (.ofPrivate marked) ('/' :: operand) typed typed := by
      unfold readSuffix
      split
      case h_10 => rename_i heq; simp at heq; exact absurd heq hdollar
      all_goals first | rfl | (rename_i heq; cases heq)
    rw [hsuffix, (readHistorySuffix_operand hstar).1]
  | delete hstar =>
    rw [readSuffix, (readHistorySuffix_operand hstar).2]
    all_goals nofun
  | viewPersonal hstar => rw [readSuffix, (readHistorySuffix_operand hstar).1]
  | deletePersonal hstar => rw [readSuffix, (readHistorySuffix_operand hstar).2]

/-- Positions are shown or deleted only behind an operator on positions. -/
theorem operates_of_readSuffix {s : Suffix} (h : readSuffix narrowed typed marked = .ok s)
    (hacts : ActsOnPositions s.action) : ∃ operand, Operates marked narrowed s.action operand := by
  unfold readSuffix at h
  split at h
  case h_6 r =>
    -- A colon stands before the slash.
    obtain ⟨operand, -, ⟨hslash, -⟩ | ⟨hhyphen, -⟩⟩ := operand_of_readHistorySuffix h hacts
    · cases hslash
    · cases hhyphen
  case h_11 r =>
    obtain ⟨operand, hstar, ⟨rfl, haction⟩ | ⟨rfl, haction⟩⟩ :=
      operand_of_readHistorySuffix h hacts
    · exact ⟨operand, haction ▸ .viewPersonal hstar⟩
    · exact ⟨operand, haction ▸ .deletePersonal hstar⟩
  case h_12 hdollar _ =>
    obtain ⟨operand, hstar, ⟨rfl, haction⟩ | ⟨rfl, haction⟩⟩ :=
      operand_of_readHistorySuffix h hacts
    · refine ⟨operand, haction ▸ .view hstar ?_⟩
      rintro rfl
      exact hdollar rfl
    · exact ⟨operand, haction ▸ .delete hstar⟩
  all_goals
    cases h
    cases hacts

/-! ### Messages -/

/-- A message is for a persona, and an operator on positions stands behind the name. -/
structure Points (text : String) (names : List String) (name : String) (action : Action)
    (operand : List Char) : Prop where
  /-- The message is none without a name. -/
  unnamed : readUnnamed? text.toList = none
  /-- It deletes no persona. -/
  kept : readDelete? text.toList names = none
  /-- It starts with the name. -/
  named : matchName? (normalize (contentOf text.toList)) names = some name
  /-- The operator and its operand. -/
  operator : Operates ((marksOf text.toList).contains '&') (normalize (suffixOf text.toList name))
    action operand

/-- What a message to a persona asks for, given what its suffix says. -/
def Suffix.behind (suffix : Suffix) (cs : List Char) (name : String) : Command where
  agent := name
  action := suffix.action
  args := String.ofList suffix.args
  indices := suffix.indices.map Int.ofNat
  privateReply := (marksOf cs).contains '&'
  textMode := (marksOf cs).contains '"'

variable {text : String} {names : List String} {name : String}

/-- A message that names a persona is read as its suffix is. -/
theorem read?_behind (hunnamed : readUnnamed? text.toList = none)
    (hkept : readDelete? text.toList names = none)
    (hname : matchName? (normalize (contentOf text.toList)) names = some name) :
    read? text names =
    (readSuffix (normalize (suffixOf text.toList name)) (suffixOf text.toList name)
      ((marksOf text.toList).contains '&')).map fun suffix ↦
        some (.command (suffix.behind text.toList name)) := by
  unfold read? readPersona?
  simp only [hunnamed, hkept, hname]
  rw [← suffixOf]
  cases readSuffix (normalize (suffixOf text.toList name)) (suffixOf text.toList name)
    ((marksOf text.toList).contains '&') with
  | error _ => rfl
  | ok _ => rfl

/-- Behind an operator on positions a message asks for those that the operand mentions, and where
it mentions none the message is talk. -/
theorem Points.read?_eq (h : Points text names name action operand) :
    read? text names = (readIndices operand).map fun ks ↦
      some (.command
        ((Suffix.ofPositions action (suffixOf text.toList name) ks).behind text.toList name)) := by
  rw [read?_behind h.unnamed h.kept h.named, h.operator.readSuffix_eq]
  cases readIndices operand with
  | error _ => rfl
  | ok _ => rfl

/-- A command to a persona is what its suffix says behind the name that is found. -/
theorem exists_suffix_of_readPersona? {command : Command}
    (h : readPersona? cs names = .ok (some command)) :
    ∃ name suffix, matchName? (normalize (contentOf cs)) names = some name ∧
      readSuffix (normalize (suffixOf cs name)) (suffixOf cs name) ((marksOf cs).contains '&') =
        .ok suffix ∧ command = suffix.behind cs name := by
  unfold readPersona? at h
  dsimp only at h
  split at h
  · cases h
  · next name hname =>
    obtain ⟨suffix, hsuffix, hcommand⟩ := bind_eq_ok h
    cases hcommand
    exact ⟨name, suffix, hname, hsuffix, rfl⟩

/-- A message asks for positions only where an operator on them stands behind the name. -/
theorem exists_points {command : Command} (h : read? text names = .ok (some (.command command)))
    (hacts : ActsOnPositions command.action) :
    ∃ operand, Points text names command.agent command.action operand := by
  rcases read?_command_cases h with hglobal | ⟨hunnamed, ⟨name, -, rfl⟩ | ⟨hkept, hpersona⟩⟩
  · have hwords : ∀ entry ∈ globalWords, ¬ ActsOnPositions entry.2 := by
      simp [globalWords, ActsOnPositions]
    rcases (eq_global_of_readGlobal? hglobal).2 with ⟨entry, hentry, haction⟩ | ⟨model, haction⟩
    · exact absurd (haction ▸ hacts) (hwords entry hentry)
    · rw [haction] at hacts
      cases hacts
  · cases hacts
  · obtain ⟨name, suffix, hname, hsuffix, rfl⟩ := exists_suffix_of_readPersona? hpersona
    obtain ⟨operand, hoperator⟩ := operates_of_readSuffix hsuffix hacts
    exact ⟨operand, hunnamed, hkept, hname, hoperator⟩

/-- A message shows or deletes exactly the positions that its operand mentions, and where that
mentions none the message is talk, with all that follows the name as its text. So where digits
stand in an expression or nowhere, only expressions act and every other text is talk. -/
theorem operators_act_on_mentioned_positions (text : String) (names : List String) :
    (∀ command, read? text names = .ok (some (.command command)) → ActsOnPositions command.action →
      ∃ operand ks, Points text names command.agent command.action operand ∧
        Positions operand ks ∧ ks ≠ [] ∧ command.indices = ks.map Int.ofNat ∧
        (Unmixed operand → ∃ spans, Expresses operand spans ∧ Lists spans ks)) ∧
      (∀ name action operand ks, Points text names name action operand →
        ¬ HoldsLongRun operand → Positions operand ks →
          read? text names = .ok (some (.command
            ((Suffix.ofPositions action (suffixOf text.toList name) ks).behind text.toList
              name)))) ∧
      (∀ name action operand, Points text names name action operand →
        Unmixed operand → ¬ IsExpression operand →
          read? text names = .ok (some (.command
            ((Suffix.ofText .chat (suffixOf text.toList name)).behind text.toList name)))) ∧
      (∀ ks, readIndices text.toList = .ok ks ↔
        ¬ HoldsLongRun text.toList ∧ Positions text.toList ks) ∧
      (Unmixed text.toList → ¬ IsExpression text.toList → readIndices text.toList = .ok []) := by
  have hread {name : String} {action : Action} {operand : List Char} {ks : List Nat}
      (hpoints : Points text names name action operand) (hshort : ¬ HoldsLongRun operand)
      (hks : Positions operand ks) : read? text names = .ok (some (.command
        ((Suffix.ofPositions action (suffixOf text.toList name) ks).behind text.toList
          name))) := by
    rw [hpoints.read?_eq, readIndices_eq_ok_iff.mpr ⟨hshort, hks⟩]
    rfl
  refine ⟨fun command h hacts ↦ ?_, fun _ _ _ _ ↦ hread, ?_, fun ks ↦ readIndices_eq_ok_iff, ?_⟩
  · obtain ⟨operand, hpoints⟩ := exists_points h hacts
    rw [hpoints.read?_eq] at h
    cases hks : readIndices operand with
    | error fault =>
      rw [hks] at h
      cases h
    | ok ks =>
      obtain ⟨hshort, hpositions⟩ := readIndices_eq_ok_iff.mp hks
      have hcommand :
          (Suffix.ofPositions command.action (suffixOf text.toList command.agent) ks).behind
          text.toList command.agent = command := by
        simpa [hks, Except.map] using h
      have hne : ks ≠ [] := by
        rintro rfl
        rw [← hcommand] at hacts
        exact hacts
      refine ⟨operand, ks, hpoints, hpositions, hne, ?_, fun hunmixed ↦ ?_⟩
      · rw [← hcommand, Suffix.ofPositions, if_neg hne]
        rfl
      · by_cases hexpression : IsExpression operand
        · obtain ⟨spans, hspans⟩ := hexpression
          obtain ⟨ks', hks', hlists⟩ := readIndices_of_hits (hspans.mentions.finds hshort)
          cases hks.symm.trans hks'
          exact ⟨spans, hspans, hlists⟩
        · have hnil := readIndices_eq_ok_iff.mpr (hunmixed.positions_nil hexpression)
          cases hks.symm.trans hnil
          exact absurd rfl hne
  · intro name action operand hpoints hunmixed hexpression
    obtain ⟨hshort, hnil⟩ := hunmixed.positions_nil hexpression
    exact hread hpoints hshort hnil
  · exact fun hunmixed hexpression ↦
      readIndices_eq_ok_iff.mpr (hunmixed.positions_nil hexpression)

/-- A number behind a blank is an expression. -/
theorem operators_act_on_mentioned_positions_of_number :
    read? "Bot- 3" ["Bot"] =
        .ok (some (.command ⟨"Bot", .deleteAt .shared, "", [3], false, false⟩)) ∧
      ∃ operand ks, Points "Bot- 3" ["Bot"] "Bot" (.deleteAt .shared) operand ∧
        Positions operand ks ∧ ks ≠ [] ∧ [3] = ks.map Int.ofNat ∧
        (Unmixed operand → ∃ spans, Expresses operand spans ∧ Lists spans ks) := by
  have hread : read? "Bot- 3" ["Bot"] =
      .ok (some (.command ⟨"Bot", .deleteAt .shared, "", [3], false, false⟩)) := by
    decide +kernel
  exact ⟨hread, (operators_act_on_mentioned_positions _ _).1 _ hread trivial⟩

/-- A sentence with a number in it is no expression, and it deletes a message. -/
theorem not_only_expressions_act_of_sentence :
    Points "Bot-delete 3 things" ["Bot"] "Bot" (.deleteAt .shared) "delete 3 things".toList ∧
      ¬ IsExpression "delete 3 things".toList ∧
      read? "Bot-delete 3 things" ["Bot"] =
        .ok (some (.command ⟨"Bot", .deleteAt .shared, "", [3], false, false⟩)) := by
  refine ⟨⟨by decide +kernel, by decide +kernel, by decide +kernel, ?_⟩, ?_, by decide +kernel⟩
  · have hsuffix : normalize (suffixOf "Bot-delete 3 things".toList "Bot") =
        '-' :: "delete 3 things".toList := by decide +kernel
    rw [hsuffix]
    exact .delete (by decide)
  · rintro ⟨spans, hspans⟩
    rcases hspans.mayExpress 'd' (by decide) with hblank | hdigit | hhyphen | hcomma
    · exact absurd hblank (by decide)
    · exact absurd hdigit (by decide)
    · exact absurd hhyphen (by decide)
    · exact absurd hcomma (by unfold IsComma; decide)

end PersonaChat.Command
