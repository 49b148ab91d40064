import PersonaChat.Json.Reader
import PersonaChat.Json.Writer
import PersonaChat.Proofs.Text.Decimal

/-!
# Written documents are read back

A value without floating-point numbers, whose integers are not too long, whose objects have no key
twice and which is nested no deeper than the reader goes, is read back from its text in either
layout.
-/

namespace PersonaChat

/-- A fresh key comes last. -/
theorem Keyed.put_of_not_mem {κ α : Type} [DecidableEq κ] {k : κ} {m : Keyed κ α}
    (h : k ∉ m.map Prod.fst) (a : α) : Keyed.put k a m = m ++ [(k, a)] := by
  induction m with
  | nil => rfl
  | cons entry m ih =>
    obtain ⟨key, value⟩ := entry
    rw [List.map_cons, List.mem_cons, not_or] at h
    rw [Keyed.put, if_neg (Ne.symm h.1), ih h.2, List.cons_append]

namespace Json

open Text Number

/-! ### Blank characters -/

private theorem skipSpace_append {blanks : List Char} (h : ∀ c ∈ blanks, isSpace c = true)
    (cs : List Char) : skipSpace (blanks ++ cs) = skipSpace cs := by
  induction blanks with
  | nil => rfl
  | cons c blanks ih =>
    rw [List.cons_append, skipSpace, List.dropWhile_cons_of_pos (h c List.mem_cons_self)]
    exact ih fun d hd ↦ h d (List.mem_cons_of_mem c hd)

private theorem skipSpace_of_not {c : Char} (h : isSpace c = false) (r : List Char) :
    skipSpace (c :: r) = c :: r := by
  rw [skipSpace, List.dropWhile_cons_of_neg (by simp [h])]

/-- What stands before an item is blank. -/
theorem isSpace_of_mem_lead {layout : Layout} {level : Nat} {c : Char}
    (h : c ∈ layout.lead level) : isSpace c = true := by
  cases layout with
  | line => cases h
  | indented =>
    rcases List.mem_cons.mp h with rfl | h
    · rfl
    · rw [(List.mem_replicate.mp h).2]
      rfl

/-- What stands between two items is a comma and blanks. -/
theorem between_eq (layout : Layout) (level : Nat) :
    ∃ blanks, layout.between level = ',' :: blanks ∧ ∀ c ∈ blanks, isSpace c = true := by
  cases layout with
  | line =>
    refine ⟨[' '], rfl, fun c hc ↦ ?_⟩
    rw [List.mem_singleton.mp hc]
    rfl
  | indented => exact ⟨Layout.lead .indented level, rfl, fun c hc ↦ isSpace_of_mem_lead hc⟩

/-! ### Strings -/

private theorem hexValue?_hexChar {n : Nat} (h : n < 16) : hexValue? (hexChar n) = some n := by
  have hall : ∀ n < 16, hexValue? (hexChar n) = some n := by decide
  exact hall n h

private theorem charOrReplacement_toNat (c : Char) : charOrReplacement c.toNat = c := by
  rw [charOrReplacement, if_pos (show c.toNat.isValidChar from c.valid), Char.ofNat_toNat]

private theorem joinUnits_of_low {n : Nat} (h : n < 0xD800) (units : List (Char ⊕ Nat)) :
    joinUnits (.inr n :: units) = charOrReplacement n :: joinUnits units := by
  match units with
  | [] => rfl
  | .inl c :: units => rfl
  | .inr m :: units =>
    rw [joinUnits, if_neg]
    omega

private theorem stringBody_letter {letter c : Char} (hu : letter ≠ 'u')
    (h : escapeChar? letter = some c) (cs : List Char) :
    stringBody .plain (['\\', letter] ++ cs) =
      (stringBody .plain cs).map fun (body, rest) ↦ (.inl c :: body, rest) := by
  cases hbody : stringBody .plain cs with
  | none => simp [stringBody, hu, h, hbody]
  | some read => simp [stringBody, hu, h, hbody]

/-- A written character is read as one unit, which means that character. -/
theorem stringBody_escape (c : Char) : ∃ unit,
    (∀ cs, stringBody .plain (escape c ++ cs) =
      (stringBody .plain cs).map fun (body, rest) ↦ (unit :: body, rest)) ∧
    ∀ units, joinUnits (unit :: units) = c :: joinUnits units := by
  have plain (d : Char) : ∀ units, joinUnits (.inl d :: units) = d :: joinUnits units :=
    fun _ ↦ rfl
  unfold escape
  split
  · exact ⟨_, stringBody_letter (by decide) rfl, plain '"'⟩
  · exact ⟨_, stringBody_letter (by decide) rfl, plain '\\'⟩
  · exact ⟨_, stringBody_letter (by decide) rfl, plain '\n'⟩
  · exact ⟨_, stringBody_letter (by decide) rfl, plain '\r'⟩
  · exact ⟨_, stringBody_letter (by decide) rfl, plain '\t'⟩
  · exact ⟨_, stringBody_letter (by decide) rfl, plain '\x08'⟩
  · exact ⟨_, stringBody_letter (by decide) rfl, plain '\x0c'⟩
  · split
    · next hlow =>
      refine ⟨.inr c.toNat, fun cs ↦ ?_, fun units ↦ ?_⟩
      · have hzero : hexValue? '0' = some 0 := by decide
        have hhigh := hexValue?_hexChar (n := c.toNat / 16) (by omega)
        have hrest := hexValue?_hexChar (n := c.toNat % 16) (by omega)
        have hvalue : c.toNat / 16 * 16 + c.toNat % 16 = c.toNat := by omega
        cases hbody : stringBody .plain cs with
        | none => simp [stringBody, hzero, hhigh, hrest, hbody]
        | some read => simp [stringBody, hzero, hhigh, hrest, hvalue, hbody]
      · rw [joinUnits_of_low (by omega), charOrReplacement_toNat]
    · next hquote hslash _ _ _ _ _ hlow =>
      refine ⟨.inl c, fun cs ↦ ?_, plain c⟩
      show stringBody .plain (c :: cs) = _
      rw [stringBody, if_neg hquote, if_neg hslash, if_neg hlow]

/-- A written string is read back. -/
theorem string?_escapeAll (s : String) (rest : List Char) :
    string? (escapeAll s.toList ++ '"' :: rest) = some (s, rest) := by
  have hbody (cs : List Char) : ∃ units,
      stringBody .plain (escapeAll cs ++ '"' :: rest) = some (units, rest) ∧
      joinUnits units = cs := by
    induction cs with
    | nil => exact ⟨[], by simp [escapeAll, stringBody], rfl⟩
    | cons c cs ih =>
      obtain ⟨units, hunits, hjoin⟩ := ih
      obtain ⟨unit, hunit, hmeans⟩ := stringBody_escape c
      refine ⟨unit :: units, ?_, by rw [hmeans, hjoin]⟩
      rw [escapeAll, List.flatMap_cons, List.append_assoc, hunit]
      rw [escapeAll] at hunits
      rw [hunits]
      rfl
  obtain ⟨units, hunits, hjoin⟩ := hbody s.toList
  rw [string?, hunits]
  simp [hjoin]

/-! ### Numbers -/

/-- No number goes on here. -/
def Stops (cs : List Char) : Prop :=
  ∀ c ∈ cs.head?, isAsciiDigit c = false ∧ c ≠ '.' ∧ c ≠ 'e' ∧ c ≠ 'E'

private theorem stops_nil : Stops [] := nofun

private theorem stops_cons {c : Char} (h : isAsciiDigit c = false ∧ c ≠ '.' ∧ c ≠ 'e' ∧ c ≠ 'E')
    (cs : List Char) : Stops (c :: cs) := by
  intro d hd
  cases hd
  exact h

/-- The digits of a number end where no number goes on. -/
theorem wholeDigits_natChars (n : Nat) {rest : List Char} (h : Stops rest) :
    wholeDigits (natChars n ++ rest) = (natChars n, rest) := by
  obtain ⟨htake, hdrop⟩ := takeWhile_natChars (fun c hc ↦ hc) n fun c hc ↦ (h c hc).1
  cases n with
  | zero => rw [natChars_zero]; rfl
  | succ n =>
    cases hn : natChars (n + 1) with
    | nil => exact absurd hn (natChars_ne_nil _)
    | cons c ds =>
      have hc := head_natChars_ne_zero (Nat.succ_pos n) hn
      rw [hn] at htake hdrop
      unfold wholeDigits
      split
      · next heq => cases heq; exact absurd rfl hc
      · rw [htake, hdrop]

/-- A written natural number is read back, with either sign. -/
theorem number?_natChars {n : Nat} (hn : n < 10 ^ digitLimit) (negative : Bool) {rest : List Char}
    (h : Stops rest) : number? negative (natChars n ++ rest) =
      some (.int (if negative then -(n : Int) else n), rest) := by
  have hfraction : fraction? rest = none := by
    unfold fraction?
    split
    · exact absurd rfl (h '.' rfl).2.1
    · rfl
  have hpower : power? rest = none := by
    unfold power?
    split
    · next c r =>
      rw [if_neg]
      rintro (rfl | rfl)
      · exact absurd rfl (h 'e' rfl).2.2.1
      · exact absurd rfl (h 'E' rfl).2.2.2
    · rfl
  have hne : (natChars n).isEmpty = false := by simp [natChars_ne_nil]
  simp [number?, wholeDigits_natChars n h, hne, hfraction, hpower, ofDigits?_natChars hn]

/-- A text that starts with none of the words is a number. -/
theorem scalar?_of_no_word (cs : List Char) :
    (∀ word ∈ ["null", "true", "false", "NaN", "Infinity", "-Infinity"],
      word.toList.isPrefixOf cs = false) →
    scalar? cs = match cs with
      | '-' :: r => number? true r
      | cs => number? false cs := by
  intro h
  have none_of {word : String} (hw : word.toList.isPrefixOf cs = false) :
      scalar?.dropWord? word cs = none := by
    rw [scalar?.dropWord?, hw]
    rfl
  have hnull := none_of (h "null" (by simp))
  have htrue := none_of (h "true" (by simp))
  have hfalse := none_of (h "false" (by simp))
  have hnan := none_of (h "NaN" (by simp))
  have hinfinity := none_of (h "Infinity" (by simp))
  have hnegative := none_of (h "-Infinity" (by simp))
  unfold scalar?
  rewrite [hnull, htrue, hfalse, hnan, hinfinity, hnegative]
  rfl

/-- A text that starts with a digit is a number, and so it is after a minus. -/
theorem scalar?_of_digit {c : Char} (h : isAsciiDigit c = true) (cs : List Char) :
    scalar? (c :: cs) = number? false (c :: cs) ∧
    scalar? ('-' :: c :: cs) = number? true (c :: cs) := by
  have ne {d : Char} (hd : isAsciiDigit d = false) : (d == c) = false := by
    rw [beq_eq_false_iff_ne]
    rintro rfl
    rw [h] at hd
    cases hd
  constructor
  · rw [scalar?_of_no_word]
    · split
      · next heq =>
        cases heq
        exact absurd h (by decide)
      · rfl
    · intro word hword
      simp only [List.mem_cons, List.not_mem_nil, or_false] at hword
      rcases hword with rfl | rfl | rfl | rfl | rfl | rfl <;>
        simp [List.isPrefixOf, ne (d := 'n') rfl, ne (d := 't') rfl, ne (d := 'f') rfl,
          ne (d := 'N') rfl, ne (d := 'I') rfl, ne (d := '-') rfl]
  · rw [scalar?_of_no_word]
    · rfl
    · intro word hword
      simp only [List.mem_cons, List.not_mem_nil, or_false] at hword
      rcases hword with rfl | rfl | rfl | rfl | rfl | rfl <;>
        simp [List.isPrefixOf, ne (d := 'I') rfl]

/-- An integer starts with a digit or a minus. -/
theorem head_intChars (n : Int) :
    ∃ c cs, intChars n = c :: cs ∧ (isAsciiDigit c = true ∨ c = '-') := by
  cases n with
  | ofNat n =>
    cases hn : natChars n with
    | nil => exact absurd hn (natChars_ne_nil n)
    | cons c cs =>
      exact ⟨c, cs, hn, .inl (isAsciiDigit_of_mem_natChars (hn ▸ List.mem_cons_self))⟩
  | negSucc n => exact ⟨_, _, rfl, .inr rfl⟩

private theorem not_numeral {c d : Char} (hc : isAsciiDigit c = true ∨ c = '-')
    (hd : isAsciiDigit d = false) (hm : d ≠ '-') : c ≠ d := by
  rintro rfl
  rcases hc with hc | hc
  · rw [hc] at hd
    cases hd
  · exact hm hc

/-- A written integer is read back. -/
theorem scalar?_intChars {n : Int} (hn : n.natAbs < 10 ^ digitLimit) {rest : List Char}
    (h : Stops rest) : scalar? (intChars n ++ rest) = some (.int n, rest) := by
  have first (m : Nat) : ∃ c ds, natChars m = c :: ds ∧ isAsciiDigit c = true := by
    cases hm : natChars m with
    | nil => exact absurd hm (natChars_ne_nil m)
    | cons c ds => exact ⟨c, ds, rfl, isAsciiDigit_of_mem_natChars (hm ▸ List.mem_cons_self)⟩
  cases n with
  | ofNat n =>
    obtain ⟨c, ds, hds, hc⟩ := first n
    have hread := number?_natChars (n := n) hn false h
    rw [hds, List.cons_append] at hread
    rw [intChars, hds, List.cons_append, (scalar?_of_digit hc _).1, hread]
    rfl
  | negSucc n =>
    obtain ⟨c, ds, hds, hc⟩ := first (n + 1)
    have hread := number?_natChars (n := n + 1) hn true h
    rw [hds, List.cons_append] at hread
    rw [intChars, hds, List.cons_append, List.cons_append, (scalar?_of_digit hc _).2, hread]
    rfl

/-! ### Values -/

/-- A value that a reader understands which goes to a depth: it has no floating-point numbers, its
integers are not too long, and no object has a key twice. -/
inductive Writable : Nat → Json → Prop where
  /-- The null value. -/
  | null {depth : Nat} : Writable depth .null
  /-- A truth value. -/
  | bool {depth : Nat} {b : Bool} : Writable depth (.bool b)
  /-- An integer that is not too long. -/
  | int {depth : Nat} {n : Int} (short : n.natAbs < 10 ^ digitLimit) : Writable depth (.int n)
  /-- A string. -/
  | str {depth : Nat} {s : String} : Writable depth (.str s)
  /-- An array. -/
  | arr {depth : Nat} {items : List Json} (inner : ∀ item ∈ items, Writable depth item) :
      Writable (depth + 1) (.arr items)
  /-- An object without a key that occurs twice. -/
  | obj {depth : Nat} {fields : List (String × Json)} (distinct : (fields.map Prod.fst).Nodup)
      (inner : ∀ field ∈ fields, Writable depth field.2) : Writable (depth + 1) (.obj fields)

/-- The text of a value starts with no blank and with no closing bracket. -/
theorem Writable.starts {depth : Nat} {j : Json} (h : Writable depth j) (layout : Layout)
    (level : Nat) : ∃ c cs, render layout level j = c :: cs ∧ isSpace c = false ∧ c ≠ ']' := by
  cases h with
  | null => exact ⟨_, _, rfl, rfl, by decide⟩
  | @bool _ b => cases b <;> exact ⟨_, _, rfl, rfl, by decide⟩
  | @int _ n =>
    obtain ⟨c, cs, heq, hc⟩ := head_intChars n
    refine ⟨c, cs, heq, ?_, not_numeral hc rfl (by decide)⟩
    simp only [isSpace, Bool.or_eq_false_iff, beq_eq_false_iff_ne]
    exact ⟨⟨⟨not_numeral hc rfl (by decide), not_numeral hc rfl (by decide)⟩,
      not_numeral hc rfl (by decide)⟩, not_numeral hc rfl (by decide)⟩
  | str => exact ⟨_, _, rfl, rfl, by decide⟩
  | @arr _ items => cases items <;> exact ⟨_, _, rfl, rfl, by decide⟩
  | @obj _ fields => cases fields <;> exact ⟨_, _, rfl, rfl, by decide⟩

/-- The text of a value, with more text after it that continues no number, is read as the value,
given fuel for each of its characters. -/
def ReadsBack (layout : Layout) (depth : Nat) (j : Json) : Prop :=
  ∀ level fuel rest, 2 * (render layout level j).length ≤ fuel → Stops rest →
    value fuel depth (render layout level j ++ rest) = .ok (j, rest)

/-- After an item comes a comma, or blanks and the closing bracket. -/
private theorem stops_before_end {layout : Layout} {level : Nat} {close : Char}
    (hclose : isAsciiDigit close = false ∧ close ≠ '.' ∧ close ≠ 'e' ∧ close ≠ 'E')
    (rest : List Char) : Stops (layout.lead level ++ close :: rest) := by
  cases layout with
  | line => exact stops_cons hclose rest
  | indented => exact stops_cons (by decide) _

private theorem stops_between {layout : Layout} {level : Nat} (rest : List Char) :
    Stops (layout.between level ++ rest) := by
  obtain ⟨blanks, hb, -⟩ := between_eq layout level
  rw [hb]
  exact stops_cons (by decide) _

private theorem skipSpace_lead {layout : Layout} {level : Nat} {close : Char}
    (hclose : isSpace close = false) (rest : List Char) :
    skipSpace (layout.lead level ++ close :: rest) = close :: rest := by
  rw [skipSpace_append fun c hc ↦ isSpace_of_mem_lead hc, skipSpace_of_not hclose]

/-- The text of a value that starts where blanks have been skipped. -/
private theorem Writable.skipSpace_render {depth : Nat} {j : Json} (h : Writable depth j)
    (layout : Layout) (level : Nat) (rest : List Char) :
    skipSpace (render layout level j ++ rest) = render layout level j ++ rest := by
  obtain ⟨c, cs, heq, hspace, -⟩ := h.starts layout level
  rw [heq, List.cons_append, skipSpace_of_not hspace]

/-- One more item of an array is read back, up to what comes after it. -/
private theorem items_item {layout : Layout} {depth level fuel : Nat} {item : Json}
    (hr : ReadsBack layout depth item) {rest : List Char}
    (hf : 2 * (render layout level item).length ≤ fuel) (hs : Stops rest) :
    items (fuel + 1) depth (render layout level item ++ rest) =
      match skipSpace rest with
      | ']' :: rest => .ok ([item], rest)
      | ',' :: r => (items fuel depth (skipSpace r)).map fun (items, rest) ↦ (item :: items, rest)
      | _ => .error .malformed := by
  rw [items, hr level fuel rest hf hs]
  rfl

/-- The items of an array are read back up to its end. -/
theorem items_render {layout : Layout} {depth : Nat} (level closing : Nat) {items : List Json}
    (hw : ∀ j ∈ items, Writable depth j) (hr : ∀ j ∈ items, ReadsBack layout depth j)
    {item : Json} (hwi : Writable depth item) (hri : ReadsBack layout depth item) (fuel : Nat)
    (rest : List Char)
    (hf : 2 * ((render layout level item).length + (renderItems layout level items).length) <
      fuel) :
    Json.items fuel depth (render layout level item ++ (renderItems layout level items ++
      (layout.lead closing ++ ']' :: rest))) = .ok (item :: items, rest) := by
  induction items generalizing item fuel with
  | nil =>
    obtain ⟨fuel, rfl⟩ : ∃ n, fuel = n + 1 := ⟨fuel - 1, by omega⟩
    simp only [renderItems, List.nil_append, List.length_nil] at hf ⊢
    rw [items_item hri (by omega) (stops_before_end (by decide) rest), skipSpace_lead (by decide)]
    rfl
  | cons next items ih =>
    obtain ⟨fuel, rfl⟩ : ∃ n, fuel = n + 1 := ⟨fuel - 1, by omega⟩
    obtain ⟨blanks, hbetween, hblanks⟩ := between_eq layout level
    have hwn := hw next List.mem_cons_self
    simp only [renderItems, List.append_assoc, List.length_append] at hf ⊢
    have hlength : 1 ≤ (layout.between level).length := by simp [hbetween]
    have hmore := ih (fun j hj ↦ hw j (List.mem_cons_of_mem _ hj))
      (fun j hj ↦ hr j (List.mem_cons_of_mem _ hj)) hwn (hr next List.mem_cons_self) fuel
      (by omega)
    rw [items_item hri (by omega) (stops_between _), hbetween, List.cons_append,
      skipSpace_of_not rfl]
    show (Json.items fuel depth (skipSpace (blanks ++ _))).map _ = _
    rw [skipSpace_append hblanks, hwn.skipSpace_render, hmore]
    rfl

/-- One more field of an object is read back, up to what comes after its value. -/
private theorem fields_field {layout : Layout} {depth level fuel : Nat} {key : String} {j : Json}
    (hw : Writable depth j) (hr : ReadsBack layout depth j) (before : List (String × Json))
    {rest : List Char} (hf : 2 * (render layout level j).length ≤ fuel) (hs : Stops rest) :
    fields (fuel + 1) depth before (quote key ++ (':' :: ' ' :: (render layout level j ++ rest))) =
      match skipSpace rest with
      | '\x7d' :: rest => .ok (Keyed.put key j before, rest)
      | ',' :: r => fields fuel depth (Keyed.put key j before) (skipSpace r)
      | _ => .error .malformed := by
  have hkey :
      string? (escapeAll key.toList ++ '"' :: (':' :: ' ' :: (render layout level j ++ rest))) =
      some (key, ':' :: ' ' :: (render layout level j ++ rest)) := string?_escapeAll key _
  have hcolon : skipSpace (':' :: ' ' :: (render layout level j ++ rest)) =
      ':' :: ' ' :: (render layout level j ++ rest) := skipSpace_of_not rfl _
  have hblank :
      skipSpace (' ' :: (render layout level j ++ rest)) = render layout level j ++ rest := by
    have hone : ∀ c ∈ [' '], isSpace c = true := by simp [isSpace]
    have hskip := skipSpace_append hone (render layout level j ++ rest)
    rw [List.singleton_append] at hskip
    rw [hskip, hw.skipSpace_render]
  have hread := hr level fuel rest hf hs
  rw [quote, List.cons_append, List.append_assoc, List.singleton_append, fields]
  simp only [hkey, orMalformed, bind, Except.bind, hcolon, hblank, hread]
  rfl

private theorem put_of_nodup {before after : List (String × Json)} {key : String} {j : Json}
    (hn : ((before ++ (key, j) :: after).map Prod.fst).Nodup) :
    Keyed.put key j before = before ++ [(key, j)] := by
  apply Keyed.put_of_not_mem
  rw [List.map_append, List.map_cons] at hn
  intro hmem
  exact (List.nodup_append.mp hn).2.2 key hmem key List.mem_cons_self rfl

/-- The fields of an object are read back up to its end, after those read before. -/
theorem fields_render {layout : Layout} {depth : Nat} (level closing : Nat)
    {fs : List (String × Json)} (hw : ∀ f ∈ fs, Writable depth f.2)
    (hr : ∀ f ∈ fs, ReadsBack layout depth f.2)
    {key : String} {j : Json} (hwj : Writable depth j) (hrj : ReadsBack layout depth j)
    (before : List (String × Json)) (fuel : Nat) (rest : List Char)
    (hn : ((before ++ (key, j) :: fs).map Prod.fst).Nodup)
    (hf : 2 * ((render layout level j).length + (renderFields layout level fs).length) < fuel) :
    fields fuel depth before (quote key ++ (':' :: ' ' :: (render layout level j ++
      (renderFields layout level fs ++ (layout.lead closing ++ '\x7d' :: rest))))) =
        .ok (before ++ (key, j) :: fs, rest) := by
  induction fs generalizing key j before fuel with
  | nil =>
    obtain ⟨fuel, rfl⟩ : ∃ n, fuel = n + 1 := ⟨fuel - 1, by omega⟩
    simp only [renderFields, List.nil_append, List.length_nil] at hf ⊢
    rw [fields_field hwj hrj before (by omega) (stops_before_end (by decide) rest),
      skipSpace_lead (by decide), put_of_nodup hn]
    rfl
  | cons next fs ih =>
    obtain ⟨nextKey, nextValue⟩ := next
    obtain ⟨fuel, rfl⟩ : ∃ n, fuel = n + 1 := ⟨fuel - 1, by omega⟩
    obtain ⟨blanks, hbetween, hblanks⟩ := between_eq layout level
    simp only [renderFields, List.append_assoc, List.length_append] at hf ⊢
    have hlength : 1 ≤ (layout.between level).length := by simp [hbetween]
    have hmore := ih (fun f hf ↦ hw f (List.mem_cons_of_mem _ hf))
      (fun f hf ↦ hr f (List.mem_cons_of_mem _ hf)) (hw _ List.mem_cons_self)
      (hr _ List.mem_cons_self) (before ++ [(key, j)]) fuel
      (by rwa [List.append_assoc, List.singleton_append]) (by dsimp only; omega)
    rw [fields_field hwj hrj before (by omega) (stops_between _), put_of_nodup hn, hbetween,
      List.cons_append, skipSpace_of_not rfl]
    show fields fuel depth (before ++ [(key, j)]) (skipSpace (blanks ++ _)) = _
    rw [skipSpace_append hblanks, quote, List.cons_append, skipSpace_of_not rfl]
    rw [quote, List.append_assoc before] at hmore
    exact hmore

/-- What starts with neither a quote nor an opening bracket is a word or a number. -/
private theorem value_scalar {c : Char} (hquote : c ≠ '"') (hbracket : c ≠ '[')
    (hbrace : c ≠ '\x7b')
    (fuel depth : Nat) (cs : List Char) :
    value (fuel + 1) depth (c :: cs) = orMalformed (scalar? (c :: cs)) := by
  unfold value
  split <;> simp_all

private theorem value_array {fuel depth : Nat} {r cs : List Char} {c : Char}
    (h : skipSpace r = c :: cs) (hc : c ≠ ']') : value (fuel + 1) (depth + 1) ('[' :: r) =
      (items fuel depth (c :: cs)).map fun (items, rest) ↦ (.arr items, rest) := by
  rw [value, h]
  split
  · next heq =>
    cases heq
    exact absurd rfl hc
  · rfl

private theorem value_object {fuel depth : Nat} {r cs : List Char} {c : Char}
    (h : skipSpace r = c :: cs) (hc : c ≠ '\x7d') : value (fuel + 1) (depth + 1) ('\x7b' :: r) =
      (fields fuel depth [] (c :: cs)).map fun (fields, rest) ↦ (.obj fields, rest) := by
  rw [value, h]
  split
  · next heq =>
    cases heq
    exact absurd rfl hc
  · rfl

/-- An array is read back when its items are. -/
theorem readsBack_arr {layout : Layout} {depth : Nat} {items : List Json}
    (inner : ∀ j ∈ items, Writable depth j) (ih : ∀ j ∈ items, ReadsBack layout depth j) :
    ReadsBack layout (depth + 1) (.arr items) := by
  intro level fuel rest hf hs
  cases items with
  | nil =>
    obtain ⟨fuel, rfl⟩ : ∃ n, fuel = n + 1 := ⟨fuel - 1, by simp [render] at hf; omega⟩
    rfl
  | cons item items =>
    obtain ⟨fuel, rfl⟩ : ∃ n, fuel = n + 1 := ⟨fuel - 1, by simp [render] at hf; omega⟩
    have hwi := inner item List.mem_cons_self
    have hitems := items_render (level + 1) level (fun j hj ↦ inner j (List.mem_cons_of_mem _ hj))
      (fun j hj ↦ ih j (List.mem_cons_of_mem _ hj)) hwi (ih item List.mem_cons_self) fuel rest
      (by simp [render] at hf; omega)
    obtain ⟨c, cs, hstart, -, hbracket⟩ := hwi.starts layout (level + 1)
    simp only [render, List.cons_append, List.append_assoc, List.nil_append]
    have hskip := hwi.skipSpace_render layout (level + 1) (renderItems layout (level + 1) items ++
      (layout.lead level ++ ']' :: rest))
    rw [← skipSpace_append fun c hc ↦ isSpace_of_mem_lead hc] at hskip
    rw [hstart, List.cons_append] at hskip hitems
    rw [hstart, List.cons_append, value_array hskip hbracket, hitems]
    rfl

/-- An object with distinct keys is read back when its values are. -/
theorem readsBack_obj {layout : Layout} {depth : Nat} {fields : List (String × Json)}
    (distinct : (fields.map Prod.fst).Nodup) (inner : ∀ f ∈ fields, Writable depth f.2)
    (ih : ∀ f ∈ fields, ReadsBack layout depth f.2) :
    ReadsBack layout (depth + 1) (.obj fields) := by
  intro level fuel rest hf hs
  cases fields with
  | nil =>
    obtain ⟨fuel, rfl⟩ : ∃ n, fuel = n + 1 := ⟨fuel - 1, by simp [render] at hf; omega⟩
    rfl
  | cons field fields =>
    obtain ⟨key, j⟩ := field
    obtain ⟨fuel, rfl⟩ : ∃ n, fuel = n + 1 := ⟨fuel - 1, by simp [render] at hf; omega⟩
    have hfields :=
      fields_render (level + 1) level (fun f hf ↦ inner f (List.mem_cons_of_mem _ hf))
      (fun f hf ↦ ih f (List.mem_cons_of_mem _ hf)) (inner _ List.mem_cons_self)
      (ih _ List.mem_cons_self) [] fuel rest distinct (by simp [render] at hf; dsimp only; omega)
    simp only [render, List.cons_append, List.append_assoc, List.nil_append]
    have hskip (cs : List Char) :
        skipSpace (layout.lead (level + 1) ++ '"' :: cs) = '"' :: cs := by
      rw [skipSpace_append fun c hc ↦ isSpace_of_mem_lead hc, skipSpace_of_not rfl]
    rw [quote, List.cons_append] at hfields
    rw [quote, List.cons_append, value_object (hskip _) (by decide), hfields]
    rfl

/-- A value that a reader understands is read back. -/
theorem Writable.readsBack {layout : Layout} {depth : Nat} {j : Json} (h : Writable depth j) :
    ReadsBack layout depth j := by
  induction h with
  | @null depth =>
    intro level fuel rest hf hs
    obtain ⟨fuel, rfl⟩ : ∃ n, fuel = n + 1 := ⟨fuel - 1, by simp [render] at hf; omega⟩
    exact value_scalar (by decide) (by decide) (by decide) fuel depth _
  | @bool depth b =>
    intro level fuel rest hf hs
    obtain ⟨fuel, rfl⟩ : ∃ n, fuel = n + 1 :=
      ⟨fuel - 1, by cases b <;> simp [render] at hf <;> omega⟩
    cases b <;> exact value_scalar (by decide) (by decide) (by decide) fuel depth _
  | @int depth n short =>
    intro level fuel rest hf hs
    obtain ⟨c, cs, heq, hc⟩ := head_intChars n
    rw [render] at hf ⊢
    have hread := scalar?_intChars short hs
    rw [heq] at hf hread ⊢
    obtain ⟨fuel, rfl⟩ : ∃ n, fuel = n + 1 := ⟨fuel - 1, by simp at hf; omega⟩
    rw [List.cons_append] at hread ⊢
    rw [value_scalar (not_numeral hc rfl (by decide)) (not_numeral hc rfl (by decide))
      (not_numeral hc rfl (by decide)), hread]
    rfl
  | @str depth s =>
    intro level fuel rest hf hs
    obtain ⟨fuel, rfl⟩ : ∃ n, fuel = n + 1 := ⟨fuel - 1, by simp [render, quote] at hf; omega⟩
    rw [render, quote, List.cons_append, List.append_assoc, List.singleton_append, value,
      string?_escapeAll]
    rfl
  | arr inner ih => exact readsBack_arr inner ih
  | obj distinct inner ih => exact readsBack_obj distinct inner ih

/-- A document is read back from its text in either layout. -/
theorem read_render {j : Json} (h : Writable maxDepth j) (layout : Layout) :
    read (String.ofList (render layout 0 j)) = .ok j := by
  have hskip := h.skipSpace_render layout 0 []
  rw [List.append_nil] at hskip
  have hreads : ReadsBack layout maxDepth j := h.readsBack
  have hvalue := hreads 0 (2 * (render layout 0 j).length + 2) [] (by omega) stops_nil
  rw [List.append_nil] at hvalue
  rw [read, String.toList_ofList, hskip]
  simp only [hvalue, bind, Except.bind]
  rfl

end Json
end PersonaChat
