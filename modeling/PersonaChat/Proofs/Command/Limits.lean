import Mathlib.Data.List.TakeWhile
import PersonaChat.Proofs.Command.Index
import PersonaChat.Proofs.Command.Narrowing

/-!
# Where reading fails

The only thing that keeps a message from being read is a run of digits that is too long to be
converted, and only where positions of a history are looked for: behind a name and an operator that
takes them. Main statements: positions cannot be read exactly where the text holds such a run, and
a message cannot be read exactly where it names a persona and such a run stands behind the
operator.

Spec guidance: `SPEC_FULL.md`, lines 95–96.
-/

namespace PersonaChat.Command

open Text Number

variable {cs : List Char} {c : Char} {fault : IndexFault}

/-! ### Runs of digits -/

/-- More digits follow each other in the text than are converted. -/
def HoldsLongRun (cs : List Char) : Prop :=
  ∃ run, run <:+: cs ∧ digitLimit < run.length ∧ ∀ c ∈ run, isDecimal c = true

/-- From some place on, the text starts with too many digits. -/
theorem holdsLongRun_iff :
    HoldsLongRun cs ↔ ∃ rest, rest <:+ cs ∧ digitLimit < (rest.takeWhile isDecimal).length := by
  constructor
  · rintro ⟨run, ⟨front, back, hcs⟩, hlong, hdigits⟩
    refine ⟨run ++ back, ⟨front, by rw [← hcs, List.append_assoc]⟩, ?_⟩
    rw [List.takeWhile_append_of_pos hdigits, List.length_append]
    omega
  · rintro ⟨rest, hrest, hlong⟩
    refine ⟨rest.takeWhile isDecimal, ?_, hlong, fun c hc ↦ List.mem_takeWhile_imp hc⟩
    exact (List.takeWhile_prefix isDecimal).isInfix.trans hrest.isInfix

/-- A short text holds no long run. -/
theorem not_holdsLongRun_of_short (h : cs.length ≤ digitLimit) : ¬ HoldsLongRun cs := by
  rintro ⟨run, hrun, hlong, -⟩
  exact Nat.not_lt.mpr (hrun.length_le.trans h) hlong

/-- The empty text holds no long run. -/
theorem not_holdsLongRun_nil : ¬ HoldsLongRun [] := not_holdsLongRun_of_short (Nat.zero_le _)

/-- Another character at the start takes part in no run. -/
theorem holdsLongRun_cons (hc : isDecimal c = false) : HoldsLongRun (c :: cs) ↔
    HoldsLongRun cs := by
  simp only [holdsLongRun_iff, List.suffix_cons_iff, or_and_right, exists_or, exists_eq_left]
  simp [hc]

/-- A run at the start ends where another character follows it. -/
theorem holdsLongRun_append {front back : List Char} (hfront : ∀ c ∈ front, isDecimal c = true)
    (hback : ∀ c ∈ back.head?, isDecimal c = false) :
    HoldsLongRun (front ++ back) ↔ digitLimit < front.length ∨ HoldsLongRun back := by
  have hstop : back.takeWhile isDecimal = [] := by
    cases back with
    | nil => rfl
    | cons d back => exact List.takeWhile_cons_of_neg (by simp [hback d rfl])
  induction front with
  | nil => simp
  | cons c front ih =>
    have hwhole : (c :: (front ++ back)).takeWhile isDecimal = c :: front := by
      rw [← List.cons_append, List.takeWhile_append_of_pos hfront, hstop, List.append_nil]
    have hrest := ih fun d hd ↦ hfront d (List.mem_cons_of_mem c hd)
    rw [holdsLongRun_iff] at hrest
    rw [List.cons_append, holdsLongRun_iff]
    simp only [List.suffix_cons_iff, or_and_right, exists_or, exists_eq_left, hwhole, hrest,
      List.length_cons]
    constructor
    · rintro (hlong | hlong | hlong)
      · exact .inl hlong
      · exact .inl (Nat.lt_succ_of_lt hlong)
      · exact .inr hlong
    · rintro (hlong | hlong)
      · exact .inl hlong
      · exact .inr (.inr hlong)

/-! ### Items -/

namespace IndexItem

private theorem OfDigits.positions_eq_error_iff {item : IndexItem} (h : item.OfDigits) :
    item.positions = .error fault ↔ item.TooLong := by
  cases fault
  obtain ⟨first, last⟩ := item
  have hfirst := ofDigits?_eq_none_iff h.first_ne h.first
  cases last with
  | none =>
    cases hvalue : ofDigits? first with
    | none => simpa [positions, TooLong, hvalue] using hfirst.mp hvalue
    | some a => simpa [positions, TooLong, hvalue] using hfirst
  | some ds =>
    have hlast := ofDigits?_eq_none_iff (h.last_ne ds rfl) (h.last ds rfl)
    cases hvalue : ofDigits? first with
    | none => simp [positions, TooLong, hvalue, hfirst.mp hvalue]
    | some a =>
      have hshort : ¬ digitLimit < first.length := fun hlong ↦ by
        rw [hfirst.mpr hlong] at hvalue
        cases hvalue
      cases hvalue' : ofDigits? ds with
      | none => simp [positions, TooLong, hvalue, hvalue', hlast.mp hvalue']
      | some b =>
        have hshort' : ¬ digitLimit < ds.length := fun hlong ↦ by
          rw [hlast.mpr hlong] at hvalue'
          cases hvalue'
        simp [positions, TooLong, hvalue, hvalue', hshort, hshort']

end IndexItem

/-- A text starts with no digit, or with an item that ends where its runs end. -/
theorem exists_item (cs : List Char) : (∀ c ∈ cs.head?, isDecimal c = false) ∨
    ∃ (item : IndexItem) (rest : List Char),
      cs = item.chars ++ rest ∧ item.OfDigits ∧ item.EndsAt rest := by
  have hdigits (cs : List Char) : ∀ c ∈ cs.takeWhile isDecimal, isDecimal c = true :=
    fun c hc ↦ List.mem_takeWhile_imp hc
  have hstop (cs : List Char) : ∀ c ∈ (cs.dropWhile isDecimal).head?, isDecimal c = false := by
    intro c hc
    have := List.head?_dropWhile_not isDecimal cs
    rw [Option.mem_def.mp hc] at this
    exact this
  have hcs : cs = cs.takeWhile isDecimal ++ cs.dropWhile isDecimal :=
    List.takeWhile_append_dropWhile.symm
  by_cases hne : cs.takeWhile isDecimal = []
  · left
    rw [hcs, hne]
    exact hstop cs
  · right
    by_cases hrange : ∃ c r, cs.dropWhile isDecimal = '-' :: c :: r ∧ isDecimal c = true
    · obtain ⟨c, r, hr, hc⟩ := hrange
      refine ⟨⟨cs.takeWhile isDecimal, some ((c :: r).takeWhile isDecimal)⟩,
        (c :: r).dropWhile isDecimal, ?_, ⟨hne, hdigits cs, ?_, ?_⟩, hstop (c :: r), by simp⟩
      · rw [IndexItem.chars, List.append_assoc, List.cons_append, List.takeWhile_append_dropWhile,
          ← hr, ← hcs]
      · rintro ds ⟨⟩
        rw [List.takeWhile_cons_of_pos hc]
        exact List.cons_ne_nil _ _
      · rintro ds ⟨⟩
        exact hdigits (c :: r)
    · refine ⟨⟨cs.takeWhile isDecimal, none⟩, cs.dropWhile isDecimal, hcs,
        ⟨hne, hdigits cs, by simp, by simp⟩, hstop cs, ?_⟩
      intro _ c r hr
      rw [← Bool.not_eq_true]
      exact fun hc ↦ hrange ⟨c, r, hr, hc⟩

/-- Where no digit stands no item is recognised. -/
theorem indexItem?_eq_none (hc : isDecimal c = false) : indexItem? (c :: cs) = none := by
  rw [indexItem?, List.takeWhile_cons_of_neg (by simp [hc])]

/-- An item at the start ends where its runs end. -/
theorem IndexItem.OfDigits.holdsLongRun_iff {item : IndexItem} {rest : List Char}
    (h : item.OfDigits)
    (hends : item.EndsAt rest) : HoldsLongRun (item.chars ++ rest) ↔
    item.TooLong ∨ HoldsLongRun rest := by
  obtain ⟨first, last⟩ := item
  cases last with
  | none =>
    rw [chars, holdsLongRun_append h.first hends.1]
    simp [TooLong]
  | some ds =>
    have hhyphen : ∀ c ∈ ('-' :: (ds ++ rest)).head?, isDecimal c = false := by
      rintro c ⟨⟩
      decide
    rw [chars, List.append_assoc, List.cons_append, holdsLongRun_append h.first hhyphen,
      holdsLongRun_cons (by decide), holdsLongRun_append (h.last ds rfl) hends.1]
    simp [TooLong, or_assoc]

variable (fault) in
/-- The items of a text name positions unless the text holds a long run. -/
theorem exists_hit_error_iff :
    (∃ item ∈ hits indexItem? cs, item.positions = .error fault) ↔ HoldsLongRun cs := by
  induction hn : cs.length using Nat.strong_induction_on generalizing cs with
  | _ n ih =>
    subst hn
    cases cs with
    | nil => simp [hits, scan, scanFrom, not_holdsLongRun_nil]
    | cons c r =>
      rcases exists_item (c :: r) with hhead | ⟨item, rest, hcs, hof, hends⟩
      · have hc := hhead c rfl
        rw [hits_cons (indexItem?_eq_none hc), ih r.length (Nat.lt_succ_self _) rfl,
          holdsLongRun_cons hc]
      · have hshorter : rest.length < (c :: r).length := by
          rw [hcs, List.length_append]
          have := List.length_pos_iff.mpr hof.chars_ne_nil
          omega
        have hrest := ih rest.length hshorter rfl
        rw [hcs, hits_append hof.chars_ne_nil (hof.indexItem?_append hends),
          hof.holdsLongRun_iff hends]
        simp [hrest, hof.positions_eq_error_iff]

variable (fault) in
/-- Positions can be read unless the text holds a long run. -/
theorem readIndices_eq_error_iff : readIndices cs = .error fault ↔ HoldsLongRun cs := by
  have hmapM (items : List IndexItem) : items.mapM IndexItem.positions = .error fault ↔
      ∃ item ∈ items, item.positions = .error fault := by
    cases fault
    induction items with
    | nil => simp [pure, Except.pure]
    | cons item items ih =>
      rw [List.mapM_cons]
      cases hitem : item.positions with
      | error fault =>
        cases fault
        simp [bind, Except.bind, hitem]
      | ok ks =>
        cases hitems : items.mapM IndexItem.positions with
        | error fault =>
          rw [hitems] at ih
          simpa [bind, Except.bind, hitem] using ih
        | ok named =>
          rw [hitems] at ih
          simpa [bind, Except.bind, pure, Except.pure, hitem] using ih
  rw [← exists_hit_error_iff fault, ← hmapM, readIndices]
  cases (hits indexItem? cs).mapM IndexItem.positions with
  | error _ => simp [bind, Except.bind]
  | ok _ => simp [bind, Except.bind, pure, Except.pure]

/-! ### Suffixes -/

/-- Where positions are looked for behind an operator that takes them. -/
def searchedUnmarked : List Char → List Char
  | '/' :: r => r
  | '-' :: r => r
  | '\'' :: r => r.takeWhile (!isBlank ·)
  | _ => []

/-- Where positions are looked for behind a name. -/
def searched : List Char → List Char
  | '&' :: r => searchedUnmarked r
  | cs => searchedUnmarked cs

private theorem length_searchedUnmarked_le (cs : List Char) :
    (searchedUnmarked cs).length ≤ cs.length := by
  unfold searchedUnmarked
  split
  · exact Nat.le_succ _
  · exact Nat.le_succ _
  · next r => exact (List.takeWhile_prefix _).length_le.trans (Nat.le_succ r.length)
  · exact Nat.zero_le _

/-- What is searched for digits is no longer than the text. -/
theorem length_searched_le (cs : List Char) : (searched cs).length ≤ cs.length := by
  unfold searched
  split
  · next r => exact (length_searchedUnmarked_le r).trans (Nat.le_succ _)
  · exact length_searchedUnmarked_le _

/-- What stands before the first blank. -/
theorem cutAtBlank_fst (cs : List Char) : (cutAtBlank cs).1 = cs.takeWhile (!isBlank ·) := by
  induction cs with
  | nil => rfl
  | cons c cs ih =>
    rw [cutAtBlank]
    by_cases hc : isBlank c = true
    · simp [hc]
    · simp [hc, ih]

private theorem readHistorySuffix_eq_error_iff {scope : Scope} {typed talk : List Char} :
    readHistorySuffix scope (normalize typed) typed talk = .error fault ↔
      HoldsLongRun (searchedUnmarked (normalize typed)) := by
  have hbind {α β : Type} {x : Except IndexFault α} {f : α → β} :
      (do return f (← x) : Except IndexFault β) = .error fault ↔ x = .error fault := by
    cases x with
    | error _ => simp [bind, Except.bind]
    | ok _ => simp [bind, Except.bind, pure, Except.pure]
  have hstar : ¬ HoldsLongRun ['*'] := by
    rw [holdsLongRun_cons (by decide)]
    exact not_holdsLongRun_nil
  unfold readHistorySuffix
  split
  · next h => simp [h, searchedUnmarked, hstar]
  · next c r _ h =>
    rw [h, searchedUnmarked, ← readIndices_eq_error_iff fault, hbind]
  · next h => simp [h, searchedUnmarked, not_holdsLongRun_nil]
  · next r h =>
    have hr : normalize (typed.drop 1) = r := by
      rw [← drop_normalize, h]
      rfl
    have hhead : normalize (cutAtBlank (typed.drop 1)).1 = r.takeWhile (!isBlank ·) := by
      rw [← cutAtBlank_fst, ← hr, cutAtBlank_normalize]
    rw [h, searchedUnmarked, ← hhead, ← readIndices_eq_error_iff fault, hbind]
  · next h => simp [h, searchedUnmarked, hstar]
  · next c r _ h =>
    rw [h, searchedUnmarked, ← readIndices_eq_error_iff fault, hbind]
  · next hslash _ hquote _ hhyphen =>
    -- Nothing follows a sign that positions would follow.
    have hnil : searchedUnmarked (normalize typed) = [] := by
      unfold searchedUnmarked
      split
      · next r h =>
        cases r with
        | nil => rfl
        | cons c r => exact absurd h (hslash c r)
      · next r h =>
        cases r with
        | nil => rfl
        | cons c r => exact absurd h (hhyphen c r)
      · next r h => exact absurd h (hquote r)
      · rfl
    simp [hnil, not_holdsLongRun_nil]

variable (fault) in
/-- What follows a name can be read unless a long run stands where positions are looked for. -/
theorem readSuffix_eq_error_iff {typed : List Char} (marked : Bool) :
    readSuffix (normalize typed) typed marked = .error fault ↔
      HoldsLongRun (searched (normalize typed)) := by
  have hdollar : ¬ HoldsLongRun ['$'] := by
    rw [holdsLongRun_cons (by decide)]
    exact not_holdsLongRun_nil
  unfold readSuffix
  split
  case h_6 r h =>
    -- A colon with a slash behind it.
    rw [readHistorySuffix_eq_error_iff, h]
    rfl
  case h_10 h => simp [h, searched, searchedUnmarked, hdollar]
  case h_11 r h =>
    -- Behind the local private mark.
    have hr : r = normalize (typed.drop 1) := by
      rw [← drop_normalize, h]
      rfl
    rw [h, searched, hr, readHistorySuffix_eq_error_iff]
  case h_12 hmark =>
    have hsearched : searched (normalize typed) = searchedUnmarked (normalize typed) := by
      unfold searched
      split
      · next r h => exact absurd h (hmark r)
      · rfl
    rw [hsearched, readHistorySuffix_eq_error_iff]
  all_goals
    next h => simp [h, searched, searchedUnmarked, not_holdsLongRun_nil]

/-! ### Messages -/

variable {names : List String}

/-- A long run stands where positions are looked for, behind the name that a message starts
with. -/
def LongRunBehindName (cs : List Char) (names : List String) : Prop :=
  ∃ name, matchName? (normalize (contentOf cs)) names = some name ∧
    HoldsLongRun (searched (normalize (suffixOf cs name)))

variable (fault) in
/-- A message to a persona can be read unless a long run stands where positions are looked for. -/
theorem readPersona?_eq_error_iff :
    readPersona? cs names = .error fault ↔ LongRunBehindName cs names := by
  unfold readPersona? LongRunBehindName
  dsimp only
  split
  · next hnone => simp [hnone]
  · next name hname =>
    rw [← suffixOf, hname]
    simp only [Option.some.injEq, exists_eq_left']
    rw [← readSuffix_eq_error_iff fault ((marksOf cs).contains '&')]
    cases readSuffix (normalize (suffixOf cs name)) (suffixOf cs name)
      ((marksOf cs).contains '&') with
    | error _ => simp [bind, Except.bind]
    | ok _ => simp [bind, Except.bind, pure, Except.pure]

/-- A message can be read unless it is for a persona and cannot be read as such. -/
theorem read?_eq_error_iff {text : String} : read? text names = .error fault ↔
    readUnnamed? text.toList = none ∧ readDelete? text.toList names = none ∧
      LongRunBehindName text.toList names := by
  rw [← readPersona?_eq_error_iff fault]
  unfold read?
  dsimp only
  split
  · next h => simp [h]
  · next hunnamed =>
    split
    · next h => simp [h]
    · next hdelete =>
      cases readPersona? text.toList names with
      | error _ => simp [bind, Except.bind, hunnamed, hdelete]
      | ok _ => simp [bind, Except.bind, pure, Except.pure]

end PersonaChat.Command
