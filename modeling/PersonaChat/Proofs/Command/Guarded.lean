import PersonaChat.Proofs.Command.Limits
import PersonaChat.Proofs.Command.Precedence

/-!
# Readers with all their checks

Arguments are cut out of the text as it was typed at positions of its narrowed image, which takes
the two to be aligned, and actions are formed from parts, which takes the parts to fit. Here the
readers make both checks wherever they cut and form. Main statement: these checks always succeed,
so that the same is read without them, and a message cannot be read only where a run of digits is
too long.

Spec guidance: `SPEC_FULL.md`, lines 57–63 and 95–96.
-/

namespace PersonaChat.Command

open Text Number

/-- What a check of a reader can find. -/
inductive ReadFault where
  /-- A text and its narrowed image are not aligned. -/
  | misaligned
  /-- An action cannot be formed from the given parts. -/
  | misformed (fault : ActionFault)
  /-- A run of digits is too long to be converted. -/
  | numberTooLong

/-- A fault of positions as a fault of a reader. -/
def ReadFault.ofIndices : IndexFault → ReadFault
  | .numberTooLong => .numberTooLong

namespace Guarded

/-! ### Checks -/

/-- The typed text from a position of its narrowed image on. -/
def cut (typed narrowed : List Char) (start : Nat) : Except ReadFault (List Char) :=
  match typedFrom? typed narrowed start with
  | some rest => .ok rest
  | none => .error .misaligned

/-- An action formed from its parts. -/
def form (kind : ActionKind) (scope : Option Scope) (model : Option String) :
    Except ReadFault Action :=
  (Action.make kind scope model).mapError .misformed

/-- The positions that a text names. -/
def positions (cs : List Char) : Except ReadFault (List Nat) :=
  (readIndices cs).mapError .ofIndices

/-- A text and its narrowed image are aligned. -/
@[simp] theorem cut_normalize (typed : List Char) (start : Nat) :
    cut typed (normalize typed) start = .ok (typed.drop start) := by
  simp [cut, typedFrom?]

/-- An action is formed from its own parts. -/
theorem form_parts (action : Action) :
    form action.kind action.scope? action.model? = .ok action := by
  cases action with
  | fillDescriptions model =>
    cases model with
    | none => rfl
    | some model => rfl
  | _ => rfl

/-! ### Readers -/

/-- Recognise a command to the whole registry. -/
def readGlobal (cs : List Char) : Except ReadFault (Option Command) :=
  let typed := trim cs
  let narrowed := normalize typed
  match (globalWords.lookup narrowed).map Action.kind with
  | some kind => do return some (global (← form kind none none))
  | none =>
    if ['#', '#', ':'].isPrefixOf narrowed then do
      let model ← cut typed narrowed 3
      return some (global (← form .fillDescriptions none (some (String.ofList (trim model)))))
    else .ok none

/-- What a create request says behind its two number signs. -/
def createFrom? (after : List Char) : Option CreateRequest :=
  let endsName (c : Char) : Bool := isBlank c || narrow c == '('
  let name := String.ofList (trim (after.takeWhile (!endsName ·)))
  if !Name.isValid name then none
  else
    let (description, rest) := readDescription (after.dropWhile (!endsName ·))
    let (model, prompt) := (firstToken? rest).getD ([], [])
    if maxModelLength < model.length then none
    else some ⟨name, String.ofList description, String.ofList model, String.ofList (trim prompt)⟩

/-- Recognise a create request. -/
def readCreate (cs : List Char) : Except ReadFault (Option CreateRequest) :=
  let typed := trim cs
  let narrowed := normalize typed
  if !(['#', '#'].isPrefixOf narrowed) then .ok none
  else do return createFrom? (← cut typed narrowed 2)

/-- Recognise the deletion of a persona and give its registered name. -/
def readDelete (cs : List Char) (names : List String) : Except ReadFault (Option String) :=
  let typed := trim cs
  let narrowed := normalize typed
  if !(['-', '#'].isPrefixOf narrowed) then .ok none
  else do
    let target := lower (trim (← cut typed narrowed 2))
    return names.find? fun name ↦ lower name.toList == target

/-- Recognise the operators on histories. -/
def readHistorySuffix (scope : Scope) (narrowed typed talk : List Char) :
    Except ReadFault Suffix :=
  let talking : Except ReadFault Suffix := do return .ofText (← form .chat none none) talk
  match narrowed with
  | ['/', '*'] => do return .ofText (← form .viewAll scope none) []
  | '/' :: c :: r => do
    let named ← positions (c :: r)
    if named.isEmpty then talking else return ⟨← form .viewAt scope none, [], named⟩
  | ['_', '*'] => do return .ofText (← form .exportHistory scope none) []
  | '\'' :: _ => do
    let (head, tail) := cutAtBlank (typed.drop 1)
    let named ← positions (normalize head)
    return ⟨← form .editAt scope none, trim (tail.getD []), named⟩
  | ['-', '*'] => do return .ofText (← form .clearHistory scope none) []
  | '-' :: c :: r => do
    let named ← positions (c :: r)
    if named.isEmpty then talking else return ⟨← form .deleteAt scope none, [], named⟩
  | _ => talking

/-- Recognise what follows a name. -/
def readSuffix (narrowed typed : List Char) (marked : Bool) : Except ReadFault Suffix :=
  match narrowed with
  | [] => do return .ofText (← form .chat none none) typed
  | '~' :: '#' :: _ => do return .ofText (← form .copy none none) (trim (typed.drop 2))
  | '~' :: '=' :: _ => do return .ofText (← form .rename none none) (trim (typed.drop 2))
  | '~' :: _ => do return .ofText (← form .regenerate none none) (trim (typed.drop 1))
  | ['!'] => do return .ofText (← form .stop none none) []
  | ':' :: '/' :: _ => readHistorySuffix (.ofPrivate marked) narrowed typed typed
  | ':' :: _ => do return .ofText (← form .setDescription none none) (trim (typed.drop 1))
  | '%' :: _ => do return .ofText (← form .setModel none none) (trim (typed.drop 1))
  | '$' :: _ => do return .ofText (← form .setPrompt none none) (trim (typed.drop 1))
  | ['/', '$'] => do return .ofText (← form .viewPrompt none none) []
  | '&' :: r => readHistorySuffix .personal r (typed.drop 1) typed
  | _ => readHistorySuffix (.ofPrivate marked) narrowed typed typed

/-- Recognise a command to a persona. Text and image are cut and trimmed side by side. -/
def readPersona (cs : List Char) (names : List String) : Except ReadFault (Option Command) := do
  let typed := trim cs
  let narrowed := normalize typed
  let marks := narrowed.takeWhile isMark
  let content ← cut typed narrowed marks.length
  let narrowedContent := narrowed.drop marks.length
  match matchName? narrowedContent names with
  | none => return none
  | some name =>
    let rest ← cut content narrowedContent name.length
    let marked := marks.contains '&'
    let suffix ← readSuffix (trim (narrowedContent.drop name.length)) (trim rest) marked
    return some
      { agent := name
        action := suffix.action
        args := String.ofList suffix.args
        indices := suffix.indices.map Int.ofNat
        privateReply := marked
        textMode := marks.contains '"' }

/-- Recognise a message. -/
def read (text : String) (names : List String) : Except ReadFault (Option Request) := do
  let cs := text.toList
  match readApi? cs with
  | some api => return some (.configure api)
  | none =>
    match ← readGlobal cs with
    | some command => return some (.command command)
    | none =>
      match ← readCreate cs with
      | some request => return some (.create request)
      | none =>
        match ← readDelete cs names with
        | some name =>
          return some (.command ⟨name, ← form .delete none none, "", [], false, false⟩)
        | none => return (← readPersona cs names).map .command

/-! ### The same is read -/

variable (cs : List Char) (names : List String)

private theorem readGlobal_eq : readGlobal cs = .ok (readGlobal? cs) := by
  unfold readGlobal readGlobal?
  dsimp only
  cases hword : globalWords.lookup (normalize (trim cs)) with
  | some action =>
    have hparts : ∀ entry ∈ globalWords, entry.2.scope? = none ∧ entry.2.model? = none := by
      simp [globalWords, Action.scope?, Action.model?]
    obtain ⟨front, back, hsplit, -⟩ := List.lookup_eq_some_iff.mp hword
    obtain ⟨hscope, hmodel⟩ := hparts (normalize (trim cs), action) (by simp [hsplit])
    have hform := form_parts action
    rw [hscope, hmodel] at hform
    simp only [Option.map_some, hform]
    rfl
  | none =>
    simp only [Option.map_none, cut_normalize]
    split
    · rfl
    · rfl

private theorem readCreate_eq : readCreate cs = .ok (readCreate? cs) := by
  unfold readCreate readCreate?
  simp only [cut_normalize]
  split
  · rfl
  · rfl

private theorem readDelete_eq : readDelete cs names = .ok (readDelete? cs names) := by
  unfold readDelete readDelete?
  simp only [cut_normalize]
  split
  · rfl
  · rfl

private theorem readHistorySuffix_eq (scope : Scope) (narrowed typed talk : List Char) :
    readHistorySuffix scope narrowed typed talk =
      (Command.readHistorySuffix scope narrowed typed talk).mapError .ofIndices := by
  have hpositions {cs : List Char} {f : List Nat → Suffix} {g : List Nat → Except ReadFault Suffix}
      (h : ∀ named, g named = .ok (f named)) : (positions cs >>= g) =
        (do return f (← readIndices cs) : Except IndexFault Suffix).mapError .ofIndices := by
    rw [positions]
    cases readIndices cs with
    | error _ => rfl
    | ok named => exact h named
  fun_cases Command.readHistorySuffix scope narrowed typed talk
  all_goals simp only [readHistorySuffix]
  case case2 | case6 =>
    apply hpositions
    intro named
    split
    · rfl
    · rfl
  case case4 _ head tail hcut =>
    rw [hcut]
    exact hpositions fun _ ↦ rfl
  all_goals rfl

private theorem readSuffix_eq (narrowed typed : List Char) (marked : Bool) :
    readSuffix narrowed typed marked =
      (Command.readSuffix narrowed typed marked).mapError .ofIndices := by
  fun_cases Command.readSuffix narrowed typed marked
  all_goals simp only [readSuffix]
  case case6 | case11 | case12 => exact readHistorySuffix_eq _ _ _ _
  all_goals rfl

private theorem readPersona_eq :
    readPersona cs names = (readPersona? cs names).mapError .ofIndices := by
  have hmarks : (normalize (trim cs)).takeWhile isMark = marksOf cs := rfl
  have hcontent : (trim cs).drop (marksOf cs).length = contentOf cs := rfl
  unfold readPersona readPersona?
  simp only [hmarks, cut_normalize, drop_normalize, hcontent, bind, Except.bind]
  cases matchName? (normalize (contentOf cs)) names with
  | none => rfl
  | some name =>
    simp only [trim_normalize, readSuffix_eq]
    cases Command.readSuffix (normalize (trim ((contentOf cs).drop name.length)))
      (trim ((contentOf cs).drop name.length)) ((marksOf cs).contains '&') with
    | error _ => rfl
    | ok _ => rfl

/-- With all checks made, the same is read. -/
theorem read_eq (text : String) (names : List String) :
    read text names = (read? text names).mapError .ofIndices := by
  unfold read read? readUnnamed?
  simp only [readGlobal_eq, readCreate_eq, readDelete_eq, readPersona_eq, bind, Except.bind]
  cases readApi? text.toList with
  | some api => rfl
  | none =>
    cases readGlobal? text.toList with
    | some command => rfl
    | none =>
      cases readCreate? text.toList with
      | some request => rfl
      | none =>
        cases readDelete? text.toList names with
        | some name => rfl
        | none =>
          cases readPersona? text.toList names with
          | error _ => rfl
          | ok _ => rfl

/-- Only a number that is too long is found by the readers of positions. -/
theorem mapError_eq_error_iff {α : Type} {result : Except IndexFault α} {fault : ReadFault} :
    result.mapError .ofIndices = .error fault ↔
      fault = .numberTooLong ∧ result = .error .numberTooLong := by
  cases result with
  | ok _ => simp [Except.mapError]
  | error found =>
    cases found
    simp [Except.mapError, ReadFault.ofIndices, eq_comm]

/-- With all checks made, a message is read as without them. No text is misaligned and no action is
misformed, and a number is too long exactly where positions are looked for, behind the name that
the message starts with, and a long run of digits stands there. -/
theorem reading_fails_only_on_long_runs (text : String) (names : List String) :
    (∀ fault, positions text.toList = .error fault ↔
        fault = .numberTooLong ∧ HoldsLongRun text.toList) ∧
      readGlobal text.toList = .ok (readGlobal? text.toList) ∧
      readCreate text.toList = .ok (readCreate? text.toList) ∧
      readDelete text.toList names = .ok (readDelete? text.toList names) ∧
      (∀ command, readPersona text.toList names = .ok command ↔
        readPersona? text.toList names = .ok command) ∧
      (∀ fault, readPersona text.toList names = .error fault ↔
        fault = .numberTooLong ∧ LongRunBehindName text.toList names) ∧
      (∀ request, read text names = .ok request ↔ read? text names = .ok request) ∧
      ∀ fault, read text names = .error fault ↔
        fault = .numberTooLong ∧ readUnnamed? text.toList = none ∧
          readDelete? text.toList names = none ∧ LongRunBehindName text.toList names := by
  have hok {α : Type} {result : Except IndexFault α} {value : α} :
      result.mapError ReadFault.ofIndices = .ok value ↔ result = .ok value := by
    cases result with
    | ok _ => simp [Except.mapError]
    | error _ => simp [Except.mapError]
  refine ⟨fun fault ↦ ?_, readGlobal_eq _, readCreate_eq _, readDelete_eq _ _, fun command ↦ ?_,
    fun fault ↦ ?_, fun request ↦ ?_, fun fault ↦ ?_⟩
  · rw [positions, mapError_eq_error_iff, readIndices_eq_error_iff]
  · rw [readPersona_eq, hok]
  · rw [readPersona_eq, mapError_eq_error_iff, readPersona?_eq_error_iff]
  · rw [read_eq, hok]
  · rw [read_eq, mapError_eq_error_iff, read?_eq_error_iff]

/-- One digit more than are converted, behind an operator that takes positions. -/
theorem reading_fails_of_long_run :
    read ("Bot/" ++ String.ofList (List.replicate (digitLimit + 1) '1')) ["Bot"] =
      .error .numberTooLong := by
  generalize hones : List.replicate (digitLimit + 1) '1' = ones
  have hdigits : ∀ c ∈ ones, isBlank c = false ∧ Graphic c ∧ isDecimal c = true := by
    intro c hc
    rw [← hones] at hc
    rw [List.eq_of_mem_replicate hc]
    decide
  have hsolid : ∀ c ∈ ones, isBlank c = false := fun c hc ↦ (hdigits c hc).1
  have htext : "Bot/" ++ String.ofList ones =
      String.ofList ([] ++ "Bot".toList ++ '/' :: ones) := by
    rw [← String.toList_inj]
    simp
  have hlegible : Legible ["Bot"] :=
    { apart := ⟨by decide, by decide +kernel⟩
      plain := by simp [fullWidth] }
  have hlong : HoldsLongRun (searched (normalize ('/' :: ones))) := by
    have hsearched : searched (normalize ('/' :: ones)) = normalize ones := rfl
    rw [hsearched, normalize_of_graphic fun c hc ↦ (hdigits c hc).2.1]
    refine ⟨ones, List.infix_rfl, ?_, fun c hc ↦ (hdigits c hc).2.2⟩
    rw [← hones, List.length_replicate]
    exact Nat.lt_succ_self _
  have htrim : trim ('/' :: trimRight ones) = '/' :: ones := by
    rw [trimRight_of_solid hsolid, trim_of_solid (by decide), trimRight_solid_cons (by decide),
      trimRight_of_solid hsolid]
  have hread := read?_message hlegible List.mem_cons_self (List.forall_mem_nil _)
    (setOff_of_sign (c := '/') (by decide) ones)
  rw [read_eq, htext, hread, htrim, (readSuffix_eq_error_iff .numberTooLong _).mpr hlong]
  rfl

end Guarded

end PersonaChat.Command
