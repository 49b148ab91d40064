import PersonaChat.Json.Reader
import PersonaChat.Text.Scan

/-!
# Tags

A tag tells what a node of a document stands for. A scalar in quotes or in a block is a text. A
plain one is resolved by its spelling: words for null and the truth values, numbers, dates, and the
two marks of merged and of default entries. Numbers may hold underscores, have a base mark or be
counted in sixties (`1:30` is ninety).
-/

namespace PersonaChat.Yaml

open Text Number

/-- What a node stands for. -/
inductive Tag where
  /-- The null value. -/
  | null
  /-- A truth value. -/
  | bool
  /-- An integer. -/
  | int
  /-- A floating-point number. -/
  | real
  /-- Bytes in base 64. -/
  | binary
  /-- A date, with or without a time. -/
  | moment
  /-- A text. -/
  | str
  /-- A sequence. -/
  | seq
  /-- A sequence of mappings of one entry each. -/
  | pairs
  /-- A set: a mapping of which only the keys count. -/
  | set
  /-- A mapping. -/
  | map
  /-- As a key: the entries of the value are merged into the mapping around it. -/
  | merge
  /-- As a key: the value stands for the whole mapping where a scalar is wanted. -/
  | default
  /-- Nothing that can be made. -/
  | unknown
  deriving DecidableEq

namespace Tag

/-- The start of the names of all known tags. -/
def nameStart : List Char := "tag:yaml.org,2002:".toList

/-- The known tags by their names. -/
def named : List (String × Tag) :=
  [("null", .null), ("bool", .bool), ("int", .int), ("float", .real), ("binary", .binary),
    ("timestamp", .moment), ("str", .str), ("seq", .seq), ("omap", .pairs), ("pairs", .pairs),
    ("set", .set), ("map", .map), ("merge", .merge), ("value", .default)]

/-- The tag of a full name. -/
def ofName (name : List Char) : Tag :=
  if nameStart.isPrefixOf name then
    (named.lookup (String.ofList (name.drop nameStart.length))).getD .unknown
  else .unknown

end Tag

/-! ## Words -/

/-- Spellings of null. -/
def nullWords : List String := ["~", "null", "Null", "NULL"]

/-- Spellings of true. -/
def trueWords : List String := ["yes", "Yes", "YES", "true", "True", "TRUE", "on", "On", "ON"]

/-- Spellings of false. -/
def falseWords : List String := ["no", "No", "NO", "false", "False", "FALSE", "off", "Off", "OFF"]

/-- Marks that resolve to something that cannot be made. -/
def reservedMarks : List String := ["!", "&", "*"]

/-! ## Numbers -/

/-- Whether a text starts with a minus sign, and the text after a sign. -/
def signed : List Char → Bool × List Char
  | '-' :: r => (true, r)
  | '+' :: r => (false, r)
  | cs => (false, cs)

/-- Whether all characters are underscores or digits below a base. -/
def allDigits (base : Nat) (cs : List Char) : Bool :=
  cs.all fun c ↦ c == '_' || ((Json.hexValue? c).any (· < base))

/-- Whether a part after a colon is a number below sixty. -/
def isSixtieth : List Char → Bool
  | [d] => isAsciiDigit d
  | [t, d] => isAsciiDigit t && t.toNat ≤ 53 && isAsciiDigit d
  | _ => false

/-- Whether a text without a sign is spelled like an integer. -/
def spellsNatural (cs : List Char) : Bool :=
  match cs with
  | ['0'] => true
  | '0' :: 'b' :: d :: r => allDigits 2 (d :: r)
  | '0' :: 'x' :: d :: r => allDigits 16 (d :: r)
  | '0' :: d :: r => allDigits 8 (d :: r)
  | c :: _ =>
    isAsciiDigit c && c != '0' &&
      match splitAt ':' cs with
      | whole :: parts => allDigits 10 whole && parts.all isSixtieth
      | [] => false
  | [] => false

/-- Whether a text is a power of ten with its mark and its sign, or empty. -/
def spellsPower : List Char → Bool
  | [] => true
  | mark :: sign :: ds =>
    (mark == 'e' || mark == 'E') && (sign == '-' || sign == '+') && !ds.isEmpty &&
      ds.all isAsciiDigit
  | _ => false

/-- Whether a text is spelled like a number with a point, an infinity or the undefined number. -/
def spellsReal (cs : List Char) : Bool :=
  let (_, body) := signed cs
  let isSigned := body.length != cs.length
  let isPart (c : Char) : Bool := isAsciiDigit c || c == '_'
  if String.ofList body ∈ [".inf", ".Inf", ".INF"] then true
  else if String.ofList cs ∈ [".nan", ".NaN", ".NAN"] then true
  else
    match body with
    | [] => false
    | c :: r =>
      if c = '.' then
        !isSigned && (r.head?).any isAsciiDigit && spellsPower (r.dropWhile isPart)
      else if !isAsciiDigit c then false
      else
        match body.dropWhile (fun c ↦ isPart c || c == ':') with
        | '.' :: r =>
          let rest := r.dropWhile isPart
          match splitAt ':' (body.takeWhile fun c ↦ isPart c || c == ':') with
          | [_] => spellsPower rest
          | whole :: parts => allDigits 10 whole && parts.all isSixtieth && rest.isEmpty
          | [] => false
        | _ => false

/-! ## Dates -/

/-- A date and, if there is one, its time of day, as they are written. -/
structure Calendar where
  /-- The year. -/
  year : Nat
  /-- The month. -/
  month : Nat
  /-- The day of the month. -/
  day : Nat
  /-- Hours, minutes and seconds. -/
  time : Option (Nat × Nat × Nat)
  /-- The distance from universal time, in minutes, of either sign. -/
  offset : Nat

/-- The number that one to `widest` digits at the start of a text denote, and what follows them. -/
def shortNumber? (widest : Nat) (cs : List Char) : Option (Nat × List Char) :=
  let ds := cs.takeWhile isAsciiDigit
  if ds.length ≤ widest && !ds.isEmpty then
    (decimalValue? ds).map fun n ↦ (n, cs.dropWhile isAsciiDigit)
  else none

/-- The text without the blanks at its start. -/
def dropBlanks (cs : List Char) : List Char := cs.dropWhile fun c ↦ c == ' ' || c == '\t'

/-- The distance from universal time that a text spells, in minutes. -/
def offset? (cs : List Char) : Option Nat :=
  match dropBlanks cs with
  | [] => if cs.isEmpty then some 0 else none
  | ['Z'] => some 0
  | sign :: r => do
    if sign ≠ '-' ∧ sign ≠ '+' then none
    else
      let (hours, r) ← shortNumber? 2 r
      match r with
      | [] => some (60 * hours)
      | [':', a, b] =>
        if isAsciiDigit a && isAsciiDigit b then (decimalValue? [a, b]).map (60 * hours + ·)
        else none
      | _ => none

/-- The time of day and the distance from universal time that a text spells. -/
def timeOfDay? (cs : List Char) : Option ((Nat × Nat × Nat) × Nat) := do
  let (hour, r) ← shortNumber? 2 cs
  match r with
  | ':' :: a :: b :: ':' :: c :: d :: r =>
    if !([a, b, c, d].all isAsciiDigit) then none
    let minute ← decimalValue? [a, b]
    let second ← decimalValue? [c, d]
    let r := match r with
      | '.' :: r => r.dropWhile isAsciiDigit
      | r => r
    some ((hour, minute, second), ← offset? r)
  | _ => none

/-- The date that a text spells. -/
def Calendar.ofText? (cs : List Char) : Option Calendar :=
  match cs with
  | a :: b :: c :: d :: '-' :: r => do
    if !([a, b, c, d].all isAsciiDigit) then none
    let year ← decimalValue? [a, b, c, d]
    let (month, r) ← shortNumber? 2 r
    match r with
    | '-' :: r =>
      let (day, r) ← shortNumber? 2 r
      match r with
      | [] => some ⟨year, month, day, none, 0⟩
      | mark :: after =>
        let clock := if mark = 't' ∨ mark = 'T' then after else dropBlanks r
        if clock.length = r.length then none
        else
          let (time, offset) ← timeOfDay? clock
          some ⟨year, month, day, some time, offset⟩
    | _ => none
  | _ => none

/-- Whether a plain scalar is spelled like a date: one without a time of day has two digits for the
month and two for the day. -/
def spellsMoment (cs : List Char) : Bool :=
  match Calendar.ofText? cs with
  | some date => date.time.isSome || cs.length == 10
  | none => false

/-! ## Resolution -/

/-- A text without one line feed at its end. -/
def dropLineFeed (cs : List Char) : List Char :=
  if cs.getLast? = some '\n' then cs.dropLast else cs

/-- The tag of a plain scalar. One line feed at its end is of no account. -/
def Tag.ofPlain (cs : List Char) : Tag :=
  let body := dropLineFeed cs
  let word := String.ofList body
  if cs.isEmpty || nullWords.contains word then .null
  else if trueWords.contains word || falseWords.contains word then .bool
  else if spellsReal body then .real
  else if spellsNatural (signed body).2 then .int
  else if word = "<<" then .merge
  else if spellsMoment body then .moment
  else if word = "=" then .default
  else if reservedMarks.contains word then .unknown
  else .str

end PersonaChat.Yaml
