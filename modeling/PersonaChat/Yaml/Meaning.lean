import PersonaChat.Number.Arithmetic
import PersonaChat.Number.Integer
import PersonaChat.Number.Notation
import PersonaChat.Text.Base64
import PersonaChat.Yaml.Basic
import PersonaChat.Yaml.Tag

/-!
# The value of a scalar

A tag says how the text of a scalar is read. A tag that is written out may stand before any text,
so that each reader takes more spellings than those by which a plain scalar is resolved; a text
that does not fit its tag has no value.
-/

namespace PersonaChat.Yaml

open Text Number

/-- The digits of all scripts as ASCII digits; other characters stay. -/
def asciiDigits (cs : List Char) : List Char :=
  cs.map fun c ↦ ((digitValue? c).map digitChar).getD c

/-- The text without blanks around it. -/
def trimmed (cs : List Char) : List Char :=
  ((cs.dropWhile isNumberBlank).reverse.dropWhile isNumberBlank).reverse

/-- The integer that a text spells in a base, with blanks around it, a sign and the mark of the
base before its digits. -/
def basedInteger? (base : Nat) (mark : Char) (cs : List Char) : Option Int :=
  let (negative, body) := signed (trimmed cs)
  let digits := match body with
    | '0' :: c :: r => if c.toLower = mark then r else body
    | _ => body
  if digits.isEmpty then none
  else
    (digits.foldlM (fun acc c ↦
      match (digitValue? c).or (Json.hexValue? c) with
      | some d => if d < base then some (acc * base + d) else none
      | none => none) 0).map fun (n : Nat) ↦ if negative then -(n : Int) else n

/-- The integer that a run of sixties spells, the part of the ones first. -/
def sixties? (weight : Int) : List (List Char) → Option Int
  | [] => some 0
  | part :: r => do some ((← readInt? part) * weight + (← sixties? (weight * 60) r))

/-- The integer that a text spells. -/
def integer? (cs : List Char) : Option Int := do
  let cs := cs.filter (· != '_')
  let (negative, body) := signed cs
  let n ← match body with
    | ['0'] => some 0
    | '0' :: 'b' :: r => basedInteger? 2 'b' r
    | '0' :: 'x' :: r => basedInteger? 16 'x' r
    | '0' :: _ => basedInteger? 8 'o' body
    | _ =>
      if body.contains ':' then sixties? 1 (splitAt ':' body).reverse else readInt? body
  some (if negative then -n else n)

/-- The number that a text spells with blanks around it: a decimal, or a word for what is not
finite. -/
def decimal? (cs : List Char) : Option Binary64 := Binary64.ofText? (asciiDigits (trimmed cs))

/-- The number that a run of sixties spells, the part of the ones first. Each part is added to the
sum of those before it; a weight that is too large is refused. -/
def realSixties? (sum : Binary64) (weight : Nat) : List (List Char) → Option Binary64
  | [] => some sum
  | part :: r => do
    let digit ← decimal? part
    match Binary64.ofInt weight with
    | .infinite _ => none
    | w => realSixties? (sum.add (digit.mul w)) (weight * 60) r

/-- The number that a text spells. -/
def real? (cs : List Char) : Option Binary64 := do
  let cs := (cs.filter (· != '_')).map Char.toLower
  if cs.isEmpty then none
  let (negative, body) := signed cs
  let x ← match String.ofList body with
    | ".inf" => some (.infinite false)
    | ".nan" => some .notANumber
    | _ =>
      if body.contains ':' then realSixties? .zero 1 (splitAt ':' body).reverse else decimal? body
  some (if negative then x.negate else x)

/-- Days of a month. -/
def monthDays (year month : Nat) : Nat :=
  if month = 2 then
    if year % 4 = 0 ∧ (year % 100 ≠ 0 ∨ year % 400 = 0) then 29 else 28
  else if month ∈ [4, 6, 9, 11] then 30 else 31

/-- Whether a date is on the calendar, its time on the clock, and its distance from universal time
below a day. -/
def Calendar.exists (date : Calendar) : Bool :=
  let onCalendar := 1 ≤ date.year && 1 ≤ date.month && date.month ≤ 12 && 1 ≤ date.day &&
    date.day ≤ monthDays date.year date.month
  let onClock := match date.time with
    | some (hour, minute, second) => hour < 24 && minute < 60 && second < 60
    | none => true
  onCalendar && onClock && date.offset < 24 * 60

/-- The truth value that a text spells, in any case. -/
def truth? (cs : List Char) : Option Bool :=
  let word := String.ofList (cs.map Char.toLower)
  if ["yes", "true", "on"].contains word then some true
  else if ["no", "false", "off"].contains word then some false
  else none

/-- The value of a text under a tag. -/
def Tag.read? (cs : List Char) : Tag → Option Yaml
  | .null => some .null
  | .bool => (truth? cs).map .bool
  | .int => (integer? cs).map .int
  | .real => (real? cs).map .real
  | .binary => if cs.all (·.toNat < 128) then (Base64.decode? cs).map .bytes else none
  | .moment =>
    match Calendar.ofText? (dropLineFeed cs) with
    | some date => if date.exists then some .moment else none
    | none => none
  | .str => some (.str (String.ofList cs))
  | _ => none

end PersonaChat.Yaml
