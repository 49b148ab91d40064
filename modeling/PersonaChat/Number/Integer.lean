import PersonaChat.Text.Blank
import PersonaChat.Text.Digit

/-!
# Integers in writing

An integer may be written with digits of any script, a sign, blank characters around it and single
underscores between its digits. Runs of more than 4300 digits are refused, as converting them would
take too long.
-/

namespace PersonaChat.Number

open PersonaChat.Text

/-- The largest number of digits that is converted. -/
def digitLimit : Nat := 4300

/-- Blank characters around an integer: all but the information separators. -/
def isNumberBlank (c : Char) : Bool := isBlank c && !(28 ≤ c.toNat && c.toNat ≤ 31)

/-- The number a run of digits denotes; `none` for an empty run, for a character that is no digit
and for too long a run. -/
def ofDigits? (ds : List Char) : Option Nat :=
  if ds.isEmpty || digitLimit < ds.length then none else decimalValue? ds

/-- The digits of a run in which single underscores may stand between two digits. -/
def ungroup? : List Char → Option (List Char)
  | [] => none
  | [c] => if isDecimal c then some [c] else none
  | c :: d :: r =>
    if !isDecimal c then none
    else if d = '_' then (ungroup? r).map (c :: ·)
    else (ungroup? (d :: r)).map (c :: ·)

/-- The integer that a text denotes. -/
def readInt? (cs : List Char) : Option Int :=
  let body := ((cs.dropWhile isNumberBlank).reverse.dropWhile isNumberBlank).reverse
  match body with
  | '-' :: ds => ((ungroup? ds).bind ofDigits?).map fun n ↦ -(n : Int)
  | '+' :: ds => ((ungroup? ds).bind ofDigits?).map Int.ofNat
  | ds => ((ungroup? ds).bind ofDigits?).map Int.ofNat

end PersonaChat.Number
