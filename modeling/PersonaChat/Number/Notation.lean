import PersonaChat.Number.Binary64
import PersonaChat.Text.Digit

/-!
# Floating-point numbers in writing

Numbers are written with the fewest digits that read back: positionally from `0.0001` up to sixteen
digits before the point, and with a power of ten otherwise. A whole number keeps one zero after the
point. Reading takes a sign, digits, a point and a power of ten.
-/

namespace PersonaChat.Number.Binary64

open PersonaChat.Text

/-- Significant digits without trailing zeros, and the place of the point counted from the first
digit. -/
def significant (decimal : Decimal) : List Char × Int :=
  let ds := natChars decimal.digits
  let kept := (ds.reverse.dropWhile (· == '0')).reverse
  (kept, ds.length + decimal.exponent)

/-- A positive decimal in writing. -/
def decimalChars (decimal : Decimal) : List Char :=
  let (ds, point) := significant decimal
  if -4 < point ∧ point ≤ 16 then
    if point ≤ 0 then ['0', '.'] ++ List.replicate (-point).toNat '0' ++ ds
    else
      let whole := point.toNat
      if ds.length ≤ whole then ds ++ List.replicate (whole - ds.length) '0' ++ ['.', '0']
      else ds.take whole ++ ['.'] ++ ds.drop whole
  else
    let power := point - 1
    let mantissa := match ds with
      | [d] => [d]
      | d :: r => d :: '.' :: r
      | [] => ['0']
    mantissa ++ ['e', if power < 0 then '-' else '+'] ++ paddedChars 2 power.natAbs

/-- A number in writing, given the words for what is not finite. -/
def write (infinity undefined : List Char) : Binary64 → List Char
  | .finite negative m e =>
    (if negative then ['-'] else []) ++
      (if m = 0 then ['0', '.', '0'] else decimalChars (shortest m e))
  | .infinite negative => (if negative then ['-'] else []) ++ infinity
  | .notANumber => undefined

/-- The parts of an unsigned decimal in writing. -/
structure Written where
  /-- Digits before the point. -/
  whole : List Char
  /-- Digits after the point. -/
  fraction : List Char
  /-- Power of ten. -/
  power : Int

/-- The number that a decimal in writing denotes. -/
def Written.value? (w : Written) (negative : Bool) : Option Binary64 :=
  (decimalValue? (w.whole ++ w.fraction)).map fun digits ↦
    ofDecimal negative digits (w.power - w.fraction.length)

/-- A power of ten after its mark: a sign and at least one digit. -/
def readPower? (cs : List Char) : Option Int :=
  let (negative, ds) := match cs with
    | '-' :: r => (true, r)
    | '+' :: r => (false, r)
    | r => (false, r)
  if ds.isEmpty || !ds.all isAsciiDigit then none
  else (decimalValue? ds).map fun n ↦ if negative then -(n : Int) else n

/-- An unsigned decimal: digits with at most one point, at least one digit, and a power of ten. -/
def readUnsigned? (cs : List Char) : Option Written :=
  let whole := cs.takeWhile isAsciiDigit
  let rest := cs.dropWhile isAsciiDigit
  let (fraction, rest) := match rest with
    | '.' :: r => (r.takeWhile isAsciiDigit, r.dropWhile isAsciiDigit)
    | r => ([], r)
  if whole.isEmpty && fraction.isEmpty then none
  else
    match rest with
    | [] => some ⟨whole, fraction, 0⟩
    | c :: r => if c = 'e' ∨ c = 'E' then (readPower? r).map (⟨whole, fraction, ·⟩) else none

/-- The number that a text without blanks around it spells: a decimal with or without a sign, or a
word in any case for what is not finite. -/
def ofText? (cs : List Char) : Option Binary64 :=
  let (negative, body) := match cs with
    | '-' :: r => (true, r)
    | '+' :: r => (false, r)
    | r => (false, r)
  let word := String.ofList (body.map Char.toLower)
  if word = "inf" ∨ word = "infinity" then some (.infinite negative)
  else if word = "nan" then some .notANumber
  else (readUnsigned? body).bind (·.value? negative)

end PersonaChat.Number.Binary64
