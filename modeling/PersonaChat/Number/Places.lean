import PersonaChat.Number.Binary64
import PersonaChat.Text.Digit

/-!
# Numbers with a chosen number of places

A magnitude is written with a number of places after the point, with a number of significant digits
and a power of ten, or with whichever of the two is shorter. What is left out is rounded to the
nearest, ties to even.
-/

namespace PersonaChat.Number.Binary64

open PersonaChat.Text

/-- Digits without the zeros at their end. -/
def withoutTrailingZeros (ds : List Char) : List Char := (ds.reverse.dropWhile (· == '0')).reverse

/-- Digits filled with zeros on the right up to a number. -/
def fillRight (count : Nat) (ds : List Char) : List Char :=
  ds ++ List.replicate (count - ds.length) '0'

/-- Digits before and after a point; the point stands only before a digit, unless it is kept. -/
def joinPoint (keepPoint : Bool) (whole fraction : List Char) : List Char :=
  if fraction.isEmpty && !keepPoint then whole else whole ++ '.' :: fraction

/-- The magnitude `num / den` with a number of places after the point. -/
def fixedChars (keepPoint : Bool) (places num den : Nat) : List Char :=
  let ds := paddedChars (places + 1) (roundDiv (num * Nat.pow 10 places) den)
  joinPoint keepPoint (ds.take (ds.length - places)) (ds.drop (ds.length - places))

/-- The given number of significant digits of `num / den`, without the zeros at their end, and the
number of digits before the point. Zero has one digit. -/
def significantDigits (count num den : Nat) : List Char × Int :=
  if num = 0 then (['0'], 1)
  else
    let point := decimalPoint num den
    let exponent := point - count
    let q :=
      if 0 ≤ exponent then roundDiv num (den * Nat.pow 10 exponent.toNat)
      else roundDiv (num * Nat.pow 10 (-exponent).toNat) den
    let ds := natChars q
    (withoutTrailingZeros ds, point + (ds.length - count))

/-- Significant digits with a power of ten. -/
def powerChars (keepPoint : Bool) (ds : List Char) (point : Int) : List Char :=
  let power := point - 1
  joinPoint keepPoint (ds.take 1) (ds.drop 1) ++
    ['e', if power < 0 then '-' else '+'] ++ paddedChars 2 power.natAbs

/-- The magnitude `num / den` with one digit before the point, a number of places after it, and a
power of ten. -/
def scientificChars (keepPoint : Bool) (places num den : Nat) : List Char :=
  let (ds, point) := significantDigits (places + 1) num den
  powerChars keepPoint (fillRight (places + 1) ds) point

/-- The magnitude `num / den` with a number of significant digits: positionally from `0.0001` up to
that many digits before the point, and with a power of ten otherwise. Zeros at the end of the
places are left out, unless the point is kept. -/
def generalChars (keepPoint : Bool) (precision num den : Nat) : List Char :=
  let count := max 1 precision
  let (ds, point) := significantDigits count num den
  let ds := if keepPoint then fillRight count ds else ds
  if -4 < point ∧ point ≤ count then
    if point ≤ 0 then joinPoint keepPoint ['0'] (List.replicate (-point).toNat '0' ++ ds)
    else joinPoint keepPoint (fillRight point.toNat (ds.take point.toNat)) (ds.drop point.toNat)
  else powerChars keepPoint ds point

end PersonaChat.Number.Binary64
