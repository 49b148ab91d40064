/-!
# Binary floating-point numbers of 64 bits

A finite number is a signed multiple of a power of two with at most 53 significant bits. Rounding
to the nearest such number, ties to the even one, and the shortest decimal that reads back are
exact computations on natural numbers.
-/

namespace PersonaChat.Number

/-- A floating-point number with 53 significant bits. In a finite one the significand is below
`2 ^ 53`, and at least `2 ^ 52` unless the exponent is the least one. -/
inductive Binary64 where
  /-- The number `significand * 2 ^ exponent`, or its opposite. -/
  | finite (negative : Bool) (significand : Nat) (exponent : Int)
  /-- An infinity. -/
  | infinite (negative : Bool)
  /-- The result of an undefined operation. -/
  | notANumber
  deriving DecidableEq, Repr, Inhabited

namespace Binary64

/-- The least exponent. -/
def minExponent : Int := -1074

/-- The largest exponent of a finite number. -/
def maxExponent : Int := 971

/-- The positive zero. -/
def zero : Binary64 := .finite false 0 minExponent

/-- The quotient rounded to the nearest integer, ties to the even one. -/
def roundDiv (num den : Nat) : Nat :=
  let q := num / den
  let twice := 2 * (num % den)
  if twice < den then q else if den < twice then q + 1 else q + q % 2

/-- Numerator and denominator of `num / den / 2 ^ exponent`. -/
def scaled (num den : Nat) (exponent : Int) : Nat × Nat :=
  if 0 ≤ exponent then (num, den * Nat.pow 2 exponent.toNat)
  else (num * Nat.pow 2 (-exponent).toNat, den)

/-- The floating-point number nearest to `num / den`, where `den` is not zero. -/
def ofRatio (negative : Bool) (num den : Nat) : Binary64 :=
  if num = 0 then .finite negative 0 minExponent
  else
    let guess := max ((num.log2 : Int) - (den.log2 : Int) - 53) minExponent
    let (n, d) := scaled num den guess
    let exponent := if Nat.pow 2 53 ≤ n / d then guess + 1 else guess
    let (n, d) := scaled num den exponent
    let m := roundDiv n d
    let (m, exponent) := if m = Nat.pow 2 53 then (Nat.pow 2 52, exponent + 1)
      else (m, exponent)
    if maxExponent < exponent then .infinite negative else .finite negative m exponent

/-- The floating-point number nearest to `digits * 10 ^ exponent`. Exponents far outside the range
are cut off, as the result no longer depends on them. -/
def ofDecimal (negative : Bool) (digits : Nat) (exponent : Int) : Binary64 :=
  if digits = 0 then .finite negative 0 minExponent
  else
    let magnitude := exponent + (Nat.toDigits 10 digits).length
    if 310 < magnitude then .infinite negative
    else if magnitude < -326 then .finite negative 0 minExponent
    else if 0 ≤ exponent then ofRatio negative (digits * Nat.pow 10 exponent.toNat) 1
    else ofRatio negative digits (Nat.pow 10 (-exponent).toNat)

/-- The floating-point number nearest to an integer. -/
def ofInt (i : Int) : Binary64 := ofRatio (i < 0) i.natAbs 1

/-- Numerator and denominator of the magnitude of a finite number. -/
def ratio (significand : Nat) (exponent : Int) : Nat × Nat :=
  if 0 ≤ exponent then (significand * Nat.pow 2 exponent.toNat, 1)
  else (significand, Nat.pow 2 (-exponent).toNat)

/-- The integer part, towards zero; `none` for infinities and undefined results. -/
def truncate? : Binary64 → Option Int
  | .finite negative m e =>
    let (n, d) := ratio m e
    some (if negative then -((n / d : Nat) : Int) else ((n / d : Nat) : Int))
  | _ => none

/-- Whether a number is zero, of either sign. -/
def isZero : Binary64 → Bool
  | .finite _ m _ => m == 0
  | _ => false

/-- Whether a number is an integer. -/
def isWhole : Binary64 → Bool
  | .finite _ m e => let (n, d) := ratio m e; n % d == 0
  | _ => false

/-- Whether `bound ≤ x` for an integer `bound`; false for undefined results. -/
def atLeast (bound : Int) : Binary64 → Bool
  | .finite negative m e =>
    let (n, d) := ratio m e
    decide (bound * d ≤ if negative then -(n : Int) else (n : Int))
  | .infinite negative => !negative
  | .notANumber => false

/-- The number of decimal digits of `num / den` before the point, for a quotient of at least one;
otherwise zero or less, by the zeros after the point. It is searched from an estimate. -/
def decimalPoint (num den : Nat) : Int :=
  let below (p : Int) : Bool :=
    if 0 ≤ p then num < den * Nat.pow 10 p.toNat else num * Nat.pow 10 (-p).toNat < den
  let estimate : Int := ((num.log2 : Int) - (den.log2 : Int)) * 30103 / 100000
  let rec climb (p : Int) : Nat → Int
    | 0 => p
    | fuel + 1 => if below p then p else climb (p + 1) fuel
  climb (estimate - 2) 8

/-- A decimal: `digits * 10 ^ exponent`. -/
structure Decimal where
  /-- The digits as one number. -/
  digits : Nat
  /-- The power of ten. -/
  exponent : Int
  deriving DecidableEq

/-- The decimal with `count` significant digits nearest to `num / den` among those that read back
as `x`. -/
def candidate? (x : Binary64) (num den : Nat) (point : Int) (count : Nat) : Option Decimal :=
  let exponent := point - count
  let (n, d) := if 0 ≤ exponent then (num, den * Nat.pow 10 exponent.toNat)
    else (num * Nat.pow 10 (-exponent).toNat, den)
  let low := n / d
  let readsBack (digits : Nat) : Bool := ofDecimal false digits exponent == x
  let nearLow := 2 * (n % d) < d ∨ (2 * (n % d) = d ∧ low % 2 = 0)
  if nearLow then
    if readsBack low then some ⟨low, exponent⟩
    else if readsBack (low + 1) then some ⟨low + 1, exponent⟩ else none
  else
    if readsBack (low + 1) then some ⟨low + 1, exponent⟩
    else if readsBack low then some ⟨low, exponent⟩ else none

/-- The decimal with the fewest digits that reads back as the magnitude of a positive finite
number, and the nearest of those. Seventeen digits always suffice. -/
def shortest (m : Nat) (e : Int) : Decimal :=
  let (n, d) := ratio m e
  let point := decimalPoint n d
  ((List.range 17).findSome? fun k ↦ candidate? (.finite false m e) n d point (k + 1)).getD ⟨0, 0⟩

end Binary64
end PersonaChat.Number
