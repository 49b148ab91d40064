import PersonaChat.Number.Binary64

/-!
# Sums and products of floating-point numbers

Each result is the floating-point number nearest to the exact one. A sum that is exactly zero is
the negative zero only when both terms are negative.
-/

namespace PersonaChat.Number.Binary64

/-- The opposite number. -/
def negate : Binary64 → Binary64
  | .finite negative m e => .finite (!negative) m e
  | .infinite negative => .infinite (!negative)
  | .notANumber => .notANumber

/-- A finite number as a multiple of `2 ^ low`, where `low` is at most its exponent. -/
def multiple (negative : Bool) (m : Nat) (e low : Int) : Int :=
  let n : Int := m * Int.pow 2 (e - low).toNat
  if negative then -n else n

/-- The sum of two numbers. -/
def add : Binary64 → Binary64 → Binary64
  | .finite a m e, .finite b n f =>
    let low := min e f
    let sum := multiple a m e low + multiple b n f low
    if sum = 0 then .finite (a && b) 0 minExponent
    else
      let (num, den) := ratio sum.natAbs low
      ofRatio (sum < 0) num den
  | .infinite a, .infinite b => if a = b then .infinite a else .notANumber
  | .infinite a, .finite _ _ _ => .infinite a
  | .finite _ _ _, .infinite b => .infinite b
  | .notANumber, _ => .notANumber
  | _, .notANumber => .notANumber

/-- The product of two numbers. -/
def mul : Binary64 → Binary64 → Binary64
  | .finite a m e, .finite b n f =>
    let (num, den) := ratio (m * n) (e + f)
    ofRatio (a != b) num den
  | .infinite a, .finite b n _ => if n = 0 then .notANumber else .infinite (a != b)
  | .finite a m _, .infinite b => if m = 0 then .notANumber else .infinite (a != b)
  | .infinite a, .infinite b => .infinite (a != b)
  | .notANumber, _ => .notANumber
  | _, .notANumber => .notANumber

end PersonaChat.Number.Binary64
