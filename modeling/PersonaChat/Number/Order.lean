import PersonaChat.Number.Binary64

/-!
# The order of numbers

Integers and floating-point numbers are compared by their exact values. An undefined result is
neither equal to any number, nor below or above one.
-/

namespace PersonaChat.Number

/-- The exact value of a number. -/
inductive Quantity where
  /-- The quotient of an integer and a positive number. -/
  | ratio (num : Int) (den : Nat)
  /-- An infinity. -/
  | infinite (negative : Bool)
  /-- No value at all. -/
  | undefined
  deriving DecidableEq, Repr

namespace Quantity

/-- The value of an integer. -/
def ofInt (n : Int) : Quantity := .ratio n 1

/-- The value of a floating-point number. -/
def ofReal : Binary64 → Quantity
  | .finite negative m e =>
    let (n, d) := Binary64.ratio m e
    .ratio (if negative then -(n : Int) else n) d
  | .infinite negative => .infinite negative
  | .notANumber => .undefined

/-- Whether two values are the same. -/
def same : Quantity → Quantity → Bool
  | .ratio a b, .ratio c d => a * d == c * b
  | .infinite a, .infinite b => a == b
  | _, _ => false

/-- Whether a value is below another one. -/
def below : Quantity → Quantity → Bool
  | .ratio a b, .ratio c d => a * d < c * b
  | .ratio _ _, .infinite negative => !negative
  | .infinite negative, .ratio _ _ => negative
  | .infinite a, .infinite b => a && !b
  | _, _ => false

end Quantity
end PersonaChat.Number
