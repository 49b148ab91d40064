import PersonaChat.Json.Basic
import PersonaChat.Number.Order
import PersonaChat.Refusal

/-!
# What can be asked of a value

Values whose type nobody has checked stand where texts are expected. What only a text can do fails
for any other value, and so do looking up a value that is composed of others and ordering values of
different kinds.
-/

namespace PersonaChat.Json

open Number

/-- The word for the kind of a value. -/
def kindWord : Json → String
  | .null => "NoneType"
  | .bool _ => "bool"
  | .int _ => "int"
  | .real _ => "float"
  | .str _ => "str"
  | .arr _ => "list"
  | .obj _ => "dict"

/-- The text that a value is, for an operation that only texts have. -/
def forOperation (operation : String) : Json → Except Crash String
  | .str s => .ok s
  | j => .error (.noOperation j.kindWord operation)

/-- The text that a value is, to be searched. -/
def forSearch : Json → Except Crash String
  | .str s => .ok s
  | j => .error (.wrongKind ("expected string or bytes-like object, got '" ++ j.kindWord ++ "'"))

/-- Whether a value is composed of others. -/
def isComposed : Json → Bool
  | .arr _ | .obj _ => true
  | _ => false

/-- A value that is looked up, which cannot be composed of others. -/
def forLookup (j : Json) : Except Crash Json :=
  if j.isComposed then .error (.wrongKind ("unhashable type: '" ++ j.kindWord ++ "'")) else .ok j

/-- The exact value of a number; a truth value counts as zero or one. -/
def quantity? : Json → Option Quantity
  | .bool b => some (.ofInt (if b then 1 else 0))
  | .int n => some (.ofInt n)
  | .real x => some (.ofReal x)
  | _ => none

mutual

/-- Whether two values are equal: numbers by their exact values, objects without regard to the
order of their fields. -/
def equal (a b : Json) : Bool :=
  match a, b with
  | .null, .null => true
  | .str s, .str t => s == t
  | .arr xs, .arr ys => equalItems xs ys
  | .obj xs, .obj ys => xs.length == ys.length && equalFields xs ys
  | .bool b, y => same (.bool b) y
  | .int n, y => same (.int n) y
  | .real x, y => same (.real x) y
  | _, _ => false
where
  /-- Whether two values are numbers of the same exact value. -/
  same (a b : Json) : Bool :=
    match a.quantity?, b.quantity? with
    | some p, some q => p.same q
    | _, _ => false

/-- Whether two arrays have equal items. -/
def equalItems (xs ys : List Json) : Bool :=
  match xs, ys with
  | [], [] => true
  | x :: xs, y :: ys => equal x y && equalItems xs ys
  | _, _ => false

/-- Whether an object has fields that are equal to the given ones. -/
def equalFields (xs ys : List (String × Json)) : Bool :=
  match xs with
  | [] => true
  | (key, x) :: xs =>
    (match Keyed.get? key ys with
      | some y => equal x y
      | none => false) && equalFields xs ys

end

mutual

/-- Whether a value is below another one. Numbers, texts and arrays have an order, values of
different kinds have none. -/
def isBelow (a b : Json) : Except Crash Bool :=
  match a, b with
  | .str s, .str t => .ok (s < t)
  | .arr xs, .arr ys => isBelowItems xs ys
  | a, b =>
    match a.quantity?, b.quantity? with
    | some p, some q => .ok (p.below q)
    | _, _ => .error (.wrongKind ("'<' not supported between instances of '" ++ a.kindWord ++
        "' and '" ++ b.kindWord ++ "'"))

/-- Whether an array is below another one: by the first items that differ, else by length. -/
def isBelowItems (xs ys : List Json) : Except Crash Bool :=
  match xs, ys with
  | x :: xs, y :: ys => if equal x y then isBelowItems xs ys else isBelow x y
  | [], _ :: _ => .ok true
  | _, [] => .ok false

end

/-- Whether a value is a text. -/
def isText (j : Json) : Bool := j.text?.isSome

/-- Check that values can be put in order: each must be comparable with every other. -/
def checkComparable (xs : List Json) : Except Crash Unit :=
  if xs.all isText then .ok ()
  else do
    let _ ← (xs.zipIdx 1).mapM fun (x, i) ↦ (xs.drop i).mapM fun y ↦ isBelow y x

/-- Elements in ascending order of their keys, those with equal keys as they stood. -/
def sortedBy {α : Type} (key : α → Json) (xs : List α) : Except Crash (List α) := do
  checkComparable (xs.map key)
  return xs.mergeSort fun a b ↦ (isBelow (key b) (key a)).toOption != some true

end PersonaChat.Json
