import PersonaChat.Json.Basic
import PersonaChat.Number.Order

/-!
# YAML values

Values as read from a YAML document. A JSON value is one of them. JSON lacks sets, bytes, and dates
or points of time, of which only the presence is kept.
-/

namespace PersonaChat

open Number

/-- A YAML value. -/
inductive Yaml where
  /-- The null value. -/
  | null
  /-- A truth value. -/
  | bool (b : Bool)
  /-- An integer. -/
  | int (n : Int)
  /-- A floating-point number. -/
  | real (x : Binary64)
  /-- A date, with or without a time. -/
  | moment
  /-- A string. -/
  | str (s : String)
  /-- Bytes. -/
  | bytes (content : List UInt8)
  /-- A sequence. -/
  | seq (items : List Yaml)
  /-- A set, with its members in the order of the document. -/
  | set (members : List Yaml)
  /-- A mapping, with its entries in the order of the document. -/
  | map (entries : List (Yaml × Yaml))
  deriving Inhabited

namespace Yaml

mutual

/-- A JSON value as a YAML value. -/
def ofJson : Json → Yaml
  | .null => .null
  | .bool b => .bool b
  | .int n => .int n
  | .real x => .real x
  | .str s => .str s
  | .arr items => .seq (ofItems items)
  | .obj fields => .map (ofFields fields)

/-- The items of an array as those of a sequence. -/
def ofItems : List Json → List Yaml
  | [] => []
  | item :: r => ofJson item :: ofItems r

/-- The fields of an object as the entries of a mapping. -/
def ofFields : List (String × Json) → List (Yaml × Yaml)
  | [] => []
  | (key, value) :: r => (.str key, ofJson value) :: ofFields r

end

/-- Whether a value holds no others, so that it can be a key. -/
def isScalar : Yaml → Bool
  | .seq _ => false
  | .set _ => false
  | .map _ => false
  | _ => true

/-- The exact value of a number; truth values count as zero and one. -/
def quantity? : Yaml → Option Quantity
  | .bool b => some (.ofInt (if b then 1 else 0))
  | .int n => some (.ofInt n)
  | .real x => some (.ofReal x)
  | _ => none

/-- Whether two keys are the same one. Numbers are told apart by their values alone. -/
def sameKey (a b : Yaml) : Bool :=
  match a, b with
  | .null, .null => true
  | .str s, .str t => s == t
  | .bytes s, .bytes t => s == t
  | _, _ =>
    match a.quantity?, b.quantity? with
    | some x, some y => x.same y
    | _, _ => false

/-- Keys without those that came before. -/
def distinctKeys (seen : List Yaml) : List Yaml → List Yaml
  | [] => seen.reverse
  | key :: r => if seen.any key.sameKey then distinctKeys seen r else distinctKeys (key :: seen) r

/-- Whether a value counts as filled in: null, false, zero and whatever is empty do not. -/
def isFilled : Yaml → Bool
  | .null => false
  | .bool b => b
  | .int n => n != 0
  | .real x => !x.isZero
  | .moment => true
  | .str s => s != ""
  | .bytes content => !content.isEmpty
  | .seq items => !items.isEmpty
  | .set members => !members.isEmpty
  | .map entries => !entries.isEmpty

end Yaml
end PersonaChat
