import PersonaChat.Number.Integer
import PersonaChat.Text.Scan

/-!
# Positions of a history in writing

Positions are written as numbers and ranges, such as `1`, `1-5` or `1,3,5`. Every number or range
that occurs in a text counts, whatever stands between. A range that runs backwards names nothing, a
long one is cut off, and zero is no position.

Spec guidance: `SPEC_FULL.md`, lines 98–103 and 225.
-/

namespace PersonaChat.Command

open Text Number

/-- The largest number of positions that one range names. -/
def maxSpan : Nat := 10000

/-- Why positions cannot be read. -/
inductive IndexFault where
  /-- A run of digits is too long to be converted. -/
  | numberTooLong
  deriving DecidableEq, Repr

/-- One item in writing: a run of digits, or two with a hyphen between them. -/
structure IndexItem where
  /-- The first run of digits. -/
  first : List Char
  /-- The second run of digits, after a hyphen. -/
  last : Option (List Char)
  deriving DecidableEq

/-- Recognise an item and its width. -/
def indexItem? (cs : List Char) : Option (IndexItem × Nat) :=
  match cs.takeWhile isDecimal with
  | [] => none
  | first =>
    match cs.dropWhile isDecimal with
    | '-' :: r =>
      match r.takeWhile isDecimal with
      | [] => some (⟨first, none⟩, first.length)
      | last => some (⟨first, some last⟩, first.length + 1 + last.length)
    | _ => some (⟨first, none⟩, first.length)

/-- The positions that an item names, zero included. -/
def IndexItem.positions (item : IndexItem) : Except IndexFault (List Nat) :=
  match ofDigits? item.first, item.last.map ofDigits? with
  | none, _ | _, some none => .error .numberTooLong
  | some a, none => .ok [a]
  | some a, some (some b) => .ok (List.range' a (min (b + 1 - a) maxSpan))

/-- An ascending list without its repetitions. -/
def dropRepeats : List Nat → List Nat
  | [] => []
  | [a] => [a]
  | a :: b :: r => if a = b then dropRepeats (b :: r) else a :: dropRepeats (b :: r)

/-- The positions that a text names, ascending and each once. -/
def readIndices (cs : List Char) : Except IndexFault (List Nat) := do
  let named ← (hits indexItem? cs).mapM IndexItem.positions
  return dropRepeats ((named.flatten.filter (· ≠ 0)).mergeSort)

end PersonaChat.Command
