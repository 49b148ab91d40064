import PersonaChat.Json.Basic
import PersonaChat.Number.Integer
import PersonaChat.Number.Notation
import PersonaChat.Text.Utf8

/-!
# Reading JSON

A reader for documents that also admits the words for numbers that are not finite. Strings take no
bare control characters, integers no leading zeros and at most 4300 digits. A key that occurs twice
has its last value.

Texts are sequences of Unicode scalar values. An escape may name half of a surrogate pair; two
halves that belong together make one character, and a half that stands alone becomes the
replacement character.
-/

namespace PersonaChat.Json

open Text Number

/-- Blank characters between the tokens of a document. -/
def isSpace (c : Char) : Bool := c == ' ' || c == '\t' || c == '\n' || c == '\r'

/-- Drop the blank characters before a token. -/
def skipSpace (cs : List Char) : List Char := cs.dropWhile isSpace

/-- The value of a hexadecimal digit. -/
def hexValue? (c : Char) : Option Nat :=
  let n := c.toNat
  if 48 ≤ n ∧ n ≤ 57 then some (n - 48)
  else if 65 ≤ n ∧ n ≤ 70 then some (n - 55)
  else if 97 ≤ n ∧ n ≤ 102 then some (n - 87)
  else none

/-- The character of a one-letter escape. -/
def escapeChar? : Char → Option Char
  | '"' => some '"'
  | '\\' => some '\\'
  | '/' => some '/'
  | 'b' => some '\x08'
  | 'f' => some '\x0c'
  | 'n' => some '\n'
  | 'r' => some '\r'
  | 't' => some '\t'
  | _ => none

/-- Where the reader stands inside a string. -/
inductive StringState where
  /-- Between characters. -/
  | plain
  /-- After a backslash. -/
  | escaped
  /-- Inside a numeric escape: digits still owed and the value so far. -/
  | numeric (owed value : Nat)

/-- The code units of a string body up to its closing quote, and the text after it. A character is
given as it is, a numeric escape as its unit of sixteen bits. -/
def stringBody (state : StringState) : List Char → Option (List (Char ⊕ Nat) × List Char)
  | [] => none
  | c :: r =>
    match state with
    | .plain =>
      if c = '"' then some ([], r)
      else if c = '\\' then stringBody .escaped r
      else if c.toNat < 32 then none
      else (stringBody .plain r).map fun (body, rest) ↦ (.inl c :: body, rest)
    | .escaped =>
      if c = 'u' then stringBody (.numeric 4 0) r
      else do
        let meant ← escapeChar? c
        let (body, rest) ← stringBody .plain r
        return (.inl meant :: body, rest)
    | .numeric owed value => do
      let digit ← hexValue? c
      let value := value * 16 + digit
      if owed ≤ 1 then
        let (body, rest) ← stringBody .plain r
        return (.inr value :: body, rest)
      else stringBody (.numeric (owed - 1) value) r

/-- The characters of a string body, where two escaped units may make one character. -/
def joinUnits : List (Char ⊕ Nat) → List Char
  | [] => []
  | .inl c :: r => c :: joinUnits r
  | [.inr u] => [charOrReplacement u]
  | .inr u :: .inl c :: r => charOrReplacement u :: c :: joinUnits r
  | .inr u :: .inr v :: r =>
    if 0xD800 ≤ u ∧ u ≤ 0xDBFF ∧ 0xDC00 ≤ v ∧ v ≤ 0xDFFF then
      Char.ofNat (0x10000 + (u - 0xD800) * 0x400 + (v - 0xDC00)) :: joinUnits r
    else charOrReplacement u :: joinUnits (.inr v :: r)

/-- A string after its opening quote. -/
def string? (cs : List Char) : Option (String × List Char) :=
  (stringBody .plain cs).map fun (body, rest) ↦ (String.ofList (joinUnits body), rest)

/-- The digits after a point, when a point is followed by at least one. -/
def fraction? : List Char → Option (List Char × List Char)
  | '.' :: r =>
    match r.takeWhile isAsciiDigit with
    | [] => none
    | ds => some (ds, r.dropWhile isAsciiDigit)
  | _ => none

/-- The power of ten after its mark, when it is complete. -/
def power? : List Char → Option (Int × List Char)
  | c :: r =>
    if c = 'e' ∨ c = 'E' then
      let (negative, ds) := match r with
        | '-' :: r => (true, r)
        | '+' :: r => (false, r)
        | r => (false, r)
      match ds.takeWhile isAsciiDigit with
      | [] => none
      | digits =>
        (decimalValue? digits).map fun n ↦
          (if negative then -(n : Int) else n, ds.dropWhile isAsciiDigit)
    else none
  | [] => none

/-- The digits of the whole part of a number: a zero, or digits that start with another one. -/
def wholeDigits (cs : List Char) : List Char × List Char :=
  match cs with
  | '0' :: r => (['0'], r)
  | cs => (cs.takeWhile isAsciiDigit, cs.dropWhile isAsciiDigit)

/-- A number after its sign. -/
def number? (negative : Bool) (cs : List Char) : Option (Json × List Char) :=
  let (whole, rest) := wholeDigits cs
  if whole.isEmpty then none
  else
    let fraction := fraction? rest
    let afterFraction := (fraction.map Prod.snd).getD rest
    let power := power? afterFraction
    let rest := (power.map Prod.snd).getD afterFraction
    if fraction.isNone && power.isNone then
      (ofDigits? whole).map fun n ↦ (.int (if negative then -(n : Int) else n), rest)
    else
      let w : Binary64.Written :=
        ⟨whole, (fraction.map Prod.fst).getD [], (power.map Prod.fst).getD 0⟩
      (w.value? negative).map fun x ↦ (.real x, rest)

/-- A word or a number. -/
def scalar? (cs : List Char) : Option (Json × List Char) :=
  match dropWord? "null" cs, dropWord? "true" cs, dropWord? "false" cs with
  | some r, _, _ => some (.null, r)
  | _, some r, _ => some (.bool true, r)
  | _, _, some r => some (.bool false, r)
  | none, none, none =>
    match dropWord? "NaN" cs, dropWord? "Infinity" cs, dropWord? "-Infinity" cs with
    | some r, _, _ => some (.real .notANumber, r)
    | _, some r, _ => some (.real (.infinite false), r)
    | _, _, some r => some (.real (.infinite true), r)
    | none, none, none =>
      match cs with
      | '-' :: r => number? true r
      | cs => number? false cs
where
  /-- The text after a word. -/
  dropWord? (word : String) (cs : List Char) : Option (List Char) :=
    if word.toList.isPrefixOf cs then some (cs.drop word.length) else none

/-- Why a text is no document. -/
inductive ReadFault where
  /-- It breaks the rules. -/
  | malformed
  /-- It nests its values too deep; the innermost one that was tried is of the given kind. -/
  | tooDeep (kind : String)
  deriving DecidableEq, Repr

/-- How deep values may be nested. -/
def maxDepth : Nat := 985

/-- What is not there breaks the rules. -/
def orMalformed {α : Type} : Option α → Except ReadFault α
  | some a => .ok a
  | none => .error .malformed

mutual

/-- A value at the start of a text, and the text after it; arrays and objects may be nested as deep
as `depth` tells. -/
def value (fuel depth : Nat) (cs : List Char) : Except ReadFault (Json × List Char) :=
  match fuel with
  | 0 => .error .malformed
  | fuel + 1 =>
    match cs, depth with
    | '"' :: r, _ => orMalformed ((string? r).map fun (s, rest) ↦ (.str s, rest))
    | '[' :: _, 0 => .error (.tooDeep "array")
    | '\x7b' :: _, 0 => .error (.tooDeep "object")
    | '[' :: r, depth + 1 =>
      match skipSpace r with
      | ']' :: rest => .ok (.arr [], rest)
      | r => (items fuel depth r).map fun (items, rest) ↦ (.arr items, rest)
    | '\x7b' :: r, depth + 1 =>
      match skipSpace r with
      | '\x7d' :: rest => .ok (.obj [], rest)
      | r => (fields fuel depth [] r).map fun (fields, rest) ↦ (.obj fields, rest)
    | cs, _ => orMalformed (scalar? cs)

/-- The items of an array up to its end. -/
def items (fuel depth : Nat) (cs : List Char) : Except ReadFault (List Json × List Char) :=
  match fuel with
  | 0 => .error .malformed
  | fuel + 1 => do
    let (item, r) ← value fuel depth cs
    match skipSpace r with
    | ']' :: rest => return ([item], rest)
    | ',' :: r =>
      let (items, rest) ← items fuel depth (skipSpace r)
      return (item :: items, rest)
    | _ => throw .malformed

/-- The fields of an object up to its end, added to those read before. -/
def fields (fuel depth : Nat) (before : List (String × Json)) (cs : List Char) :
    Except ReadFault (List (String × Json) × List Char) :=
  match fuel with
  | 0 => .error .malformed
  | fuel + 1 =>
    match cs with
    | '"' :: r => do
      let (key, r) ← orMalformed (string? r)
      match skipSpace r with
      | ':' :: r =>
        let (item, r) ← value fuel depth (skipSpace r)
        let read := Keyed.put key item before
        match skipSpace r with
        | '\x7d' :: rest => return (read, rest)
        | ',' :: r => fields fuel depth read (skipSpace r)
        | _ => throw .malformed
      | _ => throw .malformed
    | _ => .error .malformed

end

/-- The value that a text is, with blank characters around it. -/
def read (text : String) : Except ReadFault Json := do
  let cs := skipSpace text.toList
  let (value, rest) ← value (2 * cs.length + 2) maxDepth cs
  if (skipSpace rest).isEmpty then return value else throw .malformed

/-- The value that a text is, if it is one. -/
def parse? (text : String) : Option Json := (read text).toOption

/-- The value that a document holds, in whichever encoding it is written. -/
def readBytes (bytes : List UInt8) : Except ReadFault Json :=
  (orMalformed (decodeDocument? bytes)).bind read

end PersonaChat.Json
