import PersonaChat.Text.PrintTable

/-!
# Texts in quotes

A text is shown in single quotes, or in double ones if it holds a single quote and no double one.
Backslashes, the quotes themselves and characters that do not print are escaped.
-/

namespace PersonaChat.Text

/-- The last `width` hexadecimal digits of a number. -/
def hexDigits : (width n : Nat) → List Char
  | 0, _ => []
  | width + 1, n =>
    let d := n % 16
    hexDigits width (n / 16) ++ [if d < 10 then Char.ofNat (48 + d) else Char.ofNat (87 + d)]

/-- Whether a character prints. -/
def prints (c : Char) : Bool :=
  let n := c.toNat
  if n < 127 then 32 ≤ n else !unprintedRuns.any fun r ↦ r.1 ≤ n && n ≤ r.2

/-- A character written as the number of its code point. -/
def escapeNumber (c : Char) : List Char :=
  let n := c.toNat
  if n < 0x100 then '\\' :: 'x' :: hexDigits 2 n
  else if n < 0x10000 then '\\' :: 'u' :: hexDigits 4 n
  else '\\' :: 'U' :: hexDigits 8 n

/-- A character inside quotes of the given kind. -/
def quoteChar (mark c : Char) : List Char :=
  if c = mark ∨ c = '\\' then ['\\', c]
  else if c = '\n' then ['\\', 'n']
  else if c = '\r' then ['\\', 'r']
  else if c = '\t' then ['\\', 't']
  else if prints c then [c]
  else escapeNumber c

/-- A text with every character outside ASCII written as the number of its code point. -/
def escapeForeign (s : String) : String :=
  String.ofList (s.toList.flatMap fun c ↦ if c.toNat < 128 then [c] else escapeNumber c)

/-- A text in quotes. -/
def quoted (s : String) : String :=
  let cs := s.toList
  let mark := if cs.contains '\'' && !cs.contains '"' then '"' else '\''
  String.ofList (mark :: (cs.flatMap (quoteChar mark) ++ [mark]))

end PersonaChat.Text
