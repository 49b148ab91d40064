/-!
# Lines

A text falls into lines at line feeds, carriage returns (a carriage return with a line feed is one
end), the vertical tab, the form feed, three information separators, and the Unicode next-line,
line and paragraph separators. An end of line at the end of the text opens no further line.
-/

namespace PersonaChat.Text

/-- Characters that end a line. -/
def isLineEnd (c : Char) : Bool :=
  let n := c.toNat
  (10 ≤ n && n ≤ 13) || (28 ≤ n && n ≤ 30) || n == 0x85 || n == 0x2028 || n == 0x2029

/-- The lines of a text; `line` holds the open line, reversed, or `none` before its first
character, and `afterReturn` tells that a carriage return came right before. -/
def linesFrom (line : Option (List Char)) (afterReturn : Bool) : List Char → List (List Char)
  | [] => (line.map List.reverse).toList
  | c :: r =>
    if afterReturn && c == '\n' then linesFrom none false r
    else if isLineEnd c then
      (line.getD []).reverse :: linesFrom none (c == '\r') r
    else linesFrom (some (c :: line.getD [])) false r

/-- The lines of a text, without their ends. -/
def splitLines (cs : List Char) : List (List Char) := linesFrom none false cs

/-- A text in which a carriage return, alone or with a line feed behind it, is a line feed. -/
def unifyReturns : List Char → List Char
  | [] => []
  | '\r' :: '\n' :: r => '\n' :: unifyReturns r
  | c :: r => (if c = '\r' then '\n' else c) :: unifyReturns r

end PersonaChat.Text
