/-!
# Places in a document

A place is known by what follows it, by the number of characters before it, and by its line and its
column. Lines end in a line feed, a line separator or a paragraph separator. A byte order mark
takes no column.
-/

namespace PersonaChat.Yaml

/-- Whether a character ends a line. -/
def isBreak (c : Char) : Bool := c == '\n' || c.toNat == 0x2028 || c.toNat == 0x2029

/-- Whether a text starts with a blank or a line break, or is at its end. -/
def atBlank : List Char → Bool
  | [] => true
  | c :: _ => c == ' ' || c == '\t' || isBreak c

/-- Whether a text starts with a space or a line break, or is at its end. -/
def atSpace : List Char → Bool
  | [] => true
  | c :: _ => c == ' ' || isBreak c

/-- Whether a line starts with the mark that opens or closes a document. -/
def isMarker (line : List Char) : Bool :=
  (line.take 3 == ['-', '-', '-'] || line.take 3 == ['.', '.', '.']) && atBlank (line.drop 3)

/-- A place in a document. -/
structure Place where
  /-- The text that is still to be read. -/
  rest : List Char
  /-- How many characters were read. -/
  index : Nat
  /-- The line, from zero. -/
  line : Nat
  /-- The column, from zero. -/
  column : Nat

namespace Place

/-- The start of a text. -/
def start (text : List Char) : Place := ⟨text, 0, 0, 0⟩

/-- The place after the next `n` characters. -/
def advance : Nat → Place → Place
  | 0, p => p
  | n + 1, p =>
    match p.rest with
    | [] => p
    | c :: r =>
      if isBreak c then advance n ⟨r, p.index + 1, p.line + 1, 0⟩
      else advance n ⟨r, p.index + 1, p.line, if c.toNat = 0xFEFF then p.column else p.column + 1⟩

end Place

/-- How many characters spaces, comments and line breaks at the start of a text take, and whether a
line break is among them. -/
def gapLength (inComment : Bool) (n : Nat) (broken : Bool) : List Char → Nat × Bool
  | [] => (n, broken)
  | c :: r =>
    if isBreak c then gapLength false (n + 1) true r
    else if inComment then gapLength true (n + 1) broken r
    else if c = ' ' then gapLength false (n + 1) broken r
    else if c = '#' then gapLength true (n + 1) broken r
    else (n, broken)

/-- The text after the spaces at its start and a comment, if nothing else stands before the line
break. -/
def lineTail? (cs : List Char) : Option (List Char) :=
  match cs.dropWhile (· == ' ') with
  | [] => some []
  | c :: r =>
    if isBreak c then some r
    else if c = '#' then some ((r.dropWhile (!isBreak ·)).drop 1)
    else none

end PersonaChat.Yaml
