/-!
# Blank characters, trimming and cutting at blanks

One class of blank characters serves every place where a message is trimmed or cut into tokens: the
white space of the Unicode character database together with the four information separators.
Texts are lists of characters here, so that each operation is a recursion on the data.
-/

namespace PersonaChat.Text

/-- Blank characters: tab to carriage return, the information separators, space, and the Unicode
space, line and paragraph separators. The zero-width space is not blank. -/
def isBlank (c : Char) : Bool :=
  let n := c.toNat
  (9 ≤ n && n ≤ 13) || (28 ≤ n && n ≤ 32) || n == 0x85 || n == 0xA0 || n == 0x1680 ||
    (0x2000 ≤ n && n ≤ 0x200A) || n == 0x2028 || n == 0x2029 || n == 0x202F || n == 0x205F ||
    n == 0x3000

/-- Drop the blank characters at the start. -/
def trimLeft (cs : List Char) : List Char := cs.dropWhile isBlank

/-- Drop the blank characters at the end. -/
def trimRight (cs : List Char) : List Char := (cs.reverse.dropWhile isBlank).reverse

/-- Drop the blank characters at both ends. -/
def trim (cs : List Char) : List Char := trimRight (trimLeft cs)

/-- The first token and what follows the blank run after it; `none` when all is blank. -/
def firstToken? (cs : List Char) : Option (List Char × List Char) :=
  match trimLeft cs with
  | [] => none
  | c :: r =>
    some ((c :: r).takeWhile (!isBlank ·), trimLeft ((c :: r).dropWhile (!isBlank ·)))

/-- All tokens between blank runs, in order: `word` holds the letters of the open token,
reversed. -/
def tokensFrom (word : List Char) : List Char → List (List Char)
  | [] => if word.isEmpty then [] else [word.reverse]
  | c :: r =>
    if isBlank c then
      if word.isEmpty then tokensFrom [] r else word.reverse :: tokensFrom [] r
    else tokensFrom (c :: word) r

/-- The tokens of a text, cut at blank runs. -/
def tokens (cs : List Char) : List (List Char) := tokensFrom [] cs

/-- The text before the first blank character and, if there is one, the text right after it. -/
def cutAtBlank : List Char → List Char × Option (List Char)
  | [] => ([], none)
  | c :: r =>
    if isBlank c then ([], some r)
    else
      let (head, tail) := cutAtBlank r
      (c :: head, tail)

/-- Trim a string. -/
def trimString (s : String) : String := String.ofList (trim s.toList)

end PersonaChat.Text
