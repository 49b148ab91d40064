/-!
# Scanning for occurrences

A recogniser looks at the rest of a text and tells what starts there and how many characters it
takes. Scanning a text from left to right cuts it into the occurrences found and the single
characters between them; an occurrence never overlaps the one before it.
-/

namespace PersonaChat.Text

universe u

/-- One piece of a scanned text: a character outside all occurrences, or an occurrence. -/
inductive Piece (α : Type u) where
  /-- A character that no occurrence covers. -/
  | plain (c : Char)
  /-- An occurrence, with what the recogniser read from it. -/
  | hit (value : α)

/-- Scan a text, passing over the next `skip` characters, which an occurrence covers already. -/
def scanFrom {α : Type u} (recognise : List Char → Option (α × Nat)) (skip : Nat) :
    List Char → List (Piece α)
  | [] => []
  | c :: r =>
    match skip with
    | k + 1 => scanFrom recognise k r
    | 0 =>
      match recognise (c :: r) with
      | some (value, width) => .hit value :: scanFrom recognise (width - 1) r
      | none => .plain c :: scanFrom recognise 0 r

/-- Cut a text into occurrences and the characters between them. -/
def scan {α : Type u} (recognise : List Char → Option (α × Nat)) (cs : List Char) :
    List (Piece α) :=
  scanFrom recognise 0 cs

/-- The occurrences of a text, in order. -/
def hits {α : Type u} (recognise : List Char → Option (α × Nat)) (cs : List Char) : List α :=
  (scan recognise cs).filterMap fun
    | .plain _ => none
    | .hit value => some value

/-- The text with every occurrence written anew. -/
def replaceHits {α : Type u} (recognise : List Char → Option (α × Nat)) (write : α → List Char)
    (cs : List Char) : List Char :=
  (scan recognise cs).flatMap fun
    | .plain c => [c]
    | .hit value => write value

/-- Recognise a fixed non-empty text. -/
def recogniseText (wanted : List Char) (cs : List Char) : Option (Unit × Nat) :=
  if !wanted.isEmpty && wanted.isPrefixOf cs then some ((), wanted.length) else none

/-- The text with every occurrence of `wanted` replaced, from left to right. -/
def replaceAll (wanted new cs : List Char) : List Char :=
  replaceHits (recogniseText wanted) (fun _ ↦ new) cs

/-- Whether a text occurs in another. -/
def occursIn (wanted : List Char) : List Char → Bool
  | [] => wanted.isEmpty
  | c :: r => wanted.isPrefixOf (c :: r) || occursIn wanted r

/-- The text after a given start; `none` when the text starts otherwise. -/
def dropStart? (start cs : List Char) : Option (List Char) :=
  if start.isPrefixOf cs then some (cs.drop start.length) else none

/-- The text before and after the first occurrence of a character. -/
def cutAt? (mark : Char) : List Char → Option (List Char × List Char)
  | [] => none
  | c :: r =>
    if c = mark then some ([], r) else (cutAt? mark r).map fun (head, tail) ↦ (c :: head, tail)

/-- The parts of a text between the occurrences of a character. -/
def splitAt (mark : Char) : List Char → List (List Char)
  | [] => [[]]
  | c :: r =>
    if c = mark then [] :: splitAt mark r
    else
      match splitAt mark r with
      | [] => [[c]]
      | part :: parts => (c :: part) :: parts

end PersonaChat.Text
