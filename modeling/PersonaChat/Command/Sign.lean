/-!
# Full-width signs

Users of Chinese keyboards type many signs in full width. Each of them counts as its ASCII sign
when the structure of a message is recognised. The image of a text has the same length, so that
positions found in it are positions of the text, and arguments are cut out of the text as it was
typed.

Spec guidance: `SPEC_FULL.md`, lines 53–63.
-/

namespace PersonaChat.Command

/-- Full-width signs and the ASCII signs they count as. -/
def fullWidth : List (Char × Char) :=
  [('！', '!'), ('＠', '@'), ('＃', '#'), ('＄', '$'), ('％', '%'), ('＊', '*'), ('（', '('), ('）', ')'),
    ('－', '-'), ('＋', '+'), ('：', ':'), ('；', ';'), ('“', '"'), ('”', '"'), ('‘', '\''),
    ('’', '\''),
    ('，', ','), ('。', '.'), ('？', '?'), ('～', '~'), ('＿', '_'), ('＆', '&'), ('／', '/'), ('＝', '=')]

/-- The sign a character counts as. -/
def narrow (c : Char) : Char := (fullWidth.lookup c).getD c

/-- A text with its full-width signs narrowed. -/
def normalize (cs : List Char) : List Char := cs.map narrow

/-- Narrowing keeps positions. -/
@[simp] theorem length_normalize (cs : List Char) : (normalize cs).length = cs.length := by
  simp [normalize]

/-- A string with its full-width signs narrowed. -/
def normalizeString (s : String) : String := String.ofList (normalize s.toList)

/-- The typed text from a position found in its narrowed image, counted from the end when negative;
`none` when the two texts are not aligned. -/
def typedFrom? (typed narrowed : List Char) (start : Int) : Option (List Char) :=
  if typed.length ≠ narrowed.length then none
  else
    let from_ := if 0 ≤ start then start.toNat else typed.length - (-start).toNat
    some (typed.drop from_)

end PersonaChat.Command
