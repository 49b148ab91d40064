import PersonaChat.Json.Display
import PersonaChat.Number.Places
import PersonaChat.Text.Scan

/-!
# Filling templates

A template marks with a percent sign where a value belongs and how it is written: as it is shown,
as a whole number in base ten, eight or sixteen, with places, or as one character. Values are taken
in order, or by name from a single object. A width or precision that is written as a star is a
value too.

Spec guidance: `SPEC_FULL.md`, lines 179–182.
-/

namespace PersonaChat.Log

open Text Number

/-- Why a template cannot be filled. -/
inductive TemplateFault where
  /-- There are too few or too many values, or a value of the wrong type. -/
  | mismatch
  /-- A place is marked in a way that is not understood. -/
  | malformed
  /-- A named value is missing. -/
  | unnamed
  /-- A number is too large. -/
  | tooLarge
  /-- The text would be too long to be held. -/
  | tooLong
  deriving DecidableEq, Repr

/-- The values of a template. -/
structure Supply where
  /-- The object from which named values are taken, if there is one. -/
  named : Option Json
  /-- The values that are still to be taken. -/
  values : List Json

/-- How a value is written. -/
structure Place where
  /-- Whether it stands at the left of its width. -/
  left : Bool
  /-- Whether a positive number has a sign. -/
  plus : Bool
  /-- Whether a positive number has a blank in place of a sign. -/
  blank : Bool
  /-- Whether a number is filled with zeros. -/
  zeros : Bool
  /-- Whether a base is named, or a point kept. -/
  alternate : Bool
  /-- The least width. -/
  width : Nat
  /-- The number of places, or the largest number of characters. -/
  precision : Option Nat
  /-- The letter of the form. -/
  form : Char

/-- The largest width. -/
def maxWidth : Int := Int.pow 2 63 - 1

/-- The largest precision. -/
def maxPrecision : Int := Int.pow 2 31 - 1

/-- The largest precision of a whole number. -/
def maxWholePrecision : Nat := Nat.pow 2 31 - 4

/-- The largest width and number of places that are held. -/
def maxHeld : Nat := Nat.pow 2 30

/-- The next value, and the values after it. -/
def Supply.take (s : Supply) : Except TemplateFault (Json × Supply) :=
  match s.values with
  | value :: rest => .ok (value, { s with values := rest })
  | [] => .error .mismatch

/-- A text up to the parenthesis that closes the given number of open ones, and the text after
it. -/
def enclosed? (depth : Nat) : List Char → Option (List Char × List Char)
  | [] => none
  | c :: r =>
    if c = ')' ∧ depth ≤ 1 then some ([], r)
    else
      let depth := if c = '(' then depth + 1 else if c = ')' then depth - 1 else depth
      (enclosed? depth r).map fun (inside, rest) ↦ (c :: inside, rest)

/-- Take the value that a place names, if it names one; it is then the only value. -/
def readKey (s : Supply) : List Char → Except TemplateFault (Supply × List Char)
  | '(' :: r =>
    match s.named, enclosed? 1 r with
    | none, _ => .error .mismatch
    | some _, none => .error .malformed
    | some object, some (key, rest) =>
      match object.field? (String.ofList key) with
      | some value => .ok ({ s with values := [value] }, rest)
      | none => .error .unnamed
  | r => .ok (s, r)

/-- A number that a place takes from the values, within bounds. -/
def takeNumber (s : Supply) (low high : Int) : Except TemplateFault (Int × Supply) := do
  let (value, s) ← s.take
  let n ← match value with
    | .int n => .ok n
    | .bool b => .ok (if b then 1 else 0)
    | _ => .error TemplateFault.mismatch
  if low ≤ n ∧ n ≤ high then return (n, s) else throw .tooLarge

/-- A number that is written in a place, up to a bound; zero without digits. -/
def readNumber (high : Int) (cs : List Char) : Except TemplateFault (Int × List Char) :=
  let ds := cs.takeWhile isAsciiDigit
  let n : Int := (decimalValue? ds).getD 0
  if n ≤ high then .ok (n, cs.drop ds.length) else .error .malformed

/-- The width of a place; a negative one stands for its opposite with the value at the left. -/
def readWidth (s : Supply) (cs : List Char) : Except TemplateFault (Int × Supply × List Char) :=
  match cs with
  | '*' :: r => do
    let (n, s) ← takeNumber s (-maxWidth - 1) maxWidth
    return (n, s, r)
  | cs => do
    let (n, r) ← readNumber maxWidth cs
    return (n, s, r)

/-- The precision of a place, if it has one. -/
def readPrecision (s : Supply) (cs : List Char) :
    Except TemplateFault (Option Nat × Supply × List Char) :=
  match cs with
  | '.' :: '*' :: r => do
    let (n, s) ← takeNumber s (-maxPrecision - 1) maxPrecision
    return (some n.toNat, s, r)
  | '.' :: r => do
    let (n, r) ← readNumber maxPrecision r
    return (some n.toNat, s, r)
  | cs => .ok (none, s, cs)

/-- A letter that may stand before the form of a place and says nothing. -/
def isSizeLetter (c : Char) : Bool := c == 'h' || c == 'l' || c == 'L'

/-- A place after its percent sign, the values after those it took, and the text after it. -/
def readPlace (s : Supply) (cs : List Char) :
    Except TemplateFault (Place × Supply × List Char) := do
  let (s, cs) ← readKey s cs
  let flags := cs.takeWhile (['-', '+', ' ', '0', '#'].contains ·)
  let (width, s, cs) ← readWidth s (cs.drop flags.length)
  let (precision, s, cs) ← readPrecision s cs
  let cs := match cs with
    | c :: r => if isSizeLetter c then r else c :: r
    | [] => []
  match cs with
  | [] => throw .malformed
  | form :: rest =>
    return (⟨flags.contains '-' || width < 0, flags.contains '+', flags.contains ' ',
      flags.contains '0', flags.contains '#', width.natAbs, precision, form⟩, s, rest)

/-- A text filled up to the width of a place. -/
def fill (p : Place) (cs : List Char) : List Char :=
  let blanks := List.replicate (p.width - cs.length) ' '
  if p.left then cs ++ blanks else blanks ++ cs

/-- A number filled up to the width of a place, given its digits with what names their base. -/
def fillNumber (p : Place) (negative : Bool) (base digits : List Char) : List Char :=
  let sign := if negative then ['-'] else if p.plus then ['+'] else if p.blank then [' '] else []
  let missing := p.width - (sign.length + base.length + digits.length)
  if p.zeros && !p.left then sign ++ base ++ List.replicate missing '0' ++ digits
  else fill p (sign ++ base ++ digits)

/-- The whole number that a value is, cut off if floating-point numbers are taken. -/
def wholeOf (takesReal : Bool) : Json → Except TemplateFault Int
  | .int n => .ok n
  | .bool b => .ok (if b then 1 else 0)
  | .real x =>
    if !takesReal then .error .mismatch
    else
      match x, Binary64.truncate? x with
      | _, some n => .ok n
      | .infinite _, none => .error .tooLarge
      | _, none => .error .malformed
  | _ => .error .mismatch

/-- A whole number in a base, filled with zeros up to the precision of a place. -/
def wholeDigits (p : Place) (base n : Nat) : List Char :=
  let ds := Nat.toDigits base n
  List.replicate (p.precision.getD 0 - ds.length) '0' ++ ds

/-- A value as a whole number, given its base and what names the base. -/
def writeWhole (p : Place) (takesReal : Bool) (base : Nat) (mark : List Char) (value : Json) :
    Except TemplateFault (List Char) := do
  let n ← wholeOf takesReal value
  if maxWholePrecision < p.precision.getD 0 then throw .tooLarge
  if maxHeld < p.precision.getD 0 then throw .tooLong
  return fillNumber p (n < 0) (if p.alternate then mark else []) (wholeDigits p base n.natAbs)

/-- The floating-point number that a value is. -/
def realOf : Json → Except TemplateFault Binary64
  | .real x => .ok x
  | .int n => match Binary64.ofInt n with
    | .infinite _ => .error .tooLarge
    | x => .ok x
  | .bool b => .ok (Binary64.ofInt (if b then 1 else 0))
  | _ => .error .mismatch

/-- A value as a floating-point number, given how the magnitude of a finite one is written. -/
def writeReal (p : Place) (magnitude : Bool → (places num den : Nat) → List Char) (value : Json) :
    Except TemplateFault (List Char) := do
  let x ← realOf value
  if maxHeld < p.precision.getD 0 then throw .tooLong
  match x with
  | .finite negative m e =>
    let (num, den) := Binary64.ratio m e
    return fillNumber p negative [] (magnitude p.alternate (p.precision.getD 6) num den)
  | .infinite negative => return fillNumber p negative [] ['i', 'n', 'f']
  | .notANumber => return fillNumber p false [] ['n', 'a', 'n']

/-- A value as one character: a text of one character, or the number of a character. -/
def writeChar (p : Place) (value : Json) : Except TemplateFault (List Char) :=
  match value with
  | .str s => if s.length = 1 then .ok (fill p s.toList) else .error .mismatch
  | value => do
    let n ← wholeOf false value
    if 0 ≤ n ∧ n < 0x110000 then return fill p [Char.ofNat n.toNat] else throw .tooLarge

/-- A text in its place, cut off at the precision. -/
def writeText (p : Place) (s : String) : List Char :=
  fill p (match p.precision with
    | some limit => s.toList.take limit
    | none => s.toList)

/-- Characters with their small ASCII letters made capital. -/
def capitals (cs : List Char) : List Char := cs.map Char.toUpper

/-- A value in its place, however long. -/
def writeWithin (p : Place) (value : Json) : Except TemplateFault (List Char) :=
  match p.form with
  | 's' => .ok (writeText p value.display)
  | 'r' => .ok (writeText p value.shown)
  | 'a' => .ok (writeText p (escapeForeign value.shown))
  | 'd' | 'i' | 'u' => writeWhole p true 10 [] value
  | 'x' => writeWhole p false 16 ['0', 'x'] value
  | 'X' => (writeWhole p false 16 ['0', 'x'] value).map capitals
  | 'o' => writeWhole p false 8 ['0', 'o'] value
  | 'f' => writeReal p Binary64.fixedChars value
  | 'F' => (writeReal p Binary64.fixedChars value).map capitals
  | 'e' => writeReal p Binary64.scientificChars value
  | 'E' => (writeReal p Binary64.scientificChars value).map capitals
  | 'g' => writeReal p Binary64.generalChars value
  | 'G' => (writeReal p Binary64.generalChars value).map capitals
  | 'c' => writeChar p value
  | _ => .error .malformed

/-- A value in its place. -/
def write (p : Place) (value : Json) : Except TemplateFault (List Char) :=
  if p.width ≤ maxHeld then writeWithin p value
  else do
    let _ ← writeWithin { p with width := 0 } value
    throw .tooLong

/-- A template filled with values, within a number of characters. All values must be taken, unless
they can be named. -/
def fillFrom : Nat → Supply → List Char → Except TemplateFault (List Char)
  | 0, _, _ => .ok []
  | _ + 1, s, [] => if s.values.isEmpty || s.named.isSome then .ok [] else .error .mismatch
  | fuel + 1, s, '%' :: '%' :: r => do return '%' :: (← fillFrom fuel s r)
  | fuel + 1, s, '%' :: r => do
    let (p, s, rest) ← readPlace s r
    let (value, s) ← s.take
    let written ← write p value
    return written ++ (← fillFrom fuel s rest)
  | fuel + 1, s, c :: r => do return c :: (← fillFrom fuel s r)

/-- The values of a template: those of a single object that is not empty can be named. -/
def Supply.ofValues (values : List Json) : Supply :=
  match values with
  | [.obj (field :: fields)] => ⟨some (.obj (field :: fields)), values⟩
  | _ => ⟨none, values⟩

/-- A template filled with values; without values it stands as it is. -/
def fillTemplate (template : String) (values : List Json) : Except TemplateFault String :=
  if values.isEmpty then .ok template
  else
    let cs := template.toList
    (fillFrom (cs.length + 1) (.ofValues values) cs).map String.ofList

end PersonaChat.Log
