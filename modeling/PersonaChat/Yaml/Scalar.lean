import PersonaChat.Json.Reader
import PersonaChat.Yaml.Place

/-!
# The text of scalars

A scalar is written in double quotes with escapes, in single quotes, plainly, or as an indented
block. In the first three a line feed between words folds into a space, and each empty line into a
line feed; other line breaks are kept. Every reader gives the text and how many characters it
takes.
-/

namespace PersonaChat.Yaml

open Text

/-- The blank stretch after a word. -/
inductive Gap where
  /-- No line break yet: the blanks themselves, the last one first. -/
  | inline (blanks : List Char)
  /-- The first line break, unless it was escaped, and the later ones, the last one first. -/
  | broken (first : Option Char) (breaks : List Char)

namespace Gap

/-- No gap at all. -/
def none : Gap := .inline []

/-- A reversed text after what the gap stands for. -/
def onto (done : List Char) : Gap → List Char
  | .inline blanks => blanks ++ done
  | .broken first breaks =>
    breaks ++
      (match first with
      | .none => []
      | some c => if c ≠ '\n' then [c] else if breaks.isEmpty then [' '] else []) ++ done

/-- A gap after one more blank. -/
def blank (c : Char) : Gap → Gap
  | .inline blanks => .inline (c :: blanks)
  | gap => gap

/-- A gap after one more line break. -/
def lineBreak (c : Char) : Gap → Gap
  | .inline _ => .broken (some c) []
  | .broken first breaks => .broken first (c :: breaks)

/-- Whether a gap has a line break. -/
def isBroken : Gap → Bool
  | .inline _ => false
  | .broken _ _ => true

end Gap

/-- The rest of a text in single quotes, with its closing quote; `done` is the text so far,
reversed, and `n` its length. -/
def singleQuoted? (done : List Char) (gap : Gap) (n : Nat) : List Char → Option (List Char × Nat)
  | [] => none
  | '\'' :: '\'' :: r => singleQuoted? ('\'' :: gap.onto done) .none (n + 2) r
  | c :: r =>
    if c = '\'' then some ((gap.onto done).reverse, n + 1)
    else if isBreak c then
      if isMarker r then none else singleQuoted? done (gap.lineBreak c) (n + 1) r
    else if c = ' ' ∨ c = '\t' then singleQuoted? done (gap.blank c) (n + 1) r
    else singleQuoted? (c :: gap.onto done) .none (n + 1) r

/-- The character of an escape that has no digits. -/
def escapeChar? : Char → Option Char
  | '0' => some '\x00'
  | 'a' => some '\x07'
  | 'b' => some '\x08'
  | 't' => some '\t'
  | '\t' => some '\t'
  | 'n' => some '\n'
  | 'v' => some '\x0b'
  | 'f' => some '\x0c'
  | 'r' => some '\r'
  | 'e' => some '\x1b'
  | ' ' => some ' '
  | '"' => some '"'
  | '\\' => some '\\'
  | '/' => some '/'
  | 'N' => some (Char.ofNat 0x85)
  | '_' => some (Char.ofNat 0xA0)
  | 'L' => some (Char.ofNat 0x2028)
  | 'P' => some (Char.ofNat 0x2029)
  | _ => none

/-- How many hexadecimal digits an escape takes. -/
def escapeWidth? : Char → Option Nat
  | 'x' => some 2
  | 'u' => some 4
  | 'U' => some 8
  | _ => none

/-- Where the reader stands inside double quotes. -/
inductive QuoteState where
  /-- Between characters, after a gap. -/
  | plain (gap : Gap)
  /-- After a backslash. -/
  | escaped
  /-- Inside a numeric escape: digits still owed and the value so far. -/
  | numeric (owed value : Nat)

/-- The rest of a text in double quotes, with its closing quote; `done` is the text so far,
reversed, and `n` its length. -/
def doubleQuoted? (done : List Char) (state : QuoteState) (n : Nat) :
    List Char → Option (List Char × Nat)
  | [] => none
  | c :: r =>
    match state with
    | .plain gap =>
      if isBreak c then
        if isMarker r then none else doubleQuoted? done (.plain (gap.lineBreak c)) (n + 1) r
      else if c = ' ' ∨ c = '\t' then doubleQuoted? done (.plain (gap.blank c)) (n + 1) r
      else if c = '"' then some ((gap.onto done).reverse, n + 1)
      else if c = '\\' then doubleQuoted? (gap.onto done) .escaped (n + 1) r
      else doubleQuoted? (c :: gap.onto done) (.plain .none) (n + 1) r
    | .escaped =>
      if isBreak c then
        if isMarker r then none else doubleQuoted? done (.plain (.broken none [])) (n + 1) r
      else
        match escapeWidth? c with
        | some width => doubleQuoted? done (.numeric width 0) (n + 1) r
        | none =>
          match escapeChar? c with
          | some meant => doubleQuoted? (meant :: done) (.plain .none) (n + 1) r
          | none => none
    | .numeric owed value =>
      match Json.hexValue? c with
      | none => none
      | some digit =>
        let value := value * 16 + digit
        if 1 < owed then doubleQuoted? done (.numeric (owed - 1) value) (n + 1) r
        else if 0x110000 ≤ value then none
        else doubleQuoted? (charOrReplacement value :: done) (.plain .none) (n + 1) r

/-- Whether a character ends a word of a plain scalar: a blank does, a colon before a blank, and
inside brackets the signs that separate entries. -/
def endsWord (inBrackets : Bool) (c : Char) (r : List Char) : Bool :=
  atBlank [c] ||
    (c == ':' && (atBlank r || (inBrackets && (r.head?).any ",[]\x7b\x7d".toList.contains))) ||
    (inBrackets && ",?[]\x7b\x7d".toList.contains c)

/-- Where the reader stands inside a plain scalar. -/
inductive PlainState where
  /-- Inside a word. -/
  | word
  /-- After a word and the given gap, at the given column of the last line of the gap. -/
  | gap (gap : Gap) (column : Nat)

/-- What a plain scalar is, with the blanks after it. -/
structure PlainText where
  /-- The text. -/
  text : List Char
  /-- How many characters it takes. -/
  length : Nat
  /-- Whether a line break is among the blanks after it. -/
  broken : Bool

/-- A plain scalar from inside it; its later lines start at column `margin` at least. -/
def plain (inBrackets : Bool) (margin : Nat) (done : List Char) (state : PlainState) (n : Nat) :
    List Char → PlainText
  | [] =>
    ⟨done.reverse, n, match state with
      | .word => false
      | .gap gap _ => gap.isBroken⟩
  | c :: r =>
    match state with
    | .word =>
      if c = ' ' then plain inBrackets margin done (.gap (.inline [' ']) 0) (n + 1) r
      else if isBreak c then
        if isMarker r then ⟨done.reverse, n + 1, true⟩
        else plain inBrackets margin done (.gap (Gap.none.lineBreak c) 0) (n + 1) r
      else if endsWord inBrackets c r then ⟨done.reverse, n, false⟩
      else plain inBrackets margin (c :: done) .word (n + 1) r
    | .gap gap column =>
      if c = ' ' then plain inBrackets margin done (.gap (gap.blank ' ') (column + 1)) (n + 1) r
      else if isBreak c then
        if isMarker r then ⟨done.reverse, n + 1, true⟩
        else plain inBrackets margin done (.gap (gap.lineBreak c) 0) (n + 1) r
      else if c = '#' || (gap.isBroken && !inBrackets && column < margin) ||
        endsWord inBrackets c r
      then ⟨done.reverse, n, gap.isBroken⟩
      else plain inBrackets margin (c :: gap.onto done) .word (n + 1) r

/-- Whether a plain scalar may start here. -/
def startsPlain (inBrackets : Bool) : List Char → Bool
  | [] => false
  | c :: r =>
    if atBlank [c] || ",[]\x7b\x7d#&*!|>'\"%@\x60".toList.contains c then false
    else if c = '-' then !atBlank r
    else if c = '?' ∨ c = ':' then !inBrackets && !atBlank r
    else true

/-- What a block does with the line breaks at its end. -/
inductive Chomp where
  /-- One is kept. -/
  | clip
  /-- None is kept. -/
  | strip
  /-- All are kept. -/
  | keep
  deriving DecidableEq

/-- The marks after the sign of a block, in either order: what to do with the last line breaks, and
the columns of indentation. -/
def blockMarks? (marks : List Char) : Option (Chomp × Option Nat) :=
  let chomp? : Char → Option Chomp
    | '-' => some .strip
    | '+' => some .keep
    | _ => none
  let columns? (c : Char) : Option Nat :=
    if isAsciiDigit c ∧ c ≠ '0' then some (c.toNat - 48) else none
  match marks with
  | [] => some (.clip, none)
  | [a] => ((chomp? a).map (·, none)).or ((columns? a).map fun n ↦ (.clip, some n))
  | [a, b] =>
    (do some (← chomp? a, some (← columns? b))).or (do some (← chomp? b, some (← columns? a)))
  | _ => none

/-- A block and where the reader stands in it. -/
structure Block where
  /-- Whether line feeds fold. -/
  folded : Bool
  /-- What to do with the last line breaks. -/
  chomp : Chomp
  /-- The column of its lines. -/
  indent : Nat

/-- The widest indentation among the leading empty lines of a block and its first other line. -/
def widestIndent (widest column : Nat) : List Char → Nat
  | [] => widest
  | c :: r =>
    if c = ' ' then widestIndent (max widest (column + 1)) (column + 1) r
    else if isBreak c then widestIndent widest 0 r
    else widest

/-- A place between the lines of a block. -/
structure BlockPlace where
  /-- The line breaks that were passed, the last one first. -/
  breaks : List Char
  /-- The column. -/
  column : Nat
  /-- How many characters were read. -/
  length : Nat
  /-- The text that follows. -/
  rest : List Char

/-- Pass over empty lines and the indentation of the next one. -/
def passBreaks (indent : Nat) (breaks : List Char) (column n : Nat) : List Char → BlockPlace
  | [] => ⟨breaks, column, n, []⟩
  | c :: r =>
    if c = ' ' ∧ column < indent then passBreaks indent breaks (column + 1) (n + 1) r
    else if isBreak c then passBreaks indent (c :: breaks) 0 (n + 1) r
    else ⟨breaks, column, n, c :: r⟩

/-- The lines of a block from a place on; `done` is the text so far, reversed, and `ending` the
line break behind it. -/
def Block.lines (b : Block) (fuel : Nat) (done ending : List Char) (p : BlockPlace) :
    List Char × Nat :=
  match fuel, p.rest with
  | fuel + 1, first :: _ =>
    if p.column ≠ b.indent then finish
    else
      let line := p.rest.takeWhile (!isBreak ·)
      let below := p.rest.dropWhile (!isBreak ·)
      let done := line.reverse ++ p.breaks ++ done
      let ending := below.take 1
      let next := passBreaks b.indent [] 0 (p.length + line.length + ending.length) (below.drop 1)
      let joint := match next.rest with
        | c :: _ =>
          let isText (c : Char) : Bool := c != ' ' && c != '\t'
          if next.column ≠ b.indent then []
          else if b.folded && ending == ['\n'] && isText first && isText c then
            (if next.breaks.isEmpty then [' '] else [])
          else ending
        | [] => []
      b.lines fuel (joint ++ done) ending next
  | _, _ => finish
where
  /-- The text with the line breaks kept at its end. -/
  finish : List Char × Nat :=
    let kept := match b.chomp with
      | .clip => ending
      | .strip => []
      | .keep => p.breaks ++ ending
    ((kept ++ done).reverse, p.length)

/-- The text of a block after its sign, where the lines of the collection around it start before
column `margin`. -/
def block? (folded : Bool) (margin : Nat) (cs : List Char) : Option (List Char × Nat) := do
  let marks := cs.takeWhile fun c ↦ !atSpace [c]
  let (chomp, columns) ← blockMarks? marks
  let body ← lineTail? (cs.drop marks.length)
  let least := max margin 1
  let indent := match columns with
    | some n => least + n - 1
    | none => max least (widestIndent 0 0 body)
  let start := passBreaks indent [] 0 (cs.length - body.length) body
  (⟨folded, chomp, indent⟩ : Block).lines (body.length + 1) [] [] start

end PersonaChat.Yaml
