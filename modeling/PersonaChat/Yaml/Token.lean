import PersonaChat.Number.Integer
import PersonaChat.Text.Utf8
import PersonaChat.Yaml.Scalar

/-!
# Tokens

A document falls into tokens: scalars, marks, and the starts and ends of the collections that
indentation shows. A key is known only by the colon behind it, so that the token before a key, and
the start of the mapping that it opens, are put in afterwards; a key stands on one line and takes
at most 1024 characters.
-/

namespace PersonaChat.Yaml

open Text

/-- The two kinds of brackets. -/
inductive Bracket where
  /-- Around sequences. -/
  | square
  /-- Around mappings. -/
  | curly
  deriving DecidableEq

/-- A line of instructions before a document. -/
inductive Directive where
  /-- The version of the format, by its first number. -/
  | version (major : Nat)
  /-- An abbreviation of tags: what it replaces and what it stands for. -/
  | abbreviation (handle start : List Char)
  /-- Anything else. -/
  | other
  deriving DecidableEq

/-- A token. -/
inductive Token where
  /-- An instruction. -/
  | directive (d : Directive)
  /-- The opening mark of a document. -/
  | documentStart
  /-- The closing mark of a document. -/
  | documentEnd
  /-- Indentation opens a sequence. -/
  | sequenceStart
  /-- Indentation opens a mapping. -/
  | mappingStart
  /-- Indentation closes a collection. -/
  | blockEnd
  /-- An opening bracket. -/
  | opening (b : Bracket)
  /-- A closing bracket. -/
  | closing (b : Bracket)
  /-- The dash before an entry of a sequence. -/
  | dash
  /-- The comma between entries. -/
  | comma
  /-- The start of a key. -/
  | key
  /-- The colon before a value. -/
  | colon
  /-- A name that stands for a node. -/
  | alias (name : List Char)
  /-- A name for the node behind it. -/
  | anchor (name : List Char)
  /-- A tag for the node behind it: what is abbreviated, unless the tag is written in full, and the
  rest. -/
  | tag (handle : Option (List Char)) (suffix : List Char)
  /-- A scalar. -/
  | scalar (text : List Char) (isPlain : Bool)
  deriving DecidableEq

/-! ## Names and tags -/

/-- Whether a character may stand in a name. -/
def isNameChar (c : Char) : Bool :=
  isAsciiDigit c || ('A' ≤ c && c ≤ 'Z') || ('a' ≤ c && c ≤ 'z') || c == '-' || c == '_'

/-- Whether a character may stand in a tag. -/
def isTagChar (c : Char) : Bool := isNameChar c || ";/?:@&=+$,.!~*'()[]".toList.contains c

/-- A name at the start of a text. -/
def name? (cs : List Char) : Option (List Char) :=
  let name := cs.takeWhile isNameChar
  if name.isEmpty then none else some name

/-- A name behind its mark, which ends at a blank or at one of some signs. -/
def reference? (cs : List Char) : Option (List Char) := do
  let name ← name? cs
  let rest := cs.drop name.length
  if atBlank rest || (rest.head?).any "?:,]\x7d%@\x60".toList.contains then some name else none

/-- The bytes of a run of percent signs with two hexadecimal digits each, and how many bytes it
holds. -/
def escapedBytes? : List Char → Option (List UInt8)
  | '%' :: a :: b :: r => do
    let byte := UInt8.ofNat ((← Json.hexValue? a) * 16 + (← Json.hexValue? b))
    return byte :: (← escapedBytes? r)
  | '%' :: _ => none
  | _ => some []

/-- The characters of a tag and how many characters they take; `skip` of them belong to an escape
that is read already. -/
def tagChars? (skip n : Nat) (done : List Char) : List Char → Option (List Char × Nat)
  | [] => some (done.reverse, n)
  | c :: r =>
    match skip with
    | k + 1 => tagChars? k n done r
    | 0 =>
      if c = '%' then do
        let bytes ← escapedBytes? (c :: r)
        let text ← decodeStrict? bytes
        tagChars? (3 * bytes.length - 1) (n + 3 * bytes.length) (text.toList.reverse ++ done) r
      else if isTagChar c then tagChars? 0 (n + 1) (c :: done) r
      else some (done.reverse, n)

/-- The characters of a tag, of which there is at least one, and how many characters they take. -/
def tagText? (cs : List Char) : Option (List Char × Nat) :=
  (tagChars? 0 0 [] cs).filter fun (_, n) ↦ n ≠ 0

/-- What a tag abbreviates: two exclamation marks, perhaps with a name between them, or one before
a space. -/
def handle? : List Char → Option (List Char)
  | '!' :: r =>
    if r.head? = some ' ' then some ['!']
    else
      let name := r.takeWhile isNameChar
      if (r.drop name.length).head? = some '!' then some ('!' :: name ++ ['!']) else none
  | _ => none

/-- A tag, and how many characters it takes. -/
def tag? (cs : List Char) : Option (Token × Nat) := do
  let (tag, n) ← match cs with
    | '!' :: '<' :: r => do
      let (text, n) ← tagText? r
      if (r.drop n).head? = some '>' then some (Token.tag none text, n + 3) else none
    | '!' :: r =>
      if atBlank r then some (Token.tag none ['!'], 1)
      else do
        let handle ←
          if (r.takeWhile fun c ↦ !atSpace [c]).contains '!' then handle? cs else some ['!']
        let (text, n) ← tagText? (cs.drop handle.length)
        some (Token.tag (some handle) text, handle.length + n)
    | _ => none
  if atSpace (cs.drop n) then some (tag, n) else none

/-! ## Directives -/

/-- The number at the start of a text, and what follows it. -/
def versionPart? (cs : List Char) : Option (Nat × List Char) := do
  let ds := cs.takeWhile isAsciiDigit
  some (← Number.ofDigits? ds, cs.drop ds.length)

/-- An instruction behind its percent sign, and what follows it on its line. -/
def directiveParts? (cs : List Char) : Option (Directive × List Char) := do
  let name ← name? cs
  let rest := cs.drop name.length
  if !atSpace rest then none
  let value := rest.dropWhile (· == ' ')
  if name = "YAML".toList then
    let (major, r) ← versionPart? value
    match r with
    | '.' :: r =>
      let (_, r) ← versionPart? r
      if atSpace r then some (.version major, r) else none
    | _ => none
  else if name = "TAG".toList then
    let handle ← handle? value
    let r := value.drop handle.length
    if r.head? ≠ some ' ' then none
    let r := r.dropWhile (· == ' ')
    let (start, n) ← tagText? r
    if atSpace (r.drop n) then some (.abbreviation handle start, r.drop n) else none
  else some (.other, rest.dropWhile (!isBreak ·))

/-- An instruction behind its percent sign, and how many characters it takes with its line
break. -/
def directive? (cs : List Char) : Option (Token × Nat) := do
  let (d, rest) ← directiveParts? cs
  let below ← lineTail? rest
  some (.directive d, cs.length - below.length)

/-! ## Cutting a document into tokens -/

/-- A node that becomes a key if a colon follows. -/
structure Candidate where
  /-- How many brackets were open before it. -/
  depth : Nat
  /-- How many tokens stand before it. -/
  number : Nat
  /-- Whether nothing but a key may stand there. -/
  required : Bool
  /-- Where it starts. -/
  place : Place

/-- The state of the cutting. -/
structure Lexer where
  /-- Where the reader stands. -/
  place : Place
  /-- How many brackets are open. -/
  depth : Nat
  /-- The tokens, the last one first. -/
  tokens : List Token
  /-- How many tokens there are. -/
  count : Nat
  /-- The column behind the start of the innermost indented collection; zero outside of all. -/
  margin : Nat
  /-- The same for the collections around it. -/
  margins : List Nat
  /-- Whether a key may start here. -/
  keyAllowed : Bool
  /-- What may become a key, at most one node for each depth. -/
  candidates : List Candidate

namespace Lexer

/-- The state before a document. A byte order mark at its start is passed over. -/
def start (text : List Char) : Lexer :=
  let place := Place.start text
  let hasMark := (text.head?).any (·.toNat == 0xFEFF)
  ⟨if hasMark then place.advance 1 else place, 0, [], 0, 0, [], true, []⟩

/-- The state after one more token. -/
def push (t : Token) (l : Lexer) : Lexer :=
  { l with tokens := t :: l.tokens, count := l.count + 1 }

/-- The state after `n` more characters. -/
def advance (n : Nat) (l : Lexer) : Lexer := { l with place := l.place.advance n }

/-- The state after one more token that takes `n` characters. -/
def take (t : Token) (n : Nat) (l : Lexer) : Lexer := (l.push t).advance n

/-- The state with a token put in behind the first `number` ones. -/
def insertAt (number : Nat) (t : Token) (l : Lexer) : Lexer :=
  let later := l.count - number
  { l with tokens := l.tokens.take later ++ t :: l.tokens.drop later, count := l.count + 1 }

/-- Whether a candidate can no longer become a key. -/
def isStale (l : Lexer) (k : Candidate) : Bool :=
  k.place.line != l.place.line || 1024 < l.place.index - k.place.index

/-- The state without some candidates, none of which may be required. -/
def dropCandidates? (gone : Candidate → Bool) (l : Lexer) : Option Lexer :=
  if l.candidates.any fun k ↦ gone k && k.required then none
  else some { l with candidates := l.candidates.filter fun k ↦ !gone k }

/-- The state without the candidate between the innermost brackets. -/
def dropCandidate? (l : Lexer) : Option Lexer := l.dropCandidates? (·.depth == l.depth)

/-- The state in which the next node may become a key, if keys are allowed here. -/
def addCandidate? (l : Lexer) : Option Lexer :=
  if !l.keyAllowed then some l
  else do
    let l ← l.dropCandidate?
    let required := l.depth == 0 && l.margin == l.place.column + 1
    some { l with candidates := ⟨l.depth, l.count, required, l.place⟩ :: l.candidates }

/-- Close the indented collections that start at column `margin` or right of it. -/
def unwindFrom (margin : Nat) (l : Lexer) : List Nat → Lexer
  | [] => l
  | outer :: margins =>
    if l.margin ≤ margin then l
    else unwindFrom margin { l.push .blockEnd with margin := outer, margins := margins } margins

/-- Close the indented collections that start at column `margin` or right of it. Inside brackets
indentation is of no account. -/
def unwind (margin : Nat) (l : Lexer) : Lexer :=
  if l.depth = 0 then l.unwindFrom margin l.margins else l

/-- Open an indented collection at a column unless one starts there or right of it: the start is
put in behind the first `number` tokens. -/
def indent (column number : Nat) (start : Token) (l : Lexer) : Lexer :=
  if l.margin ≤ column then
    { l.insertAt number start with margin := column + 1, margins := l.margin :: l.margins }
  else l

/-- The state at the next token. A line break outside brackets lets a key start. -/
def skipGap (l : Lexer) : Lexer :=
  let (n, broken) := gapLength false 0 false l.place.rest
  { l.advance n with keyAllowed := l.keyAllowed || (broken && l.depth == 0) }

/-- A mark around documents. -/
def boundary? (t : Token) (n : Nat) (l : Lexer) : Option Lexer := do
  let l ← (l.unwind 0).dropCandidate?
  some { l.take t n with keyAllowed := false }

/-- An opening bracket, which may start a key. -/
def opening? (b : Bracket) (l : Lexer) : Option Lexer := do
  let l ← l.addCandidate?
  some { l.take (.opening b) 1 with depth := l.depth + 1, keyAllowed := true }

/-- A closing bracket. One that closes nothing is refused. -/
def closing? (b : Bracket) (l : Lexer) : Option Lexer := do
  let l ← l.dropCandidate?
  if l.depth = 0 then none
  some { l.take (.closing b) 1 with depth := l.depth - 1, keyAllowed := false }

/-- A comma. -/
def comma? (l : Lexer) : Option Lexer := do
  let l ← l.dropCandidate?
  some { l.take .comma 1 with keyAllowed := true }

/-- The dash of an entry, which may open a sequence. -/
def dash? (l : Lexer) : Option Lexer := do
  if l.depth = 0 && !l.keyAllowed then none
  let l := if l.depth = 0 then l.indent l.place.column l.count .sequenceStart else l
  let l ← l.dropCandidate?
  some { l.take .dash 1 with keyAllowed := true }

/-- The question mark before a key, which may open a mapping. -/
def question? (l : Lexer) : Option Lexer := do
  if l.depth = 0 && !l.keyAllowed then none
  let l := if l.depth = 0 then l.indent l.place.column l.count .mappingStart else l
  let l ← l.dropCandidate?
  some { l.take .key 1 with keyAllowed := l.depth == 0 }

/-- The colon before a value. If a node before it may be a key, it becomes one now, and it may open
a mapping. -/
def colon? (l : Lexer) : Option Lexer :=
  match l.candidates.find? (·.depth == l.depth) with
  | some k =>
    let l := { l with candidates := l.candidates.filter (·.depth != l.depth) }
    let l := l.insertAt k.number .key
    let l := if l.depth = 0 then l.indent k.place.column k.number .mappingStart else l
    some { l.take .colon 1 with keyAllowed := false }
  | none =>
    if l.depth = 0 && !l.keyAllowed then none
    else
      let l := if l.depth = 0 then l.indent l.place.column l.count .mappingStart else l
      some { l.take .colon 1 with keyAllowed := l.depth == 0 }

/-- A node that may be a key: how it is read, and how many characters it takes. -/
def node? (read : Option (Token × Nat)) (l : Lexer) : Option Lexer := do
  let l ← l.addCandidate?
  let (t, n) ← read
  some { l.take t n with keyAllowed := false }

/-- A plain scalar. A line break behind it lets a key start. -/
def plain? (l : Lexer) : Option Lexer := do
  let l ← l.addCandidate?
  let read := Yaml.plain (l.depth != 0) l.margin [] .word 0 l.place.rest
  some { l.take (.scalar read.text true) read.length with keyAllowed := read.broken }

/-- An indented block, behind which a key may start. -/
def block? (folded : Bool) (cs : List Char) (l : Lexer) : Option Lexer := do
  let l ← l.dropCandidate?
  let (text, n) ← Yaml.block? folded l.margin cs
  some { l.take (.scalar text false) (n + 1) with keyAllowed := true }

/-- The state after the next token, which starts with a character. -/
def next? (c : Char) (r : List Char) (l : Lexer) : Option Lexer :=
  let atStart := l.place.column == 0
  let inBrackets := l.depth != 0
  if c = '%' && atStart then do
    let (t, n) ← directive? r
    l.boundary? t (n + 1)
  else if c = '-' && atStart && isMarker (c :: r) then l.boundary? .documentStart 3
  else if c = '.' && atStart && isMarker (c :: r) then l.boundary? .documentEnd 3
  else if c = '[' then l.opening? .square
  else if c = '\x7b' then l.opening? .curly
  else if c = ']' then l.closing? .square
  else if c = '\x7d' then l.closing? .curly
  else if c = ',' then l.comma?
  else if c = '-' && atBlank r then l.dash?
  else if c = '?' && (inBrackets || atBlank r) then l.question?
  else if c = ':' && (inBrackets || atBlank r) then l.colon?
  else if c = '*' then l.node? ((reference? r).map fun name ↦ (.alias name, name.length + 1))
  else if c = '&' then l.node? ((reference? r).map fun name ↦ (.anchor name, name.length + 1))
  else if c = '!' then l.node? (tag? (c :: r))
  else if c = '|' && !inBrackets then l.block? false r
  else if c = '>' && !inBrackets then l.block? true r
  else if c = '\'' then
    l.node? ((singleQuoted? [] .none 1 r).map fun (text, n) ↦ (.scalar text false, n))
  else if c = '"' then
    l.node? ((doubleQuoted? [] (.plain .none) 1 r).map fun (text, n) ↦ (.scalar text false, n))
  else if startsPlain inBrackets (c :: r) then l.plain?
  else none

/-- All tokens from a state on; every token takes a character, so that the length of the text
bounds their number. -/
def run? (fuel : Nat) (l : Lexer) : Option (List Token) := do
  let l := l.skipGap
  let l ← l.dropCandidates? l.isStale
  let l := l.unwind (l.place.column + 1)
  match fuel, l.place.rest with
  | _, [] => do
    let l ← (l.unwind 0).dropCandidate?
    some l.tokens.reverse
  | fuel + 1, c :: r => run? fuel (← l.next? c r)
  | 0, _ => none

end Lexer

/-- The tokens of a document. -/
def Token.ofText? (cs : List Char) : Option (List Token) := (Lexer.start cs).run? cs.length

end PersonaChat.Yaml
