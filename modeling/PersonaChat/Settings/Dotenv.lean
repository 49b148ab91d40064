import PersonaChat.Keyed
import PersonaChat.Text.Blank
import PersonaChat.Text.Scan

/-!
# Files of environment variables

Each line binds a name: `NAME=value`, with an optional `export` before it and a comment after it,
which a blank sets off. A value may stand in quotes and then spread over lines; `${NAME}` and
`${NAME:-default}` are replaced by variables bound before, and by those of the environment. A line
that cannot be read is passed over. Lines end in a line feed here.

Spec guidance: `SPEC_FULL.md`, lines 170–173.
-/

namespace PersonaChat.Settings.Dotenv

open Text

/-- A name and its value; a name without an equals sign has none. -/
abbrev Binding := List Char × Option (List Char)

/-- Blank characters inside a line. -/
def isInlineBlank (c : Char) : Bool := isBlank c && c != '\n' && c != '\r'

/-- Drop the blank characters before the next sign of a line. -/
def skipInline (cs : List Char) : List Char := cs.dropWhile isInlineBlank

/-- The text before a closing quote and the text after it. A quote after a backslash closes only if
no other one does. -/
def closeQuote? (mark : Char) : List Char → Option (List Char × List Char)
  | [] => none
  | '\\' :: c :: r =>
    if c = mark then
      ((closeQuote? mark r).map fun (body, rest) ↦ ('\\' :: c :: body, rest)).or (some (['\\'], r))
    else (closeQuote? mark (c :: r)).map fun (body, rest) ↦ ('\\' :: body, rest)
  | c :: r =>
    if c = mark then some ([], r)
    else (closeQuote? mark r).map fun (body, rest) ↦ (c :: body, rest)

/-- The character that an escape stands for, in single or in double quotes. -/
def escapeChar? (mark : Char) : Char → Option Char
  | '\\' => some '\\'
  | '\'' => some '\''
  | c =>
    if mark = '\'' then none
    else
      match c with
      | '"' => some '"'
      | 'a' => some '\x07'
      | 'b' => some '\x08'
      | 'f' => some '\x0c'
      | 'n' => some '\n'
      | 'r' => some '\r'
      | 't' => some '\t'
      | 'v' => some '\x0b'
      | _ => none

/-- A text in quotes with its escapes replaced; other backslashes stay. -/
def unescape (mark : Char) : List Char → List Char
  | [] => []
  | '\\' :: c :: r =>
    match escapeChar? mark c with
    | some meant => meant :: unescape mark r
    | none => '\\' :: unescape mark (c :: r)
  | c :: r => c :: unescape mark r

/-- A line before the first blank stretch that a number sign follows. -/
def beforeComment : List Char → List Char
  | [] => []
  | c :: r => if isBlank c && (trimLeft r).head? == some '#' then [] else c :: beforeComment r

/-- A value after its equals sign, and what follows it. -/
def value? (cs : List Char) : Option (List Char × List Char) :=
  match cs with
  | '\'' :: r => (closeQuote? '\'' r).map fun (body, rest) ↦ (unescape '\'' body, rest)
  | '"' :: r => (closeQuote? '"' r).map fun (body, rest) ↦ (unescape '"' body, rest)
  | cs => some (trimRight (beforeComment (cs.takeWhile (· != '\n'))), cs.dropWhile (· != '\n'))

/-- A name, and what follows it; `some (none, _)` in front of a comment, and the place of the fault
on the right. -/
def name? (cs : List Char) : Option (Option (List Char) × List Char) :=
  match cs with
  | '#' :: _ => some (none, cs)
  | '\'' :: r =>
    let body := r.takeWhile (· != '\'')
    match r.dropWhile (· != '\'') with
    | _ :: rest => if body.isEmpty then none else some (some body, rest)
    | [] => none
  | cs =>
    let isNameChar (c : Char) : Bool := c != '=' && c != '#' && !isBlank c
    let body := cs.takeWhile isNameChar
    if body.isEmpty then none else some (some body, cs.dropWhile isNameChar)

/-- The text after the end of a line, which may hold a comment; the place of anything else on the
left. -/
def lineEnd (cs : List Char) : Except (List Char) (List Char) :=
  let afterComment := match skipInline cs with
    | '#' :: r => r.dropWhile (· != '\n')
    | _ => cs
  match skipInline afterComment with
  | [] => .ok []
  | '\n' :: r => .ok r
  | _ => .error afterComment

/-- The text after the word `export` and the blanks behind it, if it stands there. -/
def afterExport (cs : List Char) : List Char :=
  match dropStart? "export".toList cs with
  | some r => if (r.head?).any isInlineBlank then skipInline r else cs
  | none => cs

/-- The next binding, if the next line has one, and the text after it. -/
def next (cs : List Char) : Option Binding × List Char :=
  let cs := trimLeft cs
  if cs.isEmpty then (none, [])
  else
    let start := afterExport cs
    match name? start with
    | none => (none, passLine start)
    | some (name, r) =>
      let r := skipInline r
      match r with
      | '=' :: r =>
        let valueStart := skipInline r
        if valueStart.head? = some '#' && valueStart.length ≠ r.length then
          finish name (some []) valueStart
        else
          match value? valueStart with
          | none => (none, passLine valueStart)
          | some (value, rest) => finish name (some value) rest
      | r => finish name none r
where
  /-- The text after the line. -/
  passLine (cs : List Char) : List Char := (cs.dropWhile (· != '\n')).drop 1
  /-- The binding, if nothing else stands on its line. -/
  finish (name : Option (List Char)) (value : Option (List Char)) (rest : List Char) :
      Option Binding × List Char :=
    match lineEnd rest with
    | .ok rest => (name.map (·, value), rest)
    | .error rest => (none, passLine rest)

/-- The bindings of a text in order; `fuel` bounds the lines. -/
def bindings (fuel : Nat) (cs : List Char) : List Binding :=
  match fuel, cs with
  | fuel + 1, _ :: _ =>
    match next cs with
    | (some b, rest) => b :: bindings fuel rest
    | (none, rest) => bindings fuel rest
  | _, _ => []

/-- A reference to a variable after its dollar sign and brace: its name, its default and the text
after the closing brace. -/
def reference? (cs : List Char) : Option (List Char × List Char × List Char) :=
  let isNameChar (c : Char) : Bool := c != '\x7d' && c != ':'
  let name := cs.takeWhile isNameChar
  match cs.dropWhile isNameChar with
  | '\x7d' :: rest => some (name, [], rest)
  | ':' :: '-' :: r =>
    match r.dropWhile (· != '\x7d') with
    | _ :: rest => some (name, r.takeWhile (· != '\x7d'), rest)
    | [] => none
  | _ => none

/-- A value with its references replaced; `bound?` tells whether a name has a value, and which. -/
def expand (bound? : List Char → Option (Option (List Char))) (fuel : Nat) (cs : List Char) :
    List Char :=
  match fuel, cs with
  | fuel + 1, '$' :: '\x7b' :: r =>
    match reference? r with
    | some (name, default, rest) =>
      (((bound? name).getD (some default)).getD []) ++ expand bound? fuel rest
    | none => '$' :: expand bound? fuel ('\x7b' :: r)
  | fuel + 1, c :: r => c :: expand bound? fuel r
  | _, _ => []

/-- The variables that a text binds, where the last binding of a name counts. References look at
earlier bindings first and at the environment then. -/
def assigned (environment : Keyed (List Char) (List Char)) (text : List Char) :
    Keyed (List Char) (Option (List Char)) :=
  (bindings (text.length + 1) text).foldl (fun bound (name, value) ↦
    let bound? (n : List Char) : Option (Option (List Char)) :=
      (Keyed.get? n bound).or ((Keyed.get? n environment).map some)
    Keyed.put name (value.map fun v ↦ expand bound? (v.length + 1) v) bound) []

end PersonaChat.Settings.Dotenv
