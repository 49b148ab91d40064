import PersonaChat.Keyed
import PersonaChat.Yaml.Node
import PersonaChat.Yaml.Token

/-!
# The grammar of documents

Tokens make nodes. Collections nest by brackets or by indentation; an entry that is left out is
null. A node may have an anchor, by which an alias refers to it later, and inside itself it counts
as empty.
-/

namespace PersonaChat.Yaml

/-- How deep collections may nest. -/
def maxNesting : Nat := 483

/-- What is left to read, and what was named. -/
structure Reading where
  /-- The tokens that follow. -/
  tokens : List Token
  /-- The nodes by their anchors. -/
  anchors : Keyed (List Char) Node
  /-- What abbreviations of tags stand for. -/
  handles : Keyed (List Char) (List Char)

/-- A part of a document, or nothing where it is ill-formed. -/
abbrev Grammar (α : Type) := StateT Reading Option α

namespace Grammar

/-- The next token, unless the text is at its end. -/
def peek? : Grammar (Option Token) := do return (← get).tokens.head?

/-- Pass over the next token. -/
def advance : Grammar Unit := modify fun s ↦ { s with tokens := s.tokens.drop 1 }

/-- Whether the next token is one of some. -/
def isAt (ts : List Token) : Grammar Bool := do return ((← peek?).any ts.contains)

/-- Pass over a token if it is the next one, and tell whether it was. -/
def accept (t : Token) : Grammar Bool := do
  if ← isAt [t] then
    advance
    return true
  else return false

/-- Pass over a token, which must be the next one. -/
def expect (t : Token) : Grammar Unit := do
  if !(← accept t) then failure

/-- Let an anchor name a node. -/
def name (anchor : Option (List Char)) (n : Node) : Grammar Unit :=
  match anchor with
  | some a => modify fun s ↦ { s with anchors := Keyed.put a n s.anchors }
  | none => return

/-- An anchor before a node. One that is in use is refused. -/
def anchor? : Grammar (Option (List Char)) := do
  match ← peek? with
  | some (.anchor a) =>
    advance
    if Keyed.has a (← get).anchors then failure
    return some a
  | _ => return none

/-- The full name of a tag before a node. -/
def tagName? : Grammar (Option (List Char)) := do
  match ← peek? with
  | some (.tag none suffix) =>
    advance
    return some suffix
  | some (.tag (some handle) suffix) =>
    advance
    match Keyed.get? handle (← get).handles with
    | some start => return some (start ++ suffix)
    | none => failure
  | _ => return none

/-- The anchor and the name of the tag before a node, in either order. -/
def properties : Grammar (Option (List Char) × Option (List Char)) := do
  let anchor ← anchor?
  let tagName ← tagName?
  if anchor.isNone && tagName.isSome then return (← anchor?, tagName) else return (anchor, tagName)

/-- The tag of a collection, given the one that it has when none is named. -/
def collectionTag (unnamed : Tag) : Option (List Char) → Tag
  | none => unnamed
  | some tagName => if tagName = ['!'] then unnamed else .ofName tagName

/-- The tag of a scalar. -/
def scalarTag (text : List Char) (isPlain : Bool) : Option (List Char) → Tag
  | none => if isPlain then .ofPlain text else .str
  | some tagName => if tagName = ['!'] then .ofPlain text else .ofName tagName

/-- A scalar with its name. -/
def scalar (anchor : Option (List Char)) (tag : Tag) (text : List Char) : Grammar Node := do
  name anchor (.scalar tag text)
  return .scalar tag text

/-- A sequence with its name, given how its items are read. -/
def sequence (anchor : Option (List Char)) (tag : Tag) (items : Grammar (List Node)) :
    Grammar Node := do
  name anchor (.openSequence tag)
  let n := Node.ofItems tag (← items)
  name anchor n
  return n

/-- A mapping with its name, given how its entries are read. -/
def mapping (anchor : Option (List Char)) (tag : Tag) (entries : Grammar (List (Node × Node))) :
    Grammar Node := do
  name anchor (.openMapping tag)
  let n := Node.ofEntries tag (← entries)
  name anchor n
  return n

/-- The null node if one of some tokens follows, and what is read otherwise. -/
def unlessAt (stops : List Token) (read : Grammar Node) : Grammar Node := do
  if ← isAt stops then return .null else read

/-- The value after a colon, which is null without one. -/
def afterColon (value : Grammar Node) : Grammar Node := do
  if ← accept .colon then value else return .null

/-- Tokens before which an indented entry is empty. -/
def entryStops : List Token := [.key, .colon, .blockEnd]

/-- Tokens before which an entry in brackets is empty. -/
def bracketStops (b : Bracket) : List Token := [.comma, .closing b]

mutual

/-- A node at a depth that is still admitted. Indentation may open a collection in a block, and
`dashes` admits a sequence whose dashes stand at the column of the mapping around it. -/
def node (fuel depth : Nat) (inBlock dashes : Bool) : Grammar Node :=
  match fuel, depth with
  | fuel + 1, depth + 1 => do
    match ← peek? with
    | some (.alias a) =>
      advance
      match Keyed.get? a (← get).anchors with
      | some n => return n
      | none => failure
    | _ =>
      let (anchor, tagName) ← properties
      let listTag := collectionTag .seq tagName
      let mapTag := collectionTag .map tagName
      let next ← peek?
      if dashes && next == some .dash then
        sequence anchor listTag (dashItems fuel depth (.dash :: entryStops) [])
      else
        match next with
        | some (.scalar text isPlain) =>
          advance
          scalar anchor (scalarTag text isPlain tagName) text
        | some (.opening .square) =>
          advance
          sequence anchor listTag (bracketItems fuel depth [])
        | some (.opening .curly) =>
          advance
          mapping anchor mapTag (bracketEntries fuel depth [])
        | _ =>
          if inBlock && next == some .sequenceStart then
            advance
            sequence anchor listTag do
              let items ← dashItems fuel depth [.dash, .blockEnd] []
              expect .blockEnd
              return items
          else if inBlock && next == some .mappingStart then
            advance
            mapping anchor mapTag (entries fuel depth [])
          else if anchor.isSome || tagName.isSome then
            scalar anchor (scalarTag [] true tagName) []
          else failure
  | _, _ => failure

/-- The items of a sequence behind their dashes; `done` holds those before, reversed. -/
def dashItems (fuel depth : Nat) (stops : List Token) (done : List Node) : Grammar (List Node) :=
  match fuel with
  | 0 => failure
  | fuel + 1 => do
    if ← accept .dash then
      let item ← unlessAt stops (node fuel depth true false)
      dashItems fuel depth stops (item :: done)
    else return done.reverse

/-- The entries of an indented mapping up to its end. -/
def entries (fuel depth : Nat) (done : List (Node × Node)) : Grammar (List (Node × Node)) :=
  match fuel with
  | 0 => failure
  | fuel + 1 => do
    if ← accept .key then
      let key ← unlessAt entryStops (node fuel depth true true)
      let value ← afterColon (unlessAt entryStops (node fuel depth true true))
      entries fuel depth ((key, value) :: done)
    else
      expect .blockEnd
      return done.reverse

/-- The items of a sequence in brackets up to the closing one. -/
def bracketItems (fuel depth : Nat) (done : List Node) : Grammar (List Node) :=
  match fuel with
  | 0 => failure
  | fuel + 1 => do
    if ← accept (.closing .square) then return done.reverse
    if !done.isEmpty then expect .comma
    if ← accept (.closing .square) then return done.reverse
    let item ←
      if ← accept .key then
        mapping none .map (pair fuel depth)
      else node fuel depth false false
    bracketItems fuel depth (item :: done)

/-- The one entry of a mapping that stands without brackets in a sequence. -/
def pair (fuel depth : Nat) : Grammar (List (Node × Node)) :=
  match fuel, depth with
  | fuel + 1, depth + 1 => do
    let stops := bracketStops .square
    let key ← unlessAt (.colon :: stops) (node fuel depth false false)
    let value ← afterColon (unlessAt stops (node fuel depth false false))
    return [(key, value)]
  | _, _ => failure

/-- The entries of a mapping in brackets up to the closing one. -/
def bracketEntries (fuel depth : Nat) (done : List (Node × Node)) :
    Grammar (List (Node × Node)) :=
  match fuel with
  | 0 => failure
  | fuel + 1 => do
    if ← accept (.closing .curly) then return done.reverse
    if !done.isEmpty then expect .comma
    if ← accept (.closing .curly) then return done.reverse
    let stops := bracketStops .curly
    if ← accept .key then
      let key ← unlessAt (.colon :: stops) (node fuel depth false false)
      let value ← afterColon (unlessAt stops (node fuel depth false false))
      bracketEntries fuel depth ((key, value) :: done)
    else
      let key ← node fuel depth false false
      bracketEntries fuel depth ((key, .null) :: done)

end

/-! ## Documents -/

/-- The abbreviations that hold without any instruction. -/
def standardHandles : Keyed (List Char) (List Char) :=
  [(['!'], ['!']), (['!', '!'], Tag.nameStart)]

/-- The abbreviations that instructions make. A second version, a foreign one and a second meaning
of one abbreviation are refused. -/
def readDirectives (fuel : Nat) (versioned : Bool) (handles : Keyed (List Char) (List Char)) :
    Grammar (Keyed (List Char) (List Char)) :=
  match fuel with
  | 0 => failure
  | fuel + 1 => do
    match ← peek? with
    | some (.directive d) =>
      advance
      match d with
      | .version major =>
        if versioned || major != 1 then failure
        readDirectives fuel true handles
      | .abbreviation handle start =>
        if Keyed.has handle handles then failure
        readDirectives fuel versioned (Keyed.put handle start handles)
      | .other => readDirectives fuel versioned handles
    | _ => return handles

/-- Pass over the closing marks of a document. -/
def closings (fuel : Nat) : Grammar Unit :=
  match fuel with
  | 0 => return
  | fuel + 1 => do if ← accept .documentEnd then closings fuel

/-- The root of the only document; `none` if there is no document. -/
def document (fuel : Nat) : Grammar (Option Node) := do
  match ← peek? with
  | none => return none
  | some first =>
    let isOpened := match first with
      | .directive _ => true
      | .documentStart => true
      | _ => false
    let read := node fuel maxNesting true false
    let root ←
      if isOpened then
        let handles ← readDirectives fuel false []
        expect .documentStart
        let added := standardHandles.filter fun (handle, _) ↦ !Keyed.has handle handles
        modify fun s ↦ { s with handles := handles ++ added }
        match ← peek? with
        | none => pure .null
        | some (.directive _) => pure .null
        | _ => unlessAt [.documentStart, .documentEnd] read
      else read
    closings fuel
    if (← peek?).isSome then failure
    return some root

end Grammar

/-- The root that tokens make, `none` inside if there is no document. Each step takes a token or
goes one level down, so that three times their number bounds the steps. -/
def Node.ofTokens? (ts : List Token) : Option (Option Node) :=
  ((Grammar.document (3 * ts.length + 3)).run ⟨ts, [], Grammar.standardHandles⟩).map Prod.fst

end PersonaChat.Yaml
