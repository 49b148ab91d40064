import PersonaChat.Text.Blank
import PersonaChat.Text.Scan

/-!
# Pictures and videos in texts

A picture is embedded as `![words](address)`, where the address is a link or carries its data with
it. The words may hold anything but a line feed, so an embedding runs from its first `![` to the
nearest `](` with a fitting address. Bare links to picture files count as pictures too.

Spec guidance: `SPEC_FULL.md`, lines 221–224.
-/

namespace PersonaChat.Media

open Text

/-- How the address of a linked file starts. -/
def linkStarts : List (List Char) := ["http://".toList, "https://".toList]

/-- How the address of an embedded picture with its own data starts. -/
def dataStart : List Char := "data:image/".toList

/-- Whether a character may stand in the address of an embedding. -/
def inAddress (c : Char) : Bool := !isBlank c && c != ')'

/-- An address in parentheses after a closing bracket: the address and the width of the whole. The
address has a given start and at least one more character. -/
def target? (starts : List (List Char)) (cs : List Char) : Option (List Char × Nat) :=
  match cs with
  | ']' :: '(' :: r =>
    let address := r.takeWhile inAddress
    let fits := starts.any fun start ↦ start.isPrefixOf address && start.length < address.length
    match r.dropWhile inAddress with
    | ')' :: _ => if fits then some (address, address.length + 3) else none
    | _ => none
  | _ => none

/-- The nearest target in a text before the end of its line, and the width up to its end. -/
def nearestTarget? (starts : List (List Char)) : List Char → Option (List Char × Nat)
  | [] => none
  | c :: r =>
    match target? starts (c :: r) with
    | some found => some found
    | none =>
      if c = '\n' then none
      else (nearestTarget? starts r).map fun (address, width) ↦ (address, width + 1)

/-- An embedded picture at the start of a text: its address and its width. -/
def embedded? (starts : List (List Char)) (cs : List Char) : Option (List Char × Nat) :=
  match cs with
  | '!' :: '[' :: r => (nearestTarget? starts r).map fun (address, width) ↦ (address, width + 2)
  | _ => none

/-- An embedded picture that carries its data. -/
def dataPicture? (cs : List Char) : Option (List Char × Nat) := embedded? [dataStart] cs

/-- Any embedded picture. -/
def picture? (cs : List Char) : Option (List Char × Nat) :=
  embedded? (linkStarts ++ [dataStart]) cs

/-- Endings of the names of picture files. -/
def pictureEndings : List (List Char) :=
  [".png".toList, ".jpg".toList, ".jpeg".toList, ".gif".toList, ".webp".toList, ".bmp".toList]

/-- The width of a text up to the end of the last ending of a picture file in it. -/
def lastEnding? : List Char → Option Nat
  | [] => none
  | c :: r =>
    match lastEnding? r with
    | some width => some (width + 1)
    | none => (pictureEndings.find? (·.isPrefixOf (c :: r))).map List.length

/-- A bare link to a picture file at the start of a text: it ends with the last ending of a picture
file before the next blank character, after at least one more character. -/
def bareLink? (cs : List Char) : Option (List Char × Nat) :=
  linkStarts.findSome? fun start ↦
    (dropStart? start cs).bind fun r ↦
      (lastEnding? ((r.takeWhile (!isBlank ·)).drop 1)).map fun width ↦
        let total := start.length + 1 + width
        (cs.take total, total)

/-- An embedded picture or a bare link at the start of a text. -/
def anyPicture? (cs : List Char) : Option (List Char × Nat) :=
  (picture? cs).orElse fun _ ↦ bareLink? cs

/-- An embedded video at the start of a text. -/
def video? (cs : List Char) : Option (List Char × Nat) :=
  let label := "[download video".toList
  (dropStart? label cs).bind fun r ↦
    (target? linkStarts r).map fun (address, width) ↦ (address, label.length + width)

/-- A list without the elements that occurred before. -/
def keepFirst (seen : List (List Char)) : List (List Char) → List (List Char)
  | [] => []
  | a :: r => if seen.contains a then keepFirst seen r else a :: keepFirst (a :: seen) r

/-- The addresses of all pictures of a text, each once, by first appearance. -/
def pictures (content : String) : List String :=
  (keepFirst [] (hits anyPicture? content.toList)).map String.ofList

/-- The addresses of all videos of a text. -/
def videos (content : String) : List String := (hits video? content.toList).map String.ofList

/-- Whether an address carries its data. -/
def isData (address : List Char) : Bool := "data:".toList.isPrefixOf address

/-- Whether an address carries its data. -/
def isDataAddress (address : String) : Bool := isData address.toList

/-- The text with every picture that carries its data replaced. -/
def replaceData (placeholder content : String) : String :=
  String.ofList (replaceHits dataPicture? (fun _ ↦ placeholder.toList) content.toList)

/-- The text with every embedded picture replaced by its address, or by a word if it carries its
data. -/
def showAddresses (content : String) : String :=
  String.ofList (replaceHits picture?
    (fun address ↦ if isData address then "[图片]".toList else address) content.toList)

/-- The data that an address carries: all after its first comma. -/
def payload? (address : String) : Option String :=
  match cutAt? ',' address.toList with
  | some (_, c :: r) => some (String.ofList (c :: r))
  | _ => none

end PersonaChat.Media
