import PersonaChat.Text.CaseTable

/-!
# Letter case

Lower case of a text with the full mapping: the dotted capital I becomes two characters and a
capital sigma takes its final form at the end of a word. Two spellings of a name or a model count
as the same when their lower cases agree.
-/

namespace PersonaChat.Text

/-- Lower case of an ASCII letter; other ASCII characters stay. -/
def lowerAscii (c : Char) : Char :=
  if 65 ≤ c.toNat ∧ c.toNat ≤ 90 then Char.ofNat (c.toNat + 32) else c

/-- Upper case of an ASCII letter; other ASCII characters stay. -/
def upperAscii (c : Char) : Char :=
  if 97 ≤ c.toNat ∧ c.toNat ≤ 122 then Char.ofNat (c.toNat - 32) else c

/-- Lower case of one character away from the context rule of the sigma. -/
def lowerChar (c : Char) : List Char :=
  if c.toNat < 128 then [lowerAscii c]
  else if c.toNat = 0x130 then ['i', Char.ofNat 0x307]
  else
    match lowerRuns.findSome? (·.image? c.toNat) with
    | some n => [Char.ofNat n]
    | none => [c]

/-- Upper case of one character, which may be a sequence. -/
def upperChar (c : Char) : List Char :=
  if c.toNat < 128 then [upperAscii c]
  else
    match upperSequences.lookup c.toNat with
    | some ns => ns.map Char.ofNat
    | none =>
      match upperRuns.findSome? (·.image? c.toNat) with
      | some n => [Char.ofNat n]
      | none => [c]

/-- Whether a code point lies in one of the given stretches. -/
def inRuns (runs : List (Nat × Nat)) (c : Char) : Bool :=
  runs.any fun r ↦ r.1 ≤ c.toNat && c.toNat ≤ r.2

/-- Whether the nearest character that is not passed over is a letter with case. -/
def nextIsCased : List Char → Bool
  | [] => false
  | c :: r => if inRuns caseIgnorableRuns c then nextIsCased r else inRuns casedRuns c

/-- Lower case of a text; `before` holds the characters already read, nearest first. -/
def lowerFrom (before : List Char) : List Char → List Char
  | [] => []
  | c :: r =>
    (if c.toNat = 0x3A3 then
      [Char.ofNat (if nextIsCased before && !nextIsCased r then 0x3C2 else 0x3C3)]
    else lowerChar c) ++ lowerFrom (c :: before) r

/-- Lower case of a text. -/
def lower (cs : List Char) : List Char := lowerFrom [] cs

/-- Lower case of a string. -/
def lowerString (s : String) : String := String.ofList (lower s.toList)

/-- Whether two strings differ at most in case. -/
def sameIgnoringCase (a b : String) : Bool := lowerString a == lowerString b

/-- The text with its first character in upper case. -/
def capitalizeFirst : List Char → List Char
  | [] => []
  | c :: r => upperChar c ++ r

end PersonaChat.Text
