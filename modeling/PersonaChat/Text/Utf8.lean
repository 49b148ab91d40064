/-!
# Decoding bytes

Strict decoding refuses ill-formed bytes. Lenient decoding writes a replacement character for every
maximal ill-formed piece. The encoding of a JSON document is told from its byte order
mark or, failing that, from where its first bytes are zero.

Texts are sequences of Unicode scalar values. So every text can be encoded; a code point that is no
scalar value, a lone surrogate, stands in no text and becomes the replacement character where bytes
or escapes name one.
-/

namespace PersonaChat.Text

/-- The replacement character. -/
def replacement : Char := Char.ofNat 0xFFFD

/-- What a decoder does with bytes that are no well-formed text. -/
structure DecodePolicy where
  /-- Whether an encoded surrogate is admitted, as one replacement character. -/
  surrogates : Bool
  /-- Whether an ill-formed piece becomes a replacement character; otherwise it is refused. -/
  replaces : Bool

/-- Every ill-formed piece becomes a replacement character. -/
def DecodePolicy.lenient : DecodePolicy := ⟨false, true⟩

/-- Surrogates pass and anything else that is ill-formed is refused. -/
def DecodePolicy.document : DecodePolicy := ⟨true, false⟩

/-- The character of a code point, or the replacement character where there is none. -/
def charOrReplacement (n : Nat) : Char := if n.isValidChar then Char.ofNat n else replacement

/-- What a first byte announces: the number of bytes that follow, the bits it contributes, and the
least and greatest value of the byte after it. -/
def utf8Lead? (policy : DecodePolicy) (b : Nat) : Option (Nat × Nat × Nat × Nat) :=
  if 0xC2 ≤ b ∧ b ≤ 0xDF then some (1, b - 0xC0, 0x80, 0xBF)
  else if b = 0xE0 then some (2, 0, 0xA0, 0xBF)
  else if b = 0xED then some (2, 0xD, 0x80, if policy.surrogates then 0xBF else 0x9F)
  else if 0xE1 ≤ b ∧ b ≤ 0xEF then some (2, b - 0xE0, 0x80, 0xBF)
  else if b = 0xF0 then some (3, 0, 0x90, 0xBF)
  else if 0xF1 ≤ b ∧ b ≤ 0xF3 then some (3, b - 0xF0, 0x80, 0xBF)
  else if b = 0xF4 then some (3, 4, 0x80, 0x8F)
  else none

/-- An unfinished sequence. -/
structure Utf8Pending where
  /-- Bytes still owed. -/
  owed : Nat
  /-- Bits read so far. -/
  bits : Nat
  /-- Least value of the next byte. -/
  low : Nat
  /-- Greatest value of the next byte. -/
  high : Nat

/-- What an ill-formed piece gives. -/
def DecodePolicy.illFormed (policy : DecodePolicy) : Option (List Char) :=
  if policy.replaces then some [replacement] else none

/-- The characters that a byte between sequences gives, and the sequence it opens. -/
def utf8Open (policy : DecodePolicy) (b : Nat) : Option (List Char × Option Utf8Pending) :=
  if b < 0x80 then some ([Char.ofNat b], none)
  else
    match utf8Lead? policy b with
    | some (owed, bits, low, high) => some ([], some ⟨owed, bits, low, high⟩)
    | none => policy.illFormed.map (·, none)

/-- Decode bytes, with a sequence possibly open. -/
def decodeFrom (policy : DecodePolicy) (pending : Option Utf8Pending) :
    List UInt8 → Option (List Char)
  | [] => if pending.isSome then policy.illFormed else some []
  | b :: r =>
    let n := b.toNat
    match pending with
    | none => do
      let (out, next) ← utf8Open policy n
      return out ++ (← decodeFrom policy next r)
    | some p =>
      if p.low ≤ n ∧ n ≤ p.high then
        let bits := p.bits * 64 + n % 64
        if p.owed ≤ 1 then (decodeFrom policy none r).map (charOrReplacement bits :: ·)
        else decodeFrom policy (some ⟨p.owed - 1, bits, 0x80, 0xBF⟩) r
      else do
        let piece ← policy.illFormed
        let (out, next) ← utf8Open policy n
        return piece ++ out ++ (← decodeFrom policy next r)

/-- Decode bytes of UTF-8, writing a replacement character for every ill-formed piece. -/
def decodeLenient (bytes : List UInt8) : String :=
  String.ofList ((decodeFrom .lenient none bytes).getD [])

/-- The order of the bytes of a code unit. -/
inductive ByteOrder where
  /-- The low byte comes first. -/
  | little
  /-- The high byte comes first. -/
  | big
  deriving DecidableEq

/-- The encodings in which a JSON document may be written. -/
inductive Encoding where
  /-- Bytes of UTF-8. -/
  | utf8
  /-- Units of two bytes. -/
  | utf16 (order : ByteOrder)
  /-- Units of four bytes. -/
  | utf32 (order : ByteOrder)
  deriving DecidableEq

/-- The encoding of a document and its bytes without a byte order mark. -/
def detectEncoding : List UInt8 → Encoding × List UInt8
  | 0x00 :: 0x00 :: 0xFE :: 0xFF :: r => (.utf32 .big, r)
  | 0xFF :: 0xFE :: 0x00 :: 0x00 :: r => (.utf32 .little, r)
  | 0xFE :: 0xFF :: r => (.utf16 .big, r)
  | 0xFF :: 0xFE :: r => (.utf16 .little, r)
  | 0xEF :: 0xBB :: 0xBF :: r => (.utf8, r)
  | bytes@(b0 :: b1 :: b2 :: b3 :: _) =>
    if b0 = 0 then (if b1 = 0 then .utf32 .big else .utf16 .big, bytes)
    else if b1 = 0 then (if b2 = 0 ∧ b3 = 0 then .utf32 .little else .utf16 .little, bytes)
    else (.utf8, bytes)
  | bytes@([b0, b1]) =>
    if b0 = 0 then (.utf16 .big, bytes)
    else if b1 = 0 then (.utf16 .little, bytes)
    else (.utf8, bytes)
  | bytes => (.utf8, bytes)

/-- Units of two bytes; `none` when a byte is left over. -/
def units16? (order : ByteOrder) : List UInt8 → Option (List Nat)
  | [] => some []
  | [_] => none
  | a :: b :: r =>
    let unit := match order with
      | .little => b.toNat * 256 + a.toNat
      | .big => a.toNat * 256 + b.toNat
    (units16? order r).map (unit :: ·)

/-- Characters of a list of units of two bytes: a surrogate pair makes one character, a lone
surrogate a replacement character. -/
def decode16 : List Nat → List Char
  | [] => []
  | [u] => [charOrReplacement u]
  | u :: v :: r =>
    if 0xD800 ≤ u ∧ u ≤ 0xDBFF ∧ 0xDC00 ≤ v ∧ v ≤ 0xDFFF then
      Char.ofNat (0x10000 + (u - 0xD800) * 0x400 + (v - 0xDC00)) :: decode16 r
    else charOrReplacement u :: decode16 (v :: r)

/-- Characters of units of four bytes; `none` when bytes are left over or a unit is too large. -/
def decode32? (order : ByteOrder) : List UInt8 → Option (List Char)
  | [] => some []
  | a :: b :: c :: d :: r =>
    let n := match order with
      | .little => ((d.toNat * 256 + c.toNat) * 256 + b.toNat) * 256 + a.toNat
      | .big => ((a.toNat * 256 + b.toNat) * 256 + c.toNat) * 256 + d.toNat
    if n ≤ 0x10FFFF then (decode32? order r).map (charOrReplacement n :: ·) else none
  | _ => none

/-- Decode bytes of UTF-8 strictly. -/
def decodeStrict? (bytes : List UInt8) : Option String :=
  String.fromUTF8? ⟨bytes.toArray⟩

/-- Decode a JSON document in whichever encoding it is written; `none` when it is ill-formed. -/
def decodeDocument? (bytes : List UInt8) : Option String :=
  match detectEncoding bytes with
  | (.utf8, body) => (decodeFrom .document none body).map String.ofList
  | (.utf16 order, body) => (units16? order body).map (String.ofList ∘ decode16)
  | (.utf32 order, body) => (decode32? order body).map String.ofList

/-- The bytes of a string in UTF-8. -/
def encode (s : String) : List UInt8 := s.toUTF8.data.toList

end PersonaChat.Text
