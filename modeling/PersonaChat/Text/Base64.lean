/-!
# Bytes in base 64

Each sign of the alphabet stands for six bits, so that four signs make three bytes. Other
characters are passed over. Equals signs fill up the last group, and what follows a full group of
them is not read.
-/

namespace PersonaChat.Text.Base64

/-- The six bits of a sign of the alphabet. -/
def value? (c : Char) : Option Nat :=
  let n := c.toNat
  if 65 ≤ n ∧ n ≤ 90 then some (n - 65)
  else if 97 ≤ n ∧ n ≤ 122 then some (n - 71)
  else if 48 ≤ n ∧ n ≤ 57 then some (n + 4)
  else if c = '+' then some 62
  else if c = '/' then some 63
  else none

/-- An unfinished group. -/
structure Group where
  /-- How many signs it has, from none to three. -/
  signs : Nat
  /-- The bits that belong to no byte yet. -/
  bits : Nat
  /-- How many equals signs stand at the end. -/
  fillers : Nat

/-- The group before its first sign. -/
def Group.empty : Group := ⟨0, 0, 0⟩

/-- A group after one more sign, and the byte that it completes. -/
def Group.add (v : Nat) (g : Group) : Group × Option UInt8 :=
  match g.signs with
  | 0 => (⟨1, v, 0⟩, none)
  | 1 => (⟨2, v % 16, 0⟩, some (UInt8.ofNat (g.bits * 4 + v / 16)))
  | 2 => (⟨3, v % 4, 0⟩, some (UInt8.ofNat (g.bits * 16 + v / 4)))
  | _ => (.empty, some (UInt8.ofNat (g.bits * 64 + v)))

/-- The bytes of a text from inside a group on; `done` holds the bytes before, reversed. A group
that stays unfinished is refused. -/
def decodeFrom? (done : List UInt8) (g : Group) : List Char → Option (List UInt8)
  | [] => if g.signs = 0 then some done.reverse else none
  | c :: r =>
    if c = '=' then
      if g.signs < 2 then decodeFrom? done g r
      else if 4 ≤ g.signs + g.fillers + 1 then some done.reverse
      else decodeFrom? done { g with fillers := g.fillers + 1 } r
    else
      match value? c with
      | none => decodeFrom? done g r
      | some v =>
        let (g, byte) := g.add v
        decodeFrom? (byte.toList ++ done) g r

/-- The bytes that a text stands for. -/
def decode? (cs : List Char) : Option (List UInt8) := decodeFrom? [] .empty cs

end PersonaChat.Text.Base64
