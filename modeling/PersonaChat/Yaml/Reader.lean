import PersonaChat.Text.Lines
import PersonaChat.Yaml.Grammar

/-!
# Reading YAML

A text holds at most one document, and the value of its root is that of the text; no document at
all is null.

Spec guidance: `SPEC_FULL.md`, lines 171–173.
-/

namespace PersonaChat.Yaml

/-- Whether a character may stand in a document. -/
def isPrintable (c : Char) : Bool :=
  let n := c.toNat
  n == 9 || n == 10 || n == 13 || (32 ≤ n && n ≤ 126) || n == 0x85 ||
    (0xA0 ≤ n && n ≤ 0xFFFD) || 0x10000 ≤ n

/-- The value of the document that a text holds. Carriage returns and next-line characters end
lines as line feeds do. -/
def parse? (text : String) : Option Yaml := do
  let cs := text.toList
  if !cs.all isPrintable then none
  let lines := (Text.unifyReturns cs).map fun c ↦ if c.toNat = 0x85 then '\n' else c
  match ← Node.ofTokens? (← Token.ofText? lines) with
  | some root => root.value?
  | none => some .null

end PersonaChat.Yaml
