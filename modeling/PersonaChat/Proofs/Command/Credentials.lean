import Mathlib.Data.List.Permutation
import PersonaChat.Command.Reader
import PersonaChat.Proofs.Results
import PersonaChat.Proofs.Text.Blank
import PersonaChat.Proofs.Text.Scan

/-!
# Which messages configure the provider

An address and a key, in either order and with any blanks between them and around them, are all
that configures the provider; whatever else a message holds, it never does. Main statement: when a
message configures the provider and with what, said of its words and of its whole text, and that
neither the order of the words nor the blanks matter.

Spec guidance: `SPEC_FULL.md`, lines 85–88 and 210.
-/

namespace PersonaChat.Command

open Text

variable {cs base key token : List Char} {api : Api String}

/-! ### Addresses and keys -/

/-- How an address of the provider starts. -/
def schemes : List (List Char) := ["http://".toList, "https://".toList]

/-- An address: a scheme and at least one more character. -/
def IsAddress (token : List Char) : Prop := ∃ scheme ∈ schemes, ∃ c r, token = scheme ++ c :: r

/-- A key: its start and at least one more character. -/
def IsKey (token : List Char) : Prop := ∃ c r, token = "sk-".toList ++ c :: r

private theorem isAddress_iff : isAddress token = true ↔ IsAddress token := by
  rw [isAddress, List.any_eq_true]
  exact exists_congr fun scheme ↦ and_congr_right fun _ ↦ isPrefixOf_and_lt_iff scheme token

private theorem isKey_iff : isKey token = true ↔ IsKey token :=
  isPrefixOf_and_lt_iff ['s', 'k', '-'] token

/-- No address is a key, as they start with different letters. -/
theorem IsKey.not_isAddress (h : IsKey token) : ¬ IsAddress token := by
  obtain ⟨c, r, rfl⟩ := h
  rintro ⟨scheme, hscheme, d, s, heq⟩
  have hschemes : scheme = "http://".toList ∨ scheme = "https://".toList := by
    simpa [schemes] using hscheme
  rcases hschemes with rfl | rfl
  · cases heq
  · cases heq

/-! ### Words -/

/-- An address and a key are read from the two words of a text, in either order. -/
theorem readApi?_eq_some_iff : readApi? cs = some api ↔
    ∃ base key, IsAddress base ∧ IsKey key ∧ api = ⟨String.ofList base, String.ofList key⟩ ∧
      (Spaced cs [base, key] ∨ Spaced cs [key, base]) := by
  simp only [← tokens_eq_iff]
  constructor
  · intro h
    unfold readApi? at h
    split at h
    · next a b htokens =>
      split at h
      · next hab =>
        cases h
        rw [Bool.and_eq_true, isAddress_iff, isKey_iff] at hab
        exact ⟨a, b, hab.1, hab.2, rfl, .inl htokens⟩
      · split at h
        · next hba =>
          cases h
          rw [Bool.and_eq_true, isAddress_iff, isKey_iff] at hba
          exact ⟨b, a, hba.2, hba.1, rfl, .inr htokens⟩
        · cases h
    · cases h
  · rintro ⟨base, key, hbase, hkey, rfl, htokens⟩
    have hother := hkey.not_isAddress
    rw [← isAddress_iff] at hbase hother
    rw [← isKey_iff] at hkey
    rcases htokens with htokens | htokens
    · simp [readApi?, htokens, hbase, hkey]
    · simp [readApi?, htokens, hbase, hkey, hother]

/-- No other reader configures the provider. -/
theorem read?_configure_iff {text : String} {names : List String} :
    read? text names = .ok (some (.configure api)) ↔ readApi? text.toList = some api := by
  constructor
  · intro h
    unfold read? at h
    dsimp only at h
    split at h
    · next request hunnamed =>
      cases h
      unfold readUnnamed? at hunnamed
      split at hunnamed
      · next found _ _ hfound =>
        cases hunnamed
        exact hfound
      all_goals cases hunnamed
    · split at h
      · cases h
      · obtain ⟨command, -, hcommand⟩ := bind_eq_ok h
        cases command with
        | none => cases hcommand
        | some command => cases hcommand
  · intro h
    simp [read?, readUnnamed?, h]

/-! ### The whole text -/

/-- A text that is an address, blanks and a key, or a key, blanks and an address. -/
def IsConfiguration (typed base key : List Char) : Prop :=
  IsAddress base ∧ IsKey key ∧ IsWord base ∧ IsWord key ∧
    ∃ gap, gap ≠ [] ∧ (∀ c ∈ gap, isBlank c = true) ∧
      (typed = base ++ (gap ++ key) ∨ typed = key ++ (gap ++ base))

/-- A text has an address and a key for its words exactly when it is a configuration once
trimmed. -/
theorem isConfiguration_trim_iff : IsConfiguration (trim cs) base key ↔
    IsAddress base ∧ IsKey key ∧ (Spaced cs [base, key] ∨ Spaced cs [key, base]) := by
  rw [spaced_pair_iff, spaced_pair_iff]
  constructor
  · rintro ⟨hbase, hkey, hword, hword', gap, hne, hgap, htyped | htyped⟩
    · exact ⟨hbase, hkey, .inl ⟨hword, hword', gap, hne, hgap, htyped⟩⟩
    · exact ⟨hbase, hkey, .inr ⟨hword', hword, gap, hne, hgap, htyped⟩⟩
  · rintro ⟨hbase, hkey, ⟨hword, hword', gap, hne, hgap, htyped⟩ |
      ⟨hword', hword, gap, hne, hgap, htyped⟩⟩
    · exact ⟨hbase, hkey, hword, hword', gap, hne, hgap, .inl htyped⟩
    · exact ⟨hbase, hkey, hword, hword', gap, hne, hgap, .inr htyped⟩

/-- The words of a text, in either order, are all that the reader looks at. -/
theorem readApi?_congr {cs' : List Char} {words words' : List (List Char)} (h : Spaced cs words)
    (h' : Spaced cs' words') (hperm : words'.Perm words) : readApi? cs' = readApi? cs := by
  have hpair (a b : List Char) :
      (words' = [a, b] ∨ words' = [b, a]) ↔ (words = [a, b] ∨ words = [b, a]) := by
    rw [← List.perm_pair, ← List.perm_pair]
    exact ⟨hperm.symm.trans, hperm.trans⟩
  rw [← tokens_eq_iff] at h h'
  apply Option.ext
  intro api
  simp only [readApi?_eq_some_iff, ← tokens_eq_iff, h, h', hpair]

/-- A message configures the provider exactly when it consists of two words, an address and a key
in either order, and with just these; the whole of the trimmed text is then the two with blanks
between them. So neither the order of the words nor the blanks between them and around them matter,
and the names of personas do not, either. -/
theorem configures_iff_address_and_key (text : String) (names : List String) :
    (∀ api, read? text names = .ok (some (.configure api)) ↔
      ∃ base key, IsAddress base ∧ IsKey key ∧ api = ⟨String.ofList base, String.ofList key⟩ ∧
        (Spaced text.toList [base, key] ∨ Spaced text.toList [key, base])) ∧
      (∀ api, read? text names = .ok (some (.configure api)) ↔
        ∃ base key, api = ⟨String.ofList base, String.ofList key⟩ ∧
          IsConfiguration (trim text.toList) base key) ∧
      ∀ text' names' words words', Spaced text.toList words → Spaced text'.toList words' →
        words'.Perm words → ∀ api, read? text' names' = .ok (some (.configure api)) ↔
          read? text names = .ok (some (.configure api)) := by
  refine ⟨fun api ↦ read?_configure_iff.trans readApi?_eq_some_iff, fun api ↦ ?_, ?_⟩
  · rw [read?_configure_iff, readApi?_eq_some_iff]
    refine exists_congr fun base ↦ exists_congr fun key ↦ ?_
    rw [isConfiguration_trim_iff]
    constructor
    · rintro ⟨hbase, hkey, hapi, hwords⟩
      exact ⟨hapi, hbase, hkey, hwords⟩
    · rintro ⟨hapi, hbase, hkey, hwords⟩
      exact ⟨hbase, hkey, hapi, hwords⟩
  · intro text' names' words words' h h' hperm api
    rw [read?_configure_iff, read?_configure_iff, readApi?_congr h h' hperm]

/-- The key first, with a line feed behind it, and the address first, with a tab. -/
theorem configures_iff_address_and_key_of_swapped :
    let base := "https://a.test/v1".toList
    let key := "sk-abc".toList
    let api : Api String := ⟨"https://a.test/v1", "sk-abc"⟩
    Spaced " sk-abc\n https://a.test/v1 ".toList [key, base] ∧
      Spaced "https://a.test/v1\tsk-abc".toList [base, key] ∧
      read? " sk-abc\n https://a.test/v1 " ["Bot"] = .ok (some (.configure api)) ∧
      read? "https://a.test/v1\tsk-abc" [] = .ok (some (.configure api)) := by
  intro base key api
  have hkeyFirst : Spaced " sk-abc\n https://a.test/v1 ".toList [key, base] :=
    tokens_eq_iff.mp (by decide +kernel)
  have hbaseFirst : Spaced "https://a.test/v1\tsk-abc".toList [base, key] :=
    tokens_eq_iff.mp (by decide +kernel)
  have hbase : IsAddress base := isAddress_iff.mp (by decide)
  have hkey : IsKey key := isKey_iff.mp (by decide)
  have hconfigures := configures_iff_address_and_key " sk-abc\n https://a.test/v1 " ["Bot"]
  have hread := (hconfigures.1 api).mpr ⟨base, key, hbase, hkey, rfl, .inr hkeyFirst⟩
  exact ⟨hkeyFirst, hbaseFirst, hread,
    (hconfigures.2.2 _ [] _ _ hkeyFirst hbaseFirst (List.Perm.swap key base []) api).mpr hread⟩

end PersonaChat.Command
