import Mathlib.Algebra.Group.Nat.Defs
import PersonaChat.Number.Integer
import PersonaChat.Proofs.Text.Scan

/-!
# Numbers in decimal notation

A number that is written in decimal notation is read back, by the reader of digits of all scripts
and by the one that takes runs of limited length only. The digits are ASCII digits, and none leads
in vain.
-/

namespace PersonaChat.Text

/-- The digits of a number are ASCII digits. -/
theorem isAsciiDigit_of_mem_natChars {n : Nat} {c : Char} (h : c ∈ natChars n) :
    isAsciiDigit c = true := by
  have hc : c.isDigit = true := Nat.isDigit_of_mem_toDigits (by decide) (by decide) h
  rw [Char.isDigit, Bool.and_eq_true, decide_eq_true_eq, decide_eq_true_eq] at hc
  rw [isAsciiDigit, Bool.and_eq_true, decide_eq_true_eq, decide_eq_true_eq]
  exact ⟨UInt32.le_iff_toNat_le.mp hc.1, UInt32.le_iff_toNat_le.mp hc.2⟩

/-- The value of an ASCII digit. -/
theorem digitValue?_of_isAsciiDigit {c : Char} (h : isAsciiDigit c = true) :
    digitValue? c = some (c.toNat - 48) := by
  rw [isAsciiDigit, Bool.and_eq_true, decide_eq_true_eq, decide_eq_true_eq] at h
  have hlow : c.toNat < 128 := by omega
  simp [digitValue?, hlow, h]

/-- ASCII digits are decimal. -/
theorem isDecimal_of_isAsciiDigit {c : Char} (h : isAsciiDigit c = true) : isDecimal c = true := by
  rw [isDecimal, digitValue?_of_isAsciiDigit h]
  rfl

/-- The digits of a number are what a reader of digits takes, where no digit follows. -/
theorem takeWhile_natChars {p : Char → Bool}
    (hp : ∀ c, isAsciiDigit c = true → p c = true) (n : Nat)
    {rest : List Char} (h : ∀ c ∈ rest.head?, p c = false) :
    (natChars n ++ rest).takeWhile p = natChars n ∧ (natChars n ++ rest).dropWhile p = rest :=
  takeWhile_run (fun c hc ↦ hp c (isAsciiDigit_of_mem_natChars hc)) h

/-- There is at least one digit. -/
theorem natChars_ne_nil (n : Nat) : natChars n ≠ [] := Nat.toDigits_ne_nil

/-- A number has few digits exactly when it is small. -/
theorem length_natChars_le_iff {n k : Nat} (hk : 0 < k) : (natChars n).length ≤ k ↔ n < 10 ^ k :=
  Nat.length_toDigits_le_iff (by decide) hk

/-- What ASCII digits denote, read after digits of a value. -/
theorem foldlM_digits {ds : List Char} (h : ∀ c ∈ ds, isAsciiDigit c = true) (before : Nat) :
    ds.foldlM (fun acc c ↦ (digitValue? c).map (acc * 10 + ·)) before =
      some (Nat.ofDigitChars 10 ds before) := by
  induction ds generalizing before with
  | nil => rfl
  | cons c ds ih =>
    have hc := digitValue?_of_isAsciiDigit (h c List.mem_cons_self)
    rw [List.foldlM_cons, hc]
    show ds.foldlM _ (before * 10 + (c.toNat - 48)) = _
    rw [ih fun d hd ↦ h d (List.mem_cons_of_mem c hd), Nat.ofDigitChars_cons, Nat.mul_comm]
    rfl

/-- A written number is read back. -/
theorem decimalValue?_natChars (n : Nat) : decimalValue? (natChars n) = some n := by
  rw [decimalValue?, foldlM_digits fun c hc ↦ isAsciiDigit_of_mem_natChars hc]
  rw [natChars, Nat.ofDigitChars_ten_toDigits]

/-- Digits of any script denote a number. -/
theorem exists_decimalValue?_eq {ds : List Char} (h : ∀ c ∈ ds, isDecimal c = true) :
    ∃ n, decimalValue? ds = some n := by
  have hvalue (before : Nat) :
      ∃ n, ds.foldlM (fun acc c ↦ (digitValue? c).map (acc * 10 + ·)) before = some n := by
    induction ds generalizing before with
    | nil => exact ⟨before, rfl⟩
    | cons c ds ih =>
      obtain ⟨v, hv⟩ := Option.isSome_iff_exists.mp (h c List.mem_cons_self)
      obtain ⟨n, hn⟩ := ih (fun d hd ↦ h d (List.mem_cons_of_mem c hd)) (before * 10 + v)
      refine ⟨n, ?_⟩
      rw [List.foldlM_cons, hv]
      exact hn
  exact hvalue 0

/-- A digit has a value below ten. -/
theorem digitValue?_lt {c : Char} {v : Nat} (h : digitValue? c = some v) : v < 10 := by
  unfold digitValue? at h
  dsimp only at h
  split at h
  · split at h
    · cases h
      omega
    · cases h
  · obtain ⟨base, hbase, rfl⟩ := Option.map_eq_some_iff.mp h
    have hrun := List.find?_some hbase
    rw [Bool.and_eq_true, decide_eq_true_eq, decide_eq_true_eq] at hrun
    omega

/-- What digits denote is below the power of ten of their number. -/
theorem decimalValue?_lt {ds : List Char} {n : Nat} (h : decimalValue? ds = some n) :
    n < 10 ^ ds.length := by
  have hbelow (before : Nat)
      (hn : ds.foldlM (fun acc c ↦ (digitValue? c).map (acc * 10 + ·)) before =
      some n) : n < (before + 1) * 10 ^ ds.length := by
    clear h
    induction ds generalizing before with
    | nil =>
      cases hn
      simp
    | cons c ds ih =>
      rw [List.foldlM_cons] at hn
      obtain ⟨next, hnext, hrest⟩ := Option.bind_eq_some_iff.mp hn
      obtain ⟨v, hv, rfl⟩ := Option.map_eq_some_iff.mp hnext
      have hdigit := digitValue?_lt hv
      calc n < (before * 10 + v + 1) * 10 ^ ds.length := ih _ hrest
        _ ≤ ((before + 1) * 10) * 10 ^ ds.length := Nat.mul_le_mul_right _ (by omega)
        _ = (before + 1) * 10 ^ (c :: ds).length := by
          rw [List.length_cons, Nat.pow_succ', Nat.mul_assoc]
  simpa using hbelow 0 h

/-- Zero is one digit. -/
theorem natChars_zero : natChars 0 = ['0'] := Nat.toDigits_zero 10

/-- A positive number starts with a digit other than zero. -/
theorem head_natChars_ne_zero {n : Nat} (hn : 0 < n) {c : Char} {ds : List Char}
    (h : natChars n = c :: ds) : c ≠ '0' := by
  induction n using Nat.base_induction 10 (by decide) generalizing ds with
  | single m hm =>
    rw [natChars, Nat.toDigits_of_lt_base hm] at h
    cases h
    intro hc
    have := Nat.toNat_digitChar_sub_48_of_lt_ten hm
    rw [hc] at this
    simp at this
    omega
  | digit m k hk hm ih =>
    rw [natChars, ← Nat.toDigits_append_toDigits (by decide) hm hk] at h
    cases hd : natChars m with
    | nil => exact absurd hd (natChars_ne_nil m)
    | cons d front =>
      rw [show Nat.toDigits 10 m = d :: front from hd] at h
      cases h
      exact ih hm hd

end PersonaChat.Text

namespace PersonaChat.Number

open Text

/-- A written number that is not too long is read back. -/
theorem ofDigits?_natChars {n : Nat} (h : n < 10 ^ digitLimit) :
    ofDigits? (natChars n) = some n := by
  have hlength := (length_natChars_le_iff (n := n) (k := digitLimit) (by decide)).mpr h
  rw [ofDigits?, if_neg, decimalValue?_natChars]
  simp only [Bool.or_eq_true, List.isEmpty_iff, decide_eq_true_eq, not_or]
  exact ⟨natChars_ne_nil n, Nat.not_lt.mpr hlength⟩

/-- A run of digits is converted unless it is too long. -/
theorem ofDigits?_eq_none_iff {ds : List Char} (hne : ds ≠ []) (h : ∀ c ∈ ds, isDecimal c = true) :
    ofDigits? ds = none ↔ digitLimit < ds.length := by
  obtain ⟨n, hn⟩ := exists_decimalValue?_eq h
  rw [ofDigits?, hn]
  by_cases hlong : digitLimit < ds.length
  · simp [hlong]
  · simp [hlong, hne]

/-- A run of digits that is converted denotes a number that is not too long to be written. -/
theorem ofDigits?_lt {ds : List Char} {n : Nat} (h : ofDigits? ds = some n) :
    n < 10 ^ digitLimit := by
  unfold ofDigits? at h
  split at h
  · cases h
  · next hshort =>
    rw [Bool.or_eq_true, not_or, decide_eq_true_eq, Nat.not_lt] at hshort
    exact Nat.lt_of_lt_of_le (decimalValue?_lt h) (Nat.pow_le_pow_right (by decide) hshort.2)

/-- An integer that is read from a text is not too long to be written. -/
theorem natAbs_lt_of_readInt? {cs : List Char} {n : Int} (h : readInt? cs = some n) :
    n.natAbs < 10 ^ digitLimit := by
  have hdigits {ds : List Char} {k : Nat} (hk : (ungroup? ds).bind ofDigits? = some k) :
      k < 10 ^ digitLimit := by
    obtain ⟨_, -, hk⟩ := Option.bind_eq_some_iff.mp hk
    exact ofDigits?_lt hk
  unfold readInt? at h
  dsimp only at h
  split at h
  · obtain ⟨_, hread, rfl⟩ := Option.map_eq_some_iff.mp h
    obtain ⟨k, hk, hcast⟩ := Option.bind_eq_some_iff.mp hread
    cases hcast
    rw [Int.natAbs_neg]
    exact hdigits hk
  · obtain ⟨k, hk, rfl⟩ := Option.map_eq_some_iff.mp h
    exact hdigits hk
  · obtain ⟨k, hk, rfl⟩ := Option.map_eq_some_iff.mp h
    exact hdigits hk

end PersonaChat.Number
