import Mathlib.Data.List.Lex
import Mathlib.Tactic.IntervalCases

/-!
# Python text

* `PyStr` — a Python `str`: its code points.  A lone surrogate, which Python decodes from an
  escape, is one of them, so this is not Lean's `String`; literals are coerced.
* The character classes are those of ASCII.
* `PyStr.ofNat` — the decimal spelling of a number, with `decimal_ofNat` to read it back.
-/

/-- The code points of a Python `str`. -/
abbrev PyStr := List ℕ

namespace PyStr

/-- The text of an ASCII literal: its bytes are its code points. -/
def ofString (s : String) : PyStr := s.toByteArray.data.toList.map UInt8.toNat

instance : Coe String PyStr := ⟨ofString⟩

-- Named, so that every test for membership refers to the same proof.
instance instLawfulBEq : LawfulBEq PyStr := List.instLawfulBEq

/-- What holds of the characters of a joined text. -/
lemma forall_mem_intercalate {P : ℕ → Prop} {separator : PyStr} {pieces : List PyStr}
    (h : ∀ c ∈ separator, P c) :
    (∀ c ∈ List.intercalate separator pieces, P c) ↔ ∀ s ∈ pieces, ∀ c ∈ s, P c := by
  induction pieces with
  | nil => simp [List.intercalate]
  | cons first rest ih =>
      cases rest with
      | nil => simp [List.intercalate]
      | cons second rest =>
          have hsplit : List.intercalate separator (first :: second :: rest)
              = first ++ (separator ++ List.intercalate separator (second :: rest)) := by
            simp [List.intercalate]
          rw [hsplit, List.forall_mem_append, List.forall_mem_append, ih]
          simp only [List.forall_mem_cons, and_iff_right h]

section Classes

def inRange (lo hi : Char) (c : ℕ) : Bool := decide (lo.toNat ≤ c) && decide (c ≤ hi.toNat)

def isLower (c : ℕ) : Bool := inRange 'a' 'z' c
def isLetter (c : ℕ) : Bool := inRange 'A' 'Z' c || inRange 'a' 'z' c
def isUnderscore (c : ℕ) : Bool := c == '_'.toNat
def isDigit (c : ℕ) : Bool := inRange '0' '9' c
def isWordChar (c : ℕ) : Bool := isLetter c || isDigit c || isUnderscore c
def isLowerWordChar (c : ℕ) : Bool := isLower c || isDigit c || isUnderscore c

end Classes

section Decimal

/-- The decimal spelling of a number, as in an f-string. -/
def ofNat (n : ℕ) : PyStr := (Nat.toDigits 10 n).map Char.toNat

def ofInt : ℤ → PyStr
  | Int.ofNat n => ofNat n
  | Int.negSucc n => '-'.toNat :: ofNat (n + 1)

/-- The value of a row of decimal digits. -/
def decimal (digits : PyStr) : ℕ := digits.foldl (fun n c => 10 * n + (c - '0'.toNat)) 0

lemma isDigit_of_mem_ofNat {n c : ℕ} (h : c ∈ ofNat n) : isDigit c = true := by
  obtain ⟨d, hd, rfl⟩ := List.mem_map.mp h
  have hdigit := Nat.isDigit_of_mem_toDigits (by decide) (by decide) hd
  simpa [isDigit, inRange, Char.isDigit, Char.le_def, UInt32.le_iff_toNat_le] using hdigit

lemma ofNat_ne_nil (n : ℕ) : ofNat n ≠ [] := by
  simp [ofNat, Nat.toDigits_ne_nil]

/-- **The spelling of a number reads back as the number.** -/
theorem decimal_ofNat (n : ℕ) : decimal (ofNat n) = n := by
  rw [decimal, ofNat, List.foldl_map]
  exact Nat.ofDigitChars_ten_toDigits

/-- Only 0 is spelled with a zero in front. -/
lemma head_ofNat {n : ℕ} (hn : 0 < n) : (ofNat n).head? ≠ some '0'.toNat := by
  induction n using Nat.strong_induction_on with
  | h n ih =>
      by_cases hlt : n < 10
      · interval_cases n <;> decide
      · have hsplit : ofNat n = ofNat (n / 10) ++ [(n % 10).digitChar.toNat] := by
          rw [ofNat, Nat.toDigits_of_base_le (by decide) (not_lt.mp hlt), ofNat, List.map_append]
          rfl
        rw [hsplit, List.head?_append_of_ne_nil _ (ofNat_ne_nil _)]
        exact ih (n / 10) (by omega) (by omega)

end Decimal

end PyStr
