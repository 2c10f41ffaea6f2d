import Mathlib.Tactic.Common
import Ros2Zephyr.Core.PyStr

/-!
# Integers in Python text

`int(text)` and `int(text, 0)`: spaces around the literal, a sign, single underscores between the
digits, and for `int(text, 0)` the literals of the language, where `0x`, `0o` and `0b` give the base
and a decimal literal has no leading zeros.  Digits and spaces beyond ASCII count as well; which
code points those are depends on the Unicode version of the interpreter.  Decimal literals of more
than `maxStrDigits` digits are not read, and integers of more digits not written.
-/

namespace PyStr

/-- The white space that `int` strips. -/
def isStripped (c : ℕ) : Bool := decide (9 ≤ c) && decide (c ≤ 13) || c == 32

def strip (s : PyStr) : PyStr :=
  ((s.dropWhile isStripped).reverse.dropWhile isStripped).reverse

/-- The value of a digit or letter. -/
def digitValue (c : ℕ) : Option ℕ :=
  if isDigit c then some (c - '0'.toNat)
  else if inRange 'a' 'z' c then some (c - 'a'.toNat + 10)
  else if inRange 'A' 'Z' c then some (c - 'A'.toNat + 10)
  else none

/-- The digits of a literal after `value`; an underscore may stand between two of them. -/
def readDigits (base : ℕ) : ℕ → Bool → PyStr → Option ℕ
  | value, afterDigit, [] => if afterDigit then some value else none
  | value, afterDigit, c :: cs =>
      if isUnderscore c then
        if afterDigit then readDigits base value false cs else none
      else
        match digitValue c with
        | some d => if d < base then readDigits base (base * value + d) true cs else none
        | none => none

/-- The sign of a literal, and what follows it. -/
def readSign (s : PyStr) : ℤ × PyStr :=
  match s with
  | c :: cs => if c = '-'.toNat then (-1, cs) else if c = '+'.toNat then (1, cs) else (1, s)
  | [] => (1, [])

/-- The base that a literal names after its zero. -/
def literalBase (c : ℕ) : Option ℕ :=
  if c = 'x'.toNat ∨ c = 'X'.toNat then some 16
  else if c = 'o'.toNat ∨ c = 'O'.toNat then some 8
  else if c = 'b'.toNat ∨ c = 'B'.toNat then some 2
  else none

/-- `sys.int_info.default_max_str_digits` -/
def maxStrDigits : ℕ := 4300

/-- The text of the `ValueError` of `int`, for so many digits. -/
def parseLimitMessage (digits : ℕ) : PyStr :=
  ofString "Exceeds the limit (4300 digits) for integer string conversion: value has "
    ++ ofNat digits ++ ofString " digits; use sys.set_int_max_str_digits() to increase the limit"

/-- The text of the `ValueError` of `str`, for an integer of too many digits. -/
def formatLimitMessage : PyStr :=
  ofString "Exceeds the limit (4300 digits) for integer string conversion; "
    ++ ofString "use sys.set_int_max_str_digits() to increase the limit"

/-- A machine word has few enough digits. -/
lemma length_ofNat_le {n : ℕ} (h : n < 2 ^ 64) : (ofNat n).length ≤ maxStrDigits := by
  rw [ofNat, List.length_map]
  refine le_trans ((Nat.length_toDigits_le_iff (k := 20) (by decide) (by decide)).mpr ?_)
    (by decide)
  exact h.trans (by decide)

/-- A decimal literal; only zero may start with a zero. -/
def readDecimalLiteral (digits : PyStr) : Option ℕ :=
  if maxStrDigits < digits.countP isDigit then none
  else
    (readDigits 10 0 false digits).bind fun n =>
      if digits.head? = some '0'.toNat ∧ n ≠ 0 then none else some n

/-- The number after the sign of a literal. -/
def readLiteral (digits : PyStr) : Option ℕ :=
  match digits with
  | z :: c :: cs =>
      match if z = '0'.toNat then literalBase c else none with
      | some base =>
          -- one underscore may follow the base
          readDigits base 0 false (if cs.head?.any isUnderscore then cs.drop 1 else cs)
      | none => readDecimalLiteral digits
  | _ => readDecimalLiteral digits

/-- The spaces and the decimal digits of a version of Unicode. -/
structure UnicodeData where
  isSpace : ℕ → Bool
  decimal : ℕ → Option ℕ

/-- The text with the spaces and digits of other scripts replaced by those of ASCII. -/
def UnicodeData.toAscii (unicode : UnicodeData) (s : PyStr) : PyStr :=
  s.map fun c =>
    if c < 127 then c
    else if unicode.isSpace c then ' '.toNat
    else
      match unicode.decimal c with
      | some d => '0'.toNat + d
      | none => '?'.toNat

/-- `int(text)`. -/
def toInt (unicode : UnicodeData) (s : PyStr) : Option ℤ :=
  let (sign, digits) := readSign (strip (unicode.toAscii s))
  if maxStrDigits < digits.countP isDigit then none
  else (readDigits 10 0 false digits).map fun n => sign * n

/-- `int(text, 0)`. -/
def toIntLiteral (unicode : UnicodeData) (s : PyStr) : Option ℤ :=
  let (sign, digits) := readSign (strip (unicode.toAscii s))
  (readLiteral digits).map fun n => sign * n

/-! ## Reading a number back -/

section ReadBack

variable {unicode : UnicodeData}

/-- A row of digits after `value`. -/
lemma readDigits_digits {digits : PyStr} (h : ∀ c ∈ digits, isDigit c = true) (value : ℕ)
    {afterDigit : Bool} (hsome : digits ≠ [] ∨ afterDigit = true) :
    readDigits 10 value afterDigit digits
      = some (digits.foldl (fun n c => 10 * n + (c - '0'.toNat)) value) := by
  induction digits generalizing value afterDigit with
  | nil =>
      rw [readDigits, if_pos (hsome.resolve_left (not_not_intro rfl))]
      rfl
  | cons c digits ih =>
      rw [List.forall_mem_cons] at h
      have hplain : isUnderscore c = false := by
        simp only [isDigit, inRange, Bool.and_eq_true, decide_eq_true_eq] at h
        rw [isUnderscore, beq_eq_false_iff_ne]
        rintro rfl
        exact absurd h.1.2 (by decide)
      have hsmall : c - '0'.toNat < 10 := by
        simp only [isDigit, inRange, Bool.and_eq_true, decide_eq_true_eq] at h
        have hnine : '9'.toNat = '0'.toNat + 9 := by decide
        omega
      rw [readDigits, hplain, digitValue, if_pos h.1]
      simp only [Bool.false_eq_true, if_false, if_pos hsmall]
      exact ih h.2 _ (.inr rfl)

lemma strip_digits {digits : PyStr} (h : ∀ c ∈ digits, isDigit c = true) :
    strip digits = digits := by
  have hkeep : ∀ s : PyStr, (∀ c ∈ s, isDigit c = true) → s.dropWhile isStripped = s := by
    intro s hs
    cases s with
    | nil => rfl
    | cons c s =>
        have hc := hs c List.mem_cons_self
        simp only [isDigit, inRange, Bool.and_eq_true, decide_eq_true_eq] at hc
        have hzero : '0'.toNat = 48 := rfl
        refine List.dropWhile_cons_of_neg ?_
        simp only [isStripped, Bool.or_eq_true, Bool.and_eq_true, decide_eq_true_eq, beq_iff_eq]
        omega
  rw [strip, hkeep digits h, hkeep digits.reverse (by simpa using h), List.reverse_reverse]

lemma toAscii_eq_self {s : PyStr} (h : ∀ c ∈ s, c < 127) : unicode.toAscii s = s := by
  rw [UnicodeData.toAscii]
  exact (List.map_congr_left fun c hc => if_pos (h c hc)).trans (List.map_id s)

lemma lt_of_isDigit {c : ℕ} (h : isDigit c = true) : c < 127 := by
  simp only [isDigit, inRange, Bool.and_eq_true, decide_eq_true_eq] at h
  exact lt_of_le_of_lt h.2 (by decide)

lemma toAscii_ofNat (n : ℕ) : unicode.toAscii (ofNat n) = ofNat n :=
  toAscii_eq_self fun _ hc => lt_of_isDigit (isDigit_of_mem_ofNat hc)

lemma readSign_digits {digits : PyStr} (h : ∀ c ∈ digits, isDigit c = true) :
    readSign digits = (1, digits) := by
  cases digits with
  | nil => rfl
  | cons c digits =>
      have hc := h c List.mem_cons_self
      have hminus : c ≠ '-'.toNat := by
        rintro rfl
        exact absurd hc (by decide)
      have hplus : c ≠ '+'.toNat := by
        rintro rfl
        exact absurd hc (by decide)
      rw [readSign, if_neg hminus, if_neg hplus]

lemma readDecimalLiteral_ofNat {n : ℕ} (h : n < 2 ^ 64) :
    readDecimalLiteral (ofNat n) = some n := by
  have hdigits : ∀ c ∈ ofNat n, isDigit c = true := fun _ hc => isDigit_of_mem_ofNat hc
  have hcount : ¬ maxStrDigits < (ofNat n).countP isDigit :=
    (List.countP_le_length.trans (length_ofNat_le h)).not_gt
  have hzero : ¬ ((ofNat n).head? = some '0'.toNat ∧ n ≠ 0) :=
    fun hz => head_ofNat (Nat.pos_of_ne_zero hz.2) hz.1
  have hvalue : readDigits 10 0 false (ofNat n) = _ :=
    readDigits_digits hdigits 0 (.inl (ofNat_ne_nil n))
  have hdecimal := decimal_ofNat n
  rw [decimal] at hdecimal
  rw [readDecimalLiteral, if_neg hcount, hvalue, hdecimal, Option.bind_some, if_neg hzero]

lemma literalBase_digit {c : ℕ} (h : isDigit c = true) : literalBase c = none := by
  have hne : ∀ d, isDigit d = false → c ≠ d := by
    rintro d hd rfl
    rw [h] at hd
    cases hd
  rw [literalBase, if_neg (not_or.mpr ⟨hne _ (by decide), hne _ (by decide)⟩),
    if_neg (not_or.mpr ⟨hne _ (by decide), hne _ (by decide)⟩),
    if_neg (not_or.mpr ⟨hne _ (by decide), hne _ (by decide)⟩)]

lemma readLiteral_digits {digits : PyStr} (h : ∀ c ∈ digits, isDigit c = true) :
    readLiteral digits = readDecimalLiteral digits := by
  rcases digits with _ | ⟨z, _ | ⟨c, cs⟩⟩
  · rfl
  · rfl
  · simp only [readLiteral, literalBase_digit (h c (by simp)), ite_self]

/-- **`int(text, 0)` of the spelling of a machine word** is the word. -/
theorem toIntLiteral_ofNat {n : ℕ} (h : n < 2 ^ 64) :
    toIntLiteral unicode (ofNat n) = some (n : ℤ) := by
  have hdigits : ∀ c ∈ ofNat n, isDigit c = true := fun _ hc => isDigit_of_mem_ofNat hc
  rw [toIntLiteral, toAscii_ofNat, strip_digits hdigits, readSign_digits hdigits]
  simp only [readLiteral_digits hdigits, readDecimalLiteral_ofNat h, one_mul]
  rfl

end ReadBack

/-- No digits and spaces but those of ASCII. -/
def asciiOnly : UnicodeData := ⟨fun _ => false, fun _ => none⟩

example : toIntLiteral asciiOnly "0x1F" = some 31 ∧
    toIntLiteral asciiOnly " -4_096 " = some (-4096) ∧ toIntLiteral asciiOnly "010" = none ∧
    toIntLiteral asciiOnly "00" = some 0 ∧ toIntLiteral asciiOnly "0x" = none ∧
    toInt asciiOnly "010" = some 10 ∧ toInt asciiOnly "1__0" = none ∧
      toInt asciiOnly "" = none := by
  decide

end PyStr
