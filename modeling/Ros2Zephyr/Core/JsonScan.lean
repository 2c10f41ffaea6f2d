import Mathlib.Data.List.Chain
import Mathlib.Data.List.TakeWhile
import Mathlib.Data.Nat.Digits.Defs
import Ros2Zephyr.Core.JsonParse

/-!
# Reading what is written, piece by piece

The scanners of `json.loads` on the texts of `json.dumps`: numbers, constants and strings with any
text after them that ends them, and the items of arrays and objects, one on a line.

* `Json.WellRead` — the values that a document can hold: integers that `int` converts, floats that
  are floats, strings without a surrogate pair in two halves, distinct keys.
* `scanText_quoted`, `scanItems_joinItems`, `scanMembers_joinItems` — strings, arrays and objects.
-/

open PyStr

namespace Json

open Fallible

/-! ## Which values can be read

Not every value of the model is one that a document can hold.  Python's reader has a limit on the
digits of an integer, joins surrogates and keeps the last of two members with one key.
-/

section WellRead

/-- An integer that is within the limit of `int` on digits. -/
def Convertible (n : ℤ) : Prop := (PyStr.ofNat n.natAbs).length ≤ maxStrDigits

instance (n : ℤ) : Decidable (Convertible n) := inferInstanceAs (Decidable (_ ≤ _))

/-- No high surrogate stands before a low one. -/
def Unpaired (s : PyStr) : Prop :=
  s.IsChain fun a b => ¬ (isHighSurrogate a = true ∧ isLowSurrogate b = true)

/-- A string that an escaped text can denote. -/
structure Readable (s : PyStr) : Prop where
  points : ∀ c ∈ s, c < 0x110000
  unpaired : Unpaired s

variable (codec : FloatCodec)

/-- What a document can hold. -/
inductive WellRead : Json → Prop
  | null : WellRead null
  | bool (b : Bool) : WellRead (bool b)
  | int {n : ℤ} : Convertible n → WellRead (int n)
  | float {x : PyFloat} :
      (∀ q, x = .finite q → codec.parse (codec.text q) = .finite q) → WellRead (float x)
  | str {s : PyStr} : Readable s → WellRead (str s)
  | arr {items : List Json} : (∀ v ∈ items, WellRead v) → WellRead (arr items)
  | obj {fields : List (PyStr × Json)} : (fields.map Prod.fst).Nodup →
      (∀ f ∈ fields, Readable f.1) → (∀ f ∈ fields, WellRead f.2) → WellRead (obj fields)

end WellRead

/-! ## Numbers

A number is read as far as it goes.  Each of the parts of `readNumber` is shown not to go on into a
text that stops the number.
-/

section Numbers

/-- A character that may continue a number. -/
def isNumberChar (c : ℕ) : Bool :=
  isDigit c || c == '.'.toNat || isExponentMark c || isExponentSign c

/-- The text goes on with something that is not part of a number. -/
def Stops (rest : PyStr) : Prop := ∀ c, rest.head? = some c → isNumberChar c = false

lemma stops_nil : Stops [] := by
  intro c h
  cases h

lemma stops_cons {c : ℕ} {rest : PyStr} (h : isNumberChar c = false) : Stops (c :: rest) := by
  intro d hd
  cases hd
  exact h

variable {s rest : PyStr} {p : ℕ → Bool}

/-- A class of number characters does not go on in the rest. -/
lemma Stops.head (h : Stops rest) (hp : ∀ c, p c = true → isNumberChar c = true) :
    ∀ c, rest.head? = some c → p c = false := by
  intro c hc
  have hstop := h c hc
  cases hpc : p c with
  | false => rfl
  | true => rw [hp c hpc] at hstop; cases hstop

lemma takeWhile_append_of_head (h : ∀ c, rest.head? = some c → p c = false) :
    (s ++ rest).takeWhile p = s.takeWhile p ∧ (s ++ rest).dropWhile p = s.dropWhile p ++ rest := by
  induction s with
  | nil =>
      cases rest with
      | nil => exact ⟨rfl, rfl⟩
      | cons c rest =>
          have hc := h c rfl
          simp [hc]
  | cons c s ih =>
      cases hc : p c with
      | true => simp [hc, ih]
      | false => simp [hc]

lemma any_head_append (h : ∀ c, rest.head? = some c → p c = false) :
    (s ++ rest).head?.any p = s.head?.any p := by
  cases s with
  | nil =>
      cases rest with
      | nil => rfl
      | cons c rest => simp [h c rfl]
  | cons c s => rfl

lemma head_append_beq {d : ℕ} (h : ∀ c, rest.head? = some c → c ≠ d) :
    ((s ++ rest).head? == some d) = (s.head? == some d) := by
  cases s with
  | nil =>
      cases rest with
      | nil => rfl
      | cons c rest => simp [h c rfl]
  | cons c s => rfl

lemma isNumberChar_of_isDigit {c : ℕ} (h : isDigit c = true) : isNumberChar c = true := by
  simp [isNumberChar, h]

lemma isNumberChar_of_isExponentMark {c : ℕ} (h : isExponentMark c = true) :
    isNumberChar c = true := by
  simp [isNumberChar, h]

lemma isNumberChar_of_isExponentSign {c : ℕ} (h : isExponentSign c = true) :
    isNumberChar c = true := by
  simp [isNumberChar, h]

variable (hrest : Stops rest)
include hrest

lemma Stops.ne (d : ℕ) (hd : isNumberChar d = true) : ∀ c, rest.head? = some c → c ≠ d := by
  rintro c hc rfl
  rw [hrest c hc] at hd
  cases hd

omit hrest in
lemma readSign_append (hs : s ≠ []) :
    readSign (s ++ rest) = ((readSign s).1, (readSign s).2 ++ rest) := by
  obtain ⟨c, s, rfl⟩ := List.exists_cons_of_ne_nil hs
  simp only [readSign, List.cons_append, List.head?_cons, List.tail_cons]
  cases some c == some '-'.toNat <;> rfl

/-- The digits end where the text stops the number: behind a single zero, or behind the last digit.
-/
lemma readDigits_append {digits tail : PyStr} (h : readDigits s = some (digits, tail)) :
    readDigits (s ++ rest) = some (digits, tail ++ rest) := by
  obtain ⟨htake, hdrop⟩ :=
    takeWhile_append_of_head (s := s) (hrest.head fun _ => isNumberChar_of_isDigit)
  cases s with
  | nil => cases h
  | cons c s =>
      unfold readDigits at h ⊢
      rw [htake, hdrop]
      simp only [List.cons_append, List.head?_cons, List.tail_cons] at h ⊢
      cases hzero : some c == some '0'.toNat with
      | true =>
          rw [hzero] at h
          cases h
          rfl
      | false =>
          rw [hzero] at h
          cases hdigit : (some c).any isDigit with
          | true =>
              rw [hdigit] at h
              cases h
              rfl
          | false =>
              rw [hdigit] at h
              cases h

lemma readFraction_append (s : PyStr) :
    readFraction (s ++ rest) = ((readFraction s).1, (readFraction s).2 ++ rest) := by
  have hdigit := hrest.head fun _ => isNumberChar_of_isDigit
  unfold readFraction
  rw [head_append_beq (hrest.ne '.'.toNat (by decide))]
  cases s with
  | nil => rfl
  | cons c s =>
      obtain ⟨htake, hdrop⟩ := takeWhile_append_of_head (s := s) hdigit
      simp only [List.cons_append, List.tail_cons, htake, hdrop, any_head_append hdigit]
      cases (c :: s).head? == some '.'.toNat && s.head?.any isDigit <;> rfl

lemma readExponentSign_append (s : PyStr) :
    readExponentSign (s ++ rest) = ((readExponentSign s).1, (readExponentSign s).2 ++ rest) := by
  unfold readExponentSign
  rw [any_head_append (hrest.head fun _ => isNumberChar_of_isExponentSign)]
  cases s with
  | nil => rfl
  | cons c s => cases (c :: s).head?.any isExponentSign <;> rfl

lemma readExponent_append (s : PyStr) :
    readExponent (s ++ rest) = ((readExponent s).1, (readExponent s).2 ++ rest) := by
  have hdigit := hrest.head fun _ => isNumberChar_of_isDigit
  unfold readExponent
  rw [any_head_append (s := s) (hrest.head fun _ => isNumberChar_of_isExponentMark)]
  cases s with
  | nil => rfl
  | cons c s =>
      obtain ⟨htake, hdrop⟩ := takeWhile_append_of_head (s := (readExponentSign s).2) hdigit
      simp only [List.cons_append, List.tail_cons, readExponentSign_append hrest, htake, hdrop,
        any_head_append hdigit]
      cases (c :: s).head?.any isExponentMark && (readExponentSign s).2.head?.any isDigit <;> rfl

/-- A number is read to its end. -/
lemma readNumber_append {n : NumberText} (h : readNumber s = some (n, [])) :
    readNumber (s ++ rest) = some (n, rest) := by
  have hs : s ≠ [] := by
    rintro rfl
    cases h
  obtain ⟨⟨digits, tail⟩, hdigits, h⟩ := Option.map_eq_some_iff.mp h
  simp only [Prod.mk.injEq] at h
  obtain ⟨rfl, hend⟩ := h
  simp only [readNumber, readSign_append hs, readDigits_append hrest hdigits, Option.map_some,
    readFraction_append hrest, readExponent_append hrest, hend, List.nil_append]

end Numbers

/-! ## Constants and numbers as they are written

The scanner tries the constants first, and none of them starts like a number.
-/

section Atoms

variable {codec : FloatCodec} {s rest : PyStr}

lemma head_of_readNumber {result : NumberText × PyStr} (h : readNumber s = some result) :
    ∃ c tail, s = c :: tail ∧ (c = '-'.toNat ∨ isDigit c = true) := by
  obtain ⟨⟨digits, tail⟩, hdigits, -⟩ := Option.map_eq_some_iff.mp h
  cases s with
  | nil => cases hdigits
  | cons c s =>
      refine ⟨c, s, rfl, ?_⟩
      by_cases hsign : c = '-'.toNat
      · exact .inl hsign
      · right
        have hnone : readSign (c :: s) = ([], c :: s) := by
          have hne : ((c :: s).head? == some '-'.toNat) = false := by simpa using hsign
          rw [readSign, hne]
          rfl
        rw [hnone] at hdigits
        cases hdigit : isDigit c with
        | true => rfl
        | false =>
            have hzero : ((c :: s).head? == some '0'.toNat) = false := by
              cases hc : (c :: s).head? == some '0'.toNat with
              | false => rfl
              | true =>
                  have hc' : c = '0'.toNat := by simpa using hc
                  rw [hc'] at hdigit
                  exact absurd hdigit (by decide)
            rw [readDigits, hzero, List.head?_cons, Option.any_some, hdigit] at hdigits
            cases hdigits

/-- No constant starts like a number. -/
lemma readConstant_of_readNumber {result : NumberText × PyStr} (h : readNumber s = some result) :
    readConstant s = none := by
  rw [readConstant, Option.map_eq_none_iff, List.find?_eq_none]
  intro word hword hprefix
  obtain ⟨tail, rfl⟩ := List.isPrefixOf_iff_prefix.mp hprefix
  have hnone : ∀ word ∈ constants, ∀ tail, readNumber (word.1 ++ tail) = none := by
    simp only [constants, List.forall_mem_cons, List.not_mem_nil, false_implies, implies_true,
      and_true]
    refine ⟨?_, ?_, ?_, ?_, ?_, ?_⟩ <;>
      · intro tail
        rfl
  rw [hnone word hword tail] at h
  cases h

lemma readConstant_append {word : PyStr × Json} (h : word ∈ constants) (rest : PyStr) :
    readConstant (word.1 ++ rest) = some (word.2, rest) := by
  simp only [constants, List.mem_cons, List.not_mem_nil, or_false] at h
  rcases h with rfl | rfl | rfl | rfl | rfl | rfl <;> rfl

/-- The dispatch of the scanner on a text that opens nothing. -/
lemma scanValue_eq_scanAtom {fuel c : ℕ} (h : c ≠ 34 ∧ c ≠ 91 ∧ c ≠ 123) :
    scanValue codec (fuel + 1) (c :: s) = scanAtom codec (c :: s) := by
  rw [scanValue, if_neg, if_neg, if_neg]
  · simpa using h.2.2
  · simpa using h.2.1
  · simpa using h.1

lemma scanValue_constant {word : PyStr × Json} {fuel : ℕ} (h : word ∈ constants) :
    scanValue codec (fuel + 1) (word.1 ++ rest) = .ok (word.2, rest) := by
  have hhead : ∀ word ∈ constants, ∃ c, word.1.head? = some c ∧ c ≠ 34 ∧ c ≠ 91 ∧ c ≠ 123 := by
    simp only [constants, List.forall_mem_cons, List.not_mem_nil, false_implies, implies_true,
      and_true]
    exact ⟨⟨_, rfl, by decide⟩, ⟨_, rfl, by decide⟩, ⟨_, rfl, by decide⟩, ⟨_, rfl, by decide⟩,
      ⟨_, rfl, by decide⟩, ⟨_, rfl, by decide⟩⟩
  obtain ⟨c, hc, hne⟩ := hhead word h
  obtain ⟨tail, htail⟩ := List.head?_eq_some_iff.mp hc
  have hatom : scanAtom codec (word.1 ++ rest) = .ok (word.2, rest) := by
    rw [scanAtom, readConstant_append h]
  rw [htail] at hatom ⊢
  rw [List.cons_append, scanValue_eq_scanAtom hne]
  exact hatom

lemma scanValue_number {t : NumberText} {fuel : ℕ} (h : readNumber s = some (t, []))
    (hrest : Stops rest) :
    scanValue codec (fuel + 1) (s ++ rest) = (numberValue codec t).map fun v => (v, rest) := by
  have happend := readNumber_append hrest h
  obtain ⟨c, tail, rfl, hc⟩ := head_of_readNumber h
  have hne : c ≠ 34 ∧ c ≠ 91 ∧ c ≠ 123 := by
    refine ⟨?_, ?_, ?_⟩ <;>
      · rintro rfl
        revert hc
        decide
  rw [List.cons_append] at happend ⊢
  rw [scanValue_eq_scanAtom hne, scanAtom, readConstant_of_readNumber happend, happend]

lemma readDigits_ofNat (n : ℕ) : readDigits (PyStr.ofNat n) = some (PyStr.ofNat n, []) := by
  rcases Nat.eq_zero_or_pos n with rfl | hn
  · rfl
  · have hall : ∀ c ∈ PyStr.ofNat n, isDigit c = true := fun c => isDigit_of_mem_ofNat
    have hzero : ((PyStr.ofNat n).head? == some '0'.toNat) = false := by
      simpa using head_ofNat hn
    have hdigit : (PyStr.ofNat n).head?.any isDigit = true := by
      obtain ⟨c, tail, hcons⟩ := List.exists_cons_of_ne_nil (ofNat_ne_nil n)
      rw [hcons]
      exact hall c (by rw [hcons]; exact List.mem_cons_self ..)
    rw [readDigits, hzero, hdigit, List.takeWhile_eq_self_iff.mpr hall,
      List.dropWhile_eq_nil_iff.mpr hall]
    rfl

lemma readNumber_ofInt (n : ℤ) : readNumber (PyStr.ofInt n)
    = some (⟨if 0 ≤ n then [] else ['-'.toNat], PyStr.ofNat n.natAbs, [], []⟩, []) := by
  cases n with
  | ofNat m =>
      have hsign : readSign (PyStr.ofNat m) = ([], PyStr.ofNat m) := by
        obtain ⟨c, tail, hcons⟩ := List.exists_cons_of_ne_nil (ofNat_ne_nil m)
        have hc : isDigit c = true :=
          isDigit_of_mem_ofNat (n := m) (by rw [hcons]; exact List.mem_cons_self ..)
        have hne : ((PyStr.ofNat m).head? == some '-'.toNat) = false := by
          rw [hcons, List.head?_cons, beq_eq_false_iff_ne]
          rintro ⟨⟩
          exact absurd hc (by decide)
        rw [readSign, hne]
        rfl
      rw [PyStr.ofInt, readNumber, hsign, readDigits_ofNat]
      rfl
  | negSucc m =>
      rw [PyStr.ofInt, readNumber]
      have hsign :
          readSign ('-'.toNat :: PyStr.ofNat (m + 1)) = (['-'.toNat], PyStr.ofNat (m + 1)) :=
        rfl
      rw [hsign, readDigits_ofNat]
      rfl

lemma numberValue_int {n : ℤ} (h : Convertible n) :
    numberValue codec ⟨if 0 ≤ n then [] else ['-'.toNat], PyStr.ofNat n.natAbs, [], []⟩
      = .ok (.int n) := by
  rw [numberValue, if_neg (fun hfloat => by cases hfloat), if_neg (not_lt.mpr h), decimal_ofNat]
  split_ifs with hsign hneg hneg
  · rw [Int.natAbs_of_nonneg hsign]
  · exact absurd rfl hneg
  · cases hneg
  · rw [Int.ofNat_natAbs_of_nonpos (by omega), neg_neg]

lemma scanValue_int {n : ℤ} {fuel : ℕ} (h : Convertible n) (hrest : Stops rest) :
    scanValue codec (fuel + 1) (PyStr.ofInt n ++ rest) = .ok (.int n, rest) := by
  rw [scanValue_number (readNumber_ofInt n) hrest, numberValue_int h]
  rfl

lemma text_of_readNumber {t : NumberText} (h : readNumber s = some (t, rest)) :
    t.text ++ rest = s := by
  obtain ⟨⟨digits, tail⟩, hdigits, h⟩ := Option.map_eq_some_iff.mp h
  have hsign : ∀ s, (readSign s).1 ++ (readSign s).2 = s := by
    intro s
    cases s with
    | nil => rfl
    | cons c s =>
        unfold readSign
        cases hc : (c :: s).head? == some '-'.toNat with
        | false => rfl
        | true =>
            have hc' : c = '-'.toNat := by simpa using hc
            rw [hc']
            rfl
  have hfraction : ∀ s, (readFraction s).1 ++ (readFraction s).2 = s := by
    intro s
    unfold readFraction
    cases hc : s.head? == some '.'.toNat && s.tail.head?.any isDigit with
    | false => rfl
    | true =>
        rw [Bool.and_eq_true, beq_iff_eq] at hc
        obtain ⟨tail, rfl⟩ := List.head?_eq_some_iff.mp hc.1
        simp
  have hexponent : ∀ s, (readExponent s).1 ++ (readExponent s).2 = s := by
    intro s
    cases s with
    | nil => rfl
    | cons c s =>
        have hafter : (readExponentSign s).1 ++ (readExponentSign s).2 = s := by
          unfold readExponentSign
          cases s with
          | nil => rfl
          | cons d s => cases (d :: s).head?.any isExponentSign <;> rfl
        simp only [readExponent, List.tail_cons]
        cases (c :: s).head?.any isExponentMark && (readExponentSign s).2.head?.any isDigit with
        | false => rfl
        | true => simp [List.append_assoc, hafter]
  obtain ⟨-, -, hread⟩ := readDigits_cases hdigits
  cases h
  simp only [NumberText.text, List.append_assoc, hexponent, hfraction, ← hread, hsign]

lemma scanValue_float {q : ℚ} {fuel : ℕ} (h : codec.parse (codec.text q) = .finite q)
    (hrest : Stops rest) :
    scanValue codec (fuel + 1) (codec.text q ++ rest) = .ok (.float (.finite q), rest) := by
  obtain ⟨t, hread, hfloat⟩ := codec.literal q
  have htext : t.text = codec.text q := by simpa using text_of_readNumber hread
  rw [scanValue_number hread hrest, numberValue, if_pos hfloat, htext, h]
  rfl

end Atoms

/-! ## Strings

An escape is read back character by character.  The one thing that can go wrong is two escaped
surrogates in a row, which are read as one character.
-/

section Strings

variable {s rest : PyStr} {c : ℕ}

lemma hexValue_hexDigit {n : ℕ} (h : n < 16) : hexValue (hexDigit n) = some n := by
  interval_cases n <;> decide

lemma readHex_escaped (h : c < 0x10000) (rest : PyStr) :
    readHex (hexDigit (c / 4096 % 16) :: hexDigit (c / 256 % 16) :: hexDigit (c / 16 % 16) ::
      hexDigit (c % 16) :: rest) = some (c, rest) := by
  have hdigit : ∀ n, hexValue (hexDigit (n % 16)) = some (n % 16) :=
    fun n => hexValue_hexDigit (Nat.mod_lt n (by decide))
  have hvalue :
      4096 * (c / 4096 % 16) + 256 * (c / 256 % 16) + 16 * (c / 16 % 16) + c % 16 = c := by
    omega
  simp only [readHex, hdigit, bind, Option.bind_some, hvalue]

lemma unicodeEscape_eq (c : ℕ) : unicodeEscape c = 92 :: 117 :: [hexDigit (c / 4096 % 16),
    hexDigit (c / 256 % 16), hexDigit (c / 16 % 16), hexDigit (c % 16)] := rfl

lemma readChar_unicodeEscape (h : c < 0x10000) (rest : PyStr) :
    readChar (unicodeEscape c ++ rest) = some (joinSurrogates c rest) := by
  rw [unicodeEscape_eq]
  simp only [List.cons_append, List.nil_append, readChar, readEscape, if_true]
  rw [if_pos (by decide), readHex_escaped h]
  rfl

lemma readLowSurrogate_unicodeEscape (h : c < 0x10000) (rest : PyStr) :
    readLowSurrogate (unicodeEscape c ++ rest)
      = if isLowSurrogate c then some (c, rest) else none := by
  rw [unicodeEscape_eq]
  simp only [List.cons_append, List.nil_append, readLowSurrogate, readHex_escaped h]
  cases hlow : isLowSurrogate c <;> simp [Option.filter, hlow]

lemma joinSurrogates_of_none (h : isHighSurrogate c = true → readLowSurrogate rest = none) :
    joinSurrogates c rest = (c, rest) := by
  unfold joinSurrogates
  cases hhigh : isHighSurrogate c with
  | false => rfl
  | true => simp [h hhigh]

/-- The two halves of a character beyond the basic plane. -/
lemma surrogates_of_large (h : 0x10000 ≤ c) (hc : c < 0x110000) :
    let high := 0xD800 + (c - 0x10000) / 1024 % 1024
    let low := 0xDC00 + (c - 0x10000) % 1024
    high < 0x10000 ∧ low < 0x10000 ∧ isHighSurrogate high = true ∧ isLowSurrogate high = false ∧
      isLowSurrogate low = true ∧ 0x10000 + (high - 0xD800) * 1024 + (low - 0xDC00) = c := by
  simp only [isHighSurrogate, isLowSurrogate, Bool.and_eq_true, decide_eq_true_eq,
    Bool.and_eq_false_iff, decide_eq_false_iff_not]
  omega

/-- The four ways in which a character is written. -/
lemma escapeChar_cases (c : ℕ) :
    (∃ e, escapeChar c = [92, e] ∧ e ≠ 117 ∧ simpleEscape e = some c) ∨
    (escapeChar c = [c] ∧ 32 ≤ c ∧ c ≠ 34 ∧ c ≠ 92) ∨
    (escapeChar c = unicodeEscape c ∧ c < 0x10000) ∨
    escapeChar c = unicodeEscape (0xD800 + (c - 0x10000) / 1024 % 1024)
      ++ unicodeEscape (0xDC00 + (c - 0x10000) % 1024) ∧ 0x10000 ≤ c := by
  by_cases h₁ : c = 34
  · exact .inl ⟨34, by rw [h₁]; rfl, by decide, by rw [h₁]; rfl⟩
  by_cases h₂ : c = 92
  · exact .inl ⟨92, by rw [h₂]; rfl, by decide, by rw [h₂]; rfl⟩
  by_cases h₃ : c = 10
  · exact .inl ⟨'n'.toNat, by rw [h₃]; rfl, by decide, by rw [h₃]; rfl⟩
  by_cases h₄ : c = 13
  · exact .inl ⟨'r'.toNat, by rw [h₄]; rfl, by decide, by rw [h₄]; rfl⟩
  by_cases h₅ : c = 9
  · exact .inl ⟨'t'.toNat, by rw [h₅]; rfl, by decide, by rw [h₅]; rfl⟩
  by_cases h₆ : c = 12
  · exact .inl ⟨'f'.toNat, by rw [h₆]; rfl, by decide, by rw [h₆]; rfl⟩
  by_cases h₇ : c = 8
  · exact .inl ⟨'b'.toNat, by rw [h₇]; rfl, by decide, by rw [h₇]; rfl⟩
  right
  rw [escapeChar, if_neg h₁, if_neg h₂, if_neg h₃, if_neg h₄, if_neg h₅, if_neg h₆, if_neg h₇]
  by_cases hplain : 32 ≤ c ∧ c ≤ 126
  · rw [if_pos hplain]
    exact .inl ⟨rfl, hplain.1, h₁, h₂⟩
  · rw [if_neg hplain]
    by_cases hbasic : c < 0x10000
    · rw [if_pos hbasic]
      exact .inr (.inl ⟨rfl, hbasic⟩)
    · rw [if_neg hbasic]
      exact .inr (.inr ⟨rfl, not_lt.mp hbasic⟩)

/-- **An escaped character is read back**, unless it is half of a pair. -/
lemma readChar_escapeChar (hc : c < 0x110000)
    (hnext : isHighSurrogate c = true → readLowSurrogate rest = none) :
    readChar (escapeChar c ++ rest) = some (c, rest) := by
  rcases escapeChar_cases c with ⟨e, hescape, hu, he⟩ | ⟨hescape, hle, -, hslash⟩ |
    ⟨hescape, hbasic⟩ | ⟨hescape, hlarge⟩
  · have hu' : e ≠ 'u'.toNat := hu
    rw [hescape, List.cons_append, List.singleton_append, readChar, if_pos rfl, readEscape,
      if_neg hu', he]
    rfl
  · rw [hescape, List.singleton_append, readChar, if_neg hslash, if_neg (not_lt.mpr hle)]
  · rw [hescape, readChar_unicodeEscape hbasic, joinSurrogates_of_none hnext]
  · obtain ⟨hhigh, hlow, hisHigh, -, hisLow, hjoin⟩ := surrogates_of_large hlarge hc
    rw [hescape, List.append_assoc, readChar_unicodeEscape hhigh, joinSurrogates, hisHigh,
      readLowSurrogate_unicodeEscape hlow, hisLow]
    simp only [if_true, hjoin]

/-- A character that is no low surrogate is not written as one. -/
lemma readLowSurrogate_escapeChar (hc : c < 0x110000) (hlow : isLowSurrogate c = false) :
    readLowSurrogate (escapeChar c ++ rest) = none := by
  rcases escapeChar_cases c with ⟨e, hescape, hu, -⟩ | ⟨hescape, -, -, hslash⟩ |
    ⟨hescape, hbasic⟩ | ⟨hescape, hlarge⟩
  · rw [hescape, List.cons_append, List.singleton_append, readLowSurrogate]
    intro tail heq
    exact hu (List.cons.inj (List.cons.inj heq).2).1
  · rw [hescape, List.singleton_append, readLowSurrogate]
    intro tail heq
    exact hslash (List.cons.inj heq).1
  · rw [hescape, readLowSurrogate_unicodeEscape hbasic, hlow]
    rfl
  · obtain ⟨hhigh, -, -, hnotLow, -, -⟩ := surrogates_of_large hlarge hc
    rw [hescape, List.append_assoc, readLowSurrogate_unicodeEscape hhigh, hnotLow]
    rfl

/-- What is written for a character does not end the string. -/
lemma escapeChar_cons (c : ℕ) : ∃ d tail, escapeChar c = d :: tail ∧ d ≠ 34 := by
  rcases escapeChar_cases c with ⟨e, hescape, -⟩ | ⟨hescape, -, hquote, -⟩ | ⟨hescape, -⟩ |
    ⟨hescape, -⟩
  · exact ⟨92, [e], hescape, by decide⟩
  · exact ⟨c, [], hescape, hquote⟩
  · exact ⟨92, _, hescape, by decide⟩
  · exact ⟨92, _, hescape, by decide⟩

lemma Readable.tail {cs : PyStr} (h : Readable (c :: cs)) : Readable cs :=
  ⟨fun d hd => h.points d (List.mem_cons_of_mem _ hd), h.unpaired.tail⟩

/-- **A string is read back from its escapes.** -/
lemma scanString_escaped (h : Readable s) {fuel : ℕ} (hfuel : s.length < fuel) :
    scanString fuel (s.flatMap escapeChar ++ 34 :: rest) = some (s, rest) := by
  induction s generalizing fuel with
  | nil =>
      obtain ⟨fuel, rfl⟩ := Nat.exists_eq_add_of_lt hfuel
      rw [List.length_nil, scanString]
      rfl
  | cons c cs ih =>
      rw [List.length_cons] at hfuel
      obtain ⟨fuel, rfl⟩ : ∃ f, fuel = f + 1 := ⟨fuel - 1, by omega⟩
      have hc : c < 0x110000 := h.points c (List.mem_cons_self ..)
      have hnext : isHighSurrogate c = true →
          readLowSurrogate (cs.flatMap escapeChar ++ 34 :: rest) = none := by
        intro hhigh
        cases cs with
        | nil => rfl
        | cons d ds =>
            have hpair := h.unpaired.rel
            have hlow : isLowSurrogate d = false := by
              cases hd : isLowSurrogate d with
              | false => rfl
              | true => exact absurd ⟨hhigh, hd⟩ hpair
            rw [List.flatMap_cons, List.append_assoc]
            exact readLowSurrogate_escapeChar
              (h.points d (List.mem_cons_of_mem _ (List.mem_cons_self ..))) hlow
      obtain ⟨d, tail, hescape, hd⟩ := escapeChar_cons c
      rw [List.flatMap_cons, List.append_assoc, scanString, if_neg, readChar_escapeChar hc hnext]
      · have hrest := ih h.tail (Nat.lt_of_succ_lt_succ hfuel)
        simp only [bind, Option.bind_some, hrest]
      · rw [hescape]
        simpa using hd

lemma length_le_flatMap_escapeChar (s : PyStr) : s.length ≤ (s.flatMap escapeChar).length := by
  induction s with
  | nil => exact le_rfl
  | cons c cs ih =>
      obtain ⟨d, tail, hescape, -⟩ := escapeChar_cons c
      rw [List.flatMap_cons, List.length_append, hescape]
      simp only [List.length_cons]
      omega

lemma quoted_append (s rest : PyStr) :
    quoted s ++ rest = 34 :: (s.flatMap escapeChar ++ 34 :: rest) := by
  have hquote : PyStr.ofString "\"" = [34] := rfl
  rw [quoted, hquote]
  simp

/-- **A quoted string is read back.** -/
lemma scanText_quoted (h : Readable s) (rest : PyStr) :
    scanText (quoted s ++ rest) = .ok (s, rest) := by
  have hlength := length_le_flatMap_escapeChar s
  rw [quoted_append, scanText, if_pos (List.head?_cons ..), List.tail_cons, scanString_escaped h]
  simp only [List.length_cons, List.length_append]
  omega

end Strings

/-! ## Arrays and objects

The items stand on lines of their own, with the same indentation.  Reading them is an induction on
their number, in which every item leaves enough fuel for the next.
-/

section Containers

variable {codec : FloatCodec} {s rest : PyStr}

lemma skipSpace_newline (level : ℕ) (s : PyStr) : skipSpace (newline level ++ s) = skipSpace s := by
  have hspaces : ∀ n, skipSpace (List.replicate n 32 ++ s) = skipSpace s := by
    intro n
    induction n with
    | zero => rfl
    | succ n ih => exact ih
  exact hspaces (2 * level)

lemma skipSpace_cons {c : ℕ} (h : isSpace c = false) : skipSpace (c :: s) = c :: s :=
  List.dropWhile_cons_of_neg (by simp [h])

lemma stops_newline (level : ℕ) (s : PyStr) : Stops (newline level ++ s) := stops_cons (by decide)

/-- A text that starts with something other than white space. -/
def Starts (s : PyStr) : Prop := ∃ c tail, s = c :: tail ∧ isSpace c = false ∧ c ≠ 93

lemma Starts.skipSpace_append (h : Starts s) (rest : PyStr) :
    skipSpace (s ++ rest) = s ++ rest := by
  obtain ⟨c, tail, rfl, hc, -⟩ := h
  exact skipSpace_cons hc

/-- The dispatch of the scanner on an array. -/
lemma scanValue_bracket (fuel : ℕ) (s : PyStr) :
    scanValue codec (fuel + 1) (91 :: s) =
      if (skipSpace s).head? = some 93 then .ok (.arr [], (skipSpace s).tail)
      else (scanItems codec fuel (skipSpace s)).map fun p => (.arr p.1, p.2) := by
  rw [scanValue, if_neg (by simp), if_pos (List.head?_cons ..)]
  rfl

lemma scanValue_brace (fuel : ℕ) (s : PyStr) :
    scanValue codec (fuel + 1) (123 :: s) =
      if (skipSpace s).head? = some 125 then .ok (.obj [], (skipSpace s).tail)
      else (scanMembers codec fuel (skipSpace s)).map fun p =>
        (.obj (PyDict.ofPairs p.1), p.2) := by
  rw [scanValue, if_neg (by simp), if_neg (by simp), if_pos (List.head?_cons ..)]
  rfl

/-- The lines of an array or object. -/
def joinItems (level : ℕ) (items : List PyStr) : PyStr :=
  List.intercalate ("," ++ newline level) items

lemma joinItems_cons (level : ℕ) (s t : PyStr) (items : List PyStr) (rest : PyStr) :
    joinItems level (s :: t :: items) ++ rest
      = s ++ (44 :: (newline level ++ (joinItems level (t :: items) ++ rest))) := by
  have hcomma : PyStr.ofString "," = [44] := rfl
  rw [joinItems, joinItems, hcomma]
  simp [List.intercalate]

lemma joinItems_singleton (level : ℕ) (s : PyStr) : joinItems level [s] = s := by
  simp [joinItems, List.intercalate]

lemma skipSpace_joinItems (h : Starts s) (level : ℕ) (items : List PyStr) (rest : PyStr) :
    skipSpace (joinItems level (s :: items) ++ rest) = joinItems level (s :: items) ++ rest := by
  cases items with
  | nil =>
      rw [joinItems_singleton]
      exact h.skipSpace_append rest
  | cons t items =>
      rw [joinItems_cons]
      exact h.skipSpace_append _

/-- How `scanValue` reads what is written for a value. -/
def ScansAs (codec : FloatCodec) (text : PyStr) (value : Json) : Prop :=
  ∀ {rest fuel}, Stops rest → fuelFor (text ++ rest) ≤ fuel →
    scanValue codec fuel (text ++ rest) = .ok (value, rest)

/-- The items of an array, one on a line. -/
lemma scanItems_joinItems {t : Json → PyStr} {items : List Json} (hne : items ≠ [])
    (hscan : ∀ v ∈ items, ScansAs codec (t v) v) (hstarts : ∀ v ∈ items, Starts (t v))
    (level level' : ℕ) (rest : PyStr) {fuel : ℕ}
    (hfuel : fuelFor (joinItems level (items.map t) ++ (newline level' ++ 93 :: rest)) < fuel) :
    scanItems codec fuel (joinItems level (items.map t) ++ (newline level' ++ 93 :: rest))
      = .ok (items, rest) := by
  induction items generalizing fuel with
  | nil => exact absurd rfl hne
  | cons v items ih =>
      obtain ⟨fuel, rfl⟩ : ∃ f, fuel = f + 1 := ⟨fuel - 1, by omega⟩
      rw [List.forall_mem_cons] at hscan hstarts
      cases items with
      | nil =>
          rw [List.map_cons, List.map_nil, joinItems_singleton] at hfuel ⊢
          rw [scanItems, hscan.1 (stops_newline _ _) (by omega), ok_bind]
          simp only [skipSpace_newline]
          rfl
      | cons w items =>
          rw [List.map_cons, List.map_cons, joinItems_cons] at hfuel ⊢
          rw [scanItems, hscan.1 (stops_cons (by decide)) (by omega), ok_bind]
          have hnext :=
            skipSpace_joinItems (hstarts.2 w (List.mem_cons_self ..)) level (items.map t)
            (newline level' ++ 93 :: rest)
          have hless : fuelFor (joinItems level ((w :: items).map t)
              ++ (newline level' ++ 93 :: rest)) < fuel := by
            simp only [fuelFor, List.length_append, List.length_cons, List.map_cons] at hfuel ⊢
            omega
          have hrest := ih (List.cons_ne_nil _ _) hscan.2 hstarts.2 hless
          rw [List.map_cons] at hrest
          simp only [skipSpace_cons (c := 44) rfl, List.head?_cons, List.tail_cons,
            skipSpace_newline,
            hnext, hrest, ok_bind]
          rfl

/-- What is written for a member. -/
def memberText (t : Json → PyStr) (field : PyStr × Json) : PyStr :=
  quoted field.1 ++ (": " ++ t field.2)

lemma memberText_append (t : Json → PyStr) (field : PyStr × Json) (rest : PyStr) :
    memberText t field ++ rest = quoted field.1 ++ (58 :: 32 :: (t field.2 ++ rest)) := by
  have hcolon : PyStr.ofString ": " = [58, 32] := rfl
  rw [memberText, hcolon]
  simp

lemma starts_memberText (t : Json → PyStr) (field : PyStr × Json) :
    Starts (memberText t field) := by
  rw [memberText, quoted_append]
  exact ⟨34, _, rfl, rfl, by decide⟩

/-- One member, and the text after it. -/
lemma scanMembers_member {t : Json → PyStr} {field : PyStr × Json} {fuel : ℕ}
    (hkey : Readable field.1) (hscan : ScansAs codec (t field.2) field.2)
    (hstarts : Starts (t field.2))
    (hrest : Stops rest) (hfuel : fuelFor (memberText t field ++ rest) ≤ fuel) :
    scanMembers codec (fuel + 1) (memberText t field ++ rest) =
      (if (skipSpace rest).head? = some 125 then .ok ([field], (skipSpace rest).tail)
      else if (skipSpace rest).head? = some 44 then do
        let (members, rest) ← scanMembers codec fuel (skipSpace (skipSpace rest).tail)
        .ok (field :: members, rest)
      else .error .decode) := by
  rw [memberText_append] at hfuel ⊢
  have hvalue : scanValue codec fuel (t field.2 ++ rest) = .ok (field.2, rest) := by
    refine hscan hrest ?_
    simp only [fuelFor, List.length_append, List.length_cons] at hfuel ⊢
    omega
  have hspace : skipSpace (32 :: (t field.2 ++ rest)) = t field.2 ++ rest :=
    hstarts.skipSpace_append rest
  rw [scanMembers, scanText_quoted hkey, ok_bind]
  simp only [skipSpace_cons (c := 58) rfl, List.head?_cons, List.tail_cons, hspace, hvalue, ok_bind,
    if_true]

lemma scanMembers_joinItems {t : Json → PyStr} {fields : List (PyStr × Json)} (hne : fields ≠ [])
    (hkeys : ∀ f ∈ fields, Readable f.1) (hscan : ∀ f ∈ fields, ScansAs codec (t f.2) f.2)
    (hstarts : ∀ f ∈ fields, Starts (t f.2)) (level level' : ℕ) (rest : PyStr) {fuel : ℕ}
    (hfuel : fuelFor (joinItems level (fields.map (memberText t))
      ++ (newline level' ++ 125 :: rest))
      < fuel) :
    scanMembers codec fuel
        (joinItems level (fields.map (memberText t)) ++ (newline level' ++ 125 :: rest))
      = .ok (fields, rest) := by
  induction fields generalizing fuel with
  | nil => exact absurd rfl hne
  | cons f fields ih =>
      obtain ⟨fuel, rfl⟩ : ∃ n, fuel = n + 1 := ⟨fuel - 1, by omega⟩
      rw [List.forall_mem_cons] at hkeys hscan hstarts
      cases fields with
      | nil =>
          rw [List.map_cons, List.map_nil, joinItems_singleton] at hfuel ⊢
          rw [scanMembers_member hkeys.1 hscan.1 hstarts.1 (stops_newline _ _) (by omega)]
          simp only [skipSpace_newline]
          rfl
      | cons g fields =>
          rw [List.map_cons, List.map_cons, joinItems_cons] at hfuel ⊢
          rw [scanMembers_member hkeys.1 hscan.1 hstarts.1 (stops_cons (by decide)) (by omega)]
          have hnext :=
            skipSpace_joinItems (starts_memberText t g) level (fields.map (memberText t))
            (newline level' ++ 125 :: rest)
          have hless : fuelFor (joinItems level ((g :: fields).map (memberText t))
              ++ (newline level' ++ 125 :: rest)) < fuel := by
            simp only [fuelFor, List.length_append, List.length_cons, List.map_cons] at hfuel ⊢
            omega
          have hrest := ih (List.cons_ne_nil _ _) hkeys.2 hscan.2 hstarts.2 hless
          rw [List.map_cons] at hrest
          simp only [skipSpace_cons (c := 44) rfl, List.head?_cons, List.tail_cons,
            skipSpace_newline,
            hnext, hrest, ok_bind]
          rfl

end Containers

end Json
