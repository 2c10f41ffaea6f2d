import Mathlib.Data.List.Infix
import Mathlib.Data.List.TakeWhile
import Mathlib.Tactic.Common
import Ros2Zephyr.Core.Fallible
import Ros2Zephyr.Core.JsonPrint
import Ros2Zephyr.Core.PyDict
import Ros2Zephyr.Core.PyInt

/-!
# Reading JSON

`json.loads` of Python, with its scanner: white space, strings with their escapes, numbers, the
constants that Python reads beside those of JSON, arrays and objects.

* `Json.loads` — the reader.  A text that is no document is a `JSONDecodeError`; an integer with
  more digits than `int` converts is another `ValueError`, which callers that catch the first let
  through.
* `FloatCodec` — the spelling of the floats and its reading.
* The scanner runs on fuel.  `scan_rest` says that it consumes something, and
  `scanValue_fuel_irrelevant` that `loads` always has enough of it.

How deep a document may be nested depends on the interpreter's stack and is not modelled.
-/

open PyStr

/-- What `json.loads` raises. -/
inductive LoadError
  | decode
  /-- `int` of so many digits -/
  | digits (count : ℕ)
  deriving DecidableEq

namespace Json

open Fallible

section Strings

/-- `[ \t\n\r]` -/
def isSpace (c : ℕ) : Bool := c == 32 || c == 9 || c == 10 || c == 13

def skipSpace (s : PyStr) : PyStr := s.dropWhile isSpace

def hexValue (c : ℕ) : Option ℕ :=
  if isDigit c then some (c - '0'.toNat)
  else if inRange 'a' 'f' c then some (c - 'a'.toNat + 10)
  else if inRange 'A' 'F' c then some (c - 'A'.toNat + 10)
  else none

/-- The four digits of `\uXXXX`. -/
def readHex : PyStr → Option (ℕ × PyStr)
  | a :: b :: c :: d :: rest => do
      let a ← hexValue a
      let b ← hexValue b
      let c ← hexValue c
      let d ← hexValue d
      some (4096 * a + 256 * b + 16 * c + d, rest)
  | _ => none

def isHighSurrogate (c : ℕ) : Bool := decide (0xD800 ≤ c) && decide (c ≤ 0xDBFF)
def isLowSurrogate (c : ℕ) : Bool := decide (0xDC00 ≤ c) && decide (c ≤ 0xDFFF)

/-- A low surrogate that is escaped next. -/
def readLowSurrogate : PyStr → Option (ℕ × PyStr)
  | 92 :: 117 :: rest => (readHex rest).filter fun p => isLowSurrogate p.1
  | _ => none

/-- The character of an escaped code unit; two surrogates that follow each other are one. -/
def joinSurrogates (unit : ℕ) (rest : PyStr) : ℕ × PyStr :=
  match if isHighSurrogate unit then readLowSurrogate rest else none with
  | some (low, rest') => (0x10000 + (unit - 0xD800) * 1024 + (low - 0xDC00), rest')
  | none => (unit, rest)

/-- The escapes of one character. -/
def simpleEscape (c : ℕ) : Option ℕ :=
  if c = 34 ∨ c = 92 ∨ c = 47 then some c
  else if c = 'b'.toNat then some 8
  else if c = 'f'.toNat then some 12
  else if c = 'n'.toNat then some 10
  else if c = 'r'.toNat then some 13
  else if c = 't'.toNat then some 9
  else none

/-- What a backslash stands for. -/
def readEscape : PyStr → Option (ℕ × PyStr)
  | [] => none
  | c :: rest =>
      if c = 'u'.toNat then (readHex rest).map fun p => joinSurrogates p.1 p.2
      else (simpleEscape c).map fun e => (e, rest)

/-- The next character of a string. -/
def readChar : PyStr → Option (ℕ × PyStr)
  | [] => none
  | c :: rest => if c = 92 then readEscape rest else if c < 32 then none else some (c, rest)

/-- `scanstring`, after the opening quote. -/
def scanString : ℕ → PyStr → Option (PyStr × PyStr)
  | 0, _ => none
  | fuel + 1, s =>
      if s.head? = some 34 then some ([], s.tail)
      else do
        let (c, rest) ← readChar s
        let (cs, rest) ← scanString fuel rest
        some (c :: cs, rest)

end Strings

section Numbers

/-- A number as it is spelled: `(-?(?:0|[1-9]\d*))(\.\d+)?([eE][-+]?\d+)?`. -/
structure NumberText where
  sign : PyStr
  digits : PyStr
  fraction : PyStr
  exponent : PyStr
  deriving DecidableEq

def NumberText.text (n : NumberText) : PyStr := n.sign ++ (n.digits ++ (n.fraction ++ n.exponent))

/-- Only a number without fraction and exponent is an `int`. -/
def NumberText.isFloat (n : NumberText) : Bool := n.fraction ≠ [] || n.exponent ≠ []

def readSign (s : PyStr) : PyStr × PyStr :=
  bif s.head? == some '-'.toNat then (['-'.toNat], s.tail) else ([], s)

/-- The digits before the point; a zero stands alone. -/
def readDigits (s : PyStr) : Option (PyStr × PyStr) :=
  bif s.head? == some '0'.toNat then some (['0'.toNat], s.tail)
  else bif s.head?.any isDigit then some (s.takeWhile isDigit, s.dropWhile isDigit)
  else none

def readFraction (s : PyStr) : PyStr × PyStr :=
  bif s.head? == some '.'.toNat && s.tail.head?.any isDigit then
    ('.'.toNat :: s.tail.takeWhile isDigit, s.tail.dropWhile isDigit)
  else ([], s)

def isExponentSign (c : ℕ) : Bool := c == '-'.toNat || c == '+'.toNat
def isExponentMark (c : ℕ) : Bool := c == 'e'.toNat || c == 'E'.toNat

/-- The sign of an exponent, and what follows it. -/
def readExponentSign (s : PyStr) : PyStr × PyStr :=
  bif s.head?.any isExponentSign then (s.take 1, s.tail) else ([], s)

def readExponent (s : PyStr) : PyStr × PyStr :=
  let after := readExponentSign s.tail
  bif s.head?.any isExponentMark && after.2.head?.any isDigit then
    (s.take 1 ++ after.1 ++ after.2.takeWhile isDigit, after.2.dropWhile isDigit)
  else ([], s)

/-- The number that the text starts with. -/
def readNumber (s : PyStr) : Option (NumberText × PyStr) :=
  (readDigits (readSign s).2).map fun digits =>
    let fraction := readFraction digits.2
    let exponent := readExponent fraction.2
    (⟨(readSign s).1, digits.1, fraction.1, exponent.1⟩, exponent.2)

end Numbers

/-- The spelling of the finite floats, and `float` of a spelling.  A spelling reads back as the
float it was made from; not every rational is a float. -/
structure FloatCodec extends FloatRepr where
  parse : PyStr → PyFloat
  parse_text : ∀ {s q}, parse s = .finite q → parse (text q) = .finite q
  literal : ∀ q, ∃ n : NumberText, readNumber (text q) = some (n, []) ∧ n.isFloat = true

section Scanner

variable (codec : FloatCodec)

/-- `NumberText` as a value. -/
def numberValue (n : NumberText) : Except LoadError Json :=
  if n.isFloat then .ok (.float (codec.parse n.text))
  else if maxStrDigits < n.digits.length then .error (.digits n.digits.length)
  else .ok (.int (if n.sign = [] then decimal n.digits else -decimal n.digits))

def constants : List (PyStr × Json) :=
  [("null", .null), ("true", .bool true), ("false", .bool false), ("NaN", .float .nan),
    ("Infinity", .float .infinity), ("-Infinity", .float .negInfinity)]

/-- One of the constants, if the text starts with it. -/
def readConstant (s : PyStr) : Option (Json × PyStr) :=
  (constants.find? fun word => word.1.isPrefixOf s).map fun word => (word.2, s.drop word.1.length)

/-- A constant or a number. -/
def scanAtom (s : PyStr) : Except LoadError (Json × PyStr) :=
  match readConstant s with
  | some result => .ok result
  | none =>
      match readNumber s with
      | some (n, rest) => (numberValue codec n).map fun value => (value, rest)
      | none => .error .decode

/-- A string, at its opening quote. -/
def scanText (s : PyStr) : Except LoadError (PyStr × PyStr) :=
  if s.head? = some 34 then
    match scanString s.length s.tail with
    | some result => .ok result
    | none => .error .decode
  else .error .decode

mutual

/-- `scan_once` -/
def scanValue : ℕ → PyStr → Except LoadError (Json × PyStr)
  | 0, _ => .error .decode
  | fuel + 1, s =>
      if s.head? = some 34 then (scanText s).map fun p => (.str p.1, p.2)
      else if s.head? = some 91 then
        let body := skipSpace s.tail
        if body.head? = some 93 then .ok (.arr [], body.tail)
        else (scanItems fuel body).map fun p => (.arr p.1, p.2)
      else if s.head? = some 123 then
        let body := skipSpace s.tail
        if body.head? = some 125 then .ok (.obj [], body.tail)
        else (scanMembers fuel body).map fun p => (.obj (PyDict.ofPairs p.1), p.2)
      else scanAtom codec s

/-- The items of an array, up to its bracket. -/
def scanItems : ℕ → PyStr → Except LoadError (List Json × PyStr)
  | 0, _ => .error .decode
  | fuel + 1, s => do
      let (item, rest) ← scanValue fuel s
      let rest := skipSpace rest
      if rest.head? = some 93 then .ok ([item], rest.tail)
      else if rest.head? = some 44 then do
        let (items, rest) ← scanItems fuel (skipSpace rest.tail)
        .ok (item :: items, rest)
      else .error .decode

/-- The members of an object, up to its brace. -/
def scanMembers : ℕ → PyStr → Except LoadError (List (PyStr × Json) × PyStr)
  | 0, _ => .error .decode
  | fuel + 1, s => do
      let (key, rest) ← scanText s
      let rest := skipSpace rest
      if rest.head? = some 58 then do
        let (value, rest) ← scanValue fuel (skipSpace rest.tail)
        let rest := skipSpace rest
        if rest.head? = some 125 then .ok ([(key, value)], rest.tail)
        else if rest.head? = some 44 then do
          let (members, rest) ← scanMembers fuel (skipSpace rest.tail)
          .ok ((key, value) :: members, rest)
        else .error .decode
      else .error .decode

end

/-- Fuel for a text: a nested value takes two steps and at least one character. -/
def fuelFor (s : PyStr) : ℕ := 2 * s.length + 1

/-- `json.loads` -/
def loads (s : PyStr) : Except LoadError Json :=
  if s.head? = some 0xFEFF then .error .decode
  else do
    let (value, rest) ← scanValue codec (fuelFor (skipSpace s)) (skipSpace s)
    if skipSpace rest = [] then .ok value else .error .decode

end Scanner

/-! ## Progress and fuel

What has been read is a beginning of the text, and never empty.  From this follows by induction on
the fuel that more of it changes nothing.
-/

section Progress

variable {codec : FloatCodec} {s t rest : PyStr} {c : ℕ}

/-- What is left after something was read. -/
structure Consumed (s rest : PyStr) : Prop where
  suffix : rest <:+ s
  shorter : rest.length < s.length

lemma Consumed.before (h : Consumed t rest) (hs : t <:+ s) : Consumed s rest :=
  ⟨h.suffix.trans hs, h.shorter.trans_le hs.length_le⟩

lemma Consumed.after (h : Consumed s t) (ht : rest <:+ t) : Consumed s rest :=
  ⟨ht.trans h.suffix, ht.length_le.trans_lt h.shorter⟩

lemma Consumed.trans (h : Consumed s t) (ht : Consumed t rest) : Consumed s rest :=
  h.after ht.suffix

lemma consumed_append (front : PyStr) (h : front ≠ []) : Consumed (front ++ rest) rest := by
  refine ⟨List.suffix_append .., ?_⟩
  have hlength := List.length_pos_iff.mpr h
  rw [List.length_append]
  omega

lemma consumed_tail (h : s.head? = some c) : Consumed s s.tail := by
  obtain ⟨tail, rfl⟩ := List.head?_eq_some_iff.mp h
  exact consumed_append [c] (List.cons_ne_nil _ _)

lemma skipSpace_suffix (s : PyStr) : skipSpace s <:+ s := List.dropWhile_suffix _

section Strings

lemma hexValue_lt {n : ℕ} (h : hexValue c = some n) : n < 16 := by
  have hchars : '0'.toNat = 48 ∧ '9'.toNat = 57 ∧ 'a'.toNat = 97 ∧ 'f'.toNat = 102 ∧
      'A'.toNat = 65 ∧ 'F'.toNat = 70 := ⟨rfl, rfl, rfl, rfl, rfl, rfl⟩
  unfold hexValue at h
  simp only [isDigit, inRange, Bool.and_eq_true, decide_eq_true_eq] at h
  split_ifs at h <;>
    · cases h
      omega

/-- The four digits of an escape give a code unit. -/
lemma readHex_cases {n : ℕ} (h : readHex s = some (n, rest)) :
    n < 0x10000 ∧ ∃ front, front ≠ [] ∧ s = front ++ rest := by
  unfold readHex at h
  split at h
  next a b c d rest' =>
    simp only [bind, Option.bind_eq_some_iff] at h
    obtain ⟨a', ha, b', hb, c', hc, d', hd, h⟩ := h
    cases h
    have ha := hexValue_lt ha
    have hb := hexValue_lt hb
    have hc := hexValue_lt hc
    have hd := hexValue_lt hd
    exact ⟨by omega, [a, b, c, d], List.cons_ne_nil _ _, rfl⟩
  next => cases h

lemma readLowSurrogate_cases {low : ℕ} (h : readLowSurrogate s = some (low, rest)) :
    ∃ tail, s = 92 :: 117 :: tail ∧ readHex tail = some (low, rest) ∧
      isLowSurrogate low = true := by
  unfold readLowSurrogate at h
  split at h
  next tail =>
    obtain ⟨hread, hlow⟩ := Option.filter_eq_some_iff.mp h
    exact ⟨tail, rfl, hread, hlow⟩
  next => cases h

/-- A unit stands for itself, or with the next one for a character beyond the basic plane. -/
lemma joinSurrogates_cases {unit : ℕ} (h : joinSurrogates unit t = (c, rest)) :
    (c = unit ∧ rest = t ∧ (isHighSurrogate unit = true → readLowSurrogate t = none)) ∨
    ∃ low, isHighSurrogate unit = true ∧ readLowSurrogate t = some (low, rest) ∧
      c = 0x10000 + (unit - 0xD800) * 1024 + (low - 0xDC00) := by
  unfold joinSurrogates at h
  cases hhigh : isHighSurrogate unit with
  | false =>
      rw [hhigh] at h
      cases h
      exact .inl ⟨rfl, rfl, fun hf => by cases hf⟩
  | true =>
      rw [hhigh] at h
      simp only [if_true] at h
      cases hlow : readLowSurrogate t with
      | none =>
          rw [hlow] at h
          cases h
          exact .inl ⟨rfl, rfl, fun _ => rfl⟩
      | some found =>
          obtain ⟨low, tail⟩ := found
          rw [hlow] at h
          obtain ⟨hc, hrest⟩ := Prod.mk.inj h
          exact .inr ⟨low, rfl, hrest ▸ rfl, hc.symm⟩

/-- The three ways in which a character is written. -/
lemma readChar_cases (h : readChar s = some (c, rest)) :
    s = c :: rest ∨
    (∃ e, s = 92 :: e :: rest ∧ simpleEscape e = some c) ∨
    ∃ tail unit tail', s = 92 :: 117 :: tail ∧ readHex tail = some (unit, tail') ∧
      joinSurrogates unit tail' = (c, rest) := by
  unfold readChar at h
  split at h
  next => cases h
  next d tail =>
    split_ifs at h with hslash
    · subst hslash
      unfold readEscape at h
      split at h
      next => cases h
      next e tail' =>
        split_ifs at h with hu
        · obtain ⟨⟨unit, tail''⟩, hread, hjoin⟩ := Option.map_eq_some_iff.mp h
          subst hu
          exact .inr (.inr ⟨_, unit, tail'', rfl, hread, hjoin⟩)
        · obtain ⟨e', hescape, hresult⟩ := Option.map_eq_some_iff.mp h
          cases hresult
          exact .inr (.inl ⟨e, rfl, hescape⟩)
    · cases h
      exact .inl rfl

lemma consumed_readHex {n : ℕ} (h : readHex s = some (n, rest)) : Consumed s rest := by
  obtain ⟨-, front, hfront, rfl⟩ := readHex_cases h
  exact consumed_append _ hfront

lemma consumed_readChar (h : readChar s = some (c, rest)) : Consumed s rest := by
  rcases readChar_cases h with rfl | ⟨e, rfl, -⟩ | ⟨tail, unit, tail', rfl, hread, hjoin⟩
  · exact consumed_append [c] (List.cons_ne_nil _ _)
  · exact consumed_append [92, e] (List.cons_ne_nil _ _)
  · have hunit : Consumed (92 :: 117 :: tail) tail' :=
      (consumed_readHex hread).before (List.suffix_append [92, 117] tail)
    rcases joinSurrogates_cases hjoin with ⟨-, rfl, -⟩ | ⟨low, -, hlow, -⟩
    · exact hunit
    · obtain ⟨tail'', rfl, hread', -⟩ := readLowSurrogate_cases hlow
      exact hunit.trans ((consumed_readHex hread').before (List.suffix_append [92, 117] tail''))

lemma consumed_scanString {fuel : ℕ} {cs : PyStr} (h : scanString fuel s = some (cs, rest)) :
    Consumed s rest := by
  induction fuel generalizing s cs with
  | zero => cases h
  | succ fuel ih =>
      rw [scanString] at h
      split_ifs at h with hquote
      · cases h
        exact consumed_tail hquote
      · obtain ⟨⟨d, tail⟩, hchar, h⟩ := Option.bind_eq_some_iff.mp h
        obtain ⟨⟨ds, tail'⟩, hstring, h⟩ := Option.bind_eq_some_iff.mp h
        cases h
        exact (consumed_readChar hchar).trans (ih hstring)

lemma scanText_cases {cs : PyStr} (h : scanText s = .ok (cs, rest)) :
    s.head? = some 34 ∧ scanString s.length s.tail = some (cs, rest) := by
  unfold scanText at h
  split_ifs at h with hquote
  split at h
  next result hstring =>
    cases h
    exact ⟨hquote, hstring⟩
  next => cases h

lemma consumed_scanText {cs : PyStr} (h : scanText s = .ok (cs, rest)) : Consumed s rest := by
  obtain ⟨hquote, hstring⟩ := scanText_cases h
  exact (consumed_tail hquote).trans (consumed_scanString hstring)

end Strings

section Atoms

lemma consumed_readConstant {value : Json} (h : readConstant s = some (value, rest)) :
    Consumed s rest := by
  obtain ⟨word, hfind, hresult⟩ := Option.map_eq_some_iff.mp h
  cases hresult
  have hfound : word.1.isPrefixOf s = true := by
    have hword := List.find?_some hfind
    exact hword
  have hne : word.1 ≠ [] := by
    have hall : ∀ word ∈ constants, word.1 ≠ [] := by decide
    exact hall word (List.mem_of_find?_eq_some hfind)
  obtain ⟨tail, rfl⟩ := List.isPrefixOf_iff_prefix.mp hfound
  rw [List.drop_left]
  exact consumed_append _ hne

lemma readSign_suffix (s : PyStr) : (readSign s).2 <:+ s := by
  unfold readSign
  cases s.head? == some '-'.toNat
  · exact List.suffix_refl s
  · exact List.tail_suffix s

lemma readFraction_suffix (s : PyStr) : (readFraction s).2 <:+ s := by
  unfold readFraction
  cases s.head? == some '.'.toNat && s.tail.head?.any isDigit
  · exact List.suffix_refl s
  · exact (List.dropWhile_suffix _).trans (List.tail_suffix s)

lemma readExponent_suffix (s : PyStr) : (readExponent s).2 <:+ s := by
  have hsign : (readExponentSign s.tail).2 <:+ s.tail := by
    unfold readExponentSign
    cases s.tail.head?.any isExponentSign
    · exact List.suffix_refl _
    · exact List.tail_suffix _
  unfold readExponent
  dsimp only
  cases s.head?.any isExponentMark && (readExponentSign s.tail).2.head?.any isDigit
  · exact List.suffix_refl s
  · exact ((List.dropWhile_suffix _).trans hsign).trans (List.tail_suffix s)

/-- The digits of a number: a zero, or all that follow. -/
lemma readDigits_cases {digits : PyStr} (h : readDigits s = some (digits, rest)) :
    digits ≠ [] ∧ (∀ c ∈ digits, isDigit c = true) ∧ s = digits ++ rest := by
  unfold readDigits at h
  cases s with
  | nil => cases h
  | cons d s =>
      simp only [List.head?_cons, List.tail_cons] at h
      cases hzero : some d == some '0'.toNat with
      | true =>
          rw [hzero] at h
          cases h
          have hd : d = '0'.toNat := by simpa using hzero
          rw [hd]
          exact ⟨List.cons_ne_nil _ _, by decide, rfl⟩
      | false =>
          rw [hzero] at h
          cases hdigit : isDigit d with
          | true =>
              rw [Option.any_some, hdigit] at h
              cases h
              refine ⟨?_, fun c hc => List.mem_takeWhile_imp hc,
                List.takeWhile_append_dropWhile.symm⟩
              rw [List.takeWhile_cons_of_pos hdigit]
              exact List.cons_ne_nil _ _
          | false =>
              rw [Option.any_some, hdigit] at h
              cases h

lemma consumed_readNumber {n : NumberText} (h : readNumber s = some (n, rest)) :
    Consumed s rest := by
  obtain ⟨⟨digits, tail⟩, hdigits, h⟩ := Option.map_eq_some_iff.mp h
  cases h
  obtain ⟨hne, -, hsplit⟩ := readDigits_cases hdigits
  have hread : Consumed (readSign s).2 tail := by
    rw [hsplit]
    exact consumed_append _ hne
  exact (hread.before (readSign_suffix s)).after
    ((readExponent_suffix _).trans (readFraction_suffix tail))

/-- What is read when nothing is opened: a constant or a number. -/
lemma scanAtom_cases {value : Json} (h : scanAtom codec s = .ok (value, rest)) :
    readConstant s = some (value, rest) ∨
    ∃ n, readNumber s = some (n, rest) ∧ numberValue codec n = .ok value := by
  unfold scanAtom at h
  split at h
  next result hconstant =>
    cases h
    exact .inl hconstant
  next =>
    split at h
    next n tail hnumber =>
      obtain ⟨value', hvalue, hresult⟩ := map_eq_ok.mp h
      cases hresult
      exact .inr ⟨n, hnumber, hvalue⟩
    next => cases h

lemma consumed_scanAtom {value : Json} (h : scanAtom codec s = .ok (value, rest)) :
    Consumed s rest := by
  rcases scanAtom_cases h with hconstant | ⟨n, hnumber, -⟩
  · exact consumed_readConstant hconstant
  · exact consumed_readNumber hnumber

end Atoms

/-! What one step of the scanner can do. -/

section Steps

variable {fuel : ℕ}

/-- What a value can be: a string, an empty or a full array, an empty or a full object, or an atom.
-/
lemma scanValue_cases {value : Json} (h : scanValue codec (fuel + 1) s = .ok (value, rest)) :
    (∃ cs, scanText s = .ok (cs, rest) ∧ value = .str cs) ∨
    (∃ body items, body <:+ s.tail ∧ s.head? = some 91 ∧
      (items = [] ∧ Consumed body rest ∨ scanItems codec fuel body = .ok (items, rest)) ∧
      value = .arr items) ∨
    (∃ body members, body <:+ s.tail ∧ s.head? = some 123 ∧
      (members = [] ∧ Consumed body rest ∨ scanMembers codec fuel body = .ok (members, rest)) ∧
      value = .obj (PyDict.ofPairs members)) ∨
    scanAtom codec s = .ok (value, rest) := by
  rw [scanValue] at h
  dsimp only at h
  have hbody : skipSpace s.tail <:+ s.tail := skipSpace_suffix _
  split_ifs at h with hquote hbracket hempty hbrace hempty
  · obtain ⟨⟨cs, tail⟩, htext, h⟩ := map_eq_ok.mp h
    cases h
    exact .inl ⟨cs, htext, rfl⟩
  · cases h
    exact .inr (.inl ⟨_, [], hbody, hbracket, .inl ⟨rfl, consumed_tail hempty⟩, rfl⟩)
  · obtain ⟨⟨items, tail⟩, hscan, h⟩ := map_eq_ok.mp h
    cases h
    exact .inr (.inl ⟨_, items, hbody, hbracket, .inr hscan, rfl⟩)
  · cases h
    exact .inr (.inr (.inl ⟨_, [], hbody, hbrace, .inl ⟨rfl, consumed_tail hempty⟩, rfl⟩))
  · obtain ⟨⟨members, tail⟩, hscan, h⟩ := map_eq_ok.mp h
    cases h
    exact .inr (.inr (.inl ⟨_, members, hbody, hbrace, .inr hscan, rfl⟩))
  · exact .inr (.inr (.inr h))

/-- One item, and then the bracket or a comma and more items. -/
lemma scanItems_cases {items : List Json}
    (h : scanItems codec (fuel + 1) s = .ok (items, rest)) :
    ∃ item tail, scanValue codec fuel s = .ok (item, tail) ∧
      (items = [item] ∧ Consumed tail rest ∨
      ∃ tail' items', Consumed tail tail' ∧ scanItems codec fuel tail' = .ok (items', rest) ∧
        items = item :: items') := by
  rw [scanItems] at h
  obtain ⟨⟨item, tail⟩, hscan, h⟩ := bind_eq_ok.mp h
  dsimp only at h
  refine ⟨item, tail, hscan, ?_⟩
  split_ifs at h with hbracket hcomma
  · cases h
    exact .inl ⟨rfl, (consumed_tail hbracket).before (skipSpace_suffix tail)⟩
  · obtain ⟨⟨items', tail'⟩, hrest, h⟩ := bind_eq_ok.mp h
    cases h
    exact .inr ⟨_, items', ((consumed_tail hcomma).before (skipSpace_suffix tail)).after
      (skipSpace_suffix _), hrest, rfl⟩

/-- One member, and then the brace or a comma and more members. -/
lemma scanMembers_cases {members : List (PyStr × Json)}
    (h : scanMembers codec (fuel + 1) s = .ok (members, rest)) :
    ∃ key tail body value tail', scanText s = .ok (key, tail) ∧ Consumed tail body ∧
      scanValue codec fuel body = .ok (value, tail') ∧
      (members = [(key, value)] ∧ Consumed tail' rest ∨
      ∃ tail'' members', Consumed tail' tail'' ∧
        scanMembers codec fuel tail'' = .ok (members', rest) ∧
        members = (key, value) :: members') := by
  rw [scanMembers] at h
  obtain ⟨⟨key, tail⟩, hkey, h⟩ := bind_eq_ok.mp h
  dsimp only at h
  split_ifs at h with hcolon
  obtain ⟨⟨value, tail'⟩, hscan, h⟩ := bind_eq_ok.mp h
  dsimp only at h
  refine ⟨key, tail, _, value, tail', hkey, ((consumed_tail hcolon).before
    (skipSpace_suffix tail)).after (skipSpace_suffix _), hscan, ?_⟩
  split_ifs at h with hbrace hcomma
  · cases h
    exact .inl ⟨rfl, (consumed_tail hbrace).before (skipSpace_suffix tail')⟩
  · obtain ⟨⟨members', tail''⟩, hrest, h⟩ := bind_eq_ok.mp h
    cases h
    exact .inr ⟨_, members', ((consumed_tail hcomma).before (skipSpace_suffix tail')).after
      (skipSpace_suffix _), hrest, rfl⟩

end Steps

lemma scan_rest (fuel : ℕ) :
    (∀ {s rest value}, scanValue codec fuel s = .ok (value, rest) → Consumed s rest) ∧
    (∀ {s rest items}, scanItems codec fuel s = .ok (items, rest) → Consumed s rest) ∧
    ∀ {s rest members}, scanMembers codec fuel s = .ok (members, rest) → Consumed s rest := by
  induction fuel with
  | zero =>
      refine ⟨?_, ?_, ?_⟩ <;>
        · intro s rest value h
          cases h
  | succ fuel ih =>
      obtain ⟨hvalue, hitems, hmembers⟩ := ih
      refine ⟨?_, ?_, ?_⟩
      · intro s rest value h
        rcases scanValue_cases h with ⟨cs, htext, -⟩ | ⟨body, items, hbody, hhead, hscan, -⟩ |
          ⟨body, members, hbody, hhead, hscan, -⟩ | hatom
        · exact consumed_scanText htext
        · refine (consumed_tail hhead).trans (Consumed.before ?_ hbody)
          rcases hscan with ⟨-, hempty⟩ | hscan
          · exact hempty
          · exact hitems hscan
        · refine (consumed_tail hhead).trans (Consumed.before ?_ hbody)
          rcases hscan with ⟨-, hempty⟩ | hscan
          · exact hempty
          · exact hmembers hscan
        · exact consumed_scanAtom hatom
      · intro s rest items h
        obtain ⟨item, tail, hscan, ⟨-, hend⟩ | ⟨tail', items', hcomma, hrest, -⟩⟩ :=
          scanItems_cases h
        · exact (hvalue hscan).trans hend
        · exact (hvalue hscan).trans (hcomma.trans (hitems hrest))
      · intro s rest members h
        obtain ⟨key, tail, body, value, tail', hkey, hcolon, hscan, hend⟩ := scanMembers_cases h
        refine (consumed_scanText hkey).trans (hcolon.trans ((hvalue hscan).trans ?_))
        rcases hend with ⟨-, hend⟩ | ⟨tail'', members', hcomma, hrest, -⟩
        · exact hend
        · exact hcomma.trans (hmembers hrest)

/-- One more step of fuel changes nothing once there is enough. -/
lemma scan_fuel_succ (fuel : ℕ) :
    (∀ s, fuelFor s ≤ fuel → scanValue codec (fuel + 1) s = scanValue codec fuel s) ∧
    (∀ s, fuelFor s < fuel → scanItems codec (fuel + 1) s = scanItems codec fuel s) ∧
    ∀ s, fuelFor s < fuel → scanMembers codec (fuel + 1) s = scanMembers codec fuel s := by
  induction fuel with
  | zero =>
      refine ⟨?_, ?_, ?_⟩ <;>
        · intro s h
          simp [fuelFor] at h
  | succ fuel ih =>
      obtain ⟨hvalue, hitems, hmembers⟩ := ih
      unfold fuelFor at hvalue hitems hmembers ⊢
      have hnext : ∀ {t : PyStr} {c}, t.head? = some c →
          (skipSpace t.tail).length + 1 ≤ t.length := by
        intro t c hc
        exact ((consumed_tail hc).after (skipSpace_suffix _)).shorter
      refine ⟨?_, ?_, ?_⟩
      · intro s h
        rw [scanValue, scanValue]
        dsimp only
        split_ifs with hquote hbracket hempty hbrace hempty
        · rfl
        · rfl
        · have hlength := hnext hbracket
          rw [hitems _ (by omega)]
        · rfl
        · have hlength := hnext hbrace
          rw [hmembers _ (by omega)]
        · rfl
      · intro s h
        rw [scanItems, scanItems, hvalue s (by omega)]
        cases hscan : scanValue codec fuel s with
        | error e => rfl
        | ok result =>
            obtain ⟨item, tail⟩ := result
            have hlt := ((scan_rest fuel).1 hscan).shorter
            have hle := (skipSpace_suffix tail).length_le
            simp only [ok_bind]
            split_ifs with hbracket hcomma
            · rfl
            · have hlength := hnext hcomma
              rw [hitems _ (by omega)]
            · rfl
      · intro s h
        rw [scanMembers, scanMembers]
        cases hkey : scanText s with
        | error e => rfl
        | ok result =>
            obtain ⟨key, tail⟩ := result
            have hlt := (consumed_scanText hkey).shorter
            have hle := (skipSpace_suffix tail).length_le
            simp only [ok_bind]
            split_ifs with hcolon
            · have hafter := hnext hcolon
              rw [hvalue _ (by omega)]
              cases hscan : scanValue codec fuel (skipSpace (skipSpace tail).tail) with
              | error e => rfl
              | ok result =>
                  obtain ⟨value, tail'⟩ := result
                  have hmember := ((scan_rest fuel).1 hscan).shorter
                  have hle' := (skipSpace_suffix tail').length_le
                  simp only [ok_bind]
                  split_ifs with hbrace hcomma
                  · rfl
                  · have hlength := hnext hcomma
                    rw [hmembers _ (by omega)]
                  · rfl
            · rfl

/-- **The fuel of `loads` is enough**: more of it gives the same. -/
theorem scanValue_fuel_irrelevant {fuel : ℕ} (h : fuelFor s ≤ fuel) :
    scanValue codec fuel s = scanValue codec (fuelFor s) s := by
  induction fuel, h using Nat.le_induction with
  | base => rfl
  | succ fuel h ih => rw [(scan_fuel_succ fuel).1 s h, ih]

end Progress

end Json
