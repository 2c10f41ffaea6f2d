import Mathlib.Data.List.Sort
import Ros2Zephyr.Core.Json

/-!
# Printing JSON

`json.dumps(value, indent=2, sort_keys=True)` of Python.  Whatever the value contains, the text is
ASCII (`ascii_dumps`): everything else is written as an escape, surrogates included.

The decimal spelling of a finite float is not fixed here; `FloatRepr` is any spelling in ASCII.
-/

/-- A spelling of the finite floats, such as that of `float.__repr__`. -/
structure FloatRepr where
  text : ℚ → PyStr
  ascii : ∀ q, ∀ c ∈ text q, c < 128

namespace Json

section Strings

def hexDigit (n : ℕ) : ℕ := if n < 10 then '0'.toNat + n else 'a'.toNat + (n - 10)

/-- A code unit as `\uXXXX`. -/
def unicodeEscape (c : ℕ) : PyStr :=
  "\\u" ++
    [hexDigit (c / 4096 % 16), hexDigit (c / 256 % 16), hexDigit (c / 16 % 16), hexDigit (c % 16)]

/-- A character of a string; those beyond the basic plane are written as two surrogates. -/
def escapeChar (c : ℕ) : PyStr :=
  if c = 34 then "\\\""
  else if c = 92 then "\\\\"
  else if c = 10 then "\\n"
  else if c = 13 then "\\r"
  else if c = 9 then "\\t"
  else if c = 12 then "\\f"
  else if c = 8 then "\\b"
  else if 32 ≤ c ∧ c ≤ 126 then [c]
  else if c < 0x10000 then unicodeEscape c
  else
    unicodeEscape (0xD800 + (c - 0x10000) / 1024 % 1024)
      ++ unicodeEscape (0xDC00 + (c - 0x10000) % 1024)

def quoted (s : PyStr) : PyStr :=
  "\"" ++ (s.flatMap escapeChar ++ "\"")

end Strings

section Layout

/-- A line break, and the indentation of the next line. -/
def newline (level : ℕ) : PyStr := 10 :: List.replicate (2 * level) 32

/-- The items of an array or object, one on a line. -/
def bracketed (left right : PyStr) (level : ℕ) (items : List PyStr) : PyStr :=
  if items = [] then left ++ right
  else
    left ++ (newline (level + 1) ++
      (List.intercalate (PyStr.ofString "," ++ newline (level + 1)) items ++
        (newline level ++ right)))

variable (floats : FloatRepr)

mutual

/-- `json.dumps(value, indent=2, sort_keys=True)`, at a level of indentation. -/
def dumps (level : ℕ) : Json → PyStr
  | null => "null"
  | bool b => if b then "true" else "false"
  | int n => PyStr.ofInt n
  | float (.finite q) => floats.text q
  | float .infinity => "Infinity"
  | float .negInfinity => "-Infinity"
  | float .nan => "NaN"
  | str s => quoted s
  | arr items => bracketed "[" "]" level (dumpsItems (level + 1) items)
  | obj fields =>
      bracketed "\x7b" "\x7d" level
        (((dumpsFields (level + 1) fields).insertionSort fun a b => a.1 ≤ b.1).map Prod.snd)

def dumpsItems (level : ℕ) : List Json → List PyStr
  | [] => []
  | item :: items => dumps level item :: dumpsItems level items

/-- The members with their keys, which decide their order. -/
def dumpsFields (level : ℕ) : List (PyStr × Json) → List (PyStr × PyStr)
  | [] => []
  | (key, value) :: fields =>
      (key, quoted key ++ (": " ++ dumps level value)) :: dumpsFields level fields

end

end Layout

section Ascii

/-- Nothing but ASCII. -/
def Ascii (s : PyStr) : Prop := ∀ c ∈ s, c < 128

instance : DecidablePred Ascii := fun s => inferInstanceAs (Decidable (∀ c ∈ s, c < 128))

@[simp] lemma ascii_append {s t : PyStr} : Ascii (s ++ t) ↔ Ascii s ∧ Ascii t :=
  List.forall_mem_append

lemma hexDigit_lt {n : ℕ} (h : n < 16) : hexDigit n < 128 := by
  unfold hexDigit
  split
  · exact Nat.lt_of_le_of_lt (Nat.add_le_add_left (Nat.le_of_lt_succ h) _) (by decide)
  · exact Nat.lt_of_le_of_lt
      (Nat.add_le_add_left (Nat.sub_le_sub_right (Nat.le_of_lt_succ h) 10) _) (by decide)

lemma ascii_unicodeEscape (c : ℕ) : Ascii (unicodeEscape c) := by
  have hdigit : ∀ n, hexDigit (n % 16) < 128 := fun n => hexDigit_lt (Nat.mod_lt n (by decide))
  rw [unicodeEscape, ascii_append]
  refine ⟨by decide, ?_⟩
  simp only [Ascii, List.forall_mem_cons, hdigit, true_and, List.not_mem_nil, false_implies,
    implies_true]

/-- What is written for a character is ASCII. -/
lemma ascii_escapeChar (c : ℕ) : Ascii (escapeChar c) := by
  unfold escapeChar
  split_ifs with h₁ h₂ h₃ h₄ h₅ h₆ h₇ hplain hbasic
  · decide
  · decide
  · decide
  · decide
  · decide
  · decide
  · decide
  · rintro d hd
    rw [List.mem_singleton.mp hd]
    exact hplain.2.trans_lt (by decide)
  · exact ascii_unicodeEscape c
  · rw [ascii_append]
    exact ⟨ascii_unicodeEscape _, ascii_unicodeEscape _⟩

lemma ascii_quoted (s : PyStr) : Ascii (quoted s) := by
  rw [quoted, ascii_append, ascii_append]
  refine ⟨by decide, ?_, by decide⟩
  intro c hc
  obtain ⟨d, -, hd⟩ := List.mem_flatMap.mp hc
  exact ascii_escapeChar d c hd

lemma ascii_newline (level : ℕ) : Ascii (newline level) := by
  intro c hc
  rcases List.mem_cons.mp hc with rfl | hc
  · decide
  · rw [List.eq_of_mem_replicate hc]
    decide

lemma ascii_bracketed {left right : PyStr} {level : ℕ} {items : List PyStr} (hleft : Ascii left)
    (hright : Ascii right) (hitems : ∀ s ∈ items, Ascii s) :
    Ascii (bracketed left right level items) := by
  unfold bracketed
  split
  · exact ascii_append.mpr ⟨hleft, hright⟩
  · simp only [ascii_append]
    refine ⟨hleft, ascii_newline _, ?_, ascii_newline _, hright⟩
    exact (PyStr.forall_mem_intercalate (ascii_append.mpr ⟨by decide, ascii_newline _⟩)).mpr hitems

lemma ascii_ofInt (n : ℤ) : Ascii (PyStr.ofInt n) := by
  have hnat : ∀ m, Ascii (PyStr.ofNat m) := by
    intro m c hc
    have hdigit := PyStr.isDigit_of_mem_ofNat hc
    simp only [PyStr.isDigit, PyStr.inRange, Bool.and_eq_true, decide_eq_true_eq] at hdigit
    exact hdigit.2.trans_lt (by decide)
  cases n with
  | ofNat m => exact hnat m
  | negSucc m =>
      intro c hc
      rcases List.mem_cons.mp hc with rfl | hc
      · decide
      · exact hnat (m + 1) c hc

variable (floats : FloatRepr)

mutual

/-- **The text of a document is ASCII.** -/
theorem ascii_dumps (level : ℕ) : (value : Json) → Ascii (dumps floats level value)
  | null => by rw [dumps]; decide
  | bool b => by
      rw [dumps]
      cases b <;> decide
  | int n => by
      rw [dumps]
      exact ascii_ofInt n
  | float (.finite q) => by
      rw [dumps]
      exact floats.ascii q
  | float .infinity => by rw [dumps]; decide
  | float .negInfinity => by rw [dumps]; decide
  | float .nan => by rw [dumps]; decide
  | str s => by
      rw [dumps]
      exact ascii_quoted s
  | arr items => by
      rw [dumps]
      exact ascii_bracketed (by decide) (by decide) (ascii_dumpsItems (level + 1) items)
  | obj fields => by
      rw [dumps]
      refine ascii_bracketed (by decide) (by decide) fun s hs => ?_
      obtain ⟨field, hfield, rfl⟩ := List.mem_map.mp hs
      exact ascii_dumpsFields (level + 1) fields field ((List.mem_insertionSort _).mp hfield)

theorem ascii_dumpsItems (level : ℕ) :
    (items : List Json) → ∀ s ∈ dumpsItems floats level items, Ascii s
  | [] => by
      intro s hs
      cases hs
  | item :: items => by
      rw [dumpsItems, List.forall_mem_cons]
      exact ⟨ascii_dumps level item, ascii_dumpsItems level items⟩

theorem ascii_dumpsFields (level : ℕ) :
    (fields : List (PyStr × Json)) → ∀ field ∈ dumpsFields floats level fields, Ascii field.2
  | [] => by
      intro s hs
      cases hs
  | (key, value) :: fields => by
      rw [dumpsFields, List.forall_mem_cons]
      refine ⟨?_, ascii_dumpsFields level fields⟩
      simp only [ascii_append]
      exact ⟨ascii_quoted key, by decide, ascii_dumps level value⟩

end

end Ascii

end Json
