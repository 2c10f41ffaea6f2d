import Mathlib.Data.Nat.Digits.Defs
import Mathlib.Tactic.Common

/-!
# Records of bytes

The part of Python's `struct` module that reads fixed-width records in a given byte order and
without padding, and its inverse.

* `ByteOrder.value` and `ByteOrder.spell` — a row of bytes as a number, and back.
* `StructField` — one letter of a format; `unpackFrom` is `struct.unpack_from`.
* `pack` writes the values of a record; `unpackFrom_pack` reads them back wherever the record stands
  in the data.
-/

inductive ByteOrder
  | little
  | big
  deriving DecidableEq, Repr

namespace ByteOrder

/-- The number that a row of bytes denotes. -/
def value (order : ByteOrder) (bytes : List UInt8) : ℕ :=
  match order with
  | little => Nat.ofDigits 256 (bytes.map UInt8.toNat)
  | big => Nat.ofDigits 256 (bytes.reverse.map UInt8.toNat)

/-- The bytes of a number, least significant first. -/
def littleBytes : ℕ → ℕ → List UInt8
  | 0, _ => []
  | width + 1, n => UInt8.ofNat (n % 256) :: littleBytes width (n / 256)

/-- A number in `width` bytes. -/
def spell (order : ByteOrder) (width n : ℕ) : List UInt8 :=
  match order with
  | little => littleBytes width n
  | big => (littleBytes width n).reverse

@[simp] lemma length_littleBytes (width n : ℕ) : (littleBytes width n).length = width := by
  induction width generalizing n with
  | zero => rfl
  | succ width ih => simp [littleBytes, ih]

@[simp] lemma length_spell (order : ByteOrder) (width n : ℕ) :
    (order.spell width n).length = width := by
  cases order <;> simp [spell]

lemma ofDigits_littleBytes (width n : ℕ) (h : n < 256 ^ width) :
    Nat.ofDigits 256 ((littleBytes width n).map UInt8.toNat) = n := by
  induction width generalizing n with
  | zero =>
      have hzero : n = 0 := by simpa using h
      simp [littleBytes, hzero]
  | succ width ih =>
      have hbyte : (UInt8.ofNat (n % 256)).toNat = n % 256 := by simp
      have hrest : n / 256 < 256 ^ width := by
        rw [Nat.div_lt_iff_lt_mul (by decide), ← pow_succ]
        exact h
      rw [littleBytes, List.map_cons, Nat.ofDigits_cons, ih _ hrest, hbyte]
      exact Nat.mod_add_div n 256

/-- A number that fits its width is read back. -/
lemma value_spell (order : ByteOrder) {width n : ℕ} (h : n < 256 ^ width) :
    order.value (order.spell width n) = n := by
  cases order with
  | little => exact ofDigits_littleBytes width n h
  | big => simpa [value, spell] using ofDigits_littleBytes width n h

end ByteOrder

/-- The format characters: `16s` and the like, `H`, `I` and `Q`. -/
inductive StructField
  | s (length : ℕ)
  | H
  | I
  | Q
  deriving DecidableEq

inductive StructValue
  | bytes (value : List UInt8)
  | int (value : ℕ)
  deriving DecidableEq

/-- `struct.error`, or the `OverflowError` of an offset that is no `Py_ssize_t`. -/
inductive StructFailure
  | tooShort
  | overflow
  deriving DecidableEq

namespace StructField

def width : StructField → ℕ
  | s length => length
  | H => 2
  | I => 4
  | Q => 8

/-- `struct.calcsize` -/
def calcsize (format : List StructField) : ℕ := (format.map width).sum

def read (order : ByteOrder) (bytes : List UInt8) : StructField → StructValue
  | s _ => .bytes bytes
  | H | I | Q => .int (order.value bytes)

/-- The values of the fields at the start of the data. -/
def unpack (order : ByteOrder) : List StructField → List UInt8 → List StructValue
  | [], _ => []
  | field :: format, data =>
      field.read order (data.take field.width) :: unpack order format (data.drop field.width)

/-- `struct.unpack_from(format, data, offset)` -/
def unpackFrom (order : ByteOrder) (format : List StructField) (data : List UInt8) (offset : ℕ) :
    Except StructFailure (List StructValue) :=
  if offset + calcsize format ≤ data.length then .ok (unpack order format (data.drop offset))
  else if 2 ^ 63 ≤ offset then .error .overflow
  else .error .tooShort

/-- The field can hold the value. -/
def Admits : StructField → StructValue → Prop
  | s length, .bytes value => value.length = length
  | H, .int n => n < 256 ^ 2
  | I, .int n => n < 256 ^ 4
  | Q, .int n => n < 256 ^ 8
  | _, _ => False

instance : DecidableRel Admits
  | s length, .bytes value => inferInstanceAs (Decidable (value.length = length))
  | H, .int n => inferInstanceAs (Decidable (n < 256 ^ 2))
  | I, .int n => inferInstanceAs (Decidable (n < 256 ^ 4))
  | Q, .int n => inferInstanceAs (Decidable (n < 256 ^ 8))
  | s _, .int _ | H, .bytes _ | I, .bytes _ | Q, .bytes _ => inferInstanceAs (Decidable False)

def write (order : ByteOrder) (field : StructField) : StructValue → List UInt8
  | .bytes value => value
  | .int n => order.spell field.width n

/-- The record of the given values. -/
def pack (order : ByteOrder) : List StructField → List StructValue → List UInt8
  | field :: format, value :: values => field.write order value ++ pack order format values
  | _, _ => []

lemma length_write {order : ByteOrder} {field : StructField} {value : StructValue}
    (h : field.Admits value) : (field.write order value).length = field.width := by
  cases field <;> cases value <;> simp_all [Admits, write, width]

lemma read_write {order : ByteOrder} {field : StructField} {value : StructValue}
    (h : field.Admits value) : field.read order (field.write order value) = value := by
  cases field with
  | s length =>
      cases value with
      | bytes value => rfl
      | int n => exact absurd h id
  | H | I | Q =>
      cases value with
      | bytes value => exact absurd h id
      | int n => exact congrArg StructValue.int (order.value_spell h)

lemma length_pack {order : ByteOrder} {format : List StructField} {values : List StructValue}
    (h : List.Forall₂ Admits format values) :
    (pack order format values).length = calcsize format := by
  induction h with
  | nil => rfl
  | cons hfield _ ih => simp [pack, length_write hfield, ih, calcsize]

lemma unpack_pack {order : ByteOrder} {format : List StructField} {values : List StructValue}
    (h : List.Forall₂ Admits format values) (rest : List UInt8) :
    unpack order format (pack order format values ++ rest) = values := by
  induction h with
  | nil => rfl
  | cons hfield _ ih =>
      rw [pack, unpack, List.append_assoc, List.take_left' (length_write hfield),
        List.drop_left' (length_write hfield), read_write hfield, ih]

/-- **A record is read where it stands.** -/
theorem unpackFrom_pack {order : ByteOrder} {format : List StructField} {values : List StructValue}
    {data : List UInt8} {offset : ℕ} (h : List.Forall₂ Admits format values)
    (hat : pack order format values <+: data.drop offset) (hsize : 0 < calcsize format) :
    unpackFrom order format data offset = .ok values := by
  obtain ⟨rest, hrest⟩ := hat
  have hlength := congrArg List.length hrest
  rw [List.length_append, length_pack h, List.length_drop] at hlength
  rw [unpackFrom, if_pos (by omega), ← hrest, unpack_pack h]

end StructField
