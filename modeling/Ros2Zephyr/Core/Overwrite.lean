import Mathlib.Data.List.Basic
import Mathlib.Tactic.Common

/-!
# Arrays of fixed length and writes into them

* `Cells α size` — the contents of an array of `size` cells.
* `Cells.write cells i bytes` — the array after `bytes` were written from cell `i` on; there is none
  if they do not fit.

A write is seen through the cells before some index: `take_overwrite_of_le` says what is before it
and `take_overwrite` what is up to its end.
-/

/-- The contents of an array. -/
abbrev Cells (α : Type*) (size : ℕ) := { cells : List α // cells.length = size }

namespace Cells

variable {α : Type*} {size i j : ℕ} {cells bytes : List α}

def overwrite (cells : List α) (i : ℕ) (bytes : List α) : List α :=
  cells.take i ++ (bytes ++ cells.drop (i + bytes.length))

lemma length_overwrite (h : i + bytes.length ≤ cells.length) :
    (overwrite cells i bytes).length = cells.length := by
  simp only [overwrite, List.length_append, List.length_take, List.length_drop]
  omega

lemma take_overwrite_of_le (h : i ≤ cells.length) (hj : j ≤ i) :
    (overwrite cells i bytes).take j = cells.take j := by
  have hlength : (cells.take i).length = i := List.length_take_of_le h
  rw [overwrite, List.take_append_of_le_length (by omega), List.take_take, Nat.min_eq_left hj]

/-- Up to some byte of a write. -/
lemma take_overwrite_append (h : i ≤ cells.length) (rest : List α) :
    (overwrite cells i (bytes ++ rest)).take (i + bytes.length) = cells.take i ++ bytes := by
  rw [overwrite, List.append_assoc, ← List.append_assoc]
  refine List.take_left' ?_
  rw [List.length_append, List.length_take_of_le h]

lemma take_overwrite (h : i ≤ cells.length) :
    (overwrite cells i bytes).take (i + bytes.length) = cells.take i ++ bytes := by
  have hall : (overwrite cells i (bytes ++ [])).take (i + bytes.length) = cells.take i ++ bytes :=
    take_overwrite_append h []
  rwa [List.append_nil] at hall

lemma getElem?_overwrite_last (h : i ≤ cells.length) (a : α) :
    (overwrite cells i (bytes ++ [a]))[i + bytes.length]? = some a := by
  have hlength : (cells.take i).length = i := List.length_take_of_le h
  rw [overwrite, List.getElem?_append_right (by omega), hlength, Nat.add_sub_cancel_left,
    List.append_assoc, List.getElem?_append_right (Nat.le_refl _), Nat.sub_self]
  rfl

lemma length_overwrite_val (cells : Cells α size) (h : i + bytes.length ≤ size) :
    (overwrite cells.val i bytes).length = size := by
  rw [length_overwrite (cells.prop.symm ▸ h), cells.prop]

def write (cells : Cells α size) (i : ℕ) (bytes : List α) : Option (Cells α size) :=
  if h : i + bytes.length ≤ size then
    some ⟨overwrite cells.val i bytes, length_overwrite_val cells h⟩
  else none

lemma exists_write (cells : Cells α size) (h : i + bytes.length ≤ size) :
    ∃ cells', cells.write i bytes = some cells' ∧ cells'.val = overwrite cells.val i bytes :=
  ⟨_, dif_pos h, rfl⟩

end Cells
