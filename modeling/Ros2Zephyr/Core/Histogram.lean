import Mathlib.Algebra.BigOperators.Group.List.Basic
import Mathlib.Algebra.Order.BigOperators.Group.List
import Mathlib.Algebra.Order.Group.Nat
import Mathlib.Algebra.Ring.Nat
import Mathlib.Data.List.GetD

/-!
# Histograms and ranks

A histogram is the list of the counts of its buckets.

* `IsRank counts rank i` — `i` is the first bucket at which the running total reaches `rank`.
* `Highest counts i` — `i` is the last bucket that is not empty.
* `bump counts i` — one more in bucket `i`.

A rank that the histogram has is found no later than its last non-empty bucket, and a larger rank is
found no earlier.
-/

namespace Histogram

variable {counts : List ℕ} {rank rank' i j : ℕ}

/-- The total of the buckets up to and including `i`. -/
def cumulative (counts : List ℕ) (i : ℕ) : ℕ := (counts.take (i + 1)).sum

/-- `i` is the least bucket with a cumulative count of at least `rank`. -/
def IsRank (counts : List ℕ) (rank i : ℕ) : Prop :=
  i < counts.length ∧ rank ≤ cumulative counts i ∧ ∀ j < i, cumulative counts j < rank

/-- The last bucket that is not empty. -/
def Highest (counts : List ℕ) (i : ℕ) : Prop :=
  0 < counts.getD i 0 ∧ ∀ j, i < j → counts.getD j 0 = 0

def bump (counts : List ℕ) (i : ℕ) : List ℕ := counts.set i (counts.getD i 0 + 1)

/-! ## Ranks -/

lemma cumulative_cons_zero (count : ℕ) (counts : List ℕ) :
    cumulative (count :: counts) 0 = count := by
  simp [cumulative]

lemma cumulative_cons_succ (count : ℕ) (counts : List ℕ) (i : ℕ) :
    cumulative (count :: counts) (i + 1) = count + cumulative counts i := by
  simp [cumulative]

/-- A larger rank is found no earlier. -/
lemma IsRank.mono (h : IsRank counts rank i) (h' : IsRank counts rank' j) (hle : rank ≤ rank') :
    i ≤ j := by
  by_contra hlt
  have hearlier := h.2.2 j (not_le.mp hlt)
  exact absurd (h'.2.1.trans_lt hearlier) (not_lt.mpr hle)

/-! ## The last bucket -/

lemma lt_length_of_getD_pos (h : 0 < counts.getD i 0) : i < counts.length := by
  by_contra hlt
  rw [List.getD_eq_default _ _ (not_lt.mp hlt)] at h
  exact absurd h (lt_irrefl 0)

/-- Nothing is left behind the last bucket. -/
lemma Highest.cumulative_eq (h : Highest counts i) : cumulative counts i = counts.sum := by
  have hrest : (counts.drop (i + 1)).sum = 0 := by
    refine List.sum_eq_zero fun x hx => ?_
    obtain ⟨k, hk, rfl⟩ := List.mem_iff_getElem.mp hx
    have hzero := h.2 (i + 1 + k) (by omega)
    rw [List.getElem_drop]
    rw [List.length_drop] at hk
    rwa [List.getD_eq_getElem _ _ (by omega)] at hzero
  have hsplit := List.sum_take_add_sum_drop counts (i + 1)
  rw [hrest] at hsplit
  exact hsplit

/-- A rank within the total is found no later than the last bucket. -/
lemma IsRank.le_highest (h : IsRank counts rank i) (hlast : Highest counts j)
    (hrank : rank ≤ counts.sum) : i ≤ j := by
  refine h.mono ⟨lt_length_of_getD_pos hlast.1, ?_, ?_⟩ hrank
  · exact hlast.cumulative_eq.ge
  · intro k hk
    have hsplit := List.sum_take_add_sum_drop counts (k + 1)
    have hpos : 0 < (counts.drop (k + 1)).sum := by
      have hlength := lt_length_of_getD_pos hlast.1
      have hmem : counts.getD j 0 ∈ counts.drop (k + 1) := by
        rw [List.mem_iff_getElem]
        refine ⟨j - (k + 1), by rw [List.length_drop]; omega, ?_⟩
        rw [List.getElem_drop, List.getD_eq_getElem _ _ hlength]
        congr 1
        omega
      exact hlast.1.trans_le (List.le_sum_of_mem hmem)
    rw [cumulative]
    omega

/-! ## One more entry -/

lemma getD_bump (hi : i < counts.length) (j : ℕ) :
    (bump counts i).getD j 0 = counts.getD j 0 + if i = j then 1 else 0 := by
  unfold bump
  by_cases hij : i = j
  · subst hij
    rw [if_pos rfl, List.getD_eq_getElem _ _ (by rwa [List.length_set]), List.getElem_set_self]
  · rw [if_neg hij, List.getD_eq_getElem?_getD, List.getElem?_set_ne hij,
      ← List.getD_eq_getElem?_getD, add_zero]

lemma sum_bump (hi : i < counts.length) : (bump counts i).sum = counts.sum + 1 := by
  rw [bump, List.sum_set, if_pos hi, List.getD_eq_getElem _ _ hi]
  have hsplit := List.sum_take_add_sum_drop counts i
  rw [List.drop_eq_getElem_cons hi, List.sum_cons] at hsplit
  omega

/-- An entry above the last bucket becomes the last one. -/
lemma Highest.bump (h : Highest counts i) (hj : j < counts.length) :
    Highest (bump counts j) (max i j) := by
  constructor
  · rw [getD_bump hj]
    rcases le_total i j with hij | hij
    · rw [max_eq_right hij, if_pos rfl]
      omega
    · rw [max_eq_left hij]
      exact Nat.add_pos_left h.1 _
  · intro k hk
    rw [getD_bump hj, h.2 k ((le_max_left i j).trans_lt hk),
      if_neg ((le_max_right i j).trans_lt hk).ne]

lemma highest_bump_of_empty (h : counts.sum = 0) (hj : j < counts.length) :
    Highest (bump counts j) j := by
  have hzero : ∀ k, counts.getD k 0 = 0 := by
    intro k
    by_contra hne
    have hlength := lt_length_of_getD_pos (Nat.pos_of_ne_zero hne)
    rw [List.getD_eq_getElem _ _ hlength] at hne
    exact hne (List.sum_eq_zero_iff.mp h _ (List.getElem_mem hlength))
  constructor
  · rw [getD_bump hj, if_pos rfl]
    omega
  · intro k hk
    rw [getD_bump hj, hzero, if_neg hk.ne]

end Histogram
