import Mathlib.Data.List.Infix
import Mathlib.Tactic.Common

/-!
# Lines of a stream, and searching in it

A separator cuts a stream into lines: those that it ends, and the rest behind the last one.

* `terminated sep s`, `lastLine sep s` — the two parts of `s.splitOn sep`.
* `induction_lines` — what holds without a separator and is kept by one more line in front holds of
  every stream.
* `terminated_append`, `lastLine_append` — of what came before, only the unfinished line counts.
* `find needle s` — the index of the first occurrence.
-/

namespace Lines

variable {α : Type*} [DecidableEq α] {sep : α} {s t u v : List α}

def terminated (sep : α) (s : List α) : List (List α) := (s.splitOn sep).dropLast

def lastLine (sep : α) (s : List α) : List α := (s.splitOn sep).getLastD []

theorem induction_lines {motive : List α → Prop} (sep : α) (s : List α)
    (last : ∀ s, sep ∉ s → motive s)
    (line : ∀ u v, sep ∉ u → motive v → motive (u ++ sep :: v)) : motive s := by
  induction hlength : s.length using Nat.strong_induction_on generalizing s with
  | _ n ih =>
      by_cases hmem : sep ∈ s
      · obtain ⟨u, v, rfl, hu⟩ := List.eq_append_cons_of_mem hmem
        have hshorter : v.length < n := by
          rw [← hlength, List.length_append, List.length_cons]
          omega
        exact line u v hu (ih v.length hshorter v rfl)
      · exact last s hmem

/-! ## The parts of a stream

Everything about a stream that is cut somewhere comes from two equations: the finished lines of both
parts are those of the first, and those that the second part finishes or holds.
-/

lemma terminated_of_not_mem (h : sep ∉ s) : terminated sep s = [] := by
  rw [terminated, List.splitOn_eq_singleton h]
  rfl

lemma lastLine_of_not_mem (h : sep ∉ s) : lastLine sep s = s := by
  rw [lastLine, List.splitOn_eq_singleton h]
  rfl

lemma splitOn_eq (sep : α) (s : List α) : s.splitOn sep = terminated sep s ++ [lastLine sep s] := by
  rw [terminated, lastLine, List.getLastD_eq_getLast?,
    List.getLast?_eq_some_getLast (List.splitOn_ne_nil sep s), Option.getD_some,
    List.dropLast_concat_getLast]

lemma terminated_append_cons (u v : List α) :
    terminated sep (u ++ sep :: v) = u.splitOn sep ++ terminated sep v := by
  rw [terminated, List.splitOn_append_cons_self,
    List.dropLast_append_of_ne_nil (List.splitOn_ne_nil sep v), terminated]

lemma lastLine_append_cons (u v : List α) : lastLine sep (u ++ sep :: v) = lastLine sep v := by
  rw [lastLine, lastLine, List.splitOn_append_cons_self, List.getLastD_eq_getLast?,
    List.getLastD_eq_getLast?, List.getLast?_append_of_ne_nil _ (List.splitOn_ne_nil sep v)]

lemma terminated_line (hu : sep ∉ u) (v : List α) :
    terminated sep (u ++ sep :: v) = u :: terminated sep v := by
  rw [terminated_append_cons, List.splitOn_eq_singleton hu, List.singleton_append]

lemma sep_not_mem_lastLine (sep : α) (s : List α) : sep ∉ lastLine sep s := by
  induction s using induction_lines sep with
  | last s h => rwa [lastLine_of_not_mem h]
  | line u v _ ih => rwa [lastLine_append_cons]

lemma terminated_append (s t : List α) :
    terminated sep (s ++ t) = terminated sep s ++ terminated sep (lastLine sep s ++ t) := by
  induction s using induction_lines sep with
  | last s h => rw [terminated_of_not_mem h, lastLine_of_not_mem h, List.nil_append]
  | line u v hu ih =>
      rw [List.append_assoc, List.cons_append, terminated_line hu, terminated_line hu,
        lastLine_append_cons, ih, List.cons_append]

lemma lastLine_append (s t : List α) :
    lastLine sep (s ++ t) = lastLine sep (lastLine sep s ++ t) := by
  induction s using induction_lines sep with
  | last s h => rw [lastLine_of_not_mem h]
  | line u v _ ih =>
      rw [List.append_assoc, List.cons_append, lastLine_append_cons, lastLine_append_cons, ih]

lemma exists_of_mem_terminated {l : List α} (h : l ∈ terminated sep s) :
    ∃ a b, s = a ++ (l ++ sep :: b) := by
  induction s using induction_lines sep with
  | last s hs =>
      rw [terminated_of_not_mem hs] at h
      cases h
  | line u v hu ih =>
      rw [terminated_line hu] at h
      rcases List.mem_cons.mp h with rfl | hrest
      · exact ⟨[], v, rfl⟩
      · obtain ⟨a, b, rfl⟩ := ih hrest
        exact ⟨u ++ sep :: a, b, by simp⟩

/-- Without its beginning, as long as the unfinished line stays whole. -/
lemma lastLine_drop {k : ℕ} (h : k + (lastLine sep s).length ≤ s.length) :
    lastLine sep (s.drop k) = lastLine sep s := by
  induction s using induction_lines sep generalizing k with
  | last s hs =>
      rw [lastLine_of_not_mem hs] at h
      rw [show k = 0 by omega, List.drop_zero]
  | line u v _ ih =>
      rw [lastLine_append_cons] at h ⊢
      by_cases hk : k ≤ u.length
      · rw [List.drop_append_of_le_length hk, lastLine_append_cons]
      · have hdrop : (u ++ sep :: v).drop k = v.drop (k - u.length - 1) := by
          rw [List.drop_append, List.drop_eq_nil_of_le (by omega), List.nil_append,
            show k - u.length = (k - u.length - 1) + 1 by omega, List.drop_succ_cons,
            Nat.add_sub_cancel]
        rw [hdrop]
        refine ih ?_
        rw [List.length_append, List.length_cons] at h
        omega

/-- What is unfinished now is the beginning of a line later. -/
lemma exists_line_of_lastLine (s t : List α) :
    ∃ l ∈ (s ++ t).splitOn sep, lastLine sep s <+: l := by
  have hrest := sep_not_mem_lastLine sep s
  have hlines : ∀ l ∈ (lastLine sep s ++ t).splitOn sep, l ∈ (s ++ t).splitOn sep := by
    intro l hl
    rw [splitOn_eq] at hl ⊢
    rw [terminated_append, lastLine_append, List.append_assoc]
    exact List.mem_append_right _ hl
  by_cases hmem : sep ∈ t
  · obtain ⟨a, b, rfl, ha⟩ := List.eq_append_cons_of_mem hmem
    refine ⟨lastLine sep s ++ a, hlines _ ?_, List.prefix_append _ _⟩
    have hline : sep ∉ lastLine sep s ++ a := by simp [hrest, ha]
    rw [← List.append_assoc, splitOn_eq, terminated_line hline]
    exact List.mem_cons_self
  · refine ⟨lastLine sep s ++ t, hlines _ ?_, List.prefix_append _ _⟩
    have hline : sep ∉ lastLine sep s ++ t := by simp [hrest, hmem]
    rw [List.splitOn_eq_singleton hline]
    exact List.mem_singleton_self _

/-! ## Searching

`str.find`, by what it returns: the first place, or that there is none.
-/

/-- The index of the first occurrence of a text. -/
def find (needle : List α) : List α → Option ℕ
  | [] => if needle = [] then some 0 else none
  | x :: rest => if needle.isPrefixOf (x :: rest) then some 0 else (find needle rest).map (· + 1)

/-- The text stands at the index, and nowhere before it. -/
lemma find_eq_some {needle hay : List α} {i : ℕ} (h : find needle hay = some i) :
    ∃ x y, hay = x ++ (needle ++ y) ∧ x.length = i ∧
      ∀ x' y', hay = x' ++ (needle ++ y') → i ≤ x'.length := by
  induction hay generalizing i with
  | nil =>
      rw [find] at h
      split_ifs at h with hneedle
      cases h
      exact ⟨[], [], by simp [hneedle], rfl, fun _ _ _ => Nat.zero_le _⟩
  | cons c rest ih =>
      rw [find] at h
      split_ifs at h with hstart
      · cases h
        obtain ⟨y, hy⟩ := List.isPrefixOf_iff_prefix.mp hstart
        exact ⟨[], y, hy.symm, rfl, fun _ _ _ => Nat.zero_le _⟩
      · obtain ⟨j, hj, rfl⟩ := Option.map_eq_some_iff.mp h
        obtain ⟨x, y, rfl, hx, hfirst⟩ := ih hj
        refine ⟨c :: x, y, rfl, by rw [List.length_cons, hx], ?_⟩
        intro x' y' heq
        cases x' with
        | nil => exact absurd (List.isPrefixOf_iff_prefix.mpr ⟨y', heq.symm⟩) hstart
        | cons d x' =>
            rw [List.cons_append, List.cons.injEq] at heq
            exact Nat.succ_le_succ (hfirst x' y' heq.2)

lemma find_eq_none {needle hay : List α} (h : find needle hay = none) (x y : List α) :
    hay ≠ x ++ (needle ++ y) := by
  induction hay generalizing x with
  | nil =>
      rw [find] at h
      split_ifs at h with hneedle
      intro heq
      obtain ⟨-, hrest⟩ := List.append_eq_nil_iff.mp heq.symm
      exact hneedle (List.append_eq_nil_iff.mp hrest).1
  | cons c rest ih =>
      rw [find] at h
      split_ifs at h with hstart
      intro heq
      cases x with
      | nil => exact hstart (List.isPrefixOf_iff_prefix.mpr ⟨y, heq.symm⟩)
      | cons d x =>
          rw [List.cons_append, List.cons.injEq] at heq
          exact ih (Option.map_eq_none_iff.mp h) x heq.2

/-- The place of an occurrence before which there is none. -/
lemma find_eq_length {needle x y : List α}
    (h : ∀ x' y', x ++ (needle ++ y) = x' ++ (needle ++ y') → x.length ≤ x'.length) :
    find needle (x ++ (needle ++ y)) = some x.length := by
  cases hfind : find needle (x ++ (needle ++ y)) with
  | none => exact absurd rfl (find_eq_none hfind x y)
  | some i =>
      obtain ⟨x', y', heq, hx', hfirst⟩ := find_eq_some hfind
      have hle := hfirst x y rfl
      have hge := h x' y' heq
      rw [Option.some.injEq]
      omega

/-- A longer text is first where a shorter one at its start is first, if it stands there. -/
lemma find_extend {needle x y : List α} (more : List α)
    (h : find needle (x ++ (needle ++ (more ++ y))) = some x.length) :
    find (needle ++ more) (x ++ (needle ++ (more ++ y))) = some x.length := by
  obtain ⟨-, -, -, -, hfirst⟩ := find_eq_some h
  rw [← List.append_assoc needle]
  refine find_eq_length fun x' y' heq => hfirst x' (more ++ y') ?_
  simpa only [List.append_assoc] using heq

lemma find_sep_eq_some {hay : List α} {i : ℕ} (h : find [sep] hay = some i) :
    ∃ x y, hay = x ++ sep :: y ∧ x.length = i ∧ sep ∉ x := by
  obtain ⟨x, y, rfl, hx, hfirst⟩ := find_eq_some h
  refine ⟨x, y, rfl, hx, fun hmem => ?_⟩
  obtain ⟨a, b, rfl⟩ := List.append_of_mem hmem
  have hle := hfirst a (b ++ sep :: y) (by simp)
  rw [← hx, List.length_append, List.length_cons] at hle
  omega

lemma find_sep_eq_none {hay : List α} (h : find [sep] hay = none) : sep ∉ hay := by
  intro hmem
  obtain ⟨a, b, heq⟩ := List.append_of_mem hmem
  exact find_eq_none h a b heq

/-- `needle in hay` -/
lemma find_isSome_iff {needle hay : List α} : (find needle hay).isSome ↔ needle <:+: hay := by
  constructor
  · intro h
    obtain ⟨i, hi⟩ := Option.isSome_iff_exists.mp h
    obtain ⟨x, y, heq, -, -⟩ := find_eq_some hi
    exact ⟨x, y, by rw [heq, List.append_assoc]⟩
  · rintro ⟨x, y, heq⟩
    by_contra hnone
    rw [Bool.not_eq_true, Option.isSome_eq_false_iff, Option.isNone_iff_eq_none] at hnone
    exact find_eq_none hnone x y (by rw [← heq, List.append_assoc])

end Lines
