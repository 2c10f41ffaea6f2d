import Mathlib.Data.List.Chain
import Mathlib.Algebra.Order.Group.Int
import Mathlib.Tactic.Linarith

/-!
# Work that is due again after a period

A loop looks at the clock at some times.  When the time `next` has come, the work is done and is due
again a period later.

* `fires` — the times at which the work is done.
* `isChain_fires` — two of them are a period apart, and less than the longest turn more.
* `exists_fires` — at no look at the clock is the last of them a period ago.
-/

namespace Periodic

/-- The times at which the work is done, of the times at which the loop looks at the clock. -/
def fires (period : ℤ) : ℤ → List ℤ → List ℤ
  | _, [] => []
  | next, t :: ts => if next ≤ t then t :: fires period (t + period) ts else fires period next ts

variable {period turn : ℤ}

/-- The first time at which work is done that was due after the last look at the clock. -/
lemma head_fires {next last : ℤ} {ts : List ℤ} (hlast : last < next)
    (hturns : (last :: ts).IsChain fun a b => b ≤ a + turn) :
    ∀ t ∈ (fires period next ts).head?, next ≤ t ∧ t < next + turn := by
  induction ts generalizing last with
  | nil => simp [fires]
  | cons t ts ih =>
      rw [List.isChain_cons_cons] at hturns
      rw [fires]
      split
      · next hdue =>
          rintro _ ⟨⟩
          exact ⟨hdue, by linarith [hturns.1]⟩
      · next hdue => exact ih (not_le.mp hdue) hturns.2

/-- **The times are a period apart**, and less than the longest turn of the loop more. -/
theorem isChain_fires (hperiod : 0 < period) {next : ℤ} {ts : List ℤ}
    (hturns : ts.IsChain fun a b => b ≤ a + turn) :
    (fires period next ts).IsChain fun a b => a + period ≤ b ∧ b < a + period + turn := by
  induction ts generalizing next with
  | nil => exact .nil
  | cons t ts ih =>
      rw [fires]
      split
      · rw [List.isChain_cons]
        exact ⟨head_fires (by linarith) hturns, ih hturns.tail⟩
      · exact ih hturns.tail

/-- **No work is left out**: at every look at the clock the work was either not yet due for the
first time, or was done less than a period ago. -/
theorem exists_fires (hperiod : 0 < period) {next : ℤ} {ts : List ℤ}
    (hclock : ts.IsChain (· ≤ ·)) :
    ∀ t ∈ ts, t < next ∨ ∃ a ∈ fires period next ts, a ≤ t ∧ t < a + period := by
  induction ts generalizing next with
  | nil => simp
  | cons first ts ih =>
      have hlater : ∀ t ∈ ts, first ≤ t := by
        intro t ht
        exact List.rel_of_pairwise_cons (List.isChain_iff_pairwise.mp hclock) ht
      rw [fires]
      split
      · next hdue =>
          rw [List.forall_mem_cons]
          refine ⟨.inr ⟨first, List.mem_cons_self, le_rfl, by linarith⟩, fun t ht => .inr ?_⟩
          rcases ih hclock.tail t ht with hsoon | ⟨a, ha, hbefore, hafter⟩
          · exact ⟨first, List.mem_cons_self, hlater t ht, hsoon⟩
          · exact ⟨a, List.mem_cons_of_mem _ ha, hbefore, hafter⟩
      · next hdue =>
          rw [List.forall_mem_cons]
          exact ⟨.inl (not_le.mp hdue), fun t ht => ih hclock.tail t ht⟩

end Periodic
