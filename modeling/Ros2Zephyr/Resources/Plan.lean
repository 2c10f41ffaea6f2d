import Ros2Zephyr.Deployment.Validate

/-!
# Resource plans and their checks

The records that `tools/verify_resources.py` passes from the plan made before the link to the report
made after it.

* `makeCheck` — a requirement against what is available; nothing available never satisfies it.
  What comes from a document may be a boolean, which Python takes for an integer.
* `verdict` — a plan or a report passes when none of its checks fails.
-/

namespace Ros2Zephyr

inductive Verdict
  | pass
  | fail
  deriving DecidableEq

/-- One check of a plan or a report. -/
structure Check where
  id : PyStr
  code : PyStr
  required : PyInteger
  available : Option PyInteger
  status : Verdict
  detail : PyStr
  deriving DecidableEq

/-- Integers of a configuration, where a document could also have a boolean. -/
lemma map_value_int (n : Option ℤ) : (n.map PyInteger.int).map PyInteger.value = n := by
  cases n <;> rfl

/-- `required` can be met with `available`. -/
def Meets (required : ℤ) (available : Option ℤ) : Prop := ∃ n, available = some n ∧ required ≤ n

instance (required : ℤ) (available : Option ℤ) : Decidable (Meets required available) :=
  match available with
  | none => .isFalse (by rintro ⟨n, h, -⟩; cases h)
  | some n => decidable_of_iff (required ≤ n) (by simp [Meets])

@[simp] lemma meets_some {required n : ℤ} : Meets required (some n) ↔ required ≤ n := by
  simp [Meets]

/-- `make_check`. -/
def makeCheck (id code : PyStr) (required : PyInteger) (available : Option PyInteger)
    (detail : PyStr) : Check where
  id := id
  code := code
  required := required
  available := available
  status := if Meets required.value (available.map PyInteger.value) then .pass else .fail
  detail := detail

@[simp] lemma makeCheck_status_pass {id code detail : PyStr} {required : PyInteger}
    {available : Option PyInteger} :
    (makeCheck id code required available detail).status = .pass ↔
      Meets required.value (available.map PyInteger.value) := by
  rw [makeCheck]
  by_cases h : Meets required.value (available.map PyInteger.value)
  · simp [h]
  · simp [h]

/-- `"FAIL" if failed else "PASS"` -/
def verdict (checks : List Check) : Verdict :=
  if checks.any fun c => c.status == .fail then .fail else .pass

lemma verdict_eq_pass_iff {checks : List Check} :
    verdict checks = .pass ↔ ∀ c ∈ checks, c.status = .pass := by
  have hstatus : ∀ c : Check, c.status = .fail ↔ c.status ≠ .pass := by
    intro c
    cases c.status <;> decide
  simp [verdict, hstatus]

/-- A stack or a heap of a plan. -/
structure Reservation (α : Type) where
  name : PyStr
  bytes : α
  source : PyStr
  deriving DecidableEq

structure Budgets where
  flashBytes : PyInteger
  ramBytes : PyInteger
  deriving DecidableEq

/-- `middleware_reservations` -/
structure WorkerPlan where
  workers : Option PyInteger
  minimumWorkers : PyInteger
  maximumWorkers : PyInteger
  deriving DecidableEq

/-- The reservations of a plan; the size of a heap may be left to the linker. -/
structure Planned where
  localEndpoints : ℕ
  localCapacity : Json
  remoteDiscoveryBounds : Fields
  threadStacks : List (Reservation ℤ)
  staticBuffers : List (PyStr × ℤ)
  heapBacking : List (Reservation (Option ℤ))
  middleware : WorkerPlan
  staticReserveBytes : PyInteger
  knownRamSlicesBytes : ℤ

structure ResourcePlan where
  status : Verdict
  target : PyStr
  backend : PyStr
  ddsrtSync : PyStr
  deployment : Option Json
  budgets : Budgets
  planned : Planned
  checks : List Check

/-- `reject` of `verify_resources.py`. -/
def rejectResource {α : Type} (code message : PyStr) : Except PyException α :=
  .error (.resourceError code message)

end Ros2Zephyr
