import Mathlib.Algebra.Order.Field.Basic

/-!
# The simulated plant of the static control sample

`samples/static_control/src/plant.c`, over an arbitrary linearly ordered field `K` in the place
of `float`: every intermediate value is finite and every operation exact.

What the control loop needs of the plant is in two lemmas: a disabled step asks for no effort
(`plantStep_effort_disabled`), and no step asks for more than the actuator's range
(`plantStep_effort_mem`).
-/

namespace Ros2Zephyr

variable {K : Type*} [Field K] [LinearOrder K]

/-- `struct static_control_plant`. -/
structure StaticControlPlant (K : Type*) where
  position : K
  velocity : K
deriving DecidableEq

/-- `struct static_control_plant_output`. -/
structure StaticControlPlantOutput (K : Type*) where
  position : K
  velocity : K
  effort : K
deriving DecidableEq

def proportionalGain : K := 4

def dampingGain : K := 1

def clamp (value lower upper : K) : K :=
  if value < lower then lower
  else if value > upper then upper
  else value

def staticControlPlantInit : StaticControlPlant K :=
  { position := 0, velocity := 0 }

/-- The velocity is updated first and the position moves with the new one. -/
def staticControlPlantStep (plant : StaticControlPlant K) (target periodSeconds : K)
    (outputEnabled : Bool) : StaticControlPlant K × StaticControlPlantOutput K :=
  let effort :=
    if outputEnabled then
      clamp (proportionalGain * (target - plant.position) - dampingGain * plant.velocity) (-1) 1
    else 0
  -- `0.2F`
  let acceleration := effort - 1 / 5 * plant.velocity
  let velocity := plant.velocity + acceleration * periodSeconds
  let position := plant.position + velocity * periodSeconds
  (⟨position, velocity⟩, ⟨position, velocity, effort⟩)

omit [Field K] in
lemma clamp_mem {value lower upper : K} (h : lower ≤ upper) :
    lower ≤ clamp value lower upper ∧ clamp value lower upper ≤ upper := by
  unfold clamp
  split_ifs with hlow hup
  · exact ⟨le_refl _, h⟩
  · exact ⟨h, le_refl _⟩
  · exact ⟨not_lt.mp hlow, not_lt.mp hup⟩

lemma plantStep_effort_disabled (plant : StaticControlPlant K) (target periodSeconds : K) :
    (staticControlPlantStep plant target periodSeconds false).2.effort = 0 := rfl

lemma plantStep_effort_mem [IsStrictOrderedRing K] (plant : StaticControlPlant K)
    (target periodSeconds : K) (outputEnabled : Bool) :
    -1 ≤ (staticControlPlantStep plant target periodSeconds outputEnabled).2.effort ∧
      (staticControlPlantStep plant target periodSeconds outputEnabled).2.effort ≤ 1 := by
  have hrange : (-1 : K) ≤ 1 := neg_le_self zero_le_one
  cases outputEnabled with
  | true => exact clamp_mem hrange
  | false =>
      rw [plantStep_effort_disabled]
      exact ⟨neg_nonpos.mpr zero_le_one, zero_le_one⟩

end Ros2Zephyr
