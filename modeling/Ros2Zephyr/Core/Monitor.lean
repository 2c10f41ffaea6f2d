import Ros2Zephyr.Core.Transition

/-!
# Monitors

Data that many threads share is guarded by one lock: a thread changes it only while it holds the
lock, and it gives the lock up only with the data in order.

* `Monitor.Step` — acquire, change, release.
* `Monitor.ordered_run` — whenever nobody holds the lock, the data is in order, so every thread that
  acquires the lock finds it so.
-/

namespace Monitor

/-- What is guarded: the data, when it is in order, and that it is so at first. -/
structure Guarded (D : Type) where
  Ordered : D → Prop
  initial : D
  initial_ordered : Ordered initial

structure State (T D : Type) where
  holder : Option T
  data : D

inductive Event (T D : Type)
  | acquire (t : T)
  | change (t : T) (data : D)
  | release (t : T)

variable {T D : Type}

/-- One step of a monitor. -/
inductive Step (g : Guarded D) : State T D → Event T D → State T D → Prop
  | acquire {t : T} {data : D} : Step g ⟨none, data⟩ (.acquire t) ⟨some t, data⟩
  | change {t : T} {data data' : D} : Step g ⟨some t, data⟩ (.change t data') ⟨some t, data'⟩
  | release {t : T} {data : D} :
      g.Ordered data → Step g ⟨some t, data⟩ (.release t) ⟨none, data⟩

/-- The monitor at first. -/
def boot (g : Guarded D) : State T D := ⟨none, g.initial⟩

/-- Only a release leaves the lock free. -/
lemma Step.ordered {g : Guarded D} {s s' : State T D} {e : Event T D} (hstep : Step g s e s')
    (hfree : s'.holder = none) : g.Ordered s'.data := by
  cases hstep with
  | acquire => cases hfree
  | change => cases hfree
  | release hordered => exact hordered

/-- **The rule of monitors.** -/
theorem ordered_run {g : Guarded D} {s : State T D} {es : List (Event T D)}
    (hrun : Transition.Run (Step g) (boot g) es s) (hfree : s.holder = none) :
    g.Ordered s.data := by
  refine hrun.invariant (I := fun s => s.holder = none → g.Ordered s.data)
    (fun _ => g.initial_ordered) ?_ hfree
  intro t t' e _ hstep hfree
  exact hstep.ordered hfree

end Monitor
