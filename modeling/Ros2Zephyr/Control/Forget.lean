import Ros2Zephyr.Control.Loop

/-!
# What the control loop does not depend on

`forget` blanks what the loop ought not to look at: the contents of a slot whose flag is clear, and
the command sequence of the loop's own state, which every cycle overwrites.  `step_forget` says
that it does not: forgetting before a step or after it comes to the same.
-/

namespace Ros2Zephyr

variable {K : Type*} [Field K] [LinearOrder K]

def CommandSnapshot.forget (command : CommandSnapshot K) : CommandSnapshot K :=
  if command.valid then command
  else { value := { target := 0, sequence := 0 }, receiptMs := 0, valid := false }

def StaticControlState.forget (state : StaticControlState K) : StaticControlState K :=
  { state with commandSequence := 0 }

def ControlLocals.forget (vars : ControlLocals K) : ControlLocals K :=
  { vars with state := vars.state.forget }

def ControlThread.forget : ControlThread K → ControlThread K
  | .exited => .exited
  | .created => .created
  | .waiting vars => .waiting vars.forget
  | .released vars startMs => .released vars.forget startMs
  | .stepped vars startMs command output => .stepped vars.forget startMs command.forget output

def ControlSystem.forget (system : ControlSystem K) : ControlSystem K :=
  { system with
    commandSnapshot := system.commandSnapshot.forget
    stateSnapshot := system.stateSnapshot.forget
    thread := system.thread.forget }

omit [Field K] [LinearOrder K] in
lemma StaticControlState.eq_iff_forget {state state' : StaticControlState K} :
    state = state'
      ↔ state.forget = state'.forget ∧ state.commandSequence = state'.commandSequence := by
  constructor
  · rintro rfl
    exact ⟨rfl, rfl⟩
  · rintro ⟨hforget, hsequence⟩
    cases state
    cases state'
    simp_all [StaticControlState.forget]

omit [LinearOrder K] in
lemma CommandSnapshot.forget_of_valid {command : CommandSnapshot K} (h : command.valid = true) :
    command.forget = command := if_pos h

omit [LinearOrder K] in
@[simp]
lemma CommandSnapshot.forget_valid (command : CommandSnapshot K) :
    command.forget.valid = command.valid := by
  cases hvalid : command.valid <;> simp [CommandSnapshot.forget, hvalid]

omit [LinearOrder K] in
@[simp]
lemma CommandSnapshot.forget_fresh (command : CommandSnapshot K) (startMs : ℤ) :
    command.forget.fresh startMs = command.fresh startMs := by
  cases hvalid : command.valid <;> simp [CommandSnapshot.forget, CommandSnapshot.fresh, hvalid]

omit [Field K] [LinearOrder K] in
@[simp]
lemma StaticControlState.forget_forget (state : StaticControlState K) :
    state.forget.forget = state.forget := rfl

omit [Field K] [LinearOrder K] in
@[simp]
lemma ControlLocals.forget_forget (vars : ControlLocals K) :
    vars.forget.forget = vars.forget := rfl

omit [LinearOrder K] in
@[simp]
lemma CommandSnapshot.forget_forget (command : CommandSnapshot K) :
    command.forget.forget = command.forget := by
  cases hvalid : command.valid <;> simp [CommandSnapshot.forget, hvalid]

omit [LinearOrder K] in
@[simp]
lemma ControlThread.forget_forget (thread : ControlThread K) :
    thread.forget.forget = thread.forget := by
  cases thread with
  | exited | created | waiting _ | released _ _ => rfl
  | stepped _ _ _ _ => simp [ControlThread.forget]

omit [LinearOrder K] in
@[simp]
lemma ControlSystem.forget_forget (system : ControlSystem K) :
    system.forget.forget = system.forget := by
  simp [ControlSystem.forget]

/-- A disabled plant is not told the target, and only a valid command enables it. -/
lemma stepPlant_forget (vars : ControlLocals K) (startMs : ℤ) (command : CommandSnapshot K) :
    (stepPlant vars.forget startMs command.forget).1 = (stepPlant vars startMs command).1.forget ∧
      (stepPlant vars.forget startMs command.forget).2 = (stepPlant vars startMs command).2 := by
  cases hvalid : command.valid with
  | true =>
      rw [CommandSnapshot.forget_of_valid hvalid]
      exact ⟨rfl, rfl⟩
  | false =>
      have hstale : command.fresh startMs = false := by simp [CommandSnapshot.fresh, hvalid]
      refine ⟨?_, ?_⟩ <;>
        simp [stepPlant, hstale, staticControlPlantStep, ControlLocals.forget]

omit [LinearOrder K] in
lemma completeCycle_forget (vars : ControlLocals K) (startMs completionMs : ℤ)
    (command : CommandSnapshot K) (output : StaticControlPlantOutput K) :
    (completeCycle vars.forget startMs command.forget output completionMs).forget
      = (completeCycle vars startMs command output completionMs).forget := by
  simp only [completeCycle, CommandSnapshot.forget_fresh, CommandSnapshot.forget_valid,
    ControlLocals.forget, StaticControlState.forget]
  rfl

lemma staticControlSubmit_forget (isfinite : K → Bool) (system : ControlSystem K)
    (command : Option (StaticControlCommand K)) (receiptMs : ℤ) :
    (staticControlSubmit isfinite system.forget command receiptMs).forget
      = (staticControlSubmit isfinite system command receiptMs).forget := by
  cases haccepts : submitAccepts isfinite command receiptMs with
  | none => simp [staticControlSubmit, haccepts]
  | some command =>
      simp [staticControlSubmit, haccepts, ControlSystem.forget]

/-- **A step does not depend on what is forgotten.** -/
lemma step_forget (isfinite : K → Bool) (system : ControlSystem K) (event : ControlEvent K) :
    (system.forget.step isfinite event).map ControlSystem.forget
      = (system.step isfinite event).map ControlSystem.forget := by
  cases event with
  | submit command receiptMs =>
      simp only [ControlSystem.step, Option.map_some, staticControlSubmit_forget]
  | stop =>
      simp [ControlSystem.step, ControlSystem.forget]
  | enter uptimeMs =>
      cases hthread : system.thread <;>
        simp [ControlSystem.step, ControlSystem.forget, ControlThread.forget, hthread]
  | release releases startMs =>
      cases hthread : system.thread with
      | waiting vars =>
          cases hstop : system.stopRequested <;>
            simp [ControlSystem.step, ControlSystem.forget, ControlThread.forget, hthread, hstop]
          rfl
      | exited | created | released _ _ | stepped _ _ _ _ =>
          simp [ControlSystem.step, ControlSystem.forget, ControlThread.forget, hthread]
  | readCommand =>
      cases hthread : system.thread with
      | released vars startMs =>
          obtain ⟨hvars, houtput⟩ := stepPlant_forget vars startMs system.commandSnapshot
          simp [ControlSystem.step, ControlSystem.forget, ControlThread.forget, hthread, hvars,
            houtput]
      | exited | created | waiting _ | stepped _ _ _ _ =>
          simp [ControlSystem.step, ControlSystem.forget, ControlThread.forget, hthread]
  | complete completionMs =>
      cases hthread : system.thread with
      | stepped vars startMs command output =>
          have hcycle := completeCycle_forget vars startMs completionMs command output
          have hstate := congrArg ControlLocals.state hcycle
          simp only [ControlSystem.step, ControlSystem.forget, ControlThread.forget, hthread,
            Option.map_some, hcycle, CommandSnapshot.forget_forget]
          simp only [ControlLocals.forget] at hstate ⊢
          rw [hstate]
      | exited | created | waiting _ | released _ _ =>
          simp [ControlSystem.step, ControlSystem.forget, ControlThread.forget, hthread]
  | leave =>
      cases hthread : system.thread with
      | waiting vars =>
          cases hstop : system.stopRequested <;>
            simp [ControlSystem.step, ControlSystem.forget, ControlThread.forget, hthread, hstop]
      | exited | created | released _ _ | stepped _ _ _ _ =>
          simp [ControlSystem.step, ControlSystem.forget, ControlThread.forget, hthread]

lemma forget_eq_of_step {isfinite : K → Bool} {system system' other other' : ControlSystem K}
    {event : ControlEvent K} (h : system.forget = other.forget)
    (hstep : system.step isfinite event = some system')
    (hstep' : other.step isfinite event = some other') : system'.forget = other'.forget := by
  have hforget := step_forget isfinite system event
  rw [h, step_forget, hstep, hstep'] at hforget
  exact (Option.some.inj hforget).symm

end Ros2Zephyr
