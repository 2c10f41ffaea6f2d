import Ros2Zephyr.Control.Safety

/-!
# The schedule and the counters of the control loop

`control_entry` measures lateness against the schedule before it advances it, and the deadline
against it afterwards.  `Tally` says what the loop's variables amount to after a number of cycles:
every release is counted once, as a cycle or as a skipped one, the schedule is ten milliseconds
ahead of the releases taken, and the loop is faulted exactly if some cycle was not punctual.

A late start is no reason of its own to be faulted: the clock does not run backwards within a
cycle, so what starts late completes late.
-/

namespace Ros2Zephyr

open Transition

variable {K : Type*} [Field K] [LinearOrder K]

/-- `r_1 + … + r_n`, the sum of what `k_timer_status_sync` returned. -/
def releasesTaken (cycles : List (CycleRecord K)) : ℕ :=
  (cycles.map fun cycle => cycle.releases.toNat).sum

/-- The timer had expired when the cycle began, and the clock did not run backwards. -/
def Orderly (cycle : CycleRecord K) : Prop :=
  1 ≤ cycle.releases ∧ cycle.startMs ≤ cycle.completionMs

/-- What the variables of the loop say at its head. -/
structure Tally (entryMs : ℤ) (cycles : List (CycleRecord K)) (vars : ControlLocals K) : Prop where
  counters : vars.state.controlCycles + vars.state.skippedReleases
    = UInt32.ofNat (releasesTaken cycles)
  schedule : vars.scheduledReleaseMs = nextReleaseMs entryMs cycles
  punctual : vars.faulted = false ↔ EachAfter (Punctual entryMs) cycles
  unskipped : vars.faulted = false → vars.state.skippedReleases = 0

/-- What they say within a cycle that took `releases`; `onTime` is what the cycle has tested
since. -/
structure MidCycle (entryMs : ℤ) (cycles : List (CycleRecord K)) (releases : UInt32)
    (vars : ControlLocals K) (onTime : Prop) : Prop where
  counters : 1 ≤ releases → vars.state.controlCycles + 1 + vars.state.skippedReleases
    = UInt32.ofNat (releasesTaken cycles + releases.toNat)
  schedule : vars.scheduledReleaseMs
    = nextReleaseMs entryMs cycles + releases.toNat * controlPeriodMs
  punctual : vars.faulted = false ↔
    EachAfter (Punctual entryMs) cycles ∧ releases ≤ 1 ∧ onTime
  unskipped : vars.faulted = false → vars.state.skippedReleases = 0

omit [Field K] [LinearOrder K] in
lemma releasesTaken_concat (cycles : List (CycleRecord K)) (cycle : CycleRecord K) :
    releasesTaken (cycles ++ [cycle]) = releasesTaken cycles + cycle.releases.toNat := by
  simp [releasesTaken]

omit [Field K] [LinearOrder K] in
lemma nextReleaseMs_eq (entryMs : ℤ) (cycles : List (CycleRecord K)) :
    nextReleaseMs entryMs cycles = entryMs + 10 + 10 * releasesTaken cycles := by
  induction cycles using List.reverseRecOn with
  | nil => simp [nextReleaseMs, releasesTaken, controlPeriodMs]
  | append_singleton cycles cycle ih =>
      rw [nextReleaseMs_concat, releasesTaken_concat, ih, controlPeriodMs]
      push_cast
      ring

/-! ## One cycle

`Tally` is taken through the pieces of the loop.  In the middle of a cycle it is `MidCycle`: the
releases are counted, and the test of the start may have been made or not.
-/

section Cycle

variable {entryMs : ℤ} {cycles : List (CycleRecord K)} {vars : ControlLocals K}

omit [LinearOrder K] in
lemma tally_enter (uptimeMs : ℤ) :
    Tally uptimeMs [] (controlEntryInit uptimeMs : ControlLocals K) where
  counters := rfl
  schedule := by simp [controlEntryInit, nextReleaseMs]
  punctual := iff_of_true rfl eachAfter_nil
  unskipped _ := rfl

omit [Field K] [LinearOrder K] in
/-- A release that was taken is counted as a cycle, every further one as skipped. -/
lemma takeRelease_skipped (vars : ControlLocals K) {releases : UInt32} (startMs : ℤ)
    (h : 1 ≤ releases) :
    (takeRelease vars releases startMs).state.skippedReleases
      = vars.state.skippedReleases + (releases - 1) := by
  simp only [takeRelease]
  split_ifs with hskipped
  · rfl
  · have hone : releases = 1 := UInt32.le_antisymm (UInt32.not_lt.mp hskipped) h
    subst hone
    exact (UInt32.add_zero _).symm

omit [Field K] [LinearOrder K] in
/-- Lateness is measured before the schedule is advanced, the skipped releases are counted, and the
first of them is a fault. -/
lemma Tally.takeRelease (h : Tally entryMs cycles vars) (releases : UInt32) (startMs : ℤ) :
    MidCycle entryMs cycles releases (takeRelease vars releases startMs) True where
  counters hreleases := by
    rw [takeRelease_skipped vars startMs hreleases, UInt32.ofNat_add, ← h.counters,
      UInt32.ofNat_toNat]
    show vars.state.controlCycles + 1 + (vars.state.skippedReleases + (releases - 1)) = _
    grind
  schedule := by
    show vars.scheduledReleaseMs + _ = _
    rw [h.schedule]
  punctual := by
    show (vars.faulted || decide (releases > 1)) = false ↔ _
    rw [Bool.or_eq_false_iff, h.punctual, decide_eq_false_iff_not, gt_iff_lt, UInt32.not_lt,
      and_true]
  unskipped hfaulted := by
    have hboth : vars.faulted = false ∧ ¬ releases > 1 := by
      simpa [Ros2Zephyr.takeRelease] using hfaulted
    simp only [Ros2Zephyr.takeRelease, if_neg hboth.2]
    exact h.unskipped hboth.1

/-- Stepping the plant changes no counter; a start behind the schedule is a fault. -/
lemma MidCycle.stepPlant {releases : UInt32} (h : MidCycle entryMs cycles releases vars True)
    (startMs : ℤ) (command : CommandSnapshot K) :
    MidCycle entryMs cycles releases (stepPlant vars startMs command).1
      (startMs ≤ vars.scheduledReleaseMs) where
  counters := h.counters
  schedule := h.schedule
  punctual := by
    show (vars.faulted || decide (startMs > vars.scheduledReleaseMs)) = false ↔ _
    rw [Bool.or_eq_false_iff, h.punctual, decide_eq_false_iff_not, gt_iff_lt, not_lt, and_true,
      and_assoc]
  unskipped hfaulted := by
    have hboth : vars.faulted = false ∧ startMs ≤ vars.scheduledReleaseMs := by
      simpa [Ros2Zephyr.stepPlant] using hfaulted
    exact h.unskipped hboth.1

omit [LinearOrder K] in
/-- The deadline is the schedule as the cycle has advanced it, so with an orderly cycle the test
of the start adds nothing to the test of the completion. -/
lemma MidCycle.completeCycle {releases : UInt32} {startMs completionMs : ℤ}
    (h : MidCycle entryMs cycles releases vars (startMs ≤ vars.scheduledReleaseMs))
    (command : CommandSnapshot K) (output : StaticControlPlantOutput K) {cycle : CycleRecord K}
    (hreleases : cycle.releases = releases) (hcompletion : cycle.completionMs = completionMs)
    (hcounted : 1 ≤ releases) (hclock : startMs ≤ completionMs) :
    Tally entryMs (cycles ++ [cycle])
      (completeCycle vars startMs command output completionMs) where
  counters := by
    rw [releasesTaken_concat, hreleases]
    exact h.counters hcounted
  schedule := by
    rw [nextReleaseMs_concat, hreleases]
    exact h.schedule
  punctual := by
    show (vars.faulted || decide (completionMs > vars.scheduledReleaseMs - controlPeriodMs
      + controlDeadlineMs)) = false ↔ _
    rw [Bool.or_eq_false_iff, h.punctual, eachAfter_concat, Punctual, nextReleaseMs_concat,
      hreleases, hcompletion, ← h.schedule, decide_eq_false_iff_not, controlPeriodMs,
      controlDeadlineMs]
    constructor
    · rintro ⟨⟨heach, hone, -⟩, hdeadline⟩
      exact ⟨heach, hone, by omega⟩
    · rintro ⟨heach, hone, hdeadline⟩
      exact ⟨⟨heach, hone, by omega⟩, by omega⟩
  unskipped hfaulted := by
    simp only [Ros2Zephyr.completeCycle, Bool.or_eq_false_iff] at hfaulted
    exact h.unskipped hfaulted.1

end Cycle

/-! ## Whole sessions

Cycles that are not orderly are outside the theorem, and the log is only ever extended, so the
invariant may assume that those in the log are orderly.
-/

/-- The variables of the thread, at each of its positions. -/
def ScheduleInv (session : ControlSession K) : ControlThread K → Prop
  | .exited => True
  | .created => session.cycles = []
  | .waiting vars => Tally session.entryMs session.cycles vars
  | .released vars startMs =>
      startMs = session.startMs ∧
        MidCycle session.entryMs session.cycles session.releases vars True
  | .stepped vars startMs _ _ =>
      startMs = session.startMs ∧
        MidCycle session.entryMs session.cycles session.releases vars
          (startMs ≤ vars.scheduledReleaseMs)

/-- The invariant of a session in which every cycle so far was orderly. -/
def OrderlyInv (session : ControlSession K) : Prop :=
  (∀ cycle ∈ session.cycles, Orderly cycle) → ScheduleInv session session.system.thread

omit [LinearOrder K] in
lemma orderlyInv_start {system started : ControlSystem K}
    (hstart : staticControlStart system = some started) :
    OrderlyInv (ControlSession.start started) := by
  intro _
  unfold staticControlStart at hstart
  split_ifs at hstart
  cases hstart
  rfl

/-- A submission is not seen by the schedule. -/
lemma orderlyInv_submit {isfinite : K → Bool} {session : ControlSession K}
    (command : Option (StaticControlCommand K)) (receiptMs : ℤ) (h : OrderlyInv session) :
    OrderlyInv (session.record isfinite
      (staticControlSubmit isfinite session.system command receiptMs)
      (.submit command receiptMs)) := by
  cases haccept : submitAccepts isfinite command receiptMs with
  | none =>
      simp only [ControlSession.record, staticControlSubmit, haccept]
      exact h
  | some accepted =>
      simp only [ControlSession.record, staticControlSubmit, haccept]
      intro horderly
      have hthread := h horderly
      cases hposition : session.system.thread <;> rw [hposition] at hthread <;> exact hthread

/-- The cycle that enters the log is the one whose releases `MidCycle` has counted. -/
lemma orderlyInv_complete {isfinite : K → Bool} {session : ControlSession K}
    {vars : ControlLocals K} {startMs : ℤ} {command : CommandSnapshot K}
    {output : StaticControlPlantOutput K} (completionMs : ℤ)
    (hthread : session.system.thread = .stepped vars startMs command output)
    (h : OrderlyInv session) :
    OrderlyInv (session.record isfinite
      { session.system with
        stateSnapshot := (completeCycle vars startMs command output completionMs).state
        thread := .waiting (completeCycle vars startMs command output completionMs) }
      (.complete completionMs)) := by
  intro horderly
  simp only [ControlSession.record, List.forall_mem_append, List.forall_mem_singleton] at horderly
  obtain ⟨hearlier, hcounted, hclock⟩ := horderly
  have hstepped := h hearlier
  rw [hthread] at hstepped
  obtain ⟨rfl, hmid⟩ := hstepped
  exact hmid.completeCycle command output rfl rfl hcounted hclock

/-- One case for each event; between the events of a cycle the invariant is `Tally` or `MidCycle`.
-/
lemma orderlyInv_step {isfinite : K → Bool} {session session' : ControlSession K}
    {event : ControlEvent K} (h : OrderlyInv session)
    (hstep : ofPartial (ControlSession.step isfinite) session event session') :
    OrderlyInv session' := by
  obtain ⟨system, hsystem, rfl⟩ := Option.map_eq_some_iff.mp hstep
  cases event with
  | submit command receiptMs =>
      cases hsystem
      exact orderlyInv_submit command receiptMs h
  | stop =>
      cases hsystem
      exact h
  | enter uptimeMs =>
      simp only [ControlSystem.step] at hsystem
      split at hsystem <;> cases hsystem
      next hthread =>
        intro horderly
        have hcreated := h horderly
        rw [hthread] at hcreated
        show Tally uptimeMs session.cycles _
        rw [hcreated]
        exact tally_enter uptimeMs
  | release releases startMs =>
      simp only [ControlSystem.step] at hsystem
      split at hsystem <;> cases hsystem
      next hthread _ =>
        intro horderly
        have hwaiting := h horderly
        rw [hthread] at hwaiting
        exact ⟨rfl, hwaiting.takeRelease releases startMs⟩
  | readCommand =>
      simp only [ControlSystem.step] at hsystem
      split at hsystem <;> cases hsystem
      next hthread =>
        intro horderly
        have hreleased := h horderly
        rw [hthread] at hreleased
        exact ⟨hreleased.1, hreleased.2.stepPlant _ session.system.commandSnapshot⟩
  | complete completionMs =>
      simp only [ControlSystem.step] at hsystem
      split at hsystem <;> cases hsystem
      exact orderlyInv_complete completionMs ‹_› h
  | leave =>
      simp only [ControlSystem.step] at hsystem
      split at hsystem <;> cases hsystem
      exact fun _ => trivial

omit [Field K] [LinearOrder K] in
/-- Not to be punctual each time is to be late or to skip once. -/
lemma not_eachPunctual_iff {entryMs : ℤ} {cycles : List (CycleRecord K)} :
    ¬ EachAfter (Punctual entryMs) cycles ↔
      ∃ past cycle future, cycles = past ++ cycle :: future ∧
        (1 < cycle.releases ∨
          entryMs + 10 + 10 * releasesTaken (past ++ [cycle]) < cycle.completionMs) := by
  simp only [EachAfter, Punctual, nextReleaseMs_eq, not_forall, not_and_or, UInt32.not_le, not_le,
    exists_prop]

/-- **Schedule and counter accounting.**  After any events in a session whose cycles were orderly,
the loop being at its head: every release was counted once, the schedule is the entry time and the
releases taken, the loop is faulted exactly if some cycle found more than one release or completed
after its next one, and while it is not, nothing was skipped and every cycle was in time. -/
theorem control_schedule_accounts (isfinite : K → Bool) (system started : ControlSystem K)
    (events : List (ControlEvent K)) (session : ControlSession K) (vars : ControlLocals K)
    (hstart : staticControlStart system = some started)
    (hrun : Run (ofPartial (ControlSession.step isfinite)) (ControlSession.start started) events
      session)
    (hhead : session.system.thread = .waiting vars)
    (horderly : ∀ cycle ∈ session.cycles, 1 ≤ cycle.releases ∧ cycle.startMs ≤ cycle.completionMs) :
    (vars.state.controlCycles + vars.state.skippedReleases).toNat
        = releasesTaken session.cycles % 2 ^ 32 ∧
      vars.scheduledReleaseMs = session.entryMs + 10 + 10 * releasesTaken session.cycles ∧
      (vars.faulted = true ↔ ∃ past cycle future, session.cycles = past ++ cycle :: future ∧
        (1 < cycle.releases ∨
          session.entryMs + 10 + 10 * releasesTaken (past ++ [cycle]) < cycle.completionMs)) ∧
      (vars.faulted = false → vars.state.skippedReleases = 0 ∧
        ∀ past cycle future, session.cycles = past ++ cycle :: future →
          cycle.completionMs ≤ session.entryMs + 10 + 10 * releasesTaken (past ++ [cycle])) := by
  have hinv : OrderlyInv session :=
    hrun.invariant (orderlyInv_start hstart) fun h hstep => orderlyInv_step h hstep
  have htally : Tally session.entryMs session.cycles vars := by
    have hthread := hinv horderly
    rw [hhead] at hthread
    exact hthread
  refine ⟨?_, ?_, ?_, ?_⟩
  · rw [htally.counters]
    exact UInt32.toNat_ofNat'
  · rw [htally.schedule, nextReleaseMs_eq]
  · rw [← not_eachPunctual_iff, ← htally.punctual, Bool.not_eq_false]
  · intro hunfaulted
    refine ⟨htally.unskipped hunfaulted, fun past cycle future hcycles => ?_⟩
    rw [← nextReleaseMs_eq]
    exact (htally.punctual.mp hunfaulted past cycle future hcycles).2

/-- The variables of a thread at the head of its loop. -/
def ControlThread.atHead : ControlThread K → Option (ControlLocals K)
  | .waiting vars => some vars
  | _ => none

omit [Field K] [LinearOrder K] in
lemma ControlThread.eq_waiting_of_atHead {thread : ControlThread K} {vars : ControlLocals K}
    (h : thread.atHead = some vars) : thread = .waiting vars := by
  cases thread with
  | waiting vars' =>
      cases h
      rfl
  | _ => cases h

/-- After the overrun of `overrunEvents`: three cycles took four releases, so one was skipped. -/
theorem control_schedule_accounts_overrun :
    ∃ (started : ControlSystem ℚ) (session : ControlSession ℚ) (vars : ControlLocals ℚ),
      staticControlStart ControlSystem.boot = some started ∧
      Run (ofPartial (ControlSession.step fun _ => true)) (ControlSession.start started)
        overrunEvents session ∧
      session.system.thread = .waiting vars ∧
      session.cycles.map (·.releases) = [1, 2, 1] ∧
      vars.state.controlCycles = 3 ∧ vars.state.skippedReleases = 1 ∧
      vars.scheduledReleaseMs = session.entryMs + 10 + 10 * releasesTaken session.cycles := by
  have hend : ((staticControlStart ControlSystem.boot).bind fun started =>
      (runLabels (ControlSession.step fun _ => true) (ControlSession.start started)
        overrunEvents).bind fun session =>
      session.system.thread.atHead.map fun vars =>
        (decide (∀ cycle ∈ session.cycles,
            1 ≤ cycle.releases ∧ cycle.startMs ≤ cycle.completionMs),
          session.cycles.map (·.releases), vars.state.controlCycles, vars.state.skippedReleases))
      = some (true, [1, 2, 1], 3, 1) := by decide +kernel
  obtain ⟨started, hstart, hend⟩ := Option.bind_eq_some_iff.mp hend
  obtain ⟨session, hsession, hend⟩ := Option.bind_eq_some_iff.mp hend
  obtain ⟨vars, hhead, hvars⟩ := Option.map_eq_some_iff.mp hend
  simp only [Prod.mk.injEq, decide_eq_true_eq] at hvars
  obtain ⟨horderly, hreleases, hcycles, hskipped⟩ := hvars
  have hwaiting := ControlThread.eq_waiting_of_atHead hhead
  have hrun := run_of_runLabels hsession
  refine ⟨started, session, vars, hstart, hrun, hwaiting, hreleases, hcycles, hskipped, ?_⟩
  exact (control_schedule_accounts _ _ _ _ _ _ hstart hrun hwaiting horderly).2.1

end Ros2Zephyr
