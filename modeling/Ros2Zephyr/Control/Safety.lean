import Mathlib.Algebra.Order.Ring.Rat
import Mathlib.Tactic.Ring
import Ros2Zephyr.Control.Loop

/-!
# What a control session publishes

A session is one `static_control_start` followed by any interleaving of the control thread with
`static_control_submit` and `static_control_stop`.  `ControlSession` adds to the system the log a
bystander would keep: the commands accepted since the start, and one `CycleRecord` for every
state the loop published.

The loop's decisions are spread over the cycle: a skipped release and a late start fault it
before the plant is stepped, a late completion after.  `CycleSafe` says what a published state
may show given all cycles up to it, and `ControlInv` is the invariant that carries it: the
schedule variable is the number of releases taken, and an unfaulted thread has only punctual
cycles behind it.
-/

namespace Ros2Zephyr

open Transition

variable {K : Type*} [Field K] [LinearOrder K]

/-- What is known of one cycle of the loop once it has published. -/
structure CycleRecord (K : Type*) where
  releases : UInt32
  startMs : ℤ
  completionMs : ℤ
  /-- the commands accepted since the start when this cycle read the slot, oldest first -/
  accepted : List (StaticControlCommand K × ℤ)
  published : StaticControlState K
deriving DecidableEq

/-- The system with the log of the session. -/
structure ControlSession (K : Type*) where
  system : ControlSystem K
  /-- `k_uptime_get` at the top of `control_entry` -/
  entryMs : ℤ
  accepted : List (StaticControlCommand K × ℤ)
  /-- of the cycle in progress: its release count, its `start_ms`, and `accepted` as it was when
  the slot was read -/
  releases : UInt32
  startMs : ℤ
  acceptedAtRead : List (StaticControlCommand K × ℤ)
  cycles : List (CycleRecord K)
  /-- every state passed to `publish_state` -/
  publications : List (StaticControlState K)
deriving DecidableEq

/-- The log is empty when `static_control_start` returns. -/
def ControlSession.start (system : ControlSystem K) : ControlSession K :=
  { system, entryMs := 0, accepted := [], releases := 0, startMs := 0, acceptedAtRead := []
    cycles := [], publications := [] }

/-- The log entries of one event, given the system after it. -/
def ControlSession.record (isfinite : K → Bool) (session : ControlSession K)
    (system : ControlSystem K) : ControlEvent K → ControlSession K
  | .submit command receiptMs =>
      match submitAccepts isfinite command receiptMs with
      | none => { session with system }
      | some command =>
          { session with system, accepted := session.accepted ++ [(command, receiptMs)] }
  | .enter uptimeMs =>
      { session with
        system, entryMs := uptimeMs
        publications := session.publications ++ [system.stateSnapshot] }
  | .release releases startMs => { session with system, releases, startMs }
  | .readCommand => { session with system, acceptedAtRead := session.accepted }
  | .complete completionMs =>
      { session with
        system
        cycles := session.cycles ++
          [{ releases := session.releases, startMs := session.startMs, completionMs
             accepted := session.acceptedAtRead, published := system.stateSnapshot }]
        publications := session.publications ++ [system.stateSnapshot] }
  | .stop | .leave => { session with system }

def ControlSession.step (isfinite : K → Bool) (session : ControlSession K)
    (event : ControlEvent K) : Option (ControlSession K) :=
  (session.system.step isfinite event).map fun system => session.record isfinite system event

/-! ## The schedule

The thread's `scheduled_release_ms` is a running sum.  Here it is the sum of what the log has: ten
milliseconds for the entry and ten for every release taken.
-/

/-- The release that follows the given cycles, on the schedule of a thread entered at `entryMs`. -/
def nextReleaseMs (entryMs : ℤ) (cycles : List (CycleRecord K)) : ℤ :=
  entryMs + controlPeriodMs +
    controlPeriodMs * (cycles.map fun cycle => (cycle.releases.toNat : ℤ)).sum

omit [Field K] [LinearOrder K] in
lemma nextReleaseMs_concat (entryMs : ℤ) (cycles : List (CycleRecord K)) (cycle : CycleRecord K) :
    nextReleaseMs entryMs (cycles ++ [cycle])
      = nextReleaseMs entryMs cycles + cycle.releases.toNat * controlPeriodMs := by
  simp only [nextReleaseMs, List.map_append, List.map_cons, List.map_nil, List.sum_append,
    List.sum_cons, List.sum_nil]
  ring

/-- The cycle took one release and completed no later than the next one. -/
def Punctual (entryMs : ℤ) (earlier : List (CycleRecord K)) (cycle : CycleRecord K) : Prop :=
  cycle.releases ≤ 1 ∧ cycle.completionMs ≤ nextReleaseMs entryMs (earlier ++ [cycle])

/-! ## The property -/

/-- What the state published by `cycle`, after the cycles `earlier`, is allowed to show. -/
structure CycleSafe (entryMs : ℤ) (earlier : List (CycleRecord K)) (cycle : CycleRecord K) :
    Prop where
  /-- `ACTIVE` only under the newest command of this session, in range and fresh, and with every
  cycle so far punctual -/
  active : cycle.published.status = .active →
    (∃ command receiptMs, cycle.accepted.getLast? = some (command, receiptMs) ∧
      cycle.published.commandSequence = command.sequence ∧
      -1 ≤ command.target ∧ command.target ≤ 1 ∧
      0 ≤ cycle.startMs - receiptMs ∧ cycle.startMs - receiptMs ≤ commandExpiryMs) ∧
    EachAfter (Punctual entryMs) (earlier ++ [cycle])
  idle : cycle.published.status ≠ .active → cycle.published.effort = 0
  range : -1 ≤ cycle.published.effort ∧ cycle.published.effort ≤ 1
  /-- a fault stays -/
  latched : (∃ past ∈ earlier, past.published.status = .fault) →
    cycle.published.status = .fault ∧ cycle.published.effort = 0

/-! ## The invariant

The slot, the thread and the log are described apart.  A submission changes the slot only and a
cycle the other two, so that each event has one part to prove.
-/

/-- A valid slot holds the newest accepted command. -/
def SlotInv (slot : CommandSnapshot K) (accepted : List (StaticControlCommand K × ℤ)) : Prop :=
  slot.valid = true →
    accepted.getLast? = some (slot.value, slot.receiptMs) ∧
      -1 ≤ slot.value.target ∧ slot.value.target ≤ 1

/-- No cycle so far gives a reason to be faulted. -/
def Spotless (session : ControlSession K) : Prop :=
  EachAfter (Punctual session.entryMs) session.cycles ∧
    ∀ cycle ∈ session.cycles, cycle.published.status ≠ .fault

/-- What the thread's variables record, at each of its positions. -/
def ThreadInv (session : ControlSession K) : ControlThread K → Prop
  | .exited => True
  | .created => True
  | .waiting vars =>
      vars.scheduledReleaseMs = nextReleaseMs session.entryMs session.cycles ∧
        (vars.faulted = false → Spotless session)
  | .released vars startMs =>
      vars.scheduledReleaseMs = nextReleaseMs session.entryMs session.cycles
          + session.releases.toNat * controlPeriodMs ∧
        startMs = session.startMs ∧
        (vars.faulted = false → Spotless session ∧ session.releases ≤ 1)
  | .stepped vars startMs command output =>
      vars.scheduledReleaseMs = nextReleaseMs session.entryMs session.cycles
          + session.releases.toNat * controlPeriodMs ∧
        startMs = session.startMs ∧
        (vars.faulted = false → Spotless session ∧ session.releases ≤ 1) ∧
        SlotInv command session.acceptedAtRead ∧
        (-1 ≤ output.effort ∧ output.effort ≤ 1) ∧
        (command.fresh startMs = false → output.effort = 0)

/-- `publish_state` is called once on entry and once by every cycle. -/
def LogInv (session : ControlSession K) : ControlThread K → Prop
  | .created => session.cycles = [] ∧ session.publications = []
  | _ => session.publications = StaticControlState.initial :: session.cycles.map (·.published)

structure ControlInv (session : ControlSession K) : Prop where
  slot : SlotInv session.system.commandSnapshot session.accepted
  thread : ThreadInv session session.system.thread
  log : LogInv session session.system.thread
  safe : EachAfter (CycleSafe session.entryMs) session.cycles

lemma controlInv_start {system started : ControlSystem K}
    (hstart : staticControlStart system = some started) :
    ControlInv (ControlSession.start started) := by
  unfold staticControlStart at hstart
  split_ifs at hstart
  cases hstart
  refine ⟨?_, trivial, ⟨rfl, rfl⟩, eachAfter_nil⟩
  intro hvalid
  simp [ControlSession.start] at hvalid

/-! ## One event at a time

The cycle's three steps hand on what they have tested: `takeRelease` that no release was skipped,
`stepPlant` that the start was in time, and `completeCycle` concludes that the cycle was punctual.
-/

/-- What `static_control_submit` lets through is in range. -/
lemma submitAccepts_range {isfinite : K → Bool} {command : Option (StaticControlCommand K)}
    {receiptMs : ℤ} {accepted : StaticControlCommand K}
    (h : submitAccepts isfinite command receiptMs = some accepted) :
    -1 ≤ accepted.target ∧ accepted.target ≤ 1 := by
  unfold submitAccepts at h
  cases command with
  | none => simp at h
  | some command =>
      simp only at h
      split_ifs at h with hbad
      cases h
      simp only [Bool.or_eq_true, decide_eq_true_eq, not_or, not_lt] at hbad
      exact ⟨hbad.1.1.2, hbad.1.2⟩

/-- The thread's part of the invariant reads neither the slot nor the list of accepted commands,
so a submission leaves it alone. -/
lemma threadInv_congr {session session' : ControlSession K} {thread : ControlThread K}
    (hentry : session'.entryMs = session.entryMs) (hreleases : session'.releases = session.releases)
    (hstartMs : session'.startMs = session.startMs)
    (hread : session'.acceptedAtRead = session.acceptedAtRead)
    (hcycles : session'.cycles = session.cycles)
    (h : ThreadInv session thread) : ThreadInv session' thread := by
  have hspotless : Spotless session → Spotless session' := by
    intro hs
    simp only [Spotless, hentry, hcycles]
    exact hs
  cases thread with
  | exited => trivial
  | created => trivial
  | waiting vars =>
      obtain ⟨hsched, hfault⟩ := h
      refine ⟨by rw [hsched, hentry, hcycles], fun hf => hspotless (hfault hf)⟩
  | released vars startMs =>
      obtain ⟨hsched, hms, hfault⟩ := h
      refine ⟨by rw [hsched, hentry, hcycles, hreleases], by rw [hms, hstartMs], fun hf => ?_⟩
      exact ⟨hspotless (hfault hf).1, by rw [hreleases]; exact (hfault hf).2⟩
  | stepped vars startMs command output =>
      obtain ⟨hsched, hms, hfault, hslot, hrest⟩ := h
      refine ⟨by rw [hsched, hentry, hcycles, hreleases], by rw [hms, hstartMs], fun hf => ?_,
        by rw [hread]; exact hslot, hrest⟩
      exact ⟨hspotless (hfault hf).1, by rw [hreleases]; exact (hfault hf).2⟩

/-- A submission replaces the slot and extends the list of accepted commands by the same command, or
does neither. -/
lemma controlInv_submit {isfinite : K → Bool} {session : ControlSession K}
    (command : Option (StaticControlCommand K)) (receiptMs : ℤ) (h : ControlInv session) :
    ControlInv (session.record isfinite
      (staticControlSubmit isfinite session.system command receiptMs)
      (.submit command receiptMs)) := by
  cases haccept : submitAccepts isfinite command receiptMs with
  | none =>
      simp only [ControlSession.record, staticControlSubmit, haccept]
      exact h
  | some accepted =>
      simp only [ControlSession.record, staticControlSubmit, haccept]
      refine ⟨?_, threadInv_congr rfl rfl rfl rfl rfl h.thread, ?_, h.safe⟩
      · intro _
        exact ⟨List.getLast?_concat, submitAccepts_range haccept⟩
      · have hlog := h.log
        cases hthread : session.system.thread <;> rw [hthread] at hlog <;> exact hlog

/-- The thread publishes the initial state, and its schedule starts here. -/
lemma controlInv_enter {isfinite : K → Bool} {session : ControlSession K} (uptimeMs : ℤ)
    (hthread : session.system.thread = .created) (h : ControlInv session) :
    ControlInv (session.record isfinite
      { session.system with
        stateSnapshot := (controlEntryInit uptimeMs : ControlLocals K).state
        thread := .waiting (controlEntryInit uptimeMs) } (.enter uptimeMs)) := by
  have hcreated := h.log
  rw [hthread] at hcreated
  obtain ⟨hcycles, hpublications⟩ := hcreated
  refine ⟨h.slot, ⟨?_, fun _ => ⟨?_, ?_⟩⟩, ?_, ?_⟩
  · simp [ControlSession.record, nextReleaseMs, hcycles, controlEntryInit]
  · simp only [ControlSession.record, hcycles]
    exact eachAfter_nil
  · simp [ControlSession.record, hcycles]
  · simp [ControlSession.record, LogInv, hcycles, hpublications, controlEntryInit]
  · simp only [ControlSession.record, hcycles]
    exact eachAfter_nil

/-- The releases of the cycle are in the schedule from now on; more than one of them is a fault. -/
lemma controlInv_release {isfinite : K → Bool} {session : ControlSession K}
    {vars : ControlLocals K} (releases : UInt32) (startMs : ℤ)
    (hthread : session.system.thread = .waiting vars) (h : ControlInv session) :
    ControlInv (session.record isfinite
      { session.system with thread := .released (takeRelease vars releases startMs) startMs }
      (.release releases startMs)) := by
  have hwaiting := h.thread
  have hlog := h.log
  rw [hthread] at hwaiting hlog
  obtain ⟨hsched, hfault⟩ := hwaiting
  refine ⟨h.slot, ⟨?_, rfl, ?_⟩, hlog, h.safe⟩
  · simp only [ControlSession.record, takeRelease, hsched]
  · intro hunfaulted
    simp only [takeRelease, Bool.or_eq_false_iff, decide_eq_false_iff_not] at hunfaulted
    exact ⟨hfault hunfaulted.1, UInt32.not_lt.mp hunfaulted.2⟩

lemma stepPlant_effort_of_stale {vars : ControlLocals K} {startMs : ℤ}
    {command : CommandSnapshot K} (h : command.fresh startMs = false) :
    (stepPlant vars startMs command).2.effort = 0 := by
  simp only [stepPlant, h, Bool.false_and]
  exact plantStep_effort_disabled _ _ _

/-- What the cycle reads is the newest command accepted so far, and it stays the one that counts for
the cycle whatever is submitted later. -/
lemma controlInv_readCommand [IsStrictOrderedRing K] {isfinite : K → Bool}
    {session : ControlSession K} {vars : ControlLocals K} {startMs : ℤ}
    (hthread : session.system.thread = .released vars startMs) (h : ControlInv session) :
    ControlInv (session.record isfinite
      { session.system with
        thread := .stepped (stepPlant vars startMs session.system.commandSnapshot).1 startMs
          session.system.commandSnapshot
          (stepPlant vars startMs session.system.commandSnapshot).2 } .readCommand) := by
  have hreleased := h.thread
  have hlog := h.log
  rw [hthread] at hreleased hlog
  obtain ⟨hsched, hms, hfault⟩ := hreleased
  refine ⟨h.slot, ⟨hsched, hms, ?_, h.slot, plantStep_effort_mem _ _ _ _,
    stepPlant_effort_of_stale⟩, hlog, h.safe⟩
  intro hunfaulted
  simp only [stepPlant, Bool.or_eq_false_iff] at hunfaulted
  exact hfault hunfaulted.1

omit [LinearOrder K] in
/-- The status a cycle publishes, read backwards. -/
lemma completeCycle_status_active {vars : ControlLocals K} {startMs completionMs : ℤ}
    {command : CommandSnapshot K} {output : StaticControlPlantOutput K}
    (h : (completeCycle vars startMs command output completionMs).state.status = .active) :
    vars.faulted = false ∧
      completionMs ≤ vars.scheduledReleaseMs - controlPeriodMs + controlDeadlineMs ∧
      command.valid = true ∧ command.fresh startMs = true := by
  simp only [completeCycle] at h
  split_ifs at h with hfault hvalid hfresh
  simp only [Bool.or_eq_true, decide_eq_true_eq, not_or, not_lt, Bool.not_eq_true] at hfault
  simp only [Bool.not_eq_true', Bool.not_eq_false] at hvalid hfresh
  exact ⟨hfault.1, hfault.2, hvalid, hfresh⟩

omit [LinearOrder K] in
lemma completeCycle_status_fault_iff {vars : ControlLocals K} {startMs completionMs : ℤ}
    {command : CommandSnapshot K} {output : StaticControlPlantOutput K} :
    (completeCycle vars startMs command output completionMs).state.status = .fault ↔
      (completeCycle vars startMs command output completionMs).faulted = true := by
  simp only [completeCycle]
  split_ifs with hfault hvalid hfresh <;> simp_all

omit [LinearOrder K] in
lemma completeCycle_effort_of_faulted {vars : ControlLocals K} {startMs completionMs : ℤ}
    {command : CommandSnapshot K} {output : StaticControlPlantOutput K}
    (h : (completeCycle vars startMs command output completionMs).faulted = true) :
    (completeCycle vars startMs command output completionMs).state.effort = 0 := by
  simp only [completeCycle] at h ⊢
  rw [if_pos h]

omit [LinearOrder K] in
/-- Whatever the cycle decides, the published effort is the plant's or zero. -/
lemma completeCycle_effort_cases (vars : ControlLocals K) (startMs completionMs : ℤ)
    (command : CommandSnapshot K) (output : StaticControlPlantOutput K) :
    (completeCycle vars startMs command output completionMs).state.effort = output.effort ∨
      (completeCycle vars startMs command output completionMs).state.effort = 0 := by
  simp only [completeCycle]
  split_ifs <;> simp

omit [LinearOrder K] in
/-- Without a fresh command the effort is zero: the plant was stepped with zero, or the effort is
cleared. -/
lemma completeCycle_effort_of_idle {vars : ControlLocals K} {startMs completionMs : ℤ}
    {command : CommandSnapshot K} {output : StaticControlPlantOutput K}
    (hstale : command.fresh startMs = false → output.effort = 0)
    (h : (completeCycle vars startMs command output completionMs).state.status ≠ .active) :
    (completeCycle vars startMs command output completionMs).state.effort = 0 := by
  cases hfresh : command.fresh startMs with
  | false =>
      rcases completeCycle_effort_cases vars startMs completionMs command output with heq | heq
      · rw [heq]
        exact hstale hfresh
      · exact heq
  | true =>
      -- a fresh command is valid, so only a fault is left
      have hvalid : command.valid = true := by
        simp only [CommandSnapshot.fresh, Bool.and_eq_true] at hfresh
        exact hfresh.1.1
      apply completeCycle_effort_of_faulted
      simp only [completeCycle, hfresh, hvalid] at h ⊢
      by_contra hfault
      simp [hfault] at h

omit [Field K] [LinearOrder K] in
/-- The deadline the loop checks is the next scheduled release. -/
lemma punctual_of_deadline {session : ControlSession K} {vars : ControlLocals K}
    {cycle : CycleRecord K}
    (hsched : vars.scheduledReleaseMs = nextReleaseMs session.entryMs session.cycles
      + session.releases.toNat * controlPeriodMs)
    (hreleases : session.releases ≤ 1) (hsame : cycle.releases = session.releases)
    (hdeadline : cycle.completionMs
      ≤ vars.scheduledReleaseMs - controlPeriodMs + controlDeadlineMs) :
    Punctual session.entryMs session.cycles cycle := by
  refine ⟨by rw [hsame]; exact hreleases, ?_⟩
  rw [nextReleaseMs_concat, hsame, ← hsched]
  simpa [controlPeriodMs, controlDeadlineMs] using hdeadline

/-- The cycle just completed is safe after all those before it. -/
lemma cycleSafe_complete [IsStrictOrderedRing K] {session : ControlSession K}
    {vars : ControlLocals K} {startMs : ℤ} {command : CommandSnapshot K}
    {output : StaticControlPlantOutput K} (completionMs : ℤ)
    (h : ThreadInv session (.stepped vars startMs command output)) :
    CycleSafe session.entryMs session.cycles
      { releases := session.releases, startMs := session.startMs, completionMs
        accepted := session.acceptedAtRead
        published := (completeCycle vars startMs command output completionMs).state } := by
  obtain ⟨hsched, hms, hfault, hslot, hrange, hstale⟩ := h
  subst hms
  refine ⟨?_, completeCycle_effort_of_idle hstale, ?_, ?_⟩
  · intro hactive
    obtain ⟨hunfaulted, hdeadline, hvalid, hfresh⟩ := completeCycle_status_active hactive
    obtain ⟨hlast, hlow, hhigh⟩ := hslot hvalid
    obtain ⟨hspotless, hreleases⟩ := hfault hunfaulted
    simp only [CommandSnapshot.fresh, Bool.and_eq_true, decide_eq_true_eq] at hfresh
    refine ⟨⟨command.value, command.receiptMs, hlast, rfl, hlow, hhigh, ?_, hfresh.2⟩, ?_⟩
    · exact sub_nonneg.mpr hfresh.1.2
    · exact eachAfter_concat.mpr
        ⟨hspotless.1, punctual_of_deadline hsched hreleases rfl hdeadline⟩
  · rcases completeCycle_effort_cases vars session.startMs completionMs command output
      with heq | heq
    · simp only [heq]
      exact hrange
    · simp only [heq]
      exact ⟨neg_nonpos.mpr zero_le_one, zero_le_one⟩
  · rintro ⟨past, hpast, hpastFault⟩
    have hfaulted :
        (completeCycle vars session.startMs command output completionMs).faulted = true := by
      by_contra hnot
      have hunfaulted : vars.faulted = false := by
        simp only [completeCycle, Bool.or_eq_true, not_or, Bool.not_eq_true] at hnot
        exact hnot.1
      exact (hfault hunfaulted).1.2 past hpast hpastFault
    exact ⟨completeCycle_status_fault_iff.mpr hfaulted, completeCycle_effort_of_faulted hfaulted⟩

/-- The completed cycle enters the log, and with it the reason for a fault if there is one. -/
lemma controlInv_complete [IsStrictOrderedRing K] {isfinite : K → Bool}
    {session : ControlSession K} {vars : ControlLocals K} {startMs : ℤ}
    {command : CommandSnapshot K} {output : StaticControlPlantOutput K} (completionMs : ℤ)
    (hthread : session.system.thread = .stepped vars startMs command output)
    (h : ControlInv session) :
    ControlInv (session.record isfinite
      { session.system with
        stateSnapshot := (completeCycle vars startMs command output completionMs).state
        thread := .waiting (completeCycle vars startMs command output completionMs) }
      (.complete completionMs)) := by
  have hstepped := h.thread
  have hlog : session.publications
      = StaticControlState.initial :: session.cycles.map (·.published) := by
    have hlog := h.log
    rw [hthread] at hlog
    exact hlog
  rw [hthread] at hstepped
  have hsafe := cycleSafe_complete completionMs hstepped
  obtain ⟨hsched, hms, hfault, -⟩ := hstepped
  refine ⟨h.slot, ⟨?_, ?_⟩, ?_, eachAfter_concat.mpr ⟨h.safe, hsafe⟩⟩
  · simp only [ControlSession.record]
    rw [nextReleaseMs_concat]
    exact hsched
  · intro hunfaulted
    have hstatus :
        (completeCycle vars startMs command output completionMs).state.status ≠ .fault := by
      intro hf
      rw [completeCycle_status_fault_iff.mp hf] at hunfaulted
      exact Bool.noConfusion hunfaulted
    simp only [completeCycle, Bool.or_eq_false_iff, decide_eq_false_iff_not, not_lt] at hunfaulted
    obtain ⟨hspotless, hreleases⟩ := hfault hunfaulted.1
    refine ⟨eachAfter_concat.mpr
      ⟨hspotless.1, punctual_of_deadline hsched hreleases rfl hunfaulted.2⟩, ?_⟩
    intro cycle hcycle
    simp only [ControlSession.record, List.mem_append, List.mem_singleton] at hcycle
    rcases hcycle with hcycle | rfl
    · exact hspotless.2 cycle hcycle
    · exact hstatus
  · simp [ControlSession.record, LogInv, hlog]

/-! ## Every run

The step lemma collects the events, and the invariant of the last state holds for every published
one, since the log has them all.
-/

/-- Every event keeps the invariant. -/
lemma controlInv_step [IsStrictOrderedRing K] {isfinite : K → Bool}
    {session session' : ControlSession K} {event : ControlEvent K} (h : ControlInv session)
    (hstep : session.step isfinite event = some session') : ControlInv session' := by
  simp only [ControlSession.step, Option.map_eq_some_iff] at hstep
  obtain ⟨system, hsystem, rfl⟩ := hstep
  cases event with
  | submit command receiptMs =>
      simp only [ControlSystem.step, Option.some.injEq] at hsystem
      subst hsystem
      exact controlInv_submit command receiptMs h
  | stop =>
      simp only [ControlSystem.step, Option.some.injEq] at hsystem
      subst hsystem
      refine ⟨h.slot, threadInv_congr rfl rfl rfl rfl rfl h.thread, ?_, h.safe⟩
      have hlog := h.log
      cases hthread : session.system.thread <;> rw [hthread] at hlog <;> exact hlog
  | enter uptimeMs =>
      simp only [ControlSystem.step] at hsystem
      split at hsystem <;> cases hsystem
      exact controlInv_enter uptimeMs ‹_› h
  | release releases startMs =>
      simp only [ControlSystem.step] at hsystem
      split at hsystem <;> cases hsystem
      exact controlInv_release releases startMs ‹_› h
  | readCommand =>
      simp only [ControlSystem.step] at hsystem
      split at hsystem <;> cases hsystem
      exact controlInv_readCommand ‹_› h
  | complete completionMs =>
      simp only [ControlSystem.step] at hsystem
      split at hsystem <;> cases hsystem
      exact controlInv_complete completionMs ‹_› h
  | leave =>
      simp only [ControlSystem.step] at hsystem
      split at hsystem <;> cases hsystem
      next hthread _ =>
        have hlog := h.log
        rw [hthread] at hlog
        exact ⟨h.slot, trivial, hlog, h.safe⟩

/-- **Control-loop safety.**  Start a session from any earlier state of the static variables and
let any events happen: the published states are the initial one followed by one for each cycle,
and each of them is safe given the cycles up to it. -/
theorem control_session_safe [IsStrictOrderedRing K] (isfinite : K → Bool)
    (system started : ControlSystem K) (events : List (ControlEvent K))
    (session : ControlSession K) (hstart : staticControlStart system = some started)
    (hrun : Run (ofPartial (ControlSession.step isfinite)) (ControlSession.start started) events
      session) :
    (session.publications = [] ∧ session.cycles = [] ∨
      session.publications = StaticControlState.initial :: session.cycles.map (·.published)) ∧
    EachAfter (CycleSafe session.entryMs) session.cycles := by
  have hinv : ControlInv session :=
    hrun.invariant (controlInv_start hstart) fun h hstep => controlInv_step h hstep
  refine ⟨?_, hinv.safe⟩
  have hlog := hinv.log
  cases hthread : session.system.thread with
  | created =>
      rw [hthread] at hlog
      exact Or.inl ⟨hlog.2, hlog.1⟩
  | exited | waiting _ | released _ _ | stepped _ _ _ _ =>
      rw [hthread] at hlog
      exact Or.inr hlog

/-- A fresh command, one punctual cycle, a cycle that finds two releases, and one more after it. -/
def overrunEvents : List (ControlEvent ℚ) :=
  [.enter 0, .submit (some { target := 1 / 2, sequence := 3 }) 4, .release 1 10, .readCommand,
    .complete 11, .release 2 35, .readCommand, .complete 36,
    .submit (some { target := 1 / 2, sequence := 4 }) 37, .release 1 40, .readCommand,
    .complete 40]

/-- The second cycle finds two releases: it is published as a fault, and so is the cycle behind it
although it is in time. -/
theorem control_session_safe_overrun :
    ∃ (started : ControlSystem ℚ) (session : ControlSession ℚ),
      staticControlStart ControlSystem.boot = some started ∧
      Run (ofPartial (ControlSession.step fun _ => true)) (ControlSession.start started)
        overrunEvents session ∧
      session.cycles.map (·.published.status) = [.active, .fault, .fault] ∧
      EachAfter (CycleSafe session.entryMs) session.cycles := by
  have hstart : staticControlStart (ControlSystem.boot (K := ℚ))
      = some ((staticControlStart ControlSystem.boot).get (by decide)) := by rw [Option.some_get]
  have hrun : Run (ofPartial (ControlSession.step fun _ => true)) _ overrunEvents
      ((runLabels (ControlSession.step fun _ => true)
        (ControlSession.start ((staticControlStart ControlSystem.boot).get (by decide)))
        overrunEvents).get (by decide +kernel)) :=
    run_of_runLabels (by rw [Option.some_get])
  refine ⟨_, _, hstart, hrun, by decide +kernel, ?_⟩
  exact (control_session_safe _ _ _ _ _ hstart hrun).2

end Ros2Zephyr
