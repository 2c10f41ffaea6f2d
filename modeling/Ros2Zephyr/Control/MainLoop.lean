import Mathlib.Data.List.Destutter
import Ros2Zephyr.Control.Console
import Ros2Zephyr.Core.Periodic

/-!
# The main loop of the static-control sample

The loop of `main` in `samples/static_control/src/main.c`.  Each turn lets the executor work for at
most 20 ms, publishes the control state if 100 ms have passed since it did so last, prints the
status if it has changed, and once a second prints what was measured.  What the environment decides
in a turn (the result of the executor, how many commands the callback took and refused, the clock,
the snapshots) is the turn's `LoopInput`.

* `MainLoop.iterate`, `MainLoop.run` — a turn and a run of them.
* `main_loop_cadence` — the spacing of telemetry and reports, and when the status is printed.
-/

namespace Ros2Zephyr

variable {K : Type*} {w : ℕ}

def telemetryPeriodMs : ℤ := 100

def reportPeriodMs : ℤ := 1000

/-- The variables of `main` that live across turns. -/
structure MainLoop where
  acceptedCommands : UInt32
  rejectedCommands : UInt32
  nextTelemetryMs : ℤ
  nextReportMs : ℤ
  /-- `none` for `UINT8_MAX`, which is no status -/
  previousStatus : Option StaticControlStatus
  deriving DecidableEq

/-- `ros_prepared` and `middleware_prepared` -/
structure PreparedMetrics (w : ℕ) where
  ros : AllocationMetrics w
  middleware : AllocationMetrics w

/-- What the environment decides in one turn. -/
structure LoopInput (K : Type*) (w : ℕ) where
  /-- the line that `check` prints for a result other than `RCL_RET_OK` and `RCL_RET_TIMEOUT` -/
  spinError : Option QuietLine
  accepted : ℕ
  rejected : ℕ
  nowMs : ℤ
  telemetryState : StaticControlState K
  /-- the line that `check` prints if `rcl_publish` fails -/
  publishError : Option QuietLine
  reportState : StaticControlState K
  ros : AllocationMetrics w
  middleware : AllocationMetrics w
  stackUnused : Option (SizeT w)
  timing : StaticControlTiming UInt32

/-- A call of `rcl_publish`. -/
structure PublishCall (K : Type*) where
  timeMs : ℤ
  state : StaticControlState K
  /-- the result is `RCL_RET_OK` -/
  sent : Bool

/-- The call that a turn makes, if the state is due. -/
def LoopInput.publishCall (input : LoopInput K w) : PublishCall K :=
  ⟨input.nowMs, input.telemetryState, input.publishError.isNone⟩

/-- What a run has written, and when it published and reported. -/
structure LoopTrace (K : Type*) (w : ℕ) where
  lines : List (ConsoleLine w)
  publishCalls : List (PublishCall K)
  reports : List (ℤ × MetricsReport w)

namespace LoopTrace

def empty : LoopTrace K w := ⟨[], [], []⟩

def append (trace trace' : LoopTrace K w) : LoopTrace K w :=
  ⟨trace.lines ++ trace'.lines, trace.publishCalls ++ trace'.publishCalls,
    trace.reports ++ trace'.reports⟩

end LoopTrace

/-- The line of a failed call. -/
def errorLines (error : Option QuietLine) : List (ConsoleLine w) := error.toList.map .other

/-- What the status line says of a state. -/
def StatusReport.ofState (state : StaticControlState K) : StatusReport :=
  ⟨state.status, state.commandSequence, state.controlCycles, state.skippedReleases⟩

namespace MainLoop

/-- Before the first turn; `startMs` is the clock that `next_telemetry_ms` is read from. -/
def start (startMs : ℤ) : MainLoop where
  acceptedCommands := 0
  rejectedCommands := 0
  nextTelemetryMs := startMs
  nextReportMs := startMs + reportPeriodMs
  previousStatus := none

/-- `rclc_executor_spin_some`, with the calls of `command_callback` in it. -/
def spin (loop : MainLoop) (input : LoopInput K w) : MainLoop × LoopTrace K w :=
  ({ loop with
      acceptedCommands := loop.acceptedCommands + UInt32.ofNat input.accepted
      rejectedCommands := loop.rejectedCommands + UInt32.ofNat input.rejected },
    ⟨errorLines input.spinError, [], []⟩)

/-- The branch under `now_ms >= next_telemetry_ms`. -/
def telemetry (loop : MainLoop) (input : LoopInput K w) : MainLoop × LoopTrace K w :=
  if loop.nextTelemetryMs ≤ input.nowMs then
    let state := input.telemetryState
    let changed := loop.previousStatus ≠ some state.status
    ({ loop with
        nextTelemetryMs := input.nowMs + telemetryPeriodMs
        previousStatus := some state.status },
      ⟨errorLines input.publishError
          ++ if changed then [.status (StatusReport.ofState state)] else [],
        [input.publishCall], []⟩)
  else (loop, .empty)

/-- The numbers of a report. -/
def metrics (loop : MainLoop) (prepared : PreparedMetrics w) (input : LoopInput K w) :
    MetricsReport w where
  acceptedCommands := loop.acceptedCommands
  rejectedCommands := loop.rejectedCommands
  rosSteadyAllocCalls := input.ros.calls - prepared.ros.calls
  middlewareSteadyAllocCalls := input.middleware.calls - prepared.middleware.calls
  rosHighWater := input.ros.highWaterBytes
  middlewareHighWater := input.middleware.highWaterBytes
  maxLatenessUs := input.reportState.maxReleaseLatenessUs
  skippedReleases := input.reportState.skippedReleases
  stackUnused := input.stackUnused

/-- The branch under `now_ms >= next_report_ms`; `probe` is `STATIC_CONTROL_TIMING_PROBE`. -/
def report (prepared : PreparedMetrics w) (probe : Bool) (loop : MainLoop)
    (input : LoopInput K w) : MainLoop × LoopTrace K w :=
  if loop.nextReportMs ≤ input.nowMs then
    ({ loop with nextReportMs := input.nowMs + reportPeriodMs },
      ⟨.metrics (loop.metrics prepared input) :: if probe then [.timing input.timing] else [],
        [], [(input.nowMs, loop.metrics prepared input)]⟩)
  else (loop, .empty)

/-- One turn of the loop. -/
def iterate (prepared : PreparedMetrics w) (probe : Bool) (loop : MainLoop)
    (input : LoopInput K w) : MainLoop × LoopTrace K w :=
  let (loop, spun) := loop.spin input
  let (loop, told) := loop.telemetry input
  let (loop, reported) := loop.report prepared probe input
  (loop, spun.append (told.append reported))

/-- The turns of a run. -/
def run (prepared : PreparedMetrics w) (probe : Bool) :
    MainLoop → List (LoopInput K w) → LoopTrace K w
  | _, [] => .empty
  | loop, input :: inputs =>
      let (loop, trace) := loop.iterate prepared probe input
      trace.append (run prepared probe loop inputs)

end MainLoop

/-! ## One turn

A turn is three pieces in a row.  Each variable of the loop is written by one of them, so what a
turn does to it is what that piece does.
-/

namespace MainLoop

variable (prepared : PreparedMetrics w) (probe : Bool) (loop : MainLoop) (input : LoopInput K w)

/-- The two branches of a turn, on the loop after the executor. -/
lemma iterate_eq :
    loop.iterate prepared probe input
      = let told := (loop.spin input).1.telemetry input
        let reported := told.1.report prepared probe input
        (reported.1, (loop.spin input).2.append (told.2.append reported.2)) :=
  rfl

@[simp] lemma report_nextTelemetryMs :
    (loop.report prepared probe input).1.nextTelemetryMs = loop.nextTelemetryMs := by
  rw [report]
  split <;> rfl

@[simp] lemma report_previousStatus :
    (loop.report prepared probe input).1.previousStatus = loop.previousStatus := by
  rw [report]
  split <;> rfl

@[simp] lemma report_publishCalls : (loop.report prepared probe input).2.publishCalls = [] := by
  rw [report]
  split <;> rfl

lemma report_nextReportMs :
    (loop.report prepared probe input).1.nextReportMs
      = if loop.nextReportMs ≤ input.nowMs then input.nowMs + reportPeriodMs
        else loop.nextReportMs := by
  rw [report]
  split <;> rfl

@[simp] lemma telemetry_nextReportMs :
    (loop.telemetry input).1.nextReportMs = loop.nextReportMs := by
  rw [telemetry]
  split <;> rfl

@[simp] lemma telemetry_reports : (loop.telemetry input).2.reports = [] := by
  rw [telemetry]
  split <;> rfl

lemma iterate_nextTelemetryMs :
    (loop.iterate prepared probe input).1.nextTelemetryMs
      = if loop.nextTelemetryMs ≤ input.nowMs then input.nowMs + telemetryPeriodMs
        else loop.nextTelemetryMs := by
  rw [iterate_eq, report_nextTelemetryMs, telemetry, spin]
  split <;> rfl

lemma iterate_previousStatus :
    (loop.iterate prepared probe input).1.previousStatus
      = if loop.nextTelemetryMs ≤ input.nowMs then some input.telemetryState.status
        else loop.previousStatus := by
  rw [iterate_eq, report_previousStatus, telemetry, spin]
  split <;> rfl

lemma iterate_nextReportMs :
    (loop.iterate prepared probe input).1.nextReportMs
      = if loop.nextReportMs ≤ input.nowMs then input.nowMs + reportPeriodMs
        else loop.nextReportMs := by
  rw [iterate_eq, report_nextReportMs, telemetry_nextReportMs]
  rfl

lemma iterate_publishCalls :
    (loop.iterate prepared probe input).2.publishCalls
      = if loop.nextTelemetryMs ≤ input.nowMs then [input.publishCall] else [] := by
  simp only [iterate_eq, LoopTrace.append, report_publishCalls, List.append_nil]
  rw [telemetry, spin]
  split <;> rfl

lemma iterate_report_times :
    (loop.iterate prepared probe input).2.reports.map Prod.fst
      = if loop.nextReportMs ≤ input.nowMs then [input.nowMs] else [] := by
  simp only [iterate_eq, LoopTrace.append, telemetry_reports, List.nil_append]
  rw [report, telemetry_nextReportMs, spin]
  split <;> rfl

end MainLoop

/-! ## When the loop publishes and reports

Both branches have the same shape, a time that is due and is set anew from the clock: the times at
which they are taken are `Periodic.fires`.
-/

section Cadence

variable (prepared : PreparedMetrics w) (probe : Bool)

/-- The clock of each turn. -/
def turnTimes (inputs : List (LoopInput K w)) : List ℤ := inputs.map LoopInput.nowMs

/-- What is published is what the turn has read. -/
lemma publishCalls_sublist (loop : MainLoop) (inputs : List (LoopInput K w)) :
    (loop.run prepared probe inputs).publishCalls.Sublist (inputs.map LoopInput.publishCall) := by
  induction inputs generalizing loop with
  | nil => exact .slnil
  | cons input inputs ih =>
      have hrest := ih (loop.iterate prepared probe input).1
      simp only [MainLoop.run, LoopTrace.append, MainLoop.iterate_publishCalls, List.map_cons]
      split
      · exact hrest.cons_cons _
      · exact hrest.cons _

lemma publishCall_times (loop : MainLoop) (inputs : List (LoopInput K w)) :
    (loop.run prepared probe inputs).publishCalls.map PublishCall.timeMs
      = Periodic.fires telemetryPeriodMs loop.nextTelemetryMs (turnTimes inputs) := by
  induction inputs generalizing loop with
  | nil => rfl
  | cons input inputs ih =>
      have hrest := ih (loop.iterate prepared probe input).1
      rw [MainLoop.iterate_nextTelemetryMs] at hrest
      simp only [MainLoop.run, LoopTrace.append, List.map_append, hrest,
        MainLoop.iterate_publishCalls, turnTimes, List.map_cons, Periodic.fires]
      split <;> rfl

lemma report_times (loop : MainLoop) (inputs : List (LoopInput K w)) :
    (loop.run prepared probe inputs).reports.map Prod.fst
      = Periodic.fires reportPeriodMs loop.nextReportMs (turnTimes inputs) := by
  induction inputs generalizing loop with
  | nil => rfl
  | cons input inputs ih =>
      have hrest := ih (loop.iterate prepared probe input).1
      rw [MainLoop.iterate_nextReportMs] at hrest
      simp only [MainLoop.run, LoopTrace.append, List.map_append, hrest,
        MainLoop.iterate_report_times, turnTimes, List.map_cons, Periodic.fires]
      split <;> rfl

end Cadence

/-! ## What the loop prints

The status is printed with a publication, the metrics with a report.  What else is printed is quiet.
-/

section Printed

variable (prepared : PreparedMetrics w) (probe : Bool)

lemma statusReport?_errorLines (error : Option QuietLine) :
    (errorLines error : List (ConsoleLine w)).filterMap ConsoleLine.statusReport? = [] := by
  cases error <;> rfl

lemma metricsReport?_errorLines (error : Option QuietLine) :
    (errorLines error : List (ConsoleLine w)).filterMap ConsoleLine.metricsReport? = [] := by
  cases error <;> rfl

namespace MainLoop

variable (loop : MainLoop) (input : LoopInput K w)

lemma report_statusLines :
    (loop.report prepared probe input).2.lines.filterMap ConsoleLine.statusReport? = [] := by
  rw [report]
  split
  · cases probe <;> rfl
  · rfl

lemma telemetry_metricsLines :
    (loop.telemetry input).2.lines.filterMap ConsoleLine.metricsReport? = [] := by
  rw [telemetry]
  split
  · rw [List.filterMap_append, metricsReport?_errorLines]
    split <;> rfl
  · rfl

/-- A turn prints the status if it publishes and the status is another one than at the publication
before. -/
lemma iterate_statusLines :
    (loop.iterate prepared probe input).2.lines.filterMap ConsoleLine.statusReport?
      = if loop.nextTelemetryMs ≤ input.nowMs then
          if loop.previousStatus ≠ some input.telemetryState.status then
            [StatusReport.ofState input.telemetryState]
          else []
        else [] := by
  simp only [iterate_eq, LoopTrace.append, List.filterMap_append, report_statusLines,
    List.append_nil]
  rw [spin, statusReport?_errorLines, List.nil_append, telemetry]
  dsimp only
  split
  · rw [List.filterMap_append, statusReport?_errorLines, List.nil_append]
    split <;> rfl
  · rfl

lemma iterate_metricsLines :
    (loop.iterate prepared probe input).2.lines.filterMap ConsoleLine.metricsReport?
      = (loop.iterate prepared probe input).2.reports.map Prod.snd := by
  simp only [iterate_eq, LoopTrace.append, List.filterMap_append, telemetry_metricsLines,
    telemetry_reports, List.nil_append]
  rw [spin, metricsReport?_errorLines, List.nil_append, List.nil_append, report]
  split
  · cases probe <;> rfl
  · rfl

end MainLoop

/-- The states at which the status is another than at the one before. -/
def statusChanges : Option StaticControlStatus → List (StaticControlState K) → List StatusReport
  | _, [] => []
  | previous, state :: states =>
      (if previous ≠ some state.status then [StatusReport.ofState state] else [])
        ++ statusChanges (some state.status) states

lemma run_statusLines (loop : MainLoop) (inputs : List (LoopInput K w)) :
    (loop.run prepared probe inputs).lines.filterMap ConsoleLine.statusReport?
      = statusChanges loop.previousStatus
          ((loop.run prepared probe inputs).publishCalls.map PublishCall.state) := by
  induction inputs generalizing loop with
  | nil => rfl
  | cons input inputs ih =>
      have hrest := ih (loop.iterate prepared probe input).1
      rw [MainLoop.iterate_previousStatus] at hrest
      simp only [MainLoop.run, LoopTrace.append, List.filterMap_append, List.map_append, hrest,
        MainLoop.iterate_statusLines, MainLoop.iterate_publishCalls]
      split <;> rfl

lemma run_metricsLines (loop : MainLoop) (inputs : List (LoopInput K w)) :
    (loop.run prepared probe inputs).lines.filterMap ConsoleLine.metricsReport?
      = (loop.run prepared probe inputs).reports.map Prod.snd := by
  induction inputs generalizing loop with
  | nil => rfl
  | cons input inputs ih =>
      simp only [MainLoop.run, LoopTrace.append, List.filterMap_append, List.map_append, ih,
        MainLoop.iterate_metricsLines]

lemma head_destutter' {α : Type*} (R : α → α → Prop) [DecidableRel R] (a : α) (l : List α) :
    l.destutter' R a = a :: (l.destutter' R a).tail := by
  induction l generalizing a with
  | nil => rfl
  | cons b l ih =>
      rw [List.destutter'_cons]
      split
      · rfl
      · exact ih a

/-- The reports of two states with another status. -/
def OtherStatus (a b : StatusReport) : Prop := a.status ≠ b.status

instance OtherStatus.decidable : DecidableRel OtherStatus :=
  fun a b => inferInstanceAs (Decidable (a.status ≠ b.status))

/-- After a first report, the changes are what `List.destutter'` leaves of the others. -/
lemma statusChanges_some (report : StatusReport) (states : List (StaticControlState K)) :
    statusChanges (some report.status) states
      = ((states.map StatusReport.ofState).destutter' OtherStatus report).tail := by
  induction states generalizing report with
  | nil => rfl
  | cons state states ih =>
      rw [statusChanges, List.map_cons, List.destutter'_cons]
      have hsame : (StatusReport.ofState state).status = state.status := rfl
      by_cases hstatus : report.status = state.status
      · rw [if_neg (by simp [hstatus]), if_neg (by simp [OtherStatus, hstatus, hsame]),
          List.nil_append, ← hstatus, ih report]
      · rw [if_pos (by simpa using hstatus), if_pos (by simpa [OtherStatus, hsame] using hstatus),
          ← hsame, ih (StatusReport.ofState state), List.singleton_append, List.tail_cons,
          ← head_destutter']

lemma statusChanges_none (states : List (StaticControlState K)) :
    statusChanges none states = (states.map StatusReport.ofState).destutter OtherStatus := by
  cases states with
  | nil => rfl
  | cons state states =>
      have hsome := statusChanges_some (StatusReport.ofState state) states
      rw [statusChanges, if_pos (by simp), List.map_cons, List.destutter_cons', head_destutter',
        ← hsome]
      rfl

end Printed

/-- **The cadence of the main loop.**  Whatever happens in the turns, if the clock does not go back
and no turn takes longer than `turn`:

* `rcl_publish` is called in the first turn and then at intervals of 100 ms and less than `turn`
  more, with the state that the turn has read, and at no turn is the last call 100 ms ago, whether
  or not the calls succeed;
* reports follow the start and each other at intervals of one second and less than `turn` more, and
  at no turn is the last of them (or the start) a second ago;
* the status is printed exactly at the first of these calls and wherever it differs from that of the
  call before. -/
theorem main_loop_cadence (prepared : PreparedMetrics w) (probe : Bool) (startMs turn : ℤ)
    (inputs : List (LoopInput K w))
    (hturns : (startMs :: turnTimes inputs).IsChain fun a b => a ≤ b ∧ b ≤ a + turn) :
    let trace := (MainLoop.start startMs).run prepared probe inputs
    let calls := trace.publishCalls.map PublishCall.timeMs
    let reports := trace.reports.map Prod.fst
    trace.publishCalls.Sublist (inputs.map LoopInput.publishCall) ∧
      calls.head? = (turnTimes inputs).head? ∧
      (calls.IsChain fun a b => a + 100 ≤ b ∧ b < a + 100 + turn) ∧
      (∀ t ∈ turnTimes inputs, ∃ a ∈ calls, a ≤ t ∧ t < a + 100) ∧
      ((startMs :: reports).IsChain fun a b => a + 1000 ≤ b ∧ b < a + 1000 + turn) ∧
      (∀ t ∈ turnTimes inputs, ∃ a ∈ startMs :: reports, a ≤ t ∧ t < a + 1000) ∧
      trace.lines.filterMap ConsoleLine.statusReport?
        = (trace.publishCalls.map fun call => StatusReport.ofState call.state).destutter
            OtherStatus := by
  intro trace calls reports
  have hclock : (startMs :: turnTimes inputs).IsChain (· ≤ ·) := hturns.imp fun _ _ h => h.1
  have hlate : (startMs :: turnTimes inputs).IsChain fun a b => b ≤ a + turn :=
    hturns.imp fun _ _ h => h.2
  have hstart : ∀ t ∈ turnTimes inputs, startMs ≤ t := fun t ht =>
    List.rel_of_pairwise_cons (List.isChain_iff_pairwise.mp hclock) ht
  have hcalls : calls = Periodic.fires telemetryPeriodMs startMs (turnTimes inputs) :=
    publishCall_times prepared probe (MainLoop.start startMs) inputs
  have hreports :
      reports = Periodic.fires reportPeriodMs (startMs + reportPeriodMs) (turnTimes inputs) :=
    report_times prepared probe (MainLoop.start startMs) inputs
  refine ⟨publishCalls_sublist prepared probe _ inputs, ?_, ?_, fun t ht => ?_, ?_,
    fun t ht => ?_, ?_⟩
  · rw [hcalls]
    cases hturn : turnTimes inputs with
    | nil => rfl
    | cons first later =>
        rw [Periodic.fires, if_pos (hstart first (by rw [hturn]; exact List.mem_cons_self))]
        rfl
  · rw [hcalls]
    exact Periodic.isChain_fires (by decide) hlate.tail
  · rw [hcalls]
    exact (Periodic.exists_fires (by decide) hclock.tail t ht).resolve_left
      (hstart t ht).not_gt
  · rw [hreports, List.isChain_cons]
    exact ⟨Periodic.head_fires (by simp [reportPeriodMs]) hlate,
      Periodic.isChain_fires (by decide) hlate.tail⟩
  · rw [hreports]
    have hperiod : 0 < reportPeriodMs := by decide
    -- before the first report the start is the last one
    rcases Periodic.exists_fires hperiod hclock.tail t ht with hsoon | ⟨a, ha, htime⟩
    · exact ⟨startMs, List.mem_cons_self, hstart t ht, hsoon⟩
    · exact ⟨a, List.mem_cons_of_mem _ ha, htime⟩
  · rw [run_statusLines]
    refine (statusChanges_none _).trans ?_
    rw [List.map_map]
    rfl

/-- A turn of a device that is not commanded; the middleware has allocated `calls` times. -/
def idleTurn (nowMs : ℤ) (calls : SizeT 32) : LoopInput ℚ 32 where
  spinError := none
  accepted := 0
  rejected := 0
  nowMs := nowMs
  telemetryState := .initial
  publishError := none
  reportState := .initial
  ros := ⟨7, 0, 0, 0⟩
  middleware := ⟨calls, 0, 0, 0⟩
  stackUnused := some 512
  timing := ⟨0, 0, 0, 0, 0, 0, 0, 0, 0⟩

/-- The counters when such a device was ready. -/
def idlePrepared : PreparedMetrics 32 := ⟨⟨7, 0, 0, 0⟩, ⟨40, 0, 0, 0⟩⟩

/-- Seven turns in two seconds: the status is printed once, and there are two reports. -/
def idleTurns : List (LoopInput ℚ 32) :=
  [idleTurn 0 40, idleTurn 350 41, idleTurn 700 44, idleTurn 1050 48, idleTurn 1400 50,
    idleTurn 1750 55, idleTurn 2100 60]

theorem main_loop_cadence_idle :
    ((0 : ℤ) :: turnTimes idleTurns).IsChain (fun a b => a ≤ b ∧ b ≤ a + 350) ∧
      (let trace := (MainLoop.start 0).run idlePrepared true idleTurns
      trace.publishCalls.map PublishCall.timeMs = turnTimes idleTurns ∧
        trace.reports.map Prod.fst = [1050, 2100] ∧
        trace.lines.filterMap ConsoleLine.statusReport? = [⟨.disabled, 0, 0, 0⟩]) := by
  have hturns : ((0 : ℤ) :: turnTimes idleTurns).IsChain (fun a b => a ≤ b ∧ b ≤ a + 350) := by
    decide
  obtain ⟨-, -, -, -, -, -, hstatus⟩ := main_loop_cadence idlePrepared true 0 350 idleTurns hturns
  refine ⟨hturns, by decide, by decide, ?_⟩
  rw [hstatus]
  decide

end Ros2Zephyr
