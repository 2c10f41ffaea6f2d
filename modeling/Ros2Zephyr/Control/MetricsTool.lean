import Ros2Zephyr.Control.MainLoop
import Ros2Zephyr.Core.Fallible
import Ros2Zephyr.Core.Lines
import Ros2Zephyr.Core.PyDict
import Ros2Zephyr.Core.PyInt

/-!
# Checking the metrics of a log

`tools/check_static_control_metrics.py`: the records are the lines with `STATIC_CONTROL_METRICS`,
ROS must not have allocated since the device was ready, and the allocations of the middleware must
not grow by more than a bound between two records.

* `parseMetrics`, `checkMetrics`, `mainMetrics` — the tool.
* `metrics_verdict_exact` — its verdict on the log of a run of the device, in terms of the counters
  of the device.
-/

namespace Ros2Zephyr

open PyRe PyStr Fallible

/-! ## The tool -/

/-- How the tool ends if it does not return: its own error, and what it does not catch. -/
inductive MetricsFailure
  | metricsError (message : PyStr)
  /-- `int` of more digits than the interpreter takes -/
  | valueError
  /-- `middleware[0]` of no records -/
  | indexError
  deriving DecidableEq

/-- A line of the log as `parse_metrics` returns it; the two values are those of the required
keys. -/
structure MetricsRecord where
  values : List (PyStr × ℤ)
  rosSteadyAllocCalls : ℤ
  middlewareSteadyAllocCalls : ℤ
  deriving DecidableEq

/-- `int(value)` of a row of digits. -/
def intOfDigits (digits : PyStr) : Except MetricsFailure ℤ :=
  if maxStrDigits < digits.length then .error .valueError else .ok (decimal digits)

/-- The test for one required key, and its value. -/
def requiredValue (values : List (PyStr × ℤ)) (key : PyStr) : Except MetricsFailure ℤ :=
  match values.lookup key with
  | some value => .ok value
  | none => .error (.metricsError ("metrics marker is missing " ++ key))

/-- One turn of the loop over the lines. -/
def metricsRecord (line : PyStr) : Except MetricsFailure MetricsRecord := do
  let pairs ← (findPairs isDigit line).mapM fun p => (intOfDigits p.2).map fun n => (p.1, n)
  let values := PyDict.ofPairs pairs
  let ros ← requiredValue values "ros_steady_alloc_calls"
  let middleware ← requiredValue values "middleware_steady_alloc_calls"
  return ⟨values, ros, middleware⟩

def parseMetrics (text : PyStr) : Except MetricsFailure (List MetricsRecord) :=
  ((splitLines text).filter fun line =>
    (Lines.find "STATIC_CONTROL_METRICS" line).isSome).mapM metricsRecord

/-- What `check_metrics` returns. -/
structure MetricsSummary where
  samples : ℕ
  maximumMiddlewareDelta : ℤ
  finalMiddlewareCalls : ℤ
  deriving DecidableEq

/-- `[later - earlier for earlier, later in zip(middleware, middleware[1:])]` -/
def deltas : List ℤ → List ℤ
  | earlier :: later :: rest => (later - earlier) :: deltas (later :: rest)
  | _ => []

/-- `max(deltas, default=first)` -/
def maximumObserved (first : ℤ) : List ℤ → ℤ
  | [] => first
  | delta :: rest => rest.foldl max delta

def checkMetrics (records : List MetricsRecord) (minimumSamples maximumMiddlewareDelta : ℤ) :
    Except MetricsFailure MetricsSummary := do
  if records.length < minimumSamples then
    throw (.metricsError ("expected at least " ++ PyStr.ofInt minimumSamples
      ++ " metrics samples, found " ++ PyStr.ofNat records.length))
  if records.any (fun record => record.rosSteadyAllocCalls != 0) then
    throw (.metricsError "ROS steady-state allocation attempts must remain zero")
  let middleware := records.map MetricsRecord.middlewareSteadyAllocCalls
  if (deltas middleware).any (fun delta => decide (delta < 0)) then
    throw (.metricsError "middleware allocation counter decreased between samples")
  match middleware with
  | [] => throw .indexError
  | first :: rest =>
      let observed := maximumObserved first (deltas middleware)
      if observed > maximumMiddlewareDelta then
        throw (.metricsError ("middleware allocation delta exceeds bound: observed="
          ++ PyStr.ofInt observed ++ " allowed="
          ++ PyStr.ofInt maximumMiddlewareDelta))
      return ⟨records.length, observed, rest.getLastD first⟩

/-- The arguments, and the log as `read_text` returns it or the text of its `OSError`. -/
structure MetricsArguments where
  path : PyStr
  log : Except PyStr PyStr
  minimumSamples : ℤ
  maximumMiddlewareDelta : ℤ

/-- The body of the `try` statement. -/
def metricsVerdict (args : MetricsArguments) : Except MetricsFailure MetricsSummary := do
  if args.minimumSamples < 1 ∨ args.maximumMiddlewareDelta < 0 then
    throw (.metricsError "metric bounds must be non-negative and require at least one sample")
  match args.log with
  | .error error =>
      throw (.metricsError ("cannot read " ++ args.path ++ ": "
        ++ error))
  | .ok text =>
      let records ← parseMetrics text
      checkMetrics records args.minimumSamples args.maximumMiddlewareDelta

/-- How the process ends.  The line it prints goes to stdout if the status is 0 and to stderr
otherwise. -/
inductive ToolEnd
  | returns (status : ℕ) (output : PyStr)
  | traceback
  deriving DecidableEq

def mainMetrics (args : MetricsArguments) : ToolEnd :=
  match metricsVerdict args with
  | .ok result =>
      .returns 0 ("ROS2_ZEPHYR_STATIC_CONTROL_METRICS_PASS samples="
        ++ PyStr.ofNat result.samples ++ " max_middleware_delta="
        ++ PyStr.ofInt result.maximumMiddlewareDelta ++ " final_middleware_calls="
        ++ PyStr.ofInt result.finalMiddlewareCalls)
  | .error (.metricsError message) =>
      .returns 2 ("E_STATIC_CONTROL_METRICS: " ++ message)
  | .error _ => .traceback

/-! ## The records of a log

The lines are split, those with the marker are kept, and the pairs of each are the numbers of the
report.  None of them has more digits than `int` takes, since a counter has at most 64 bits.
-/

section Records

variable {w : ℕ}

lemma intOfDigits_ofNat {n : ℕ} (h : n < 2 ^ 64) : intOfDigits (PyStr.ofNat n) = .ok (n : ℤ) := by
  rw [intOfDigits, if_neg (length_ofNat_le h).not_gt, decimal_ofNat]

namespace MetricsReport

/-- The fields with numbers. -/
def numbers (m : MetricsReport w) : List (ConsoleKey × ℕ) := m.counters ++ m.stackCounters

/-- What the tool keeps of a report. -/
def record (m : MetricsReport w) : MetricsRecord where
  values := m.numbers.map fun p => (p.1.text, (p.2 : ℤ))
  rosSteadyAllocCalls := m.rosSteadyAllocCalls.toNat
  middlewareSteadyAllocCalls := m.middlewareSteadyAllocCalls.toNat

lemma numbers_lt (hw : w ≤ 64) (m : MetricsReport w) : ∀ p ∈ m.numbers, p.2 < 2 ^ 64 := by
  have hsize (n : SizeT w) : n.toNat < 2 ^ 64 :=
    n.isLt.trans_le (Nat.pow_le_pow_right (by decide) hw)
  have hword (n : UInt32) : n.toNat < 2 ^ 64 := n.toNat_lt.trans (by decide)
  rw [numbers, List.forall_mem_append]
  constructor
  · simp only [counters, List.forall_mem_cons, hsize, hword, true_and]
    simp
  · rw [stackCounters]
    split
    · rw [List.forall_mem_singleton]
      exact hsize _
    · simp

lemma numbers_keys (m : MetricsReport w) : (m.numbers.map fun p => p.1.text).Nodup := by
  rw [numbers, stackCounters]
  cases m.stackUnused with
  | none => exact (by decide : ([.accepted, .rejected, .rosSteadyAllocCalls,
      .middlewareSteadyAllocCalls, .rosHighWater, .middlewareHighWater, .maxLatenessUs,
      .skipped] : List ConsoleKey).map ConsoleKey.text |>.Nodup)
  | some bytes => exact (by decide : ([.accepted, .rejected, .rosSteadyAllocCalls,
      .middlewareSteadyAllocCalls, .rosHighWater, .middlewareHighWater, .maxLatenessUs,
      .skipped, .unusedBytes] : List ConsoleKey).map ConsoleKey.text |>.Nodup)

end MetricsReport

/-- A field with a number has a value of digits. -/
lemma all_isDigit_number (p : ConsoleKey × ℕ) :
    (numberField p.1 p.2).value.all isDigit = true :=
  List.all_eq_true.mpr fun _ hc => isDigit_of_mem_ofNat hc

lemma filter_numberFields (counters : List (ConsoleKey × ℕ)) :
    (numberFields counters).filter (fun f => f.value.all isDigit) = numberFields counters := by
  refine List.filter_eq_self.mpr fun f hf => ?_
  obtain ⟨p, -, rfl⟩ := List.mem_map.mp hf
  exact all_isDigit_number p

/-- The pairs of a line of metrics: the word of the stack is passed over. -/
lemma findPairs_metrics (m : MetricsReport w) :
    findPairs isDigit m.line.text = m.numbers.map fun p => (p.1.text, PyStr.ofNat p.2) := by
  have hnumber : ∀ counters, ∀ f ∈ numberFields counters, ∀ c ∈ f.value, isDigit c = true := by
    intro counters f hf
    obtain ⟨p, -, rfl⟩ := List.mem_map.mp hf
    exact fun c hc => isDigit_of_mem_ofNat hc
  have hstack : ∀ c ∈ (stackField m.stackUnused.isSome).value.head?, isDigit c = false := by
    cases m.stackUnused.isSome <;> decide
  have hall : (stackField m.stackUnused.isSome).value.all isDigit = false := by
    cases m.stackUnused.isSome <;> decide
  rw [findPairs_text (by decide)]
  · rw [MetricsReport.line, markedLine, List.filter_append,
      List.filter_cons_of_neg (by simp [hall]), filter_numberFields, filter_numberFields,
      MetricsReport.numbers, numberFields, numberFields, ← List.map_append, List.map_map]
    rfl
  · rw [MetricsReport.line, markedLine, List.forall_mem_append, List.forall_mem_cons]
    exact ⟨fun f hf => .inl (hnumber _ f hf), .inr hstack, fun f hf => .inl (hnumber _ f hf)⟩

/-- **A line of metrics** is read as the report it was printed from. -/
lemma metricsRecord_line (hw : w ≤ 64) (m : MetricsReport w) :
    metricsRecord m.line.text = .ok m.record := by
  have hvalues : (m.numbers.map fun p => (p.1.text, PyStr.ofNat p.2)).mapM
      (fun p => (intOfDigits p.2).map fun n => (p.1, n))
        = .ok (m.numbers.map fun p => (p.1.text, (p.2 : ℤ))) := by
    rw [List.mapM_map]
    refine mapM_eq_ok fun p hp => ?_
    rw [Function.comp_apply, intOfDigits_ofNat (m.numbers_lt hw p hp)]
    rfl
  have hnodup : ((m.numbers.map fun p => (p.1.text, (p.2 : ℤ))).map Prod.fst).Nodup := by
    rw [List.map_map]
    exact m.numbers_keys
  rw [metricsRecord, findPairs_metrics, hvalues, ok_bind, PyDict.ofPairs_eq_self hnodup]
  rfl

namespace ConsoleLine

lemma find_metrics (line : ConsoleLine w) :
    (Lines.find "STATIC_CONTROL_METRICS" line.text).isSome
      = line.metricsReport?.isSome := by
  rw [Bool.eq_iff_iff, Lines.find_isSome_iff]
  constructor
  · intro h
    have hmarker : PyStr.ofString "_METRICS" <:+: PyStr.ofString "STATIC_CONTROL_METRICS" := by
      decide
    exact line.metrics_infix_iff.mp (hmarker.trans h)
  · intro h
    cases line with
    | metrics report => exact (List.prefix_append _ _).isInfix
    | status | timing | other => cases h

end ConsoleLine

/-- The lines of a log are the lines that were written. -/
lemma splitLines_consoleText (lines : List (ConsoleLine w)) :
    splitLines (consoleText lines) = lines.map ConsoleLine.text := by
  rw [consoleText_eq_unlines]
  refine splitLines_unlines fun text htext => ?_
  obtain ⟨line, -, rfl⟩ := List.mem_map.mp htext
  exact line.unbroken

/-- **The records of a log** are the reports in it. -/
theorem parseMetrics_consoleText (hw : w ≤ 64) (lines : List (ConsoleLine w)) :
    parseMetrics (consoleText lines)
      = .ok ((lines.filterMap ConsoleLine.metricsReport?).map MetricsReport.record) := by
  rw [parseMetrics, splitLines_consoleText]
  induction lines with
  | nil => rfl
  | cons line lines ih =>
      rw [List.map_cons, List.filter_cons, line.find_metrics]
      cases line with
      | metrics report =>
          rw [ConsoleLine.metricsReport?, Option.isSome_some, if_pos rfl, List.mapM_cons,
            ConsoleLine.text, metricsRecord_line hw, ok_bind, ih]
          rfl
      | status | timing | other => exact ih

end Records

/-! ## The check

The tool computes the growth between neighbours and compares the extremes; a property of all
neighbours is what it comes to.
-/

section Check

lemma forall_mem_deltas {P : ℤ → Prop} (l : List ℤ) :
    (∀ d ∈ deltas l, P d) ↔ l.IsChain fun a b => P (b - a) := by
  induction l with
  | nil => simp [deltas]
  | cons a l ih =>
      cases l with
      | nil => simp [deltas]
      | cons b l => rw [deltas, List.forall_mem_cons, ih, List.isChain_cons_cons]

lemma foldl_max_le {d bound : ℤ} (l : List ℤ) :
    l.foldl max d ≤ bound ↔ d ≤ bound ∧ ∀ x ∈ l, x ≤ bound := by
  induction l generalizing d with
  | nil => simp
  | cons x l ih => rw [List.foldl_cons, ih, max_le_iff, List.forall_mem_cons, and_assoc]

/-- With one record there is no growth, and the counter itself is held to the bound. -/
lemma maximumObserved_le {first bound : ℤ} (rest : List ℤ) :
    maximumObserved first (deltas (first :: rest)) ≤ bound
      ↔ (rest = [] → first ≤ bound) ∧ ∀ d ∈ deltas (first :: rest), d ≤ bound := by
  cases rest with
  | nil => simp [deltas, maximumObserved]
  | cons second rest => simp [deltas, maximumObserved, foldl_max_le]

/-- The growth that the check allows. -/
def GrowthWithin (bound : ℤ) (middleware : List ℤ) : Prop :=
  (middleware.IsChain fun a b => a ≤ b ∧ b ≤ a + bound) ∧
    (middleware.length = 1 → ∀ calls ∈ middleware, calls ≤ bound)

instance GrowthWithin.decidable (bound : ℤ) (middleware : List ℤ) :
    Decidable (GrowthWithin bound middleware) :=
  inferInstanceAs (Decidable ((middleware.IsChain fun a b => a ≤ b ∧ b ≤ a + bound) ∧
    (middleware.length = 1 → ∀ calls ∈ middleware, calls ≤ bound)))

/-- The least growth is compared with zero and the largest with the bound.  With a single record the
second comparison is of the counter itself. -/
lemma growthWithin_iff {bound first : ℤ} {rest : List ℤ} :
    GrowthWithin bound (first :: rest) ↔ (∀ d ∈ deltas (first :: rest), 0 ≤ d) ∧
      maximumObserved first (deltas (first :: rest)) ≤ bound := by
  have hchain : ((first :: rest).IsChain fun a b => a ≤ b ∧ b ≤ a + bound)
      ↔ ∀ d ∈ deltas (first :: rest), 0 ≤ d ∧ d ≤ bound := by
    rw [forall_mem_deltas]
    constructor
    · exact fun h => h.imp fun a b hab => by omega
    · exact fun h => h.imp fun a b hab => by omega
  have hsingle : ((first :: rest).length = 1 → ∀ calls ∈ first :: rest, calls ≤ bound)
      ↔ (rest = [] → first ≤ bound) := by
    cases rest <;> simp
  rw [GrowthWithin, hchain, hsingle, maximumObserved_le, forall₂_and]
  tauto

/-- What the records of a run have to satisfy. -/
def Healthy (records : List MetricsRecord) (minimum maximum : ℤ) : Prop :=
  minimum ≤ records.length ∧ (∀ record ∈ records, record.rosSteadyAllocCalls = 0) ∧
    GrowthWithin maximum (records.map MetricsRecord.middlewareSteadyAllocCalls)

/-- **The check** accepts the healthy records and refuses the others with an error of its own. -/
lemma checkMetrics_spec {records : List MetricsRecord} {minimum maximum : ℤ}
    (hminimum : 1 ≤ minimum) :
    (Healthy records minimum maximum ∧
        ∃ summary, checkMetrics records minimum maximum = .ok summary) ∨
      (¬ Healthy records minimum maximum ∧
        ∃ message, checkMetrics records minimum maximum = .error (.metricsError message)) := by
  by_cases hlength : (records.length : ℤ) < minimum
  · refine .inr ⟨fun h => hlength.not_ge h.1, ?_⟩
    rw [checkMetrics, if_pos hlength]
    exact ⟨_, rfl⟩
  by_cases hros : records.any (fun record => record.rosSteadyAllocCalls != 0) = true
  · refine .inr ⟨fun h => ?_, ?_⟩
    · obtain ⟨record, hmem, hne⟩ := List.any_eq_true.mp hros
      exact bne_iff_ne.mp hne (h.2.1 record hmem)
    · rw [checkMetrics, if_neg hlength, if_pos hros]
      exact ⟨_, rfl⟩
  -- there is a record, so `middleware[0]` does not fail
  obtain ⟨record, rest, rfl⟩ : ∃ record rest, records = record :: rest := by
    refine List.exists_cons_of_ne_nil ?_
    rintro rfl
    rw [List.length_nil] at hlength
    omega
  have hsilent : ∀ r ∈ record :: rest, r.rosSteadyAllocCalls = 0 := by
    simpa using hros
  have hiff : Healthy (record :: rest) minimum maximum ↔
      (∀ d ∈ deltas ((record :: rest).map MetricsRecord.middlewareSteadyAllocCalls), 0 ≤ d) ∧
        maximumObserved record.middlewareSteadyAllocCalls
          (deltas ((record :: rest).map MetricsRecord.middlewareSteadyAllocCalls)) ≤ maximum := by
    rw [Healthy, List.map_cons, growthWithin_iff]
    exact ⟨fun h => h.2.2, fun h => ⟨not_lt.mp hlength, hsilent, h⟩⟩
  rw [hiff]
  by_cases hdrop : (deltas ((record :: rest).map MetricsRecord.middlewareSteadyAllocCalls)).any
      (fun delta => decide (delta < 0)) = true
  · refine .inr ⟨fun h => ?_, ?_⟩
    · obtain ⟨delta, hmem, hneg⟩ := List.any_eq_true.mp hdrop
      exact (of_decide_eq_true hneg).not_ge (h.1 delta hmem)
    · rw [checkMetrics, if_neg hlength, if_neg hros, if_pos hdrop]
      exact ⟨_, rfl⟩
  have hgrows : ∀ d ∈ deltas ((record :: rest).map MetricsRecord.middlewareSteadyAllocCalls),
      0 ≤ d := by
    simpa using hdrop
  by_cases hbound : maximumObserved record.middlewareSteadyAllocCalls
      (deltas ((record :: rest).map MetricsRecord.middlewareSteadyAllocCalls)) > maximum
  · refine .inr ⟨fun h => hbound.not_ge h.2, ?_⟩
    rw [checkMetrics, if_neg hlength, if_neg hros, if_neg hdrop]
    simp only [List.map_cons] at hbound ⊢
    rw [if_pos hbound]
    exact ⟨_, rfl⟩
  · refine .inl ⟨⟨hgrows, not_lt.mp hbound⟩, ?_⟩
    rw [checkMetrics, if_neg hlength, if_neg hros, if_neg hdrop]
    simp only [List.map_cons] at hbound ⊢
    rw [if_neg hbound]
    exact ⟨_, rfl⟩

end Check

/-! ## The verdict -/

/-- **The tool on the log of a run.**  On a log in which every line of the device is whole, with
quiet lines of other threads wherever they fall between them, the tool never ends in a traceback: it
returns 0 if the bounds make sense, there are enough reports, in none of them ROS has allocated
since the device was ready, and the counter of the middleware never falls and grows by at most the
bound from one report to the next (a single report is held to the bound itself); otherwise it
returns 2. -/
theorem metrics_verdict_exact {K : Type*} {w : ℕ} (hw : w ≤ 64) (prepared : PreparedMetrics w)
    (probe : Bool) (startMs : ℤ) (inputs : List (LoopInput K w)) (log : List (ConsoleLine w))
    (hlog : WithQuiet ((MainLoop.start startMs).run prepared probe inputs).lines log)
    (path : PyStr) (minimum maximum : ℤ) :
    let trace := (MainLoop.start startMs).run prepared probe inputs
    let reports := trace.reports.map Prod.snd
    let ended := mainMetrics ⟨path, .ok (consoleText log), minimum, maximum⟩
    let sound := 1 ≤ minimum ∧ 0 ≤ maximum ∧ minimum ≤ reports.length ∧
      (∀ m ∈ reports, m.rosSteadyAllocCalls = 0) ∧
      GrowthWithin maximum (reports.map fun m => (m.middlewareSteadyAllocCalls.toNat : ℤ))
    (sound ∧ ∃ output, ended = .returns 0 output) ∨
      (¬ sound ∧ ∃ output, ended = .returns 2 output) := by
  intro trace reports ended sound
  by_cases hbounds : minimum < 1 ∨ maximum < 0
  · refine .inr ⟨fun h => ?_, ?_⟩
    · have hminimum := h.1
      have hmaximum := h.2.1
      omega
    · simp only [ended, mainMetrics, metricsVerdict, if_pos hbounds]
      exact ⟨_, rfl⟩
  have hminimum : 1 ≤ minimum := by omega
  have hparse : parseMetrics (consoleText log) = .ok (reports.map MetricsReport.record) := by
    rw [parseMetrics_consoleText hw, hlog.metricsReports, run_metricsLines]
  have hverdict : metricsVerdict ⟨path, .ok (consoleText log), minimum, maximum⟩
      = checkMetrics (reports.map MetricsReport.record) minimum maximum := by
    simp only [metricsVerdict, if_neg hbounds, hparse]
    rfl
  have hsound : sound ↔ Healthy (reports.map MetricsReport.record) minimum maximum := by
    have hzero (m : MetricsReport w) : m.record.rosSteadyAllocCalls = 0 ↔
        m.rosSteadyAllocCalls = 0 := by
      rw [MetricsReport.record, Nat.cast_eq_zero, BitVec.toNat_eq]
      rfl
    simp only [sound, Healthy, List.length_map, List.forall_mem_map, hzero, List.map_map]
    exact ⟨fun h => h.2.2, fun h => ⟨hminimum, by omega, h⟩⟩
  rw [hsound]
  simp only [ended, mainMetrics, hverdict]
  rcases checkMetrics_spec hminimum with ⟨hhealthy, summary, hok⟩ | ⟨hill, message, herror⟩
  · exact .inl ⟨hhealthy, _, by rw [hok]⟩
  · exact .inr ⟨hill, _, by rw [herror]⟩

lemma unbroken_disconnecting :
    ∀ c ∈ PyStr.ofString "STATIC_CONTROL_WIFI_PROBE phase=disconnecting", endsLine c = false := by
  decide

lemma quiet_disconnecting : ∀ marker ∈ recordMarkers,
    ¬ marker <:+: "STATIC_CONTROL_WIFI_PROBE phase=disconnecting" := by
  decide

/-- A line of the thread that tries a reconnection. -/
def disconnecting : QuietLine :=
  ⟨"STATIC_CONTROL_WIFI_PROBE phase=disconnecting", unbroken_disconnecting, quiet_disconnecting⟩

/-- What the device of `idleTurns` prints, with a line of another thread before every line. -/
def idleLog : List (ConsoleLine 32) :=
  ((MainLoop.start 0).run idlePrepared true idleTurns).lines.flatMap fun line =>
    [.other disconnecting, line]

lemma withQuiet_idleLog :
    WithQuiet ((MainLoop.start 0).run idlePrepared true idleTurns).lines idleLog := by
  rw [idleLog]
  generalize ((MainLoop.start 0).run idlePrepared true idleTurns).lines = lines
  induction lines with
  | nil => exact .nil
  | cons line lines ih => exact .quiet disconnecting (.line line ih)

/-- The device of `idleTurns` passes with the bounds that are the defaults, and not with a smaller
one. -/
theorem metrics_verdict_exact_idle :
    (32 ≤ 64 ∧ WithQuiet ((MainLoop.start 0).run idlePrepared true idleTurns).lines idleLog) ∧
      (∃ output, mainMetrics ⟨PyStr.ofString "log", .ok (consoleText idleLog), 2, 32⟩
        = .returns 0 output) ∧
      ∃ output, mainMetrics ⟨PyStr.ofString "log", .ok (consoleText idleLog), 2, 3⟩
        = .returns 2 output := by
  refine ⟨⟨by decide, withQuiet_idleLog⟩, ?_, ?_⟩
  · rcases metrics_verdict_exact (by decide) idlePrepared true 0 idleTurns idleLog
      withQuiet_idleLog "log" 2 32 with ⟨-, hpass⟩ | ⟨hill, -⟩
    · exact hpass
    · exact absurd (by decide) hill
  · rcases metrics_verdict_exact (by decide) idlePrepared true 0 idleTurns idleLog
      withQuiet_idleLog "log" 2 3 with ⟨hsound, -⟩ | ⟨-, hfail⟩
    · exact absurd hsound (by decide)
    · exact hfail

end Ros2Zephyr
