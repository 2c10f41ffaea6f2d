import Ros2Zephyr.Control.MetricsTool
import Ros2Zephyr.Resources.Plan

/-!
# The runtime log in a resource report

`parse_runtime_log` of `tools/verify_resources.py` puts what a device printed into the report of the
verify command: every line with `_METRICS` or `_RESOURCES`, its fields as numbers where they are
numbers.

* `parseRuntimeLog` — the function.
* `runtime_log_lossless` — from its result the reports of the device can be told exactly.
-/

namespace Ros2Zephyr

open PyRe PyStr Fallible

/-! ## The function -/

/-- The value of a field. -/
inductive RuntimeValue
  | number (n : ℤ)
  | text (s : PyStr)
  deriving DecidableEq

structure RuntimeRecord where
  marker : PyStr
  values : List (PyStr × RuntimeValue)
  deriving DecidableEq

inductive RuntimeStatus
  | notProvided
  | measured
  | noResourceMarkers
  deriving DecidableEq

def RuntimeStatus.text : RuntimeStatus → PyStr
  | notProvided => "not_provided"
  | measured => "measured"
  | noResourceMarkers => "no_resource_markers"

/-- What `parse_runtime_log` returns; without a log there is nothing but the status. -/
structure RuntimeLog where
  status : RuntimeStatus
  source : Option PyStr
  records : List RuntimeRecord
  deriving DecidableEq

/-- `int(value, 0)`, and the text where that fails. -/
def runtimeValue (unicode : UnicodeData) (value : PyStr) : RuntimeValue :=
  match toIntLiteral unicode value with
  | some n => .number n
  | none => .text value

/-- `line.split()[0]`, of a line that is not blank -/
def firstWord (line : PyStr) : PyStr := (line.dropWhile isSpace).takeWhile isNonSpace

/-- The lines that are looked at. -/
def isRuntimeLine (line : PyStr) : Bool :=
  (Lines.find "_METRICS" line).isSome ||
    (Lines.find "_RESOURCES" line).isSome

def runtimeRecord (unicode : UnicodeData) (line : PyStr) : RuntimeRecord where
  marker := firstWord line
  values := PyDict.ofPairs ((findPairs isNonSpace line).map fun p =>
    (p.1, runtimeValue unicode p.2))

/-- The log is `none` if there is no such argument; otherwise its path, with the text or the text of
the `OSError`. -/
def parseRuntimeLog (unicode : UnicodeData) :
    Option (PyStr × Except PyStr PyStr) → Except PyException RuntimeLog
  | none => .ok ⟨.notProvided, none, []⟩
  | some (path, .error error) =>
      rejectResource "E_RESOURCE_INPUT"
        ("cannot read runtime log " ++ path ++ ": " ++ error)
  | some (path, .ok text) =>
      let records := ((splitLines text).filter isRuntimeLine).map (runtimeRecord unicode)
      .ok ⟨if records.isEmpty then .noResourceMarkers else .measured, some path, records⟩

/-! ## The records of a log

`parse_runtime_log` looks for shorter markers than the metrics tool, and in the log of a device it
finds the same lines: those of the reports.
-/

section Records

variable {w : ℕ} {unicode : UnicodeData}

/-- The fields of a line of metrics. -/
def MetricsReport.fields (m : MetricsReport w) : List LogField :=
  numberFields m.counters ++ stackField m.stackUnused.isSome :: numberFields m.stackCounters

lemma isNonSpace_of_isLowerWordChar {c : ℕ} (h : isLowerWordChar c = true) :
    isNonSpace c = true := by
  obtain ⟨hlo, hhi⟩ := bounds_of_isLowerWordChar h
  simp only [isNonSpace, isSpace, Bool.not_eq_true', Bool.or_eq_false_iff,
    decide_eq_false_iff_not, beq_eq_false_iff_ne]
  omega

/-- All fields are found. -/
lemma findPairs_runtime (m : MetricsReport w) :
    findPairs isNonSpace m.line.text = m.fields.map fun f => (f.key, f.value) := by
  have hvalue : ∀ f ∈ m.fields, ∀ c ∈ f.value, isNonSpace c = true :=
    fun f hf c hc => isNonSpace_of_isLowerWordChar ((metricsFields_plain m f hf).2 c hc)
  have hall : m.fields.filter (fun f => f.value.all isNonSpace) = m.fields :=
    List.filter_eq_self.mpr fun f hf => List.all_eq_true.mpr (hvalue f hf)
  rw [findPairs_text (by decide) m.line fun f hf => .inl (hvalue f hf)]
  exact congrArg (List.map fun f : LogField => (f.key, f.value)) hall

lemma runtimeValue_ofNat {n : ℕ} (h : n < 2 ^ 64) :
    runtimeValue unicode (PyStr.ofNat n) = .number n := by
  rw [runtimeValue, toIntLiteral_ofNat h]

lemma runtimeValue_measured (unicode : UnicodeData) (measured : Bool) :
    runtimeValue unicode (measuredText measured) = .text (measuredText measured) := by
  have hascii : ∀ c ∈ measuredText measured, c < 127 := by cases measured <;> decide
  have hnone : toIntLiteral unicode (measuredText measured) = none := by
    rw [toIntLiteral, toAscii_eq_self hascii]
    cases measured <;> decide
  rw [runtimeValue, hnone]

namespace MetricsReport

/-- Fields with numbers as they are read. -/
def readNumbers (counters : List (ConsoleKey × ℕ)) : List (PyStr × RuntimeValue) :=
  counters.map fun p => (p.1.text, .number p.2)

/-- What is kept of a report. -/
def runtime (m : MetricsReport w) : RuntimeRecord where
  marker := ConsoleMarker.metrics.text
  values := readNumbers m.counters ++
    (ConsoleKey.controlStackUnused.text, .text (measuredText m.stackUnused.isSome))
      :: readNumbers m.stackCounters

lemma runtime_keys (m : MetricsReport w) : (m.runtime.values.map Prod.fst).Nodup := by
  rw [runtime, stackCounters]
  cases m.stackUnused with
  | none => exact (by decide : ([.accepted, .rejected, .rosSteadyAllocCalls,
      .middlewareSteadyAllocCalls, .rosHighWater, .middlewareHighWater, .maxLatenessUs,
      .skipped, .controlStackUnused] : List ConsoleKey).map ConsoleKey.text |>.Nodup)
  | some bytes => exact (by decide : ([.accepted, .rejected, .rosSteadyAllocCalls,
      .middlewareSteadyAllocCalls, .rosHighWater, .middlewareHighWater, .maxLatenessUs,
      .skipped, .controlStackUnused, .unusedBytes] : List ConsoleKey).map ConsoleKey.text |>.Nodup)

/-- **No two reports are read alike.** -/
lemma runtime_injective : Function.Injective (runtime (w := w)) := by
  intro m m' h
  cases m
  cases m'
  rename_i stack _ _ _ _ _ _ _ _ stack'
  cases stack <;> cases stack' <;>
    simp_all [runtime, readNumbers, counters, stackCounters, BitVec.toNat_inj, UInt32.toNat_inj]

end MetricsReport

lemma readNumbers_fields (unicode : UnicodeData) {counters : List (ConsoleKey × ℕ)}
    (h : ∀ p ∈ counters, p.2 < 2 ^ 64) :
    (numberFields counters).map (fun f => (f.key, runtimeValue unicode f.value))
      = MetricsReport.readNumbers counters := by
  rw [numberFields, List.map_map]
  refine List.map_congr_left fun p hp => ?_
  rw [Function.comp_apply, numberField, runtimeValue_ofNat (h p hp)]

lemma firstWord_metrics (m : MetricsReport w) :
    firstWord m.line.text = ConsoleMarker.metrics.text := by
  obtain ⟨f, fields, hfields⟩ : ∃ f fields, m.line.fields = f :: fields := ⟨_, _, rfl⟩
  have htext : m.line.text
      = ConsoleMarker.metrics.text ++ ' '.toNat :: (f.text ++ fieldsText fields) := by
    rw [LogLine.text, hfields]
    rfl
  have hword : ∀ c ∈ ConsoleMarker.metrics.text, isNonSpace c = true := by decide
  have hstart : m.line.text.dropWhile isSpace = m.line.text := rfl
  rw [firstWord, hstart, htext, List.takeWhile_append_of_pos hword,
    List.takeWhile_cons_of_neg (by decide), List.append_nil]

/-- **A line of metrics.** -/
lemma runtimeRecord_line (hw : w ≤ 64) (m : MetricsReport w) :
    runtimeRecord unicode m.line.text = m.runtime := by
  have hnumbers := m.numbers_lt hw
  rw [MetricsReport.numbers, List.forall_mem_append] at hnumbers
  have hvalues : (m.fields.map fun f => (f.key, f.value)).map
      (fun p => (p.1, runtimeValue unicode p.2)) = m.runtime.values := by
    rw [List.map_map, MetricsReport.fields, List.map_append, List.map_cons]
    exact congrArg₂ (· ++ ·) (readNumbers_fields unicode hnumbers.1)
      (congrArg₂ List.cons (congrArg (Prod.mk _) (runtimeValue_measured unicode _))
        (readNumbers_fields unicode hnumbers.2))
  rw [runtimeRecord, findPairs_runtime, hvalues, PyDict.ofPairs_eq_self m.runtime_keys,
    firstWord_metrics]
  rfl

lemma ConsoleLine.isRuntimeLine_text (line : ConsoleLine w) :
    isRuntimeLine line.text = line.metricsReport?.isSome := by
  have hresources : (Lines.find "_RESOURCES" line.text).isSome = false := by
    rw [← Bool.not_eq_true, Lines.find_isSome_iff]
    exact line.not_resources_infix
  rw [isRuntimeLine, hresources, Bool.or_false, Bool.eq_iff_iff, Lines.find_isSome_iff,
    line.metrics_infix_iff]

/-- The records of a log are its reports. -/
lemma runtimeRecords_consoleText (hw : w ≤ 64) (lines : List (ConsoleLine w)) :
    ((splitLines (consoleText lines)).filter isRuntimeLine).map (runtimeRecord unicode)
      = (lines.filterMap ConsoleLine.metricsReport?).map MetricsReport.runtime := by
  rw [splitLines_consoleText]
  induction lines with
  | nil => rfl
  | cons line lines ih =>
      rw [List.map_cons, List.filter_cons, line.isRuntimeLine_text]
      cases line with
      | metrics report =>
          rw [ConsoleLine.metricsReport?, Option.isSome_some, if_pos rfl, List.map_cons,
            ConsoleLine.text, runtimeRecord_line hw, ih]
          rfl
      | status | timing | other => exact ih

end Records

/-- **The report loses nothing of the log.**  On a log in which every line of the device is whole,
with quiet lines of other threads wherever they fall between them, the function returns one record
for each report of the device, in their order, and no two reports have the same record; the status
says whether there are any. -/
theorem runtime_log_lossless {K : Type*} {w : ℕ} (hw : w ≤ 64) (unicode : UnicodeData)
    (prepared : PreparedMetrics w) (probe : Bool) (startMs : ℤ) (inputs : List (LoopInput K w))
    (log : List (ConsoleLine w))
    (hlog : WithQuiet ((MainLoop.start startMs).run prepared probe inputs).lines log)
    (path : PyStr) :
    let trace := (MainLoop.start startMs).run prepared probe inputs
    let reports := trace.reports.map Prod.snd
    parseRuntimeLog unicode (some (path, .ok (consoleText log)))
        = .ok ⟨if reports.isEmpty then .noResourceMarkers else .measured, some path,
            reports.map MetricsReport.runtime⟩ ∧
      Function.Injective (MetricsReport.runtime (w := w)) := by
  intro trace reports
  refine ⟨?_, MetricsReport.runtime_injective⟩
  have hrecords : ((splitLines (consoleText log)).filter isRuntimeLine).map (runtimeRecord unicode)
      = reports.map MetricsReport.runtime := by
    rw [runtimeRecords_consoleText hw, hlog.metricsReports, run_metricsLines]
  simp only [parseRuntimeLog, hrecords, List.isEmpty_map]

/-- The two reports of `idleTurns` are two records. -/
theorem runtime_log_lossless_idle :
    (32 ≤ 64 ∧ WithQuiet ((MainLoop.start 0).run idlePrepared true idleTurns).lines idleLog) ∧
      ∃ first second, parseRuntimeLog asciiOnly
        (some (PyStr.ofString "log", .ok (consoleText idleLog)))
          = .ok ⟨.measured, some (PyStr.ofString "log"), [first, second]⟩ ∧ first ≠ second := by
  obtain ⟨hparse, hinjective⟩ := runtime_log_lossless (w := 32) (by decide) asciiOnly idlePrepared
    true 0 idleTurns idleLog withQuiet_idleLog "log"
  refine ⟨⟨by decide, withQuiet_idleLog⟩, _, _, hparse, fun h => ?_⟩
  exact absurd (hinjective h) (by decide)

end Ros2Zephyr
