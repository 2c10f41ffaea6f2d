import Mathlib.Data.List.Infix
import Ros2Zephyr.Allocator.Code
import Ros2Zephyr.Control.Loop
import Ros2Zephyr.Control.Timing
import Ros2Zephyr.Core.LogLine

/-!
# What the static-control device prints

The lines that `samples/static_control/src/main.c` writes to its console: `STATIC_CONTROL_STATUS`
when the status changes, and once a second `STATIC_CONTROL_METRICS` and, with the timing probe,
`STATIC_CONTROL_TIMING`.  The rest (the start, the network, errors with texts of the middleware) is
`QuietLine`: text in which no tool sees a record.

* `ConsoleLine`, `ConsoleLine.printfs` — the lines, by the calls of `printf` that write them.
* `consoleText` — the log as a file, if every line is whole: no other thread has written between two
  calls for one line.
* `WithQuiet` — a log with lines of other threads between those of the main thread.
-/

namespace Ros2Zephyr

open PyRe PyStr

/-! ## Lines with fields

Every record is a marker and fields `key=value`.  The keys are an enumeration, so that the tools'
keys and the device's are the same by definition.
-/

lemma isWordChar_ofNat (n : ℕ) : ∀ c ∈ PyStr.ofNat n, isWordChar c = true := by
  intro c hc
  rw [isWordChar, isDigit_of_mem_ofNat hc, Bool.or_true, Bool.true_or]

/-- The keys of the three kinds of records. -/
inductive ConsoleKey
  | accepted
  | rejected
  | rosSteadyAllocCalls
  | middlewareSteadyAllocCalls
  | rosHighWater
  | middlewareHighWater
  | maxLatenessUs
  | skipped
  | controlStackUnused
  | unusedBytes
  | status
  | sequence
  | cycles
  | samples
  | releaseP50Us
  | releaseP95Us
  | releaseP99Us
  | releaseMaxUs
  | completionP50Us
  | completionP95Us
  | completionP99Us
  | completionMaxUs
  deriving DecidableEq

namespace ConsoleKey

def text : ConsoleKey → PyStr
  | accepted => "accepted"
  | rejected => "rejected"
  | rosSteadyAllocCalls => "ros_steady_alloc_calls"
  | middlewareSteadyAllocCalls => "middleware_steady_alloc_calls"
  | rosHighWater => "ros_high_water"
  | middlewareHighWater => "middleware_high_water"
  | maxLatenessUs => "max_lateness_us"
  | skipped => "skipped"
  | controlStackUnused => "control_stack_unused"
  | unusedBytes => "unused_bytes"
  | status => "status"
  | sequence => "sequence"
  | cycles => "cycles"
  | samples => "samples"
  | releaseP50Us => "release_p50_us"
  | releaseP95Us => "release_p95_us"
  | releaseP99Us => "release_p99_us"
  | releaseMaxUs => "release_max_us"
  | completionP50Us => "completion_p50_us"
  | completionP95Us => "completion_p95_us"
  | completionP99Us => "completion_p99_us"
  | completionMaxUs => "completion_max_us"

lemma isName_text (key : ConsoleKey) : isName key.text = true := by
  cases key <;> decide

/-- No capital letter stands in a key. -/
lemma isLower_text (key : ConsoleKey) : ∀ c ∈ key.text, isLowerWordChar c = true := by
  cases key <;> decide

end ConsoleKey

/-- `key=%u` and its kind. -/
def numberField (key : ConsoleKey) (n : ℕ) : LogField :=
  ⟨key.text, PyStr.ofNat n, key.isName_text, isWordChar_ofNat n, ofNat_ne_nil n⟩

/-- `stack_measured ? "measured" : "unavailable"` -/
def measuredText (measured : Bool) : PyStr := if measured then "measured" else "unavailable"

lemma isWordChar_measuredText (measured : Bool) :
    ∀ c ∈ measuredText measured, isWordChar c = true := by
  cases measured <;> decide

lemma measuredText_ne_nil (measured : Bool) : measuredText measured ≠ [] := by
  cases measured <;> decide

/-- `control_stack_unused=%s` -/
def stackField (measured : Bool) : LogField :=
  ⟨ConsoleKey.controlStackUnused.text, measuredText measured,
    ConsoleKey.controlStackUnused.isName_text, isWordChar_measuredText measured,
    measuredText_ne_nil measured⟩

inductive ConsoleMarker
  | status
  | metrics
  | timing
  deriving DecidableEq

def ConsoleMarker.text : ConsoleMarker → PyStr
  | status => "STATIC_CONTROL_STATUS"
  | metrics => "STATIC_CONTROL_METRICS"
  | timing => "STATIC_CONTROL_TIMING"

lemma ConsoleMarker.isWordChar_text (marker : ConsoleMarker) :
    ∀ c ∈ marker.text, isWordChar c = true := by
  cases marker <;> decide

/-- A line of a marker and fields. -/
def markedLine (marker : ConsoleMarker) (fields : List LogField) : LogLine :=
  ⟨marker.text, marker.isWordChar_text, fields⟩

/-! ## The records

What a line says, and the line it is printed as.
-/

variable {w : ℕ}

/-- What a `STATIC_CONTROL_STATUS` line says. -/
structure StatusReport where
  status : StaticControlStatus
  commandSequence : UInt32
  controlCycles : UInt32
  skippedReleases : UInt32
  deriving DecidableEq

/-- The value of `enum static_control_status`. -/
def StaticControlStatus.code : StaticControlStatus → ℕ
  | disabled => 0
  | active => 1
  | stale => 2
  | fault => 3

/-- What a `STATIC_CONTROL_METRICS` line says. -/
structure MetricsReport (w : ℕ) where
  acceptedCommands : UInt32
  rejectedCommands : UInt32
  rosSteadyAllocCalls : SizeT w
  middlewareSteadyAllocCalls : SizeT w
  rosHighWater : SizeT w
  middlewareHighWater : SizeT w
  maxLatenessUs : UInt32
  skippedReleases : UInt32
  stackUnused : Option (SizeT w)
  deriving DecidableEq

namespace MetricsReport

/-- The fields with numbers before the one of the stack. -/
def counters (m : MetricsReport w) : List (ConsoleKey × ℕ) :=
  [(.accepted, m.acceptedCommands.toNat), (.rejected, m.rejectedCommands.toNat),
    (.rosSteadyAllocCalls, m.rosSteadyAllocCalls.toNat),
    (.middlewareSteadyAllocCalls, m.middlewareSteadyAllocCalls.toNat),
    (.rosHighWater, m.rosHighWater.toNat), (.middlewareHighWater, m.middlewareHighWater.toNat),
    (.maxLatenessUs, m.maxLatenessUs.toNat), (.skipped, m.skippedReleases.toNat)]

/-- The field that follows a measured stack. -/
def stackCounters (m : MetricsReport w) : List (ConsoleKey × ℕ) :=
  match m.stackUnused with
  | some bytes => [(.unusedBytes, bytes.toNat)]
  | none => []

end MetricsReport

/-- Fields with numbers. -/
def numberFields (counters : List (ConsoleKey × ℕ)) : List LogField :=
  counters.map fun p => numberField p.1 p.2

def StatusReport.line (r : StatusReport) : LogLine :=
  markedLine .status (numberFields
    [(.status, r.status.code), (.sequence, r.commandSequence.toNat),
      (.cycles, r.controlCycles.toNat), (.skipped, r.skippedReleases.toNat)])

def MetricsReport.line (m : MetricsReport w) : LogLine :=
  markedLine .metrics
    (numberFields m.counters ++ stackField m.stackUnused.isSome :: numberFields m.stackCounters)

def StaticControlTiming.line (timing : StaticControlTiming UInt32) : LogLine :=
  markedLine .timing (numberFields
    [(.samples, timing.samples.toNat), (.releaseP50Us, timing.releaseP50Us.toNat),
      (.releaseP95Us, timing.releaseP95Us.toNat), (.releaseP99Us, timing.releaseP99Us.toNat),
      (.releaseMaxUs, timing.releaseMaxUs.toNat), (.completionP50Us, timing.completionP50Us.toNat),
      (.completionP95Us, timing.completionP95Us.toNat),
      (.completionP99Us, timing.completionP99Us.toNat),
      (.completionMaxUs, timing.completionMaxUs.toNat)])

/-- The calls of `printf` for a report: the fields up to the word of the stack, the bytes if they
were measured, and the end of the line. -/
def MetricsReport.printfs (m : MetricsReport w) : List PyStr :=
  (markedLine .metrics (numberFields m.counters ++ [stackField m.stackUnused.isSome])).text ::
    m.stackCounters.map (fun p => ' '.toNat :: (numberField p.1 p.2).text) ++ [[10]]

lemma MetricsReport.flatten_printfs (m : MetricsReport w) :
    m.printfs.flatten = m.line.text ++ [10] := by
  have hbytes : (m.stackCounters.map fun p => ' '.toNat :: (numberField p.1 p.2).text).flatten
      = fieldsText (numberFields m.stackCounters) := by
    rw [fieldsText, numberFields, List.flatMap_map]
    rfl
  have hline : m.line.text
      = (markedLine .metrics (numberFields m.counters ++ [stackField m.stackUnused.isSome])).text
        ++ fieldsText (numberFields m.stackCounters) := by
    simp [MetricsReport.line, markedLine, LogLine.text, fieldsText]
  rw [printfs, List.flatten_append, List.flatten_cons, hbytes, hline]
  rfl

/-! ## The log

`consoleText` is the file if no call of `printf` came between two that belong to one line.  Lines of
other threads may stand anywhere between the lines.
-/

/-- The texts by which the tools know a record. -/
def recordMarkers : List PyStr :=
  ["_METRICS", "_RESOURCES", "STATIC_CONTROL_TIMING "]

/-- One line of text without a record. -/
structure QuietLine where
  text : PyStr
  unbroken : ∀ c ∈ text, endsLine c = false
  quiet : ∀ marker ∈ recordMarkers, ¬ marker <:+: text

inductive ConsoleLine (w : ℕ)
  | status (report : StatusReport)
  | metrics (report : MetricsReport w)
  | timing (timing : StaticControlTiming UInt32)
  | other (line : QuietLine)

namespace ConsoleLine

def statusReport? : ConsoleLine w → Option StatusReport
  | status report => some report
  | _ => none

def metricsReport? : ConsoleLine w → Option (MetricsReport w)
  | metrics report => some report
  | _ => none

def timing? : ConsoleLine w → Option (StaticControlTiming UInt32)
  | timing record => some record
  | _ => none

def text : ConsoleLine w → PyStr
  | status report => report.line.text
  | metrics report => report.line.text
  | timing record => record.line.text
  | other line => line.text

/-- The calls of `printf` that write a line.  Only a report takes more than one. -/
def printfs : ConsoleLine w → List PyStr
  | status report => [report.line.text ++ [10]]
  | metrics report => report.printfs
  | timing record => [record.line.text ++ [10]]
  | other line => [line.text ++ [10]]

lemma flatten_printfs (line : ConsoleLine w) : line.printfs.flatten = line.text ++ [10] := by
  cases line with
  | status | timing | other => exact List.append_nil _
  | metrics report => exact report.flatten_printfs

end ConsoleLine

/-- The file with the lines, each of them whole: what its calls of `printf` write stands
together. -/
def consoleText (lines : List (ConsoleLine w)) : PyStr :=
  (lines.flatMap ConsoleLine.printfs).flatten

lemma consoleText_cons (line : ConsoleLine w) (lines : List (ConsoleLine w)) :
    consoleText (line :: lines) = line.text ++ 10 :: consoleText lines := by
  rw [consoleText, List.flatMap_cons, List.flatten_append, line.flatten_printfs, List.append_assoc]
  rfl

lemma consoleText_eq_unlines (lines : List (ConsoleLine w)) :
    consoleText lines = unlines (lines.map ConsoleLine.text) := by
  induction lines with
  | nil => rfl
  | cons line lines ih => rw [consoleText_cons, List.map_cons, unlines_cons, ih]

/-- The lines of one thread with quiet lines of others before, between and after them. -/
inductive WithQuiet : List (ConsoleLine w) → List (ConsoleLine w) → Prop
  | nil : WithQuiet [] []
  | line {lines log : List (ConsoleLine w)} (line : ConsoleLine w) :
      WithQuiet lines log → WithQuiet (line :: lines) (line :: log)
  | quiet {lines log : List (ConsoleLine w)} (other : QuietLine) :
      WithQuiet lines log → WithQuiet lines (.other other :: log)

/-- The lines of others hold no report. -/
lemma WithQuiet.metricsReports {lines log : List (ConsoleLine w)} (h : WithQuiet lines log) :
    log.filterMap ConsoleLine.metricsReport? = lines.filterMap ConsoleLine.metricsReport? := by
  induction h with
  | nil => rfl
  | line line _ ih =>
      rw [List.filterMap_cons, List.filterMap_cons, ih]
  | quiet other _ ih => exact ih

/-! ## The characters of the lines

The tools find a record by a piece of text.  That it stands in no other line is a matter of
characters: the markers are in capitals, and the fields have none.
-/

section Characters

lemma isLowerWordChar_of_isDigit {c : ℕ} (h : isDigit c = true) : isLowerWordChar c = true := by
  rw [isLowerWordChar, h, Bool.or_true, Bool.true_or]

/-- Fields of small letters, digits and underscores. -/
def PlainField (f : LogField) : Prop :=
  (∀ c ∈ f.key, isLowerWordChar c = true) ∧ ∀ c ∈ f.value, isLowerWordChar c = true

lemma plainField_number (key : ConsoleKey) (n : ℕ) : PlainField (numberField key n) :=
  ⟨key.isLower_text, fun _ hc => isLowerWordChar_of_isDigit (isDigit_of_mem_ofNat hc)⟩

lemma plainField_numbers (counters : List (ConsoleKey × ℕ)) :
    ∀ f ∈ numberFields counters, PlainField f := by
  intro f hf
  obtain ⟨p, -, rfl⟩ := List.mem_map.mp hf
  exact plainField_number p.1 p.2

lemma plainField_stack (measured : Bool) : PlainField (stackField measured) := by
  refine ⟨ConsoleKey.controlStackUnused.isLower_text, ?_⟩
  cases measured <;> decide

/-- What holds of the characters of a line with such fields. -/
lemma forall_mem_markedLine {P : ℕ → Prop} {marker : ConsoleMarker} {fields : List LogField}
    (hplain : ∀ f ∈ fields, PlainField f) (hmarker : ∀ c ∈ marker.text, P c)
    (hblank : P ' '.toNat) (hequals : P '='.toNat)
    (hlower : ∀ c, isLowerWordChar c = true → P c) :
    ∀ c ∈ (markedLine marker fields).text, P c :=
  (markedLine marker fields).forall_mem_text hmarker hblank hequals fun f hf =>
    ⟨fun c hc => hlower c ((hplain f hf).1 c hc), fun c hc => hlower c ((hplain f hf).2 c hc)⟩

lemma metricsFields_plain (m : MetricsReport w) :
    ∀ f ∈ numberFields m.counters ++ stackField m.stackUnused.isSome
      :: numberFields m.stackCounters, PlainField f := by
  rw [List.forall_mem_append, List.forall_mem_cons]
  exact ⟨plainField_numbers _, plainField_stack _, plainField_numbers _⟩

/-- A character that is no small letter, digit, blank or `=`, and not in the marker, is not in the
line. -/
lemma not_mem_markedLine {d : ℕ} {marker : ConsoleMarker} {fields : List LogField}
    (hplain : ∀ f ∈ fields, PlainField f)
    (hd : d ∉ marker.text ∧ d ≠ ' '.toNat ∧ d ≠ '='.toNat ∧ isLowerWordChar d = false) :
    d ∉ (markedLine marker fields).text := by
  intro hmem
  refine forall_mem_markedLine (P := fun c => c ≠ d) hplain ?_ hd.2.1.symm hd.2.2.1.symm ?_ d hmem
    rfl
  · rintro c hc rfl
    exact hd.1 hc
  · rintro c hc rfl
    rw [hd.2.2.2] at hc
    cases hc

lemma bounds_of_isLowerWordChar {c : ℕ} (h : isLowerWordChar c = true) : 48 ≤ c ∧ c ≤ 122 := by
  simp only [isLowerWordChar, isLower, isDigit, isUnderscore, inRange, Bool.or_eq_true,
    Bool.and_eq_true, decide_eq_true_eq, beq_iff_eq] at h
  rcases h with (⟨hlo, hhi⟩ | ⟨hlo, hhi⟩) | rfl
  · exact ⟨le_trans (by decide) hlo, hhi⟩
  · exact ⟨hlo, le_trans hhi (by decide)⟩
  · decide

lemma ConsoleLine.unbroken (line : ConsoleLine w) : ∀ c ∈ line.text, endsLine c = false := by
  have hlower : ∀ c, isLowerWordChar c = true → endsLine c = false := by
    intro c hc
    obtain ⟨hlo, hhi⟩ := bounds_of_isLowerWordChar hc
    simp only [endsLine, Bool.or_eq_false_iff, decide_eq_false_iff_not, beq_eq_false_iff_ne]
    omega
  cases line with
  | status report =>
      exact forall_mem_markedLine (plainField_numbers _) (by decide) (by decide) (by decide) hlower
  | metrics report =>
      exact forall_mem_markedLine (metricsFields_plain report) (by decide) (by decide) (by decide)
        hlower
  | timing record =>
      exact forall_mem_markedLine (plainField_numbers _) (by decide) (by decide) (by decide) hlower
  | other line => exact line.unbroken

/-- A text with a character that does not stand in the line. -/
lemma not_infix_of_not_mem {needle text : PyStr} (d : ℕ) (hneedle : d ∈ needle) (h : d ∉ text) :
    ¬ needle <:+: text :=
  fun hoccurs => h (hoccurs.subset hneedle)

section Records

variable {d : ℕ}

lemma StatusReport.not_mem_text (report : StatusReport)
    (hd : d ∉ ConsoleMarker.status.text ∧ d ≠ ' '.toNat ∧ d ≠ '='.toNat ∧
      isLowerWordChar d = false) : d ∉ report.line.text :=
  not_mem_markedLine (plainField_numbers _) hd

lemma MetricsReport.not_mem_text (m : MetricsReport w)
    (hd : d ∉ ConsoleMarker.metrics.text ∧ d ≠ ' '.toNat ∧ d ≠ '='.toNat ∧
      isLowerWordChar d = false) : d ∉ m.line.text :=
  not_mem_markedLine (metricsFields_plain m) hd

lemma StaticControlTiming.not_mem_text (timing : StaticControlTiming UInt32)
    (hd : d ∉ ConsoleMarker.timing.text ∧ d ≠ ' '.toNat ∧ d ≠ '='.toNat ∧
      isLowerWordChar d = false) : d ∉ timing.line.text :=
  not_mem_markedLine (plainField_numbers _) hd

end Records

namespace ConsoleLine

/-- Only the lines with metrics hold `_METRICS`. -/
lemma metrics_infix_iff (line : ConsoleLine w) :
    "_METRICS" <:+: line.text ↔ line.metricsReport?.isSome := by
  cases line with
  | status report =>
      exact iff_of_false (not_infix_of_not_mem 'E'.toNat (by decide)
        (report.not_mem_text (by decide))) Bool.false_ne_true
  | metrics report =>
      have hmarker : "_METRICS" <:+: ConsoleMarker.metrics.text := by decide
      exact iff_of_true (hmarker.trans (List.prefix_append _ _).isInfix) rfl
  | timing record =>
      exact iff_of_false (not_infix_of_not_mem 'E'.toNat (by decide)
        (record.not_mem_text (by decide))) Bool.false_ne_true
  | other line => exact iff_of_false (line.quiet _ (by decide)) Bool.false_ne_true

lemma not_resources_infix (line : ConsoleLine w) :
    ¬ "_RESOURCES" <:+: line.text := by
  cases line with
  | status report =>
      exact not_infix_of_not_mem 'E'.toNat (by decide) (report.not_mem_text (by decide))
  | metrics report =>
      exact not_infix_of_not_mem 'U'.toNat (by decide) (report.not_mem_text (by decide))
  | timing record =>
      exact not_infix_of_not_mem 'E'.toNat (by decide) (record.not_mem_text (by decide))
  | other line => exact line.quiet _ (by decide)

/-- Only the lines with timing hold the marker of the timing tool. -/
lemma timing_infix_iff (line : ConsoleLine w) :
    "STATIC_CONTROL_TIMING " <:+: line.text ↔ line.timing?.isSome := by
  cases line with
  | status report =>
      exact iff_of_false (not_infix_of_not_mem 'G'.toNat (by decide)
        (report.not_mem_text (by decide))) Bool.false_ne_true
  | metrics report =>
      exact iff_of_false (not_infix_of_not_mem 'G'.toNat (by decide)
        (report.not_mem_text (by decide))) Bool.false_ne_true
  | timing record => exact iff_of_true ⟨[], _, rfl⟩ rfl
  | other line => exact iff_of_false (line.quiet _ (by decide)) Bool.false_ne_true

end ConsoleLine

end Characters

end Ros2Zephyr
