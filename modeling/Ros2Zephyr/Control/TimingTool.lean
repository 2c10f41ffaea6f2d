import Ros2Zephyr.Control.MainLoop
import Ros2Zephyr.Core.Fallible
import Ros2Zephyr.Core.PyFind
import Ros2Zephyr.Core.PyInt

/-!
# Comparing the timing of two builds

`tools/check_static_control_timing.py`: from the log of each run the tool takes the record of a
given number, and a run with the native primitives may not be slower than the matched one with the
POSIX layer by more than a bound.

* `timingMatches`, `logRecord`, `mainTiming` — the tool; `finalRecord` is in `Timing`.
* `timing_verdict_exact` — its verdict on logs of devices, in terms of their readings.
-/

namespace Ros2Zephyr

open PyRe PyStr Fallible Transition

/-! ## The tool

As in the source: the pattern, the record of a log, the comparison of two records, and the loop over
the pairs, which stops at the first failure.
-/

/-- `FIELDS` -/
def timingFields : List ConsoleKey :=
  [.samples, .releaseP50Us, .releaseP95Us, .releaseP99Us, .releaseMaxUs, .completionP50Us,
    .completionP95Us, .completionP99Us, .completionMaxUs]

/-- The text before the number of a field. -/
def fieldText (before : PyStr) (key : ConsoleKey) : PyStr :=
  before ++ ' '.toNat :: key.text ++ ['='.toNat]

/-- What `PATTERN` has before each of its groups. -/
def timingTexts : List PyStr :=
  fieldText ConsoleMarker.timing.text .samples :: timingFields.tail.map (fieldText [])

/-- `\d`, which is every decimal digit of Unicode -/
def isDecimal (unicode : UnicodeData) (c : ℕ) : Bool :=
  isDigit c || decide (127 ≤ c) && (unicode.decimal c).isSome

/-- `PATTERN.findall`: the groups of each match. -/
def timingMatches (unicode : UnicodeData) (text : PyStr) : List (List PyStr) :=
  (findAll (template (isDecimal unicode) timingTexts) text).map runsOf

/-- A file of the command line: its path, and what `read_text` returns or the text of its
`OSError`. -/
structure LogFile where
  path : PyStr
  text : Except PyStr PyStr

/-- What ends the comparison. -/
inductive TimingFailure
  | cannotRead (message : PyStr)
  /-- `int` of more digits than the interpreter takes -/
  | tooManyDigits (digits : ℕ)
  | refused (path : PyStr) (error : FinalRecordError)
  | grew (index : ℕ) (field : ConsoleKey) (posix native : ℕ)
  deriving DecidableEq

def TimingFailure.message : TimingFailure → PyStr
  | cannotRead message => message
  | tooManyDigits digits => PyStr.parseLimitMessage digits
  | refused path error => error.message path
  | grew index field posix native =>
      "run " ++ PyStr.ofNat index ++ ": " ++ field.text
        ++ " grew from " ++ PyStr.ofNat posix ++ " to "
        ++ PyStr.ofNat native ++ " us"

/-- `int` of a group -/
def intOfGroup (unicode : UnicodeData) (group : PyStr) : Except TimingFailure ℕ :=
  if maxStrDigits < group.length then .error (.tooManyDigits group.length)
  else .ok (decimal (unicode.toAscii group))

/-- `dict(zip(FIELDS, ...))` -/
def timingOfValues (values : List ℕ) : StaticControlTiming ℕ where
  samples := values.getD 0 0
  releaseP50Us := values.getD 1 0
  releaseP95Us := values.getD 2 0
  releaseP99Us := values.getD 3 0
  releaseMaxUs := values.getD 4 0
  completionP50Us := values.getD 5 0
  completionP95Us := values.getD 6 0
  completionP99Us := values.getD 7 0
  completionMaxUs := values.getD 8 0

/-- `final_record`, from the file on. -/
def logRecord (unicode : UnicodeData) (file : LogFile) (minimumRecords : ℕ) :
    Except TimingFailure (StaticControlTiming ℕ) := do
  let text ← file.text.mapError .cannotRead
  let found := timingMatches unicode text
  -- too few matches are refused before their numbers are read
  if found.length < minimumRecords then
    throw (.refused file.path (.tooFew found.length minimumRecords))
  let records ← found.mapM fun groups => (groups.mapM (intOfGroup unicode)).map timingOfValues
  (finalRecord records minimumRecords).mapError (.refused file.path)

/-- `TIMING_GATES`, with the member of a record each of them names. -/
def timingGates : List (ConsoleKey × (StaticControlTiming ℕ → ℕ)) :=
  [(.releaseP99Us, StaticControlTiming.releaseP99Us),
    (.releaseMaxUs, StaticControlTiming.releaseMaxUs),
    (.completionP99Us, StaticControlTiming.completionP99Us),
    (.completionMaxUs, StaticControlTiming.completionMaxUs)]

/-- `" ".join(f"{field}={posix[field]}/{native[field]}" ...)` -/
def gateTexts (posix native : StaticControlTiming ℕ) : PyStr :=
  [' '.toNat].intercalate (timingGates.map fun gate =>
    gate.1.text ++ '='.toNat :: PyStr.ofNat (gate.2 posix)
      ++ '/'.toNat :: PyStr.ofNat (gate.2 native))

/-- What is printed for a pair that passes. -/
def passLine (index : ℕ) (posix native : StaticControlTiming ℕ) : PyStr :=
  "STATIC_CONTROL_TIMING_PASS run=" ++ PyStr.ofNat index
    ++ " posix_samples=" ++ PyStr.ofNat posix.samples
    ++ " native_samples=" ++ PyStr.ofNat native.samples ++ [' '.toNat]
    ++ gateTexts posix native

/-- One turn of the loop over the pairs, with the line it prints. -/
def compareRun (unicode : UnicodeData) (minimumRecords : ℕ) (maximumRegressionUs : ℤ) (index : ℕ)
    (pair : LogFile × LogFile) : Except TimingFailure PyStr := do
  let posix ← logRecord unicode pair.1 minimumRecords
  let native ← logRecord unicode pair.2 minimumRecords
  match timingGates.find? fun gate =>
      decide ((gate.2 native : ℤ) > gate.2 posix + maximumRegressionUs) with
  | some gate => throw (.grew index gate.1 (gate.2 posix) (gate.2 native))
  | none => return passLine index posix native

/-- The loop: the lines printed, and the error that ended it. -/
def compareRuns (unicode : UnicodeData) (minimumRecords : ℕ) (maximumRegressionUs : ℤ) :
    ℕ → List (LogFile × LogFile) → List PyStr × Option TimingFailure
  | _, [] => ([], none)
  | index, pair :: pairs =>
      match compareRun unicode minimumRecords maximumRegressionUs index pair with
      | .error failure => ([], some failure)
      | .ok line =>
          let (lines, failure) :=
            compareRuns unicode minimumRecords maximumRegressionUs (index + 1) pairs
          (line :: lines, failure)

/-- The arguments as they are written; `nargs="+"` asks for at least one file after each option. -/
structure TimingArguments where
  posix : List LogFile
  native : List LogFile
  minimumRecords : ℤ
  maximumRegressionUs : ℤ

/-- How the process ends: the status, the lines on stdout and the line on stderr. -/
structure TimingEnd where
  status : ℕ
  printed : List PyStr
  error : Option PyStr
  deriving DecidableEq

def mainTiming (unicode : UnicodeData) (args : TimingArguments) : TimingEnd :=
  if args.posix.isEmpty then
    ⟨2, [], some "argument --posix: expected at least one argument"⟩
  else if args.native.isEmpty then
    ⟨2, [], some "argument --native: expected at least one argument"⟩
  else if args.posix.length ≠ args.native.length ∨ args.minimumRecords < 1 then
    -- `parser.error`, after the usage
    ⟨2, [], some "provide equal, nonzero counts of matched runs"⟩
  else
    match compareRuns unicode args.minimumRecords.toNat args.maximumRegressionUs 1
        (args.posix.zip args.native) with
    | (lines, none) => ⟨0, lines, none⟩
    | (lines, some failure) =>
        ⟨1, lines, some ("STATIC_CONTROL_TIMING_ERROR " ++ failure.message)⟩

/-! ## The records of a log

The pattern is a template of fixed texts with rows of digits between them, so a line that was
printed from a reading is one match, and its groups are the numbers.
-/

section Records

variable {w : ℕ} {unicode : UnicodeData}

/-- The numbers of a reading, in the order of the line. -/
def StaticControlTiming.values (timing : StaticControlTiming ℕ) : List ℕ :=
  [timing.samples, timing.releaseP50Us, timing.releaseP95Us, timing.releaseP99Us,
    timing.releaseMaxUs, timing.completionP50Us, timing.completionP95Us, timing.completionP99Us,
    timing.completionMaxUs]

/-- The texts of `PATTERN` and the numbers between them. -/
def StaticControlTiming.filledFields (timing : StaticControlTiming UInt32) :
    List (PyStr × PyStr) :=
  timingTexts.zip (timing.printed.values.map PyStr.ofNat)

lemma StaticControlTiming.text_eq (timing : StaticControlTiming UInt32) :
    timing.line.text = filled timing.filledFields := by
  simp only [line, markedLine, numberFields, numberField, LogLine.text, fieldsText, LogField.text,
    List.map_cons, List.map_nil, List.flatMap_cons, List.flatMap_nil, filledFields, timingTexts,
    timingFields, List.tail_cons, fieldText, values, printed, List.zip_cons_cons, List.zip_nil_left,
    filled, List.append_assoc, List.cons_append, List.nil_append, List.append_nil]

lemma isDecimal_of_isDigit {c : ℕ} (h : isDigit c = true) : isDecimal unicode c = true := by
  rw [isDecimal, h, Bool.true_or]

lemma intOfGroup_ofNat {n : ℕ} (h : n < 2 ^ 32) :
    intOfGroup unicode (PyStr.ofNat n) = .ok n := by
  rw [intOfGroup, if_neg (length_ofNat_le (h.trans (by decide))).not_gt, toAscii_ofNat,
    decimal_ofNat]

lemma filledFields_runs (timing : StaticControlTiming UInt32) :
    timing.filledFields.map Prod.snd = timing.printed.values.map PyStr.ofNat := by
  exact List.map_snd_zip (le_of_eq rfl)

lemma filledFields_texts (timing : StaticControlTiming UInt32) :
    timing.filledFields.map Prod.fst = timingTexts := by
  exact List.map_fst_zip (le_of_eq rfl)

/-- Each text begins with a letter or a blank. -/
lemma timingTexts_head : ∀ text ∈ timingTexts, ∃ c tail, text = c :: tail ∧ c < 127 ∧
    isDigit c = false := by
  have hheads : ∀ text ∈ timingTexts,
      text.head?.any (fun c => decide (c < 127) && !isDigit c) = true := by
    decide
  intro text htext
  have hhead := hheads text htext
  cases text with
  | nil => cases hhead
  | cons c tail =>
      rw [List.head?_cons, Option.any_some, Bool.and_eq_true, decide_eq_true_eq,
        Bool.not_eq_true'] at hhead
      exact ⟨c, tail, rfl, hhead⟩

lemma isDecimal_ascii {c : ℕ} (hc : c < 127) (hdigit : isDigit c = false) :
    isDecimal unicode c = false := by
  rw [isDecimal, hdigit, decide_eq_false (by omega), Bool.false_and, Bool.or_false]

/-- A line with a reading is one match. -/
lemma matchPrefix_timing (timing : StaticControlTiming UInt32) (rest : PyStr) :
    matchPrefix (template (isDecimal unicode) timingTexts) (timing.line.text ++ 10 :: rest)
      = some (timing.filledFields.flatMap fun f => [f.1, f.2], 10 :: rest) := by
  rw [timing.text_eq, ← filledFields_texts timing]
  refine matchPrefix_template (fun f hf => ?_) (fun f hf => ?_) ?_
  · have hrun : f.2 ∈ timing.filledFields.map Prod.snd := List.mem_map_of_mem hf
    rw [filledFields_runs] at hrun
    obtain ⟨n, -, hn⟩ := List.mem_map.mp hrun
    rw [← hn]
    exact ⟨ofNat_ne_nil n, fun c hc => isDecimal_of_isDigit (isDigit_of_mem_ofNat hc)⟩
  · have htext : f.1 ∈ timing.filledFields.map Prod.fst := List.mem_map_of_mem hf
    rw [filledFields_texts] at htext
    obtain ⟨c, tail, heq, hc, hdigit⟩ := timingTexts_head f.1 htext
    exact ⟨c, tail, heq, isDecimal_ascii hc hdigit⟩
  · rintro c ⟨⟩
    exact isDecimal_ascii (by decide) (by decide)

/-- A line without a reading is passed over. -/
lemma findAll_noTiming {line : PyStr} (h : ¬ "STATIC_CONTROL_TIMING " <:+: line)
    (rest : PyStr) :
    findAll (template (isDecimal unicode) timingTexts) (line ++ 10 :: rest)
      = findAll (template (isDecimal unicode) timingTexts) rest := by
  have hmarker : "STATIC_CONTROL_TIMING "
      <:+: fieldText ConsoleMarker.timing.text .samples := by
    decide
  exact findAll_line (by decide) fun hoccurs => h (hmarker.trans hoccurs)

/-- **The matches in a log** are its readings. -/
theorem timingMatches_consoleText (lines : List (ConsoleLine w)) :
    timingMatches unicode (consoleText lines)
      = (lines.filterMap ConsoleLine.timing?).map fun timing =>
          timing.printed.values.map PyStr.ofNat := by
  induction lines with
  | nil => rfl
  | cons line lines ih =>
      rw [consoleText_cons]
      by_cases hline : line.timing?.isSome = true
      · obtain ⟨timing, rfl⟩ : ∃ timing, line = .timing timing := by
          cases line with
          | timing record => exact ⟨record, rfl⟩
          | status | metrics | other => cases hline
        have hempty : ¬ "STATIC_CONTROL_TIMING " <:+: ([] : PyStr) := by decide
        have hnext : findAll (template (isDecimal unicode) timingTexts) (10 :: consoleText lines)
            = findAll (template (isDecimal unicode) timingTexts) (consoleText lines) :=
          findAll_noTiming hempty (consoleText lines)
        have hshorter : (10 :: consoleText lines).length
            < (timing.line.text ++ 10 :: consoleText lines).length := by
          rw [List.length_append, StaticControlTiming.line, LogLine.text, List.length_append]
          have hmarker : 0 < ConsoleMarker.timing.text.length := by decide
          exact Nat.lt_add_of_pos_left (Nat.add_pos_left hmarker _)
        rw [timingMatches, ConsoleLine.text, findAll_match (matchPrefix_timing timing _) hshorter,
          hnext, List.map_cons, runsOf_pieces, filledFields_runs]
        exact congrArg (timing.printed.values.map PyStr.ofNat :: ·) ih
      · rw [timingMatches, findAll_noTiming (mt line.timing_infix_iff.mp hline),
          List.filterMap_cons_none (by simpa using hline)]
        exact ih

end Records

/-! ## The readings of a run

A device reads its probe in the turn in which it prints, so the readings in the log are states of
the probe after some of its calls, and `ProbeInv.ordered` applies.
-/

section Readings

variable {K : Type*} {w : ℕ} (prepared : PreparedMetrics w)

lemma timing?_errorLines (error : Option QuietLine) :
    (errorLines error : List (ConsoleLine w)).filterMap ConsoleLine.timing? = [] := by
  cases error <;> rfl

lemma MainLoop.telemetry_timingLines (loop : MainLoop) (input : LoopInput K w) :
    (loop.telemetry input).2.lines.filterMap ConsoleLine.timing? = [] := by
  rw [telemetry]
  split
  · rw [List.filterMap_append, timing?_errorLines]
    split <;> rfl
  · rfl

/-- With the probe a turn prints a reading where it reports. -/
lemma MainLoop.iterate_timingLines (loop : MainLoop) (input : LoopInput K w) :
    (loop.iterate prepared true input).2.lines.filterMap ConsoleLine.timing?
      = (loop.iterate prepared true input).2.reports.map fun _ => input.timing := by
  simp only [iterate_eq, LoopTrace.append, List.filterMap_append, telemetry_timingLines,
    telemetry_reports, List.nil_append]
  rw [spin, timing?_errorLines, List.nil_append, List.nil_append, report]
  split <;> rfl

lemma length_timingLines (loop : MainLoop) (inputs : List (LoopInput K w)) :
    ((loop.run prepared true inputs).lines.filterMap ConsoleLine.timing?).length
      = (loop.run prepared true inputs).reports.length := by
  induction inputs generalizing loop with
  | nil => rfl
  | cons input inputs ih =>
      simp only [MainLoop.run, LoopTrace.append, List.filterMap_append, List.length_append, ih,
        MainLoop.iterate_timingLines, List.length_map]

lemma exists_of_mem_timingLines (loop : MainLoop) (inputs : List (LoopInput K w)) :
    ∀ timing ∈ (loop.run prepared true inputs).lines.filterMap ConsoleLine.timing?,
      ∃ input ∈ inputs, timing = input.timing := by
  induction inputs generalizing loop with
  | nil => simp [MainLoop.run, LoopTrace.empty]
  | cons input inputs ih =>
      intro timing htiming
      simp only [MainLoop.run, LoopTrace.append, List.filterMap_append, List.mem_append,
        MainLoop.iterate_timingLines] at htiming
      rcases htiming with hnow | hlater
      · obtain ⟨-, -, rfl⟩ := List.mem_map.mp hnow
        exact ⟨input, List.mem_cons_self, rfl⟩
      · obtain ⟨input', hmem, heq⟩ := ih _ timing hlater
        exact ⟨input', List.mem_cons_of_mem _ hmem, heq⟩

end Readings

/-- A run of a device with the timing probe.  What a turn reads is the probe after some of its
calls, few enough for the ranks not to wrap. -/
structure TimedRun (K : Type*) (w : ℕ) where
  path : PyStr
  prepared : PreparedMetrics w
  startMs : ℤ
  boot : List QuietLine
  inputs : List (LoopInput K w)
  cycToUs : UInt32 → UInt64
  measured : ∀ input ∈ inputs, ∃ events probe, recordCount events * 99 + 99 < 2 ^ 32 ∧
    runLabels (TimingProbe.step cycToUs) TimingProbe.zero events = some probe ∧
    input.timing = staticControlTimingRead probe

namespace TimedRun

variable {K : Type*} {w : ℕ} (run : TimedRun K w)

def trace : LoopTrace K w := (MainLoop.start run.startMs).run run.prepared true run.inputs

/-- The log of the run as a file. -/
def log : LogFile := ⟨run.path, .ok (consoleText (run.boot.map .other ++ run.trace.lines))⟩

/-- What the device measured, report by report. -/
def readings : List (StaticControlTiming ℕ) :=
  (run.trace.lines.filterMap ConsoleLine.timing?).map StaticControlTiming.printed

lemma length_readings : run.readings.length = run.trace.reports.length := by
  rw [readings, List.length_map, trace, length_timingLines]

/-- The percentiles of a device are in order. -/
lemma readings_ordered : ∀ record ∈ run.readings, record.Ordered := by
  intro record hrecord
  obtain ⟨timing, htiming, rfl⟩ := List.mem_map.mp hrecord
  obtain ⟨input, hinput, rfl⟩ := exists_of_mem_timingLines _ _ _ timing htiming
  obtain ⟨events, probe, hfits, hrun, hread⟩ := run.measured input hinput
  obtain ⟨probe', hrun', hinv, -, -⟩ := probeInv_zero.run run.cycToUs events (by omega)
  rw [hrun, Option.some.injEq] at hrun'
  subst hrun'
  rw [Nat.zero_add] at hinv
  rw [hread]
  exact hinv.ordered hfits

end TimedRun

/-! ## The verdict

The order of the percentiles is never in question on the log of a device.  What else `final_record`
demands is `Settled`.
-/

section Verdict

variable {K : Type*} {w : ℕ} {unicode : UnicodeData}

/-- The numbers of a reading are read back. -/
lemma mapM_intOfGroup (timing : StaticControlTiming UInt32) :
    (timing.printed.values.map PyStr.ofNat).mapM (intOfGroup unicode)
      = .ok timing.printed.values := by
  have hword : ∀ n ∈ timing.printed.values, n < 2 ^ 32 := by
    simp only [StaticControlTiming.values, StaticControlTiming.printed, List.forall_mem_cons,
      UInt32.toNat_lt, true_and]
    simp
  rw [List.mapM_map]
  have hall := mapM_eq_ok (f := intOfGroup unicode ∘ PyStr.ofNat) (g := id)
    fun n hn => intOfGroup_ofNat (hword n hn)
  rwa [List.map_id] at hall

/-- **The tool on the log of a run**: `final_record` on the readings. -/
lemma logRecord_log (run : TimedRun K w) (minimumRecords : ℕ) :
    logRecord unicode run.log minimumRecords
      = (finalRecord run.readings minimumRecords).mapError (.refused run.path) := by
  have hboot : (run.boot.map (ConsoleLine.other (w := w))).filterMap ConsoleLine.timing? = [] := by
    simp [List.filterMap_map, Function.comp_def, ConsoleLine.timing?]
  have hfound : timingMatches unicode (consoleText (run.boot.map .other ++ run.trace.lines))
      = (run.trace.lines.filterMap ConsoleLine.timing?).map fun timing =>
          timing.printed.values.map PyStr.ofNat := by
    rw [timingMatches_consoleText, List.filterMap_append, hboot, List.nil_append]
  have hrecords : ((run.trace.lines.filterMap ConsoleLine.timing?).map fun timing =>
      timing.printed.values.map PyStr.ofNat).mapM
        (fun groups => (groups.mapM (intOfGroup unicode)).map timingOfValues)
      = .ok run.readings := by
    rw [List.mapM_map]
    refine mapM_eq_ok fun timing _ => ?_
    rw [Function.comp_apply, mapM_intOfGroup]
    rfl
  have hlength : ((run.trace.lines.filterMap ConsoleLine.timing?).map fun timing =>
      timing.printed.values.map PyStr.ofNat).length = run.readings.length := by
    rw [TimedRun.readings, List.length_map, List.length_map]
  have hopen : run.log.text.mapError TimingFailure.cannotRead
      = .ok (consoleText (run.boot.map .other ++ run.trace.lines)) := rfl
  rw [logRecord, hopen, ok_bind, hfound]
  dsimp only
  rw [hlength]
  by_cases hfew : run.readings.length < minimumRecords
  · rw [if_pos hfew, finalRecord, if_pos hfew]
    rfl
  · rw [if_neg hfew, hrecords, ok_bind]
    rfl

/-- The neighbours that `zip(records, records[1:])` compares. -/
lemma any_zip_tail_iff {records : List (StaticControlTiming ℕ)} :
    (records.zip records.tail).any (fun pair => decide (pair.2.samples ≤ pair.1.samples)) = false
      ↔ records.IsChain fun a b => a.samples < b.samples := by
  induction records with
  | nil => simp
  | cons a records ih =>
      cases records with
      | nil => simp
      | cons b records =>
          rw [List.tail_cons] at ih ⊢
          rw [List.zip_cons_cons, List.any_cons, Bool.or_eq_false_iff, List.isChain_cons_cons]
          refine and_congr ?_ ih
          rw [decide_eq_false_iff_not, not_le]

/-- What the tool demands of the readings of one run. -/
structure Settled (readings : List (StaticControlTiming ℕ)) (minimumRecords : ℕ)
    (record : StaticControlTiming ℕ) : Prop where
  increasing : readings.IsChain fun a b => a.samples < b.samples
  chosen : readings[minimumRecords - 1]? = some record
  useful : 50 * minimumRecords ≤ record.samples ∧ record.releaseMaxUs ≠ 0

/-- Where the percentiles are in order, they do not matter. -/
lemma finalRecord_eq_ok {readings : List (StaticControlTiming ℕ)} {minimumRecords : ℕ}
    {record : StaticControlTiming ℕ} (hordered : ∀ r ∈ readings, r.Ordered)
    (hminimum : 1 ≤ minimumRecords) :
    finalRecord readings minimumRecords = .ok record
      ↔ Settled readings minimumRecords record := by
  obtain ⟨n, rfl⟩ : ∃ n, minimumRecords = n + 1 := ⟨minimumRecords - 1, by omega⟩
  by_cases hfew : readings.length < n + 1
  · rw [finalRecord, if_pos hfew]
    refine iff_of_false (by simp) fun h => ?_
    have hlt := (List.getElem?_eq_some_iff.mp h.chosen).1
    omega
  by_cases hchain : readings.IsChain fun a b => a.samples < b.samples
  · rw [finalRecord, if_neg hfew, if_neg (by simp [any_zip_tail_iff.mpr hchain])]
    cases hchosen : recordAt readings (n + 1) with
    | none =>
        refine iff_of_false (by simp) fun h => ?_
        rw [recordAt] at hchosen
        have hsome : readings[n]? = some record := h.chosen
        rw [hchosen] at hsome
        cases hsome
    | some chosen =>
        have hinOrder := hordered chosen (recordAt_mem hchosen)
        rw [recordAt] at hchosen
        simp only [if_neg (not_not_intro hinOrder.1), if_neg (not_not_intro hinOrder.2)]
        have hsettled : Settled readings (n + 1) record
            ↔ chosen = record ∧ ¬ (chosen.samples < 50 * (n + 1) ∨ chosen.releaseMaxUs = 0) := by
          constructor
          · intro h
            have hsame : some chosen = some record := hchosen.symm.trans h.chosen
            cases hsame
            exact ⟨rfl, by have := h.useful; omega⟩
          · rintro ⟨rfl, huseful⟩
            exact ⟨hchain, hchosen, by omega, by omega⟩
        rw [hsettled]
        split_ifs with huseless
        · simp [huseless]
        · simp [huseless]
  · have hany : (readings.zip readings.tail).any
        (fun pair => decide (pair.2.samples ≤ pair.1.samples)) = true := by
      rw [← Bool.not_eq_false, any_zip_tail_iff]
      exact hchain
    rw [finalRecord, if_neg hfew, if_pos hany]
    exact iff_of_false (by simp) fun h => hchain h.increasing

/-- A pair of runs that the tool accepts. -/
def Matched (minimumRecords : ℕ) (maximumRegressionUs : ℤ) (posix native : TimedRun K w) : Prop :=
  ∃ before after, Settled posix.readings minimumRecords before ∧
    Settled native.readings minimumRecords after ∧
    ∀ gate ∈ timingGates, (gate.2 after : ℤ) ≤ gate.2 before + maximumRegressionUs

lemma logRecord_eq_ok (run : TimedRun K w) {minimumRecords : ℕ} (hminimum : 1 ≤ minimumRecords)
    {record : StaticControlTiming ℕ} :
    logRecord unicode run.log minimumRecords = .ok record
      ↔ Settled run.readings minimumRecords record := by
  rw [logRecord_log, ← finalRecord_eq_ok run.readings_ordered hminimum]
  cases finalRecord run.readings minimumRecords <;> simp [Except.mapError]

/-- **One pair.** -/
lemma exists_compareRun (unicode : UnicodeData) (posix native : TimedRun K w) {minimumRecords : ℕ}
    (hminimum : 1 ≤ minimumRecords) (maximumRegressionUs : ℤ) (index : ℕ) :
    (∃ line, compareRun unicode minimumRecords maximumRegressionUs index (posix.log, native.log)
        = .ok line) ↔ Matched minimumRecords maximumRegressionUs posix native := by
  simp only [compareRun, bind_eq_ok, logRecord_eq_ok _ hminimum]
  constructor
  · rintro ⟨line, before, hbefore, after, hafter, hline⟩
    refine ⟨before, after, hbefore, hafter, fun gate hgate => ?_⟩
    split at hline
    · cases hline
    · next hnone => simpa using List.find?_eq_none.mp hnone gate hgate
  · rintro ⟨before, after, hbefore, hafter, hgates⟩
    have hnone : timingGates.find? (fun gate =>
        decide ((gate.2 after : ℤ) > gate.2 before + maximumRegressionUs)) = none := by
      refine List.find?_eq_none.mpr fun gate hgate => ?_
      simpa using hgates gate hgate
    exact ⟨passLine index before after, before, hbefore, after, hafter, by rw [hnone]; rfl⟩

/-- The loop ends without a failure exactly if every pair passes, by induction on the pairs. -/
lemma compareRuns_none_iff (unicode : UnicodeData) (pairs : List (TimedRun K w × TimedRun K w))
    {minimumRecords : ℕ} (hminimum : 1 ≤ minimumRecords) (maximumRegressionUs : ℤ) (index : ℕ) :
    (compareRuns unicode minimumRecords maximumRegressionUs index
        (pairs.map fun pair => (pair.1.log, pair.2.log))).2 = none
      ↔ ∀ pair ∈ pairs, Matched minimumRecords maximumRegressionUs pair.1 pair.2 := by
  induction pairs generalizing index with
  | nil => simp [compareRuns]
  | cons pair pairs ih =>
      rw [List.map_cons, compareRuns, List.forall_mem_cons, ← ih (index + 1),
        ← exists_compareRun unicode pair.1 pair.2 hminimum maximumRegressionUs index]
      cases compareRun unicode minimumRecords maximumRegressionUs index
          (pair.1.log, pair.2.log) with
      | error failure => simp
      | ok line => simp

end Verdict

/-- **The verdict on matched runs.**  On the logs of devices, with every record whole, the tool
returns 0 exactly if there is a run and, in every one, the number of samples grows from each reading
to the next, the chosen reading exists and is useful, and no gate of the native run exceeds the one
of the run it is matched with by more than the bound.  The order of the percentiles plays no part: a
device never prints one that is refused. -/
theorem timing_verdict_exact {K : Type*} {w : ℕ} (unicode : UnicodeData)
    (pairs : List (TimedRun K w × TimedRun K w)) (minimumRecords maximumRegressionUs : ℤ) :
    (mainTiming unicode ⟨pairs.map fun pair => pair.1.log, pairs.map fun pair => pair.2.log,
        minimumRecords, maximumRegressionUs⟩).status = 0
      ↔ 1 ≤ minimumRecords ∧ pairs ≠ [] ∧
        ∀ pair ∈ pairs, minimumRecords ≤ pair.1.trace.reports.length ∧
          minimumRecords ≤ pair.2.trace.reports.length ∧
          Matched minimumRecords.toNat maximumRegressionUs pair.1 pair.2 := by
  have hzip : (pairs.map fun pair => pair.1.log).zip (pairs.map fun pair => pair.2.log)
      = pairs.map fun pair => (pair.1.log, pair.2.log) := by
    rw [List.zip_map']
  rcases eq_or_ne pairs [] with rfl | hpairs
  · exact iff_of_false (by simp [mainTiming]) fun h => h.2.1 rfl
  have hposix : (pairs.map fun pair => pair.1.log).isEmpty = false := by simpa using hpairs
  have hnative : (pairs.map fun pair => pair.2.log).isEmpty = false := by simpa using hpairs
  by_cases hminimum : minimumRecords < 1
  · simp only [mainTiming, hposix, hnative, Bool.false_eq_true, if_false]
    rw [if_pos (.inr hminimum)]
    exact iff_of_false (by simp) fun h => by omega
  have hlong : ∀ {run : TimedRun K w} {record}, Settled run.readings minimumRecords.toNat record →
      minimumRecords ≤ run.trace.reports.length := by
    intro run record h
    have hlt := (List.getElem?_eq_some_iff.mp h.chosen).1
    rw [run.length_readings] at hlt
    omega
  have hmatched : ∀ {posix native : TimedRun K w},
      Matched minimumRecords.toNat maximumRegressionUs posix native →
        minimumRecords ≤ posix.trace.reports.length ∧
          minimumRecords ≤ native.trace.reports.length := by
    rintro posix native ⟨before, after, hbefore, hafter, -⟩
    exact ⟨hlong hbefore, hlong hafter⟩
  have hone : 1 ≤ minimumRecords.toNat := by omega
  have hloop := compareRuns_none_iff unicode pairs hone maximumRegressionUs 1
  have hstatus : (mainTiming unicode ⟨pairs.map fun pair => pair.1.log,
      pairs.map fun pair => pair.2.log, minimumRecords, maximumRegressionUs⟩).status = 0
        ↔ (compareRuns unicode minimumRecords.toNat maximumRegressionUs 1
            (pairs.map fun pair => (pair.1.log, pair.2.log))).2 = none := by
    simp only [mainTiming, hposix, hnative, Bool.false_eq_true, if_false]
    rw [if_neg (by simpa using hminimum), hzip]
    split
    · next hend => simp [hend]
    · next hend => simp [hend]
  rw [hstatus, hloop]
  constructor
  · intro h
    refine ⟨by omega, hpairs, fun pair hpair => ?_⟩
    exact ⟨(hmatched (h pair hpair)).1, (hmatched (h pair hpair)).2, h pair hpair⟩
  · exact fun h pair hpair => (h.2.2 pair hpair).2.2

/-- Cycles of one kind. -/
def steadyEvents (cycles : ℕ) (start : UInt32) : List TimingEvent :=
  .expiry 5 :: List.replicate cycles (.record 5 start (start + 145))

/-- A turn that reports what the probe reads after them. -/
def steadyTurn (nowMs : ℤ) (timing : StaticControlTiming UInt32) : LoopInput ℚ 32 :=
  { idleTurn nowMs 40 with timing := timing }

/-- The turns of a run with two reports. -/
def steadyTurns (first second : StaticControlTiming UInt32) : List (LoopInput ℚ 32) :=
  [steadyTurn 1000 first, steadyTurn 2000 second]

/-- The reading after 60 or 120 cycles that start 250 µs after their release. -/
def posixReading (samples : UInt32) : StaticControlTiming UInt32 :=
  ⟨samples, 300, 300, 300, 250, 100, 100, 100, 0⟩

/-- The reading if they start 800 µs after it. -/
def nativeReading (samples : UInt32) : StaticControlTiming UInt32 :=
  ⟨samples, 900, 900, 900, 800, 100, 100, 100, 0⟩

/-- Both turns of a run read the probe after some of its calls. -/
lemma steadyTurns_measured {start : UInt32} {first second : StaticControlTiming UInt32}
    (hfirst : (runLabels (TimingProbe.step UInt32.toUInt64) TimingProbe.zero
      (steadyEvents 60 start)).map staticControlTimingRead = some first)
    (hsecond : (runLabels (TimingProbe.step UInt32.toUInt64) TimingProbe.zero
      (steadyEvents 120 start)).map staticControlTimingRead = some second) :
    ∀ input ∈ steadyTurns first second, ∃ events probe,
      recordCount events * 99 + 99 < 2 ^ 32 ∧
      runLabels (TimingProbe.step UInt32.toUInt64) TimingProbe.zero events = some probe ∧
      input.timing = staticControlTimingRead probe := by
  have hcount : ∀ cycles, recordCount (steadyEvents cycles start) = cycles := by
    intro cycles
    simp [recordCount, steadyEvents, List.countP_replicate]
  rw [steadyTurns, List.forall_mem_cons, List.forall_mem_singleton]
  constructor
  · obtain ⟨probe, hrun, hread⟩ := Option.map_eq_some_iff.mp hfirst
    exact ⟨_, probe, by rw [hcount]; decide, hrun, hread.symm⟩
  · obtain ⟨probe, hrun, hread⟩ := Option.map_eq_some_iff.mp hsecond
    exact ⟨_, probe, by rw [hcount]; decide, hrun, hread.symm⟩

lemma posixTurns_measured : ∀ input ∈ steadyTurns (posixReading 60) (posixReading 120),
    ∃ events probe, recordCount events * 99 + 99 < 2 ^ 32 ∧
      runLabels (TimingProbe.step UInt32.toUInt64) TimingProbe.zero events = some probe ∧
      input.timing = staticControlTimingRead probe := by
  refine @steadyTurns_measured 255 _ _ ?_ ?_
  · decide +kernel
  · decide +kernel

lemma nativeTurns_measured : ∀ input ∈ steadyTurns (nativeReading 60) (nativeReading 120),
    ∃ events probe, recordCount events * 99 + 99 < 2 ^ 32 ∧
      runLabels (TimingProbe.step UInt32.toUInt64) TimingProbe.zero events = some probe ∧
      input.timing = staticControlTimingRead probe := by
  refine @steadyTurns_measured 805 _ _ ?_ ?_
  · decide +kernel
  · decide +kernel

/-- A run with the POSIX layer, with two reports. -/
def posixRun : TimedRun ℚ 32 where
  path := "posix.log"
  prepared := idlePrepared
  startMs := 0
  boot := []
  inputs := steadyTurns (posixReading 60) (posixReading 120)
  cycToUs := UInt32.toUInt64
  measured := posixTurns_measured

/-- A run with the native primitives, which releases its cycles later. -/
def nativeRun : TimedRun ℚ 32 where
  path := "native.log"
  prepared := idlePrepared
  startMs := 0
  boot := []
  inputs := steadyTurns (nativeReading 60) (nativeReading 120)
  cycToUs := UInt32.toUInt64
  measured := nativeTurns_measured

lemma settled_posixRun : Settled posixRun.readings 2 (posixReading 120).printed := by
  have hreadings : posixRun.readings
      = [(posixReading 60).printed, (posixReading 120).printed] := by decide
  rw [hreadings]
  exact ⟨by decide, rfl, by decide⟩

lemma settled_nativeRun : Settled nativeRun.readings 2 (nativeReading 120).printed := by
  have hreadings : nativeRun.readings
      = [(nativeReading 60).printed, (nativeReading 120).printed] := by decide
  rw [hreadings]
  exact ⟨by decide, rfl, by decide⟩

/-- The tool accepts the second run as a match of the first with the default bound, and not with
half of it. -/
theorem timing_verdict_exact_steady :
    (mainTiming asciiOnly ⟨[posixRun.log], [nativeRun.log], 2, 1000⟩).status = 0 ∧
      (mainTiming asciiOnly ⟨[posixRun.log], [nativeRun.log], 2, 500⟩).status ≠ 0 := by
  constructor
  · refine (timing_verdict_exact asciiOnly [(posixRun, nativeRun)] 2 1000).mpr
      ⟨by decide, by simp, ?_⟩
    rw [List.forall_mem_singleton]
    exact ⟨by decide, by decide, _, _, settled_posixRun, settled_nativeRun,
      by decide⟩
  · intro hstatus
    obtain ⟨-, -, hmatched⟩ :=
      (timing_verdict_exact asciiOnly [(posixRun, nativeRun)] 2 500).mp hstatus
    obtain ⟨-, -, before, after, hbefore, hafter, hgates⟩ := hmatched _ List.mem_cons_self
    -- the chosen readings are those of the two runs
    have hposix := hbefore.chosen.symm.trans settled_posixRun.chosen
    have hnative := hafter.chosen.symm.trans settled_nativeRun.chosen
    cases hposix
    cases hnative
    exact absurd (hgates (.releaseP99Us, StaticControlTiming.releaseP99Us) List.mem_cons_self)
      (by decide)

end Ros2Zephyr
