import Ros2Zephyr.Core.Lines
import Ros2Zephyr.Core.PyStr

/-!
# Counting markers on a serial line

The capture loop of `samples/loopback/capture_esp32.py`: it reads a stream chunk by chunk, counts
the lines that contain a marker and stops when it has seen enough of them.  Of what it has read it
keeps `recent`, which is cut to its last 2048 bytes when it is longer than 4096.

* `capture` — the loop, with its three ends.
* `markedLines` — the same count for the whole stream.
* `Watched` — what `recent` and `matches` have to do with the stream so far.
-/

namespace Ros2Zephyr

open Lines

section Loop

abbrev Bytes := List UInt8

def newline : UInt8 := 10

/-- The arguments that the loop uses. -/
structure CaptureArgs where
  device : PyStr
  /-- `repr(args.until)` -/
  untilRepr : PyStr
  /-- `args.until.encode()` -/
  marker : Bytes
  minimumMatches : ℕ
  positive : 1 ≤ minimumMatches
  reconnect : Bool

structure Capture where
  recent : Bytes
  found : ℕ

/-- One turn of the loop before the deadline: a read, or an error of the port. -/
inductive Turn
  | read (chunk : Bytes)
  | fault (error : PyStr)

inductive CaptureEnd
  | success
  | serialError (error : PyStr)
  | timeout (found : ℕ)
  deriving DecidableEq

lemma length_drop_lt {recent : Bytes} {start lineEnd : ℕ}
    (h : find [newline] (recent.drop start) = some lineEnd) :
    (recent.drop (start + lineEnd + 1)).length < recent.length := by
  obtain ⟨x, y, hsplit, -, -⟩ := find_sep_eq_some h
  have hlength := congrArg List.length hsplit
  rw [List.length_drop, List.length_append, List.length_cons] at hlength
  rw [List.length_drop]
  omega

/-- The inner loop; `none` is the return with enough matches. -/
def scan (marker : Bytes) (minimumMatches : ℕ) (recent : Bytes) (found : ℕ) : Option Capture :=
  match find marker recent with
  | none => some ⟨recent, found⟩
  | some markerIndex =>
    match hend : find [newline] (recent.drop (markerIndex + marker.length)) with
    | none => some ⟨recent, found⟩
    | some lineEnd =>
      if minimumMatches ≤ found + 1 then none
      else
        scan marker minimumMatches (recent.drop (markerIndex + marker.length + lineEnd + 1))
          (found + 1)
  termination_by recent.length
  decreasing_by exact length_drop_lt hend

/-- `if len(recent) > 4096: del recent[:-2048]` -/
def trim (recent : Bytes) : Bytes :=
  if 4096 < recent.length then recent.drop (recent.length - 2048) else recent

def capture (args : CaptureArgs) (s : Capture) : List Turn → CaptureEnd
  | [] => .timeout s.found
  | .fault error :: rest => if args.reconnect then capture args s rest else .serialError error
  | .read chunk :: rest =>
    if chunk = [] then capture args s rest
    else
      match scan args.marker args.minimumMatches (s.recent ++ chunk) s.found with
      | none => .success
      | some next => capture args ⟨trim next.recent, next.found⟩ rest

/-- What `main` returns. -/
def CaptureEnd.status : CaptureEnd → ℕ
  | success => 0
  | serialError _ | timeout _ => 1

/-- What it writes to `stderr`. -/
def CaptureEnd.stderr (args : CaptureArgs) : CaptureEnd → PyStr
  | success => []
  | serialError error =>
      "serial error on " ++ args.device ++ ": " ++ error
  | timeout found =>
      "serial timeout: observed " ++ PyStr.ofInt found ++ "/" ++
        PyStr.ofInt args.minimumMatches ++ " complete " ++ args.untilRepr ++
        " markers on " ++ args.device

end Loop

section Count

variable {marker recent : Bytes}

/-- The newline-terminated lines that contain the marker. -/
def markedLines (marker stream : Bytes) : ℕ :=
  (terminated newline stream).countP fun line => decide (marker <:+: line)

/-- The marker stands somewhere before a newline. -/
def Completed (marker s : Bytes) : Prop := ∃ x y, s = x ++ (marker ++ y) ∧ newline ∈ y

lemma Completed.of_suffix {s t : Bytes} (h : Completed marker t) (hsuffix : t <:+ s) :
    Completed marker s := by
  obtain ⟨x, y, rfl, hy⟩ := h
  obtain ⟨front, rfl⟩ := hsuffix
  exact ⟨front ++ x, y, by rw [List.append_assoc], hy⟩

lemma markedLines_eq_zero {s : Bytes} (h : ¬ Completed marker s) : markedLines marker s = 0 := by
  rw [markedLines, List.countP_eq_zero]
  intro line hline hmarked
  obtain ⟨a, b, rfl⟩ := exists_of_mem_terminated hline
  obtain ⟨p, q, rfl⟩ := of_decide_eq_true hmarked
  exact h ⟨a ++ p, q ++ newline :: b, by simp, by simp⟩

lemma markedLines_append (marker s t : Bytes) :
    markedLines marker (s ++ t) =
      markedLines marker s + markedLines marker (lastLine newline s ++ t) := by
  rw [markedLines, terminated_append, List.countP_append]
  rfl

lemma markedLines_le_append (marker s t : Bytes) :
    markedLines marker s ≤ markedLines marker (s ++ t) := by
  rw [markedLines_append]
  exact Nat.le_add_right _ _

/-- The line with the first marker is the first that counts. -/
lemma markedLines_first {x z w : Bytes} (hmarker : newline ∉ marker) (hz : newline ∉ z)
    (hfirst : ∀ x' y', x ++ (marker ++ (z ++ newline :: w)) = x' ++ (marker ++ y') →
      x.length ≤ x'.length) :
    markedLines marker (x ++ (marker ++ (z ++ newline :: w))) = markedLines marker w + 1 := by
  have hearlier : ¬ Completed marker x := by
    rintro ⟨x', y', rfl, hy⟩
    have hle := hfirst x' (y' ++ (marker ++ (z ++ newline :: w))) (by simp)
    have hpos := List.length_pos_of_mem hy
    rw [List.length_append, List.length_append] at hle
    omega
  have hopen : newline ∉ lastLine newline x ++ (marker ++ z) := by
    simp [sep_not_mem_lastLine, hmarker, hz]
  have hline : marker <:+: lastLine newline x ++ (marker ++ z) :=
    ⟨lastLine newline x, z, by rw [List.append_assoc]⟩
  have hsplit : x ++ (marker ++ (z ++ newline :: w)) =
      (x ++ (marker ++ z)) ++ newline :: w := by simp
  have hbefore := markedLines_eq_zero hearlier
  rw [markedLines] at hbefore
  rw [hsplit, markedLines, terminated_append_cons, splitOn_eq, terminated_append,
    terminated_of_not_mem hopen, lastLine_append, lastLine_of_not_mem hopen, List.append_nil,
    List.countP_append, List.countP_append, hbefore, List.countP_singleton,
    if_pos (decide_eq_true hline), markedLines]
  omega

/-- Without a newline after the first marker there is none after a later one. -/
lemma not_completed_of_find {i : ℕ} (hfind : find marker recent = some i)
    (hopen : newline ∉ recent.drop (i + marker.length)) : ¬ Completed marker recent := by
  rintro ⟨x, y, hsplit, hy⟩
  obtain ⟨-, -, -, -, hfirst⟩ := find_eq_some hfind
  have hle := hfirst x y hsplit
  have hafter : recent.drop (x.length + marker.length) = y := by
    rw [hsplit, ← List.append_assoc, ← List.length_append, List.drop_left]
  apply hopen
  rw [← hafter] at hy
  exact (List.drop_suffix_drop_left _ (by omega)).mem hy

/-- A turn of the inner loop takes away what ends with the first marked line. -/
lemma drop_of_find (hmarker : newline ∉ marker) {i lineEnd : ℕ}
    (hfind : find marker recent = some i)
    (hend : find [newline] (recent.drop (i + marker.length)) = some lineEnd) :
    markedLines marker recent =
        markedLines marker (recent.drop (i + marker.length + lineEnd + 1)) + 1 ∧
      lastLine newline (recent.drop (i + marker.length + lineEnd + 1)) =
        lastLine newline recent := by
  obtain ⟨x, y, rfl, rfl, hfirst⟩ := find_eq_some hfind
  rw [← List.append_assoc, ← List.length_append, List.drop_left] at hend
  obtain ⟨z, w, rfl, rfl, hz⟩ := find_sep_eq_some hend
  have hrest : (x ++ (marker ++ (z ++ newline :: w))).drop
      (x.length + marker.length + z.length + 1) = w := by
    rw [show x ++ (marker ++ (z ++ newline :: w)) = (x ++ marker ++ z ++ [newline]) ++ w by simp]
    exact List.drop_left' (by simp [Nat.add_assoc])
  have hwhole : x ++ (marker ++ (z ++ newline :: w)) = (x ++ marker ++ z) ++ newline :: w := by simp
  rw [hrest]
  exact ⟨markedLines_first hmarker hz hfirst, by rw [hwhole, lastLine_append_cons]⟩

/-- **The inner loop** counts the marked lines and keeps the unfinished one. -/
theorem scan_spec (hmarker : newline ∉ marker) {minimumMatches found : ℕ}
    (hfound : found < minimumMatches) :
    (minimumMatches ≤ found + markedLines marker recent →
      scan marker minimumMatches recent found = none) ∧
    (found + markedLines marker recent < minimumMatches →
      ∃ next, scan marker minimumMatches recent found = some next ∧
        next.found = found + markedLines marker recent ∧
        lastLine newline next.recent = lastLine newline recent ∧
        ¬ Completed marker next.recent) := by
  -- follows the loop: its two ways to stop without a match, the early return, and one more turn
  fun_induction scan marker minimumMatches recent found with
  | case1 recent found hnone =>
      have hopen : ¬ Completed marker recent := by
        rintro ⟨x, y, hsplit, -⟩
        exact find_eq_none hnone x y hsplit
      rw [markedLines_eq_zero hopen]
      exact ⟨fun henough => by omega, fun _ => ⟨_, rfl, rfl, rfl, hopen⟩⟩
  | case2 recent found markerIndex hindex hnone =>
      have hopen := not_completed_of_find hindex (find_sep_eq_none hnone)
      rw [markedLines_eq_zero hopen]
      exact ⟨fun henough => by omega, fun _ => ⟨_, rfl, rfl, rfl, hopen⟩⟩
  | case3 recent found markerIndex hindex lineEnd hend henough =>
      obtain ⟨hcount, -⟩ := drop_of_find hmarker hindex hend
      exact ⟨fun _ => rfl, fun hfew => by omega⟩
  | case4 recent found markerIndex hindex lineEnd hend hmore ih =>
      obtain ⟨hcount, hlast⟩ := drop_of_find hmarker hindex hend
      obtain ⟨hnone, hsome⟩ := ih (by omega)
      refine ⟨fun henough => hnone (by omega), fun hfew => ?_⟩
      obtain ⟨next, hscan, hfoundNext, hlastNext, hopen⟩ := hsome (by omega)
      exact ⟨next, hscan, by omega, hlastNext.trans hlast, hopen⟩

end Count

section Stream

variable {args : CaptureArgs} {s : Capture} {seen : Bytes}

/-- What the port has delivered. -/
def stream (turns : List Turn) : Bytes :=
  turns.flatMap fun
    | .read chunk => chunk
    | .fault _ => []

/-- The loop has counted the marked lines of what it has seen, and `recent` still has the whole of
the unfinished line. -/
structure Watched (marker seen : Bytes) (s : Capture) : Prop where
  found_eq : s.found = markedLines marker seen
  lastLine_eq : lastLine newline s.recent = lastLine newline seen
  counted : ¬ Completed marker s.recent

/-- Cutting the buffer takes away finished lines only. -/
lemma lastLine_trim {recent : Bytes} (h : (lastLine newline recent).length ≤ 2048) :
    lastLine newline (trim recent) = lastLine newline recent := by
  rw [trim]
  split_ifs with hlong
  · exact lastLine_drop (by omega)
  · rfl

lemma trim_suffix (recent : Bytes) : trim recent <:+ recent := by
  rw [trim]
  split_ifs
  · exact List.drop_suffix _ _
  · exact List.suffix_rfl

lemma Watched.trim {marker : Bytes} (h : Watched marker seen s)
    (hlast : (lastLine newline seen).length ≤ 2048) :
    Watched marker seen ⟨trim s.recent, s.found⟩ where
  found_eq := h.found_eq
  lastLine_eq := by
    rw [lastLine_trim (by rwa [h.lastLine_eq]), h.lastLine_eq]
  counted hcompleted := h.counted (hcompleted.of_suffix (trim_suffix s.recent))

/-- The count goes on from the unfinished line. -/
lemma Watched.found_add {marker : Bytes} (h : Watched marker seen s) (chunk : Bytes) :
    s.found + markedLines marker (s.recent ++ chunk) = markedLines marker (seen ++ chunk) := by
  rw [markedLines_append marker s.recent, markedLines_append marker seen,
    markedLines_eq_zero h.counted, h.lastLine_eq, h.found_eq, Nat.zero_add]

/-- One chunk: either it completes the last match needed, or the loop goes on. -/
lemma Watched.scan (h : Watched args.marker seen s) (hmarker : newline ∉ args.marker)
    (hfound : s.found < args.minimumMatches) (chunk : Bytes) :
    (args.minimumMatches ≤ markedLines args.marker (seen ++ chunk) →
      scan args.marker args.minimumMatches (s.recent ++ chunk) s.found = none) ∧
    (markedLines args.marker (seen ++ chunk) < args.minimumMatches →
      ∃ next, scan args.marker args.minimumMatches (s.recent ++ chunk) s.found = some next ∧
        Watched args.marker (seen ++ chunk) next) := by
  rw [← h.found_add chunk]
  obtain ⟨hnone, hsome⟩ := scan_spec hmarker hfound
  refine ⟨hnone, fun hfew => ?_⟩
  obtain ⟨next, hscan, hcount, hlast, hopen⟩ := hsome hfew
  refine ⟨next, hscan, hcount.trans (h.found_add chunk), ?_, hopen⟩
  rw [hlast, lastLine_append, h.lastLine_eq, ← lastLine_append]

/-- The unfinished line grows into a line of the whole stream. -/
lemma length_lastLine_le {rest : Bytes}
    (hlines : ∀ line ∈ (seen ++ rest).splitOn newline, line.length ≤ 2048) :
    (lastLine newline seen).length ≤ 2048 := by
  obtain ⟨line, hline, hfront⟩ := exists_line_of_lastLine seen rest
  exact hfront.length_le.trans (hlines line hline)

/-- **The whole loop**, from any point of the stream. -/
theorem Watched.capture_eq (hmarker : newline ∉ args.marker) {turns : List Turn}
    (hfaults : args.reconnect = true ∨ ∀ error, .fault error ∉ turns)
    (h : Watched args.marker seen s) (hfound : s.found < args.minimumMatches)
    (hlines : ∀ line ∈ (seen ++ stream turns).splitOn newline, line.length ≤ 2048) :
    capture args s turns =
      if markedLines args.marker (seen ++ stream turns) < args.minimumMatches then
        .timeout (markedLines args.marker (seen ++ stream turns))
      else .success := by
  induction turns generalizing seen s with
  | nil =>
      rw [stream, List.flatMap_nil, List.append_nil, ← h.found_eq, if_pos hfound, capture]
  | cons turn rest ih =>
      have hrest : args.reconnect = true ∨ ∀ error, .fault error ∉ rest :=
        hfaults.imp_right fun hnone error hmem => hnone error (List.mem_cons_of_mem _ hmem)
      cases turn with
      | fault error =>
          have hreconnect : args.reconnect = true :=
            hfaults.resolve_right fun hnone => hnone error List.mem_cons_self
          rw [capture, if_pos hreconnect]
          exact ih hrest h hfound hlines
      | read chunk =>
          have hstream : seen ++ stream (.read chunk :: rest) = (seen ++ chunk) ++ stream rest := by
            simp [stream]
          rw [hstream] at hlines ⊢
          by_cases hempty : chunk = []
          · rw [hempty, List.append_nil] at hlines ⊢
            rw [capture, if_pos rfl]
            exact ih hrest h hfound hlines
          obtain ⟨hnone, hsome⟩ := h.scan hmarker hfound chunk
          by_cases henough : args.minimumMatches ≤ markedLines args.marker (seen ++ chunk)
          · -- what comes after can only add lines
            have hle := henough.trans (markedLines_le_append args.marker _ (stream rest))
            rw [capture, if_neg hempty, hnone henough, if_neg (Nat.not_lt.2 hle)]
          · obtain ⟨next, hscan, hnext⟩ := hsome (Nat.lt_of_not_le henough)
            rw [capture, if_neg hempty, hscan]
            refine ih hrest (hnext.trim (length_lastLine_le hlines)) ?_ hlines
            rw [hnext.found_eq]
            exact Nat.lt_of_not_le henough

/-- **The count does not depend on the chunks**: if no line is longer than what a cut buffer keeps,
the loop decides by the marked lines of the stream, however the port has delivered it. -/
theorem capture_counts_marked_lines (args : CaptureArgs) (hmarker : newline ∉ args.marker)
    (bytes : Bytes) (hlines : ∀ line ∈ bytes.splitOn newline, line.length ≤ 2048)
    (turns : List Turn) (hstream : stream turns = bytes)
    (hfaults : args.reconnect = true ∨ ∀ error, .fault error ∉ turns) :
    capture args ⟨[], 0⟩ turns =
      if markedLines args.marker bytes < args.minimumMatches then
        .timeout (markedLines args.marker bytes)
      else .success := by
  subst hstream
  have hstart : Watched args.marker [] ⟨[], 0⟩ := by
    have hopen : ¬ Completed args.marker [] := by
      rintro ⟨x, y, hsplit, hy⟩
      rw [eq_comm, List.append_eq_nil_iff, List.append_eq_nil_iff] at hsplit
      rw [hsplit.2.2] at hy
      cases hy
    exact ⟨(markedLines_eq_zero hopen).symm, rfl, hopen⟩
  exact hstart.capture_eq hmarker hfaults args.positive hlines

/-- Two complete lines and an open one with the marker `OK`, cut inside the marker and before the
newline. -/
theorem capture_counts_marked_lines_cut_marker :
    capture ⟨[], [], [79, 75], 3, Nat.succ_pos 2, true⟩ ⟨[], 0⟩
      [.read [33, 79], .fault [], .read [75], .read [10, 10, 79, 75, 79], .read [75, 10, 79, 75]] =
    .timeout 2 := by
  have hcount : markedLines [79, 75] [33, 79, 75, 10, 10, 79, 75, 79, 75, 10, 79, 75] = 2 := by
    decide +kernel
  have hends := capture_counts_marked_lines ⟨[], [], [79, 75], 3, Nat.succ_pos 2, true⟩
    (by decide) [33, 79, 75, 10, 10, 79, 75, 79, 75, 10, 79, 75] (by decide +kernel)
    [.read [33, 79], .fault [], .read [75], .read [10, 10, 79, 75, 79], .read [75, 10, 79, 75]]
    rfl (.inl rfl)
  rwa [hcount, if_pos (by decide)] at hends

end Stream

end Ros2Zephyr
