import Mathlib.Data.Int.Basic
import Ros2Zephyr.Core.Fallible
import Ros2Zephyr.Core.Overwrite

/-!
# The log buffer

`vlog1` of Cyclone DDS with `patches/cyclonedds-log-buffer.patch`, as far as it appends to the
buffer of its thread.  `DDSRT_LOG_BUFFER_SIZE` is the parameter `size`; a record starts at
`BUF_OFFSET`, behind the place of its header, and grows until a flush.

* `vlog1Append` — one append, with every write and both assertions of the code.
* `Appended` — what it leaves: a terminated record that ends in `(trunc)` if it did not fit.
* `boundedAppend` — the same for the record alone; `record_vlog1Append` says that it is what the
  code computes.
-/

namespace Ros2Zephyr

open Cells Fallible

section Append

/-- `"(trunc)\n"` without its terminator. -/
def truncMsg : List UInt8 := "(trunc)\n".toList.map fun c => UInt8.ofNat c.toNat

structure LogBuffer (size : ℕ) where
  buf : Cells UInt8 size
  pos : ℕ

inductive LogFault
  | outside
  | assertion (text : String)
  deriving DecidableEq

/-- What formatting the arguments comes to: a text, or an error after something was written.  A text
that is longer than an `int` can say is an error. -/
inductive Formatting
  | text (bytes : List UInt8)
  | failure (code : { n : ℤ // n < 0 }) (written : List UInt8)

namespace Formatting

/-- What `vsnprintf` returns. -/
def result : Formatting → ℤ
  | text bytes => bytes.length
  | failure code _ => code.val

/-- What `vsnprintf` writes where there is room for `nrem` bytes, which is at least one. -/
def written (nrem : ℕ) : Formatting → List UInt8
  | text bytes => bytes.take (nrem - 1) ++ [0]
  | failure _ written => written.take nrem

/-- `n >= 0 && (size_t) n < nrem` -/
def Fits (f : Formatting) (nrem : ℕ) : Prop := 0 ≤ f.result ∧ f.result.toNat < nrem

instance (f : Formatting) (nrem : ℕ) : Decidable (f.Fits nrem) :=
  inferInstanceAs (Decidable (_ ∧ _))

end Formatting

variable {size : ℕ}

def store (buf : Cells UInt8 size) (i : ℕ) (bytes : List UInt8) :
    Except LogFault (Cells UInt8 size) :=
  match buf.write i bytes with
  | some buf => .ok buf
  | none => .error .outside

def assertThat (p : Prop) [Decidable p] (text : String) : Except LogFault Unit :=
  if p then .ok () else .error (.assertion text)

/-- The branch for `trunc`. -/
def markTruncated (buf : Cells UInt8 size) (pos : ℕ) : Except LogFault (LogBuffer size) := do
  assertThat (pos < size) "lb->pos < sizeof (lb->buf)"
  assertThat (truncMsg.length ≤ pos) "lb->pos >= msglen"
  let buf ← store buf (pos - truncMsg.length) truncMsg
  let buf ← store buf pos [0]
  .ok ⟨buf, pos⟩

/-- The append of `vlog1`. -/
def vlog1Append (lb : LogBuffer size) (f : Formatting) : Except LogFault (LogBuffer size) :=
  let nrem := size - lb.pos
  if 0 < nrem then do
    let buf ← store lb.buf lb.pos (f.written nrem)
    if f.Fits nrem then .ok ⟨buf, lb.pos + f.result.toNat⟩
    else markTruncated buf (lb.pos + (nrem - 1))
  else .ok lb

/-- A flush writes the header and hands the record on; then the next record starts. -/
inductive LogEvent (size : ℕ)
  | append (f : Formatting)
  | flush (contents : Cells UInt8 size)

def LogBuffer.step (bufOffset : ℕ) (lb : LogBuffer size) :
    LogEvent size → Except LogFault (LogBuffer size)
  | .append f => vlog1Append lb f
  | .flush contents => .ok ⟨contents, bufOffset⟩

def LogBuffer.run (bufOffset : ℕ) (lb : LogBuffer size) (events : List (LogEvent size)) :
    Except LogFault (LogBuffer size) :=
  events.foldlM (LogBuffer.step bufOffset) lb

end Append

section Spec

variable {size pos i : ℕ} {lb : LogBuffer size} {buf : Cells UInt8 size} {bytes : List UInt8}

lemma exists_store (h : i + bytes.length ≤ size) :
    ∃ buf', store buf i bytes = .ok buf' ∧ buf'.val = overwrite buf.val i bytes := by
  obtain ⟨buf', hwrite, hval⟩ := exists_write buf h
  refine ⟨buf', ?_, hval⟩
  rw [store, hwrite]

lemma assertThat_of {p : Prop} [Decidable p] (h : p) (text : String) :
    assertThat p text = .ok () := if_pos h

lemma Formatting.length_written_le {nrem : ℕ} (h : 0 < nrem) (f : Formatting) :
    (f.written nrem).length ≤ nrem := by
  cases f with
  | text bytes =>
      simp only [written, List.length_append, List.length_take, List.length_singleton]
      omega
  | failure code written =>
      simp only [Formatting.written, List.length_take]
      omega

lemma length_truncMsg : truncMsg.length = 8 := rfl

/-- The mark overwrites the eight bytes before the position. -/
lemma exists_markTruncated (hmark : 8 ≤ pos) (hpos : pos < size) :
    ∃ lb' : LogBuffer size, markTruncated buf pos = .ok lb' ∧ lb'.pos = pos ∧
      lb'.buf.val[pos]? = some 0 ∧
      lb'.buf.val.take pos = buf.val.take (pos - 8) ++ truncMsg := by
  obtain ⟨marked, hmarked, hval⟩ : ∃ buf', store buf (pos - 8) truncMsg = .ok buf' ∧
      buf'.val = overwrite buf.val (pos - 8) truncMsg :=
    exists_store (by rw [length_truncMsg]; omega)
  obtain ⟨ended, hended, hval'⟩ : ∃ buf', store marked pos [0] = .ok buf' ∧
      buf'.val = overwrite marked.val pos ([] ++ [0]) :=
    exists_store hpos
  have hroom : pos ≤ marked.val.length := by
    rw [marked.prop]
    exact Nat.le_of_lt hpos
  refine ⟨⟨ended, pos⟩, ?_, rfl, ?_, ?_⟩
  · rw [markTruncated, assertThat_of hpos, ok_bind, assertThat_of (length_truncMsg ▸ hmark),
      ok_bind, length_truncMsg, hmarked, ok_bind, hended, ok_bind]
  · rw [hval']
    exact getElem?_overwrite_last hroom 0
  · have hend : pos = pos - 8 + truncMsg.length := by
      rw [length_truncMsg]
      omega
    rw [hval', take_overwrite_of_le hroom (Nat.le_refl _), hval]
    nth_rewrite 1 [hend]
    refine take_overwrite ?_
    rw [buf.prop]
    omega

lemma LogBuffer.pos_le_length (lb : LogBuffer size) (hpos : lb.pos < size) :
    lb.pos ≤ lb.buf.val.length := by
  rw [lb.buf.prop]
  exact Nat.le_of_lt hpos

lemma exists_vlog1Append_text (hpos : lb.pos < size) (hfits : bytes.length < size - lb.pos) :
    ∃ lb', vlog1Append lb (.text bytes) = .ok lb' ∧ lb'.pos = lb.pos + bytes.length ∧
      lb'.buf.val[lb'.pos]? = some 0 ∧
      lb'.buf.val.take lb'.pos = lb.buf.val.take lb.pos ++ bytes := by
  have hwritten : (Formatting.text bytes).written (size - lb.pos) = bytes ++ [0] := by
    rw [Formatting.written, List.take_of_length_le (by omega)]
  obtain ⟨buf', hstore, hval⟩ : ∃ buf', store lb.buf lb.pos (bytes ++ [0]) = .ok buf' ∧
      buf'.val = overwrite lb.buf.val lb.pos (bytes ++ [0]) :=
    exists_store (by rw [List.length_append, List.length_singleton]; omega)
  have hroom := lb.pos_le_length hpos
  have hfits' : (Formatting.text bytes).Fits (size - lb.pos) := ⟨Int.natCast_nonneg _, hfits⟩
  refine ⟨⟨buf', lb.pos + bytes.length⟩, ?_, rfl, ?_, ?_⟩
  · rw [vlog1Append, if_pos (by omega), hwritten, hstore, ok_bind, if_pos hfits']
    rfl
  · rw [hval]
    exact getElem?_overwrite_last hroom 0
  · rw [hval]
    exact take_overwrite_append hroom [0]

/-- What fits is a text. -/
lemma Formatting.Fits.exists_text {f : Formatting} {nrem : ℕ} (h : f.Fits nrem) :
    ∃ bytes, f = .text bytes ∧ bytes.length < nrem := by
  cases f with
  | text bytes => exact ⟨bytes, rfl, h.2⟩
  | failure code written => exact absurd h.1 (Int.not_le.mpr code.prop)

/-- An append that does not fit: the record ends at the last byte but one. -/
lemma exists_vlog1Append_truncated {f : Formatting} (hsize : 9 ≤ size) (hpos : lb.pos < size)
    (hfits : ¬ f.Fits (size - lb.pos)) :
    ∃ lb', vlog1Append lb f = .ok lb' ∧ lb'.pos = size - 1 ∧ lb'.buf.val[size - 1]? = some 0 ∧
      lb'.buf.val.take (size - 1) =
        (overwrite lb.buf.val lb.pos (f.written (size - lb.pos))).take (size - 9) ++ truncMsg := by
  have hleft : 0 < size - lb.pos := by omega
  have hlength := f.length_written_le hleft
  obtain ⟨buf', hstore, hval⟩ : ∃ buf', store lb.buf lb.pos (f.written (size - lb.pos)) = .ok buf' ∧
      buf'.val = overwrite lb.buf.val lb.pos (f.written (size - lb.pos)) :=
    exists_store (by omega)
  have hend : lb.pos + (size - lb.pos - 1) = size - 1 := by omega
  obtain ⟨lb', hmark, hpos', hzero, htake⟩ :
      ∃ lb' : LogBuffer size, markTruncated buf' (size - 1) = .ok lb' ∧ lb'.pos = size - 1 ∧
        lb'.buf.val[size - 1]? = some 0 ∧
        lb'.buf.val.take (size - 1) = buf'.val.take (size - 1 - 8) ++ truncMsg :=
    exists_markTruncated (by omega) (by omega)
  refine ⟨lb', ?_, hpos', hzero, ?_⟩
  · rw [vlog1Append, if_pos hleft, hstore, ok_bind, if_neg hfits, hend, hmark]
  · rw [htake, hval]
    rfl

end Spec

section Terminated

variable {size bufOffset : ℕ} {lb : LogBuffer size}

/-- What an append leaves. -/
structure Appended (bufOffset : ℕ) (lb : LogBuffer size) (f : Formatting) (lb' : LogBuffer size) :
    Prop where
  offset_le : bufOffset ≤ lb'.pos
  pos_lt : lb'.pos < size
  terminated : lb'.buf.val[lb'.pos]? = some 0
  below : lb'.buf.val.take bufOffset = lb.buf.val.take bufOffset
  marked : ¬ f.Fits (size - lb.pos) → (lb'.buf.val.take lb'.pos).drop (lb'.pos - 8) = truncMsg

lemma take_eq_of_take_append {k n : ℕ} {l front back : List UInt8} (h : l.take n = front ++ back)
    (hk : k ≤ n) (hfront : k ≤ front.length) : l.take k = front.take k := by
  rw [← List.take_append_of_le_length hfront, ← h, List.take_take, Nat.min_eq_left hk]

/-- **One append**, from any position in the buffer. -/
theorem exists_appended (hsize : bufOffset + 9 ≤ size) (hoffset : bufOffset ≤ lb.pos)
    (hpos : lb.pos < size) (f : Formatting) :
    ∃ lb', vlog1Append lb f = .ok lb' ∧ Appended bufOffset lb f lb' := by
  have hroom := lb.pos_le_length hpos
  by_cases hfits : f.Fits (size - lb.pos)
  · obtain ⟨bytes, rfl, hlength⟩ := hfits.exists_text
    obtain ⟨lb', happend, hpos', hzero, htake⟩ := exists_vlog1Append_text hpos hlength
    refine ⟨lb', happend, by omega, by omega, hzero, ?_, absurd hfits⟩
    rw [take_eq_of_take_append htake (by omega) (by rwa [List.length_take_of_le hroom]),
      List.take_take, Nat.min_eq_left hoffset]
  · obtain ⟨lb', happend, hpos', hzero, htake⟩ :=
      exists_vlog1Append_truncated (by omega) hpos hfits
    have hlength :
        ((overwrite lb.buf.val lb.pos (f.written (size - lb.pos))).take (size - 9)).length =
          size - 9 := by
      have hleft : 0 < size - lb.pos := by omega
      have hwritten := f.length_written_le hleft
      refine List.length_take_of_le ?_
      rw [length_overwrite_val lb.buf (by omega)]
      omega
    refine ⟨lb', happend, by omega, by omega, hpos' ▸ hzero, ?_, fun _ => ?_⟩
    · rw [take_eq_of_take_append htake (by omega) (by omega), List.take_take,
        Nat.min_eq_left (by omega), take_overwrite_of_le hroom hoffset]
    · rw [hpos', htake]
      exact List.drop_left' hlength

/-- Appends and flushes keep the position inside the buffer. -/
lemma LogBuffer.exists_step (hsize : bufOffset + 9 ≤ size) (lb : LogBuffer size)
    (event : LogEvent size) (hpos : bufOffset ≤ lb.pos ∧ lb.pos < size) :
    ∃ lb', lb.step bufOffset event = .ok lb' ∧ bufOffset ≤ lb'.pos ∧ lb'.pos < size := by
  cases event with
  | append f =>
      obtain ⟨lb', happend, h⟩ := exists_appended hsize hpos.1 hpos.2 f
      exact ⟨lb', happend, h.offset_le, h.pos_lt⟩
  | flush contents =>
      have hinside : bufOffset < size := by omega
      exact ⟨⟨contents, bufOffset⟩, rfl, Nat.le_refl _, hinside⟩

/-- **The log buffer stays terminated.**  Whatever was appended and flushed before, with a buffer of
at least 64 bytes: no write leaves the buffer and no assertion fails, and after the next append the
position is inside the buffer, on a terminator; nothing below the offset has changed, and a record
that did not fit ends in the mark. -/
theorem log_buffer_terminated (hsize : 64 ≤ size) (hoffset : bufOffset < 56)
    (contents : Cells UInt8 size) (events : List (LogEvent size)) :
    ∃ lb, LogBuffer.run bufOffset ⟨contents, bufOffset⟩ events = .ok lb ∧
      bufOffset ≤ lb.pos ∧ lb.pos < size ∧
      ∀ f, ∃ lb', vlog1Append lb f = .ok lb' ∧ Appended bufOffset lb f lb' := by
  have hroom : bufOffset + 9 ≤ size := by omega
  have hinside : bufOffset < size := by omega
  obtain ⟨lb, hrun, hge, hlt⟩ := exists_foldlM_ok (LogBuffer.exists_step hroom) events
    (s := ⟨contents, bufOffset⟩) ⟨Nat.le_refl _, hinside⟩
  exact ⟨lb, hrun, hge, hlt, exists_appended hroom hge hlt⟩

/-- A text of 200 bytes after one of five, in the smallest buffer. -/
theorem log_buffer_terminated_smallest :
    ∃ lb lb' : LogBuffer 64,
      LogBuffer.run 40 ⟨⟨List.replicate 64 0, rfl⟩, 40⟩ [.append (.text (List.replicate 5 65))] =
        .ok lb ∧
      vlog1Append lb (.text (List.replicate 200 66)) = .ok lb' ∧ lb'.pos < 64 ∧
      lb'.buf.val[lb'.pos]? = some 0 ∧
      (lb'.buf.val.take lb'.pos).drop (lb'.pos - 8) = truncMsg := by
  have hoffset : 40 < 56 := by decide
  obtain ⟨lb, hrun, -, -, hnext⟩ := log_buffer_terminated (by decide) hoffset
    ⟨List.replicate 64 0, rfl⟩ [.append (.text (List.replicate 5 65))]
  obtain ⟨lb', happend, h⟩ := hnext (.text (List.replicate 200 66))
  have hlong : ¬ (Formatting.text (List.replicate 200 66)).Fits (64 - lb.pos) := by
    rintro ⟨-, hfits⟩
    rw [Formatting.result, Int.toNat_natCast, List.length_replicate] at hfits
    omega
  exact ⟨lb, lb', hrun, happend, h.pos_lt, h.terminated, h.marked hlong⟩

end Terminated

section Record

variable {size bufOffset : ℕ} {lb lb' : LogBuffer size}

/-- The record so far. -/
def LogBuffer.record (bufOffset : ℕ) (lb : LogBuffer size) : List UInt8 :=
  (lb.buf.val.take lb.pos).drop bufOffset

/-- An append to a record of at most `capacity` bytes. -/
def boundedAppend (capacity : ℕ) (record bytes : List UInt8) : List UInt8 :=
  if (record ++ bytes).length ≤ capacity then record ++ bytes
  else (record ++ bytes).take (capacity - 8) ++ truncMsg

/-- The bytes before the mark: what was there and what is new, cut off. -/
lemma take_overwrite_written {bytes : List UInt8} (hsize : 9 ≤ size) (hpos : lb.pos < size)
    (hlong : size - lb.pos ≤ bytes.length) :
    (overwrite lb.buf.val lb.pos ((Formatting.text bytes).written (size - lb.pos))).take
        (size - 9) =
      (lb.buf.val.take lb.pos ++ bytes).take (size - 9) := by
  have hroom := lb.pos_le_length hpos
  have hwritten : (bytes.take (size - lb.pos - 1)).length = size - lb.pos - 1 :=
    List.length_take_of_le (by omega)
  have hend : lb.pos + (size - lb.pos - 1) = size - 1 := by omega
  have hall : (overwrite lb.buf.val lb.pos (bytes.take (size - lb.pos - 1) ++ [0])).take
      (lb.pos + (bytes.take (size - lb.pos - 1)).length) =
        lb.buf.val.take lb.pos ++ bytes.take (size - lb.pos - 1) :=
    take_overwrite_append hroom [0]
  rw [hwritten, hend] at hall
  have hnew : (lb.buf.val.take lb.pos ++ bytes).take (size - 1) =
      lb.buf.val.take lb.pos ++ bytes.take (size - lb.pos - 1) := by
    rw [List.take_append, List.length_take_of_le hroom, List.take_take,
      Nat.min_eq_right (by omega), Nat.sub_right_comm]
  have hcut := congrArg (List.take (size - 9)) (hall.trans hnew.symm)
  rwa [List.take_take, List.take_take, Nat.min_eq_left (by omega)] at hcut

/-- **The code appends to a bounded record**: the buffer holds the offset, the record and a
terminator. -/
theorem record_vlog1Append {bytes : List UInt8} (hsize : bufOffset + 9 ≤ size)
    (hoffset : bufOffset ≤ lb.pos) (hpos : lb.pos < size)
    (h : vlog1Append lb (.text bytes) = .ok lb') :
    lb'.record bufOffset = boundedAppend (size - 1 - bufOffset) (lb.record bufOffset) bytes := by
  have hroom := lb.pos_le_length hpos
  have hfilled : (lb.buf.val.take lb.pos).length = lb.pos := List.length_take_of_le hroom
  have hlength : (lb.record bufOffset ++ bytes).length = lb.pos - bufOffset + bytes.length := by
    rw [LogBuffer.record, List.length_append, List.length_drop, hfilled]
  have hrecord : (lb.buf.val.take lb.pos ++ bytes).drop bufOffset =
      lb.record bufOffset ++ bytes := by
    rw [List.drop_append_of_le_length (by omega), LogBuffer.record]
  rw [boundedAppend, hlength]
  by_cases hfits : bytes.length < size - lb.pos
  · obtain ⟨lb'', happend, -, -, htake⟩ := exists_vlog1Append_text hpos hfits
    cases h.symm.trans happend
    rw [if_pos (by omega), LogBuffer.record, htake, hrecord]
  · have hlong : ¬ (Formatting.text bytes).Fits (size - lb.pos) := fun hfit => hfits hfit.2
    obtain ⟨lb'', happend, hpos', -, htake⟩ :=
      exists_vlog1Append_truncated (by omega) hpos hlong
    cases h.symm.trans happend
    have hcut : ((lb.buf.val.take lb.pos ++ bytes).take (size - 9)).length = size - 9 := by
      refine List.length_take_of_le ?_
      rw [List.length_append, hfilled]
      omega
    have hcapacity : size - 9 - bufOffset = size - 1 - bufOffset - 8 := by omega
    rw [if_neg (by omega), LogBuffer.record, hpos', htake,
      take_overwrite_written (by omega) hpos (not_lt.mp hfits),
      List.drop_append_of_le_length (by omega), List.drop_take, hrecord, hcapacity]

/-- **Records.**  From the start or from a flush on, the texts are appended to a bounded record. -/
theorem record_run (hsize : bufOffset + 9 ≤ size) (contents : Cells UInt8 size)
    (texts : List (List UInt8)) :
    ∃ lb, LogBuffer.run bufOffset ⟨contents, bufOffset⟩
        (texts.map fun bytes => .append (.text bytes)) = .ok lb ∧
      lb.record bufOffset = texts.foldl (boundedAppend (size - 1 - bufOffset)) [] := by
  have hruns : ∀ lb : LogBuffer size, bufOffset ≤ lb.pos → lb.pos < size →
      ∃ lb', lb.run bufOffset (texts.map fun bytes => .append (.text bytes)) = .ok lb' ∧
        lb'.record bufOffset =
          texts.foldl (boundedAppend (size - 1 - bufOffset)) (lb.record bufOffset) := by
    induction texts with
    | nil => exact fun lb _ _ => ⟨lb, rfl, rfl⟩
    | cons bytes texts ih =>
        intro lb hge hlt
        obtain ⟨next, happend, h⟩ := exists_appended hsize hge hlt (.text bytes)
        obtain ⟨lb', hrun, hrecord⟩ := ih next h.offset_le h.pos_lt
        refine ⟨lb', ?_, ?_⟩
        · rw [LogBuffer.run, List.map_cons, List.foldlM_cons, LogBuffer.step, happend, ok_bind]
          exact hrun
        · rw [hrecord, List.foldl_cons, record_vlog1Append hsize hge hlt happend]
  have hempty : LogBuffer.record bufOffset ⟨contents, bufOffset⟩ = [] :=
    List.drop_eq_nil_of_le (List.length_take_le _ _)
  have hinside : bufOffset < size := by omega
  obtain ⟨lb, hrun, hrecord⟩ := hruns ⟨contents, bufOffset⟩ (Nat.le_refl _) hinside
  rw [hempty] at hrecord
  exact ⟨lb, hrun, hrecord⟩

end Record

end Ros2Zephyr
