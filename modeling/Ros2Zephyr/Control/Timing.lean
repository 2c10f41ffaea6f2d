import Mathlib.Algebra.Order.Floor.Div
import Ros2Zephyr.Core.Histogram
import Ros2Zephyr.Core.PyStr
import Ros2Zephyr.Core.Transition

/-!
# The timing probe

The optional probe of `samples/static_control/src/control.c` and the host's check of its records in
`tools/check_static_control_timing.py`.  `timing_record` files the lateness of a release and of a
completion in two histograms of 102 buckets of 100 µs; `static_control_timing_read` computes
percentiles from a copy of them.

* Every counter is a `uint32_t`, and so is the rank a percentile is looked up with.
* A bucket outside the array is no result: `timingRecord` is partial.
* `k_cyc_to_us_floor64` depends on the board; it is a parameter.
* `HistInv` — what a histogram, the number of its entries and the maximum have to do with each
  other.
-/

namespace Ros2Zephyr

open Transition Histogram

/-! ## Recording

`timing_record` and the timer's expiry, both under the lock of the probe.
-/

def timingBucketUs : UInt32 := 100

def timingBucketCount : ℕ := 102

/-- `uint32_t hist[TIMING_BUCKET_COUNT]` -/
abbrev TimingHist := Vector UInt32 timingBucketCount

/-- `static struct … timing`, without its lock. -/
structure TimingProbe where
  lastReleaseCycles : UInt32
  samples : UInt32
  releaseHist : TimingHist
  completionHist : TimingHist
  releaseMaxUs : UInt32
  completionMaxUs : UInt32
  deriving DecidableEq

/-- `memset(&timing, 0, sizeof(timing))` in `static_control_start`. -/
def TimingProbe.zero : TimingProbe :=
  { lastReleaseCycles := 0, samples := 0, releaseHist := Vector.replicate _ 0
    completionHist := Vector.replicate _ 0, releaseMaxUs := 0, completionMaxUs := 0 }

/-- `(uint32_t)MIN(us, UINT32_MAX)` -/
def saturate (us : UInt64) : UInt32 := (min us 0xFFFFFFFF).toUInt32

section Record

variable (cycToUs : UInt32 → UInt64)

def releaseUs (release start : UInt32) : UInt32 := saturate (cycToUs (start - release))

def completionLateUs (release completion : UInt32) : UInt32 :=
  let us := cycToUs (completion - release)
  saturate (if us > 10 * 1000 then us - 10 * 1000 else 0)

/-- `MIN(us / TIMING_BUCKET_US, TIMING_BUCKET_COUNT - 1U)` -/
def timingBucket (us : UInt32) : ℕ := (min (us / timingBucketUs) 101).toNat

/-- `hist[bucket]++`, where there is such a bucket. -/
def countIn (hist : TimingHist) (bucket : ℕ) : Option TimingHist :=
  if h : bucket < timingBucketCount then some (hist.set bucket (hist[bucket] + 1)) else none

def timingRecord (probe : TimingProbe) (release start completion : UInt32) : Option TimingProbe :=
  let releaseUs := releaseUs cycToUs release start
  let completionLateUs := completionLateUs cycToUs release completion
  (countIn probe.releaseHist (timingBucket releaseUs)).bind fun releaseHist =>
    (countIn probe.completionHist (timingBucket completionLateUs)).map fun completionHist =>
      { probe with
        samples := probe.samples + 1
        releaseHist, completionHist
        releaseMaxUs := max probe.releaseMaxUs releaseUs
        completionMaxUs := max probe.completionMaxUs completionLateUs }

/-- What happens to the probe under its lock. -/
inductive TimingEvent
  /-- `release_expiry` -/
  | expiry (cycles : UInt32)
  | record (release start completion : UInt32)
  deriving DecidableEq

def TimingProbe.step (probe : TimingProbe) : TimingEvent → Option TimingProbe
  | .expiry cycles => some { probe with lastReleaseCycles := cycles }
  | .record release start completion => timingRecord cycToUs probe release start completion

end Record

/-- How often `timing_record` was called. -/
def recordCount (events : List TimingEvent) : ℕ :=
  events.countP fun event => match event with
    | .expiry _ => false
    | .record .. => true

/-! ## Reading

What the firmware computes from its copy of the histograms, and what the host demands of the numbers
it prints.
-/

/-- `rank` -/
def timingRank (samples percentile : UInt32) : UInt32 := (samples * percentile + 99) / 100

/-- The loop of `timing_percentile`, from a bucket on. -/
def findBucket (rank : UInt32) : UInt32 → ℕ → List UInt32 → Option ℕ
  | _, _, [] => none
  | cumulative, bucket, count :: rest =>
      if cumulative + count ≥ rank then some bucket
      else findBucket rank (cumulative + count) (bucket + 1) rest

def timingPercentile (hist : TimingHist) (samples percentile : UInt32) : UInt32 :=
  if samples = 0 then 0
  else match findBucket (timingRank samples percentile) 0 0 hist.toList with
    | some bucket => UInt32.ofNat (bucket + 1) * timingBucketUs
    | none => UInt32.ofNat timingBucketCount * timingBucketUs

/-- `struct static_control_timing`, and the record that the host reads from its print. -/
structure StaticControlTiming (N : Type*) where
  samples : N
  releaseP50Us : N
  releaseP95Us : N
  releaseP99Us : N
  releaseMaxUs : N
  completionP50Us : N
  completionP95Us : N
  completionP99Us : N
  completionMaxUs : N
  deriving DecidableEq

def staticControlTimingRead (probe : TimingProbe) : StaticControlTiming UInt32 where
  samples := probe.samples
  releaseP50Us := timingPercentile probe.releaseHist probe.samples 50
  releaseP95Us := timingPercentile probe.releaseHist probe.samples 95
  releaseP99Us := timingPercentile probe.releaseHist probe.samples 99
  releaseMaxUs := probe.releaseMaxUs
  completionP50Us := timingPercentile probe.completionHist probe.samples 50
  completionP95Us := timingPercentile probe.completionHist probe.samples 95
  completionP99Us := timingPercentile probe.completionHist probe.samples 99
  completionMaxUs := probe.completionMaxUs

/-- The decimal numbers of the line that `main` prints, read back. -/
def StaticControlTiming.printed (timing : StaticControlTiming UInt32) : StaticControlTiming ℕ where
  samples := timing.samples.toNat
  releaseP50Us := timing.releaseP50Us.toNat
  releaseP95Us := timing.releaseP95Us.toNat
  releaseP99Us := timing.releaseP99Us.toNat
  releaseMaxUs := timing.releaseMaxUs.toNat
  completionP50Us := timing.completionP50Us.toNat
  completionP95Us := timing.completionP95Us.toNat
  completionP99Us := timing.completionP99Us.toNat
  completionMaxUs := timing.completionMaxUs.toNat

/-- Why `final_record` refuses a log. -/
inductive FinalRecordError
  | tooFew (found needed : ℕ)
  | notIncreasing
  | notUseful
  | percentileOrder (name : PyStr)
  /-- `records[-1]` of no records, for a minimum of zero, which `main` does not pass on -/
  | indexError
  deriving DecidableEq

def FinalRecordError.message (path : PyStr) : FinalRecordError → PyStr
  | tooFew found needed =>
      path ++ ": only " ++ PyStr.ofNat found
        ++ " timing records; need " ++ PyStr.ofNat needed
  | notIncreasing => path ++ ": sample count did not increase"
  | notUseful =>
      path ++ ": cycle counter did not produce useful release measurements"
  | percentileOrder name =>
      path ++ ": invalid " ++ name ++ " percentile order"
  | indexError => "list index out of range"

/-- `records[minimum_records - 1]` -/
def recordAt (records : List (StaticControlTiming ℕ)) :
    ℕ → Option (StaticControlTiming ℕ)
  | 0 => records.getLast?
  | n + 1 => records[n]?

/-- `final_record`, on the records found in the log. -/
def finalRecord (records : List (StaticControlTiming ℕ)) (minimumRecords : ℕ) :
    Except FinalRecordError (StaticControlTiming ℕ) :=
  if records.length < minimumRecords then .error (.tooFew records.length minimumRecords)
  else if (records.zip records.tail).any fun pair => decide (pair.2.samples ≤ pair.1.samples) then
    .error .notIncreasing
  else match recordAt records minimumRecords with
    | none => .error .indexError
    | some record =>
        if record.samples < 50 * minimumRecords ∨ record.releaseMaxUs = 0 then .error .notUseful
        else if ¬ (record.releaseP50Us ≤ record.releaseP95Us
            ∧ record.releaseP95Us ≤ record.releaseP99Us) then
          .error (.percentileOrder "release")
        else if ¬ (record.completionP50Us ≤ record.completionP95Us
            ∧ record.completionP95Us ≤ record.completionP99Us) then
          .error (.percentileOrder "completion")
        else .ok record

/-! ## Counts

The histogram as a list of natural numbers.  As long as their sum is below `2 ^ 32` no counter has
wrapped, and the general facts of `Histogram` apply.
-/

/-- The counts of a histogram as numbers. -/
def TimingHist.counts (hist : TimingHist) : List ℕ := hist.toList.map UInt32.toNat

section Counts

variable {hist : TimingHist} {samples percentile : UInt32}

lemma length_counts (hist : TimingHist) : (TimingHist.counts hist).length = timingBucketCount := by
  simp [TimingHist.counts]

lemma toNat_min (a b : UInt32) : (min a b).toNat = min a.toNat b.toNat := by
  show (if a ≤ b then a else b).toNat = _
  split_ifs with hle <;> rw [UInt32.le_iff_toNat_le] at hle <;> omega

lemma toNat_max (a b : UInt32) : (max a b).toNat = max a.toNat b.toNat := by
  show (if a ≤ b then b else a).toNat = _
  split_ifs with hle <;> rw [UInt32.le_iff_toNat_le] at hle <;> omega

lemma timingBucket_eq (us : UInt32) : timingBucket us = min (us.toNat / 100) 101 := by
  rw [timingBucket, toNat_min, UInt32.toNat_div]
  rfl

/-- Every index that is used is in the array. -/
lemma timingBucket_lt (us : UInt32) : timingBucket us < timingBucketCount := by
  rw [timingBucket_eq, timingBucketCount]
  omega

lemma timingBucket_max (a b : UInt32) :
    timingBucket (max a b) = max (timingBucket a) (timingBucket b) := by
  rw [timingBucket_eq, timingBucket_eq, timingBucket_eq, toNat_max]
  omega

/-- One more entry, as long as the counter of the bucket does not wrap. -/
lemma counts_countIn (hist : TimingHist) {bucket : ℕ} (hbucket : bucket < timingBucketCount)
    (hroom : (TimingHist.counts hist).sum + 1 < 2 ^ 32) :
    ∃ hist', countIn hist bucket = some hist' ∧
      TimingHist.counts hist' = bump (TimingHist.counts hist) bucket := by
  refine ⟨_, dif_pos hbucket, ?_⟩
  have hget : (TimingHist.counts hist).getD bucket 0 = hist[bucket].toNat := by
    rw [List.getD_eq_getElem _ _ (by rwa [length_counts])]
    simp [TimingHist.counts]
  have hle : hist[bucket].toNat ≤ (TimingHist.counts hist).sum := by
    refine List.le_sum_of_mem (List.mem_map_of_mem ?_)
    exact Vector.mem_toList_iff.mpr (Vector.getElem_mem hbucket)
  have hnext : (hist[bucket] + 1).toNat = hist[bucket].toNat + 1 := by
    rw [UInt32.toNat_add]
    exact Nat.mod_eq_of_lt (by simpa using by omega)
  rw [bump, hget, ← hnext]
  simp [TimingHist.counts, Vector.toList_set, List.map_set]

/-! ## Percentiles

The loop finds the least bucket that reaches the rank, whatever the rank is.  Whether it is the
right bucket is a question about the rank only, which is computed in 32 bits.
-/

/-- The loop finds the least bucket at which the running total reaches the rank. -/
lemma findBucket_eq (rank cumulative : UInt32) (bucket : ℕ) (counts : List UInt32)
    (hne : counts ≠ [])
    (hroom : cumulative.toNat + (counts.map UInt32.toNat).sum < 2 ^ 32)
    (hrank : rank.toNat ≤ cumulative.toNat + (counts.map UInt32.toNat).sum) :
    ∃ k < counts.length, findBucket rank cumulative bucket counts = some (bucket + k) ∧
      rank.toNat ≤ cumulative.toNat + Histogram.cumulative (counts.map UInt32.toNat) k ∧
      ∀ j < k, cumulative.toNat + Histogram.cumulative (counts.map UInt32.toNat) j
        < rank.toNat := by
  induction counts generalizing cumulative bucket with
  | nil => exact absurd rfl hne
  | cons count rest ih =>
      rw [List.map_cons, List.sum_cons] at hroom hrank
      have hadd : (cumulative + count).toNat = cumulative.toNat + count.toNat := by
        rw [UInt32.toNat_add]
        exact Nat.mod_eq_of_lt (by omega)
      by_cases hreached : cumulative + count ≥ rank
      · refine ⟨0, by simp, by rw [findBucket, if_pos hreached]; rfl, ?_, by simp⟩
        rw [List.map_cons, cumulative_cons_zero, ← hadd]
        exact UInt32.le_iff_toNat_le.mp hreached
      · have hbelow : cumulative.toNat + count.toNat < rank.toNat := by
          rw [← hadd]
          exact UInt32.lt_iff_toNat_lt.mp (UInt32.not_le.mp hreached)
        have hrest : rest ≠ [] := by
          rintro rfl
          simp at hrank
          omega
        obtain ⟨k, hk, hfind, hreach, hearlier⟩ := ih (cumulative + count) (bucket + 1) hrest
          (by rw [hadd]; omega) (by rw [hadd]; omega)
        refine ⟨k + 1, by simpa using hk, ?_, ?_, ?_⟩
        · rw [findBucket, if_neg hreached, hfind]
          congr 1
          omega
        · rw [List.map_cons, cumulative_cons_succ]
          omega
        · intro j hj
          rw [List.map_cons]
          cases j with
          | zero =>
              rw [cumulative_cons_zero]
              exact hbelow
          | succ j =>
              have hj' := hearlier j (by omega)
              rw [cumulative_cons_succ]
              omega

/-- The percentile is the upper end of the bucket that the code's rank is found in. -/
lemma timingPercentile_eq (percentile : UInt32) (hsamples : samples ≠ 0)
    (htotal : (TimingHist.counts hist).sum = samples.toNat)
    (hrank : (timingRank samples percentile).toNat ≤ samples.toNat) :
    ∃ i, IsRank (TimingHist.counts hist) (timingRank samples percentile).toNat i ∧
      (timingPercentile hist samples percentile).toNat = 100 * (i + 1) := by
  have hlength : hist.toList.length = timingBucketCount := by simp
  have hroom := samples.toNat_lt
  rw [← htotal] at hrank hroom
  obtain ⟨i, hi, hfind, hreach, hearlier⟩ := findBucket_eq (timingRank samples percentile)
    0 0 hist.toList (by rintro hnil; rw [hnil] at hlength; cases hlength)
    (by simpa [TimingHist.counts] using hroom) (by simpa [TimingHist.counts] using hrank)
  have hzero : (0 : UInt32).toNat = 0 := rfl
  simp only [hzero, Nat.zero_add] at hfind hreach hearlier
  refine ⟨i, ⟨by simpa [TimingHist.counts] using hi, hreach, hearlier⟩, ?_⟩
  rw [timingPercentile, if_neg hsamples, hfind]
  show (UInt32.ofNat (i + 1) * timingBucketUs).toNat = _
  rw [UInt32.toNat_mul, UInt32.toNat_ofNat']
  have hunit : timingBucketUs.toNat = 100 := rfl
  have hcount : i < 102 := hi.trans_eq hlength
  rw [hunit]
  omega

lemma toNat_timingRank (samples percentile : UInt32) :
    (timingRank samples percentile).toNat
      = (samples.toNat * percentile.toNat + 99) % 2 ^ 32 / 100 := by
  rw [timingRank, UInt32.toNat_div, UInt32.toNat_add, UInt32.toNat_mul]
  have hconst : (99 : UInt32).toNat = 99 ∧ (100 : UInt32).toNat = 100 := ⟨rfl, rfl⟩
  rw [hconst.1, hconst.2, Nat.mod_add_mod]

/-- The rank in unbounded arithmetic, `⌈samples * percentile / 100⌉`. -/
def exactRank (samples percentile : ℕ) : ℕ := samples * percentile ⌈/⌉ 100

lemma exactRank_eq (samples percentile : ℕ) :
    exactRank samples percentile = (samples * percentile + 99) / 100 := by
  rw [exactRank, Nat.ceilDiv_eq_add_pred_div]
  rfl

/-- Even a rank that has wrapped is a rank of the histogram: to wrap, the samples have to exceed
what a 32-bit number divided by a hundred can be. -/
lemma timingRank_le (samples : UInt32) (hpercentile : percentile ≤ 100) :
    (timingRank samples percentile).toNat ≤ samples.toNat := by
  have hle : percentile.toNat ≤ 100 := UInt32.le_iff_toNat_le.mp hpercentile
  have hproduct := Nat.mul_le_mul_left samples.toNat hle
  rw [toNat_timingRank]
  omega

lemma timingRank_exact (hfits : samples.toNat * percentile.toNat + 99 < 2 ^ 32) :
    (timingRank samples percentile).toNat = exactRank samples.toNat percentile.toNat := by
  rw [toNat_timingRank, Nat.mod_eq_of_lt hfits, exactRank_eq]

lemma timingRank_lt_of_wraps (hwraps : 2 ^ 32 ≤ samples.toNat * percentile.toNat + 99) :
    (timingRank samples percentile).toNat < exactRank samples.toNat percentile.toNat := by
  rw [toNat_timingRank, exactRank_eq]
  omega

/-- Entries in the first two buckets only. -/
def twoBuckets (first second : UInt32) : TimingHist :=
  ((Vector.replicate timingBucketCount 0).set 0 first (by decide)).set 1 second (by decide)

lemma counts_twoBuckets (first second : UInt32) :
    TimingHist.counts (twoBuckets first second)
      = first.toNat :: second.toNat :: List.replicate 100 0 := by
  rfl

/-- A higher percentile is found no earlier, as long as its rank does not wrap. -/
lemma timingPercentile_mono {percentile' : UInt32}
    (htotal : (TimingHist.counts hist).sum = samples.toNat) (hle : percentile ≤ percentile')
    (hpercentile : percentile' ≤ 100)
    (hfits : samples.toNat * percentile'.toNat + 99 < 2 ^ 32) :
    timingPercentile hist samples percentile ≤ timingPercentile hist samples percentile' := by
  by_cases hsamples : samples = 0
  · rw [timingPercentile, timingPercentile, if_pos hsamples, if_pos hsamples]
    exact UInt32.le_refl 0
  have hproduct := Nat.mul_le_mul_left samples.toNat (UInt32.le_iff_toNat_le.mp hle)
  obtain ⟨i, hi, hvalue⟩ := timingPercentile_eq percentile hsamples htotal
    (timingRank_le samples (UInt32.le_trans hle hpercentile))
  obtain ⟨j, hj, hvalue'⟩ := timingPercentile_eq percentile' hsamples htotal
    (timingRank_le samples hpercentile)
  have hrank : (timingRank samples percentile).toNat ≤ (timingRank samples percentile').toNat := by
    rw [toNat_timingRank, toNat_timingRank]
    omega
  have hij := hi.mono hj hrank
  rw [UInt32.le_iff_toNat_le, hvalue, hvalue']
  omega

end Counts

/-! ## Whole runs

`HistInv` is kept by every entry; from it follows what a reading says, percentiles included.
-/

/-- A histogram of `n` entries, the largest of which is `maximum`. -/
structure HistInv (hist : TimingHist) (n : ℕ) (maximum : UInt32) : Prop where
  total : (TimingHist.counts hist).sum = n
  empty : n = 0 → maximum = 0
  highest : 0 < n → Highest (TimingHist.counts hist) (timingBucket maximum)

/-- The probe after `n` calls of `timing_record`. -/
structure ProbeInv (n : ℕ) (probe : TimingProbe) : Prop where
  samples : probe.samples.toNat = n
  release : HistInv probe.releaseHist n probe.releaseMaxUs
  completion : HistInv probe.completionHist n probe.completionMaxUs

/-- What a histogram, the number of samples and the maximum of a reading have to do with each
other. -/
structure Summarised (hist : TimingHist) (samples maximum : UInt32) : Prop where
  total : (TimingHist.counts hist).sum = samples.toNat
  nonempty : samples ≠ 0 → ∃ i, Highest (TimingHist.counts hist) i
  /-- the maximum lies in the last bucket that is not empty; the bucket 101 has no upper end -/
  highest : ∀ i, Highest (TimingHist.counts hist) i →
    100 * i ≤ maximum.toNat ∧ (i < 101 → maximum.toNat < 100 * (i + 1))
  percentiles : ∀ percentile ≤ 100,
    (timingPercentile hist samples percentile).toNat ≤ maximum.toNat + 100

section Runs

variable (cycToUs : UInt32 → UInt64) {n : ℕ} {probe : TimingProbe}

lemma histInv_zero : HistInv (Vector.replicate timingBucketCount 0) 0 0 where
  total := rfl
  empty _ := rfl
  highest h := absurd h (lt_irrefl 0)

/-- One more entry goes into its bucket, and the maximum into the last one that is not empty. -/
lemma HistInv.record {hist : TimingHist} {maximum : UInt32} (h : HistInv hist n maximum)
    (hroom : n + 1 < 2 ^ 32) (us : UInt32) :
    ∃ hist', countIn hist (timingBucket us) = some hist' ∧
      HistInv hist' (n + 1) (max maximum us) := by
  have hbucket : timingBucket us < (TimingHist.counts hist).length := by
    rw [length_counts]
    exact timingBucket_lt us
  obtain ⟨hist', hcount, hcounts⟩ := counts_countIn hist (timingBucket_lt us)
    (by rw [h.total]; exact hroom)
  refine ⟨hist', hcount, ?_, fun hn => absurd hn n.succ_ne_zero, fun _ => ?_⟩
  · rw [hcounts, sum_bump hbucket, h.total]
  · rw [hcounts]
    rcases Nat.eq_zero_or_pos n with rfl | hn
    · rw [h.empty rfl, show max 0 us = us by
        apply UInt32.toNat_inj.mp
        rw [toNat_max]
        exact Nat.zero_max _]
      exact highest_bump_of_empty h.total hbucket
    · rw [timingBucket_max]
      exact (h.highest hn).bump hbucket

/-- An expiry leaves the histograms alone, a record adds one entry to each. -/
lemma ProbeInv.step (h : ProbeInv n probe) (event : TimingEvent)
    (hroom : n + recordCount [event] < 2 ^ 32) :
    ∃ probe', probe.step cycToUs event = some probe' ∧
      ProbeInv (n + recordCount [event]) probe' ∧
      probe.releaseMaxUs ≤ probe'.releaseMaxUs ∧
        probe.completionMaxUs ≤ probe'.completionMaxUs := by
  cases event with
  | expiry cycles =>
      exact ⟨_, rfl, ⟨h.samples, h.release, h.completion⟩, UInt32.le_refl _, UInt32.le_refl _⟩
  | record release start completion =>
      have hroom' : n + 1 < 2 ^ 32 := hroom
      obtain ⟨releaseHist, hrelease, hreleaseInv⟩ :=
        h.release.record hroom' (releaseUs cycToUs release start)
      obtain ⟨completionHist, hcompletion, hcompletionInv⟩ :=
        h.completion.record hroom' (completionLateUs cycToUs release completion)
      have hstep : probe.step cycToUs (.record release start completion) = some
          { probe with
            samples := probe.samples + 1, releaseHist, completionHist
            releaseMaxUs := max probe.releaseMaxUs (releaseUs cycToUs release start)
            completionMaxUs :=
              max probe.completionMaxUs (completionLateUs cycToUs release completion) } := by
        simp only [TimingProbe.step, timingRecord, hrelease, hcompletion, Option.bind_some,
          Option.map_some]
      refine ⟨_, hstep, ⟨?_, hreleaseInv, hcompletionInv⟩, ?_, ?_⟩
      · show (probe.samples + 1).toNat = n + 1
        rw [UInt32.toNat_add, h.samples]
        exact Nat.mod_eq_of_lt hroom'
      · show probe.releaseMaxUs ≤ max probe.releaseMaxUs _
        rw [UInt32.le_iff_toNat_le, toNat_max]
        exact le_max_left _ _
      · show probe.completionMaxUs ≤ max probe.completionMaxUs _
        rw [UInt32.le_iff_toNat_le, toNat_max]
        exact le_max_left _ _

lemma recordCount_cons (event : TimingEvent) (events : List TimingEvent) :
    recordCount (event :: events) = recordCount [event] + recordCount events := by
  rw [recordCount, ← List.singleton_append, List.countP_append]
  rfl

/-- A run never gets stuck, keeps the invariant and does not lower the maxima. -/
lemma ProbeInv.run (h : ProbeInv n probe) (events : List TimingEvent)
    (hroom : n + recordCount events < 2 ^ 32) :
    ∃ probe', runLabels (TimingProbe.step cycToUs) probe events = some probe' ∧
      ProbeInv (n + recordCount events) probe' ∧
      probe.releaseMaxUs ≤ probe'.releaseMaxUs ∧
        probe.completionMaxUs ≤ probe'.completionMaxUs := by
  induction events generalizing n probe with
  | nil => exact ⟨probe, rfl, h, UInt32.le_refl _, UInt32.le_refl _⟩
  | cons event events ih =>
      rw [recordCount_cons] at hroom ⊢
      obtain ⟨probe₁, hstep, hinv, hrelease, hcompletion⟩ :=
        h.step cycToUs event (by omega)
      obtain ⟨probe₂, hrun, hinv', hrelease', hcompletion'⟩ := ih hinv (by omega)
      refine ⟨probe₂, ?_, by rwa [← Nat.add_assoc], UInt32.le_trans hrelease hrelease',
        UInt32.le_trans hcompletion hcompletion'⟩
      rw [runLabels, hstep, Option.bind_some, hrun]

lemma probeInv_zero : ProbeInv 0 TimingProbe.zero := ⟨rfl, histInv_zero, histInv_zero⟩

/-- What a reading of a histogram says: its sum, the bucket of its maximum, and a percentile that is
no more than one bucket beyond it. -/
lemma HistInv.summarised {hist : TimingHist} {samples maximum : UInt32}
    (h : HistInv hist samples.toNat maximum) : Summarised hist samples maximum := by
  have hpos : samples ≠ 0 → 0 < samples.toNat := by
    intro hne
    exact Nat.pos_of_ne_zero fun hzero => hne (UInt32.toNat_inj.mp hzero)
  have hbucket : 100 * timingBucket maximum ≤ maximum.toNat := by
    rw [timingBucket_eq]
    omega
  refine ⟨h.total, fun hne => ⟨_, h.highest (hpos hne)⟩, ?_, ?_⟩
  · intro i hi
    by_cases hsamples : samples = 0
    · -- nothing was recorded, so no bucket is filled
      subst hsamples
      have hle := List.le_sum_of_mem (List.getElem_mem (lt_length_of_getD_pos hi.1))
      have hfilled := hi.1
      rw [List.getD_eq_getElem _ _ (lt_length_of_getD_pos hi.1)] at hfilled
      rw [h.total] at hle
      exact absurd (hfilled.trans_le hle) (lt_irrefl 0)
    · have hsame : i = timingBucket maximum := by
        have hother := h.highest (hpos hsamples)
        rcases lt_trichotomy i (timingBucket maximum) with hlt | heq | hlt
        · exact absurd (hi.2 _ hlt) hother.1.ne'
        · exact heq
        · exact absurd (hother.2 _ hlt) hi.1.ne'
      rw [hsame, timingBucket_eq]
      omega
  · intro percentile hpercentile
    by_cases hsamples : samples = 0
    · rw [timingPercentile, if_pos hsamples]
      exact Nat.zero_le _
    · obtain ⟨i, hi, hvalue⟩ := timingPercentile_eq percentile hsamples h.total
        (timingRank_le samples hpercentile)
      have hle : i ≤ timingBucket maximum := hi.le_highest (h.highest (hpos hsamples)) (by
        rw [h.total]
        exact timingRank_le samples hpercentile)
      omega

/-- **The timing histograms.**  However release, start and completion fall, and however the timer
interrupts in between, fewer than `2 ^ 32` calls of `timing_record` after a start never leave the
arrays, and after any of them the samples are the sum of each histogram, each maximum lies in the
last bucket that is not empty and has not decreased, and no percentile exceeds it by more than the
width of a bucket. -/
theorem timing_histograms_consistent (cycToUs : UInt32 → UInt64) (earlier later : List TimingEvent)
    (hcalls : recordCount earlier + recordCount later < 2 ^ 32) :
    ∃ past probe, runLabels (TimingProbe.step cycToUs) TimingProbe.zero earlier = some past ∧
      runLabels (TimingProbe.step cycToUs) past later = some probe ∧
      (past.releaseMaxUs ≤ probe.releaseMaxUs ∧ past.completionMaxUs ≤ probe.completionMaxUs) ∧
      Summarised probe.releaseHist probe.samples probe.releaseMaxUs ∧
      Summarised probe.completionHist probe.samples probe.completionMaxUs := by
  obtain ⟨past, hpast, hpastInv, -, -⟩ :=
    probeInv_zero.run cycToUs earlier (by omega)
  obtain ⟨probe, hprobe, hinv, hmaxima⟩ :=
    hpastInv.run cycToUs later (by omega)
  refine ⟨past, probe, hpast, hprobe, hmaxima, ?_, ?_⟩
  · refine HistInv.summarised ?_
    rw [hinv.samples]
    exact hinv.release
  · refine HistInv.summarised ?_
    rw [hinv.samples]
    exact hinv.completion

theorem timing_histograms_consistent_two :
    ∃ past probe, runLabels (TimingProbe.step UInt32.toUInt64) TimingProbe.zero
        [.expiry 5, .record 5 10 20] = some past ∧
      runLabels (TimingProbe.step UInt32.toUInt64) past [.record 4294967290 250 20000]
        = some probe ∧
      Summarised probe.releaseHist probe.samples probe.releaseMaxUs := by
  obtain ⟨past, probe, hpast, hprobe, -, hrelease, -⟩ :=
    timing_histograms_consistent UInt32.toUInt64 [.expiry 5, .record 5 10 20]
      [.record 4294967290 250 20000] (by decide)
  exact ⟨past, probe, hpast, hprobe, hrelease⟩

end Runs

/-! ## The host's check

`final_record` tests the order of the percentiles.  On what the firmware prints, the test fails only
where a rank has wrapped.
-/

/-- The order that `final_record` demands. -/
def StaticControlTiming.Ordered (record : StaticControlTiming ℕ) : Prop :=
  (record.releaseP50Us ≤ record.releaseP95Us ∧ record.releaseP95Us ≤ record.releaseP99Us) ∧
    record.completionP50Us ≤ record.completionP95Us ∧
    record.completionP95Us ≤ record.completionP99Us

lemma recordAt_mem {records : List (StaticControlTiming ℕ)} {minimumRecords : ℕ}
    {record : StaticControlTiming ℕ} (h : recordAt records minimumRecords = some record) :
    record ∈ records := by
  cases minimumRecords with
  | zero => exact List.mem_of_getLast? h
  | succ n => exact List.mem_of_getElem? h

lemma finalRecord_ne_percentileOrder {records : List (StaticControlTiming ℕ)}
    (h : ∀ record ∈ records, record.Ordered) (minimumRecords : ℕ) (name : PyStr) :
    finalRecord records minimumRecords ≠ .error (.percentileOrder name) := by
  unfold finalRecord
  split_ifs
  · simp
  · simp
  · split
    · simp
    · next record hrecord =>
        have hordered := h record (recordAt_mem hrecord)
        rw [if_neg (not_not_intro hordered.1), if_neg (not_not_intro hordered.2)]
        split_ifs <;> simp

/-- With ranks that do not wrap, the percentiles of a reading are in order. -/
lemma ProbeInv.ordered {n : ℕ} {probe : TimingProbe} (h : ProbeInv n probe)
    (hfits : n * 99 + 99 < 2 ^ 32) : (staticControlTimingRead probe).printed.Ordered := by
  have hmono : ∀ {hist : TimingHist}, (TimingHist.counts hist).sum = n →
      ∀ {p q : UInt32}, p ≤ q → q ≤ 99 →
        (timingPercentile hist probe.samples p).toNat
          ≤ (timingPercentile hist probe.samples q).toNat := by
    intro hist htotal p q hpq hq
    have hproduct := Nat.mul_le_mul_left probe.samples.toNat (UInt32.le_iff_toNat_le.mp hq)
    have hbound : (99 : UInt32).toNat = 99 := rfl
    rw [h.samples, hbound] at hproduct
    refine UInt32.le_iff_toNat_le.mp (timingPercentile_mono ?_ hpq ?_ ?_)
    · rw [htotal, h.samples]
    · exact UInt32.le_trans hq (by decide)
    · rw [h.samples]
      omega
  exact ⟨⟨hmono h.release.total (by decide) (by decide),
      hmono h.release.total (by decide) (by decide)⟩,
    hmono h.completion.total (by decide) (by decide),
    hmono h.completion.total (by decide) (by decide)⟩

/-- A rank that wraps is too small for some histogram: one whose first bucket reaches the wrapped
rank and not the right one. -/
lemma exists_wrong_of_wraps {samples percentile : UInt32} (hsamples : 1 ≤ samples)
    (hpercentile : percentile ≤ 100)
    (hwraps : 2 ^ 32 ≤ samples.toNat * percentile.toNat + 99) :
    ∃ hist : TimingHist, (TimingHist.counts hist).sum = samples.toNat ∧
      ∀ i, IsRank (TimingHist.counts hist) (exactRank samples.toNat percentile.toNat) i →
        (timingPercentile hist samples percentile).toNat ≠ 100 * (i + 1) := by
  have hle : timingRank samples percentile ≤ samples :=
    UInt32.le_iff_toNat_le.mpr (timingRank_le samples hpercentile)
  have hlt := timingRank_lt_of_wraps hwraps
  have htotal : (TimingHist.counts (twoBuckets (timingRank samples percentile)
      (samples - timingRank samples percentile))).sum = samples.toNat := by
    rw [counts_twoBuckets, List.sum_cons, List.sum_cons, List.sum_replicate,
      UInt32.toNat_sub_of_le _ _ hle]
    have hle' := UInt32.le_iff_toNat_le.mp hle
    simp only [smul_zero]
    omega
  refine ⟨_, htotal, fun i hi hvalue => ?_⟩
  obtain ⟨j, hj, hvalue'⟩ := timingPercentile_eq percentile
    (by rintro rfl; exact absurd hsamples (by decide)) htotal (timingRank_le samples hpercentile)
  have hfirst : cumulative (TimingHist.counts (twoBuckets (timingRank samples percentile)
      (samples - timingRank samples percentile))) 0 = (timingRank samples percentile).toNat := by
    rw [counts_twoBuckets, cumulative_cons_zero]
  have hj0 : j = 0 := by
    by_contra hne
    exact absurd hfirst (hj.2.2 0 (Nat.pos_of_ne_zero hne)).ne
  have hi0 : i ≠ 0 := by
    rintro rfl
    have hreached := hi.2.1
    rw [hfirst] at hreached
    exact absurd hreached (not_le.mpr hlt)
  rw [hvalue'] at hvalue
  omega

/-- **Percentiles.**  For given samples and percentile, `timing_percentile` is right for every
histogram of that many entries exactly if the product does not leave 32 bits.  Below that it is
monotone in the percentile, and no record that the firmware prints before `99 * samples + 99` does
is refused for the order of its percentiles. -/
theorem timing_percentile_exact_iff (samples percentile : UInt32) (cycToUs : UInt32 → UInt64) :
    (1 ≤ samples → 1 ≤ percentile → percentile ≤ 100 →
      ((∀ hist : TimingHist, (TimingHist.counts hist).sum = samples.toNat →
          ∃ i, IsRank (TimingHist.counts hist) (exactRank samples.toNat percentile.toNat) i ∧
            (timingPercentile hist samples percentile).toNat = 100 * (i + 1)) ↔
        samples.toNat * percentile.toNat + 99 < 2 ^ 32)) ∧
    (∀ (hist : TimingHist) (percentile' : UInt32),
      (TimingHist.counts hist).sum = samples.toNat → percentile ≤ percentile' →
      percentile' ≤ 100 → samples.toNat * percentile'.toNat + 99 < 2 ^ 32 →
      timingPercentile hist samples percentile ≤ timingPercentile hist samples percentile') ∧
    ∀ (records : List (StaticControlTiming ℕ)) (minimumRecords : ℕ) (name : PyStr),
      (∀ record ∈ records, ∃ events probe, recordCount events * 99 + 99 < 2 ^ 32 ∧
        runLabels (TimingProbe.step cycToUs) TimingProbe.zero events = some probe ∧
        record = (staticControlTimingRead probe).printed) →
      finalRecord records minimumRecords ≠ .error (.percentileOrder name) := by
  refine ⟨?_, ?_, ?_⟩
  · intro hsamples _ hpercentile
    constructor
    · intro hright
      by_contra hwraps
      obtain ⟨hist, htotal, hwrong⟩ :=
        exists_wrong_of_wraps hsamples hpercentile (not_lt.mp hwraps)
      obtain ⟨i, hi, hvalue⟩ := hright hist htotal
      exact hwrong i hi hvalue
    · intro hfits hist htotal
      rw [← timingRank_exact hfits]
      exact timingPercentile_eq percentile (by rintro rfl; exact absurd hsamples (by decide)) htotal
        (timingRank_le samples hpercentile)
  · intro hist percentile' htotal hle hpercentile hfits
    exact timingPercentile_mono htotal hle hpercentile hfits
  · intro records minimumRecords name hrecords
    refine finalRecord_ne_percentileOrder (fun record hrecord => ?_) minimumRecords name
    obtain ⟨events, probe, hfits, hrun, rfl⟩ := hrecords record hrecord
    obtain ⟨probe', hrun', hinv, -, -⟩ := probeInv_zero.run cycToUs events (by omega)
    rw [hrun, Option.some.injEq] at hrun'
    subst hrun'
    rw [Nat.zero_add] at hinv
    exact hinv.ordered hfits

/-! ## Beyond the limit

The run that breaks the percentiles has sixty million records, too many to be stepped through.
Records of the same values are added up instead: `TimingProbe.repeated` is the state after any
number of them.
-/

/-- `count` more entries of one value. -/
def fileTimes (hist : TimingHist) (us count : UInt32) : TimingHist :=
  have hbucket := timingBucket_lt us
  hist.set (timingBucket us) (hist[timingBucket us] + count)

/-- The probe after `count` calls of `timing_record` that all measured the same. -/
def TimingProbe.repeated (probe : TimingProbe) (releaseUs lateUs count : UInt32) : TimingProbe :=
  { probe with
    samples := probe.samples + count
    releaseHist := fileTimes probe.releaseHist releaseUs count
    completionHist := fileTimes probe.completionHist lateUs count
    releaseMaxUs := max probe.releaseMaxUs releaseUs
    completionMaxUs := max probe.completionMaxUs lateUs }

lemma fileTimes_fileTimes (hist : TimingHist) (us a b : UInt32) :
    fileTimes (fileTimes hist us a) us b = fileTimes hist us (a + b) := by
  simp [fileTimes, UInt32.add_assoc]

lemma max_max_self (a b : UInt32) : max (max a b) b = max a b := by
  apply UInt32.toNat_inj.mp
  rw [toNat_max, toNat_max, max_assoc, max_self]

lemma TimingProbe.repeated_repeated (probe : TimingProbe) (releaseUs lateUs a b : UInt32) :
    (probe.repeated releaseUs lateUs a).repeated releaseUs lateUs b
      = probe.repeated releaseUs lateUs (a + b) := by
  simp only [repeated, fileTimes_fileTimes, max_max_self, UInt32.add_assoc]

lemma step_record (cycToUs : UInt32 → UInt64) (probe : TimingProbe)
    (release start completion : UInt32) :
    probe.step cycToUs (.record release start completion)
      = some (probe.repeated (releaseUs cycToUs release start)
          (completionLateUs cycToUs release completion) 1) := by
  have hcount : ∀ (hist : TimingHist) (us : UInt32),
      countIn hist (timingBucket us) = some (fileTimes hist us 1) :=
    fun hist us => dif_pos (timingBucket_lt us)
  simp only [TimingProbe.step, timingRecord, hcount, Option.bind_some, Option.map_some,
    TimingProbe.repeated]

/-- A run of equal records, by induction on their number. -/
lemma runLabels_replicate (cycToUs : UInt32 → UInt64) (probe : TimingProbe)
    (release start completion : UInt32) (n : ℕ) :
    runLabels (TimingProbe.step cycToUs) probe
        (List.replicate (n + 1) (.record release start completion))
      = some (probe.repeated (releaseUs cycToUs release start)
          (completionLateUs cycToUs release completion) (UInt32.ofNat (n + 1))) := by
  induction n generalizing probe with
  | zero =>
      rw [List.replicate_one, runLabels, step_record]
      rfl
  | succ n ih =>
      rw [List.replicate_succ, runLabels, step_record, Option.bind_some, ih,
        TimingProbe.repeated_repeated, Nat.add_comm (n + 1) 1, UInt32.ofNat_add 1]
      rfl

/-- Twenty million releases on time and forty million late by 100 µs, on a clock of 1 MHz. -/
def weekOfSamples : List TimingEvent :=
  List.replicate (19999999 + 1) (.record 0 0 0) ++ List.replicate (39999999 + 1) (.record 0 100 0)

/-- After a week at 100 Hz the rank of the 95th percentile has wrapped and that of the median has
not, and the host refuses what the firmware prints. -/
theorem timing_percentile_wraps :
    ∃ probe, runLabels (TimingProbe.step UInt32.toUInt64) TimingProbe.zero weekOfSamples
        = some probe ∧
      (TimingHist.counts probe.releaseHist).sum = 60000000 ∧ probe.samples = 60000000 ∧
      IsRank (TimingHist.counts probe.releaseHist) (exactRank 60000000 95) 1 ∧
      timingPercentile probe.releaseHist probe.samples 50 = 200 ∧
      timingPercentile probe.releaseHist probe.samples 95 = 100 ∧
      finalRecord [(staticControlTimingRead probe).printed] 1
        = .error (.percentileOrder (PyStr.ofString "release")) := by
  have hrun : runLabels (TimingProbe.step UInt32.toUInt64) TimingProbe.zero weekOfSamples
      = some ((TimingProbe.zero.repeated 0 0 20000000).repeated 100 0 40000000) := by
    rw [weekOfSamples, runLabels_append, runLabels_replicate, Option.bind_some, runLabels_replicate]
    rfl
  refine ⟨_, hrun, by decide, by decide, ?_, by decide, by decide,
    by decide⟩
  rw [exactRank_eq]
  refine ⟨by decide, by decide, by decide⟩

end Ros2Zephyr
