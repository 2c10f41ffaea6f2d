import Ros2Zephyr.Allocator.Threads

/-!
# Room for the request

The allocator asks the heap for `sizeof(header) + size` bytes, in the wrapping arithmetic of
`size_t`, and only `ros2_zephyr_zero_allocate` looks for an overflow, and only in `count * size`.
A request within the header's size of `SIZE_MAX` therefore wraps to a few bytes, the heap may
grant them, and the caller gets a pointer to a block that cannot even hold the header.

* `runs_allocate`, `runs_reallocate`, `runs_zeroAllocate` — what a successful call leaves at the
  pointer it returns, for every heap that meets its contract.
* `returned_block_roomy_iff` — a call is safe for every such heap exactly when adding the header to
  the request does not wrap.
-/

namespace Ros2Zephyr

open Prog

variable {w : ℕ} (config : AllocatorConfig)

/-- The bytes a call asks for, in unbounded integers. -/
def AllocatorCall.requested : AllocatorCall w → ℕ
  | allocate size _ => size.toNat
  | deallocate _ _ => 0
  | reallocate _ size _ => size.toNat
  | zeroAllocate count size _ => count.toNat * size.toNat

/-- The block at a returned pointer has room for the header and the request. -/
def AllocatorMemory.RoomAt (m : AllocatorMemory w) (header bytes : ℕ) : Prop :=
  ∃ block, m.blocks header = some block ∧ bytes ≤ block.bytes

/-! ## What a successful call leaves

A run that returns a pointer is taken apart action by action.  The room at the pointer is settled by
the heap call and survives what comes behind it: the counters, the header and the copying.
-/

/-- A reported failure returns `NULL`. -/
lemma not_runs_report {domain : AllocationDomain} {size : SizeT w} {m m' : AllocatorMemory w}
    {header : ℕ} : ¬ Runs AllocatorAction.exec
      (do reportAllocationFailure domain size; pure none) m (some header) m' := by
  intro h
  obtain ⟨_, _, -, hprint⟩ := runs_act_iff.mp h
  obtain ⟨_, _, -, hret⟩ := runs_act_iff.mp hprint
  obtain ⟨hnone, -⟩ := runs_ret_iff.mp hret
  cases hnone

/-- Writing the header and changing counters leaves a block's capacity alone. -/
lemma AllocatorMemory.RoomAt.writeHeader {m : AllocatorMemory w} {header bytes : ℕ}
    {block : HeapBlock w} {value : AllocationHeader w} (hblock : m.blocks header = some block)
    (hroom : m.RoomAt header bytes) :
    (m.setBlock header (some { block with header := value })).RoomAt header bytes := by
  obtain ⟨block', hblock', hbytes⟩ := hroom
  rw [hblock, Option.some.injEq] at hblock'
  subst hblock'
  exact ⟨_, AllocatorMemory.setBlock_self _ _ _, hbytes⟩

/-- The block of an allocation has the size that was asked for, after wrapping. -/
lemma runs_allocate {size : SizeT w} {domain : AllocationDomain} {m m' : AllocatorMemory w}
    {header : ℕ}
    (h : Runs AllocatorAction.exec (ros2ZephyrAllocate config size domain) m (some header) m') :
    m'.RoomAt header (withHeader size).toNat := by
  unfold ros2ZephyrAllocate at h
  obtain ⟨injected, t, -, hrest⟩ := runs_bind_iff.mp h
  cases injected with
  | true => exact absurd hrest not_runs_report
  | false =>
      obtain ⟨result, t₁, halloc, hrest₁⟩ := runs_act_iff.mp hrest
      rcases halloc with ⟨rfl, -⟩ | ⟨header', block, rfl, -, -, hbytes, rfl⟩
      · exact absurd hrest₁ not_runs_report
      · obtain ⟨_, t₂, ⟨block', hblock', rfl⟩, hrest₂⟩ := runs_act_iff.mp hrest₁
        obtain ⟨_, t₃, rfl, hrest₃⟩ := runs_act_iff.mp hrest₂
        obtain ⟨hheader, rfl⟩ := runs_ret_iff.mp hrest₃
        cases hheader
        exact .writeHeader hblock' ⟨block, AllocatorMemory.setBlock_self _ _ _, hbytes⟩

/-- The heap call of a reallocation: the new block has the requested room, and across pools it is
another block than the old one. -/
lemma runs_requestReallocation {oldHeader header : ℕ} {oldPool newPool : UInt32}
    {bytes : SizeT w} {m m' : AllocatorMemory w}
    (h : Runs AllocatorAction.exec (requestReallocation config oldHeader oldPool newPool bytes) m
      (some header) m') :
    m'.RoomAt header bytes.toNat ∧
      (oldPool ≠ newPool → m.blocks oldHeader ≠ none → header ≠ oldHeader) := by
  unfold requestReallocation at h
  by_cases hpool : oldPool = newPool
  · rw [if_pos hpool] at h
    obtain ⟨result, t, hrealloc, hret⟩ := runs_act_iff.mp h
    obtain ⟨rfl, rfl⟩ := runs_ret_iff.mp hret
    rcases hrealloc with ⟨hnone, -⟩ | ⟨header', _, block, hsome, -, -, -, hbytes, -, rfl⟩
    · cases hnone
    · cases hsome
      exact ⟨⟨block, AllocatorMemory.setBlock_self _ _ _, hbytes⟩, fun hne => absurd hpool hne⟩
  · rw [if_neg hpool] at h
    obtain ⟨result, t, halloc, hret⟩ := runs_act_iff.mp h
    obtain ⟨rfl, rfl⟩ := runs_ret_iff.mp hret
    rcases halloc with ⟨hnone, -⟩ | ⟨header', block, hsome, hfree, -, hbytes, rfl⟩
    · cases hnone
    · cases hsome
      refine ⟨⟨block, AllocatorMemory.setBlock_self _ _ _, hbytes⟩, fun _ hold => ?_⟩
      rintro rfl
      exact hold hfree

/-- Copying into the new block and freeing the old one keeps the new block's room. -/
lemma runs_moveAcrossPools {oldHeader header bytes : ℕ} {old : AllocationHeader w}
    {newPool : UInt32} {size : SizeT w} {m m' : AllocatorMemory w}
    (h : Runs AllocatorAction.exec
      (moveAcrossPools config oldHeader header old newPool size) m () m')
    (hroom : m.RoomAt header bytes) (hne : old.pool ≠ newPool → header ≠ oldHeader) :
    m'.RoomAt header bytes := by
  unfold moveAcrossPools at h
  by_cases hpool : old.pool = newPool
  · rw [if_pos hpool] at h
    obtain ⟨-, rfl⟩ := runs_ret_iff.mp h
    exact hroom
  · rw [if_neg hpool] at h
    obtain ⟨_, t, ⟨new, oldBlock, hnew, -, rfl⟩, hfree⟩ := runs_act_iff.mp h
    obtain ⟨_, t', ⟨_, -, rfl⟩, hret⟩ := runs_act_iff.mp hfree
    obtain ⟨-, rfl⟩ := runs_ret_iff.mp hret
    obtain ⟨block, hblock, hbytes⟩ := hroom
    rw [hnew, Option.some.injEq] at hblock
    subst hblock
    exact ⟨_, (AllocatorMemory.setBlock_of_ne _ _ (hne hpool)).trans
      (AllocatorMemory.setBlock_self _ _ _), hbytes⟩

/-- A reallocation of nothing is an allocation; otherwise the room comes from the heap call and is
kept by the move and by the header. -/
lemma runs_reallocate (pointer : Option ℕ) {size : SizeT w} {domain : AllocationDomain}
    {m m' : AllocatorMemory w} {header : ℕ}
    (h : Runs AllocatorAction.exec (ros2ZephyrReallocate config pointer size domain) m
      (some header) m') :
    m'.RoomAt header (withHeader size).toNat := by
  cases pointer with
  | none => exact runs_allocate config h
  | some oldHeader =>
      obtain ⟨injected, t, -, hrest⟩ := runs_bind_iff.mp h
      cases injected with
      | true => exact absurd hrest not_runs_report
      | false =>
          obtain ⟨old, t₁, ⟨oldBlock, hold, -, rfl⟩, hrest₁⟩ := runs_act_iff.mp hrest
          obtain ⟨result, t₂, hrequest, hrest₂⟩ :=
            (runs_bind_iff (p := requestReallocation config oldHeader old.pool _ _)).mp hrest₁
          cases result with
          | none => exact absurd hrest₂ not_runs_report
          | some newHeader =>
              obtain ⟨hroom, hne⟩ := runs_requestReallocation config hrequest
              obtain ⟨_, t₃, hmove, hrest₃⟩ := runs_bind_iff.mp hrest₂
              obtain ⟨_, t₄, rfl, hrest₄⟩ := runs_act_iff.mp hrest₃
              obtain ⟨_, t₅, ⟨block, hblock, rfl⟩, hret⟩ := runs_act_iff.mp hrest₄
              obtain ⟨hheader, rfl⟩ := runs_ret_iff.mp hret
              cases hheader
              have hmoved := runs_moveAcrossPools config hmove hroom
                fun hpool => hne hpool (by simp [hold])
              exact .writeHeader hblock hmoved

/-- The guard lets no product through that wraps, and what is allocated is the product. -/
lemma runs_zeroAllocate {count size : SizeT w} {domain : AllocationDomain}
    {m m' : AllocatorMemory w} {header : ℕ}
    (h : Runs AllocatorAction.exec (ros2ZephyrZeroAllocate config count size domain) m
      (some header) m') :
    ¬ (size ≠ 0 ∧ BitVec.allOnes w / size < count) ∧
      m'.RoomAt header (withHeader (count * size)).toNat := by
  unfold ros2ZephyrZeroAllocate at h
  split at h
  · obtain ⟨hnone, -⟩ := runs_ret_iff.mp h
    cases hnone
  · rename_i hguard
    refine ⟨hguard, ?_⟩
    obtain ⟨result, t, halloc, hrest⟩ := runs_bind_iff.mp h
    cases result with
    | none =>
        obtain ⟨hnone, -⟩ := runs_ret_iff.mp hrest
        cases hnone
    | some header' =>
        obtain ⟨_, t', ⟨block, hblock, rfl⟩, hret⟩ := runs_act_iff.mp hrest
        obtain ⟨hheader, rfl⟩ := runs_ret_iff.mp hret
        cases hheader
        obtain ⟨block', hblock', hbytes⟩ := runs_allocate config halloc
        rw [hblock, Option.some.injEq] at hblock'
        subst hblock'
        exact ⟨_, AllocatorMemory.setBlock_self _ _ _, hbytes⟩

/-! ## A heap that grants no more than it is asked for

For the other direction it takes a run for every call: a heap that meets its contract, by a hair,
and a memory in which no failure is injected.
-/

/-- A memory in which the next attempt is not the one that is made to fail. -/
def AllocatorMemory.quiet (blocks : ℕ → Option (HeapBlock w)) : AllocatorMemory w :=
  { AllocatorMemory.boot w with rosAllocationAttempts := -1, blocks := blocks }

/-- A block of exactly the requested capacity. -/
def HeapBlock.tight (heap : HeapPool) (bytes : SizeT w) (pool : UInt32) : HeapBlock w :=
  ⟨heap, bytes.toNat, ⟨0, pool⟩, fun _ => 0⟩

/-- In a quiet memory no failure is injected, and the blocks stay as they are. -/
lemma runs_inject_quiet (domain : AllocationDomain) (blocks : ℕ → Option (HeapBlock w)) :
    ∃ m, Runs AllocatorAction.exec (injectAllocationFailure config domain)
      (AllocatorMemory.quiet blocks) false m ∧ m.blocks = blocks := by
  unfold injectAllocationFailure
  split
  · rename_i hconfig
    refine ⟨{ AllocatorMemory.quiet blocks with rosAllocationAttempts := -1 + 1 },
      Runs.act (r := 0) ⟨?_, rfl⟩ ?_, rfl⟩
    · exact (neg_add_cancel (1 : SizeT w)).symm
    · have hzero : ((0 : SizeT w).toNat == config.rosAllocationFailureAt) = false := by
        have hpos := hconfig.1
        have hnat : (0 : SizeT w).toNat = 0 := by simp
        rw [beq_eq_false_iff_ne, hnat]
        omega
      show Runs _ (ret ((0 : SizeT w).toNat == config.rosAllocationFailureAt)) _ false _
      rw [hzero]
      exact Runs.ret
  · exact ⟨_, Runs.ret, rfl⟩

/-- An allocation to which the heap gives a tight block at address 0. -/
lemma exists_runs_allocate (size : SizeT w) (domain : AllocationDomain) :
    ∃ m m' block, Runs AllocatorAction.exec (ros2ZephyrAllocate config size domain) m (some 0) m' ∧
      m'.blocks 0 = some block ∧ block.bytes = (withHeader size).toNat := by
  let external := wantsExternal config domain size
  let block : HeapBlock w := .tight (heapOf external) (withHeader size) 0
  let written : HeapBlock w := { block with header := ⟨size, poolTag external⟩ }
  obtain ⟨m, hinject, hblocks⟩ := runs_inject_quiet config domain fun _ => none
  let m' := (m.setBlock 0 (some block)).setBlock 0 (some written)
  refine ⟨_, m'.setMetrics domain ((m'.metrics domain).add size), written,
    runs_bind_iff.mpr ⟨false, m, hinject, ?_⟩, ?_, rfl⟩
  · refine Runs.perform (r := some 0)
      (.inr ⟨0, block, rfl, by rw [hblocks], rfl, le_rfl, rfl⟩) ?_
    refine Runs.perform (r := ()) ⟨block, AllocatorMemory.setBlock_self _ _ _, rfl⟩ ?_
    refine Runs.perform (r := ()) rfl ?_
    exact Runs.ret
  · exact AllocatorMemory.setBlock_self (m.setBlock 0 (some block)) 0 (some written)

/-- The memory before is what an allocation of the same size leaves at the address. -/
lemma exists_runs_reallocate (header : ℕ) (size : SizeT w) (domain : AllocationDomain) :
    ∃ m m' block, Runs AllocatorAction.exec
        (ros2ZephyrReallocate config (some header) size domain) m (some header) m' ∧
      m'.blocks header = some block ∧ block.bytes = (withHeader size).toNat := by
  let newPool := poolTag (wantsExternal config domain size)
  let old : HeapBlock w :=
    { HeapBlock.tight (freeHeap config newPool) (withHeader size) newPool with
      header := ⟨size, newPool⟩ }
  obtain ⟨m, hinject, hblocks⟩ :=
    runs_inject_quiet config domain (Function.update (fun _ => none) header (some old))
  have hold : m.blocks header = some old := by rw [hblocks, Function.update_self]
  let resized := (m.setBlock header none).setBlock header (some old)
  let counted := resized.setMetrics domain ((resized.metrics domain).replace size size)
  -- the old block is in the pool the new one goes to, so it is resized in place
  have hresize : Runs AllocatorAction.exec
      (requestReallocation config header newPool newPool (withHeader size)) m (some header)
      resized := by
    unfold requestReallocation
    rw [if_pos rfl]
    exact Runs.act (r := some header) (.inr ⟨header, old, old, rfl, hold, .inl rfl,
      rfl, le_rfl, ⟨fun _ => rfl, fun _ _ => rfl⟩, rfl⟩) Runs.ret
  have hmove : Runs AllocatorAction.exec
      (moveAcrossPools config header header old.header newPool size) resized () resized := by
    unfold moveAcrossPools
    rw [if_pos (show old.header.pool = newPool from rfl)]
    exact Runs.ret
  refine ⟨_, counted.setBlock header (some old), old,
    runs_bind_iff.mpr ⟨false, m, hinject, ?_⟩, AllocatorMemory.setBlock_self _ _ _, rfl⟩
  have hread : AllocatorAction.exec (.readHeader header) m old.header m := ⟨old, hold, rfl, rfl⟩
  refine Runs.perform hread ?_
  refine runs_bind_iff.mpr ⟨some header, resized, hresize, ?_⟩
  refine runs_bind_iff.mpr ⟨(), resized, hmove, ?_⟩
  refine Runs.perform (r := ()) (t := counted) rfl ?_
  refine Runs.perform (r := ()) (t := counted.setBlock header (some old)) ⟨old, ?_, rfl⟩ ?_
  · exact AllocatorMemory.setBlock_self (m.setBlock header none) header (some old)
  · exact Runs.ret

lemma exists_runs_zeroAllocate {count size : SizeT w} (domain : AllocationDomain)
    (hguard : ¬ (size ≠ 0 ∧ BitVec.allOnes w / size < count)) :
    ∃ m m' block, Runs AllocatorAction.exec
        (ros2ZephyrZeroAllocate config count size domain) m (some 0) m' ∧
      m'.blocks 0 = some block ∧ block.bytes = (withHeader (count * size)).toNat := by
  obtain ⟨m, m', block, hrun, hblock, hbytes⟩ := exists_runs_allocate config (count * size) domain
  unfold ros2ZephyrZeroAllocate
  rw [if_neg hguard]
  exact ⟨m, _, _, runs_bind_iff.mpr ⟨some 0, m', hrun, Runs.act (r := ()) ⟨block, hblock, rfl⟩
    Runs.ret⟩,
    AllocatorMemory.setBlock_self m' 0 _, hbytes⟩

/-! ## The exact condition

Wrapping is the only way to lose room: the sum as a word is the sum exactly if it fits.
-/

lemma withHeader_toNat (size : SizeT w) :
    (withHeader size).toNat = (sizeofAllocationHeader w + size.toNat) % 2 ^ w := by
  simp [withHeader, BitVec.toNat_add, BitVec.toNat_ofNat]

lemma le_withHeader_iff (size : SizeT w) :
    sizeofAllocationHeader w + size.toNat ≤ (withHeader size).toNat ↔
      sizeofAllocationHeader w + size.toNat < 2 ^ w := by
  rw [withHeader_toNat]
  constructor
  · intro hle
    exact lt_of_le_of_lt hle (Nat.mod_lt _ (Nat.two_pow_pos w))
  · intro hlt
    exact le_of_eq (Nat.mod_eq_of_lt hlt).symm

/-- The guard of `ros2_zephyr_zero_allocate` is exact. -/
lemma zeroAllocate_guard_iff (count size : SizeT w) :
    (size ≠ 0 ∧ BitVec.allOnes w / size < count) ↔ 2 ^ w ≤ count.toNat * size.toNat := by
  have hpow : 0 < 2 ^ w := Nat.two_pow_pos w
  by_cases hsize : size = 0
  · subst hsize
    simp
  · have hpos : 0 < size.toNat := by
      rcases Nat.eq_zero_or_pos size.toNat with h | h
      · exact absurd (BitVec.eq_of_toNat_eq (by simpa using h)) hsize
      · exact h
    simp only [ne_eq, hsize, not_false_eq_true, true_and]
    rw [BitVec.lt_def, BitVec.toNat_udiv, BitVec.toNat_allOnes, Nat.div_lt_iff_lt_mul hpos]
    omega

/-- A call whose successful runs all have `granted` bytes, and for which some run has no more. -/
lemma roomy_iff {code : AllocatorProg w (Option ℕ)} {granted bytes : ℕ}
    (hall : ∀ m m' header, Runs AllocatorAction.exec code m (some header) m' →
      m'.RoomAt header granted)
    (hsome : ∃ m m' header block, Runs AllocatorAction.exec code m (some header) m' ∧
      m'.blocks header = some block ∧ block.bytes = granted) :
    (∀ m m' header, Runs AllocatorAction.exec code m (some header) m' →
      m'.RoomAt header bytes) ↔ bytes ≤ granted := by
  constructor
  · intro h
    obtain ⟨m, m', header, block, hrun, hblock, hbytes⟩ := hsome
    obtain ⟨block', hblock', hroom⟩ := h m m' header hrun
    rw [hblock, Option.some.injEq] at hblock'
    subst hblock'
    exact hbytes ▸ hroom
  · intro hle m m' header hrun
    obtain ⟨block, hblock, hroom⟩ := hall m m' header hrun
    exact ⟨block, hblock, le_trans hle hroom⟩

/-- **When a returned block has room.**  For every heap that meets its contract, the block behind a
returned pointer holds the header and the request, in unbounded integers, exactly for the calls
whose request does not wrap when the header is added.  A `count * size` that itself wraps is
refused. -/
theorem returned_block_roomy_iff (call : AllocatorCall w) :
    (∀ m m' header, Runs AllocatorAction.exec (call.code config) m (some header) m' →
      m'.RoomAt header (sizeofAllocationHeader w + call.requested)) ↔ call.Fits := by
  cases call with
  | allocate size domain =>
      obtain ⟨m, m', block, hrun⟩ := exists_runs_allocate config size domain
      exact (roomy_iff (fun _ _ _ hrun => runs_allocate config hrun) ⟨m, m', 0, block, hrun⟩).trans
        (le_withHeader_iff size)
  | deallocate pointer domain =>
      refine ⟨fun _ => trivial, fun _ m m' header hrun => ?_⟩
      obtain ⟨_, _, -, hret⟩ := runs_bind_iff.mp hrun
      obtain ⟨hnone, -⟩ := runs_ret_iff.mp hret
      cases hnone
  | reallocate pointer size domain =>
      refine Iff.trans ?_ (le_withHeader_iff size)
      cases pointer with
      | none =>
          obtain ⟨m, m', block, hrun⟩ := exists_runs_allocate config size domain
          exact roomy_iff (fun _ _ _ hrun => runs_reallocate config none hrun)
            ⟨m, m', 0, block, hrun⟩
      | some header =>
          obtain ⟨m, m', block, hrun⟩ := exists_runs_reallocate config header size domain
          exact roomy_iff (fun _ _ _ hrun => runs_reallocate config (some header) hrun)
            ⟨m, m', header, block, hrun⟩
  | zeroAllocate count size domain =>
      by_cases hguard : size ≠ 0 ∧ BitVec.allOnes w / size < count
      · refine ⟨fun _ => .inl ((zeroAllocate_guard_iff count size).mp hguard), ?_⟩
        intro _ m m' header hrun
        exact absurd hguard (runs_zeroAllocate config hrun).1
      · have hlt : count.toNat * size.toNat < 2 ^ w :=
          not_le.mp fun hle => hguard ((zeroAllocate_guard_iff count size).mpr hle)
        have hmul : (count * size).toNat = count.toNat * size.toNat := by
          rw [BitVec.toNat_mul, Nat.mod_eq_of_lt hlt]
        obtain ⟨m, m', block, hrun⟩ := exists_runs_zeroAllocate config domain hguard
        refine (roomy_iff (fun _ _ _ hrun => (runs_zeroAllocate config hrun).2)
          ⟨m, m', 0, block, hrun⟩).trans ?_
        show _ + count.toNat * size.toNat ≤ _ ↔ _ ∨ _
        rw [← hmul, le_withHeader_iff, hmul]
        exact ⟨.inr, fun h => h.resolve_left (not_le.mpr hlt)⟩

/-- On a 32-bit target a request of `SIZE_MAX` bytes can be granted with a block of 7. -/
theorem allocate_returns_undersized :
    ∃ m m' header block, Runs AllocatorAction.exec
        (ros2ZephyrAllocate ⟨false, 0⟩ (0xffffffff : SizeT 32) .middleware) m (some header) m' ∧
      m'.blocks header = some block ∧ block.bytes = 7 := by
  obtain ⟨m, m', block, hrun, hblock, hbytes⟩ :=
    exists_runs_allocate ⟨false, 0⟩ (0xffffffff : SizeT 32) .middleware
  exact ⟨m, m', 0, block, hrun, hblock, by rw [hbytes]; decide⟩

end Ros2Zephyr
