import Ros2Zephyr.Allocator.Local

/-!
# Blocks in two pools

With an external heap a block lives in one of two pools, and a reallocation that crosses the
domain's threshold moves it.  Two things are shown.

* In every state that any number of threads can reach, also while callers write into their blocks,
  every block in a caller's hands carries the tag of its heap, the tag follows from the recorded
  size, and a heap is only asked to free or resize a block of its own (`PoolInv`).
* From such a state a reallocation keeps the contents, records the new size and releases the old
  block exactly once, or it returns `NULL` and nothing has happened (`runs_reallocate_some`,
  `runs_reallocate_none`).  "Exactly once" is a statement about the calls that were made, so these
  runs carry a log of the actions.
-/

namespace Ros2Zephyr

open Heaplet Prog Transition

variable {w : ℕ}

/-! ## What is claimed of a block and of a call

The notions of the theorem, each with the lemma that gets it from `Local`.
-/

/-- The tag of the block names its heap and follows from the recorded size. -/
structure Tagged (domain : AllocationDomain) (block : HeapBlock w) : Prop where
  known : block.header.pool = allocationPoolInternal ∨ block.header.pool = allocationPoolExternal
  heap : block.heap = .external ↔ block.header.pool = allocationPoolExternal
  threshold : block.header.pool = allocationPoolExternal ↔
    domain.externalThreshold w ≤ block.header.size

/-- With an external heap, a filed block is tagged as its size requires. -/
lemma Filed.tagged {failureAt : ℕ} {domain : AllocationDomain} {size : SizeT w}
    {block : HeapBlock w} (h : Filed ⟨true, failureAt⟩ domain size block) :
    Tagged domain block := by
  have hpool := h.pool
  have hheap := h.heap
  simp only [wantsExternal, Bool.true_and] at hpool hheap
  by_cases hsize : domain.externalThreshold w ≤ size
  · rw [decide_eq_true hsize] at hpool hheap
    rw [← h.recorded] at hsize
    refine ⟨.inr hpool, iff_of_true hheap hpool, iff_of_true hpool hsize⟩
  · rw [decide_eq_false hsize] at hpool hheap
    rw [← h.recorded] at hsize
    have hnot : block.header.pool ≠ allocationPoolExternal := by
      rw [hpool]
      decide
    refine ⟨.inl hpool, iff_of_false ?_ hnot, iff_of_false hnot hsize⟩
    rw [hheap]
    decide

/-- A heap is asked to free or resize only a block of its own. -/
def AllocatorAction.OwnHeap (m : AllocatorMemory w) : AllocatorAction w → Prop
  | heapFree heap header => ∃ block, m.blocks header = some block ∧ block.heap = heap
  | heapRealloc heap header _ => ∃ block, m.blocks header = some block ∧ block.heap = heap
  | _ => True

lemma ownHeap_of_localSpec {m : AllocatorMemory w} {g : Heaplet ℕ (HeapBlock w)}
    {action : AllocatorAction w} {Q : action.Result → Heaplet ℕ (HeapBlock w) → Prop}
    (hof : Of m.blocks g) (hspec : localSpec action g Q) : action.OwnHeap m := by
  cases action with
  | heapFree heap header =>
      obtain ⟨block, hg, hheap, -⟩ := hspec
      exact ⟨block, hof hg, hheap⟩
  | heapRealloc heap header bytes =>
      obtain ⟨-, block, hg, hheap, -⟩ := hspec
      exact ⟨block, hof hg, hheap⟩
  | nextAttempt | snapshot _ | printk _ | metricsAdd _ _ _ | metricsRemove _ _
  | metricsReplace _ _ _ _ _ | heapAlloc _ _ | readHeader _ | writeHeader _ _
  | copyPayload _ _ _ | zeroPayload _ _ => trivial

/-- The calls of a log that release the block at `header`. -/
def releasesAt (header : ℕ) : Sigma (AllocatorAction.Result (w := w)) → Bool
  | ⟨.heapFree _ header', _⟩ => header' == header
  | ⟨.heapRealloc _ header' _, result⟩ => header' == header && Option.isSome result
  | _ => false

def releases (header : ℕ) (log : List (Sigma (AllocatorAction.Result (w := w)))) : ℕ :=
  log.countP (releasesAt header)

/-- What a reallocation of the block `old` at `header` to `size` bytes may leave. -/
def Reallocates (domain : AllocationDomain) (header : ℕ) (old : HeapBlock w) (size : SizeT w)
    (m : AllocatorMemory w) (result : Option ℕ) (m' : AllocatorMemory w)
    (log : List (Sigma (AllocatorAction.Result (w := w)))) : Prop :=
  match result with
  | some header' =>
      ∃ new, m'.blocks header' = some new ∧ new.header.size = size ∧ Tagged domain new ∧
        (∀ i < min old.header.size.toNat size.toNat, new.payload i = old.payload i) ∧
        (header' ≠ header → m'.blocks header = none) ∧ releases header log = 1
  | none => m'.blocks = m.blocks ∧ m'.metrics = m.metrics ∧ releases header log = 0

/-! ## One reallocation

The runs are logged, so that the calls of `free` and `realloc` on the old block can be counted.  A
reallocation has a silent part, in which failures are injected and reported, and the heap call with
the move behind it, which is where the block changes.
-/

section Reallocation

variable {config : AllocatorConfig} {domain : AllocationDomain}
variable {s s' : AllocatorMemory w × List (Sigma (AllocatorAction.Result (w := w)))}

/-- Nothing happened to the blocks, the counters or the heaps. -/
structure Silent (s s' : AllocatorMemory w × List (Sigma (AllocatorAction.Result (w := w)))) :
    Prop where
  blocks : s'.1.blocks = s.1.blocks
  metrics : s'.1.metrics = s.1.metrics
  releases : ∀ header, Ros2Zephyr.releases header s'.2 = Ros2Zephyr.releases header s.2

lemma Silent.trans {s'' : AllocatorMemory w × List (Sigma (AllocatorAction.Result (w := w)))}
    (h : Silent s s') (h' : Silent s' s'') : Silent s s'' :=
  ⟨h'.blocks.trans h.blocks, h'.metrics.trans h.metrics,
    fun header => (h'.releases header).trans (h.releases header)⟩

@[simp] lemma releases_concat (header : ℕ)
    (log : List (Sigma (AllocatorAction.Result (w := w))))
    (entry : Sigma (AllocatorAction.Result (w := w))) :
    releases header (log ++ [entry]) =
      releases header log + if releasesAt header entry then 1 else 0 := by
  simp [releases, List.countP_append, List.countP_cons]

/-- Asking for an injected failure counts the attempt and touches no block. -/
lemma silent_inject {injected : Bool}
    (h : Runs (logged AllocatorAction.exec) (injectAllocationFailure config domain) s injected s') :
    Silent s s' := by
  unfold injectAllocationFailure at h
  split at h
  · obtain ⟨_, t, ⟨⟨-, hmemory⟩, hlog⟩, hret⟩ := runs_act_iff.mp h
    obtain ⟨-, rfl⟩ := runs_ret_iff.mp hret
    refine ⟨?_, ?_, ?_⟩
    · rw [hmemory]
    · rw [hmemory]
    · intro header
      rw [hlog]
      simp [releasesAt]
  · obtain ⟨-, rfl⟩ := runs_ret_iff.mp h
    exact ⟨rfl, rfl, fun _ => rfl⟩

lemma silent_report {size : SizeT w} {result : Option ℕ}
    (h : Runs (logged AllocatorAction.exec)
      (do reportAllocationFailure domain size; pure none) s result s') :
    result = none ∧ Silent s s' := by
  obtain ⟨_, t, ⟨⟨-, hmemory⟩, hlog⟩, hprint⟩ := runs_act_iff.mp h
  obtain ⟨_, t', ⟨hmemory', hlog'⟩, hret⟩ := runs_act_iff.mp hprint
  obtain ⟨rfl, rfl⟩ := runs_ret_iff.mp hret
  refine ⟨rfl, ?_, ?_, ?_⟩
  · rw [hmemory', hmemory]
  · rw [hmemory', hmemory]
  · intro header
    rw [hlog', releases_concat, hlog, releases_concat]
    rfl

/-- A refused heap call leaves everything as it is. -/
lemma silent_request {header : ℕ} {oldPool newPool : UInt32} {bytes : SizeT w}
    (h : Runs (logged AllocatorAction.exec)
      (requestReallocation config header oldPool newPool bytes) s none s') : Silent s s' := by
  unfold requestReallocation at h
  split at h
  · obtain ⟨result, t, ⟨hexec, hlog⟩, hret⟩ := runs_act_iff.mp h
    obtain ⟨rfl, rfl⟩ := runs_ret_iff.mp hret
    rcases hexec with ⟨-, hmemory⟩ | ⟨_, _, _, hsome, -⟩
    · refine ⟨by rw [hmemory], by rw [hmemory], fun header => ?_⟩
      rw [hlog]
      simp [releasesAt]
    · cases hsome
  · obtain ⟨result, t, ⟨hexec, hlog⟩, hret⟩ := runs_act_iff.mp h
    obtain ⟨rfl, rfl⟩ := runs_ret_iff.mp hret
    rcases hexec with ⟨-, hmemory⟩ | ⟨_, _, hsome, -⟩
    · refine ⟨by rw [hmemory], by rw [hmemory], fun header => ?_⟩
      rw [hlog]
      simp [releasesAt]
    · cases hsome

/-- What the heap call and the move make of the old block, before the header is written. -/
structure Moved (header header' : ℕ) (old : HeapBlock w) (size : SizeT w) (heap : HeapPool)
    (s s' : AllocatorMemory w × List (Sigma (AllocatorAction.Result (w := w))))
    (new : HeapBlock w) : Prop where
  block : s'.1.blocks header' = some new
  heap : new.heap = heap
  bytes : (withHeader size).toNat ≤ new.bytes
  payload : ∀ i < min old.header.size.toNat size.toNat, new.payload i = old.payload i
  gone : header' ≠ header → s'.1.blocks header = none
  once : releases header s'.2 = releases header s.2 + 1

/-- Within one pool: `realloc` keeps what fits, and a filed block has room for its own size. -/
lemma moved_within {header header' : ℕ} {old : HeapBlock w} {oldSize size : SizeT w}
    {newPool : UInt32} (hfiled : Filed config domain oldSize old)
    (hfits : sizeofAllocationHeader w + size.toNat < 2 ^ w)
    (hold : s.1.blocks header = some old) (hpool : old.header.pool = newPool)
    (h : Runs (logged AllocatorAction.exec)
      (requestReallocation config header old.header.pool newPool (withHeader size)) s
      (some header') s') :
    ∃ new, Moved header header' old size (freeHeap config newPool) s s' new := by
  unfold requestReallocation at h
  rw [if_pos hpool] at h
  obtain ⟨result, t, ⟨hexec, hlog⟩, hret⟩ := runs_act_iff.mp h
  obtain ⟨rfl, rfl⟩ := runs_ret_iff.mp hret
  rcases hexec with ⟨hnone, -⟩ | ⟨_, old', new, hsome, hold', -, hheap, hbytes, hkept, hmemory⟩
  · cases hnone
  · cases hsome
    rw [hold, Option.some.injEq] at hold'
    subst hold'
    refine ⟨new, ?_, hheap, hbytes, ?_, ?_, ?_⟩
    · rw [hmemory, AllocatorMemory.setBlock_self]
    · intro i hi
      have hroom := hfiled.room
      have hnew := (le_withHeader_iff size).mpr hfits
      rw [← hfiled.recorded] at hroom
      refine hkept.2 i ?_
      omega
    · intro hne
      rw [hmemory, AllocatorMemory.setBlock_of_ne _ _ (Ne.symm hne), AllocatorMemory.setBlock_self]
    · rw [hlog]
      simp [releasesAt]

/-- Across pools: a second block, the copy, and one `free`. -/
lemma moved_across {header header' : ℕ} {old : HeapBlock w} {size : SizeT w} {newPool : UInt32}
    {t : AllocatorMemory w × List (Sigma (AllocatorAction.Result (w := w)))}
    (hold : s.1.blocks header = some old) (hpool : old.header.pool ≠ newPool)
    (hrequest : Runs (logged AllocatorAction.exec)
      (requestReallocation config header old.header.pool newPool (withHeader size)) s
      (some header') t)
    (hmove : Runs (logged AllocatorAction.exec)
      (moveAcrossPools config header header' old.header newPool size) t () s') :
    ∃ new, Moved header header' old size (freeHeap config newPool) s s' new := by
  unfold requestReallocation at hrequest
  rw [if_neg hpool] at hrequest
  obtain ⟨result, t₁, ⟨halloc, hlog₁⟩, hret⟩ := runs_act_iff.mp hrequest
  obtain ⟨rfl, rfl⟩ := runs_ret_iff.mp hret
  rcases halloc with ⟨hnone, -⟩ | ⟨_, fresh, hsome, hfree, hheap, hbytes, hmemory₁⟩
  · cases hnone
  · cases hsome
    have hne : header' ≠ header := by
      rintro rfl
      rw [hfree] at hold
      cases hold
    unfold moveAcrossPools at hmove
    rw [if_neg hpool] at hmove
    obtain ⟨_, t₂, ⟨⟨target, source, htarget, hsource, hmemory₂⟩, hlog₂⟩, hrest⟩ :=
      runs_act_iff.mp hmove
    obtain ⟨_, t₃, ⟨⟨_, -, hmemory₃⟩, hlog₃⟩, hret⟩ := runs_act_iff.mp hrest
    obtain ⟨-, rfl⟩ := runs_ret_iff.mp hret
    -- the copy reads the old block and writes the fresh one
    rw [hmemory₁, AllocatorMemory.setBlock_self, Option.some.injEq] at htarget
    rw [hmemory₁, AllocatorMemory.setBlock_of_ne _ _ (Ne.symm hne), hold,
      Option.some.injEq] at hsource
    subst htarget hsource
    let copied := if old.header.size < size then old.header.size else size
    refine ⟨{ fresh with
        payload := fun i => if i < copied.toNat then old.payload i else fresh.payload i },
      ?_, hheap, hbytes, ?_, ?_, ?_⟩
    · rw [hmemory₃, AllocatorMemory.setBlock_of_ne _ _ hne, hmemory₂,
        AllocatorMemory.setBlock_self]
    · intro i hi
      refine if_pos ?_
      show i < BitVec.toNat (if old.header.size < size then old.header.size else size)
      split <;> omega
    · intro _
      rw [hmemory₃, AllocatorMemory.setBlock_self]
    · rw [hlog₃, releases_concat, hlog₂, releases_concat, hlog₁, releases_concat]
      simp [releasesAt]

/-- A successful reallocation of a filed block. -/
lemma runs_reallocate_some {header header' : ℕ} {old : HeapBlock w} {oldSize size : SizeT w}
    (hfiled : Filed config domain oldSize old)
    (hfits : sizeofAllocationHeader w + size.toNat < 2 ^ w) (hold : s.1.blocks header = some old)
    (h : Runs (logged AllocatorAction.exec)
      (ros2ZephyrReallocate config (some header) size domain) s (some header') s') :
    ∃ new, s'.1.blocks header' = some new ∧ Filed config domain size new ∧
      (∀ i < min old.header.size.toNat size.toNat, new.payload i = old.payload i) ∧
      (header' ≠ header → s'.1.blocks header = none) ∧
      releases header s'.2 = releases header s.2 + 1 := by
  obtain ⟨injected, t, hinject, hrest⟩ := runs_bind_iff.mp h
  have hsilent := silent_inject hinject
  cases injected with
  | true =>
      obtain ⟨hnone, -⟩ := silent_report hrest
      cases hnone
  | false =>
      obtain ⟨value, t₁, ⟨⟨block, hblock, rfl, hmemory₁⟩, hlog₁⟩, hrest₁⟩ := runs_act_iff.mp hrest
      rw [hsilent.blocks, hold, Option.some.injEq] at hblock
      subst hblock
      have hold₁ : t₁.1.blocks header = some old := by rw [hmemory₁, hsilent.blocks, hold]
      have honce₁ : releases header t₁.2 = releases header s.2 := by
        rw [hlog₁, releases_concat, hsilent.releases]
        rfl
      obtain ⟨result, t₂, hrequest, hrest₂⟩ :=
        (runs_bind_iff (p := requestReallocation config header old.header.pool _ _)).mp hrest₁
      cases result with
      | none =>
          obtain ⟨hnone, -⟩ := silent_report hrest₂
          cases hnone
      | some newHeader =>
          obtain ⟨_, t₃, hmove, hrest₃⟩ := runs_bind_iff.mp hrest₂
          obtain ⟨new, hmoved⟩ : ∃ new, Moved header newHeader old size
              (freeHeap config (poolTag (wantsExternal config domain size))) t₁ t₃ new := by
            by_cases hpool : old.header.pool = poolTag (wantsExternal config domain size)
            · unfold moveAcrossPools at hmove
              rw [if_pos hpool] at hmove
              obtain ⟨-, rfl⟩ := runs_ret_iff.mp hmove
              exact moved_within hfiled hfits hold₁ hpool hrequest
            · exact moved_across hold₁ hpool hrequest hmove
          obtain ⟨_, t₄, ⟨hmemory₄, hlog₄⟩, hrest₄⟩ := runs_act_iff.mp hrest₃
          obtain ⟨_, t₅, ⟨⟨block, hblock, hmemory₅⟩, hlog₅⟩, hret⟩ := runs_act_iff.mp hrest₄
          obtain ⟨hheader, rfl⟩ := runs_ret_iff.mp hret
          cases hheader
          rw [hmemory₄, AllocatorMemory.setMetrics_blocks, hmoved.block,
            Option.some.injEq] at hblock
          subst hblock
          have hheap := hmoved.heap
          rw [freeHeap_poolTag] at hheap
          refine ⟨_, ?_, Filed.written hfits hheap hmoved.bytes, hmoved.payload, ?_, ?_⟩
          · rw [hmemory₅, AllocatorMemory.setBlock_self]
          · intro hne
            rw [hmemory₅, AllocatorMemory.setBlock_of_ne _ _ (Ne.symm hne), hmemory₄,
              AllocatorMemory.setMetrics_blocks]
            exact hmoved.gone hne
          · rw [hlog₅, releases_concat, hlog₄, releases_concat, hmoved.once, honce₁]
            rfl

/-- A reallocation that returns `NULL`, for whatever reason, has done nothing. -/
lemma runs_reallocate_none {header : ℕ} {size : SizeT w}
    (h : Runs (logged AllocatorAction.exec)
      (ros2ZephyrReallocate config (some header) size domain) s none s') : Silent s s' := by
  obtain ⟨injected, t, hinject, hrest⟩ := runs_bind_iff.mp h
  have hsilent := silent_inject hinject
  cases injected with
  | true => exact hsilent.trans (silent_report hrest).2
  | false =>
      obtain ⟨value, t₁, ⟨⟨block, -, rfl, hmemory₁⟩, hlog₁⟩, hrest₁⟩ := runs_act_iff.mp hrest
      have hread : Silent t t₁ := by
        refine ⟨by rw [hmemory₁], by rw [hmemory₁], fun header => ?_⟩
        rw [hlog₁]
        simp [releasesAt]
      obtain ⟨result, t₂, hrequest, hrest₂⟩ :=
        (runs_bind_iff (p := requestReallocation config header block.header.pool _ _)).mp hrest₁
      cases result with
      | none =>
          exact (hsilent.trans hread).trans
            ((silent_request hrequest).trans (silent_report hrest₂).2)
      | some newHeader =>
          obtain ⟨_, t₃, -, hrest₃⟩ := runs_bind_iff.mp hrest₂
          obtain ⟨_, t₄, -, hrest₄⟩ := runs_act_iff.mp hrest₃
          obtain ⟨_, t₅, -, hret⟩ := runs_act_iff.mp hrest₄
          obtain ⟨hnone, -⟩ := runs_ret_iff.mp hret
          cases hnone

end Reallocation

/-! ## Every reachable state

Every call in progress has a part of the memory to itself and meets the specification of `Local` in
it; what the callers hold is in no part, which is why they may write into it at any time.
-/

section System

variable {T : Type} [DecidableEq T]

/-- A step of the allocator, or a caller writing into a block in its hands. -/
inductive UsedEvent (T : Type) (w : ℕ)
  | allocator (event : AllocatorEvent T w)
  | write (header : ℕ) (payload : ℕ → UInt8)

inductive AllocatorSystem.UsedStep (config : AllocatorConfig) :
    AllocatorSystem T w → UsedEvent T w → AllocatorSystem T w → Prop
  | allocator {s s' : AllocatorSystem T w} {event : AllocatorEvent T w} :
      AllocatorSystem.Step config s event s' → UsedStep config s (.allocator event) s'
  | write {s : AllocatorSystem T w} {b : LiveBlock w} {block : HeapBlock w}
      {payload : ℕ → UInt8} :
      b ∈ s.shared.held → s.shared.memory.blocks b.header = some block →
      UsedStep config s (.write b.header payload)
        { s with
          shared.memory := s.shared.memory.setBlock b.header (some { block with payload }) }

/-- The calls in progress own disjoint parts of the memory and meet the specification from here on;
what the callers hold is filed and in nobody's part. -/
structure PoolInv (config : AllocatorConfig) (s : AllocatorSystem T w)
    (ghosts : T → Heaplet ℕ (HeapBlock w)) : Prop where
  parts : Parts s.shared.memory.blocks ghosts
  filed : ∀ b ∈ s.shared.held, ∃ block, s.shared.memory.blocks b.header = some block ∧
    Filed config b.domain b.size block
  heldApart : ∀ b ∈ s.shared.held, ∀ t, ghosts t b.header = none
  heldOnce : ∀ b ∈ s.shared.held, ∀ b' ∈ s.shared.held, b.header = b'.header → b = b'
  idle : ∀ t, s.thread t = none → ghosts t = empty
  busy : ∀ {t call rest}, s.thread t = some (call, rest) →
    Prog.wp localSpec rest (fun result => Carries config call.domain (call.outcome result))
      (ghosts t)

variable {config : AllocatorConfig} {s : AllocatorSystem T w}
variable {ghosts : T → Heaplet ℕ (HeapBlock w)} {t : T}

omit [DecidableEq T] in
lemma poolInv_boot : PoolInv config (AllocatorSystem.boot T w) fun _ => empty where
  parts := ⟨fun _ _ _ h => absurd h (Option.some_ne_none _).symm, fun _ h => absurd rfl h⟩
  filed _ hb := absurd hb (Finset.notMem_empty _)
  heldApart _ hb := absurd hb (Finset.notMem_empty _)
  heldOnce _ hb := absurd hb (Finset.notMem_empty _)
  idle _ _ := rfl
  busy h := by cases h

/-- The thread's entry and part change; what the other threads have to do is unchanged. -/
lemma PoolInv.update (h : PoolInv config s ghosts) {shared : AllocatorShared w}
    {g : Heaplet ℕ (HeapBlock w)}
    {entry : Option (AllocatorCall w × AllocatorProg w (Option ℕ))}
    (hparts : Parts shared.memory.blocks (Function.update ghosts t g))
    (hfiled : ∀ b ∈ shared.held, ∃ block, shared.memory.blocks b.header = some block ∧
      Filed config b.domain b.size block)
    (hapart : ∀ b ∈ shared.held, ∀ t', Function.update ghosts t g t' b.header = none)
    (honce : ∀ b ∈ shared.held, ∀ b' ∈ shared.held, b.header = b'.header → b = b')
    (hidle : entry = none → g = empty)
    (hbusy : ∀ {call rest}, entry = some (call, rest) →
      Prog.wp localSpec rest (fun result => Carries config call.domain (call.outcome result)) g) :
    PoolInv config ⟨shared, Function.update s.thread t entry⟩ (Function.update ghosts t g) := by
  refine ⟨hparts, hfiled, hapart, honce,
    forall_threads_update (P := fun entry g => entry = none → g = empty) h.idle hidle, ?_⟩
  intro t' call rest
  exact forall_threads_update
    (P := fun entry g => entry = some (call, rest) → Prog.wp localSpec rest
      (fun result => Carries config call.domain (call.outcome result)) g)
    (fun _ => h.busy) hbusy t'

/-- A caller enters a call: the block it passes becomes the call's part. -/
lemma PoolInv.invoke {call : AllocatorCall w} {shared : AllocatorShared w}
    (h : PoolInv config s ghosts) (hthread : s.thread t = none) (hfits : call.Fits)
    (hpass : s.shared.Passes call.domain call.pointer shared) :
    ∃ ghosts', PoolInv config
      ⟨shared, Function.update s.thread t (some (call, call.code config))⟩ ghosts' := by
  have hidle := h.idle t hthread
  have hcode : ∀ {g}, Carries config call.domain call.pointer g → ∀ {call' rest},
      some (call, call.code config) = some (call', rest) →
      Prog.wp localSpec rest (fun result => Carries config call'.domain (call'.outcome result))
        g := by
    intro g hcarries call' rest hentry
    cases hentry
    exact code_local config call hfits hcarries
  cases hpointer : call.pointer with
  | none =>
      rw [hpointer] at hpass hcode
      obtain rfl := hpass
      have hsame : Function.update ghosts t empty = ghosts := by
        rw [← hidle, Function.update_eq_self]
      refine ⟨_, h.update (g := empty) (by rw [hsame]; exact h.parts) h.filed ?_ h.heldOnce
        (fun hnone => by cases hnone) (hcode rfl)⟩
      rw [hsame]
      exact h.heldApart
  | some header =>
      rw [hpointer] at hpass hcode
      obtain ⟨size, hmem, rfl⟩ := hpass
      obtain ⟨block, hblock, hfiled⟩ := h.filed _ hmem
      have hnobody := h.heldApart _ hmem
      refine ⟨_, h.update (g := single header block) ?_ ?_ ?_ ?_ (fun hnone => by cases hnone)
        (hcode ⟨size, block, rfl, hfiled⟩)⟩
      · refine h.parts.replace ?_ ?_
        · intro a b hab
          obtain rfl := eq_of_single_ne_none (show single header block a ≠ none by simp [hab])
          rw [single_self] at hab
          rw [← hab]
          exact hblock
        · intro a ha
          obtain rfl := eq_of_single_ne_none ha
          exact .inr hnobody
      · exact fun b hb => h.filed b (Finset.mem_of_mem_erase hb)
      · intro b hb
        refine (Function.forall_update_iff ghosts fun _ g => g b.header = none).mpr
          ⟨single_of_ne block fun heq => ?_,
            fun t' _ => h.heldApart b (Finset.mem_of_mem_erase hb) t'⟩
        exact Finset.ne_of_mem_erase hb (h.heldOnce b (Finset.mem_of_mem_erase hb) _ hmem heq)
      · exact fun b hb b' hb' =>
          h.heldOnce b (Finset.mem_of_mem_erase hb) b' (Finset.mem_of_mem_erase hb')

/-- A call returns: the block in its part goes to its caller. -/
lemma PoolInv.finish {call : AllocatorCall w} {result : Option ℕ} (h : PoolInv config s ghosts)
    (hthread : s.thread t = some (call, .ret result)) :
    PoolInv config
      ⟨s.shared.receive call.domain (call.outcome result), Function.update s.thread t none⟩
      (Function.update ghosts t empty) := by
  have hcarries : Carries config call.domain (call.outcome result) (ghosts t) := h.busy hthread
  have hparts : Parts s.shared.memory.blocks (Function.update ghosts t empty) :=
    h.parts.replace (fun _ _ hnone => by cases hnone) fun _ hsome => absurd rfl hsome
  have hapart : ∀ a, (∀ t' ≠ t, ghosts t' a = none) →
      ∀ t', Function.update ghosts t empty t' a = none := by
    intro a hothers
    exact (Function.forall_update_iff ghosts fun _ g => g a = none).mpr ⟨rfl, hothers⟩
  cases houtcome : call.outcome result with
  | none =>
      exact h.update hparts h.filed (fun b hb => hapart _ fun t' _ => h.heldApart b hb t')
        h.heldOnce (fun _ => rfl) (fun hentry => by cases hentry)
  | some header =>
      rw [houtcome] at hcarries
      obtain ⟨size, block, hghost, hfiled⟩ := hcarries
      have hblock : s.shared.memory.blocks header = some block :=
        h.parts.of t (by rw [hghost, single_self])
      -- the block was in the call's part, so it is none of those the callers had
      have hnot : ∀ b ∈ s.shared.held, b.header ≠ header := by
        intro b hb heq
        have hnone := h.heldApart b hb t
        rw [heq, hghost, single_self] at hnone
        cases hnone
      refine h.update hparts ?_ ?_ ?_ (fun _ => rfl) (fun hentry => by cases hentry)
      · intro b hb
        rcases Finset.mem_insert.mp hb with rfl | hb
        · refine ⟨block, hblock, ?_⟩
          simp only [AllocatorMemory.recordedSize, hblock, hfiled.recorded]
          exact hfiled
        · exact h.filed b hb
      · intro b hb
        rcases Finset.mem_insert.mp hb with rfl | hb
        · refine hapart _ fun t' ht' => h.parts.apart (Ne.symm ht') ?_
          rw [hghost, single_self]
          simp
        · exact hapart _ fun t' _ => h.heldApart b hb t'
      · intro b hb b' hb' heq
        rcases Finset.mem_insert.mp hb with rfl | hb
        · rcases Finset.mem_insert.mp hb' with rfl | hb'
          · rfl
          · exact absurd heq.symm (hnot b' hb')
        · rcases Finset.mem_insert.mp hb' with rfl | hb'
          · exact absurd heq (hnot b hb)
          · exact h.heldOnce b hb b' hb' heq

/-- A call performs its next action, which the other parts and the callers' blocks survive. -/
lemma PoolInv.act {call : AllocatorCall w} {action : AllocatorAction w}
    {next : action.Result → AllocatorProg w (Option ℕ)} {r : action.Result}
    {shared : AllocatorShared w} (h : PoolInv config s ghosts)
    (hthread : s.thread t = some (call, .act action next))
    (hexec : s.shared.exec action r shared) :
    ∃ ghosts', PoolInv config
      ⟨shared, Function.update s.thread t (some (call, next r))⟩ ghosts' := by
  obtain ⟨m', hexec, rfl⟩ := hexec
  obtain ⟨g, hwp, hchange⟩ := localSpec_change (h.parts.of t) (h.busy hthread) hexec
  have hkept : ∀ b ∈ s.shared.held, g b.header = none ∧
      m'.blocks b.header = s.shared.memory.blocks b.header := by
    intro b hb
    obtain ⟨block, hblock, -⟩ := h.filed b hb
    exact hchange.keeps (h.heldApart b hb t) (by simp [hblock])
  refine ⟨_, h.update (h.parts.change hchange) ?_ ?_ h.heldOnce (fun hnone => by cases hnone) ?_⟩
  · intro b hb
    obtain ⟨block, hblock, hfiled⟩ := h.filed b hb
    exact ⟨block, (hkept b hb).2.trans hblock, hfiled⟩
  · intro b hb
    exact (Function.forall_update_iff ghosts fun _ g => g b.header = none).mpr
      ⟨(hkept b hb).1, fun t' _ => h.heldApart b hb t'⟩
  · intro call' rest hentry
    cases hentry
    exact hwp

omit [DecidableEq T] in
/-- A caller's write changes the payload of a block that is in nobody's part. -/
lemma PoolInv.write {b : LiveBlock w} {block : HeapBlock w} (payload : ℕ → UInt8)
    (h : PoolInv config s ghosts) (hb : b ∈ s.shared.held)
    (hblock : s.shared.memory.blocks b.header = some block) :
    PoolInv config
      { s with
        shared.memory := s.shared.memory.setBlock b.header (some { block with payload }) }
      ghosts := by
  refine ⟨h.parts.elsewhere fun t a ha => ?_, fun b' hb' => ?_, h.heldApart, h.heldOnce, h.idle,
    h.busy⟩
  · refine AllocatorMemory.setBlock_of_ne _ _ ?_
    rintro rfl
    exact ha (h.heldApart b hb t)
  · by_cases heq : b'.header = b.header
    · obtain rfl := h.heldOnce b' hb' b hb heq
      obtain ⟨block', hblock', hfiled⟩ := h.filed b' hb'
      rw [hblock, Option.some.injEq] at hblock'
      subst hblock'
      exact ⟨_, AllocatorMemory.setBlock_self _ _ _, hfiled.recorded, hfiled.pool, hfiled.heap,
        hfiled.room⟩
    · obtain ⟨block', hblock', hfiled⟩ := h.filed b' hb'
      exact ⟨block', (AllocatorMemory.setBlock_of_ne _ _ heq).trans hblock', hfiled⟩

lemma poolInv_step {s' : AllocatorSystem T w} {event : UsedEvent T w}
    (h : ∃ ghosts, PoolInv config s ghosts)
    (hstep : AllocatorSystem.UsedStep config s event s') : ∃ ghosts, PoolInv config s' ghosts := by
  obtain ⟨ghosts, h⟩ := h
  cases hstep with
  | allocator hstep =>
      cases hstep with
      | invoke hthread hfits hpass => exact h.invoke hthread hfits hpass
      | act hthread hexec => exact h.act hthread hexec
      | finish hthread => exact ⟨_, h.finish hthread⟩
  | write hb hblock => exact ⟨_, h.write _ hb hblock⟩

/-- **Two-pool reallocation.**  With an external heap, in every state that any number of threads
reach by allocator calls and by writing into their blocks:

* every block in a caller's hands is tagged with its heap, and tagged external exactly from its
  domain's threshold on;
* a call in progress frees and resizes blocks only in their own heap;
* a reallocation of such a block keeps the contents, records the new size and releases the old block
  once, or returns `NULL` and leaves the blocks and the counters as they were. -/
theorem two_pool_reallocation (failureAt : ℕ) {events : List (UsedEvent T w)}
    {s : AllocatorSystem T w}
    (hrun : Run (AllocatorSystem.UsedStep ⟨true, failureAt⟩) (AllocatorSystem.boot T w) events s) :
    (∀ b ∈ s.shared.held, ∃ block, s.shared.memory.blocks b.header = some block ∧
      block.header.size = b.size ∧ Tagged b.domain block) ∧
    (∀ t call action next, s.thread t = some (call, .act action next) →
      action.OwnHeap s.shared.memory) ∧
    ∀ b ∈ s.shared.held, ∀ old, s.shared.memory.blocks b.header = some old →
      ∀ size : SizeT w, sizeofAllocationHeader w + size.toNat < 2 ^ w →
      ∀ result m' log, Runs (logged AllocatorAction.exec)
          (ros2ZephyrReallocate ⟨true, failureAt⟩ (some b.header) size b.domain)
          (s.shared.memory, []) result (m', log) →
        Reallocates b.domain b.header old size s.shared.memory result m' log := by
  obtain ⟨ghosts, h⟩ := hrun.invariant ⟨_, poolInv_boot⟩ poolInv_step
  refine ⟨?_, ?_, ?_⟩
  · intro b hb
    obtain ⟨block, hblock, hfiled⟩ := h.filed b hb
    exact ⟨block, hblock, hfiled.recorded, hfiled.tagged⟩
  · intro t call action next hthread
    exact ownHeap_of_localSpec (h.parts.of t) (h.busy hthread)
  · intro b hb old hold size hfits result m' log hcall
    obtain ⟨block, hblock, hfiled⟩ := h.filed b hb
    rw [hold, Option.some.injEq] at hblock
    subst hblock
    cases result with
    | some header' =>
        obtain ⟨new, hnew, hfiled', hpayload, hgone, honce⟩ :=
          runs_reallocate_some hfiled hfits hold hcall
        exact ⟨new, hnew, hfiled'.recorded, hfiled'.tagged, hpayload, hgone, honce⟩
    | none =>
        have hsilent := runs_reallocate_none hcall
        exact ⟨hsilent.blocks, hsilent.metrics, hsilent.releases b.header⟩

/-- The thread `t` allocates 5000 bytes for ROS, which is above the threshold, and 100 for the
middleware, which is not. -/
def bothPoolsSchedule (t : T) : List (AllocatorEvent T 32 × HeapChoice) :=
  [(.invoke t (.allocate 5000 .ros), none), (.act t, some (0x1000, 5008)), (.act t, none),
    (.act t, none), (.finish t, none),
   (.invoke t (.allocate 100 .middleware), none), (.act t, some (0x8000, 108)), (.act t, none),
    (.act t, none), (.finish t, none)]

lemma exists_run_bothPools :
    ∃ s, Run (AllocatorSystem.UsedStep ⟨true, 0⟩) (AllocatorSystem.boot (Fin 1) 32)
        (((bothPoolsSchedule 0).map Prod.fst).map .allocator) s ∧
      s.shared.held = {⟨0x1000, .ros, 5000⟩, ⟨0x8000, .middleware, 100⟩} ∧
      s.shared.memory.blocks 0x4000 = none := by
  have hrun : ((runLabels (AllocatorSystem.scheduled ⟨true, 0⟩)
      (AllocatorSystem.boot (Fin 1) 32) (bothPoolsSchedule 0)).map fun s =>
        (s.shared.held, (s.shared.memory.blocks 0x4000).isNone)) =
      some ({⟨0x1000, .ros, 5000⟩, ⟨0x8000, .middleware, 100⟩}, true) := by decide
  obtain ⟨s, hs, hend⟩ := Option.map_eq_some_iff.mp hrun
  rw [Prod.mk.injEq] at hend
  exact ⟨s, (AllocatorSystem.run_of_schedule hs).map .allocator, hend.1,
    Option.isNone_iff_eq_none.mp hend.2⟩

/-- A block of the middleware that is below the threshold can be moved to a free address above
it. -/
lemma exists_runs_across {m : AllocatorMemory 32} {old : HeapBlock 32}
    (hold : m.blocks 0x8000 = some old) (hinternal : old.header.pool = allocationPoolInternal)
    (hfree : m.blocks 0x4000 = none) :
    ∃ m', Runs AllocatorAction.exec
      (ros2ZephyrReallocate ⟨true, 0⟩ (some 0x8000) 40000 .middleware) m (some 0x4000) m' := by
  let newPool := poolTag (wantsExternal ⟨true, 0⟩ .middleware (40000 : SizeT 32))
  let copied : SizeT 32 := if old.header.size < 40000 then old.header.size else 40000
  let new : HeapBlock 32 := ⟨.external, 40008, ⟨0, 0⟩, fun _ => 0⟩
  let filled : HeapBlock 32 := { new with
    payload := fun i => if i < copied.toNat then old.payload i else new.payload i }
  let granted := m.setBlock 0x4000 (some new)
  let moved := (granted.setBlock 0x4000 (some filled)).setBlock 0x8000 none
  let counted := moved.setMetrics .middleware
    ((moved.metrics .middleware).replace old.header.size 40000)
  have hacross : old.header.pool ≠ newPool := by
    rw [hinternal]
    decide
  have hrequest : Runs AllocatorAction.exec
      (requestReallocation ⟨true, 0⟩ 0x8000 old.header.pool newPool (withHeader 40000)) m
      (some 0x4000) granted := by
    rw [requestReallocation, if_neg hacross]
    exact Runs.act (r := some 0x4000)
      (.inr ⟨0x4000, new, rfl, hfree, rfl, by decide, rfl⟩) Runs.ret
  have hgranted : granted.blocks 0x8000 = some old :=
    (AllocatorMemory.setBlock_of_ne m (some new) (by decide)).trans hold
  have hmove : Runs AllocatorAction.exec
      (moveAcrossPools ⟨true, 0⟩ 0x8000 0x4000 old.header newPool 40000) granted () moved := by
    rw [moveAcrossPools, if_neg hacross]
    refine Runs.perform (r := ())
      ⟨new, old, AllocatorMemory.setBlock_self _ _ _, hgranted, rfl⟩ ?_
    exact Runs.act (r := ()) ⟨old, (AllocatorMemory.setBlock_of_ne _ _ (by decide)).trans hgranted,
      rfl⟩ Runs.ret
  have hread : AllocatorAction.exec (.readHeader 0x8000) m old.header m := ⟨old, hold, rfl, rfl⟩
  refine ⟨counted.setBlock 0x4000 (some { filled with header := ⟨40000, newPool⟩ }),
    runs_bind_iff.mpr ⟨false, m, Runs.ret, ?_⟩⟩
  refine Runs.perform hread ?_
  refine runs_bind_iff.mpr ⟨some 0x4000, granted, hrequest, ?_⟩
  refine runs_bind_iff.mpr ⟨(), moved, hmove, ?_⟩
  refine Runs.perform (r := ()) (t := counted) rfl ?_
  have hfilled : moved.blocks 0x4000 = some filled :=
    (AllocatorMemory.setBlock_of_ne _ none (by decide)).trans
      (AllocatorMemory.setBlock_self granted 0x4000 (some filled))
  exact Runs.perform (r := ()) ⟨filled, hfilled, rfl⟩ Runs.ret

/-- Two blocks in two pools, and a reallocation across the threshold. -/
theorem two_pool_reallocation_both :
    ∃ events s,
      Run (AllocatorSystem.UsedStep ⟨true, 0⟩) (AllocatorSystem.boot (Fin 1) 32) events s ∧
      s.shared.held = {⟨0x1000, .ros, 5000⟩, ⟨0x8000, .middleware, 100⟩} ∧
      (∀ b ∈ s.shared.held, ∃ block, s.shared.memory.blocks b.header = some block ∧
        Tagged b.domain block) ∧
      ∃ old m' log, s.shared.memory.blocks 0x8000 = some old ∧
        Runs (logged AllocatorAction.exec)
          (ros2ZephyrReallocate ⟨true, 0⟩ (some 0x8000) 40000 .middleware)
          (s.shared.memory, []) (some 0x4000) (m', log) ∧
        Reallocates .middleware 0x8000 old 40000 s.shared.memory (some 0x4000) m' log := by
  obtain ⟨s, hreach, hheld, hfree⟩ := exists_run_bothPools
  obtain ⟨hfiled, -, hreallocates⟩ := two_pool_reallocation 0 hreach
  have hmem : (⟨0x8000, .middleware, 100⟩ : LiveBlock 32) ∈ s.shared.held := by
    rw [hheld]
    decide
  obtain ⟨old, hold, hsize, htagged⟩ := hfiled _ hmem
  have hinternal : old.header.pool = allocationPoolInternal := by
    refine htagged.known.resolve_right fun hexternal => ?_
    have hthreshold := htagged.threshold.mp hexternal
    rw [hsize] at hthreshold
    revert hthreshold
    decide
  obtain ⟨m', hruns⟩ := exists_runs_across hold hinternal hfree
  obtain ⟨log, hlogged⟩ := hruns.exists_logged []
  refine ⟨_, s, hreach, hheld, fun b hb => ?_, old, m', log, hold, hlogged,
    hreallocates _ hmem old hold 40000 (by decide) _ _ _ hlogged⟩
  obtain ⟨block, hblock, -, htagged⟩ := hfiled b hb
  exact ⟨block, hblock, htagged⟩

end System

end Ros2Zephyr
