import Mathlib.Data.BitVec
import Ros2Zephyr.Core.Program

/-!
# The two-domain allocator

`platform/allocator.c` puts a header in front of every block and keeps four counters for each of
two domains, the ROS one and the middleware's.  The counters are protected by one spinlock, the
external heap by one mutex, and the blocks themselves by nothing: a block belongs to the caller.

The four entry points are programs over the atomic actions of `AllocatorAction`: one action for
every critical section of the spinlock, one for every call of a heap function and one for every
access to a block.  Another thread may act between any two of them.

* `SizeT w` — `size_t` of `w` bits; its arithmetic wraps.
* `AllocatorAction.exec` — what each action may do.  The heap functions are only assumed to meet
  their contract: they may fail whenever they like, and a block they return has at least the
  requested number of bytes and is not in use.
* A pointer handed to the caller is represented by its header's address, so `header + 1` and
  `(allocation_header_t *)pointer - 1` are the identity, and `NULL` is `none`.
-/

namespace Ros2Zephyr

abbrev SizeT (w : ℕ) := BitVec w

/-- `ros2_zephyr_allocation_domain_t`; it also stands for the state object of the domain, which
the callers pass around as `void *state`. -/
inductive AllocationDomain
  | ros
  | middleware
  deriving DecidableEq, Repr

structure AllocationMetrics (w : ℕ) where
  calls : SizeT w
  frees : SizeT w
  liveBytes : SizeT w
  highWaterBytes : SizeT w
  deriving DecidableEq, Repr

structure AllocationHeader (w : ℕ) where
  size : SizeT w
  pool : UInt32
  deriving DecidableEq, Repr

def allocationPoolInternal : UInt32 := 0
def allocationPoolExternal : UInt32 := 1
def rosExternalAllocationMin : ℕ := 4096
def middlewareExternalAllocationMin : ℕ := 8192

/-- `state->external_threshold`. -/
def AllocationDomain.externalThreshold (w : ℕ) : AllocationDomain → SizeT w
  | .ros => BitVec.ofNat w rosExternalAllocationMin
  | .middleware => BitVec.ofNat w middlewareExternalAllocationMin

def roundUp (n align : ℕ) : ℕ := (n + align - 1) / align * align

/-- `sizeof(allocation_header_t)` for a `size_t` of `w` bits: a `size_t`, then a `uint32_t` aligned
to four bytes, padded to the larger of the two alignments. -/
def sizeofAllocationHeader (w : ℕ) : ℕ :=
  roundUp (roundUp (w / 8) 4 + 4) (max (w / 8) 4)

example : sizeofAllocationHeader 32 = 8 ∧ sizeofAllocationHeader 64 = 16 := by decide

/-- The build options the allocator reads: `CONFIG_ESP_SPIRAM` and
`CONFIG_ROS2_ZEPHYR_TEST_ROS_ALLOCATION_FAILURE_AT`, where 0 stands for an option that is not
set. -/
structure AllocatorConfig where
  espSpiram : Bool
  rosAllocationFailureAt : ℕ

/-- The two underlying heaps: `malloc` and its family, and `shared_multi_heap_alloc` and its
family under `SMH_REG_ATTR_EXTERNAL`. -/
inductive HeapPool
  | internal
  | external
  deriving DecidableEq, Repr

/-- A block of one of the heaps: its capacity in bytes, the header at its start and the payload
behind the header. -/
structure HeapBlock (w : ℕ) where
  heap : HeapPool
  bytes : ℕ
  header : AllocationHeader w
  payload : ℕ → UInt8

structure AllocatorMemory (w : ℕ) where
  metrics : AllocationDomain → AllocationMetrics w
  rosAllocationAttempts : SizeT w
  blocks : ℕ → Option (HeapBlock w)
  console : List String

/-- The static initialisers: all counters zero, nothing allocated. -/
def AllocatorMemory.boot (w : ℕ) : AllocatorMemory w where
  metrics _ := ⟨0, 0, 0, 0⟩
  rosAllocationAttempts := 0
  blocks _ := none
  console := []

/-! ## The critical sections

What the code does under `k_spin_lock`, as functions of the counters, and the memory accesses in
between.  An action is atomic; nothing else is.
-/

namespace AllocationMetrics

variable {w : ℕ}

/-- The tail of `metrics_add` and of the section of `ros2_zephyr_reallocate`. -/
def raiseHighWater (m : AllocationMetrics w) : AllocationMetrics w :=
  if m.highWaterBytes < m.liveBytes then { m with highWaterBytes := m.liveBytes } else m

/-- `metrics_add`. -/
def add (m : AllocationMetrics w) (size : SizeT w) : AllocationMetrics w :=
  { m with calls := m.calls + 1, liveBytes := m.liveBytes + size }.raiseHighWater

/-- The section of `ros2_zephyr_deallocate`. -/
def remove (m : AllocationMetrics w) (size : SizeT w) : AllocationMetrics w :=
  { m with frees := m.frees + 1, liveBytes := m.liveBytes - size }

/-- The section of `ros2_zephyr_reallocate`. -/
def replace (m : AllocationMetrics w) (oldSize size : SizeT w) : AllocationMetrics w :=
  { m with calls := m.calls + 1, liveBytes := m.liveBytes - oldSize + size }.raiseHighWater

end AllocationMetrics

/-- The atomic actions.  The sections that change the counters also name the headers of the blocks
they account for, which are local variables of the code around them. -/
inductive AllocatorAction (w : ℕ)
  | nextAttempt
  | snapshot (domain : AllocationDomain)
  | printk (text : String)
  | metricsAdd (domain : AllocationDomain) (header : ℕ) (size : SizeT w)
  | metricsRemove (domain : AllocationDomain) (header : ℕ)
  | metricsReplace (domain : AllocationDomain) (oldHeader : ℕ) (oldSize : SizeT w)
      (newHeader : ℕ) (size : SizeT w)
  | heapAlloc (heap : HeapPool) (bytes : SizeT w)
  | heapRealloc (heap : HeapPool) (header : ℕ) (bytes : SizeT w)
  | heapFree (heap : HeapPool) (header : ℕ)
  | readHeader (header : ℕ)
  | writeHeader (header : ℕ) (value : AllocationHeader w)
  | copyPayload (target source : ℕ) (bytes : SizeT w)
  | zeroPayload (header : ℕ) (bytes : SizeT w)

/-- What an action answers. -/
abbrev AllocatorAction.Result {w : ℕ} : AllocatorAction w → Type
  | nextAttempt => SizeT w
  | snapshot _ => AllocationMetrics w
  | heapAlloc _ _ => Option ℕ
  | heapRealloc _ _ _ => Option ℕ
  | readHeader _ => AllocationHeader w
  | _ => Unit

namespace AllocatorMemory

variable {w : ℕ}

def setMetrics (m : AllocatorMemory w) (domain : AllocationDomain)
    (value : AllocationMetrics w) : AllocatorMemory w :=
  { m with metrics := Function.update m.metrics domain value }

def setBlock (m : AllocatorMemory w) (header : ℕ) (block : Option (HeapBlock w)) :
    AllocatorMemory w :=
  { m with blocks := Function.update m.blocks header block }

@[simp] lemma setMetrics_blocks (m : AllocatorMemory w) (domain : AllocationDomain)
    (value : AllocationMetrics w) : (m.setMetrics domain value).blocks = m.blocks := rfl

@[simp] lemma setMetrics_self (m : AllocatorMemory w) (domain : AllocationDomain)
    (value : AllocationMetrics w) : (m.setMetrics domain value).metrics domain = value := by
  simp [setMetrics]

lemma setMetrics_of_ne (m : AllocatorMemory w) {domain domain' : AllocationDomain}
    (value : AllocationMetrics w) (h : domain' ≠ domain) :
    (m.setMetrics domain value).metrics domain' = m.metrics domain' := by
  simp [setMetrics, h]

@[simp] lemma setBlock_metrics (m : AllocatorMemory w) (header : ℕ)
    (block : Option (HeapBlock w)) : (m.setBlock header block).metrics = m.metrics := rfl

@[simp] lemma setBlock_self (m : AllocatorMemory w) (header : ℕ) (block : Option (HeapBlock w)) :
    (m.setBlock header block).blocks header = block := by
  simp [setBlock]

lemma setBlock_of_ne (m : AllocatorMemory w) {header a : ℕ} (block : Option (HeapBlock w))
    (h : a ≠ header) : (m.setBlock header block).blocks a = m.blocks a := by
  simp [setBlock, h]

end AllocatorMemory

/-- What `realloc` keeps of a block that it makes `bytes` long: everything up to the shorter of
the two lengths. -/
def HeapBlock.KeptIn {w : ℕ} (old new : HeapBlock w) (bytes : SizeT w) : Prop :=
  (sizeofAllocationHeader w ≤ min old.bytes bytes.toNat → new.header = old.header) ∧
  ∀ i, sizeofAllocationHeader w + i < min old.bytes bytes.toNat → new.payload i = old.payload i

/-- `exec action m r m'`: in memory `m` the action may answer `r` and leave `m'`. -/
def AllocatorAction.exec {w : ℕ} : (action : AllocatorAction w) → AllocatorMemory w →
    action.Result → AllocatorMemory w → Prop
  | nextAttempt, m, attempt, m' =>
      attempt = m.rosAllocationAttempts + 1 ∧
        m' = { m with rosAllocationAttempts := m.rosAllocationAttempts + 1 }
  | snapshot domain, m, metrics, m' => metrics = m.metrics domain ∧ m' = m
  | printk text, m, _, m' => m' = { m with console := m.console ++ [text] }
  | metricsAdd domain _ size, m, _, m' =>
      m' = m.setMetrics domain ((m.metrics domain).add size)
  | metricsRemove domain header, m, _, m' =>
      ∃ block, m.blocks header = some block ∧
        m' = m.setMetrics domain ((m.metrics domain).remove block.header.size)
  | metricsReplace domain _ oldSize _ size, m, _, m' =>
      m' = m.setMetrics domain ((m.metrics domain).replace oldSize size)
  | heapAlloc heap bytes, m, result, m' =>
      result = none ∧ m' = m ∨
      ∃ header block, result = some header ∧ m.blocks header = none ∧ block.heap = heap ∧
        bytes.toNat ≤ block.bytes ∧ m' = m.setBlock header (some block)
  | heapRealloc heap header bytes, m, result, m' =>
      result = none ∧ m' = m ∨
      ∃ header' old block, result = some header' ∧ m.blocks header = some old ∧
        (header' = header ∨ m.blocks header' = none) ∧ block.heap = heap ∧
        bytes.toNat ≤ block.bytes ∧ old.KeptIn block bytes ∧
        m' = (m.setBlock header none).setBlock header' (some block)
  | heapFree _ header, m, _, m' =>
      ∃ block, m.blocks header = some block ∧ m' = m.setBlock header none
  | readHeader header, m, value, m' =>
      ∃ block, m.blocks header = some block ∧ value = block.header ∧ m' = m
  | writeHeader header value, m, _, m' =>
      ∃ block, m.blocks header = some block ∧
        m' = m.setBlock header (some { block with header := value })
  | copyPayload target source bytes, m, _, m' =>
      ∃ new old, m.blocks target = some new ∧ m.blocks source = some old ∧
        m' = m.setBlock target (some { new with
          payload := fun i => if i < bytes.toNat then old.payload i else new.payload i })
  | zeroPayload header bytes, m, _, m' =>
      ∃ block, m.blocks header = some block ∧
        m' = m.setBlock header (some { block with
          payload := fun i => if i < bytes.toNat then 0 else block.payload i })

/-! ## The entry points

The four functions of the allocator, line by line.  A local variable of the C code is bound by the
action that gives it its value.
-/

abbrev AllocatorProg (w : ℕ) := Prog (AllocatorAction w) AllocatorAction.Result

section Code

open Prog AllocatorAction

variable {w : ℕ} (config : AllocatorConfig)

/-- `inject_allocation_failure`. -/
def injectAllocationFailure (domain : AllocationDomain) : AllocatorProg w Bool :=
  if 0 < config.rosAllocationFailureAt ∧ domain = .ros then do
    let attempt : SizeT w ← perform nextAttempt
    pure (attempt.toNat == config.rosAllocationFailureAt)
  else
    pure false

def AllocationDomain.name : AllocationDomain → String
  | .middleware => "middleware"
  | .ros => "ros"

/-- `report_allocation_failure`, without the lines on the heaps' own statistics. -/
def reportAllocationFailure (domain : AllocationDomain) (requested : SizeT w) :
    AllocatorProg w Unit := do
  let metrics : AllocationMetrics w ← perform (snapshot domain)
  perform (printk ("ROS2_ZEPHYR_ALLOC_FAILURE domain=" ++ domain.name
    ++ " requested=" ++ toString requested.toNat
    ++ " live=" ++ toString metrics.liveBytes.toNat
    ++ " high_water=" ++ toString metrics.highWaterBytes.toNat ++ "\n"))

/-- Whether a request of `size` bytes goes to the external heap. -/
def wantsExternal (domain : AllocationDomain) (size : SizeT w) : Bool :=
  config.espSpiram && decide (domain.externalThreshold w ≤ size)

def poolTag (external : Bool) : UInt32 :=
  if external then allocationPoolExternal else allocationPoolInternal

def heapOf (external : Bool) : HeapPool := if external then .external else .internal

/-- `sizeof(*header) + size`, in the arithmetic of `size_t`. -/
def withHeader (size : SizeT w) : SizeT w := BitVec.ofNat w (sizeofAllocationHeader w) + size

/-- `ros2_zephyr_allocate`. -/
def ros2ZephyrAllocate (size : SizeT w) (domain : AllocationDomain) :
    AllocatorProg w (Option ℕ) := do
  if ← injectAllocationFailure config domain then
    reportAllocationFailure domain size
    pure none
  else
    let external := wantsExternal config domain size
    match ← (perform (heapAlloc (heapOf external) (withHeader size)) :
        AllocatorProg w (Option ℕ)) with
    | none =>
        reportAllocationFailure domain size
        pure none
    | some header =>
        perform (writeHeader header ⟨size, poolTag external⟩)
        perform (metricsAdd domain header size)
        pure (some header)

/-- The heap a block with pool tag `pool` is freed to. -/
def freeHeap (pool : UInt32) : HeapPool :=
  heapOf (config.espSpiram && pool == allocationPoolExternal)

/-- `ros2_zephyr_deallocate`. -/
def ros2ZephyrDeallocate (pointer : Option ℕ) (domain : AllocationDomain) :
    AllocatorProg w Unit :=
  match pointer with
  | none => pure ()
  | some header => do
      perform (metricsRemove domain header)
      let value : AllocationHeader w ← perform (readHeader header)
      perform (heapFree (freeHeap config value.pool) header)

/-- The heap call of `ros2_zephyr_reallocate`: within one pool the block is resized, across pools
a second block is requested. -/
def requestReallocation (oldHeader : ℕ) (oldPool newPool : UInt32) (bytes : SizeT w) :
    AllocatorProg w (Option ℕ) :=
  if oldPool = newPool then
    perform (heapRealloc (freeHeap config newPool) oldHeader bytes)
  else
    perform (heapAlloc (freeHeap config newPool) bytes)

/-- Across pools the payload is copied and the old block freed. -/
def moveAcrossPools (oldHeader newHeader : ℕ) (old : AllocationHeader w) (newPool : UInt32)
    (size : SizeT w) : AllocatorProg w Unit :=
  if old.pool = newPool then
    pure ()
  else do
    perform (copyPayload newHeader oldHeader (if old.size < size then old.size else size))
    perform (heapFree (freeHeap config old.pool) oldHeader)

/-- `ros2_zephyr_reallocate`. -/
def ros2ZephyrReallocate (pointer : Option ℕ) (size : SizeT w) (domain : AllocationDomain) :
    AllocatorProg w (Option ℕ) :=
  match pointer with
  | none => ros2ZephyrAllocate config size domain
  | some oldHeader => do
      if ← injectAllocationFailure config domain then
        reportAllocationFailure domain size
        pure none
      else
        let old : AllocationHeader w ← perform (readHeader oldHeader)
        let newPool := poolTag (wantsExternal config domain size)
        match ← requestReallocation config oldHeader old.pool newPool (withHeader size) with
        | none =>
            reportAllocationFailure domain size
            pure none
        | some newHeader =>
            moveAcrossPools config oldHeader newHeader old newPool size
            perform (metricsReplace domain oldHeader old.size newHeader size)
            perform (writeHeader newHeader ⟨size, newPool⟩)
            pure (some newHeader)

/-- `ros2_zephyr_zero_allocate`. -/
def ros2ZephyrZeroAllocate (count size : SizeT w) (domain : AllocationDomain) :
    AllocatorProg w (Option ℕ) :=
  if size ≠ 0 ∧ BitVec.allOnes w / size < count then
    pure none
  else do
    let bytes := count * size
    match ← ros2ZephyrAllocate config bytes domain with
    | none => pure none
    | some header =>
        perform (zeroPayload header bytes)
        pure (some header)

end Code

/-- A call of one of the four entry points. -/
inductive AllocatorCall (w : ℕ)
  | allocate (size : SizeT w) (domain : AllocationDomain)
  | deallocate (pointer : Option ℕ) (domain : AllocationDomain)
  | reallocate (pointer : Option ℕ) (size : SizeT w) (domain : AllocationDomain)
  | zeroAllocate (count size : SizeT w) (domain : AllocationDomain)

namespace AllocatorCall

variable {w : ℕ}

/-- The state object the call is made with. -/
def domain : AllocatorCall w → AllocationDomain
  | allocate _ domain => domain
  | deallocate _ domain => domain
  | reallocate _ _ domain => domain
  | zeroAllocate _ _ domain => domain

/-- The block passed to the call. -/
def pointer : AllocatorCall w → Option ℕ
  | deallocate pointer _ => pointer
  | reallocate pointer _ _ => pointer
  | _ => none

/-- The code of the call; `ros2_zephyr_deallocate` returns nothing, which is `none` here. -/
def code (config : AllocatorConfig) : AllocatorCall w → AllocatorProg w (Option ℕ)
  | allocate size domain => ros2ZephyrAllocate config size domain
  | deallocate pointer domain => do
      ros2ZephyrDeallocate config pointer domain
      pure none
  | reallocate pointer size domain => ros2ZephyrReallocate config pointer size domain
  | zeroAllocate count size domain => ros2ZephyrZeroAllocate config count size domain

end AllocatorCall

end Ros2Zephyr
