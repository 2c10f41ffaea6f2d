import Ros2Zephyr.Allocator.BlockSize
import Ros2Zephyr.Core.Heaplet

/-!
# A call and the blocks in its hands

What a call does can be said of the blocks it works on alone, with all they contain.  `localSpec`
specifies every action by its effect on the part of the memory that the call owns; the heaps are
only asked to free or resize a block that they handed out.  `Filed` is what a finished block looks
like: the header records the request, the tag names the heap, and the block has room.

* `localSpec_change` — an action that meets its specification changes the memory locally.
* `code_local` — every call, entered with a filed block or none, meets the specification action by
  action and ends with a filed block or none.
-/

namespace Ros2Zephyr

open Heaplet

variable {w : ℕ}

/-- A block as the allocator leaves it. -/
structure Filed (config : AllocatorConfig) (domain : AllocationDomain) (size : SizeT w)
    (block : HeapBlock w) : Prop where
  recorded : block.header.size = size
  pool : block.header.pool = poolTag (wantsExternal config domain size)
  heap : block.heap = heapOf (wantsExternal config domain size)
  room : sizeofAllocationHeader w + size.toNat ≤ block.bytes

/-- The heap named by the tag of a filed block is the one it came from. -/
lemma freeHeap_poolTag (config : AllocatorConfig) (domain : AllocationDomain) (size : SizeT w) :
    freeHeap config (poolTag (wantsExternal config domain size))
      = heapOf (wantsExternal config domain size) := by
  unfold freeHeap wantsExternal
  cases config.espSpiram with
  | false => rfl
  | true => cases decide (domain.externalThreshold w ≤ size) <;> rfl

/-- The fields a header write puts into a block that came from the right heap. -/
lemma Filed.written {config : AllocatorConfig} {domain : AllocationDomain} {size : SizeT w}
    {block : HeapBlock w} (hfits : sizeofAllocationHeader w + size.toNat < 2 ^ w)
    (hheap : block.heap = heapOf (wantsExternal config domain size))
    (hbytes : (withHeader size).toNat ≤ block.bytes) :
    Filed config domain size
      { block with header := ⟨size, poolTag (wantsExternal config domain size)⟩ } :=
  ⟨rfl, rfl, hheap, ((le_withHeader_iff size).mpr hfits).trans hbytes⟩

section Spec

open AllocatorAction

/-- What an action asks of the part of the memory its call owns, and what it makes of it. -/
def localSpec : (action : AllocatorAction w) → Heaplet ℕ (HeapBlock w) →
    (action.Result → Heaplet ℕ (HeapBlock w) → Prop) → Prop
  | nextAttempt, g, Q => ∀ attempt, Q attempt g
  | snapshot _, g, Q => ∀ metrics, Q metrics g
  | printk _, g, Q => Q () g
  | metricsAdd _ _ _, g, Q => Q () g
  | metricsRemove _ header, g, Q => ∃ block, g header = some block ∧ Q () g
  | metricsReplace _ _ _ _ _, g, Q => Q () g
  | heapAlloc heap bytes, g, Q =>
      Q none g ∧ ∀ header block, g header = none → block.heap = heap → bytes.toNat ≤ block.bytes →
        Q (some header) (Function.update g header (some block))
  | heapRealloc heap header bytes, g, Q =>
      Q none g ∧ ∃ old, g header = some old ∧ old.heap = heap ∧
        ∀ header' block, block.heap = heap → bytes.toNat ≤ block.bytes → old.KeptIn block bytes →
          Q (some header')
            (Function.update (Function.update g header none) header' (some block))
  | heapFree heap header, g, Q =>
      ∃ block, g header = some block ∧ block.heap = heap ∧ Q () (Function.update g header none)
  | readHeader header, g, Q => ∃ block, g header = some block ∧ Q block.header g
  | writeHeader header value, g, Q =>
      ∃ block, g header = some block ∧
        Q () (Function.update g header (some { block with header := value }))
  | copyPayload target source bytes, g, Q =>
      ∃ new old, g target = some new ∧ g source = some old ∧
        Q () (Function.update g target (some { new with
          payload := fun i => if i < bytes.toNat then old.payload i else new.payload i }))
  | zeroPayload header bytes, g, Q =>
      ∃ block, g header = some block ∧
        Q () (Function.update g header (some { block with
          payload := fun i => if i < bytes.toNat then 0 else block.payload i }))

/-- **An action stays within its part.** -/
theorem localSpec_change {m m' : AllocatorMemory w} {g : Heaplet ℕ (HeapBlock w)}
    {action : AllocatorAction w} {r : action.Result}
    {Q : action.Result → Heaplet ℕ (HeapBlock w) → Prop} (hof : Of m.blocks g)
    (hspec : localSpec action g Q) (hexec : action.exec m r m') :
    ∃ g', Q r g' ∧ LocalChange m.blocks m'.blocks g g' := by
  -- the block the specification names is the one in memory
  have hsame : ∀ {header block block'}, g header = some block → m.blocks header = some block' →
      block' = block := by
    intro header block block' hg hm
    rw [hof hg, Option.some.injEq] at hm
    exact hm.symm
  have howned : ∀ {header} {block : HeapBlock w}, g header = some block → g header ≠ none := by
    intro header block hg
    simp [hg]
  cases action with
  | nextAttempt =>
      obtain ⟨-, rfl⟩ := hexec
      exact ⟨g, hspec r, .refl hof⟩
  | snapshot _ =>
      obtain ⟨-, rfl⟩ := hexec
      exact ⟨g, hspec r, .refl hof⟩
  | printk _ | metricsAdd _ _ _ | metricsReplace _ _ _ _ _ =>
      obtain rfl := hexec
      exact ⟨g, hspec, .refl hof⟩
  | metricsRemove _ header =>
      obtain ⟨_, -, rfl⟩ := hexec
      obtain ⟨_, -, hQ⟩ := hspec
      exact ⟨g, hQ, .refl hof⟩
  | heapAlloc heap bytes =>
      obtain ⟨hnone, hsome⟩ := hspec
      rcases hexec with ⟨rfl, rfl⟩ | ⟨header, block, rfl, hfree, hheap, hbytes, rfl⟩
      · exact ⟨g, hnone, .refl hof⟩
      · have hfresh : g header = none := by
          by_contra hsome
          obtain ⟨b, hb⟩ := Option.ne_none_iff_exists'.mp hsome
          rw [hof hb] at hfree
          cases hfree
        exact ⟨_, hsome header block hfresh hheap hbytes, .set hof (.inr hfree)⟩
  | heapRealloc heap header bytes =>
      obtain ⟨hnone, old, hold, -, hsome⟩ := hspec
      rcases hexec with ⟨rfl, rfl⟩ |
        ⟨header', old', block, rfl, hold', hplace, hheap, hbytes, hkept, rfl⟩
      · exact ⟨g, hnone, .refl hof⟩
      · obtain rfl := hsame hold hold'
        exact ⟨_, hsome header' block hheap hbytes hkept, .exchange hof (howned hold) hplace⟩
  | heapFree heap header =>
      obtain ⟨_, -, rfl⟩ := hexec
      obtain ⟨_, hg, -, hQ⟩ := hspec
      exact ⟨_, hQ, .release hof (howned hg)⟩
  | readHeader header =>
      obtain ⟨_, hm, rfl, rfl⟩ := hexec
      obtain ⟨_, hg, hQ⟩ := hspec
      obtain rfl := hsame hg hm
      exact ⟨g, hQ, .refl hof⟩
  | writeHeader header value =>
      obtain ⟨_, hm, rfl⟩ := hexec
      obtain ⟨_, hg, hQ⟩ := hspec
      obtain rfl := hsame hg hm
      exact ⟨_, hQ, .set hof (.inl (howned hg))⟩
  | copyPayload target source bytes =>
      obtain ⟨_, _, hnew, hold, rfl⟩ := hexec
      obtain ⟨_, _, hnew', hold', hQ⟩ := hspec
      obtain rfl := hsame hnew' hnew
      obtain rfl := hsame hold' hold
      exact ⟨_, hQ, .set hof (.inl (howned hnew'))⟩
  | zeroPayload header bytes =>
      obtain ⟨_, hm, rfl⟩ := hexec
      obtain ⟨_, hg, hQ⟩ := hspec
      obtain rfl := hsame hg hm
      exact ⟨_, hQ, .set hof (.inl (howned hg))⟩

end Spec

/-! ## The code meets the specification

One lemma for every function, in the order of the calls: what it needs in its part of the memory,
and what it leaves there in each of its outcomes.
-/

section Code

variable (config : AllocatorConfig) {domain : AllocationDomain} {g : Heaplet ℕ (HeapBlock w)}

lemma local_inject {Q : Bool → Heaplet ℕ (HeapBlock w) → Prop} (hQ : ∀ injected, Q injected g) :
    Prog.wp localSpec (injectAllocationFailure config domain) Q g := by
  unfold injectAllocationFailure
  split
  · intro attempt
    exact hQ _
  · exact hQ false

lemma local_report {size : SizeT w} {Q : Option ℕ → Heaplet ℕ (HeapBlock w) → Prop}
    (hQ : Q none g) :
    Prog.wp localSpec (do reportAllocationFailure domain size; pure none) Q g :=
  fun _ => hQ

/-- `ros2_zephyr_allocate` starts with nothing and ends with one filed block or with nothing. -/
lemma local_allocate {size : SizeT w} {Q : Option ℕ → Heaplet ℕ (HeapBlock w) → Prop}
    (hfits : sizeofAllocationHeader w + size.toNat < 2 ^ w) (hfail : Q none empty)
    (hok : ∀ header block, Filed config domain size block →
      Q (some header) (single header block)) :
    Prog.wp localSpec (ros2ZephyrAllocate config size domain) Q empty := by
  unfold ros2ZephyrAllocate
  rw [Prog.wp_bind]
  refine local_inject config fun injected => ?_
  cases injected with
  | true => exact local_report hfail
  | false =>
      rw [if_neg Bool.false_ne_true]
      refine ⟨local_report hfail, fun header block _ hheap hbytes => ?_⟩
      refine ⟨block, single_self header block, ?_⟩
      show Q (some header) _
      rw [show Function.update empty header (some block) = single header block from rfl,
        update_single_some]
      exact hok header _ (Filed.written hfits hheap hbytes)

lemma local_deallocate {header : ℕ} {size : SizeT w} {block : HeapBlock w}
    {Q : Unit → Heaplet ℕ (HeapBlock w) → Prop} (hfiled : Filed config domain size block)
    (hok : Q () empty) :
    Prog.wp localSpec (ros2ZephyrDeallocate config (some header) domain) Q
      (single header block) := by
  refine ⟨block, single_self header block, block, single_self header block, block,
    single_self header block, ?_, ?_⟩
  · rw [hfiled.heap, hfiled.pool, freeHeap_poolTag]
  · show Q () _
    rw [update_single_none]
    exact hok

/-- The heap call and the move together: the old block is exchanged for one of the new heap. -/
lemma local_move {header : ℕ} {size oldSize : SizeT w} {old : HeapBlock w}
    {Q : Option ℕ → Heaplet ℕ (HeapBlock w) → Prop}
    {rest : ℕ → AllocatorProg w (Option ℕ)} {fail : AllocatorProg w (Option ℕ)}
    (hfiled : Filed config domain oldSize old)
    (hfail : Prog.wp localSpec fail Q (single header old))
    (hok : ∀ header' block, block.heap = heapOf (wantsExternal config domain size) →
      (withHeader size).toNat ≤ block.bytes →
        Prog.wp localSpec (rest header') Q (single header' block)) :
    Prog.wp localSpec (do
      match ← requestReallocation config header old.header.pool
          (poolTag (wantsExternal config domain size)) (withHeader size) with
      | none => fail
      | some header' =>
          moveAcrossPools config header header' old.header
            (poolTag (wantsExternal config domain size)) size
          rest header') Q (single header old) := by
  have hheap : old.heap = freeHeap config old.header.pool := by
    rw [hfiled.heap, hfiled.pool, freeHeap_poolTag]
  rw [Prog.wp_bind]
  unfold requestReallocation moveAcrossPools
  by_cases hpool : old.header.pool = poolTag (wantsExternal config domain size)
  · -- within one pool the heap resizes the block
    simp only [if_pos hpool, Prog.pure_eq_ret, Prog.ret_bind]
    rw [hpool, freeHeap_poolTag] at hheap
    rw [freeHeap_poolTag]
    refine ⟨hfail, old, single_self header old, hheap, fun header' block hheap' hbytes _ => ?_⟩
    rw [update_single_none]
    exact hok header' block hheap' hbytes
  · -- across pools the payload is copied into a second block
    simp only [if_neg hpool]
    rw [freeHeap_poolTag]
    refine ⟨hfail, fun header' block hfresh hheap' hbytes => ?_⟩
    have hne : header' ≠ header := by
      rintro rfl
      rw [single_self] at hfresh
      cases hfresh
    refine ⟨block, old, Function.update_self _ _ _, ?_, old, ?_, hheap, ?_⟩
    · rw [Function.update_of_ne (Ne.symm hne), single_self]
    · rw [Function.update_of_ne (Ne.symm hne), Function.update_of_ne (Ne.symm hne), single_self]
    · rw [Function.update_idem, update_pair_none _ _ hne]
      exact hok header' _ hheap' hbytes

/-- `ros2_zephyr_reallocate` exchanges its filed block for one of the new size, or keeps it. -/
lemma local_reallocate {header : ℕ} {size oldSize : SizeT w} {old : HeapBlock w}
    {Q : Option ℕ → Heaplet ℕ (HeapBlock w) → Prop}
    (hfits : sizeofAllocationHeader w + size.toNat < 2 ^ w)
    (hfiled : Filed config domain oldSize old) (hfail : Q none (single header old))
    (hok : ∀ header' block, Filed config domain size block →
      Q (some header') (single header' block)) :
    Prog.wp localSpec (ros2ZephyrReallocate config (some header) size domain) Q
      (single header old) := by
  unfold ros2ZephyrReallocate
  show Prog.wp _ (injectAllocationFailure config domain >>= _) Q _
  rw [Prog.wp_bind]
  refine local_inject config fun injected => ?_
  cases injected with
  | true => exact local_report hfail
  | false =>
      rw [if_neg Bool.false_ne_true]
      refine ⟨old, single_self header old, ?_⟩
      refine local_move config hfiled (local_report hfail) fun header' block hheap hbytes => ?_
      refine ⟨block, single_self header' block, ?_⟩
      show Q (some header') _
      rw [update_single_some]
      exact hok header' _ (Filed.written hfits hheap hbytes)

/-- To have exactly the filed block that a caller of `domain` passes or receives. -/
def Carries (domain : AllocationDomain) : Option ℕ → Heaplet ℕ (HeapBlock w) → Prop
  | none, g => g = empty
  | some header, g => ∃ size block, g = single header block ∧ Filed config domain size block

/-- **Every call keeps blocks filed.**  Entered with the block it was passed, it asks each heap only
for blocks of that heap, and it returns with the block its caller has then. -/
theorem code_local (call : AllocatorCall w) (hfits : call.Fits)
    (henter : Carries config call.domain call.pointer g) :
    Prog.wp localSpec (call.code config)
      (fun result => Carries config call.domain (call.outcome result)) g := by
  cases call with
  | allocate size domain =>
      obtain rfl := henter
      exact local_allocate config hfits rfl fun header block hfiled => ⟨size, block, rfl, hfiled⟩
  | deallocate pointer domain =>
      simp only [AllocatorCall.code, Prog.wp_bind]
      cases pointer with
      | none => exact henter
      | some header =>
          obtain ⟨size, block, rfl, hfiled⟩ := henter
          exact local_deallocate config hfiled rfl
  | reallocate pointer size domain =>
      cases pointer with
      | none =>
          obtain rfl := henter
          exact local_allocate config hfits rfl fun header block hfiled =>
            ⟨size, block, rfl, hfiled⟩
      | some header =>
          obtain ⟨oldSize, old, rfl, hfiled⟩ := henter
          exact local_reallocate config hfits hfiled ⟨oldSize, old, rfl, hfiled⟩
            fun header' block hfiled' => ⟨size, block, rfl, hfiled'⟩
  | zeroAllocate count size domain =>
      obtain rfl := henter
      show Prog.wp localSpec (ros2ZephyrZeroAllocate config count size domain) _ _
      unfold ros2ZephyrZeroAllocate
      split
      · rfl
      · rename_i hguard
        rw [Prog.wp_bind]
        -- the guard has passed, so the product is the one in unbounded integers
        have hlt : count.toNat * size.toNat < 2 ^ w :=
          not_le.mp fun hle => hguard ((zeroAllocate_guard_iff count size).mpr hle)
        have hmul : (count * size).toNat = count.toNat * size.toNat := by
          rw [BitVec.toNat_mul, Nat.mod_eq_of_lt hlt]
        have hfits' : sizeofAllocationHeader w + (count * size).toNat < 2 ^ w := by
          rw [hmul]
          exact hfits.resolve_left (not_le.mpr hlt)
        refine local_allocate config hfits' rfl fun header block hfiled => ?_
        refine ⟨block, single_self header block, count * size, _, update_single_some _ _ _, ?_⟩
        exact ⟨hfiled.recorded, hfiled.pool, hfiled.heap, hfiled.room⟩

end Code

end Ros2Zephyr
