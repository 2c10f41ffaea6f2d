import Mathlib.Tactic.Ring
import Ros2Zephyr.Allocator.Ownership

/-!
# The counters add up

`Accounts` relates the four counters of a domain to the domain's part of the ledger.  Each
critical section keeps it when it removes a block the ledger has, which ownership guarantees, so
it holds in every state that any interleaving of calls can reach.

`live_bytes` is a `size_t`, so it is the sum of the recorded sizes modulo `2 ^ w`.  While the sum
itself stays below `2 ^ w` the counter is the sum and the high-water mark is the largest value it
had.  Beyond that the mark is wrong: `highWater_below_live` is a run in which a reallocation that
has shrunk its block, and not yet said so, lets the sum pass `2 ^ 32`.
-/

namespace Ros2Zephyr

variable {w : ℕ}

/-- The counters `m` of a domain agree with its live blocks and its history. -/
structure Accounts (m : AllocationMetrics w) (blocks : Multiset (LiveBlock w))
    (reallocations peakLive peakSum : ℕ) : Prop where
  live : m.liveBytes = BitVec.ofNat w (totalSize blocks)
  calls : m.calls = m.frees + BitVec.ofNat w (blocks.card + reallocations)
  sum_le : totalSize blocks ≤ peakSum
  mark : peakSum < 2 ^ w → m.highWaterBytes.toNat = peakLive ∧ m.liveBytes.toNat ≤ peakLive

namespace Accounts

variable {m : AllocationMetrics w} {blocks : Multiset (LiveBlock w)} {b b' : LiveBlock w}
variable {reallocations peakLive peakSum : ℕ}

@[simp] lemma totalSize_cons (b : LiveBlock w) (blocks : Multiset (LiveBlock w)) :
    totalSize (b ::ₘ blocks) = b.size.toNat + totalSize blocks := by
  simp [totalSize]

lemma ofNat_totalSize_cons (b : LiveBlock w) (blocks : Multiset (LiveBlock w)) :
    BitVec.ofNat w (totalSize (b ::ₘ blocks)) = b.size + BitVec.ofNat w (totalSize blocks) := by
  rw [totalSize_cons, BitVec.ofNat_add, BitVec.ofNat_toNat, BitVec.setWidth_eq]

lemma ofNat_succ (n : ℕ) : BitVec.ofNat w (n + 1) = BitVec.ofNat w n + 1 := by
  rw [BitVec.ofNat_add]
  rfl

/-- While the sum has never passed `2 ^ w`, the counter is the sum. -/
lemma live_toNat (h : Accounts m blocks reallocations peakLive peakSum) (hsum : peakSum < 2 ^ w) :
    m.liveBytes.toNat = totalSize blocks := by
  rw [h.live, BitVec.toNat_ofNat]
  exact Nat.mod_eq_of_lt (lt_of_le_of_lt h.sum_le hsum)

lemma raiseHighWater_mark (m : AllocationMetrics w) :
    m.raiseHighWater.highWaterBytes.toNat =
      max m.highWaterBytes.toNat m.raiseHighWater.liveBytes.toNat := by
  unfold AllocationMetrics.raiseHighWater
  split
  case isTrue h => exact (max_eq_right (le_of_lt h)).symm
  case isFalse h => exact (max_eq_left (BitVec.not_lt.mp h)).symm

@[simp] lemma raiseHighWater_calls (m : AllocationMetrics w) :
    m.raiseHighWater.calls = m.calls := by
  unfold AllocationMetrics.raiseHighWater
  split <;> rfl

@[simp] lemma raiseHighWater_frees (m : AllocationMetrics w) :
    m.raiseHighWater.frees = m.frees := by
  unfold AllocationMetrics.raiseHighWater
  split <;> rfl

@[simp] lemma raiseHighWater_liveBytes (m : AllocationMetrics w) :
    m.raiseHighWater.liveBytes = m.liveBytes := by
  unfold AllocationMetrics.raiseHighWater
  split <;> rfl

lemma same (h : Accounts m blocks reallocations peakLive peakSum) :
    Accounts m blocks reallocations (max peakLive m.liveBytes.toNat)
      (max peakSum (totalSize blocks)) := by
  rw [max_eq_left h.sum_le]
  refine ⟨h.live, h.calls, h.sum_le, fun hsum => ?_⟩
  obtain ⟨hmark, hlive⟩ := h.mark hsum
  rw [max_eq_left hlive]
  exact ⟨hmark, hlive⟩

/-- A section that ends by raising the mark keeps it the largest value so far. -/
lemma mark_raised {sum : ℕ} (h : Accounts m blocks reallocations peakLive peakSum)
    {m' : AllocationMetrics w} (hmark : m'.highWaterBytes = m.highWaterBytes)
    (hsum : max peakSum sum < 2 ^ w) :
    m'.raiseHighWater.highWaterBytes.toNat =
        max peakLive m'.raiseHighWater.liveBytes.toNat ∧
      m'.raiseHighWater.liveBytes.toNat ≤ max peakLive m'.raiseHighWater.liveBytes.toNat := by
  obtain ⟨hold, -⟩ := h.mark (lt_of_le_of_lt (le_max_left _ _) hsum)
  refine ⟨?_, le_max_right _ _⟩
  rw [raiseHighWater_mark, hmark, hold]

lemma add (h : Accounts m blocks reallocations peakLive peakSum) (b : LiveBlock w) :
    Accounts (m.add b.size) (b ::ₘ blocks) reallocations
      (max peakLive (m.add b.size).liveBytes.toNat)
      (max peakSum (totalSize (b ::ₘ blocks))) := by
  refine ⟨?_, ?_, le_max_right _ _, fun hsum => h.mark_raised rfl hsum⟩
  · rw [ofNat_totalSize_cons, ← h.live, add_comm]
    exact raiseHighWater_liveBytes _
  · show (AllocationMetrics.raiseHighWater _).calls = (AllocationMetrics.raiseHighWater _).frees + _
    rw [raiseHighWater_calls, raiseHighWater_frees, Multiset.card_cons]
    show m.calls + 1 = m.frees + _
    rw [h.calls, add_right_comm blocks.card, ofNat_succ, add_assoc]

/-- `ros2_zephyr_deallocate` takes a block out.  The sum only goes down, so the peaks stay. -/
lemma remove (h : Accounts m (b ::ₘ blocks) reallocations peakLive peakSum) :
    Accounts (m.remove b.size) blocks reallocations
      (max peakLive (m.remove b.size).liveBytes.toNat) (max peakSum (totalSize blocks)) := by
  have hlive : (m.remove b.size).liveBytes = BitVec.ofNat w (totalSize blocks) := by
    show m.liveBytes - b.size = _
    rw [h.live, ofNat_totalSize_cons, add_sub_cancel_left]
  refine ⟨hlive, ?_, le_max_right _ _, fun hsum => ?_⟩
  · show m.calls = m.frees + 1 + _
    rw [h.calls, Multiset.card_cons, add_right_comm blocks.card, ofNat_succ, add_assoc,
      add_comm (BitVec.ofNat w _)]
  · have hpeak : peakSum < 2 ^ w := lt_of_le_of_lt (le_max_left _ _) hsum
    obtain ⟨hmark, hbound⟩ := h.mark hpeak
    have hexact := h.live_toNat hpeak
    have hsmaller : (m.remove b.size).liveBytes.toNat ≤ m.liveBytes.toNat := by
      rw [hlive, BitVec.toNat_ofNat, hexact, totalSize_cons]
      exact le_trans (Nat.mod_le _ _) (Nat.le_add_left _ _)
    rw [max_eq_left (le_trans hsmaller hbound)]
    exact ⟨hmark, le_trans hsmaller hbound⟩

/-- `ros2_zephyr_reallocate` takes one block out and puts another one in, and counts one
reallocation. -/
lemma replace (h : Accounts m (b ::ₘ blocks) reallocations peakLive peakSum) (b' : LiveBlock w) :
    Accounts (m.replace b.size b'.size) (b' ::ₘ blocks) (reallocations + 1)
      (max peakLive (m.replace b.size b'.size).liveBytes.toNat)
      (max peakSum (totalSize (b' ::ₘ blocks))) := by
  refine ⟨?_, ?_, le_max_right _ _, fun hsum => h.mark_raised rfl hsum⟩
  · rw [ofNat_totalSize_cons]
    show (AllocationMetrics.raiseHighWater _).liveBytes = _
    rw [raiseHighWater_liveBytes]
    show m.liveBytes - b.size + b'.size = _
    rw [h.live, ofNat_totalSize_cons, add_sub_cancel_left, add_comm]
  · show (AllocationMetrics.raiseHighWater _).calls = (AllocationMetrics.raiseHighWater _).frees + _
    rw [raiseHighWater_calls, raiseHighWater_frees, Multiset.card_cons]
    show m.calls + 1 = m.frees + _
    rw [h.calls, Multiset.card_cons, ← add_assoc _ reallocations 1, ofNat_succ, add_assoc]

end Accounts

/-! ## One action

Only the three critical sections touch the counters, each in one domain.  Every other action is
dealt with at once by `metrics_of_exec`.
-/

/-- Only the critical sections touch the counters. -/
lemma metrics_of_exec {m m' : AllocatorMemory w} {action : AllocatorAction w} {r : action.Result}
    (hremoved : action.removed m = none) (hadded : action.added = none)
    (hexec : action.exec m r m') : m'.metrics = m.metrics := by
  cases action with
  | nextAttempt =>
      obtain ⟨-, rfl⟩ := hexec
      rfl
  | snapshot _ =>
      obtain ⟨-, rfl⟩ := hexec
      rfl
  | printk _ =>
      obtain rfl := hexec
      rfl
  | metricsAdd _ _ _ => cases hadded
  | metricsRemove _ _ => cases hremoved
  | metricsReplace _ _ _ _ _ => cases hremoved
  | heapAlloc _ _ => rcases hexec with ⟨-, rfl⟩ | ⟨_, _, -, -, -, -, rfl⟩ <;> rfl
  | heapRealloc _ _ _ => rcases hexec with ⟨-, rfl⟩ | ⟨_, _, _, -, -, -, -, -, -, rfl⟩ <;> rfl
  | heapFree _ _ =>
      obtain ⟨_, -, rfl⟩ := hexec
      rfl
  | readHeader _ =>
      obtain ⟨_, -, -, rfl⟩ := hexec
      rfl
  | writeHeader _ _ =>
      obtain ⟨_, -, rfl⟩ := hexec
      rfl
  | copyPayload _ _ _ =>
      obtain ⟨_, _, -, -, rfl⟩ := hexec
      rfl
  | zeroPayload _ _ =>
      obtain ⟨_, -, rfl⟩ := hexec
      rfl

/-- The counters of a domain agree with the history. -/
def AllocatorShared.BalancedIn (s : AllocatorShared w) (domain : AllocationDomain) : Prop :=
  Accounts (s.memory.metrics domain) (ofDomain domain s.ledger) (s.reallocations domain)
    (s.peakLive domain) (s.peakSum domain)

section Ledger

variable {s : AllocatorShared w} {action : AllocatorAction w} {m' : AllocatorMemory w}
variable {domain : AllocationDomain}

lemma add_asMultiset (ledger : Multiset (LiveBlock w)) (b : LiveBlock w) :
    ledger + asMultiset (some b) = b ::ₘ ledger := by
  rw [add_comm]
  exact Multiset.singleton_add b ledger

lemma ofDomain_cons_self (b : LiveBlock w) (ledger : Multiset (LiveBlock w)) :
    ofDomain b.domain (b ::ₘ ledger) = b ::ₘ ofDomain b.domain ledger :=
  Multiset.filter_cons_of_pos _ rfl

lemma ofDomain_cons_of_ne {b : LiveBlock w} (hne : domain ≠ b.domain)
    (ledger : Multiset (LiveBlock w)) :
    ofDomain domain (b ::ₘ ledger) = ofDomain domain ledger :=
  Multiset.filter_cons_of_neg _ (Ne.symm hne)

/-- The history takes over what an action made of the counters and the ledger. -/
lemma AllocatorShared.BalancedIn.of_after {m : AllocationMetrics w}
    {blocks : Multiset (LiveBlock w)} {reallocations : ℕ}
    (hmetrics : m'.metrics domain = m)
    (hledger : ofDomain domain (s.ledgerAfter action) = blocks)
    (hreallocations : (s.after action m').reallocations domain = reallocations)
    (h : Accounts m blocks reallocations (max (s.peakLive domain) m.liveBytes.toNat)
      (max (s.peakSum domain) (totalSize blocks))) :
    (s.after action m').BalancedIn domain := by
  subst hmetrics hledger hreallocations
  exact h

lemma AllocatorShared.BalancedIn.untouched (h : s.BalancedIn domain)
    (hmetrics : m'.metrics domain = s.memory.metrics domain)
    (hledger : ofDomain domain (s.ledgerAfter action) = ofDomain domain s.ledger)
    (hreallocated : action.reallocated ≠ some domain) :
    (s.after action m').BalancedIn domain := by
  refine .of_after hmetrics hledger ?_ (Accounts.same h)
  simp [AllocatorShared.after, hreallocated]

lemma AllocatorShared.BalancedIn.unchanged (h : s.BalancedIn domain)
    (hmetrics : m'.metrics = s.memory.metrics) (hremoved : action.removed s.memory = none)
    (hadded : action.added = none) (hreallocated : action.reallocated = none) :
    (s.after action m').BalancedIn domain := by
  refine h.untouched ?_ ?_ ?_
  · rw [hmetrics]
  · simp [AllocatorShared.ledgerAfter, hremoved, hadded, asMultiset]
  · simp [hreallocated]

/-- The section of an allocation: the ledger of its own domain grows by the block, the other one
stays. -/
lemma AllocatorShared.BalancedIn.metricsAdd (h : s.BalancedIn domain)
    {domain' : AllocationDomain} {header : ℕ} {size : SizeT w} :
    (s.after (.metricsAdd domain' header size)
      (s.memory.setMetrics domain' ((s.memory.metrics domain').add size))).BalancedIn domain := by
  have hledger : s.ledgerAfter (.metricsAdd domain' header size) =
      ⟨header, domain', size⟩ ::ₘ s.ledger := by
    show s.ledger - 0 + asMultiset (some _) = _
    rw [tsub_zero, add_asMultiset]
  by_cases hd : domain = domain'
  · subst hd
    have hbalanced : Accounts _ (ofDomain domain s.ledger) _ _ _ := h
    refine .of_after (AllocatorMemory.setMetrics_self _ _ _) ?_ rfl
      (hbalanced.add ⟨header, domain, size⟩)
    rw [hledger]
    exact ofDomain_cons_self _ _
  · refine h.untouched (AllocatorMemory.setMetrics_of_ne _ _ hd) ?_ (by
      simp [AllocatorAction.reallocated])
    rw [hledger, ofDomain_cons_of_ne hd]

/-- The section of a deallocation.  It subtracts the size that the header records, so the ledger
must have the block with that size. -/
lemma AllocatorShared.BalancedIn.metricsRemove (h : s.BalancedIn domain)
    {domain' : AllocationDomain} {header : ℕ} {size : SizeT w}
    (hsize : s.memory.recordedSize header = size) (hmem : ⟨header, domain', size⟩ ∈ s.ledger) :
    (s.after (.metricsRemove domain' header)
      (s.memory.setMetrics domain' ((s.memory.metrics domain').remove size))).BalancedIn
        domain := by
  obtain ⟨rest, hrest⟩ := Multiset.exists_cons_of_mem hmem
  have hledger : s.ledgerAfter (.metricsRemove domain' header) = rest := by
    simp [AllocatorShared.ledgerAfter, AllocatorAction.removed, AllocatorAction.added, asMultiset,
      hsize, hrest]
  by_cases hd : domain = domain'
  · subst hd
    have hbalanced : Accounts _ (ofDomain domain s.ledger) _ _ _ := h
    rw [hrest, ofDomain_cons_self ⟨header, domain, size⟩] at hbalanced
    refine .of_after (AllocatorMemory.setMetrics_self _ _ _) ?_ rfl hbalanced.remove
    rw [hledger]
  · refine h.untouched (AllocatorMemory.setMetrics_of_ne _ _ hd) ?_ (by
      simp [AllocatorAction.reallocated])
    rw [hledger, hrest, ofDomain_cons_of_ne hd]

/-- The section of a reallocation, which subtracts the size that was read before the heap call. -/
lemma AllocatorShared.BalancedIn.metricsReplace (h : s.BalancedIn domain)
    {domain' : AllocationDomain} {oldHeader newHeader : ℕ} {oldSize size : SizeT w}
    (hmem : ⟨oldHeader, domain', oldSize⟩ ∈ s.ledger) :
    (s.after (.metricsReplace domain' oldHeader oldSize newHeader size)
      (s.memory.setMetrics domain'
        ((s.memory.metrics domain').replace oldSize size))).BalancedIn domain := by
  obtain ⟨rest, hrest⟩ := Multiset.exists_cons_of_mem hmem
  have hledger : s.ledgerAfter (.metricsReplace domain' oldHeader oldSize newHeader size) =
      ⟨newHeader, domain', size⟩ ::ₘ rest := by
    show s.ledger - {⟨oldHeader, domain', oldSize⟩} + asMultiset (some _) = _
    rw [hrest, Multiset.sub_singleton, Multiset.erase_cons_head, add_asMultiset]
  by_cases hd : domain = domain'
  · subst hd
    have hbalanced : Accounts _ (ofDomain domain s.ledger) _ _ _ := h
    rw [hrest, ofDomain_cons_self ⟨oldHeader, domain, oldSize⟩] at hbalanced
    refine .of_after (AllocatorMemory.setMetrics_self _ _ _) ?_ ?_
      (hbalanced.replace ⟨newHeader, domain, size⟩)
    · rw [hledger]
      exact ofDomain_cons_self _ _
    · simp [AllocatorShared.after, AllocatorAction.reallocated]
  · refine h.untouched (AllocatorMemory.setMetrics_of_ne _ _ hd) ?_ ?_
    · rw [hledger, hrest, ofDomain_cons_of_ne hd, ofDomain_cons_of_ne hd]
    · simpa [AllocatorAction.reallocated] using Ne.symm hd

end Ledger

/-- **The counters stay balanced** under every action that removes only what the ledger has. -/
theorem AllocatorShared.BalancedIn.after {s : AllocatorShared w} {domain : AllocationDomain}
    (h : s.BalancedIn domain) {action : AllocatorAction w} {r : action.Result}
    {m' : AllocatorMemory w} (hexec : action.exec s.memory r m')
    (hmem : ∀ b, action.removed s.memory = some b → b ∈ s.ledger) :
    (s.after action m').BalancedIn domain := by
  cases action with
  | metricsAdd _ _ _ =>
      obtain rfl := hexec
      exact h.metricsAdd
  | metricsRemove _ header =>
      obtain ⟨block, hblock, rfl⟩ := hexec
      have hsize : s.memory.recordedSize header = block.header.size := by
        simp only [AllocatorMemory.recordedSize, hblock]
      exact h.metricsRemove hsize (hsize ▸ hmem _ rfl)
  | metricsReplace _ _ _ _ _ =>
      obtain rfl := hexec
      exact h.metricsReplace (hmem _ rfl)
  | _ => exact h.unchanged (metrics_of_exec rfl rfl hexec) rfl rfl rfl

/-! ## Whole runs

Ownership supplies what `BalancedIn.after` asks for: what a section removes is a block of its call,
and the blocks of the calls are in the ledger.
-/

section System

open Transition

variable {T : Type} [Fintype T] [DecidableEq T] {domain : AllocationDomain}

/-- What a section takes out of the counters, the ledger has. -/
lemma removed_mem_ledger {s : AllocatorShared w} {ghosts : T → Own w} {t : T}
    {action : AllocatorAction w} {Q : action.Result → Own w → Prop} (h : Owned s ghosts)
    (hspec : ownSpec domain action (ghosts t) Q) {b : LiveBlock w}
    (hb : action.removed s.memory = some b) : b ∈ s.ledger := by
  refine h.mem_ledger (t := t) ?_
  have hvalid := h.valid t
  cases action with
  | metricsRemove domain' header =>
      obtain ⟨size, rfl, hown, -⟩ := hspec
      rw [hown] at hvalid ⊢
      obtain ⟨block, hblock, hsize⟩ := hvalid
      simp only [AllocatorAction.removed, AllocatorMemory.recordedSize, hblock, hsize,
        Option.some.injEq] at hb
      exact Multiset.mem_singleton.mpr hb.symm
  | metricsReplace domain' oldHeader oldSize newHeader size =>
      obtain ⟨rfl, hown, -⟩ := hspec
      rw [hown]
      exact Multiset.mem_singleton.mpr (Option.some.inj hb).symm
  | _ => cases hb

/-- A call leaves the counters of the other domain alone. -/
lemma metrics_of_ownSpec {m m' : AllocatorMemory w} {own : Own w} {action : AllocatorAction w}
    {r : action.Result} {Q : action.Result → Own w → Prop} (hspec : ownSpec domain action own Q)
    (hexec : action.exec m r m') {domain' : AllocationDomain} (hne : domain' ≠ domain) :
    m'.metrics domain' = m.metrics domain' := by
  cases action with
  | metricsAdd _ _ _ =>
      obtain ⟨rfl, -⟩ := hspec
      obtain rfl := hexec
      exact AllocatorMemory.setMetrics_of_ne _ _ hne
  | metricsRemove _ _ =>
      obtain ⟨_, rfl, -⟩ := hspec
      obtain ⟨_, -, rfl⟩ := hexec
      exact AllocatorMemory.setMetrics_of_ne _ _ hne
  | metricsReplace _ _ _ _ _ =>
      obtain ⟨rfl, -⟩ := hspec
      obtain rfl := hexec
      exact AllocatorMemory.setMetrics_of_ne _ _ hne
  | _ => rw [metrics_of_exec rfl rfl hexec]

/-- Ownership and balanced counters together are kept by every action of an owner. -/
theorem accounting_sound (domain : AllocationDomain) :
    Sound (AllocatorShared.exec (w := w)) (ownSpec domain)
      (fun s (ghosts : T → Own w) => Owned s ghosts ∧ ∀ domain', s.BalancedIn domain') := by
  rintro s s' ghosts t action r Q ⟨howned, hbalanced⟩ hspec hexec
  obtain ⟨own, hQ, howned'⟩ := ownSpec_sound domain howned hspec hexec
  obtain ⟨m', hexec, rfl⟩ := hexec
  exact ⟨own, hQ, howned', fun domain' =>
    (hbalanced domain').after hexec fun _ hb => removed_mem_ledger howned hspec hb⟩

/-- The invariant of the whole system: ownership and balanced counters, and the rest of every
call's code still respects what the call owns. -/
structure AllocatorInv (s : AllocatorSystem T w) (ghosts : T → Own w) : Prop where
  owned : Owned s.shared ghosts
  balanced : ∀ domain, s.shared.BalancedIn domain
  idle : ∀ t, s.thread t = none → ghosts t = .nothing
  busy : ∀ {t call rest}, s.thread t = some (call, rest) →
    Prog.wp (ownSpec call.domain) rest
      (fun result => OwnsBlock call.domain (call.outcome result)) (ghosts t)

omit [DecidableEq T] in
/-- Nothing is allocated, all counters are zero and no call is in progress. -/
lemma allocatorInv_boot : AllocatorInv (AllocatorSystem.boot T w) fun _ => .nothing where
  owned :=
    { valid := fun _ => trivial
      apart := fun _ _ _ => Finset.disjoint_empty_left _
      heldValid := fun _ hb => absurd hb (Finset.notMem_empty _)
      heldApart := fun _ hb => absurd hb (Finset.notMem_empty _)
      heldOnce := fun _ hb => absurd hb (Finset.notMem_empty _)
      ledger := by
        show (0 : Multiset (LiveBlock w)) = 0 + ∑ t : T, 0
        simp }
  balanced := fun _ =>
    { live := rfl
      calls := rfl
      sum_le := le_rfl
      mark := fun _ => ⟨rfl, le_rfl⟩ }
  idle := fun _ _ => rfl
  busy := fun h => by cases h

/-- The other threads' calls are where they were, with what they own. -/
lemma AllocatorInv.update {s : AllocatorSystem T w} {ghosts : T → Own w} (h : AllocatorInv s ghosts)
    {shared : AllocatorShared w} {t : T} {own : Own w}
    {entry : Option (AllocatorCall w × AllocatorProg w (Option ℕ))}
    (howned : Owned shared (Function.update ghosts t own))
    (hbalanced : ∀ domain, shared.BalancedIn domain) (hidle : entry = none → own = .nothing)
    (hbusy : ∀ {call rest}, entry = some (call, rest) →
      Prog.wp (ownSpec call.domain) rest
        (fun result => OwnsBlock call.domain (call.outcome result)) own) :
    AllocatorInv ⟨shared, Function.update s.thread t entry⟩ (Function.update ghosts t own) := by
  refine ⟨howned, hbalanced,
    forall_threads_update (P := fun entry own => entry = none → own = Own.nothing) h.idle hidle, ?_⟩
  intro t' call rest
  exact forall_threads_update
    (P := fun entry own => entry = some (call, rest) → Prog.wp (ownSpec call.domain) rest
      (fun result => OwnsBlock call.domain (call.outcome result)) own)
    (fun _ => h.busy) hbusy t'

/-- A caller enters a call: what it passes changes hands. -/
lemma AllocatorInv.invoke {s : AllocatorSystem T w} {ghosts : T → Own w} {t : T}
    {call : AllocatorCall w} {shared : AllocatorShared w} {config : AllocatorConfig}
    (h : AllocatorInv s ghosts) (hthread : s.thread t = none)
    (hpass : s.shared.Passes call.domain call.pointer shared) :
    ∃ ghosts', AllocatorInv
      ⟨shared, Function.update s.thread t (some (call, call.code config))⟩ ghosts' := by
  have hidle := h.idle t hthread
  suffices hown : ∃ own, OwnsBlock call.domain call.pointer own ∧
      Owned shared (Function.update ghosts t own) ∧ ∀ domain, shared.BalancedIn domain by
    obtain ⟨own, hblock, howned, hbalanced⟩ := hown
    refine ⟨_, h.update howned hbalanced (fun hnone => by cases hnone) ?_⟩
    intro _ _ hentry
    cases hentry
    exact code_wp config call hblock
  cases hpointer : call.pointer with
  | none =>
      rw [hpointer] at hpass
      obtain rfl := hpass
      refine ⟨.nothing, rfl, ?_, h.balanced⟩
      rw [← hidle, Function.update_eq_self]
      exact h.owned
  | some header =>
      rw [hpointer] at hpass
      obtain ⟨size, hmem, rfl⟩ := hpass
      exact ⟨_, ⟨size, rfl⟩, h.owned.pass hidle hmem, h.balanced⟩

/-- A call returns: its caller has the block that the call then owns. -/
lemma AllocatorInv.finish {s : AllocatorSystem T w} {ghosts : T → Own w} {t : T}
    {call : AllocatorCall w} {result : Option ℕ} (h : AllocatorInv s ghosts)
    (hthread : s.thread t = some (call, .ret result)) :
    AllocatorInv
      ⟨s.shared.receive call.domain (call.outcome result), Function.update s.thread t none⟩
      (Function.update ghosts t .nothing) := by
  have hblock : OwnsBlock call.domain (call.outcome result) (ghosts t) := h.busy hthread
  suffices hdone : Owned (s.shared.receive call.domain (call.outcome result))
      (Function.update ghosts t .nothing) ∧
      ∀ domain, (s.shared.receive call.domain (call.outcome result)).BalancedIn domain from
    h.update hdone.1 hdone.2 (fun _ => rfl) (fun hentry => by cases hentry)
  cases houtcome : call.outcome result with
  | none =>
      rw [houtcome] at hblock
      refine ⟨?_, h.balanced⟩
      rw [← hblock, Function.update_eq_self]
      exact h.owned
  | some header =>
      rw [houtcome] at hblock
      obtain ⟨size, hown⟩ := hblock
      have hvalid := h.owned.valid t
      rw [hown] at hvalid
      obtain ⟨block, hblock, hsize⟩ := hvalid
      have hrecorded : s.shared.memory.recordedSize header = size := by
        simp only [AllocatorMemory.recordedSize, hblock]
        exact hsize
      refine ⟨?_, h.balanced⟩
      simp only [AllocatorShared.receive, hrecorded]
      exact h.owned.handOver hown

/-- **One step of the system** keeps the invariant. -/
theorem allocatorInv_step {config : AllocatorConfig} {s s' : AllocatorSystem T w}
    {e : AllocatorEvent T w} (h : ∃ ghosts, AllocatorInv s ghosts)
    (hstep : AllocatorSystem.Step config s e s') : ∃ ghosts, AllocatorInv s' ghosts := by
  obtain ⟨ghosts, h⟩ := h
  cases hstep with
  | invoke hthread _ hpass => exact h.invoke hthread hpass
  | act hthread hexec =>
      obtain ⟨own, hwp, howned, hbalanced⟩ :=
        (accounting_sound _).step ⟨h.owned, h.balanced⟩ (h.busy hthread) hexec
      refine ⟨_, h.update howned hbalanced (fun hnone => by cases hnone) ?_⟩
      intro call rest hentry
      cases hentry
      exact hwp
  | finish hthread => exact ⟨_, h.finish hthread⟩

/-- What the counters of a domain say in a state of the system. -/
structure AllocatorSystem.Accounted (s : AllocatorSystem T w) (domain : AllocationDomain) :
    Prop where
  live : (s.shared.memory.metrics domain).liveBytes.toNat =
    totalSize (ofDomain domain s.shared.ledger) % 2 ^ w
  calls : (s.shared.memory.metrics domain).calls =
    (s.shared.memory.metrics domain).frees + BitVec.ofNat w
      ((ofDomain domain s.shared.ledger).card + s.shared.reallocations domain)
  exact : s.shared.peakSum domain < 2 ^ w →
    (s.shared.memory.metrics domain).liveBytes.toNat =
        totalSize (ofDomain domain s.shared.ledger) ∧
      (s.shared.memory.metrics domain).highWaterBytes.toNat = s.shared.peakLive domain

omit [Fintype T] [DecidableEq T] in
lemma AllocatorShared.BalancedIn.accounted {s : AllocatorSystem T w}
    (h : s.shared.BalancedIn domain) : s.Accounted domain := by
  refine ⟨?_, Accounts.calls h, fun hsum => ⟨Accounts.live_toNat h hsum, ?_⟩⟩
  · rw [Accounts.live h, BitVec.toNat_ofNat]
  · exact (Accounts.mark h hsum).1

omit [DecidableEq T] in
/-- With no call in progress the ledger is what the callers hold. -/
lemma Owned.ledger_of_idle {s : AllocatorShared w} {ghosts : T → Own w} (h : Owned s ghosts)
    (hidle : ∀ t, ghosts t = .nothing) : s.ledger = s.held.val := by
  rw [h.ledger]
  simp [hidle, Own.accounted]

/-- A step changes the counters of a domain only by a call made with that domain. -/
lemma AllocatorInv.changed_domain {s s' : AllocatorSystem T w} {ghosts : T → Own w}
    {config : AllocatorConfig} {e : AllocatorEvent T w} (h : AllocatorInv s ghosts)
    (hstep : AllocatorSystem.Step config s e s')
    (hne : s'.shared.memory.metrics domain ≠ s.shared.memory.metrics domain) :
    ∃ t call rest, e = .act t ∧ s.thread t = some (call, rest) ∧ call.domain = domain := by
  cases hstep with
  | invoke _ _ hpass => exact absurd (congrFun (congrArg _ hpass.memory) _) hne
  | act hthread hexec =>
      refine ⟨_, _, _, rfl, hthread, ?_⟩
      obtain ⟨m', hexec, rfl⟩ := hexec
      by_contra hdomain
      exact hne (metrics_of_ownSpec (h.busy hthread) hexec (Ne.symm hdomain))
  | finish _ => exact absurd (congrFun (congrArg _ (s.shared.receive_memory _ _)) _) hne

/-- **The counters add up** in every state that any number of threads can reach.  For each domain
`live_bytes` is the sum of the recorded sizes modulo the width of `size_t`, `calls` counts the
frees, the live blocks and the reallocations, and while the sum has stayed below `2 ^ w` the counter
is the sum itself and the high-water mark the largest value it had.  A section only takes out what
the ledger has, everything freed means zero, and a domain's counters change only by its own
calls. -/
theorem allocator_accounts (config : AllocatorConfig) {es : List (AllocatorEvent T w)}
    {s : AllocatorSystem T w}
    (hrun : Run (AllocatorSystem.Step config) (AllocatorSystem.boot T w) es s) :
    (∀ domain, s.Accounted domain) ∧
    (∀ t call action next b, s.thread t = some (call, .act action next) →
      action.removed s.shared.memory = some b → b ∈ s.shared.ledger) ∧
    (∀ b ∈ s.shared.held, b ∈ s.shared.ledger ∧
      s.shared.memory.recordedSize b.header = b.size) ∧
    ((∀ t, s.thread t = none) → s.shared.held = ∅ →
      ∀ domain, (s.shared.memory.metrics domain).liveBytes = 0) ∧
    (∀ e s' domain, AllocatorSystem.Step config s e s' →
      s'.shared.memory.metrics domain ≠ s.shared.memory.metrics domain →
      ∃ t call rest, e = .act t ∧ s.thread t = some (call, rest) ∧ call.domain = domain) := by
  obtain ⟨ghosts, h⟩ := hrun.invariant ⟨_, allocatorInv_boot⟩ allocatorInv_step
  refine ⟨fun domain => (h.balanced domain).accounted, ?_, ?_, ?_, ?_⟩
  · intro t call action next b hthread hb
    exact removed_mem_ledger h.owned (h.busy hthread) hb
  · intro b hb
    obtain ⟨block, hblock, hsize⟩ := h.owned.heldValid b hb
    refine ⟨?_, ?_⟩
    · rw [h.owned.ledger]
      exact Multiset.mem_add.mpr (.inl hb)
    · simp only [AllocatorMemory.recordedSize, hblock]
      exact hsize
  · intro hidle hheld domain
    have hledger := h.owned.ledger_of_idle fun t => h.idle t (hidle t)
    rw [hheld] at hledger
    rw [(h.balanced domain).live, hledger]
    rfl
  · intro e s' domain hstep hne
    exact h.changed_domain hstep hne

end System

/-! ## Two schedules

Both are carried out by `run_of_schedule`: one in which the counters are right, and one in which the
sum wraps and the high-water mark is not.
-/

section Schedules

open Transition

/-- `size_t` of 32 bits, no external heap, no injected failure. -/
def plainConfig : AllocatorConfig := ⟨false, 0⟩

/-- One thread allocates 100 bytes, makes them 40 and frees the block. -/
def shrinkSchedule : List (AllocatorEvent (Fin 1) 32 × HeapChoice) :=
  [(.invoke 0 (.allocate 100 .ros), none), (.act 0, some (0x1000, 108)), (.act 0, none),
    (.act 0, none), (.finish 0, none),
   (.invoke 0 (.reallocate (some 0x1000) 40 .ros), none), (.act 0, none),
    (.act 0, some (0x1000, 48)), (.act 0, none), (.act 0, none), (.finish 0, none),
   (.invoke 0 (.deallocate (some 0x1000) .ros), none), (.act 0, none)]

/-- Three threads: the first has a block of 2 GiB and is in the middle of shrinking it to one byte,
the heap has shrunk it but the counters still have the old size; meanwhile the second allocates
almost 2 GiB, and the third frees ten bytes. -/
def wrapSchedule : List (AllocatorEvent (Fin 3) 32 × HeapChoice) :=
  [(.invoke 0 (.allocate 0x80000000 .ros), none), (.act 0, some (0x10, 0x80000008)),
    (.act 0, none), (.act 0, none), (.finish 0, none),
   (.invoke 2 (.allocate 10 .ros), none), (.act 2, some (0x90000000, 18)),
    (.act 2, none), (.act 2, none), (.finish 2, none),
   (.invoke 0 (.reallocate (some 0x10) 1 .ros), none), (.act 0, none), (.act 0, some (0x10, 9)),
   (.invoke 1 (.allocate 0x7ffffffb .ros), none), (.act 1, some (0x100, 0x80000003)),
    (.act 1, none), (.act 1, none), (.finish 1, none),
   (.invoke 2 (.deallocate (some 0x90000000) .ros), none), (.act 2, none)]

/-- **The mark misses a wrapped sum.**  A state can be reached in which the high-water mark is
below the present value of `live_bytes`. -/
theorem highWater_below_live :
    ∃ es s, Run (AllocatorSystem.Step plainConfig) (AllocatorSystem.boot (Fin 3) 32) es s ∧
      (s.shared.memory.metrics .ros).liveBytes.toNat = 2 ^ 32 - 5 ∧
      (s.shared.memory.metrics .ros).highWaterBytes.toNat = 2 ^ 31 + 10 := by
  have hrun : ((runLabels (AllocatorSystem.scheduled plainConfig)
      (AllocatorSystem.boot (Fin 3) 32) wrapSchedule).map
        fun s => s.shared.memory.metrics .ros) =
      some ⟨3, 1, 0xfffffffb, 0x8000000a⟩ := by decide
  obtain ⟨s, hs, hmetrics⟩ := Option.map_eq_some_iff.mp hrun
  refine ⟨_, s, AllocatorSystem.run_of_schedule hs, ?_, ?_⟩ <;> rw [hmetrics] <;> rfl

/-- The theorem at a run in which the block's removal has executed and its memory is not freed
yet: the counters are back at zero and the mark is at 100. -/
theorem allocator_accounts_shrink :
    ∃ es s, Run (AllocatorSystem.Step plainConfig) (AllocatorSystem.boot (Fin 1) 32) es s ∧
      (s.shared.memory.metrics .ros).highWaterBytes = 100 ∧ s.Accounted .ros := by
  have hrun : ((runLabels (AllocatorSystem.scheduled plainConfig)
      (AllocatorSystem.boot (Fin 1) 32) shrinkSchedule).map
        fun s => s.shared.memory.metrics .ros) = some ⟨2, 1, 0, 100⟩ := by decide
  obtain ⟨s, hs, hmetrics⟩ := Option.map_eq_some_iff.mp hrun
  have hreach := AllocatorSystem.run_of_schedule hs
  refine ⟨_, s, hreach, ?_, (allocator_accounts plainConfig hreach).1 .ros⟩
  rw [hmetrics]

end Schedules

end Ros2Zephyr
