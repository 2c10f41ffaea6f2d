import Mathlib.Data.Finset.Basic
import Mathlib.Algebra.BigOperators.Group.Multiset.Basic
import Mathlib.Data.Multiset.AddSub
import Ros2Zephyr.Allocator.Code
import Ros2Zephyr.Core.Transition

/-!
# Many threads on one allocator

Any number of threads call the allocator, each one call at a time, and their atomic actions
interleave freely.  The callers keep the allocator's contract: a block is passed back with the
domain it was allocated with, only one call works on it at a time, and no request is so large that
adding the header wraps.

* `AllocatorSystem` — the memory, the calls in progress, the blocks in the callers' hands and the
  history the accounting is compared with.
* The history is read by no step: `ledger` holds the blocks that were added to the counters and not
  removed since, with the size recorded for each, `reallocations` counts the successful
  reallocations of existing blocks, `peakLive` is the largest value of `live_bytes` seen and
  `peakSum` the largest sum of the ledger's sizes.
-/

namespace Ros2Zephyr

variable {w : ℕ}

/-- A block the counters know about. -/
structure LiveBlock (w : ℕ) where
  header : ℕ
  domain : AllocationDomain
  size : SizeT w
  deriving DecidableEq

/-- The size recorded in the header of an allocated block. -/
def AllocatorMemory.recordedSize (m : AllocatorMemory w) (header : ℕ) : SizeT w :=
  match m.blocks header with
  | some block => block.header.size
  | none => 0

namespace AllocatorAction

/-- The block that a section takes out of the counters. -/
def removed (m : AllocatorMemory w) : AllocatorAction w → Option (LiveBlock w)
  | metricsRemove domain header => some ⟨header, domain, m.recordedSize header⟩
  | metricsReplace domain oldHeader oldSize _ _ => some ⟨oldHeader, domain, oldSize⟩
  | _ => none

/-- The block that a section adds to the counters. -/
def added : AllocatorAction w → Option (LiveBlock w)
  | metricsAdd domain header size => some ⟨header, domain, size⟩
  | metricsReplace domain _ _ newHeader size => some ⟨newHeader, domain, size⟩
  | _ => none

/-- The domain in which the section completes a reallocation. -/
def reallocated : AllocatorAction w → Option AllocationDomain
  | metricsReplace domain _ _ _ _ => some domain
  | _ => none

end AllocatorAction

/-- The block as a multiset, empty for none. -/
def asMultiset {α : Type*} : Option α → Multiset α
  | none => 0
  | some a => {a}

/-- The memory, the blocks in the callers' hands, and the history. -/
structure AllocatorShared (w : ℕ) where
  memory : AllocatorMemory w
  held : Finset (LiveBlock w)
  ledger : Multiset (LiveBlock w)
  reallocations : AllocationDomain → ℕ
  peakLive : AllocationDomain → ℕ
  peakSum : AllocationDomain → ℕ

/-- The blocks of one domain. -/
def ofDomain (domain : AllocationDomain) (ledger : Multiset (LiveBlock w)) :
    Multiset (LiveBlock w) :=
  ledger.filter fun b => b.domain = domain

/-- The sum of the recorded sizes, in unbounded integers. -/
def totalSize (ledger : Multiset (LiveBlock w)) : ℕ := (ledger.map fun b => b.size.toNat).sum

namespace AllocatorShared

def boot (w : ℕ) : AllocatorShared w where
  memory := AllocatorMemory.boot w
  held := ∅
  ledger := 0
  reallocations _ := 0
  peakLive _ := 0
  peakSum _ := 0

/-- The ledger after an action. -/
def ledgerAfter (s : AllocatorShared w) (action : AllocatorAction w) : Multiset (LiveBlock w) :=
  s.ledger - asMultiset (action.removed s.memory) + asMultiset action.added

/-- The history after an action that turned the memory into `m'`. -/
def after (s : AllocatorShared w) (action : AllocatorAction w) (m' : AllocatorMemory w) :
    AllocatorShared w where
  memory := m'
  held := s.held
  ledger := s.ledgerAfter action
  reallocations domain :=
    s.reallocations domain + if action.reallocated = some domain then 1 else 0
  peakLive domain := max (s.peakLive domain) (m'.metrics domain).liveBytes.toNat
  peakSum domain := max (s.peakSum domain) (totalSize (ofDomain domain (s.ledgerAfter action)))

/-- An action together with its trace in the history. -/
def exec (action : AllocatorAction w) (s : AllocatorShared w) (r : action.Result)
    (s' : AllocatorShared w) : Prop :=
  ∃ m', action.exec s.memory r m' ∧ s' = s.after action m'

/-- A caller gives up the block it passes. -/
def Passes (s : AllocatorShared w) (domain : AllocationDomain) :
    Option ℕ → AllocatorShared w → Prop
  | none, s' => s' = s
  | some header, s' =>
      ∃ size, ⟨header, domain, size⟩ ∈ s.held ∧
        s' = { s with held := s.held.erase ⟨header, domain, size⟩ }

/-- A caller gets a block, or nothing. -/
def receive (s : AllocatorShared w) (domain : AllocationDomain) :
    Option ℕ → AllocatorShared w
  | none => s
  | some header =>
      { s with held := insert ⟨header, domain, s.memory.recordedSize header⟩ s.held }

lemma Passes.memory {s s' : AllocatorShared w} {domain : AllocationDomain} {pointer : Option ℕ}
    (h : s.Passes domain pointer s') : s'.memory = s.memory := by
  cases pointer with
  | none =>
      obtain rfl := h
      rfl
  | some header =>
      obtain ⟨_, -, rfl⟩ := h
      rfl

@[simp] lemma receive_memory (s : AllocatorShared w) (domain : AllocationDomain)
    (pointer : Option ℕ) : (s.receive domain pointer).memory = s.memory := by
  cases pointer <;> rfl

end AllocatorShared

namespace AllocatorCall

/-- Adding the header to the request does not wrap. -/
def Fits : AllocatorCall w → Prop
  | allocate size _ => sizeofAllocationHeader w + size.toNat < 2 ^ w
  | deallocate _ _ => True
  | reallocate _ size _ => sizeofAllocationHeader w + size.toNat < 2 ^ w
  | zeroAllocate count size _ =>
      2 ^ w ≤ count.toNat * size.toNat ∨
        sizeofAllocationHeader w + count.toNat * size.toNat < 2 ^ w

/-- The block in the caller's hands after the call: what was returned, and after a failed
reallocation the block that was passed. -/
def outcome : AllocatorCall w → Option ℕ → Option ℕ
  | allocate _ _, result => result
  | deallocate _ _, _ => none
  | reallocate pointer _ _, none => pointer
  | reallocate _ _ _, some header => some header
  | zeroAllocate _ _ _, result => result

end AllocatorCall

/-- The shared state and each thread's call in progress, with the rest of its code. -/
structure AllocatorSystem (T : Type) (w : ℕ) where
  shared : AllocatorShared w
  thread : T → Option (AllocatorCall w × AllocatorProg w (Option ℕ))

inductive AllocatorEvent (T : Type) (w : ℕ)
  | invoke (t : T) (call : AllocatorCall w)
  | act (t : T)
  | finish (t : T)

namespace AllocatorSystem

variable {T : Type} [DecidableEq T]

def boot (T : Type) (w : ℕ) : AllocatorSystem T w where
  shared := AllocatorShared.boot w
  thread _ := none

/-- One step of the system: a thread enters a call, performs its next action, or returns. -/
inductive Step (config : AllocatorConfig) :
    AllocatorSystem T w → AllocatorEvent T w → AllocatorSystem T w → Prop
  | invoke {s : AllocatorSystem T w} {shared : AllocatorShared w} {t : T}
      {call : AllocatorCall w} :
      s.thread t = none → call.Fits → s.shared.Passes call.domain call.pointer shared →
      Step config s (.invoke t call)
        ⟨shared, Function.update s.thread t (some (call, call.code config))⟩
  | act {s : AllocatorSystem T w} {shared : AllocatorShared w} {t : T} {call : AllocatorCall w}
      {action : AllocatorAction w} {next : action.Result → AllocatorProg w (Option ℕ)}
      {r : action.Result} :
      s.thread t = some (call, .act action next) → s.shared.exec action r shared →
      Step config s (.act t) ⟨shared, Function.update s.thread t (some (call, next r))⟩
  | finish {s : AllocatorSystem T w} {t : T} {call : AllocatorCall w} {result : Option ℕ} :
      s.thread t = some (call, .ret result) →
      Step config s (.finish t)
        ⟨s.shared.receive call.domain (call.outcome result), Function.update s.thread t none⟩

end AllocatorSystem

/-! ## Scheduled runs

To run the system on a concrete schedule, the heaps' answers are given along with the events: the
address of the block and its capacity, or `none` for a failure. -/

/-- The address and the capacity of the block a heap call returns. -/
abbrev HeapChoice := Option (ℕ × ℕ)

/-- An action under a given answer of the heap; `none` if the answer breaks the heap's contract or
the action is not possible. -/
def AllocatorAction.answer (choice : HeapChoice) : (action : AllocatorAction w) →
    AllocatorMemory w → Option (action.Result × AllocatorMemory w)
  | nextAttempt, m =>
      some (m.rosAllocationAttempts + 1,
        { m with rosAllocationAttempts := m.rosAllocationAttempts + 1 })
  | snapshot domain, m => some (m.metrics domain, m)
  | printk text, m => some ((), { m with console := m.console ++ [text] })
  | metricsAdd domain _ size, m =>
      some ((), m.setMetrics domain ((m.metrics domain).add size))
  | metricsRemove domain header, m =>
      (m.blocks header).map fun block =>
        ((), m.setMetrics domain ((m.metrics domain).remove block.header.size))
  | metricsReplace domain _ oldSize _ size, m =>
      some ((), m.setMetrics domain ((m.metrics domain).replace oldSize size))
  | heapAlloc heap bytes, m =>
      match choice with
      | none => some (none, m)
      | some (header, capacity) =>
          if (m.blocks header).isNone ∧ bytes.toNat ≤ capacity then
            some (some header, m.setBlock header (some ⟨heap, capacity, ⟨0, 0⟩, fun _ => 0⟩))
          else none
  | heapRealloc heap header bytes, m =>
      match choice, m.blocks header with
      | none, _ => some (none, m)
      | some (header', capacity), some old =>
          if (header' = header ∨ (m.blocks header').isNone) ∧ bytes.toNat ≤ capacity then
            some (some header', (m.setBlock header none).setBlock header'
              (some { old with heap := heap, bytes := capacity }))
          else none
      | some _, none => none
  | heapFree _ header, m =>
      (m.blocks header).map fun _ => ((), m.setBlock header none)
  | readHeader header, m => (m.blocks header).map fun block => (block.header, m)
  | writeHeader header value, m =>
      (m.blocks header).map fun block =>
        ((), m.setBlock header (some { block with header := value }))
  | copyPayload target source bytes, m =>
      match m.blocks target, m.blocks source with
      | some new, some old =>
          some ((), m.setBlock target (some { new with
            payload := fun i => if i < bytes.toNat then old.payload i else new.payload i }))
      | _, _ => none
  | zeroPayload header bytes, m =>
      (m.blocks header).map fun block =>
        ((), m.setBlock header (some { block with
          payload := fun i => if i < bytes.toNat then 0 else block.payload i }))

/-- What an answer of the heap makes of an action is something that the action may do: one case for
each action. -/
lemma AllocatorAction.exec_of_answer {choice : HeapChoice} {action : AllocatorAction w}
    {m m' : AllocatorMemory w} {r : action.Result} (h : action.answer choice m = some (r, m')) :
    action.exec m r m' := by
  cases action with
  | nextAttempt =>
      cases h
      exact ⟨rfl, rfl⟩
  | snapshot _ =>
      cases h
      exact ⟨rfl, rfl⟩
  | printk _ =>
      cases h
      rfl
  | metricsAdd _ _ _ =>
      cases h
      rfl
  | metricsReplace _ _ _ _ _ =>
      cases h
      rfl
  | metricsRemove _ _ =>
      obtain ⟨block, hblock, heq⟩ := Option.map_eq_some_iff.mp h
      cases heq
      exact ⟨block, hblock, rfl⟩
  | heapAlloc heap bytes =>
      simp only [answer] at h
      split at h
      · cases h
        exact .inl ⟨rfl, rfl⟩
      · split at h
        case isTrue hfits =>
            cases h
            exact .inr ⟨_, _, rfl, Option.isNone_iff_eq_none.mp hfits.1, rfl, hfits.2, rfl⟩
        case isFalse => cases h
  | heapRealloc heap header bytes =>
      simp only [answer] at h
      split at h
      · cases h
        exact .inl ⟨rfl, rfl⟩
      · rename_i hold
        split at h
        case isTrue hfits =>
            cases h
            refine .inr ⟨_, _, { heap := heap, bytes := _, header := _, payload := _ }, rfl,
              hold, ?_,
              rfl, hfits.2, ⟨fun _ => rfl, fun _ _ => rfl⟩, rfl⟩
            exact hfits.1.imp_right Option.isNone_iff_eq_none.mp
        case isFalse => cases h
      · cases h
  | heapFree _ _ =>
      obtain ⟨block, hblock, heq⟩ := Option.map_eq_some_iff.mp h
      cases heq
      exact ⟨block, hblock, rfl⟩
  | readHeader _ =>
      obtain ⟨block, hblock, heq⟩ := Option.map_eq_some_iff.mp h
      cases heq
      exact ⟨block, hblock, rfl, rfl⟩
  | writeHeader _ _ =>
      obtain ⟨block, hblock, heq⟩ := Option.map_eq_some_iff.mp h
      cases heq
      exact ⟨block, hblock, rfl⟩
  | copyPayload _ _ _ =>
      simp only [answer] at h
      split at h
      · rename_i new old hnew hold
        cases h
        exact ⟨new, old, hnew, hold, rfl⟩
      · cases h
  | zeroPayload _ _ =>
      obtain ⟨block, hblock, heq⟩ := Option.map_eq_some_iff.mp h
      cases heq
      exact ⟨block, hblock, rfl⟩

namespace AllocatorSystem

variable {T : Type} [DecidableEq T]

instance (call : AllocatorCall w) : Decidable call.Fits :=
  match call with
  | .allocate _ _ => inferInstanceAs (Decidable (_ < _))
  | .deallocate _ _ => inferInstanceAs (Decidable True)
  | .reallocate _ _ _ => inferInstanceAs (Decidable (_ < _))
  | .zeroAllocate _ _ _ => inferInstanceAs (Decidable (_ ∨ _))

/-- The caller's side of entering a call. -/
def passed (s : AllocatorShared w) (domain : AllocationDomain) :
    Option ℕ → Option (AllocatorShared w)
  | none => some s
  | some header =>
      if ⟨header, domain, s.memory.recordedSize header⟩ ∈ s.held then
        some { s with held := s.held.erase ⟨header, domain, s.memory.recordedSize header⟩ }
      else none

/-- One step under a given answer of the heap. -/
def scheduled (config : AllocatorConfig) (s : AllocatorSystem T w) :
    AllocatorEvent T w × HeapChoice → Option (AllocatorSystem T w)
  | (.invoke t call, _) =>
      match s.thread t with
      | none =>
          if call.Fits then
            (passed s.shared call.domain call.pointer).map fun shared =>
              ⟨shared, Function.update s.thread t (some (call, call.code config))⟩
          else none
      | some _ => none
  | (.act t, choice) =>
      match s.thread t with
      | some (call, .act action next) =>
          (action.answer choice s.shared.memory).map fun p =>
            ⟨s.shared.after action p.2, Function.update s.thread t (some (call, next p.1))⟩
      | _ => none
  | (.finish t, _) =>
      match s.thread t with
      | some (call, .ret result) =>
          some ⟨s.shared.receive call.domain (call.outcome result),
            Function.update s.thread t none⟩
      | _ => none

/-- A scheduled step is a step of the system: one case for each kind of event. -/
lemma step_of_scheduled {config : AllocatorConfig} {s s' : AllocatorSystem T w}
    {e : AllocatorEvent T w × HeapChoice} (h : s.scheduled config e = some s') :
    Step config s e.1 s' := by
  obtain ⟨e, choice⟩ := e
  cases e with
  | invoke t call =>
      simp only [scheduled] at h
      split at h
      · rename_i hthread
        split at h
        · rename_i hfits
          obtain ⟨shared, hpassed, rfl⟩ := Option.map_eq_some_iff.mp h
          refine Step.invoke hthread hfits ?_
          cases hpointer : call.pointer with
          | none =>
              rw [hpointer] at hpassed
              exact (Option.some.inj hpassed).symm
          | some header =>
              rw [hpointer] at hpassed
              simp only [passed] at hpassed
              split at hpassed
              · rename_i hmem
                exact ⟨_, hmem, (Option.some.inj hpassed).symm⟩
              · cases hpassed
        · cases h
      · cases h
  | act t =>
      simp only [scheduled] at h
      split at h
      · rename_i hthread
        obtain ⟨⟨r, m'⟩, hanswer, rfl⟩ := Option.map_eq_some_iff.mp h
        exact Step.act hthread ⟨m', AllocatorAction.exec_of_answer hanswer, rfl⟩
      · cases h
  | finish t =>
      simp only [scheduled] at h
      split at h
      · rename_i hthread
        cases h
        exact Step.finish hthread
      · cases h

/-- A schedule that can be carried out is a run. -/
theorem run_of_schedule {config : AllocatorConfig} {s s' : AllocatorSystem T w}
    {es : List (AllocatorEvent T w × HeapChoice)}
    (h : Transition.runLabels (scheduled config) s es = some s') :
    Transition.Run (Step config) s (es.map Prod.fst) s' :=
  (Transition.run_of_runLabels h).map step_of_scheduled

end AllocatorSystem

end Ros2Zephyr
