import Mathlib.Algebra.BigOperators.Group.Finset.Basic
import Mathlib.Algebra.BigOperators.Group.Finset.Piecewise
import Mathlib.Algebra.Order.Group.Multiset
import Mathlib.Tactic.Abel
import Ros2Zephyr.Allocator.Threads

/-!
# Who owns which block

Between two actions every allocated block belongs to one party: to a caller, or to the one call
that works on it.  `Own` says what a call in progress owns and how much of it the counters know,
`ownSpec` says what each action asks of the owner and makes of it, and `Owned` is the invariant:
the owners are apart from each other, their headers say what they should, and the ledger is the
callers' blocks together with those of the calls in progress.

* `Owned.frame` — an action that touches only what its thread owns, or takes fresh blocks, keeps
  everybody else's part.
* `code_wp` — the code of every call respects ownership and hands back what it owes.
-/

namespace Ros2Zephyr

variable {w : ℕ}

/-- What a call in progress owns. -/
inductive Own (w : ℕ)
  | nothing
  /-- A block the counters do not know; `written` is the size in its header, once written. -/
  | raw (header : ℕ) (written : Option (SizeT w))
  /-- A block as the counters know it, with its size in the header. -/
  | live (block : LiveBlock w)
  /-- The counters still know `old`, which may already be freed; its successor is at `new`. -/
  | moving (old : LiveBlock w) (freed : Bool) (new : ℕ)
  /-- The counters know the new size, the header does not say it yet. -/
  | resized (block : LiveBlock w)

namespace Own

def addresses : Own w → Finset ℕ
  | nothing => ∅
  | raw header _ => {header}
  | live block => {block.header}
  | moving _ true new => {new}
  | moving old false new => {old.header, new}
  | resized block => {block.header}

/-- What the counters know of it. -/
def accounted : Own w → Multiset (LiveBlock w)
  | nothing => 0
  | raw _ _ => 0
  | live block => {block}
  | moving old _ _ => {old}
  | resized block => {block}

/-- The blocks are allocated and their headers say what they should. -/
def Valid (blocks : ℕ → Option (HeapBlock w)) : Own w → Prop
  | nothing => True
  | raw header written =>
      ∃ block, blocks header = some block ∧ ∀ size ∈ written, block.header.size = size
  | live b => ∃ block, blocks b.header = some block ∧ block.header.size = b.size
  | moving _ true new => ∃ block, blocks new = some block
  | moving old false new =>
      new ≠ old.header ∧ (∃ block, blocks old.header = some block) ∧
        ∃ block, blocks new = some block
  | resized b => ∃ block, blocks b.header = some block

/-- What is owned is allocated. -/
lemma Valid.allocated {blocks : ℕ → Option (HeapBlock w)} {own : Own w} (h : own.Valid blocks)
    {a : ℕ} (ha : a ∈ own.addresses) : blocks a ≠ none := by
  cases own with
  | nothing => simp [addresses] at ha
  | raw header written =>
      obtain ⟨block, hblock, -⟩ := h
      simp_all [addresses]
  | live b =>
      obtain ⟨block, hblock, -⟩ := h
      simp_all [addresses]
  | moving old freed new =>
      cases freed with
      | true =>
          obtain ⟨block, hblock⟩ := h
          simp_all [addresses]
      | false =>
          obtain ⟨-, ⟨block, hblock⟩, block', hblock'⟩ := h
          simp only [addresses, Finset.mem_insert, Finset.mem_singleton] at ha
          rcases ha with rfl | rfl <;> simp_all
  | resized b =>
      obtain ⟨block, hblock⟩ := h
      simp_all [addresses]

/-- What is owned depends on the memory only at its own addresses. -/
lemma Valid.congr {blocks blocks' : ℕ → Option (HeapBlock w)} {own : Own w}
    (h : own.Valid blocks) (hsame : ∀ a ∈ own.addresses, blocks' a = blocks a) :
    own.Valid blocks' := by
  cases own with
  | nothing => trivial
  | raw header written => simpa [Valid, hsame header (by simp [addresses])] using h
  | live b => simpa [Valid, hsame b.header (by simp [addresses])] using h
  | moving old freed new =>
      cases freed with
      | true => simpa [Valid, hsame new (by simp [addresses])] using h
      | false =>
          simpa [Valid, hsame new (by simp [addresses]), hsame old.header (by simp [addresses])]
            using h
  | resized b => simpa [Valid, hsame b.header (by simp [addresses])] using h

end Own

section Spec

open AllocatorAction

/-- What an action asks of the call that performs it on behalf of `domain`, and what the call owns
after it. -/
def ownSpec (domain : AllocationDomain) : (action : AllocatorAction w) → Own w →
    (action.Result → Own w → Prop) → Prop
  | nextAttempt, own, Q => ∀ attempt, Q attempt own
  | snapshot _, own, Q => ∀ metrics, Q metrics own
  | printk _, own, Q => Q () own
  | metricsAdd domain' header size, own, Q =>
      domain' = domain ∧ own = .raw header (some size) ∧ Q () (.live ⟨header, domain, size⟩)
  | metricsRemove domain' header, own, Q =>
      ∃ size, domain' = domain ∧ own = .live ⟨header, domain, size⟩ ∧ Q () (.raw header none)
  | metricsReplace domain' oldHeader oldSize newHeader size, own, Q =>
      domain' = domain ∧ own = .moving ⟨oldHeader, domain, oldSize⟩ true newHeader ∧
        Q () (.resized ⟨newHeader, domain, size⟩)
  | heapAlloc _ _, own, Q =>
      Q none own ∧
        (own = .nothing ∧ (∀ header, Q (some header) (.raw header none)) ∨
        ∃ old, own = .live old ∧ ∀ header, Q (some header) (.moving old false header))
  | heapRealloc _ header _, own, Q =>
      Q none own ∧
        ∃ old, own = .live old ∧ old.header = header ∧
          ∀ header', Q (some header') (.moving old true header')
  | heapFree _ header, own, Q =>
      (∃ written, own = .raw header written ∧ Q () .nothing) ∨
        ∃ old new, own = .moving old false new ∧ old.header = header ∧
          Q () (.moving old true new)
  | readHeader header, own, Q =>
      (∃ written, own = .raw header written ∧ ∀ value, Q value own) ∨
        ∃ b, own = .live b ∧ b.header = header ∧
          ∀ value : AllocationHeader w, value.size = b.size → Q value own
  | writeHeader header value, own, Q =>
      (∃ written, own = .raw header written ∧ Q () (.raw header (some value.size))) ∨
        ∃ b, own = .resized b ∧ b.header = header ∧ b.size = value.size ∧ Q () (.live b)
  | copyPayload target source _, own, Q =>
      ∃ old, own = .moving old false target ∧ old.header = source ∧ Q () own
  | zeroPayload header _, own, Q => ∃ b, own = .live b ∧ b.header = header ∧ Q () own

end Spec

/-! ## The code respects ownership

The code is followed once, against `ownSpec`, without a word about the memory or the other threads.
What an action really does is compared with `ownSpec` further down.
-/

section Code

variable (config : AllocatorConfig) {domain : AllocationDomain} {own : Own w}

lemma wp_injectAllocationFailure {Q : Bool → Own w → Prop} (hQ : ∀ injected, Q injected own) :
    Prog.wp (ownSpec domain) (injectAllocationFailure config domain) Q own := by
  unfold injectAllocationFailure
  split
  · intro attempt
    exact hQ _
  · exact hQ false

/-- A failed request ends by reporting and returning `NULL`. -/
lemma wp_reportAllocationFailure {size : SizeT w} {Q : Option ℕ → Own w → Prop}
    (hQ : Q none own) :
    Prog.wp (ownSpec domain) (do reportAllocationFailure domain size; pure none) Q own :=
  fun _ => hQ

lemma wp_allocate {size : SizeT w} {Q : Option ℕ → Own w → Prop} (hfail : Q none .nothing)
    (hok : ∀ header, Q (some header) (.live ⟨header, domain, size⟩)) :
    Prog.wp (ownSpec domain) (ros2ZephyrAllocate config size domain) Q .nothing := by
  unfold ros2ZephyrAllocate
  rw [Prog.wp_bind]
  refine wp_injectAllocationFailure config fun injected => ?_
  cases injected with
  | true => exact wp_reportAllocationFailure hfail
  | false =>
      rw [if_neg Bool.false_ne_true]
      refine ⟨wp_reportAllocationFailure hfail, .inl ⟨rfl, fun header => ?_⟩⟩
      exact .inl ⟨none, rfl, rfl, rfl, hok header⟩

lemma wp_deallocate {header : ℕ} {size : SizeT w} {Q : Unit → Own w → Prop}
    (hok : Q () .nothing) :
    Prog.wp (ownSpec domain) (ros2ZephyrDeallocate config (some header) domain) Q
      (.live ⟨header, domain, size⟩) :=
  ⟨size, rfl, rfl, .inl ⟨none, rfl, fun _ => .inl ⟨none, rfl, hok⟩⟩⟩

lemma wp_requestReallocation (old : LiveBlock w) {oldPool newPool : UInt32} {bytes : SizeT w}
    {Q : Option ℕ → Own w → Prop} (hfail : Q none (.live old))
    (hok : ∀ header, Q (some header) (.moving old (decide (oldPool = newPool)) header)) :
    Prog.wp (ownSpec domain) (requestReallocation config old.header oldPool newPool bytes) Q
      (.live old) := by
  unfold requestReallocation
  by_cases hpool : oldPool = newPool
  · rw [if_pos hpool]
    rw [decide_eq_true hpool] at hok
    exact ⟨hfail, old, rfl, rfl, hok⟩
  · rw [if_neg hpool]
    rw [decide_eq_false hpool] at hok
    exact ⟨hfail, .inr ⟨old, rfl, hok⟩⟩

/-- Whether the heap resized the block or a second one was requested, the old one is gone after
this. -/
lemma wp_moveAcrossPools (old : LiveBlock w) {newHeader : ℕ} {value : AllocationHeader w}
    {newPool : UInt32} {size : SizeT w} {Q : Unit → Own w → Prop}
    (hok : Q () (.moving old true newHeader)) :
    Prog.wp (ownSpec domain) (moveAcrossPools config old.header newHeader value newPool size) Q
      (.moving old (decide (value.pool = newPool)) newHeader) := by
  unfold moveAcrossPools
  by_cases hpool : value.pool = newPool
  · rw [if_pos hpool, decide_eq_true hpool]
    exact hok
  · rw [if_neg hpool, decide_eq_false hpool]
    exact ⟨old, rfl, rfl, .inr ⟨old, newHeader, rfl, rfl, hok⟩⟩

/-- A reallocation ends with the old block or with the new one, never with both: between the heap
call and the section it is `moving`. -/
lemma wp_reallocate {header : ℕ} {oldSize size : SizeT w} {Q : Option ℕ → Own w → Prop}
    (hfail : Q none (.live ⟨header, domain, oldSize⟩))
    (hok : ∀ header', Q (some header') (.live ⟨header', domain, size⟩)) :
    Prog.wp (ownSpec domain) (ros2ZephyrReallocate config (some header) size domain) Q
      (.live ⟨header, domain, oldSize⟩) := by
  unfold ros2ZephyrReallocate
  show Prog.wp _ (injectAllocationFailure config domain >>= _) Q _
  rw [Prog.wp_bind]
  refine wp_injectAllocationFailure config fun injected => ?_
  cases injected with
  | true => exact wp_reportAllocationFailure hfail
  | false =>
      rw [if_neg Bool.false_ne_true]
      refine .inr ⟨_, rfl, rfl, fun value hvalue => ?_⟩
      show Prog.wp _ (requestReallocation config header value.pool _ _ >>= _) Q _
      rw [Prog.wp_bind]
      refine wp_requestReallocation config ⟨header, domain, oldSize⟩ ?_ fun header' => ?_
      · exact wp_reportAllocationFailure hfail
      · rw [Prog.wp_bind]
        refine wp_moveAcrossPools config ⟨header, domain, oldSize⟩ ?_
        -- the section names the old block by the size read from its header
        refine ⟨rfl, ?_, .inr ⟨⟨header', domain, size⟩, rfl, rfl, rfl, hok header'⟩⟩
        rw [hvalue]

lemma wp_zeroAllocate {count size : SizeT w} {Q : Option ℕ → Own w → Prop}
    (hfail : Q none .nothing)
    (hok : ∀ header, Q (some header) (.live ⟨header, domain, count * size⟩)) :
    Prog.wp (ownSpec domain) (ros2ZephyrZeroAllocate config count size domain) Q .nothing := by
  unfold ros2ZephyrZeroAllocate
  split
  · exact hfail
  · rw [Prog.wp_bind]
    exact wp_allocate config hfail fun header => ⟨_, rfl, rfl, hok header⟩

/-- To own exactly the block that a caller of `domain` passes or receives. -/
def OwnsBlock (domain : AllocationDomain) : Option ℕ → Own w → Prop
  | none, own => own = .nothing
  | some header, own => ∃ size, own = .live ⟨header, domain, size⟩

/-- **The code respects ownership.**  Every call, entered with the block it was passed, only ever
acts on what it owns and returns with the block its caller has then. -/
theorem code_wp (call : AllocatorCall w) (henter : OwnsBlock call.domain call.pointer own) :
    Prog.wp (ownSpec call.domain) (call.code config)
      (fun result => OwnsBlock call.domain (call.outcome result)) own := by
  cases call with
  | allocate size domain =>
      obtain rfl := henter
      exact wp_allocate config rfl fun header => ⟨size, rfl⟩
  | deallocate pointer domain =>
      simp only [AllocatorCall.code, Prog.wp_bind]
      cases pointer with
      | none => exact henter
      | some header =>
          obtain ⟨size, rfl⟩ := henter
          exact wp_deallocate config rfl
  | reallocate pointer size domain =>
      cases pointer with
      | none =>
          obtain rfl := henter
          exact wp_allocate config rfl fun header => ⟨size, rfl⟩
      | some header =>
          obtain ⟨oldSize, rfl⟩ := henter
          exact wp_reallocate config ⟨oldSize, rfl⟩ fun header' => ⟨size, rfl⟩
  | zeroAllocate count size domain =>
      obtain rfl := henter
      exact wp_zeroAllocate config rfl fun header => ⟨count * size, rfl⟩

end Code

/-! ## The invariant

The parts of the threads are disjoint, and apart from what the callers hold.  `Owned.frame` says
what an action may do without breaking this; the lemmas behind it are its cases.
-/

section Invariant

variable {T : Type} [Fintype T]

/-- Who owns what, in a state between two actions. -/
structure Owned (s : AllocatorShared w) (ghosts : T → Own w) : Prop where
  valid : ∀ t, (ghosts t).Valid s.memory.blocks
  apart : ∀ t t', t ≠ t' → Disjoint (ghosts t).addresses (ghosts t').addresses
  heldValid : ∀ b ∈ s.held, (Own.live b).Valid s.memory.blocks
  heldApart : ∀ b ∈ s.held, ∀ t, b.header ∉ (ghosts t).addresses
  heldOnce : ∀ b ∈ s.held, ∀ b' ∈ s.held, b.header = b'.header → b = b'
  ledger : s.ledger = s.held.val + ∑ t, (ghosts t).accounted

variable [DecidableEq T]

lemma sum_accounted_update (ghosts : T → Own w) (t : T) (g : Own w) :
    ∑ t', (Function.update ghosts t g t').accounted =
      g.accounted + ∑ t' ∈ Finset.univ \ {t}, (ghosts t').accounted := by
  have h : (fun t' => (Function.update ghosts t g t').accounted) =
      Function.update (fun t' => (ghosts t').accounted) t g.accounted := by
    funext t'
    by_cases ht : t' = t
    · subst ht
      simp
    · simp [ht]
  rw [h, Finset.sum_update_of_mem (Finset.mem_univ t)]

lemma sum_accounted_split (ghosts : T → Own w) (t : T) :
    ∑ t', (ghosts t').accounted =
      (ghosts t).accounted + ∑ t' ∈ Finset.univ \ {t}, (ghosts t').accounted := by
  simpa using sum_accounted_update ghosts t (ghosts t)

lemma Owned.mem_ledger {s : AllocatorShared w} {ghosts : T → Own w} (h : Owned s ghosts)
    {t : T} {b : LiveBlock w} (hb : b ∈ (ghosts t).accounted) : b ∈ s.ledger := by
  rw [h.ledger, sum_accounted_split ghosts t]
  exact Multiset.mem_add.mpr (.inr (Multiset.mem_add.mpr (.inl hb)))

/-- What a thread comes to own keeps apart from the others' parts. -/
lemma Owned.apart_update {s : AllocatorShared w} {ghosts : T → Own w} {t : T} {own : Own w}
    (h : Owned s ghosts) (hnew : ∀ t', t' ≠ t → Disjoint own.addresses (ghosts t').addresses) :
    ∀ t₁ t₂, t₁ ≠ t₂ → Disjoint (Function.update ghosts t own t₁).addresses
      (Function.update ghosts t own t₂).addresses :=
  pairwise_threads_update (r := fun own₁ own₂ : Own w => Disjoint own₁.addresses own₂.addresses)
    (fun hdisjoint => hdisjoint.symm) h.apart hnew

/-- **The frame rule.**  If the memory changes only where the thread owns or comes to own, and
what it comes to own was free, everybody else's part stands. -/
theorem Owned.frame {s : AllocatorShared w} {ghosts : T → Own w} (h : Owned s ghosts)
    (t : T) {action : AllocatorAction w} {m' : AllocatorMemory w} (own : Own w)
    (kept : Multiset (LiveBlock w))
    (hsame : ∀ a, a ∉ (ghosts t).addresses → a ∉ own.addresses →
      m'.blocks a = s.memory.blocks a)
    (hfresh : ∀ a ∈ own.addresses, a ∈ (ghosts t).addresses ∨ s.memory.blocks a = none)
    (hvalid : own.Valid m'.blocks)
    (hbefore : (ghosts t).accounted = asMultiset (action.removed s.memory) + kept)
    (hafter : own.accounted = kept + asMultiset action.added) :
    Owned (s.after action m') (Function.update ghosts t own) := by
  -- a block that somebody else has is neither owned by the thread nor fresh
  have hother : ∀ a, a ∉ (ghosts t).addresses → s.memory.blocks a ≠ none →
      a ∉ own.addresses := by
    intro a hnot halloc hmem
    rcases hfresh a hmem with hown | hnone
    · exact hnot hown
    · exact halloc hnone
  have hthread : ∀ t' ≠ t, ∀ a ∈ (ghosts t').addresses,
      a ∉ (ghosts t).addresses ∧ a ∉ own.addresses := by
    intro t' ht' a ha
    have hnot : a ∉ (ghosts t).addresses :=
      Finset.disjoint_left.mp (h.apart t' t ht') ha
    exact ⟨hnot, hother a hnot ((h.valid t').allocated ha)⟩
  have hheld : ∀ b ∈ s.held, b.header ∉ (ghosts t).addresses ∧ b.header ∉ own.addresses := by
    intro b hb
    have hnot := h.heldApart b hb t
    exact ⟨hnot, hother _ hnot ((h.heldValid b hb).allocated (by simp [Own.addresses]))⟩
  refine ⟨?_, ?_, ?_, ?_, h.heldOnce, ?_⟩
  · refine (Function.forall_update_iff ghosts fun _ own => own.Valid m'.blocks).mpr
      ⟨hvalid, fun t' ht' => ?_⟩
    refine (h.valid t').congr fun a ha => ?_
    obtain ⟨h₁, h₂⟩ := hthread t' ht' a ha
    exact hsame a h₁ h₂
  · exact h.apart_update fun t' ht' =>
      Finset.disjoint_right.mpr fun a ha => (hthread t' ht' a ha).2
  · intro b hb
    refine (h.heldValid b hb).congr fun a ha => ?_
    simp only [Own.addresses, Finset.mem_singleton] at ha
    subst ha
    obtain ⟨h₁, h₂⟩ := hheld b hb
    exact hsame _ h₁ h₂
  · intro b hb
    exact (Function.forall_update_iff ghosts fun _ own => b.header ∉ own.addresses).mpr
      ⟨(hheld b hb).2, fun t' _ => h.heldApart b hb t'⟩
  · show s.ledger - asMultiset (action.removed s.memory) + asMultiset action.added = _
    rw [sum_accounted_update, h.ledger, sum_accounted_split ghosts t, hbefore, hafter]
    show s.held.val + (asMultiset (action.removed s.memory) + kept + _) -
      asMultiset (action.removed s.memory) + _ = _
    rw [add_assoc (asMultiset (action.removed s.memory)), add_left_comm, add_tsub_cancel_left]
    show _ = s.held.val + (kept + asMultiset action.added + _)
    abel

section Actions

variable {s : AllocatorShared w} {ghosts : T → Own w} {t : T} {m' : AllocatorMemory w}
variable {action : AllocatorAction w}

/-- The blocks stay as they are; only what the counters know of them changes. -/
lemma Owned.relabel (h : Owned s ghosts) (own : Own w) (kept : Multiset (LiveBlock w))
    (hblocks : m'.blocks = s.memory.blocks)
    (haddresses : own.addresses = (ghosts t).addresses)
    (hvalid : own.Valid s.memory.blocks)
    (hbefore : (ghosts t).accounted = asMultiset (action.removed s.memory) + kept)
    (hafter : own.accounted = kept + asMultiset action.added) :
    Owned (s.after action m') (Function.update ghosts t own) := by
  refine h.frame t own kept ?_ ?_ ?_ hbefore hafter
  · intro a _ _
    rw [hblocks]
  · intro a ha
    exact .inl (haddresses ▸ ha)
  · rw [hblocks]
    exact hvalid

/-- The thread changes or frees blocks of its own. -/
lemma Owned.touch (h : Owned s ghosts) (own : Own w)
    (hsame : ∀ a, a ∉ (ghosts t).addresses → m'.blocks a = s.memory.blocks a)
    (haddresses : own.addresses ⊆ (ghosts t).addresses) (hvalid : own.Valid m'.blocks)
    (hremoved : action.removed s.memory = none) (hadded : action.added = none)
    (haccounted : (ghosts t).accounted = own.accounted) :
    Owned (s.after action m') (Function.update ghosts t own) := by
  refine h.frame t own own.accounted (fun a ha _ => hsame a ha) ?_ hvalid ?_ ?_
  · exact fun a ha => .inl (haddresses ha)
  · rw [hremoved, haccounted]
    exact (zero_add _).symm
  · rw [hadded]
    exact (add_zero _).symm

/-- The thread takes a fresh block, next to what it has. -/
lemma Owned.take (h : Owned s ghosts) {heap : HeapPool} {bytes : SizeT w} {header : ℕ}
    {block : HeapBlock w} (own : Own w) (hfree : s.memory.blocks header = none)
    (haddresses : own.addresses = (ghosts t).addresses ∪ {header})
    (hvalid : own.Valid (s.memory.setBlock header (some block)).blocks)
    (haccounted : (ghosts t).accounted = own.accounted) :
    Owned (s.after (.heapAlloc heap bytes) (s.memory.setBlock header (some block)))
      (Function.update ghosts t own) := by
  refine h.frame t own own.accounted ?_ ?_ hvalid ?_ ?_
  · intro a _ ha
    refine s.memory.setBlock_of_ne _ ?_
    rintro rfl
    exact ha (by simp [haddresses])
  · intro a ha
    rw [haddresses, Finset.mem_union, Finset.mem_singleton] at ha
    rcases ha with ha | rfl
    · exact .inl ha
    · exact .inr hfree
  · rw [haccounted]
    exact (zero_add _).symm
  · exact (add_zero _).symm

/-- `realloc` turns the thread's block into one that is in the same place or was free. -/
lemma Owned.resize (h : Owned s ghosts) {heap : HeapPool} {bytes : SizeT w} {old : LiveBlock w}
    {header' : ℕ} {block : HeapBlock w} (hown : (ghosts t) = .live old)
    (hplace : header' = old.header ∨ s.memory.blocks header' = none) :
    Owned (s.after (.heapRealloc heap old.header bytes)
        ((s.memory.setBlock old.header none).setBlock header' (some block)))
      (Function.update ghosts t (.moving old true header')) := by
  refine h.frame t (.moving old true header') {old} ?_ ?_ ?_ ?_ ?_
  · intro a hold hnew
    simp only [hown, Own.addresses, Finset.mem_singleton] at hold hnew
    rw [AllocatorMemory.setBlock_of_ne _ _ hnew, AllocatorMemory.setBlock_of_ne _ _ hold]
  · intro a ha
    simp only [hown, Own.addresses, Finset.mem_singleton] at ha ⊢
    subst ha
    exact hplace
  · exact ⟨block, AllocatorMemory.setBlock_self _ _ _⟩
  · rw [hown]
    rfl
  · rfl

/-- An action that leaves the blocks and the ledger alone. -/
lemma Owned.unchanged (h : Owned s ghosts) (hblocks : m'.blocks = s.memory.blocks)
    (hremoved : action.removed s.memory = none) (hadded : action.added = none) :
    Owned (s.after action m') (Function.update ghosts t (ghosts t)) :=
  h.touch (ghosts t) (fun a _ => by rw [hblocks]) subset_rfl (hblocks ▸ h.valid t) hremoved
    hadded rfl

/-- The freed block is one the thread has and lets go. -/
lemma Owned.free (h : Owned s ghosts) {heap : HeapPool} {header : ℕ} (own : Own w)
    (hmem : header ∈ (ghosts t).addresses)
    (haddresses : own.addresses ⊆ (ghosts t).addresses)
    (hvalid : own.Valid (s.memory.setBlock header none).blocks)
    (haccounted : (ghosts t).accounted = own.accounted) :
    Owned (s.after (.heapFree heap header) (s.memory.setBlock header none))
      (Function.update ghosts t own) := by
  refine h.touch own ?_ haddresses hvalid rfl rfl haccounted
  intro a ha
  refine s.memory.setBlock_of_ne _ ?_
  rintro rfl
  exact ha hmem

/-- The thread writes into a block it has. -/
lemma Owned.write (h : Owned s ghosts) {header : ℕ} {block : HeapBlock w} (own : Own w)
    (hmem : header ∈ (ghosts t).addresses)
    (haddresses : own.addresses ⊆ (ghosts t).addresses)
    (hvalid : own.Valid (s.memory.setBlock header (some block)).blocks)
    (hremoved : action.removed s.memory = none) (hadded : action.added = none)
    (haccounted : (ghosts t).accounted = own.accounted) :
    Owned (s.after action (s.memory.setBlock header (some block)))
      (Function.update ghosts t own) := by
  refine h.touch own ?_ haddresses hvalid hremoved hadded haccounted
  intro a ha
  refine s.memory.setBlock_of_ne _ ?_
  rintro rfl
  exact ha hmem

end Actions

/-! ## One action of a call

For each action the specification leaves a few shapes of what its call may own, and each of them is
one of the cases above.
-/

section Steps

open AllocatorAction

variable {s : AllocatorShared w} {ghosts : T → Own w} {t : T} {m' : AllocatorMemory w}
variable {domain : AllocationDomain}

/-- What an action makes of its owner, `Q` being what the call goes on to need. -/
def Owned.Steps (s : AllocatorShared w) (ghosts : T → Own w) (t : T) (action : AllocatorAction w)
    (r : action.Result) (m' : AllocatorMemory w) (Q : action.Result → Own w → Prop) : Prop :=
  ∃ own, Q r own ∧ Owned (s.after action m') (Function.update ghosts t own)

lemma Owned.metricsAdd (h : Owned s ghosts) {domain' : AllocationDomain} {header : ℕ}
    {size : SizeT w} {Q : Unit → Own w → Prop}
    (hspec : ownSpec domain (metricsAdd domain' header size) (ghosts t) Q)
    (hexec : (AllocatorAction.metricsAdd domain' header size).exec s.memory () m') :
    Owned.Steps s ghosts t (.metricsAdd domain' header size) () m' Q := by
  have hvalid := h.valid t
  obtain ⟨rfl, hown, hQ⟩ := hspec
  obtain rfl := hexec
  rw [hown] at hvalid
  obtain ⟨block, hblock, hsize⟩ := hvalid
  exact ⟨_, hQ, h.relabel _ 0 rfl (by rw [hown]; rfl) ⟨block, hblock, hsize size rfl⟩
    (by rw [hown]; rfl) (zero_add _).symm⟩

/-- The block leaves the counters; the memory is still the call's, which frees it next. -/
lemma Owned.metricsRemove (h : Owned s ghosts) {domain' : AllocationDomain} {header : ℕ}
    {r : (AllocatorAction.metricsRemove (w := w) domain' header).Result}
    {Q : (AllocatorAction.metricsRemove (w := w) domain' header).Result → Own w → Prop}
    (hspec : ownSpec domain (metricsRemove domain' header) (ghosts t) Q)
    (hexec : (AllocatorAction.metricsRemove domain' header).exec s.memory r m') :
    Owned.Steps s ghosts t (.metricsRemove domain' header) r m' Q := by
  have hvalid := h.valid t
  obtain ⟨size, rfl, hown, hQ⟩ := hspec
  obtain ⟨block, hblock, rfl⟩ := hexec
  rw [hown] at hvalid
  obtain ⟨block', hblock', hsize⟩ := hvalid
  refine ⟨_, hQ, h.relabel _ 0 rfl (by rw [hown]; rfl) ⟨block', hblock', by simp⟩ ?_ rfl⟩
  have hrecorded : s.memory.recordedSize header = size := by
    simp only [AllocatorMemory.recordedSize, hblock']
    exact hsize
  simp only [hown, AllocatorAction.removed, hrecorded]
  rfl

/-- A fresh block is the first of its call, or the successor of the one it has. -/
lemma Owned.heapAlloc (h : Owned s ghosts) {heap : HeapPool} {bytes : SizeT w} {r : Option ℕ}
    {Q : Option ℕ → Own w → Prop}
    (hspec : ownSpec domain (heapAlloc heap bytes) (ghosts t) Q)
    (hexec : (AllocatorAction.heapAlloc heap bytes).exec s.memory r m') :
    Owned.Steps s ghosts t (.heapAlloc heap bytes) r m' Q := by
  have hvalid := h.valid t
  obtain ⟨hnone, hsome⟩ := hspec
  rcases hexec with ⟨rfl, rfl⟩ | ⟨header, block, rfl, hfree, -, -, rfl⟩
  · exact ⟨ghosts t, hnone, h.unchanged rfl rfl rfl⟩
  · rcases hsome with ⟨hown, hQ⟩ | ⟨old, hown, hQ⟩
    · refine ⟨_, hQ header, h.take _ hfree ?_ ⟨block, ?_, by simp⟩ ?_⟩
      · simp [hown, Own.addresses]
      · exact AllocatorMemory.setBlock_self _ _ _
      · rw [hown]
        rfl
    · rw [hown] at hvalid
      obtain ⟨oldBlock, hold, -⟩ := hvalid
      have hne : header ≠ old.header := by
        rintro rfl
        rw [hfree] at hold
        cases hold
      refine ⟨_, hQ header, h.take _ hfree ?_ ⟨hne, ⟨oldBlock, ?_⟩, block, ?_⟩ ?_⟩
      · rw [hown]
        rfl
      · rw [AllocatorMemory.setBlock_of_ne _ _ (Ne.symm hne)]
        exact hold
      · exact AllocatorMemory.setBlock_self _ _ _
      · rw [hown]
        rfl

/-- A block is freed at the end of its call, or when its successor is there. -/
lemma Owned.heapFree (h : Owned s ghosts) {heap : HeapPool} {header : ℕ}
    {Q : Unit → Own w → Prop}
    (hspec : ownSpec domain (heapFree heap header) (ghosts t) Q)
    (hexec : (AllocatorAction.heapFree heap header).exec s.memory () m') :
    Owned.Steps s ghosts t (.heapFree heap header) () m' Q := by
  have hvalid := h.valid t
  obtain ⟨block, -, rfl⟩ := hexec
  rcases hspec with ⟨written, hown, hQ⟩ | ⟨old, new, hown, rfl, hQ⟩
  · refine ⟨_, hQ, h.free _ ?_ ?_ trivial ?_⟩
    · simp [hown, Own.addresses]
    · exact Finset.empty_subset _
    · rw [hown]
      rfl
  · rw [hown] at hvalid
    obtain ⟨hne, -, newBlock, hnew⟩ := hvalid
    refine ⟨_, hQ, h.free _ ?_ ?_ ⟨newBlock, ?_⟩ ?_⟩
    · simp [hown, Own.addresses]
    · simp [hown, Own.addresses]
    · rw [AllocatorMemory.setBlock_of_ne _ _ hne]
      exact hnew
    · rw [hown]
      rfl

/-- Reading tells the call what its own header says. -/
lemma Owned.readHeader (h : Owned s ghosts) {header : ℕ} {r : AllocationHeader w}
    {Q : AllocationHeader w → Own w → Prop}
    (hspec : ownSpec domain (readHeader header) (ghosts t) Q)
    (hexec : (AllocatorAction.readHeader header).exec s.memory r m') :
    Owned.Steps s ghosts t (.readHeader header) r m' Q := by
  have hvalid := h.valid t
  obtain ⟨block, hblock, rfl, rfl⟩ := hexec
  refine ⟨ghosts t, ?_, h.unchanged rfl rfl rfl⟩
  rcases hspec with ⟨written, hown, hQ⟩ | ⟨b, hown, rfl, hQ⟩
  · exact hQ _
  · rw [hown] at hvalid
    obtain ⟨block', hblock', hsize⟩ := hvalid
    rw [hblock, Option.some.injEq] at hblock'
    subst hblock'
    exact hQ _ hsize

/-- The call writes the header of a block that it has, a new one or the successor of the old one. -/
lemma Owned.writeHeader (h : Owned s ghosts) {header : ℕ} {value : AllocationHeader w}
    {Q : Unit → Own w → Prop}
    (hspec : ownSpec domain (writeHeader header value) (ghosts t) Q)
    (hexec : (AllocatorAction.writeHeader header value).exec s.memory () m') :
    Owned.Steps s ghosts t (.writeHeader header value) () m' Q := by
  obtain ⟨block, hblock, rfl⟩ := hexec
  rcases hspec with ⟨written, hown, hQ⟩ | ⟨b, hown, rfl, hsize, hQ⟩
  · refine ⟨_, hQ, h.write _ ?_ ?_ ⟨_, AllocatorMemory.setBlock_self _ _ _, by simp⟩ rfl rfl ?_⟩
    · simp [hown, Own.addresses]
    · simp [hown, Own.addresses]
    · rw [hown]
      rfl
  · refine ⟨_, hQ, h.write _ ?_ ?_ ⟨_, AllocatorMemory.setBlock_self _ _ _, hsize.symm⟩ rfl rfl
      ?_⟩
    · simp [hown, Own.addresses]
    · simp [hown, Own.addresses]
    · rw [hown]
      rfl

/-- Copying into the successor leaves all headers alone. -/
lemma Owned.copyPayload (h : Owned s ghosts) {target source : ℕ} {bytes : SizeT w}
    {Q : Unit → Own w → Prop}
    (hspec : ownSpec domain (copyPayload target source bytes) (ghosts t) Q)
    (hexec : (AllocatorAction.copyPayload target source bytes).exec s.memory () m') :
    Owned.Steps s ghosts t (.copyPayload target source bytes) () m' Q := by
  have hvalid := h.valid t
  obtain ⟨old, hown, rfl, hQ⟩ := hspec
  obtain ⟨new, oldBlock, hnew, hold, rfl⟩ := hexec
  rw [hown] at hvalid
  refine ⟨ghosts t, hQ, h.write (ghosts t) ?_ subset_rfl ?_ rfl rfl rfl⟩
  · simp [hown, Own.addresses]
  · rw [hown]
    refine ⟨hvalid.1, ⟨oldBlock, ?_⟩, _, AllocatorMemory.setBlock_self _ _ _⟩
    rw [AllocatorMemory.setBlock_of_ne _ _ (Ne.symm hvalid.1)]
    exact hold

/-- Clearing the payload leaves the header alone. -/
lemma Owned.zeroPayload (h : Owned s ghosts) {header : ℕ} {bytes : SizeT w}
    {Q : Unit → Own w → Prop}
    (hspec : ownSpec domain (zeroPayload header bytes) (ghosts t) Q)
    (hexec : (AllocatorAction.zeroPayload header bytes).exec s.memory () m') :
    Owned.Steps s ghosts t (.zeroPayload header bytes) () m' Q := by
  have hvalid := h.valid t
  obtain ⟨b, hown, rfl, hQ⟩ := hspec
  obtain ⟨block, hblock, rfl⟩ := hexec
  rw [hown] at hvalid
  obtain ⟨block', hblock', hsize⟩ := hvalid
  rw [hblock, Option.some.injEq] at hblock'
  subst hblock'
  refine ⟨ghosts t, hQ, h.write (ghosts t) ?_ subset_rfl ?_ rfl rfl rfl⟩
  · simp [hown, Own.addresses]
  · rw [hown]
    exact ⟨_, AllocatorMemory.setBlock_self _ _ _, hsize⟩

end Steps

/-- **Ownership is kept by every action** that its owner is allowed to perform. -/
theorem ownSpec_sound (domain : AllocationDomain) :
    Sound (AllocatorShared.exec (w := w)) (ownSpec domain) (Owned (T := T)) := by
  rintro s s' ghosts t action r Q h hspec ⟨m', hexec, rfl⟩
  cases action with
  | nextAttempt =>
      obtain ⟨-, rfl⟩ := hexec
      exact ⟨ghosts t, hspec r, h.unchanged rfl rfl rfl⟩
  | snapshot _ =>
      obtain ⟨-, rfl⟩ := hexec
      exact ⟨ghosts t, hspec r, h.unchanged rfl rfl rfl⟩
  | printk text =>
      obtain rfl := hexec
      exact ⟨ghosts t, hspec, h.unchanged rfl rfl rfl⟩
  | metricsAdd _ header size => exact h.metricsAdd hspec hexec
  | metricsRemove _ header => exact h.metricsRemove hspec hexec
  | metricsReplace _ oldHeader oldSize newHeader size =>
      have hvalid := h.valid t
      obtain ⟨rfl, hown, hQ⟩ := hspec
      obtain rfl := hexec
      rw [hown] at hvalid
      exact ⟨_, hQ, h.relabel _ 0 rfl (by rw [hown]; rfl) hvalid (by rw [hown]; rfl)
        (zero_add _).symm⟩
  | heapAlloc heap bytes => exact h.heapAlloc hspec hexec
  | heapRealloc heap header bytes =>
      obtain ⟨hnone, old, hown, rfl, hQ⟩ := hspec
      rcases hexec with ⟨rfl, rfl⟩ | ⟨header', oldBlock, block, rfl, -, hplace, -, -, -, rfl⟩
      · exact ⟨ghosts t, hnone, h.unchanged rfl rfl rfl⟩
      · exact ⟨_, hQ header', h.resize hown hplace⟩
  | heapFree heap header => exact h.heapFree hspec hexec
  | readHeader header => exact h.readHeader hspec hexec
  | writeHeader header value => exact h.writeHeader hspec hexec
  | copyPayload target source bytes => exact h.copyPayload hspec hexec
  | zeroPayload header bytes => exact h.zeroPayload hspec hexec

section Handover

variable {s : AllocatorShared w} {ghosts : T → Own w} {t : T} {b : LiveBlock w}

/-- A caller passes one of its blocks to a call that has nothing yet. -/
lemma Owned.pass (h : Owned s ghosts) (hidle : ghosts t = .nothing) (hb : b ∈ s.held) :
    Owned { s with held := s.held.erase b } (Function.update ghosts t (.live b)) := by
  have hother : ∀ b' ∈ s.held.erase b, b'.header ≠ b.header := by
    intro b' hb' heq
    exact Finset.ne_of_mem_erase hb' (h.heldOnce b' (Finset.mem_of_mem_erase hb') b hb heq)
  refine ⟨?_, ?_, ?_, ?_, ?_, ?_⟩
  · exact (Function.forall_update_iff ghosts fun _ own => own.Valid s.memory.blocks).mpr
      ⟨h.heldValid b hb, fun t' _ => h.valid t'⟩
  · exact h.apart_update fun t' _ => Finset.disjoint_singleton_left.mpr (h.heldApart b hb t')
  · exact fun b' hb' => h.heldValid b' (Finset.mem_of_mem_erase hb')
  · intro b' hb'
    exact (Function.forall_update_iff ghosts fun _ own => b'.header ∉ own.addresses).mpr
      ⟨fun hmem => hother b' hb' (Finset.mem_singleton.mp hmem),
        fun t' _ => h.heldApart b' (Finset.mem_of_mem_erase hb') t'⟩
  · exact fun b₁ h₁ b₂ h₂ =>
      h.heldOnce b₁ (Finset.mem_of_mem_erase h₁) b₂ (Finset.mem_of_mem_erase h₂)
  · show s.ledger = (s.held.erase b).val + _
    rw [sum_accounted_update, h.ledger, sum_accounted_split ghosts t, hidle,
      ← Multiset.cons_erase (Finset.mem_val.mpr hb), Finset.erase_val]
    show b ::ₘ s.held.val.erase b + (0 + _) = s.held.val.erase b + ({b} + _)
    rw [← Multiset.singleton_add b (s.held.val.erase b)]
    abel

/-- A call hands its block over to its caller. -/
lemma Owned.handOver (h : Owned s ghosts) (hown : ghosts t = .live b) :
    Owned { s with held := insert b s.held } (Function.update ghosts t .nothing) := by
  have hmem : b.header ∈ (ghosts t).addresses := by simp [hown, Own.addresses]
  have hother : ∀ b' ∈ s.held, b'.header ≠ b.header := by
    intro b' hb' heq
    exact h.heldApart b' hb' t (heq ▸ hmem)
  have hnot : b ∉ s.held := fun hb => hother b hb rfl
  have hvalid := h.valid t
  rw [hown] at hvalid
  refine ⟨?_, ?_, ?_, ?_, ?_, ?_⟩
  · exact (Function.forall_update_iff ghosts fun _ own => own.Valid s.memory.blocks).mpr
      ⟨trivial, fun t' _ => h.valid t'⟩
  · exact h.apart_update fun _ _ => Finset.disjoint_empty_left _
  · intro b' hb'
    rcases Finset.mem_insert.mp hb' with rfl | hb'
    · exact hvalid
    · exact h.heldValid b' hb'
  · intro b' hb'
    refine (Function.forall_update_iff ghosts fun _ own => b'.header ∉ own.addresses).mpr
      ⟨Finset.notMem_empty _, fun t' ht' => ?_⟩
    rcases Finset.mem_insert.mp hb' with rfl | hb'
    · exact Finset.disjoint_left.mp (h.apart t t' (Ne.symm ht')) hmem
    · exact h.heldApart b' hb' t'
  · intro b₁ h₁ b₂ h₂ heq
    rcases Finset.mem_insert.mp h₁ with rfl | h₁'
    · rcases Finset.mem_insert.mp h₂ with rfl | h₂'
      · rfl
      · exact absurd heq.symm (hother b₂ h₂')
    · rcases Finset.mem_insert.mp h₂ with rfl | h₂'
      · exact absurd heq (hother b₁ h₁')
      · exact h.heldOnce b₁ h₁' b₂ h₂' heq
  · show s.ledger = (insert b s.held).val + _
    rw [sum_accounted_update, h.ledger, sum_accounted_split ghosts t, hown,
      Finset.insert_val_of_notMem hnot]
    show s.held.val + ({b} + _) = b ::ₘ s.held.val + (0 + _)
    rw [← Multiset.singleton_add b s.held.val]
    abel

end Handover

end Invariant

end Ros2Zephyr
