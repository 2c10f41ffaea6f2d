import Ros2Zephyr.WaitSet.Coherence

/-!
# The fast path refines the original `rmw_wait`

Both versions run side by side on the same requests, no DDS call failing.  They wait on the same
calls — those whose request fits (`rmwWait_ok_iff`, `rmwWaitOriginal_ok_iff`) — and on the same
set, although the patched one checks the capacity up front by a subtraction and the original one
attach by attach.  Neither their saved arrays nor their DDS attachments agree in between: after a
rejected call the original has detached and partly attached, the patched one has done nothing.
-/

namespace Ros2Zephyr

variable {E : Type*} [DecidableEq E]

/-! ## When a call waits

The patched version decides up front, the original one by running out of room.  Both conditions are
`WaitRequest.Fits`, which does not depend on what is attached.
-/

/-- With room for all of them and no `NULL` among them, every entry is attached. -/
lemma attachEntries_ok_of_room {α : Type*} (onNull : RmwError) (entity : α → E) :
    ∀ (entries : List (Option α)) (set : WaitSet E), none ∉ entries →
      set.data.attached.length + entries.length ≤ set.data.capacity →
      (attachEntries (fun _ => true) onNull entity entries set).2 = .ok ()
  | [], _, _, _ => rfl
  | none :: rest, _, hnull, _ => absurd List.mem_cons_self hnull
  | some entry :: rest, set, hnull, hroom => by
      simp only [List.length_cons] at hroom
      have hone : ¬ set.data.attached.length ≥ set.data.capacity := by omega
      rw [attachEntries, attachEntity, if_neg hone, if_pos rfl]
      refine attachEntries_ok_of_room onNull entity rest _
        (fun hmem => hnull (List.mem_cons_of_mem _ hmem)) ?_
      simp only [List.length_append, List.length_singleton]
      omega

/-- From an empty set both loops have room: what the first one uses is counted in the second one's
budget. -/
lemma attachRequest_ok_of_fits {onNullSubscription onNullGuard : RmwError}
    {request : WaitRequest E} {set : WaitSet E} (hempty : set.data.attached = [])
    (hfits : request.Fits set.data.capacity) :
    (attachRequest (fun _ => true) onNullSubscription onNullGuard request set).2 = .ok () := by
  obtain ⟨hsubscriptions, hguards, hcount⟩ := hfits
  simp only [WaitRequest.count] at hcount
  have hfirst := attachEntries_ok_of_room onNullSubscription EndpointData.condition
    (request.subscriptions.getD []) set hsubscriptions
    (by rw [hempty, List.length_nil]; omega)
  have hspec := attachEntries_spec (fun _ => true) onNullSubscription EndpointData.condition
    (request.subscriptions.getD []) set
  rw [attachRequest]
  generalize attachEntries (fun _ => true) onNullSubscription EndpointData.condition
    (request.subscriptions.getD []) set = one at hfirst hspec
  obtain ⟨next, result⟩ := one
  simp only at hfirst
  subst hfirst
  have hlength : next.data.attached.length = (request.subscriptions.getD []).length := by
    rw [(hspec.attached rfl).2, hempty, List.nil_append]
    exact length_listEntities EndpointData.condition hsubscriptions
  have hcapacity : next.data.capacity = set.data.capacity := hspec.capacity
  exact attachEntries_ok_of_room onNullGuard id _ next hguards
    (by rw [hlength, hcapacity]; exact hcount)

/-- A coherent wait set after a detach loop in which nothing failed. -/
def WaitSet.emptied (set : WaitSet E) : WaitSet E :=
  { data := { set.data with attached := [] }
    dds := { attached := ∅, calls := set.dds.calls ++ set.data.attached.map .detach } }

/-- With no DDS call failing, only the attach loops are left to consider. -/
lemma replaceAttachments_allOk {onNullSubscription onNullGuard : RmwError} {set : WaitSet E}
    {request : WaitRequest E} (h : Coherent set) :
    replaceAttachments DdsOutcomes.allOk onNullSubscription onNullGuard set request
      = attachRequest (fun _ => true) onNullSubscription onNullGuard request set.emptied := by
  have hdetach : detachAll DdsOutcomes.allOk.detach set = (set.emptied, .ok ()) :=
    detachAll_ok (fun _ _ => rfl) h
  rw [replaceAttachments, hdetach]
  rfl

lemma replaceAttachments_ok_iff {onNullSubscription onNullGuard : RmwError} {set : WaitSet E}
    {request : WaitRequest E} (h : Coherent set) :
    (replaceAttachments DdsOutcomes.allOk onNullSubscription onNullGuard set request).2 = .ok () ↔
      request.Fits set.data.capacity := by
  constructor
  · intro hok
    exact (replaceAttachments_of_ok h hok).1
  · intro hfits
    rw [replaceAttachments_allOk h]
    exact attachRequest_ok_of_fits rfl hfits

lemma rmwWait_ok_iff {set : WaitSet E} (request : WaitRequest E) (h : Coherent set) :
    (rmwWait DdsOutcomes.allOk set request).2 = .ok () ↔ request.Fits set.data.capacity := by
  rcases rmwWait_cases DdsOutcomes.allOk set request with
    ⟨hfits, message, heq⟩ | ⟨hfits, -, heq⟩ | ⟨hfits, -, heq⟩
  · simp [heq, hfits]
  · simp [heq, hfits]
  · rw [heq]
    exact replaceAttachments_ok_iff h

lemma rmwWaitOriginal_ok_iff {set : WaitSet E} (request : WaitRequest E) (h : Coherent set) :
    (rmwWaitOriginal DdsOutcomes.allOk set request).2 = .ok () ↔
      request.Fits set.data.capacity :=
  replaceAttachments_ok_iff h

/-! ## Both versions side by side

The relation between the two is weak on purpose.  Since their sets differ after a refused call,
`PairInv` asks of each only that its own copies agree, and compares the two at the calls that wait.
-/

/-- The patched and the original wait set after the same requests, and the ordered request of the
last call that waited. -/
structure WaitSetPair (E : Type*) where
  patched : WaitSet E
  original : WaitSet E
  previous : Option (List E)

def WaitSetPair.create (capacity : ℕ) : WaitSetPair E :=
  { patched := WaitSet.create capacity, original := WaitSet.create capacity, previous := none }

def WaitSetPair.step (pair : WaitSetPair E) (request : WaitRequest E) : WaitSetPair E :=
  { patched := (rmwWait DdsOutcomes.allOk pair.patched request).1
    original := (rmwWaitOriginal DdsOutcomes.allOk pair.original request).1
    previous :=
      if (rmwWait DdsOutcomes.allOk pair.patched request).2 = .ok () then some request.entities
      else pair.previous }

/-- The pair after a history of requests. -/
def WaitSetPair.after (capacity : ℕ) (history : List (WaitRequest E)) : WaitSetPair E :=
  history.foldl WaitSetPair.step (WaitSetPair.create capacity)

/-- Each version is coherent by itself; the two share only the capacity. -/
structure PairInv (capacity : ℕ) (pair : WaitSetPair E) : Prop where
  patched : Coherent pair.patched
  original : Coherent pair.original
  patchedCapacity : pair.patched.data.capacity = capacity
  originalCapacity : pair.original.data.capacity = capacity
  previous : ∀ entities, pair.previous = some entities → pair.patched.data.attached = entities

/-- Replacing the attachments with no DDS call failing keeps the copies together even when it
stops early. -/
lemma replaceAttachments_coherent (onNullSubscription onNullGuard : RmwError) {set : WaitSet E}
    (request : WaitRequest E) (h : Coherent set) :
    Coherent (replaceAttachments DdsOutcomes.allOk onNullSubscription onNullGuard set request).1 ∧
      (replaceAttachments DdsOutcomes.allOk onNullSubscription onNullGuard set
        request).1.data.capacity = set.data.capacity := by
  have hspec := attachRequest_spec (fun _ => true) onNullSubscription onNullGuard request
    set.emptied
  rw [replaceAttachments_allOk h]
  exact ⟨hspec.coherent rfl, hspec.capacity⟩

/-- What one call of the patched version does: nothing, when it is rejected or the request is the
saved one; otherwise the saved array becomes the request. -/
structure FastPathStep (set : WaitSet E) (request : WaitRequest E)
    (result : WaitSet E × Except RmwError Unit) : Prop where
  coherent : Coherent result.1
  capacity : result.1.data.capacity = set.data.capacity
  rejected : result.2 ≠ .ok () → result.1 = set
  same : set.data.attached = request.entities → result.1 = set
  waits : result.2 = .ok () → result.1.data.attached = request.entities

/-- The three ways of `rmwWait_cases`, in the terms of the pair. -/
lemma rmwWait_fastPathStep {set : WaitSet E} (request : WaitRequest E) (h : Coherent set) :
    FastPathStep set request (rmwWait DdsOutcomes.allOk set request) := by
  have hiff := rmwWait_ok_iff request h
  rcases rmwWait_cases DdsOutcomes.allOk set request with
    ⟨hfits, message, heq⟩ | ⟨hfits, hsame, heq⟩ | ⟨hfits, hvalid, heq⟩
  · rw [heq]
    exact ⟨h, rfl, fun _ => rfl, fun _ => rfl, fun hok => by simp at hok⟩
  · rw [heq]
    exact ⟨h, rfl, fun _ => rfl, fun _ => rfl, fun _ => hsame⟩
  · have hok := hiff.mpr hfits
    have hcoherent := replaceAttachments_coherent .nullDereference .nullDereference request h
    rw [heq] at hok ⊢
    refine ⟨hcoherent.1, hcoherent.2, fun hnot => absurd hok hnot, fun hsame => ?_,
      fun _ => (replaceAttachments_of_ok h hok).2.1⟩
    -- the validation would have found the match
    rw [validateRequestedAttachments_ok hfits, hsame] at hvalid
    simp at hvalid

/-- The relation holds after every history, by induction on its last request. -/
lemma pairInv_after (capacity : ℕ) (history : List (WaitRequest E)) :
    PairInv capacity (WaitSetPair.after capacity history) := by
  induction history using List.reverseRecOn with
  | nil =>
      refine ⟨rfl, rfl, rfl, rfl, fun entities h => ?_⟩
      simp [WaitSetPair.after, WaitSetPair.create] at h
  | append_singleton history request ih =>
      have hlast : WaitSetPair.after capacity (history ++ [request])
          = (WaitSetPair.after capacity history).step request := by
        simp [WaitSetPair.after]
      rw [hlast]
      have hpatched := rmwWait_fastPathStep request ih.patched
      have horiginal := replaceAttachments_coherent
        (.invalidArgument "null subscription in wait set")
        (.invalidArgument "null guard condition in wait set") request ih.original
      refine ⟨hpatched.coherent, horiginal.1, hpatched.capacity.trans ih.patchedCapacity,
        horiginal.2.trans ih.originalCapacity, fun entities hprevious => ?_⟩
      simp only [WaitSetPair.step] at hprevious ⊢
      split_ifs at hprevious with hok
      · rw [hpatched.waits hok]
        exact Option.some.inj hprevious
      · rw [hpatched.rejected hok]
        exact ih.previous entities hprevious

/-- **Refinement.**  After any history of requests, and for any next one: both versions wait or
neither does; if they do, they wait on the same set; a call the patched version rejects leaves it
as it was; and the ordered request of the last call that waited costs no DDS call. -/
theorem rmwWait_refines_original (capacity : ℕ) (history : List (WaitRequest E))
    (request : WaitRequest E) :
    let pair := WaitSetPair.after capacity history
    let patched := rmwWait DdsOutcomes.allOk pair.patched request
    let original := rmwWaitOriginal DdsOutcomes.allOk pair.original request
    (patched.2 = .ok () ↔ original.2 = .ok ()) ∧
    (patched.2 = .ok () →
      patched.1.dds.attached = request.entities.toFinset ∧
      original.1.dds.attached = request.entities.toFinset) ∧
    (patched.2 ≠ .ok () → patched.1 = pair.patched) ∧
    (pair.previous = some request.entities → patched.1.dds.calls = pair.patched.dds.calls) := by
  intro pair patched original
  have hinv : PairInv capacity pair := pairInv_after capacity history
  have hstep : FastPathStep pair.patched request patched :=
    rmwWait_fastPathStep request hinv.patched
  have hsame : patched.2 = .ok () ↔ original.2 = .ok () := by
    rw [rmwWait_ok_iff request hinv.patched, rmwWaitOriginal_ok_iff request hinv.original,
      hinv.patchedCapacity, hinv.originalCapacity]
  refine ⟨hsame, fun hok => ⟨?_, ?_⟩, hstep.rejected, fun hprevious => ?_⟩
  · have hcoherent := hstep.coherent
    rw [Coherent, hstep.waits hok] at hcoherent
    exact hcoherent
  · obtain ⟨-, hattached, hcoherent⟩ := replaceAttachments_of_ok hinv.original (hsame.mp hok)
    rw [Coherent, hattached] at hcoherent
    exact hcoherent
  · rw [hstep.same (hinv.previous _ hprevious)]

end Ros2Zephyr
