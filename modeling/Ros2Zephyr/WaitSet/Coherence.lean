import Ros2Zephyr.Core.Fallible
import Ros2Zephyr.Core.Transition
import Ros2Zephyr.WaitSet.Attach

/-!
# The saved attachments and the DDS wait set

`Coherent` says that the two copies agree.  Each piece of `rmw_wait` gets one lemma for what it
does to a request: `validateRequestedAttachments_ok` and `validateRequestedAttachments_error` (it
accepts exactly the requests that fit and have no `NULL` entry, and its match flag is equality
with the saved array), `detachAll_ok` and `attachRequest_spec`.

A call keeps the copies together unless its detach loop fails after it has already removed
something (`DetachIntact` is the exception).  Then the array still lists what DDS no longer has,
and the next call that asks for the saved list takes the fast path and waits on too little:
`rmwWait_waits_incoherently`.  In runs without such a failure every call that waits does so on
exactly the entities it was asked for: `rmwWait_waits_on_request`.
-/

namespace Ros2Zephyr

open Transition

variable {E : Type*} [DecidableEq E]

/-! ## Requests

The patched code never builds the list of what is requested.  It is built here, so that the fast
path can be compared with an equality of lists.
-/

/-- The entities of one list in order, `NULL` entries left out. -/
def listEntities {α : Type*} (entity : α → E) (entries : Option (List (Option α))) : List E :=
  (entries.getD []).filterMap (Option.map entity)

/-- The ordered request: subscriptions first. -/
def WaitRequest.entities (request : WaitRequest E) : List E :=
  listEntities EndpointData.condition request.subscriptions ++
    listEntities id request.guardConditions

/-- The number of entries of a request. -/
def WaitRequest.count (request : WaitRequest E) : ℕ :=
  (request.subscriptions.getD []).length + (request.guardConditions.getD []).length

/-- No `NULL` entry and not more entries than the wait set has room for. -/
def WaitRequest.Fits (request : WaitRequest E) (capacity : ℕ) : Prop :=
  none ∉ request.subscriptions.getD [] ∧ none ∉ request.guardConditions.getD [] ∧
    request.count ≤ capacity

/-! ## The validation pass

The loops carry a counter and a flag, and the flag is only ever cleared.  The invariant is
`progressAfter`: the counter is the number of entities seen, and the flag says that they are the
first ones of the saved array.  With the comparison of the two lengths behind the loops this makes
the flag equality.
-/

omit [DecidableEq E] in
lemma concat_isPrefix_iff {l m : List E} {x : E} :
    l ++ [x] <+: m ↔ l <+: m ∧ m[l.length]? = some x := by
  constructor
  · rintro ⟨rest, rfl⟩
    exact ⟨⟨x :: rest, by simp⟩, by simp⟩
  · rintro ⟨⟨rest, rfl⟩, hx⟩
    rw [List.getElem?_append_right (le_refl _)] at hx
    simp only [Nat.sub_self] at hx
    cases rest with
    | nil => simp at hx
    | cons y rest =>
        simp only [List.getElem?_cons_zero, Option.some.injEq] at hx
        subst hx
        exact ⟨rest, by simp⟩

/-- The pair the loops carry: how many entities were seen, and whether they are the first ones of
the saved array. -/
def progressAfter (data : WaitSetData E) (seen : List E) : ℕ × Bool :=
  (seen.length, decide (seen <+: data.attached))

lemma progressAfter_fst (data : WaitSetData E) (seen : List E) :
    (progressAfter data seen).1 = seen.length := rfl

lemma compareAttachment_progressAfter (data : WaitSetData E) (seen : List E) (entity : E) :
    compareAttachment data (progressAfter data seen) entity
      = progressAfter data (seen ++ [entity]) := by
  simp only [compareAttachment, progressAfter, List.length_append, List.length_singleton,
    concat_isPrefix_iff]
  by_cases hlt : seen.length < data.attached.length
  · by_cases hx : data.attached[seen.length] = entity <;> simp [hlt, hx]
  · have hge : data.attached.length ≤ seen.length := not_lt.mp hlt
    simp [hge]

section Entries

variable {α : Type*} (data : WaitSetData E) (message : String) (entity : α → E)

lemma validateEntries_ok : ∀ (entries : List (Option α)) (seen : List E), none ∉ entries →
    validateEntries data message entity entries (progressAfter data seen)
      = .ok (progressAfter data (seen ++ entries.filterMap (Option.map entity)))
  | [], seen, _ => by simp [validateEntries]
  | none :: rest, seen, h => absurd List.mem_cons_self h
  | some entry :: rest, seen, h => by
      have hrest : none ∉ rest := fun hmem => h (List.mem_cons_of_mem _ hmem)
      rw [validateEntries, compareAttachment_progressAfter, validateEntries_ok rest _ hrest]
      simp

lemma validateEntries_error : ∀ (entries : List (Option α)) (progress : ℕ × Bool),
    none ∈ entries →
    validateEntries data message entity entries progress = .error (.invalidArgument message)
  | [], _, h => by simp at h
  | none :: rest, _, _ => rfl
  | some entry :: rest, progress, h => by
      rw [validateEntries]
      exact validateEntries_error rest _ (by simpa using h)

omit [DecidableEq E] in
lemma length_listEntities {entries : Option (List (Option α))} (h : none ∉ entries.getD []) :
    (listEntities entity entries).length = (entries.getD []).length := by
  rw [listEntities, List.length_filterMap_eq_countP, List.countP_eq_length]
  intro entry hentry
  cases entry with
  | none => exact absurd hentry h
  | some _ => rfl

/-- One list passes exactly when it fits into the room left and has no `NULL` entry; it then
extends what was seen by its entities. -/
lemma validateList_ok (room : ℕ) {entries : Option (List (Option α))} (seen : List E)
    (hroom : (entries.getD []).length ≤ room) (hnull : none ∉ entries.getD []) :
    validateList data room message entity entries (progressAfter data seen)
      = .ok (progressAfter data (seen ++ listEntities entity entries)) := by
  cases entries with
  | none => simp [validateList, listEntities]
  | some entries =>
      simp only [Option.getD_some] at hroom hnull
      rw [validateList, if_neg (not_lt.mpr hroom)]
      exact validateEntries_ok data message entity entries seen hnull

lemma validateList_error (room : ℕ) {entries : Option (List (Option α))} (progress : ℕ × Bool)
    (h : ¬ ((entries.getD []).length ≤ room ∧ none ∉ entries.getD [])) :
    ∃ text, validateList data room message entity entries progress
      = .error (.invalidArgument text) := by
  cases entries with
  | none => simp at h
  | some entries =>
      simp only [Option.getD_some, not_and, not_not] at h
      by_cases hroom : entries.length > room
      · exact ⟨_, by rw [validateList, if_pos hroom]⟩
      · refine ⟨message, ?_⟩
        rw [validateList, if_neg hroom]
        exact validateEntries_error data message entity entries progress (h (not_lt.mp hroom))

end Entries

omit [DecidableEq E] in
lemma WaitRequest.length_entities {request : WaitRequest E}
    (hsubscriptions : none ∉ request.subscriptions.getD [])
    (hguards : none ∉ request.guardConditions.getD []) :
    request.entities.length = request.count := by
  simp only [WaitRequest.entities, WaitRequest.count, List.length_append]
  rw [length_listEntities _ hsubscriptions, length_listEntities _ hguards]

/-- **What the validation accepts.**  For a request that fits, the flag is equality of the ordered
request with the saved array. -/
lemma validateRequestedAttachments_ok {data : WaitSetData E} {request : WaitRequest E}
    (h : request.Fits data.capacity) :
    validateRequestedAttachments data request
      = .ok (request.count, decide (data.attached = request.entities)) := by
  obtain ⟨hsubscriptions, hguards, hcount⟩ := h
  have hlength := WaitRequest.length_entities hsubscriptions hguards
  have hroom : (request.guardConditions.getD []).length
      ≤ data.capacity - (listEntities EndpointData.condition request.subscriptions).length := by
    rw [length_listEntities _ hsubscriptions]
    simp only [WaitRequest.count] at hcount
    omega
  have hfirst : validateSubscriptions data request (progressAfter data []) = .ok _ :=
    validateList_ok data _ _ data.capacity [] (le_trans (Nat.le_add_right _ _) hcount)
      hsubscriptions
  have hsecond : validateGuardConditions data request (progressAfter data
      (listEntities EndpointData.condition request.subscriptions))
        = .ok (progressAfter data request.entities) :=
    validateList_ok data _ _ _ _ hroom hguards
  have hstart : ((0, true) : ℕ × Bool) = progressAfter data [] := by simp [progressAfter]
  have hmatch : (request.entities <+: data.attached ∧ request.count = data.attached.length) ↔
      data.attached = request.entities := by
    rw [← hlength]
    constructor
    · rintro ⟨hpre, hlen⟩
      exact (hpre.eq_of_length hlen).symm
    · intro heq
      rw [heq]
      exact ⟨List.prefix_rfl, rfl⟩
  rw [validateRequestedAttachments, hstart, hfirst]
  simp only [List.nil_append, Fallible.ok_bind]
  rw [hsecond]
  simp only [Fallible.ok_bind, Fallible.pure_eq_ok, progressAfter, hlength, ← hmatch,
    Bool.decide_and, beq_eq_decide]

/-- The other requests are refused: each of the two ways not to fit is found in the first list or in
the second one. -/
lemma validateRequestedAttachments_error {data : WaitSetData E} {request : WaitRequest E}
    (h : ¬ request.Fits data.capacity) :
    ∃ message, validateRequestedAttachments data request
      = .error (.invalidArgument message) := by
  have hstart : ((0, true) : ℕ × Bool) = progressAfter data [] := by simp [progressAfter]
  by_cases hsubscriptions : (request.subscriptions.getD []).length ≤ data.capacity ∧
      none ∉ request.subscriptions.getD []
  · obtain ⟨hroom, hnull⟩ := hsubscriptions
    have hfirst : validateSubscriptions data request (progressAfter data []) = .ok _ :=
      validateList_ok data _ _ data.capacity [] hroom hnull
    obtain ⟨message, hsecond⟩ := validateList_error data "null guard condition in wait set" id
      (data.capacity - (listEntities EndpointData.condition request.subscriptions).length)
      (progressAfter data (listEntities EndpointData.condition request.subscriptions))
      (by
        rintro ⟨hguardRoom, hguards⟩
        refine h ⟨hnull, hguards, ?_⟩
        rw [length_listEntities _ hnull] at hguardRoom
        simp only [WaitRequest.count]
        omega)
    refine ⟨message, ?_⟩
    rw [validateRequestedAttachments, hstart, hfirst]
    simp only [List.nil_append, Fallible.ok_bind]
    rw [validateGuardConditions, progressAfter_fst, hsecond]
    rfl
  · obtain ⟨message, hfirst⟩ := validateList_error data "null subscription in wait set"
      EndpointData.condition data.capacity (0, true) hsubscriptions
    refine ⟨message, ?_⟩
    rw [validateRequestedAttachments, validateSubscriptions, hfirst]
    rfl

/-! ## Detaching

Three facts about the loop are enough: what it leaves if no call fails, that only such a loop runs
to its end, and that it never adds an entity.
-/

/-- The saved array lists exactly what DDS has. -/
def Coherent (set : WaitSet E) : Prop :=
  set.dds.attached = set.data.attached.toFinset

/-- A loop in which every call succeeds removes its entities. -/
lemma detachFrom_ok {ok : ℕ → Bool} : ∀ (entities : List E) (index : ℕ) (dds : Dds E),
    (∀ i, index ≤ i → i < index + entities.length → ok i = true) →
    detachFrom ok index entities dds
      = ({ attached := dds.attached \ entities.toFinset
           calls := dds.calls ++ entities.map .detach }, true)
  | [], index, dds, _ => by simp [detachFrom]
  | entity :: rest, index, dds, h => by
      have hhead : ok index = true := h index (le_refl _) (by simp)
      have hrest : ∀ i, index + 1 ≤ i → i < index + 1 + rest.length → ok i = true := by
        intro i hlo hhi
        exact h i (by omega) (by simp only [List.length_cons]; omega)
      rw [detachFrom, if_pos hhead, detachFrom_ok rest (index + 1) _ hrest]
      simp only [List.toFinset_cons, List.map_cons, List.append_assoc, List.singleton_append,
        Finset.sdiff_insert, Finset.erase_sdiff_comm]

/-- Only such a loop runs to its end. -/
lemma detachFrom_snd {ok : ℕ → Bool} : ∀ (entities : List E) (index : ℕ) (dds : Dds E),
    (detachFrom ok index entities dds).2 = true →
      ∀ i, index ≤ i → i < index + entities.length → ok i = true
  | [], index, dds, _ => by
      intro i hlo hhi
      simp only [List.length_nil] at hhi
      omega
  | entity :: rest, index, dds, h => by
      intro i hlo hhi
      by_cases hhead : ok index = true
      · rw [detachFrom, if_pos hhead] at h
        rcases Nat.eq_or_lt_of_le hlo with rfl | hlt
        · exact hhead
        · simp only [List.length_cons] at hhi
          exact detachFrom_snd rest (index + 1) _ h i hlt (by omega)
      · rw [detachFrom, if_neg hhead] at h
        exact absurd h (by simp)

/-- No detach ever adds an entity. -/
lemma detachFrom_subset {ok : ℕ → Bool} : ∀ (entities : List E) (index : ℕ) (dds : Dds E),
    (detachFrom ok index entities dds).1.attached ⊆ dds.attached
  | [], _, _ => Finset.Subset.refl _
  | entity :: rest, index, dds => by
      rw [detachFrom]
      split_ifs
      · exact (detachFrom_subset rest (index + 1) _).trans (Finset.erase_subset _ _)
      · exact Finset.Subset.refl _

lemma detachAll_ok {ok : ℕ → Bool} {set : WaitSet E}
    (hok : ∀ i < set.data.attached.length, ok i = true) (h : Coherent set) :
    detachAll ok set
      = ({ data := { set.data with attached := [] }
           dds := { attached := ∅, calls := set.dds.calls ++ set.data.attached.map .detach } },
          .ok ()) := by
  have hfrom := detachFrom_ok set.data.attached 0 set.dds
    fun i _ hi => hok i (by simpa using hi)
  rw [Coherent] at h
  simp [detachAll, hfrom, h]

/-- A loop whose first call fails has changed nothing but the log. -/
lemma detachAll_first_fails {ok : ℕ → Bool} {set : WaitSet E} (hok : ok 0 = false)
    (hne : set.data.attached ≠ []) :
    ∃ calls, detachAll ok set
      = ({ set with dds := { set.dds with calls } }, .error (.dds "dds_waitset_detach")) := by
  cases hattached : set.data.attached with
  | nil => exact absurd hattached hne
  | cons entity rest => exact ⟨_, by simp [detachAll, detachFrom, hattached, hok]; rfl⟩

/-! ## Attaching

An attach loop can be left in the middle, and what it leaves then is also a wait set whose copies
agree.  `AttachSpec` says so for any result, and is composed along the loops.
-/

/-- What an attach loop over `entities` leaves behind, whether it ran to its end or not: the copies
still agree, and at the end of a loop that was not left the entities stand behind those already
attached and no entry was `NULL`. -/
structure AttachSpec (entities : List E) (nonNull : Prop) (set : WaitSet E)
    (result : WaitSet E × Except RmwError Unit) : Prop where
  coherent : Coherent set → Coherent result.1
  capacity : result.1.data.capacity = set.data.capacity
  bounded : set.data.attached.length ≤ set.data.capacity →
    result.1.data.attached.length ≤ set.data.capacity
  attached : result.2 = .ok () →
    nonNull ∧ result.1.data.attached = set.data.attached ++ entities

lemma AttachSpec.of_error {entities : List E} {nonNull : Prop} {set next : WaitSet E}
    {error : RmwError} (hcoherent : Coherent set → Coherent next) (hdata : next.data = set.data) :
    AttachSpec entities nonNull set (next, .error error) :=
  ⟨hcoherent, by rw [hdata], by simp only [hdata]; exact id, fun h => by simp at h⟩

lemma attachEntity_spec (ok : ℕ → Bool) (entity : E) (set : WaitSet E) :
    AttachSpec [entity] True set (attachEntity ok set entity) := by
  unfold attachEntity
  split_ifs with hfull hok
  · exact AttachSpec.of_error id rfl
  · refine ⟨fun h => ?_, rfl, fun _ => ?_, fun _ => ⟨trivial, rfl⟩⟩
    · simp only [Coherent, List.toFinset_append, List.toFinset_cons, List.toFinset_nil] at h ⊢
      rw [h, Finset.insert_eq, Finset.union_comm]
      simp
    · simp only [List.length_append, List.length_singleton]
      omega
  · exact AttachSpec.of_error id rfl

/-- Two loops one after the other are one loop. -/
lemma AttachSpec.trans {first second : List E} {nonNull₁ nonNull₂ : Prop}
    {set next : WaitSet E} {result : WaitSet E × Except RmwError Unit}
    (h₁ : AttachSpec first nonNull₁ set (next, .ok ()))
    (h₂ : AttachSpec second nonNull₂ next result) :
    AttachSpec (first ++ second) (nonNull₁ ∧ nonNull₂) set result := by
  have hcapacity : next.data.capacity = set.data.capacity := h₁.capacity
  obtain ⟨hnull₁, hattached₁⟩ := h₁.attached rfl
  refine ⟨fun h => h₂.coherent (h₁.coherent h), h₂.capacity.trans hcapacity, fun h => ?_,
    fun h => ?_⟩
  · rw [← hcapacity]
    exact h₂.bounded (by rw [hcapacity]; exact h₁.bounded h)
  · obtain ⟨hnull₂, hattached₂⟩ := h₂.attached h
    refine ⟨⟨hnull₁, hnull₂⟩, ?_⟩
    rw [hattached₂, hattached₁, List.append_assoc]

/-- A loop left with an error owes nothing to the entities behind. -/
lemma AttachSpec.left {entities entities' : List E} {nonNull nonNull' : Prop}
    {set next : WaitSet E} {error : RmwError}
    (h : AttachSpec entities nonNull set (next, .error error)) :
    AttachSpec entities' nonNull' set (next, .error error) :=
  ⟨h.coherent, h.capacity, h.bounded, fun h => by simp at h⟩

lemma AttachSpec.weaken {entities : List E} {nonNull nonNull' : Prop} {set : WaitSet E}
    {result : WaitSet E × Except RmwError Unit} (h : AttachSpec entities nonNull set result)
    (himp : nonNull → nonNull') : AttachSpec entities nonNull' set result :=
  ⟨h.coherent, h.capacity, h.bounded, fun hok => (h.attached hok).imp himp id⟩

/-- One attach loop, by induction on its entries. -/
lemma attachEntries_spec {α : Type*} (ok : ℕ → Bool) (onNull : RmwError) (entity : α → E) :
    ∀ (entries : List (Option α)) (set : WaitSet E),
      AttachSpec (entries.filterMap (Option.map entity)) (none ∉ entries) set
        (attachEntries ok onNull entity entries set)
  | [], set => ⟨id, rfl, id, fun _ => ⟨by simp, by simp [attachEntries]⟩⟩
  | none :: rest, set => AttachSpec.of_error id rfl
  | some entry :: rest, set => by
      have hone := attachEntity_spec ok (entity entry) set
      rw [attachEntries]
      generalize attachEntity ok set (entity entry) = one at hone
      obtain ⟨next, result⟩ := one
      cases result with
      | error error => exact hone.left
      | ok _ => exact (hone.trans (attachEntries_spec ok onNull entity rest next)).weaken (by simp)

/-- Both loops, the one for the guard conditions behind the one for the subscriptions. -/
lemma attachRequest_spec (ok : ℕ → Bool) (onNullSubscription onNullGuard : RmwError)
    (request : WaitRequest E) (set : WaitSet E) :
    AttachSpec request.entities
      (none ∉ request.subscriptions.getD [] ∧ none ∉ request.guardConditions.getD []) set
      (attachRequest ok onNullSubscription onNullGuard request set) := by
  have hfirst := attachEntries_spec ok onNullSubscription EndpointData.condition
    (request.subscriptions.getD []) set
  rw [attachRequest]
  generalize attachEntries ok onNullSubscription EndpointData.condition
    (request.subscriptions.getD []) set = one at hfirst
  obtain ⟨next, result⟩ := one
  cases result with
  | error error => exact hfirst.left
  | ok _ => exact hfirst.trans (attachEntries_spec ok onNullGuard id _ next)

/-! ## One call

`rmwWait_cases` is the only place where `rmwWait` is unfolded.  A call is refused, takes the fast
path or replaces the attachments; what is shown of a call is shown for these three.
-/

/-- A fresh wait set. -/
def WaitSet.create (capacity : ℕ) : WaitSet E :=
  { data := { capacity, attached := [] }, dds := { attached := ∅, calls := [] } }

/-- A call of `rmw_wait` with what the middleware makes of it. -/
structure WaitCall (E : Type*) where
  request : WaitRequest E
  outcomes : DdsOutcomes

/-- The wait set after a call. -/
def WaitSet.after (set : WaitSet E) (call : WaitCall E) : WaitSet E :=
  (rmwWait call.outcomes set call.request).1

/-- If the call gets as far as waiting, DDS holds exactly the requested entities. -/
def WaitsOnRequest (set : WaitSet E) (call : WaitCall E) : Prop :=
  (rmwWait call.outcomes set call.request).2 = .ok () →
    (set.after call).dds.attached = call.request.entities.toFinset

/-- The call does not fail in the middle of its detach loop: when it detaches, either every
`dds_waitset_detach` succeeds or already the first one fails. -/
def DetachIntact (set : WaitSet E) (call : WaitCall E) : Prop :=
  ∀ count, validateRequestedAttachments set.data call.request = .ok (count, false) →
    (∀ i < set.data.attached.length, call.outcomes.detach i = true) ∨
      call.outcomes.detach 0 = false

/-- What every call of a run without mid-loop failures preserves. -/
structure WaitSetInv (set : WaitSet E) : Prop where
  coherent : Coherent set
  bounded : set.data.attached.length ≤ set.data.capacity

lemma waitSetInv_create (capacity : ℕ) : WaitSetInv (WaitSet.create capacity : WaitSet E) :=
  ⟨rfl, Nat.zero_le _⟩

/-- The three ways a call that passes the validation goes on. -/
lemma rmwWait_cases (outcomes : DdsOutcomes) (set : WaitSet E) (request : WaitRequest E) :
    (¬ request.Fits set.data.capacity ∧
      ∃ message, rmwWait outcomes set request = (set, .error (.invalidArgument message))) ∨
    (request.Fits set.data.capacity ∧ set.data.attached = request.entities ∧
      rmwWait outcomes set request = (set, .ok ())) ∨
    (request.Fits set.data.capacity ∧
      validateRequestedAttachments set.data request = .ok (request.count, false) ∧
      rmwWait outcomes set request
        = replaceAttachments outcomes .nullDereference .nullDereference set request) := by
  by_cases hfits : request.Fits set.data.capacity
  · have hvalid := validateRequestedAttachments_ok hfits
    by_cases hsame : set.data.attached = request.entities
    · simp only [hsame, decide_true] at hvalid
      exact Or.inr (Or.inl ⟨hfits, hsame, by simp only [rmwWait, hvalid]⟩)
    · simp only [hsame, decide_false] at hvalid
      exact Or.inr (Or.inr ⟨hfits, hvalid, by simp only [rmwWait, hvalid]⟩)
  · obtain ⟨message, hvalid⟩ := validateRequestedAttachments_error hfits
    exact Or.inl ⟨hfits, message, by simp only [rmwWait, hvalid]⟩

/-- From an empty wait set, attaching a request keeps the invariant. -/
lemma waitSetInv_attachRequest {ok : ℕ → Bool} {onNullSubscription onNullGuard : RmwError}
    {request : WaitRequest E} {set : WaitSet E} (h : WaitSetInv set) :
    WaitSetInv (attachRequest ok onNullSubscription onNullGuard request set).1 := by
  have hspec := attachRequest_spec ok onNullSubscription onNullGuard request set
  exact ⟨hspec.coherent h.coherent, by rw [hspec.capacity]; exact hspec.bounded h.bounded⟩

/-- **One call keeps the invariant.**  When the attachments are replaced, either the detach loop
runs to its end and the attach loops start from an empty set, or its first call fails and nothing
was changed. -/
lemma waitSetInv_after {set : WaitSet E} {call : WaitCall E} (h : WaitSetInv set)
    (hintact : DetachIntact set call) : WaitSetInv (set.after call) := by
  unfold WaitSet.after
  rcases rmwWait_cases call.outcomes set call.request with
    ⟨-, message, heq⟩ | ⟨-, -, heq⟩ | ⟨-, hvalid, heq⟩
  · rw [heq]
    exact h
  · rw [heq]
    exact h
  · rw [heq, replaceAttachments]
    rcases hintact _ hvalid with hok | hfirst
    · rw [detachAll_ok hok h.coherent]
      exact waitSetInv_attachRequest ⟨rfl, Nat.zero_le _⟩
    · by_cases hne : set.data.attached = []
      · rw [detachAll_ok (by simp [hne]) h.coherent]
        exact waitSetInv_attachRequest ⟨rfl, Nat.zero_le _⟩
      · obtain ⟨calls, hdetach⟩ := detachAll_first_fails hfirst hne
        rw [hdetach]
        exact ⟨h.coherent, h.bounded⟩

/-- A detach loop that was not left has emptied both copies. -/
lemma detachAll_of_ok {ok : ℕ → Bool} {set next : WaitSet E} (h : Coherent set)
    (hdetach : detachAll ok set = (next, .ok ())) :
    next.data.attached = [] ∧ next.data.capacity = set.data.capacity ∧ Coherent next := by
  have hok : ∀ i < set.data.attached.length, ok i = true := by
    intro i hi
    refine detachFrom_snd set.data.attached 0 set.dds ?_ i (Nat.zero_le _) (by simpa using hi)
    by_contra hleft
    simp [detachAll, hleft] at hdetach
  rw [detachAll_ok hok h] at hdetach
  simp only [Prod.mk.injEq, and_true] at hdetach
  subst hdetach
  exact ⟨rfl, rfl, rfl⟩

/-- Replacing the attachments, if it ends well, leaves exactly the request in both copies. -/
lemma replaceAttachments_of_ok {outcomes : DdsOutcomes}
    {onNullSubscription onNullGuard : RmwError} {set : WaitSet E} {request : WaitRequest E}
    (h : Coherent set)
    (hok : (replaceAttachments outcomes onNullSubscription onNullGuard set request).2 = .ok ()) :
    request.Fits set.data.capacity ∧
      (replaceAttachments outcomes onNullSubscription onNullGuard set request).1.data.attached
        = request.entities ∧
      Coherent (replaceAttachments outcomes onNullSubscription onNullGuard set request).1 := by
  unfold replaceAttachments at hok ⊢
  cases hdetach : detachAll outcomes.detach set with
  | mk next result =>
      rw [hdetach] at hok
      cases result with
      | error error => simp at hok
      | ok _ =>
          obtain ⟨hempty, hcapacity, hnext⟩ := detachAll_of_ok h hdetach
          have hspec := attachRequest_spec outcomes.attach onNullSubscription onNullGuard
            request next
          obtain ⟨⟨hsubscriptions, hguards⟩, hattached⟩ := hspec.attached hok
          rw [hempty, List.nil_append] at hattached
          refine ⟨⟨hsubscriptions, hguards, ?_⟩, hattached, hspec.coherent hnext⟩
          have hbounded := hspec.bounded (by simp [hempty])
          rw [hattached, WaitRequest.length_entities hsubscriptions hguards, hcapacity] at hbounded
          exact hbounded

/-- From coherent copies, a call that waits waits on its request. -/
lemma waitsOnRequest_of_coherent {set : WaitSet E} (call : WaitCall E) (h : Coherent set) :
    WaitsOnRequest set call := by
  intro hwaits
  unfold WaitSet.after
  rcases rmwWait_cases call.outcomes set call.request with
    ⟨-, message, heq⟩ | ⟨-, hsame, heq⟩ | ⟨-, -, heq⟩
  · rw [heq] at hwaits
    simp at hwaits
  · rw [heq, ← hsame]
    exact h
  · rw [heq] at hwaits ⊢
    obtain ⟨-, hattached, hcoherent⟩ := replaceAttachments_of_ok h hwaits
    rw [Coherent, hattached] at hcoherent
    exact hcoherent

/-! ## Failing in the middle

The failure that `DetachIntact` excludes leaves a saved array whose first entities DDS no longer
has.  The validation cannot see this: it compares with the array.
-/

/-- The request for exactly the saved entities, as guard conditions. -/
def WaitSet.savedRequest (set : WaitSet E) : WaitRequest E :=
  { subscriptions := none, guardConditions := some (set.data.attached.map some) }

omit [DecidableEq E] in
lemma savedRequest_entities (set : WaitSet E) :
    set.savedRequest.entities = set.data.attached := by
  simp [WaitSet.savedRequest, WaitRequest.entities, listEntities, List.filterMap_map]

omit [DecidableEq E] in
lemma savedRequest_fits {set : WaitSet E} (h : set.data.attached.length ≤ set.data.capacity) :
    set.savedRequest.Fits set.data.capacity := by
  simpa [WaitSet.savedRequest, WaitRequest.Fits, WaitRequest.count] using h

/-- **The stale cache.**  After a failure in the middle of the detach loop the call that asks for
the saved list again waits, and not on what it asked for. -/
lemma not_waitsOnRequest_after_midLoop {set : WaitSet E} {call : WaitCall E} (h : WaitSetInv set)
    (hmid : ¬ DetachIntact set call) (outcomes : DdsOutcomes) :
    ¬ WaitsOnRequest (set.after call) { request := set.savedRequest, outcomes } := by
  simp only [DetachIntact, not_forall, not_or, Bool.not_eq_false] at hmid
  obtain ⟨count, hvalid, ⟨i, hi, hfail⟩, hfirst⟩ := hmid
  cases hattached : set.data.attached with
  | nil => simp [hattached] at hi
  | cons entity rest =>
      set detached := detachFrom call.outcomes.detach 0 set.data.attached set.dds with hdetached
      have hleft : detached.2 = false := by
        by_contra hran
        have hok := detachFrom_snd set.data.attached 0 set.dds (by simpa using hran) i
          (Nat.zero_le _) (by simpa using hi)
        exact hfail hok
      -- the first entity is gone from DDS
      have hgone : entity ∉ detached.1.attached := by
        rw [hdetached, hattached, detachFrom, if_pos hfirst]
        intro hmem
        have := detachFrom_subset rest 1 _ hmem
        simp at this
      have hafter : set.after call = { set with dds := detached.1 } := by
        simp [WaitSet.after, rmwWait, hvalid, replaceAttachments, detachAll, ← hdetached, hleft]
      intro hwaits
      rw [hafter] at hwaits
      have hsaved : rmwWait outcomes { set with dds := detached.1 } set.savedRequest
          = ({ set with dds := detached.1 }, .ok ()) := by
        have hok := validateRequestedAttachments_ok (savedRequest_fits h.bounded)
        rw [savedRequest_entities] at hok
        simp only [rmwWait, hok, decide_true]
      have heq := hwaits (by rw [hsaved])
      rw [WaitSet.after, hsaved, savedRequest_entities, hattached] at heq
      exact hgone (by rw [heq]; simp)

/-! ## Every run -/

/-- The runs of one wait set in which no call satisfies less than `admissible`. -/
def waitStep (admissible : WaitSet E → WaitCall E → Prop) (set : WaitSet E) (call : WaitCall E)
    (set' : WaitSet E) : Prop :=
  admissible set call ∧ set.after call = set'

/-- **Cache coherence, exactly.**  As long as no call fails in the middle of its detach loop, every
call that waits does so with DDS holding what it asked for; and the first call that does fail
there makes a later one wait on something else. -/
theorem rmwWait_waits_on_request (capacity : ℕ) (calls : List (WaitCall E)) (set : WaitSet E)
    (hrun : Run (waitStep DetachIntact) (WaitSet.create capacity) calls set) :
    (∀ call, WaitsOnRequest set call) ∧
    ∀ call, ¬ DetachIntact set call → ∃ later, ¬ WaitsOnRequest (set.after call) later := by
  have hinv : WaitSetInv set := by
    refine hrun.invariant (waitSetInv_create capacity) ?_
    rintro t t' call ht ⟨hintact, rfl⟩
    exact waitSetInv_after ht hintact
  refine ⟨fun call => waitsOnRequest_of_coherent call hinv.coherent, fun call hmid => ?_⟩
  exact ⟨_, not_waitsOnRequest_after_midLoop hinv hmid DdsOutcomes.allOk⟩

/-- A call for two guard conditions, every DDS call succeeding. -/
def callForPair : WaitCall ℕ :=
  { request := { subscriptions := none, guardConditions := some [some 1, some 2] }
    outcomes := DdsOutcomes.allOk }

/-- A call for a third one, in which the second detach fails. -/
def callForThird : WaitCall ℕ :=
  { request := { subscriptions := none, guardConditions := some [some 3] }
    outcomes := { detach := fun i => i == 0, attach := fun _ => true } }

/-- The same call with the first detach failing already, so that nothing is detached. -/
def callRefused : WaitCall ℕ :=
  { callForThird with outcomes := { detach := fun _ => false, attach := fun _ => true } }

/-- A call for two others in which the second attach fails. -/
def callHalfAttached : WaitCall ℕ :=
  { request := { subscriptions := none, guardConditions := some [some 4, some 5] }
    outcomes := { detach := fun _ => true, attach := fun i => i == 0 } }

/-- A run with two failing calls that is back at the first pair; a failure in the middle of the
detach loop would break it. -/
theorem rmwWait_waits_on_request_pair :
    ∃ set : WaitSet ℕ,
      Run (waitStep DetachIntact) (WaitSet.create 2)
        [callForPair, callRefused, callHalfAttached, callForPair] set ∧
      set.data.attached = [1, 2] ∧ (∀ call, WaitsOnRequest set call) ∧
      ∃ later, ¬ WaitsOnRequest (set.after callForThird) later := by
  have hrun : Run (waitStep DetachIntact) (WaitSet.create 2)
      [callForPair, callRefused, callHalfAttached, callForPair]
      (((((WaitSet.create 2).after callForPair).after callRefused).after callHalfAttached).after
        callForPair) :=
    Run.cons ⟨fun _ _ => .inl fun _ _ => rfl, rfl⟩ (Run.cons ⟨fun _ _ => .inr rfl, rfl⟩
      (Run.cons ⟨fun _ _ => .inl fun _ _ => rfl, rfl⟩
        (Run.cons ⟨fun _ _ => .inl fun _ _ => rfl, rfl⟩ Run.start)))
  obtain ⟨hwaits, hmid⟩ := rmwWait_waits_on_request 2 _ _ hrun
  refine ⟨_, hrun, by decide, hwaits, hmid callForThird fun hintact => ?_⟩
  rcases hintact 1 (by decide) with hall | hfirst
  · exact absurd (hall 1 (by decide)) (by decide)
  · cases hfirst

/-- **The stale cache, concretely.**  Attach 1 and 2; fail to replace them by 3 after 1 was already
detached; ask for 1 and 2 again.  The third call waits, and DDS holds only 2. -/
theorem rmwWait_waits_incoherently :
    ∃ set : WaitSet ℕ,
      Run (waitStep fun _ _ => True) (WaitSet.create 2) [callForPair, callForThird] set ∧
      (rmwWait callForPair.outcomes set callForPair.request).2 = .ok () ∧
      (set.after callForPair).dds.attached = {2} ∧ ¬ WaitsOnRequest set callForPair := by
  refine ⟨((WaitSet.create 2).after callForPair).after callForThird,
    Run.cons ⟨trivial, rfl⟩ (Run.cons ⟨trivial, rfl⟩ Run.start), by decide, by decide, ?_⟩
  intro hwaits
  have heq := hwaits (by decide)
  revert heq
  decide

end Ros2Zephyr
