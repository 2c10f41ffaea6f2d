import Mathlib.Data.Finset.Basic
import Mathlib.Data.Finset.Lattice.Lemmas

/-!
# The attachment code of `rmw_wait`

`patches/rmw-cyclonedds-c-fixed-waitset.patch`, both sides of it: `rmwWait` is the patched
function, `rmwWaitOriginal` the lines it removes.  Each stops where `dds_waitset_wait` would be
called; the result `.ok ()` means that this point is reached.

A wait set is two copies of one set.  `WaitSetData.attached` is the array the RMW keeps, cut to
its first `attached_count` entries (no entry behind that index is ever read), and `Dds.attached`
is what Cyclone has registered.  `Dds.calls` logs the attach and detach calls, successful or not.

`attach_entity`, `dds_waitset_attach` and `dds_waitset_detach` are not part of the repository.
`attachEntity` checks the capacity, calls DDS and appends on success; a DDS call that fails
changes nothing.  Which calls fail is chosen by the environment (`DdsOutcomes`).
-/

namespace Ros2Zephyr

variable {E : Type*} [DecidableEq E]

/-- The members of `wait_set_data_t` this code reads. -/
structure WaitSetData (E : Type*) where
  capacity : ℕ
  attached : List E
deriving DecidableEq

inductive DdsCall (E : Type*)
  | attach (entity : E)
  | detach (entity : E)
deriving DecidableEq

/-- The DDS wait set behind `data->waitset`. -/
structure Dds (E : Type*) where
  attached : Finset E
  calls : List (DdsCall E)
deriving DecidableEq

structure WaitSet (E : Type*) where
  data : WaitSetData E
  dds : Dds E
deriving DecidableEq

/-- `endpoint_data_t`, of which only the read condition is used here. -/
structure EndpointData (E : Type*) where
  condition : E
deriving DecidableEq

/-- The two array arguments of `rmw_wait`.  An outer `none` is a `NULL` list and an inner one a
`NULL` entry. -/
structure WaitRequest (E : Type*) where
  subscriptions : Option (List (Option (EndpointData E)))
  guardConditions : Option (List (Option E))
deriving DecidableEq

/-- Whether the `i`-th detach and the `i`-th attach of one `rmw_wait` call succeed. -/
structure DdsOutcomes where
  detach : ℕ → Bool
  attach : ℕ → Bool

def DdsOutcomes.allOk : DdsOutcomes where
  detach _ := true
  attach _ := true

inductive RmwError
  /-- `RMW_RET_INVALID_ARGUMENT` with the message set before it -/
  | invalidArgument (message : String)
  /-- `attach_entity` found no room -/
  | attachCapacity
  /-- `map_dds_result` of the named call -/
  | dds (operation : String)
  /-- a `NULL` entry was dereferenced -/
  | nullDereference
deriving DecidableEq, Repr

/-! ## `validate_requested_attachments`

The new function of the patch walks over the request once, before anything is detached.  It refuses
what the attach loops would refuse later, and finds out whether the request is the saved array
again.
-/

/-- One turn of either loop: `requested_count` indexes the saved array, which may be shorter. -/
def compareAttachment (data : WaitSetData E) (progress : ℕ × Bool) (entity : E) : ℕ × Bool :=
  (progress.1 + 1,
    if progress.1 ≥ data.attached.length || data.attached[progress.1]? != some entity then false
    else progress.2)

/-- A loop of `validate_requested_attachments`, over the entries of one list. -/
def validateEntries {α : Type*} (data : WaitSetData E) (nullMessage : String) (entity : α → E) :
    List (Option α) → ℕ × Bool → Except RmwError (ℕ × Bool)
  | [], progress => .ok progress
  | none :: _, _ => .error (.invalidArgument nullMessage)
  | some entry :: rest, progress =>
      validateEntries data nullMessage entity rest
        (compareAttachment data progress (entity entry))

/-- One list of the request, for which there is `room`; a `NULL` list is skipped. -/
def validateList {α : Type*} (data : WaitSetData E) (room : ℕ) (nullMessage : String)
    (entity : α → E) (entries : Option (List (Option α))) (progress : ℕ × Bool) :
    Except RmwError (ℕ × Bool) :=
  match entries with
  | none => .ok progress
  | some entries =>
      if entries.length > room then .error (.invalidArgument "wait set capacity exceeded")
      else validateEntries data nullMessage entity entries progress

def validateSubscriptions (data : WaitSetData E) (request : WaitRequest E)
    (progress : ℕ × Bool) : Except RmwError (ℕ × Bool) :=
  validateList data data.capacity "null subscription in wait set" EndpointData.condition
    request.subscriptions progress

def validateGuardConditions (data : WaitSetData E) (request : WaitRequest E)
    (progress : ℕ × Bool) : Except RmwError (ℕ × Bool) :=
  validateList data (data.capacity - progress.1) "null guard condition in wait set" id
    request.guardConditions progress

/-- `requested_count` and `attachments_match`, or the error that is returned. -/
def validateRequestedAttachments (data : WaitSetData E) (request : WaitRequest E) :
    Except RmwError (ℕ × Bool) := do
  let progress ← validateSubscriptions data request (0, true)
  let progress ← validateGuardConditions data request progress
  return (progress.1, progress.2 && progress.1 == data.attached.length)

/-! ## Detaching and attaching

These loops are the ones of the original.  Both copies of the set change here: a detach takes the
entity out of DDS only, and the count of the saved array is reset behind the loop; an attach adds to
DDS first and to the array on success.
-/

/-- The detach loop from index `index` on; `false` when a call failed and the loop was left. -/
def detachFrom (ok : ℕ → Bool) : ℕ → List E → Dds E → Dds E × Bool
  | _, [], dds => (dds, true)
  | index, entity :: rest, dds =>
      if ok index then
        detachFrom ok (index + 1) rest
          { attached := dds.attached.erase entity, calls := dds.calls ++ [.detach entity] }
      else ({ dds with calls := dds.calls ++ [.detach entity] }, false)

/-- The detach loop and `data->attached_count = 0U` behind it.  The count is reset only when every
call succeeded. -/
def detachAll (ok : ℕ → Bool) (set : WaitSet E) : WaitSet E × Except RmwError Unit :=
  let detached := detachFrom ok 0 set.data.attached set.dds
  if detached.2 then ({ data := { set.data with attached := [] }, dds := detached.1 }, .ok ())
  else ({ set with dds := detached.1 }, .error (.dds "dds_waitset_detach"))

def attachEntity (ok : ℕ → Bool) (set : WaitSet E) (entity : E) :
    WaitSet E × Except RmwError Unit :=
  if set.data.attached.length ≥ set.data.capacity then (set, .error .attachCapacity)
  else if ok set.data.attached.length then
    ({ data := { set.data with attached := set.data.attached ++ [entity] }
       dds :=
        { attached := insert entity set.dds.attached
          calls := set.dds.calls ++ [.attach entity] } }, .ok ())
  else
    ({ set with dds := { set.dds with calls := set.dds.calls ++ [.attach entity] } },
      .error (.dds "dds_waitset_attach"))

/-- One attach loop.  `onNull` is what a `NULL` entry leads to. -/
def attachEntries {α : Type*} (ok : ℕ → Bool) (onNull : RmwError) (entity : α → E) :
    List (Option α) → WaitSet E → WaitSet E × Except RmwError Unit
  | [], set => (set, .ok ())
  | none :: _, set => (set, .error onNull)
  | some entry :: rest, set =>
      match attachEntity ok set (entity entry) with
      | (set, .ok ()) => attachEntries ok onNull entity rest set
      | (set, .error error) => (set, .error error)

/-- Both attach loops; a `NULL` list is skipped. -/
def attachRequest (ok : ℕ → Bool) (onNullSubscription onNullGuard : RmwError)
    (request : WaitRequest E) (set : WaitSet E) : WaitSet E × Except RmwError Unit :=
  match attachEntries ok onNullSubscription EndpointData.condition
    (request.subscriptions.getD []) set with
  | (set, .ok ()) =>
      attachEntries ok onNullGuard id (request.guardConditions.getD []) set
  | (set, .error error) => (set, .error error)

/-- The detach loop with both attach loops behind it. -/
def replaceAttachments (outcomes : DdsOutcomes) (onNullSubscription onNullGuard : RmwError)
    (set : WaitSet E) (request : WaitRequest E) : WaitSet E × Except RmwError Unit :=
  match detachAll outcomes.detach set with
  | (set, .ok ()) => attachRequest outcomes.attach onNullSubscription onNullGuard request set
  | (set, .error error) => (set, .error error)

/-! ## `rmw_wait` -/

/-- The patched `rmw_wait`, up to `dds_waitset_wait`.  The attach loops no longer look for `NULL`:
the validation did. -/
def rmwWait (outcomes : DdsOutcomes) (set : WaitSet E) (request : WaitRequest E) :
    WaitSet E × Except RmwError Unit :=
  match validateRequestedAttachments set.data request with
  | .error error => (set, .error error)
  | .ok (_, true) => (set, .ok ())
  | .ok (_, false) => replaceAttachments outcomes .nullDereference .nullDereference set request

/-- `rmw_wait` before the patch: detach everything, attach everything. -/
def rmwWaitOriginal (outcomes : DdsOutcomes) (set : WaitSet E) (request : WaitRequest E) :
    WaitSet E × Except RmwError Unit :=
  replaceAttachments outcomes (.invalidArgument "null subscription in wait set")
    (.invalidArgument "null guard condition in wait set") set request

end Ros2Zephyr
