import Ros2Zephyr.Core.JsonRoundTrip
import Ros2Zephyr.Resources.Prelink

/-!
# The resource plan as a document

`resource-plan.json` is what the plan command of `tools/verify_resources.py` leaves for the verify
command.  The members are those of the dictionary that `build_prelink_plan` returns.

* `ResourcePlan.toFields`, `ResourcePlan.ofJson` — the document of a plan, and the plan of a
  document.
* `ResourcePlan.asWritten` — a plan with the documents in it as they come back from a file.
* `ofJson_sorted` — **the plan is read back**, and `Printable` says which plans can be written.
-/

namespace Ros2Zephyr

/-! ## The document

The members and their order are those of the dictionary in the source.
-/

section Document

def Verdict.text : Verdict → PyStr
  | pass => "PASS"
  | fail => "FAIL"

/-- An integer or `None`. -/
def optionalInt : Option PyInteger → Json
  | some n => n.toJson
  | none => .null

/-- The size of a heap. -/
def heapSize (bytes : Option ℤ) : Json := optionalInt (bytes.map PyInteger.int)

def Check.toFields (c : Check) : Fields :=
  [("id", .str c.id), ("code", .str c.code), ("required", c.required.toJson),
    ("available", optionalInt c.available), ("status", .str c.status.text),
    ("detail", .str c.detail)]

def Reservation.toFields {α : Type} (size : α → Json) (r : Reservation α) : Fields :=
  [("name", .str r.name), ("bytes", size r.bytes), ("source", .str r.source)]

def bufferFields (buffers : List (PyStr × ℤ)) : Fields := buffers.map fun b => (b.1, .int b.2)

def WorkerPlan.toFields (w : WorkerPlan) : Fields :=
  [("workers", optionalInt w.workers), ("minimum_workers", w.minimumWorkers.toJson),
    ("maximum_workers", w.maximumWorkers.toJson)]

def Budgets.toFields (b : Budgets) : Fields :=
  [("flash_bytes", b.flashBytes.toJson), ("ram_bytes", b.ramBytes.toJson)]

def Planned.endpointFields (p : Planned) : Fields :=
  [("required", .int p.localEndpoints), ("capacity", p.localCapacity)]

def Planned.applicationFields (p : Planned) : Fields :=
  [("static_reserve_bytes", p.staticReserveBytes.toJson)]

def Planned.toFields (p : Planned) : Fields :=
  [("local_endpoint_resources", .obj p.endpointFields),
    ("remote_discovery_bounds", .obj p.remoteDiscoveryBounds),
    ("thread_stacks", .arr (p.threadStacks.map fun r => .obj (r.toFields Json.int))),
    ("static_buffers", .obj (bufferFields p.staticBuffers)),
    ("heap_backing", .arr (p.heapBacking.map fun r => .obj (r.toFields heapSize))),
    ("middleware_reservations", .obj p.middleware.toFields),
    ("application_reservations", .obj p.applicationFields),
    ("known_ram_slices_bytes", .int p.knownRamSlicesBytes)]

/-- The dictionary that `build_prelink_plan` returns. -/
def ResourcePlan.toFields (plan : ResourcePlan) : Fields :=
  [("schema_version", .int 1), ("status", .str plan.status.text), ("target", .str plan.target),
    ("backend", .str plan.backend), ("ddsrt_sync", .str plan.ddsrtSync),
    ("deployment", plan.deployment.getD .null),
    ("budgets", .obj plan.budgets.toFields),
    ("planned", .obj plan.planned.toFields),
    ("checks", .arr (plan.checks.map fun c => .obj c.toFields))]

end Document

/-! ## The reading

The verify command reads members as it needs them.  Here the plan is read as a whole.
-/

section Reading

/-- A member that is an integer. -/
def integerMember (value : Json) (key : PyStr) : Option PyInteger :=
  (value.field key).bind Json.asPyInt

def readOptionalInt : Json → Option (Option PyInteger)
  | .null => some none
  | value => value.asPyInt.map some

/-- A number of bytes. -/
def readSize (value : Json) : Option ℤ := value.asPyInt.map PyInteger.value

/-- The size of a heap, which may be open. -/
def readHeapSize (value : Json) : Option (Option ℤ) :=
  (readOptionalInt value).map (Option.map PyInteger.value)

def Verdict.ofText (text : PyStr) : Option Verdict :=
  if text = pass.text then some .pass else if text = fail.text then some .fail else none

def Check.ofJson (value : Json) : Option Check := do
  let id ← value.text "id"
  let code ← value.text "code"
  let required ← integerMember value "required"
  let available ← (value.field "available").bind readOptionalInt
  let status ← (value.text "status").bind Verdict.ofText
  let detail ← value.text "detail"
  some ⟨id, code, required, available, status, detail⟩

def Reservation.ofJson {α : Type} (size : Json → Option α) (value : Json) :
    Option (Reservation α) := do
  let name ← value.text "name"
  let bytes ← (value.field "bytes").bind size
  let source ← value.text "source"
  some ⟨name, bytes, source⟩

def readBuffer (field : PyStr × Json) : Option (PyStr × ℤ) := (readSize field.2).map (field.1, ·)

/-- The items of a list, if all of them can be read. -/
def readItems {α : Type} (read : Json → Option α) (value : Json) : Option (List α) :=
  value.asArray.bind fun items => items.mapM read

def WorkerPlan.ofJson (value : Json) : Option WorkerPlan := do
  let workers ← (value.field "workers").bind readOptionalInt
  let minimum ← integerMember value "minimum_workers"
  let maximum ← integerMember value "maximum_workers"
  some ⟨workers, minimum, maximum⟩

def Planned.ofJson (value : Json) : Option Planned := do
  let endpoints ← value.field "local_endpoint_resources"
  let required ← endpoints.natural "required"
  let capacity ← endpoints.field "capacity"
  let remote ← (value.field "remote_discovery_bounds").bind Json.asFields
  let threadStacks ← (value.field "thread_stacks").bind (readItems (Reservation.ofJson readSize))
  let buffers ← ((value.field "static_buffers").bind Json.asFields).bind fun b => b.mapM readBuffer
  let heaps ← (value.field "heap_backing").bind (readItems (Reservation.ofJson readHeapSize))
  let middleware ← (value.field "middleware_reservations").bind WorkerPlan.ofJson
  let reserve ← (value.field "application_reservations").bind
    fun application => integerMember application "static_reserve_bytes"
  let known ← (value.field "known_ram_slices_bytes").bind readSize
  some ⟨required, capacity, remote, threadStacks, buffers, heaps, middleware, reserve, known⟩

def Budgets.ofJson (value : Json) : Option Budgets := do
  let flash ← integerMember value "flash_bytes"
  let ram ← integerMember value "ram_bytes"
  some ⟨flash, ram⟩

/-- The plan of a document, if the document has the members of one. -/
def ResourcePlan.ofJson (value : Json) : Option ResourcePlan := do
  let status ← (value.text "status").bind Verdict.ofText
  let target ← value.text "target"
  let backend ← value.text "backend"
  let ddsrtSync ← value.text "ddsrt_sync"
  let deployment ← value.field "deployment"
  let budgets ← (value.field "budgets").bind Budgets.ofJson
  let planned ← (value.field "planned").bind Planned.ofJson
  let checks ← (value.field "checks").bind (readItems Check.ofJson)
  some ⟨status, target, backend, ddsrtSync, some deployment, budgets, planned, checks⟩

end Reading

/-! ## What comes back

Each record is read back from its sorted document, from the inside out.
-/

section ReadBack

/-- A plan with the documents in it as they come back from a file. -/
def ResourcePlan.asWritten (plan : ResourcePlan) : ResourcePlan :=
  { plan with
    deployment := some (plan.deployment.getD .null).sorted
    planned := { plan.planned with
      localCapacity := plan.planned.localCapacity.sorted
      remoteDiscoveryBounds := Fields.sorted plan.planned.remoteDiscoveryBounds
      staticBuffers := plan.planned.staticBuffers.insertionSort fun a b => a.1 ≤ b.1 } }

/-- A member of a sorted object. -/
lemma field_sorted {fields : Fields} (h : (fields.map Prod.fst).Nodup) (key : PyStr) :
    (Json.sorted (.obj fields)).field key = (fields.member key).map Json.sorted := by
  rw [Json.sorted_obj, Json.field, Fields.member_sorted h]

@[simp] lemma sorted_str (s : PyStr) : Json.sorted (.str s) = .str s := rfl
@[simp] lemma sorted_int (n : ℤ) : Json.sorted (.int n) = .int n := rfl

@[simp] lemma sorted_toJson (n : PyInteger) : n.toJson.sorted = n.toJson := by
  cases n <;> rfl

@[simp] lemma sorted_optionalInt (n : Option PyInteger) :
    Json.sorted (optionalInt n) = optionalInt n := by
  cases n with
  | none => rfl
  | some n => exact sorted_toJson n

@[simp] lemma readOptionalInt_optionalInt (n : Option PyInteger) :
    readOptionalInt (optionalInt n) = some n := by
  cases n with
  | none => rfl
  | some n => cases n <;> rfl

@[simp] lemma ofText_text (v : Verdict) : Verdict.ofText v.text = some v := by
  cases v <;> rfl

lemma ofJson_check (c : Check) : Check.ofJson (Json.sorted (.obj c.toFields)) = some c := by
  have hkeys : (c.toFields.map Prod.fst).Nodup :=
    (by decide : (["id", "code", "required", "available", "status", "detail"] : List PyStr).Nodup)
  have hid : c.toFields.member "id" = some (.str c.id) := rfl
  have hcode : c.toFields.member "code" = some (.str c.code) := rfl
  have hrequired : c.toFields.member "required" = some c.required.toJson := rfl
  have havailable : c.toFields.member "available" = some (optionalInt c.available) := rfl
  have hstatus : c.toFields.member "status" = some (.str c.status.text) := rfl
  have hdetail : c.toFields.member "detail" = some (.str c.detail) := rfl
  simp [Check.ofJson, Json.text, integerMember, field_sorted hkeys, hid, hcode, hrequired,
    havailable,
    hstatus, hdetail, Json.asStr]

lemma ofJson_reservation {α : Type} {size : α → Json} {read : Json → Option α}
    (h : ∀ a, read (Json.sorted (size a)) = some a) (r : Reservation α) :
    Reservation.ofJson read (Json.sorted (.obj (r.toFields size))) = some r := by
  have hkeys : ((r.toFields size).map Prod.fst).Nodup :=
    (by decide : (["name", "bytes", "source"] : List PyStr).Nodup)
  have hname : (r.toFields size).member "name" = some (.str r.name) := rfl
  have hbytes : (r.toFields size).member "bytes" = some (size r.bytes) := rfl
  have hsource : (r.toFields size).member "source" = some (.str r.source) := rfl
  simp [Reservation.ofJson, Json.text, field_sorted hkeys, hname, hbytes, hsource, Json.asStr, h]

/-- A list of records, each of which is read back. -/
lemma readItems_sorted {α : Type} {write : α → Json} {read : Json → Option α}
    (h : ∀ a, read (Json.sorted (write a)) = some a) (l : List α) :
    readItems read (Json.sorted (.arr (l.map write))) = some l := by
  rw [Json.sorted_arr, readItems, Json.asArray, Option.bind_some, List.map_map]
  induction l with
  | nil => rfl
  | cons a l ih => simp [h, ih]

/-- The buffers are a dictionary themselves and come back in the order of their keys. -/
lemma readBuffers_sorted (buffers : List (PyStr × ℤ)) :
    (Fields.sorted (bufferFields buffers)).mapM readBuffer
      = some (buffers.insertionSort fun a b => a.1 ≤ b.1) := by
  have hsorted : Fields.sorted (bufferFields buffers)
      = bufferFields (buffers.insertionSort fun a b => a.1 ≤ b.1) := by
    rw [Fields.sorted, Json.sortedFields_eq, bufferFields, List.map_map]
    exact Json.insertionSort_map_keys buffers fun b => Json.int b.2
  have hread : ∀ l, (bufferFields l).mapM readBuffer = some l := by
    intro l
    induction l with
    | nil => rfl
    | cons b l ih =>
        rw [bufferFields, List.map_cons, List.mapM_cons, ← bufferFields, ih]
        rfl
  rw [hsorted, hread]

lemma ofJson_workers (w : WorkerPlan) :
    WorkerPlan.ofJson (Json.sorted (.obj w.toFields)) = some w := by
  have hkeys : (w.toFields.map Prod.fst).Nodup :=
    (by decide : (["workers", "minimum_workers", "maximum_workers"] : List PyStr).Nodup)
  have hworkers : w.toFields.member "workers" = some (optionalInt w.workers) := rfl
  have hminimum : w.toFields.member "minimum_workers" = some w.minimumWorkers.toJson := rfl
  have hmaximum : w.toFields.member "maximum_workers" = some w.maximumWorkers.toJson := rfl
  simp [WorkerPlan.ofJson, integerMember, field_sorted hkeys, hworkers, hminimum, hmaximum]

lemma ofJson_budgets (b : Budgets) : Budgets.ofJson (Json.sorted (.obj b.toFields)) = some b := by
  have hkeys : (b.toFields.map Prod.fst).Nodup :=
    (by decide : (["flash_bytes", "ram_bytes"] : List PyStr).Nodup)
  have hflash : b.toFields.member "flash_bytes" = some b.flashBytes.toJson := rfl
  have hram : b.toFields.member "ram_bytes" = some b.ramBytes.toJson := rfl
  simp [Budgets.ofJson, integerMember, field_sorted hkeys, hflash, hram]

/-- The planned part is read back, but for the order of the members in what was copied from the
documents. -/
lemma ofJson_planned (p : Planned) :
    Planned.ofJson (Json.sorted (.obj p.toFields)) = some { p with
      localCapacity := p.localCapacity.sorted
      remoteDiscoveryBounds := Fields.sorted p.remoteDiscoveryBounds
      staticBuffers := p.staticBuffers.insertionSort fun a b => a.1 ≤ b.1 } := by
  have hkeys : (p.toFields.map Prod.fst).Nodup :=
    (by decide : (["local_endpoint_resources", "remote_discovery_bounds", "thread_stacks",
      "static_buffers", "heap_backing", "middleware_reservations", "application_reservations",
      "known_ram_slices_bytes"] : List PyStr).Nodup)
  have hendpoints :
      p.toFields.member "local_endpoint_resources" = some (.obj p.endpointFields) := rfl
  have hremote : p.toFields.member "remote_discovery_bounds"
      = some (.obj p.remoteDiscoveryBounds) := rfl
  have hstacks : p.toFields.member "thread_stacks"
      = some (.arr (p.threadStacks.map fun r => .obj (r.toFields Json.int))) := rfl
  have hbuffers : p.toFields.member "static_buffers"
      = some (.obj (bufferFields p.staticBuffers)) := rfl
  have hheaps : p.toFields.member "heap_backing"
      = some (.arr (p.heapBacking.map fun r => .obj (r.toFields heapSize))) := rfl
  have hmiddleware : p.toFields.member "middleware_reservations"
      = some (.obj p.middleware.toFields) := rfl
  have happlication : p.toFields.member "application_reservations"
      = some (.obj p.applicationFields) := rfl
  have hknown : p.toFields.member "known_ram_slices_bytes"
      = some (.int p.knownRamSlicesBytes) := rfl
  -- the two small records
  have hkeys₁ : (p.endpointFields.map Prod.fst).Nodup :=
    (by decide : (["required", "capacity"] : List PyStr).Nodup)
  have hrequired : p.endpointFields.member "required" = some (.int p.localEndpoints) := rfl
  have hcapacity : p.endpointFields.member "capacity" = some p.localCapacity := rfl
  have hkeys₂ : (p.applicationFields.map Prod.fst).Nodup :=
    (by decide : (["static_reserve_bytes"] : List PyStr).Nodup)
  have hreserve : p.applicationFields.member "static_reserve_bytes"
      = some p.staticReserveBytes.toJson := rfl
  have hstack : ∀ n, readSize (Json.sorted (Json.int n)) = some n := fun _ => rfl
  have hheap : ∀ n, readHeapSize (Json.sorted (heapSize n)) = some n := by
    intro n
    rw [heapSize, sorted_optionalInt, readHeapSize, readOptionalInt_optionalInt, Option.map_some,
      map_value_int]
  have hreadStacks := readItems_sorted (ofJson_reservation hstack) p.threadStacks
  have hreadHeaps := readItems_sorted (ofJson_reservation hheap) p.heapBacking
  simp only [Planned.ofJson, field_sorted hkeys, hendpoints, hremote, hstacks, hbuffers, hheaps,
    hmiddleware, happlication, hknown, integerMember, Option.map_some, Option.bind_some,
    Json.natural, field_sorted hkeys₁, field_sorted hkeys₂, hrequired, hcapacity, hreserve,
    sorted_int, sorted_toJson, Json.asPyInt_toJson, hreadStacks, hreadHeaps, ofJson_workers,
    Json.sorted_obj (bufferFields _), Json.sorted_obj p.remoteDiscoveryBounds, Json.asFields,
    readBuffers_sorted, bind]
  rfl

/-- **The plan is read back** from the sorted document. -/
theorem ofJson_sorted (plan : ResourcePlan) :
    ResourcePlan.ofJson (Json.sorted (.obj plan.toFields)) = some plan.asWritten := by
  have hkeys : (plan.toFields.map Prod.fst).Nodup :=
    (by decide : (["schema_version", "status", "target", "backend", "ddsrt_sync", "deployment",
      "budgets", "planned", "checks"] : List PyStr).Nodup)
  have hstatus : plan.toFields.member "status" = some (.str plan.status.text) := rfl
  have htarget : plan.toFields.member "target" = some (.str plan.target) := rfl
  have hbackend : plan.toFields.member "backend" = some (.str plan.backend) := rfl
  have hsync : plan.toFields.member "ddsrt_sync" = some (.str plan.ddsrtSync) := rfl
  have hdeployment : plan.toFields.member "deployment" = some (plan.deployment.getD .null) := rfl
  have hbudgets : plan.toFields.member "budgets" = some (.obj plan.budgets.toFields) := rfl
  have hplanned : plan.toFields.member "planned" = some (.obj plan.planned.toFields) := rfl
  have hchecks : plan.toFields.member "checks"
      = some (.arr (plan.checks.map fun c => .obj c.toFields)) := rfl
  simp only [ResourcePlan.ofJson, Json.text, field_sorted hkeys, hstatus, htarget, hbackend, hsync,
    hdeployment, hbudgets, hplanned, hchecks, Option.map_some, Option.bind_some, sorted_str,
    Json.asStr, ofText_text, ofJson_budgets, ofJson_planned, readItems_sorted ofJson_check, bind]
  rfl

end ReadBack

/-! ## Which plans can be written

`json.dumps` writes any plan whose integers Python can print; that it is also read back takes the
texts and keys to be readable.
-/

section Printable

open Json

/-- The integers that the planner itself puts into a plan; the documents in it were read from a
text. -/
def ResourcePlan.integers (plan : ResourcePlan) : List ℤ :=
  [plan.budgets.flashBytes.value, plan.budgets.ramBytes.value, plan.planned.localEndpoints,
    plan.planned.middleware.minimumWorkers.value, plan.planned.middleware.maximumWorkers.value,
    plan.planned.staticReserveBytes.value, plan.planned.knownRamSlicesBytes]
  ++ (plan.planned.middleware.workers.toList.map PyInteger.value
  ++ (plan.planned.threadStacks.map Reservation.bytes
  ++ (plan.planned.heapBacking.filterMap Reservation.bytes
  ++ (plan.planned.staticBuffers.map Prod.snd
  ++ plan.checks.flatMap fun c =>
      c.required.value :: c.available.toList.map PyInteger.value))))

/-- A plan whose texts can be read back and whose integers can be converted. -/
structure ResourcePlan.Printable (codec : FloatCodec) (plan : ResourcePlan) : Prop where
  target : Readable plan.target
  backend : Readable plan.backend
  ddsrtSync : Readable plan.ddsrtSync
  deployment : ∀ v, plan.deployment = some v → WellRead codec v
  capacity : WellRead codec plan.planned.localCapacity
  remote : WellRead codec (.obj plan.planned.remoteDiscoveryBounds)
  threadStacks : ∀ r ∈ plan.planned.threadStacks, Ascii r.name ∧ Ascii r.source
  heaps : ∀ r ∈ plan.planned.heapBacking, Ascii r.name ∧ Ascii r.source
  buffers : (plan.planned.staticBuffers.map Prod.fst).Nodup
  bufferNames : ∀ b ∈ plan.planned.staticBuffers, Ascii b.1
  checks : ∀ c ∈ plan.checks, Ascii c.id ∧ Ascii c.code ∧ Ascii c.detail
  integers : ∀ n ∈ plan.integers, Convertible n

variable {codec : FloatCodec}

lemma wellRead_ascii {s : PyStr} (h : Ascii s) : WellRead codec (.str s) :=
  .str (readable_of_ascii h)

lemma wellRead_toJson {n : PyInteger} (h : Convertible n.value) : WellRead codec n.toJson := by
  cases n with
  | int n => exact .int h
  | bool b => exact .bool b

lemma wellRead_optionalInt {n : Option PyInteger} (h : ∀ m ∈ n.toList, Convertible m.value) :
    WellRead codec (optionalInt n) := by
  cases n with
  | none => exact .null
  | some m => exact wellRead_toJson (h m (by simp))

/-- A record with the given keys. -/
lemma wellRead_record {fields : Fields} (keys : List PyStr) (hkeys : fields.map Prod.fst = keys)
    (hnodup : keys.Nodup) (hascii : ∀ key ∈ keys, Ascii key)
    (h : ∀ f ∈ fields, WellRead codec f.2) : WellRead codec (.obj fields) := by
  refine .obj (hkeys ▸ hnodup) (fun f hf => readable_of_ascii (hascii _ ?_)) h
  rw [← hkeys]
  exact List.mem_map_of_mem hf

lemma wellRead_check {c : Check} (htext : Ascii c.id ∧ Ascii c.code ∧ Ascii c.detail)
    (h : Convertible c.required.value ∧ ∀ n ∈ c.available.toList, Convertible n.value) :
    WellRead codec (.obj c.toFields) := by
  have hstatus : Ascii c.status.text := by
    cases c.status <;> decide
  refine wellRead_record ["id", "code", "required", "available", "status", "detail"] rfl (by decide)
    (by decide) ?_
  simp only [Check.toFields, List.forall_mem_cons]
  exact ⟨wellRead_ascii htext.1, wellRead_ascii htext.2.1, wellRead_toJson h.1,
    wellRead_optionalInt h.2,
    wellRead_ascii hstatus, wellRead_ascii htext.2.2, by simp⟩

lemma wellRead_reservation {α : Type} {size : α → Json} {r : Reservation α}
    (htext : Ascii r.name ∧ Ascii r.source) (h : WellRead codec (size r.bytes)) :
    WellRead codec (.obj (r.toFields size)) := by
  refine wellRead_record ["name", "bytes", "source"] rfl (by decide) (by decide) ?_
  simp only [Reservation.toFields, List.forall_mem_cons]
  exact ⟨wellRead_ascii htext.1, h, wellRead_ascii htext.2, by simp⟩

variable {plan : ResourcePlan}

/-- The planned part of a printable plan is a document. -/
lemma wellRead_planned (h : plan.Printable codec) :
    WellRead codec (.obj plan.planned.toFields) := by
  have hints := h.integers
  simp only [ResourcePlan.integers, List.forall_mem_append, List.forall_mem_cons,
    List.forall_mem_map]
    at hints
  obtain ⟨⟨-, -, hlocal, hminimum, hmaximum, hreserve, hknown, -⟩, hworkers, hstacks, hheaps,
    hbuffers,
    -⟩ := hints
  refine wellRead_record ["local_endpoint_resources", "remote_discovery_bounds", "thread_stacks",
    "static_buffers", "heap_backing", "middleware_reservations", "application_reservations",
    "known_ram_slices_bytes"] rfl (by decide) (by decide) ?_
  simp only [Planned.toFields, List.forall_mem_cons]
  refine ⟨?_, h.remote, .arr ?_, ?_, .arr ?_, ?_, ?_, .int hknown, by simp⟩
  · refine wellRead_record ["required", "capacity"] rfl (by decide) (by decide) ?_
    simp only [Planned.endpointFields, List.forall_mem_cons]
    exact ⟨.int hlocal, h.capacity, by simp⟩
  · exact List.forall_mem_map.mpr fun r hr =>
      wellRead_reservation (h.threadStacks r hr) (.int (hstacks r hr))
  · have hkeys : (bufferFields plan.planned.staticBuffers).map Prod.fst
        = plan.planned.staticBuffers.map Prod.fst := by
      rw [bufferFields, List.map_map]
      rfl
    refine wellRead_record _ hkeys h.buffers (List.forall_mem_map.mpr h.bufferNames) ?_
    exact List.forall_mem_map.mpr fun b hb => .int (hbuffers b hb)
  · refine List.forall_mem_map.mpr fun r hr => wellRead_reservation (h.heaps r hr) ?_
    refine wellRead_optionalInt fun n hn => ?_
    obtain ⟨bytes, hbytes, rfl⟩ := Option.map_eq_some_iff.mp (Option.mem_toList.mp hn)
    exact hheaps bytes (List.mem_filterMap.mpr ⟨r, hr, hbytes⟩)
  · refine wellRead_record ["workers", "minimum_workers", "maximum_workers"] rfl (by decide)
      (by decide) ?_
    simp only [WorkerPlan.toFields, List.forall_mem_cons]
    exact ⟨wellRead_optionalInt hworkers, wellRead_toJson hminimum, wellRead_toJson hmaximum,
      by simp⟩
  · refine wellRead_record ["static_reserve_bytes"] rfl (by decide) (by decide) ?_
    simp only [Planned.applicationFields, List.forall_mem_cons]
    exact ⟨wellRead_toJson hreserve, by simp⟩

/-- **A printable plan is a document.** -/
theorem wellRead_plan (h : plan.Printable codec) : WellRead codec (.obj plan.toFields) := by
  have hints := h.integers
  simp only [ResourcePlan.integers, List.forall_mem_append, List.forall_mem_cons,
    List.forall_mem_flatMap, List.forall_mem_map] at hints
  obtain ⟨⟨hflash, hram, -⟩, -, -, -, -, hchecks⟩ := hints
  have hstatus : Ascii plan.status.text := by
    cases plan.status <;> decide
  refine wellRead_record ["schema_version", "status", "target", "backend", "ddsrt_sync",
    "deployment",
    "budgets", "planned", "checks"] rfl (by decide) (by decide) ?_
  simp only [ResourcePlan.toFields, List.forall_mem_cons]
  refine ⟨.int (by decide), wellRead_ascii hstatus, .str h.target, .str h.backend, .str h.ddsrtSync,
    ?_, ?_, wellRead_planned h, .arr ?_, by simp⟩
  · cases hdeployment : plan.deployment with
    | none => exact .null
    | some v => exact h.deployment v hdeployment
  · refine wellRead_record ["flash_bytes", "ram_bytes"] rfl (by decide) (by decide) ?_
    simp only [Budgets.toFields, List.forall_mem_cons]
    exact ⟨wellRead_toJson hflash, wellRead_toJson hram, by simp⟩
  · exact List.forall_mem_map.mpr fun c hc => wellRead_check (h.checks c hc) (hchecks c hc)

end Printable

end Ros2Zephyr
