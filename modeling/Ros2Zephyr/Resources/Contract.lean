import Ros2Zephyr.Deployment.Typed
import Ros2Zephyr.Resources.Plan

/-!
# The resource contract of a deployment

The member `resources` of an accepted deployment, as typed data.  The generators print it and the
planner checks it once more; both read the same numbers.

* `Contract.ofJson` — the reading, and `exists_contract`: every accepted deployment has one.
* `Contract.ReadFrom` — what a document with the contract contains.
-/

namespace Ros2Zephyr

/-- `deployment-plan.json`, which the compiler leaves for the planner. -/
def deploymentPlan (deployment capability : Fields) (backend : PyStr) : Fields :=
  [("schema_version", .int 2), ("backend", .str backend), ("deployment", .obj deployment),
    ("capability", .obj capability)]

/-- The bounds on what is discovered of other participants. -/
inductive RemoteKind
  | participants
  | nodes
  | endpoints
  deriving DecidableEq

def RemoteKind.name : RemoteKind → PyStr
  | participants => "participants"
  | nodes => "nodes"
  | endpoints => "endpoints"

structure Contract where
  localEndpoints : ℕ
  remote : RemoteKind → ℕ
  maximumWorkers : ℕ
  staticReserveBytes : ℕ
  targets : List (PyStr × Budgets)

def readBudget (target : PyStr × Json) : Option (PyStr × Budgets) := do
  let flash ← target.2.natural "flash_bytes"
  let ram ← target.2.natural "ram_bytes"
  some (target.1, ⟨.int flash, .int ram⟩)

/-- The reading of the member `resources`. -/
def Contract.ofJson (resources : Json) : Option Contract := do
  let localEndpoints ← resources.natural "local_endpoints"
  let remote ← resources.field "remote"
  let participants ← remote.natural RemoteKind.participants.name
  let nodes ← remote.natural RemoteKind.nodes.name
  let endpoints ← remote.natural RemoteKind.endpoints.name
  let workers ← resources.field "workers"
  let maximum ← workers.natural "maximum"
  let application ← resources.field "application"
  let reserve ← application.natural "static_reserve_bytes"
  let targets ← (resources.field "targets").bind Json.asFields
  let budgets ← targets.mapM readBudget
  some {
    localEndpoints := localEndpoints
    remote := fun
      | .participants => participants
      | .nodes => nodes
      | .endpoints => endpoints
    maximumWorkers := maximum
    staticReserveBytes := reserve
    targets := budgets }

/-- What a document with the contract contains. -/
structure Contract.ReadFrom (contract : Contract) (resources : Json) : Prop where
  localEndpoints : resources.field "local_endpoints" = some (.int contract.localEndpoints)
  remote : ∃ remote : Fields, resources.field "remote" = some (.obj remote) ∧
    ∀ kind, remote.member (RemoteKind.name kind) = some (.int (contract.remote kind))
  workers : ∃ workers : Fields, resources.field "workers" = some (.obj workers) ∧
    workers.member "maximum" = some (.int contract.maximumWorkers)
  application : ∃ application : Fields, resources.field "application" = some (.obj application) ∧
    application.member "static_reserve_bytes" = some (.int contract.staticReserveBytes)
  targets : ∃ targets : Fields, resources.field "targets" = some (.obj targets) ∧
    targets.mapM readBudget = some contract.targets

/-- A contract that was read stands in the document, member by member. -/
lemma Contract.readFrom_of_ofJson {contract : Contract} {resources : Json}
    (h : Contract.ofJson resources = some contract) : contract.ReadFrom resources := by
  obtain ⟨localEndpoints, hlocal, h⟩ := Option.bind_eq_some_iff.mp h
  obtain ⟨remote, hremote, h⟩ := Option.bind_eq_some_iff.mp h
  obtain ⟨participants, hparticipants, h⟩ := Option.bind_eq_some_iff.mp h
  obtain ⟨nodes, hnodes, h⟩ := Option.bind_eq_some_iff.mp h
  obtain ⟨endpoints, hendpoints, h⟩ := Option.bind_eq_some_iff.mp h
  obtain ⟨workers, hworkers, h⟩ := Option.bind_eq_some_iff.mp h
  obtain ⟨maximum, hmaximum, h⟩ := Option.bind_eq_some_iff.mp h
  obtain ⟨application, happlication, h⟩ := Option.bind_eq_some_iff.mp h
  obtain ⟨reserve, hreserve, h⟩ := Option.bind_eq_some_iff.mp h
  obtain ⟨targets, htargets, h⟩ := Option.bind_eq_some_iff.mp h
  obtain ⟨budgets, hbudgets, h⟩ := Option.bind_eq_some_iff.mp h
  cases h
  rw [Json.natural_eq_some] at hlocal hparticipants hnodes hendpoints hmaximum hreserve
  obtain ⟨value, hvalue, hfields⟩ := Option.bind_eq_some_iff.mp htargets
  refine ⟨hlocal, ?_, ?_, ?_, ?_⟩
  · obtain ⟨fields, rfl⟩ := Json.exists_obj_of_field hparticipants
    refine ⟨fields, hremote, fun kind => ?_⟩
    cases kind with
    | participants => exact hparticipants
    | nodes => exact hnodes
    | endpoints => exact hendpoints
  · obtain ⟨fields, rfl⟩ := Json.exists_obj_of_field hmaximum
    exact ⟨fields, hworkers, hmaximum⟩
  · obtain ⟨fields, rfl⟩ := Json.exists_obj_of_field hreserve
    exact ⟨fields, happlication, hreserve⟩
  · cases value with
    | obj fields =>
        cases hfields
        exact ⟨_, hvalue, hbudgets⟩
    | _ => cases hfields

lemma readBudget_eq_some {target : PyStr × Json} {read : PyStr × Budgets}
    (h : readBudget target = some read) : read.1 = target.1 ∧ ∃ fields : Fields,
      target.2 = .obj fields ∧ fields.member "flash_bytes" = some read.2.flashBytes.toJson ∧
        fields.member "ram_bytes" = some read.2.ramBytes.toJson := by
  obtain ⟨flash, hflash, h⟩ := Option.bind_eq_some_iff.mp h
  obtain ⟨ram, hram, h⟩ := Option.bind_eq_some_iff.mp h
  cases h
  rw [Json.natural_eq_some] at hflash hram
  obtain ⟨fields, hfields⟩ := Json.exists_obj_of_field hflash
  rw [hfields] at hflash hram
  exact ⟨rfl, fields, hfields, hflash, hram⟩

/-- The budget that the document declares for a target. -/
def DeclaredBudget (targets : Fields) (target : PyStr) : Option Budgets → Prop
  | none => targets.member target = none
  | some budget => ∃ fields : Fields, targets.member target = some (.obj fields) ∧
      fields.member "flash_bytes" = some budget.flashBytes.toJson ∧
      fields.member "ram_bytes" = some budget.ramBytes.toJson

/-- The budget of a target is looked up in the document as in the contract. -/
lemma declaredBudget_lookup {targets : Fields} {budgets : List (PyStr × Budgets)} (target : PyStr)
    (h : targets.mapM readBudget = some budgets) :
    DeclaredBudget targets target (budgets.lookup target) := by
  induction targets generalizing budgets with
  | nil =>
      cases h
      rfl
  | cons entry targets ih =>
      rw [List.mapM_cons] at h
      obtain ⟨read, hread, h⟩ := Option.bind_eq_some_iff.mp h
      obtain ⟨rest, hrest, h⟩ := Option.bind_eq_some_iff.mp h
      cases h
      obtain ⟨hname, fields, hvalue, hflash, hram⟩ := readBudget_eq_some hread
      obtain ⟨name, value⟩ := entry
      obtain ⟨name', budget⟩ := read
      simp only at hname hvalue
      subst hname hvalue
      by_cases htarget : target = name'
      · subst htarget
        simp only [DeclaredBudget, Fields.member, List.lookup_cons, beq_self_eq_true]
        exact ⟨fields, rfl, hflash, hram⟩
      · have hne : (target == name') = false := by simpa using htarget
        have hmember : Fields.member ((name', Json.obj fields) :: targets) target
            = Fields.member targets target := by
          simp only [Fields.member, List.lookup_cons, hne]
        simp only [List.lookup_cons, hne]
        unfold DeclaredBudget
        rw [hmember]
        exact ih hrest

section Accepted

variable {value : Json}

open JsonSchema

lemma natural_of_integer {key : PyStr} {bound : ℤ} {v : Json} (hfield : value.field key = some v)
    (hv : all [integerLiteral, minimum bound] v = true) (hbound : 0 ≤ bound) :
    ∃ n, value.natural key = some n := by
  obtain ⟨n, rfl, hn⟩ := integer_iff.mp hv
  obtain ⟨m, rfl⟩ := Int.eq_ofNat_of_zero_le (hbound.trans hn)
  exact ⟨m, Json.natural_eq_some.mpr hfield⟩

lemma exists_readBudget {target : PyStr × Json}
    (h : budgetSchema integerLiteral target.2 = true) : ∃ read, readBudget target = some read := by
  obtain ⟨v, hfield, hv⟩ := member_of_closedObject h 0 rfl (by decide)
  obtain ⟨flash, hflash⟩ := natural_of_integer hfield hv (by decide)
  obtain ⟨v, hfield, hv⟩ := member_of_closedObject h 1 rfl (by decide)
  obtain ⟨ram, hram⟩ := natural_of_integer hfield hv (by decide)
  exact ⟨(target.1, ⟨.int flash, .int ram⟩), by simp [readBudget, hflash, hram]⟩

lemma exists_readBudgets {targets : List (PyStr × Json)}
    (h : ∀ target ∈ targets, budgetSchema integerLiteral target.2 = true) :
    ∃ budgets, targets.mapM readBudget = some budgets := by
  induction targets with
  | nil => exact ⟨[], rfl⟩
  | cons target targets ih =>
      rw [List.forall_mem_cons] at h
      obtain ⟨read, hread⟩ := exists_readBudget h.1
      obtain ⟨budgets, hbudgets⟩ := ih h.2
      exact ⟨read :: budgets, by simp [hread, hbudgets]⟩

/-- The resources of an accepted deployment can be read. -/
lemma exists_ofJson (h : resourcesSchema integerLiteral value = true) :
    ∃ contract, Contract.ofJson value = some contract := by
  obtain ⟨v, hfield, hv⟩ := member_of_closedObject h 0 rfl (by decide)
  obtain ⟨localEndpoints, hlocal⟩ := natural_of_integer hfield hv le_rfl
  obtain ⟨remote, hremote, hschema⟩ := member_of_closedObject h 1 rfl (by decide)
  obtain ⟨v, hfield, hv⟩ := member_of_closedObject hschema 0 rfl (by decide)
  obtain ⟨participants, hparticipants⟩ := natural_of_integer hfield hv le_rfl
  obtain ⟨v, hfield, hv⟩ := member_of_closedObject hschema 1 rfl (by decide)
  obtain ⟨nodes, hnodes⟩ := natural_of_integer hfield hv le_rfl
  obtain ⟨v, hfield, hv⟩ := member_of_closedObject hschema 2 rfl (by decide)
  obtain ⟨endpoints, hendpoints⟩ := natural_of_integer hfield hv le_rfl
  obtain ⟨workers, hworkers, hschema⟩ := member_of_closedObject h 2 rfl (by decide)
  obtain ⟨v, hfield, hv⟩ := member_of_closedObject hschema 0 rfl (by decide)
  obtain ⟨maximum, hmaximum⟩ := natural_of_integer hfield hv (by decide)
  obtain ⟨application, happlication, hschema⟩ := member_of_closedObject h 3 rfl (by decide)
  obtain ⟨v, hfield, hv⟩ := member_of_closedObject hschema 0 rfl (by decide)
  obtain ⟨reserve, hreserve⟩ := natural_of_integer hfield hv le_rfl
  obtain ⟨v, htargets, hschema⟩ := member_of_closedObject h 4 rfl (by decide)
  obtain ⟨targets, rfl, -, hbudgets⟩ := targetsSchema_iff.mp hschema
  obtain ⟨budgets, hread⟩ := exists_readBudgets hbudgets
  refine Option.isSome_iff_exists.mp ?_
  simp only [Contract.ofJson, hlocal, hremote, RemoteKind.name, hparticipants, hnodes, hendpoints,
    hworkers, hmaximum, happlication, hreserve, htargets, Option.bind_some, Json.asFields, hread,
    bind, Option.isSome_some]

/-- **Accepted deployments have a contract**, and their endpoints fit it. -/
theorem exists_contract {repr : PyStr → PyStr} {fields result : Fields}
    (h : validateDeployment repr fields = .ok result) :
    ∃ (resources : Fields) (endpoints : List Json) (contract : Contract),
      fields.member "resources" = some (.obj resources) ∧
      fields.member "endpoints" = some (.arr endpoints) ∧
      Contract.ofJson (.obj resources) = some contract ∧
      endpoints.length ≤ contract.localEndpoints := by
  obtain ⟨⟨hformat, hrules⟩, -⟩ := (checks_validateDeployment.ok_iff result).mp h
  obtain ⟨v, hendpoints, hv⟩ := member_of_closedObject hformat 7 rfl (by decide)
  obtain ⟨endpoints, rfl, -⟩ := array_iff.mp hv
  obtain ⟨v, hresources, hv⟩ := member_of_closedObject hformat 8 rfl (by decide)
  obtain ⟨contract, hcontract⟩ := exists_ofJson hv
  obtain ⟨resources, rfl, -⟩ := closedObject_iff.mp hv
  have hlocal := (Contract.readFrom_of_ofJson hcontract).localEndpoints
  have hfits := hrules.capacity endpoints _ hendpoints hresources _ hlocal
  exact ⟨resources, endpoints, contract, hresources, hendpoints, hcontract, by exact_mod_cast hfits⟩

end Accepted

end Ros2Zephyr
